set_option autoImplicit false

namespace QueryBridge.Text

def someSuffix (accepts : List Char → Bool) : List Char → Bool
  | [] => accepts []
  | c :: rest => accepts (c :: rest) || someSuffix accepts rest

def matchesChars : List Char → List Char → Bool
  | [], s => s.isEmpty
  | '%' :: pattern, s => someSuffix (matchesChars pattern) s
  | '_' :: pattern, _ :: s => matchesChars pattern s
  | p :: pattern, c :: s => p.toLower == c.toLower && matchesChars pattern s
  | _ :: _, [] => false

def matchesPattern (pattern s : String) : Bool := matchesChars pattern.toList s.toList

def occursIn (sought : List Char) : List Char → Bool
  | [] => sought.isEmpty
  | c :: rest => sought.isPrefixOf (c :: rest) || occursIn sought rest

def contains (s sought : String) : Bool := occursIn sought.toList s.toList

end QueryBridge.Text
