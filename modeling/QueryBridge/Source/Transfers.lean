import QueryBridge.Source.Tables

set_option autoImplicit false

namespace QueryBridge.Source.Reader

variable (d : Dialect) (g : Deeper)

def literalChar : Reader String := do
  let text ← literalText d
  if text.utf8ByteSize = 1 then return "'" ++ text ++ "'" else refuse

def switched (key : String) : Reader String := do
  match ← oneOf ["TRUE", "FALSE"] with
  | some "FALSE" => return key ++ " FALSE"
  | _ => return key

def copyOption : Reader String := do
  match ← needOneOf ["FORMAT", "FREEZE", "DELIMITER", "NULL", "HEADER", "QUOTE", "ESCAPE", "FORCE_QUOTE",
    "FORCE_NOT_NULL", "FORCE_NULL", "ENCODING"] with
  | "FORMAT" => return "FORMAT " ++ (← name).render
  | "FREEZE" => switched "FREEZE"
  | "HEADER" => switched "HEADER"
  | "NULL" => return "NULL " ++ marked '\'' (← literalText d)
  | "ENCODING" => return "ENCODING " ++ marked '\'' (← literalText d)
  | "DELIMITER" => return "DELIMITER " ++ (← literalChar d)
  | "QUOTE" => return "QUOTE " ++ (← literalChar d)
  | "ESCAPE" => return "ESCAPE " ++ (← literalChar d)
  | key => return key ++ " " ++ inParens (identList (← nameList d))

def csvOption : Reader String := do
  match ← needOneOf ["HEADER", "QUOTE", "ESCAPE", "FORCE"] with
  | "HEADER" => return "HEADER"
  | "FORCE" =>
    let key ← if ← words ["NOT", "NULL"] then pure "FORCE NOT NULL" else needWord "QUOTE"; pure "FORCE QUOTE"
    return key ++ " " ++ identList (← list d name)
  | key =>
    let _ ← word "AS"
    return key ++ " " ++ (← literalChar d)

def plainCopyOption : Reader String := do
  match ← needOneOf ["BINARY", "DELIMITER", "NULL", "CSV"] with
  | "BINARY" => return "BINARY"
  | "CSV" => return spaceJoin ("CSV" :: (← many (attempt (csvOption d))))
  | "NULL" =>
    let _ ← word "AS"
    return "NULL " ++ marked '\'' (← literalText d)
  | key =>
    let _ ← word "AS"
    return key ++ " " ++ (← literalChar d)

def copyFile : Reader String := do
  match ← oneOf ["STDIN", "STDOUT", "PROGRAM"] with
  | some "PROGRAM" => return "PROGRAM " ++ marked '\'' (← literalText d)
  | some key => return key
  | none => return marked '\'' (← literalText d)

/-- A COPY behind its first keyword. Rows that come along with the statement are not read. -/
def copy : Reader String := do
  let queried ← symbol "("
  let source ← if queried then
      let q ← g.query
      needSymbol ")"
      pure (some (inParens q.render))
    else
      let table ← pathText d false
      pure (some (spaced [table, ← columns? d]))
  let way ← needOneOf ["FROM", "TO"]
  if queried && way = "FROM" then refuse
  let file ← copyFile d
  let _ ← word "WITH"
  let options ← if ← isNext "(" then
      pure (some (inParens (commaJoin (← parenthesized (list d (copyOption d))))))
    else pure none
  let plain ← many (attempt (plainCopyOption d))
  if file = "STDIN" then
    needSymbol ";"
    if (← peek).isSome then refuse
  return spaced ([some "COPY", source, some way, some file, options] ++ plain.map some)

def unload : Reader String := do
  let q ← parenthesized g.query
  needWord "TO"
  let target ← name
  return spaced [some ("UNLOAD" ++ inParens q.render), some ("TO " ++ target.render), ← settings? d g "WITH"]

/-- A part of the path of a stage, which blanks, points and parentheses end. -/
def stagePart : Reader String := do
  let pieces ← many do
    match (← get).head? with
    | some ⟨.symbol text, false⟩ =>
      if text ∈ [".", ")"] then return none
      if text ∉ ["@", "~", "%", "/"] then refuse
      skip 1
      return some text
    | some ⟨.word n, false⟩ => skip 1; return some n.text
    | some ⟨_, false⟩ => refuse
    | _ => return none
  return String.join pieces

def stagePath : Reader String := do
  if !(← symbol "@") then return dotted (← path d false)
  let first ← stagePart
  let more ← many (do if ← symbol "." then some <$> stagePart else return none)
  return "@" ++ ".".intercalate (first :: more)

def loadingOptions : Reader String := do
  let option : Reader (Option String) := do
    if ← isNext ")" then return none
    let key ← wordText
    needSymbol "="
    match ← next with
    | .word n => return some (key ++ "=" ++ if n.key ∈ ["TRUE", "FALSE"] then n.key else n.text)
    | .string (.plain '\'') text => return some (key ++ "='" ++ text ++ "'")
    | _ => refuse
  spaceJoin <$> parenthesized (many option)

def loading? (key : String) : Reader (Option String) := do
  let text? ← whenWord key do
    needSymbol "="
    loadingOptions
  return (text?.filter (· ≠ "")).map fun text => key ++ "=" ++ inParens text

def stageParams : Reader (List (Option String)) := do
  let quoted (key : String) : Reader (Option String) := whenWord key do
    needSymbol "="
    return key ++ "='" ++ (← quotedText) ++ "'"
  let place ← quoted "URL"
  let integration ← whenWord "STORAGE_INTEGRATION" do
    needSymbol "="
    return "STORAGE_INTEGRATION=" ++ (← name).verbatim
  let endpoint ← quoted "ENDPOINT"
  return [place, integration, endpoint, ← loading? "CREDENTIALS", ← loading? "ENCRYPTION"]

def createStage (head : String) : Reader String := do
  let guard? ← unlessExists?
  let name ← pathText d false
  let params ← stageParams
  let directory ← loading? "DIRECTORY"
  let format ← loading? "FILE_FORMAT"
  let options ← loading? "COPY_OPTIONS"
  let note ← whenWord "COMMENT" do
    needSymbol "="
    return "COMMENT='" ++ (← quotedText) ++ "'"
  return spaced ([some head, some "STAGE", guard?, name] ++ params ++ [directory, format, options, note])

def stagedColumn : Reader String := do
  let label ← match ← peek with
    | some (.word n) =>
      skip 1
      needSymbol "."
      pure (n.text ++ ".")
    | _ => pure ""
  let column ← match ← next with
    | .placeholder text =>
      let digits := text.toList.drop 1
      if digits.isEmpty || !digits.all Char.isDigit || Decimal.natOfDigits digits ≥ Decimal.twoTo 31 then refuse
      pure ("$" ++ toString (Decimal.natOfDigits digits))
    | _ => refuse
  let element ← if ← symbol ":" then pure (":" ++ (← wordText)) else pure ""
  let alias? ← whenWord "AS" do return "AS " ++ (← wordText)
  return label ++ column ++ element ++ behindBlank alias?

def copyInto : Reader String := do
  let target ← stagePath d
  needWord "FROM"
  let staged : Reader String := do
    let stage ← stagePath d
    let params ← stageParams
    let alias? ← whenWord "AS" do return "AS " ++ (← wordText)
    return spaced (some stage :: params ++ [alias?])
  let source ← if ← symbol "(" then
      needWord "SELECT"
      let columns ← listOf (fun _ => false) stagedColumn
      needWord "FROM"
      let text := "SELECT " ++ commaJoin columns ++ " FROM " ++ (← staged)
      needSymbol ")"
      pure (inParens text)
    else staged
  let files ← whenWord "FILES" do
    needSymbol "="
    return "FILES = ('" ++ "', '".intercalate (← parenthesized (listOf (fun _ => false) quotedText)) ++ "')"
  let pattern ← whenWord "PATTERN" do
    needSymbol "="
    return "PATTERN = '" ++ (← quotedText) ++ "'"
  let format ← loading? "FILE_FORMAT"
  let options ← loading? "COPY_OPTIONS"
  let mode ← whenWord "VALIDATION_MODE" do
    needSymbol "="
    return "VALIDATION_MODE = " ++ (← name).verbatim
  return spaced [some "COPY INTO", some target, some "FROM", some source, files, pattern, format, options, mode]

end QueryBridge.Source.Reader
