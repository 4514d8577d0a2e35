set_option autoImplicit false

namespace QueryBridge

inductive FileFault where
  | missing
  | isDirectory
  | throughFile
  | undecodable
  deriving DecidableEq, Repr

namespace FileFault

def message : FileFault → String
  | missing => "No such file or directory (os error 2)"
  | isDirectory => "Is a directory (os error 21)"
  | throughFile => "Not a directory (os error 20)"
  | undecodable => "stream did not contain valid UTF-8"

def isAbsence : FileFault → Bool
  | missing | throughFile => true
  | isDirectory | undecodable => false

end FileFault

structure FileAccess (m : Type → Type) where
  read : String → m (Except FileFault String)
  /-- Makes or replaces a file; its directory has to exist. -/
  write : String → String → m (Except FileFault Unit)

def FileAccess.exists? {m : Type → Type} [Monad m] (files : FileAccess m) (path : String) : m Bool := do
  match ← files.read path with
  | .ok _ => return true
  | .error fault => return !fault.isAbsence

/-- The components of an absolute path. -/
abbrev Place := List String

structure FileTree where
  files : List (Place × String)
  /-- Where relative paths start. -/
  current : Place

namespace FileTree

def components : List Char → List (List Char)
  | [] => [[]]
  | c :: rest =>
    if c = '/' then [] :: components rest
    else
      match components rest with
      | [] => [[c]]
      | part :: parts => (c :: part) :: parts

def isDirectory (t : FileTree) (p : Place) : Bool :=
  p.isPrefixOf t.current || t.files.any fun f => p.isPrefixOf f.1 && p != f.1

def fault (t : FileTree) (p : Place) : FileFault :=
  if (t.files.lookup p).isSome then .throughFile else .missing

def step (t : FileTree) (p : Place) (component : List Char) : Except FileFault Place :=
  if !t.isDirectory p then .error (t.fault p)
  else if component = [] || component = ['.'] then .ok p
  else if component = ['.', '.'] then .ok p.dropLast
  else .ok (p ++ [String.ofList component])

def place (t : FileTree) (path : String) : Except FileFault Place :=
  match path.toList with
  | [] => .error .missing
  | '/' :: rest => (components rest).foldlM t.step []
  | s => (components s).foldlM t.step t.current

def read (t : FileTree) (path : String) : Except FileFault String := do
  let p ← t.place path
  match t.files.lookup p with
  | some text => .ok text
  | none => .error (if t.isDirectory p then .isDirectory else .missing)

def put (p : Place) (text : String) : List (Place × String) → List (Place × String)
  | [] => [(p, text)]
  | f :: rest => if f.1 = p then (p, text) :: rest else f :: put p text rest

def write (t : FileTree) (path text : String) : Except FileFault FileTree := do
  let p ← t.place path
  if t.isDirectory p then .error .isDirectory else
  .ok { t with files := put p text t.files }

def access {m : Type → Type} [Monad m] [MonadStateOf FileTree m] : FileAccess m where
  read path := return (← get).read path
  write path text := do
    match (← get).write path text with
    | .ok t => set t; return .ok ()
    | .error fault => return .error fault

end FileTree

end QueryBridge
