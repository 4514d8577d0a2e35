import QueryBridge.Text.Class
import QueryBridge.Text.Quoted

set_option autoImplicit false

namespace QueryBridge

inductive SettingsError where
  | fileNotFound (path : String)
  | unreadFile (cause : String)
  | unparsable
  | missingVariable (name : String)
  | unsupportedBackend (name : String)
  | invalid (detail : String)
  deriving DecidableEq, Repr

def SettingsError.message : SettingsError → String
  | fileNotFound path => "Config file not found: " ++ path
  | unreadFile cause => "Failed to read config file: " ++ cause
  | unparsable => "Failed to parse config file: the text is no settings document"
  | missingVariable name => "Missing environment variable: " ++ name
  | unsupportedBackend name =>
    s!"Unsupported backend: {name}. Supported: bigquery, postgres, couchbase, duckdb, snowflake, sqlite"
  | invalid detail => "Invalid configuration: " ++ detail

abbrev Environment := String → Option String

inductive Segment where
  | char (c : Char)
  | reference (name : List Char)
  /-- A reference in braces, closed or cut off by the end of the text. -/
  | braced (name : List Char)
  deriving DecidableEq, Repr

namespace Segment

def isNameChar (c : Char) : Bool := Text.isAlphanumeric c || c == '_'

/-- Where the scan stands: in plain text, after a dollar sign, in a name, in braces. -/
inductive Mode where
  | plain
  | dollar
  | named (name : List Char)
  | inBraces (name : List Char)

def Mode.finish : Mode → List Segment
  | plain => []
  | dollar => [.char '$']
  | named name => [.reference name.reverse]
  | inBraces name => [.braced name.reverse]

def scanPlain (c : Char) : Mode × List Segment :=
  if c = '$' then (.dollar, []) else (.plain, [.char c])

def scanChar (mode : Mode) (c : Char) : Mode × List Segment :=
  match mode with
  | .plain => scanPlain c
  | .dollar =>
    if c = '{' then (.inBraces [], [])
    else if isNameChar c then (.named [c], [])
    else
      let (mode, segments) := scanPlain c
      (mode, .char '$' :: segments)
  | .named name =>
    if isNameChar c then (.named (c :: name), [])
    else
      let (mode, segments) := scanPlain c
      (mode, .reference name.reverse :: segments)
  | .inBraces name =>
    if c = '}' then (.plain, [.braced name.reverse]) else (.inBraces (c :: name), [])

def scan (mode : Mode) : List Char → List Segment
  | [] => mode.finish
  | c :: rest =>
    let (mode, segments) := scanChar mode c
    segments ++ scan mode rest

def ofText (s : String) : List Segment := scan .plain s.toList

def value (env : Environment) (text : String) : Segment → Except SettingsError String
  | char c => .ok (String.singleton c)
  | braced [] => .error (.invalid ("empty variable reference in " ++ Text.escaped text))
  | reference name | braced name =>
    match env (String.ofList name) with
    | some v => .ok v
    | none => .error (.missingVariable (String.ofList name))

end Segment

/-- Replaces the references in a text; the first that cannot be replaced is the error. -/
def expand (env : Environment) (text : String) : Except SettingsError String := do
  let parts ← (Segment.ofText text).mapM (Segment.value env text)
  return String.join parts

end QueryBridge
