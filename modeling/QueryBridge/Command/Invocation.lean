import QueryBridge.Command.Arguments
import QueryBridge.Warehouse.Backend

set_option autoImplicit false

namespace QueryBridge

inductive Command where
  | compile (sql : String) (backend : Option Backend) (manifest : Option String) (source : Dialect)
      (rewrites : Bool)
  | transpile (sql : String) (source target : Dialect)
  | schema
  | describe (sql : String)
  | query (sql : String)
  | cache (name sql catalog schema : String)
  deriving DecidableEq, Repr

structure Invocation where
  settingsFile : Option String
  command : Command
  deriving DecidableEq, Repr

namespace Command

def dialect? (name : String) : Option Dialect := Dialect.all.find? (·.name == name)

def anyValue (_ : String) : Bool := true

def isPath (value : String) : Bool := !value.isEmpty

def settingsSpec : OptionSpec := ⟨"config", some 'c', .valued isPath⟩

def versionSpec : OptionSpec := ⟨"version", some 'V', .final⟩

def dialectSpec (long : String) (short : Char) : OptionSpec :=
  ⟨long, some short, .valued fun value => (dialect? value).isSome⟩

def backendSpec : OptionSpec := ⟨"backend", some 'b', .valued fun value => (Backend.ofName? value).isSome⟩

def manifestSpec : OptionSpec := ⟨"manifest", some 'm', .valued isPath⟩

structure Form where
  options : List OptionSpec
  others : List String
  meaning : Arguments → List String → Except UsageError Command

def dialectGiven (a : Arguments) (option : String) (default : Dialect) : Dialect :=
  ((a.value? option).bind dialect?).getD default

def compileForm : Form where
  options := [backendSpec, manifestSpec, dialectSpec "read" 'r', ⟨"no-rewrite", none, .switch⟩]
  others := ["SQL"]
  meaning a others := .ok (.compile (others.headD "") ((a.value? "backend").bind Backend.ofName?)
    (a.value? "manifest") (dialectGiven a "read" .postgres) (!a.isGiven "no-rewrite"))

def transpileForm : Form where
  options := [dialectSpec "read" 'r', dialectSpec "write" 'w']
  others := ["SQL"]
  meaning a others :=
    match (a.value? "write").bind dialect? with
    | some target => .ok (.transpile (others.headD "") (dialectGiven a "read" .postgres) target)
    | none => .error (.missing "--write")

def schemaForm : Form where
  options := []
  others := []
  meaning _ _ := .ok .schema

def describeForm : Form where
  options := []
  others := ["SQL"]
  meaning _ others := .ok (.describe (others.headD ""))

def queryForm : Form where
  options := []
  others := ["SQL"]
  meaning _ others := .ok (.query (others.headD ""))

def cacheForm : Form where
  options := [⟨"catalog", none, .valued anyValue⟩, ⟨"schema", none, .valued anyValue⟩]
  others := ["NAME", "SQL"]
  meaning a others := .ok (.cache (others.headD "") (others.getD 1 "") ((a.value? "catalog").getD "")
    ((a.value? "schema").getD "main"))

def formOf? (name : String) : Option Form :=
  match name with
  | "compile" => some compileForm
  | "transpile" => some transpileForm
  | "schema" => some schemaForm
  | "describe" => some describeForm
  | "query" => some queryForm
  | "cache" => some cacheForm
  | _ => none

def checkOthers (names given : List String) : Except UsageError Unit :=
  match names, given with
  | [], [] => .ok ()
  | name :: _, [] => .error (.missing name)
  | [], argument :: _ => .error (.unexpected argument)
  | _ :: names, _ :: given => checkOthers names given

end Command

namespace Invocation

open Command

def usage {α : Type} (r : Except UsageError α) : Except Interruption α := r.mapError .usage

def read (arguments : List String) : Except Interruption Invocation := do
  let (outer, rest) ← readArguments [settingsSpec, versionSpec] true .empty arguments
  match rest with
  | [] => throw (.usage (.missing "COMMAND"))
  | name :: rest =>
    match formOf? name with
    | none => throw (.usage (.unknownCommand name))
    | some form =>
      let (inner, _) ← readArguments (settingsSpec :: form.options) false .empty rest
      usage (checkOthers form.others inner.others)
      let command ← usage (form.meaning inner inner.others)
      return ⟨(inner.value? "config").or (outer.value? "config"), command⟩

end Invocation

end QueryBridge
