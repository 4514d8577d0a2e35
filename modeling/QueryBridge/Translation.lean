import QueryBridge.Emission.Tree
import QueryBridge.Manifest.Basic
import QueryBridge.Passes.Pipeline
import QueryBridge.Source.Lowering
import QueryBridge.Warehouse.Backend

set_option autoImplicit false

namespace QueryBridge

inductive TranslationError where
  | read (e : ReadError)
  | emit (e : EmitError)
  deriving DecidableEq, Repr

def TranslationError.message : TranslationError → String
  | read e => "Parse error: " ++ e.message
  | emit e => "Emit error: " ++ e.message

structure Translation where
  sql : String
  query : Query
  dialect : Dialect

namespace Translation

def ofQuery (passes : Pipeline) (target : Dialect) (q : Query) : Except TranslationError Translation :=
  let rewritten := passes.apply q
  match rewritten.sql target with
  | .ok sql => .ok ⟨sql, rewritten, target⟩
  | .error e => .error (.emit e)

def ofText (passes : Pipeline) (source target : Dialect) (text : String) :
    Except TranslationError Translation :=
  match Query.read source text with
  | .ok q => ofQuery passes target q
  | .error e => .error (.read e)

def between (source target : Dialect) (text : String) : Except TranslationError Translation :=
  ofText (Pipeline.forDialect target) source target text

end Translation

structure Compiler where
  manifest : Manifest
  backend : Backend
  source : Dialect := .postgres
  rewrites : Bool := true

namespace Compiler

def dialect (c : Compiler) : Dialect := c.backend.dialect

def passes (c : Compiler) : Pipeline := if c.rewrites then Pipeline.forDialect c.dialect else []

def compileQuery (c : Compiler) (q : Query) : Except TranslationError Translation :=
  Translation.ofQuery c.passes c.dialect q

def compile (c : Compiler) (text : String) : Except TranslationError Translation :=
  Translation.ofText c.passes c.source c.dialect text

end Compiler

end QueryBridge
