import QueryBridge.Dialect.Catalogue
import QueryBridge.Passes.Aliases
import QueryBridge.Passes.SemiJoin

set_option autoImplicit false

namespace QueryBridge

inductive Pass where
  | catalogPrefix | columnAliases | unnestAliases | correlatedExists
  deriving DecidableEq, Repr

namespace Pass

def all : List Pass := [catalogPrefix, columnAliases, unnestAliases, correlatedExists]

def name : Pass → String
  | catalogPrefix => "remove_catalog_schema_prefix"
  | columnAliases => "remove_column_alias_in_alias_relation"
  | unnestAliases => "replace_column_alias_in_unnest"
  | correlatedExists => "transform_correlated_join_to_join"

def ofName? (s : String) : Option Pass := all.find? (·.name == s)

def apply : Pass → Query → Query
  | catalogPrefix => Passes.removeCatalogPrefix
  | columnAliases => Passes.removeColumnAliases
  | unnestAliases => Passes.renameUnnested
  | correlatedExists => Passes.decorrelate

end Pass

abbrev Pipeline := List Pass

namespace Pipeline

def forDialect (d : Dialect) : Pipeline := if d = .bigquery then Pass.all else []

def apply (p : Pipeline) (q : Query) : Query := p.foldl (fun q pass => pass.apply q) q

def steps (p : Pipeline) (q : Query) : List (Pass × Query) :=
  match p with
  | [] => []
  | pass :: rest => (pass, pass.apply q) :: steps rest (pass.apply q)

end Pipeline

end QueryBridge
