import QueryBridge.Dialect.Catalogue
import QueryBridge.Text.Class

set_option autoImplicit false

namespace QueryBridge.Dialect

open Text

def backslashEscapes (d : Dialect) : Bool := d ∈ [bigquery, snowflake]

def tripleQuotes (d : Dialect) : Bool := d = bigquery

def nameQuotes : Dialect → List Char
  | postgres => ['"']
  | bigquery => [graveAccent]
  | sqlite => ['"', graveAccent, '[']
  | duckdb | snowflake => ['"', graveAccent]

def byteStrings (d : Dialect) : Bool := d ∈ [bigquery, postgres]

def rawStrings (d : Dialect) : Bool := d = bigquery

def unicodeStrings (d : Dialect) : Bool := d = postgres

def escapedStrings (d : Dialect) : Bool := d = postgres

def hashComments (d : Dialect) : Bool := d ∈ [snowflake, bigquery]

def slashComments (d : Dialect) : Bool := d = snowflake

def wholeDivision (d : Dialect) : Bool := d = duckdb

/-- Whether a question mark is an operator and not a placeholder. -/
def questionOperators (d : Dialect) : Bool := d = postgres

def extendsOperator (d : Dialect) (c : Char) : Bool :=
  d = postgres && (c = graveAccent || c ∈ "+-*/<>=~!@#%^&|?".toList)

def startsName (d : Dialect) (c : Char) : Bool :=
  match d with
  | postgres | duckdb => isAlphabetic c || c = '_'
  | snowflake | bigquery => c.isAlpha || c = '_'
  | sqlite => c.isAlpha || c = '_' || (0x7f ≤ c.toNat && c.toNat ≤ 0xffff)

def continuesName (d : Dialect) (c : Char) : Bool :=
  d.startsName c || c.isDigit || (c = '$' && d ∈ [postgres, duckdb, snowflake])

/-- Whether session words such as `CURRENT_USER` stand without parentheses. -/
def sessionWords (d : Dialect) : Bool := d = postgres

def intervalNames (d : Dialect) : Bool := d ∈ [postgres, snowflake]

def intervalNeedsUnit (d : Dialect) : Bool := d = bigquery

def structLiterals (d : Dialect) : Bool := d = bigquery

def dictionaries (d : Dialect) : Bool := d ∈ [duckdb, snowflake]

def mapLiterals (d : Dialect) : Bool := d = duckdb

def subscripts (d : Dialect) : Bool := d ∈ [postgres, duckdb]

/-- Whether `a:b` and `a[0]` are paths into semi-structured data. -/
def dataPaths (d : Dialect) : Bool := d = snowflake

def shiftOperators (d : Dialect) : Bool := d ∈ [postgres, duckdb]

def factorials (d : Dialect) : Bool := d = postgres

def filterClauses (d : Dialect) : Bool := d ∈ [postgres, duckdb, sqlite]

/-- Whether `=` and `:=` name an argument, besides `=>`. -/
def namedByAssignment (d : Dialect) : Bool := d = duckdb

def namedByExpressions (d : Dialect) : Bool := d = postgres

def nullTreatmentInside (d : Dialect) : Bool := d ∈ [bigquery, snowflake]

def havingBounds (d : Dialect) : Bool := d = bigquery

def bareQueryArguments (d : Dialect) : Bool := d = snowflake

def outerJoinMarks (d : Dialect) : Bool := d = snowflake

def starredPaths (d : Dialect) : Bool := d = postgres

def emptyInLists (d : Dialect) : Bool := d = sqlite

def trimCharacters (d : Dialect) : Bool := d ∈ [snowflake, bigquery]

def extractByComma (d : Dialect) : Bool := d = snowflake

def anyExtractField (d : Dialect) : Bool := d ∈ [postgres, snowflake]

def trailingCommas (d : Dialect) : Bool := d = duckdb

def projectionTrailingCommas (d : Dialect) : Bool := d ∈ [duckdb, bigquery, snowflake]

def valueTables (d : Dialect) : Bool := d = bigquery

def groupingSets (d : Dialect) : Bool := d ∈ [postgres, duckdb]

def starIlike (d : Dialect) : Bool := d = snowflake

def starExclude (d : Dialect) : Bool := d ∈ [duckdb, snowflake]

def starExcept (d : Dialect) : Bool := d = bigquery

def starReplace (d : Dialect) : Bool := d ∈ [bigquery, duckdb, snowflake]

def starRename (d : Dialect) : Bool := d = snowflake

def materializedCtes (d : Dialect) : Bool := d = postgres

def limitComma (d : Dialect) : Bool := d = sqlite

def unnestRelations (d : Dialect) : Bool := d ∈ [postgres, bigquery]

def bareValues (d : Dialect) : Bool := d = snowflake

def parenthesizedRelations (d : Dialect) : Bool := d = snowflake

def hierarchies (d : Dialect) : Bool := d = snowflake

def rowPatterns (d : Dialect) : Bool := d = snowflake

def tableVersions (d : Dialect) : Bool := d = bigquery

def hyphenatedPaths (d : Dialect) : Bool := d = bigquery

/-- Whether two dots stand for the default schema. -/
def doubleDots (d : Dialect) : Bool := d = snowflake

def structParentheses (d : Dialect) : Bool := d = duckdb

def structAngles (d : Dialect) : Bool := d = bigquery

def sizedArrayTypes (d : Dialect) : Bool := d ∈ [postgres, duckdb]

def bareArrayType (d : Dialect) : Bool := d = snowflake

def planOptions (d : Dialect) : Bool := d ∈ [postgres, duckdb]

def describedTables (d : Dialect) : Bool := d = snowflake

def partitionedTables (d : Dialect) : Bool := d ∈ [bigquery, postgres]

def clusteredTables (d : Dialect) : Bool := d = bigquery

def guardedViews (d : Dialect) : Bool := d ∈ [bigquery, sqlite]

def guardedColumns (d : Dialect) : Bool := d ∈ [postgres, bigquery, duckdb]

def commentStatements (d : Dialect) : Bool := d ∈ [postgres, snowflake]

def settingTuples (d : Dialect) : Bool := d ∈ [bigquery, snowflake]

def filterBeforePlace (d : Dialect) : Bool := d = snowflake

def notifications (d : Dialect) : Bool := d = postgres

end QueryBridge.Dialect
