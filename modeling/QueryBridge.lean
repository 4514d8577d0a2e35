import QueryBridge.Emission.Tree
import QueryBridge.Json.Decode
import QueryBridge.Warehouse.Records
import QueryBridge.Warehouse.Schema
import QueryBridge.Warehouse.TypeTable
import QueryBridge.Manifest.Document
import QueryBridge.Settings.Basic
import QueryBridge.Files.Tree
import QueryBridge.Settings.Document
import QueryBridge.Materialized.Selector
import QueryBridge.Main
import QueryBridge.Translation
import QueryBridge.Tree.DocumentReader
import QueryBridge.Tree.Equality
import QueryBridge.Proofs.Tree.Induction
import QueryBridge.Proofs.Tree.Outcomes
import QueryBridge.Proofs.Tree.Walk
import QueryBridge.Proofs.Tree.Keeping
import QueryBridge.Proofs.Tree.Resting
import QueryBridge.Proofs.Passes.Conversion
import QueryBridge.Proofs.Passes.GeneratedNames
import QueryBridge.Proofs.Passes.JoinedSelect
import QueryBridge.Proofs.Passes.Decorrelation
import QueryBridge.Proofs.Passes.ConversionMeasure
import QueryBridge.Proofs.Passes.Repetition
import QueryBridge.Proofs.Passes.ShortQualifiers
import QueryBridge.Proofs.Passes.ColumnAliases
import QueryBridge.Proofs.Passes.ElementNames
import QueryBridge.Proofs.Passes.PipelineRepetition
import QueryBridge.Proofs.Meaning.Evaluation
import QueryBridge.Proofs.Meaning.Agreement
import QueryBridge.Proofs.Meaning.Coincidence
import QueryBridge.Proofs.Tree.NodeLists
import QueryBridge.Proofs.Passes.Origins
import QueryBridge.Proofs.Meaning.Bindings
import QueryBridge.Proofs.Meaning.PlainRows
import QueryBridge.Proofs.Passes.KeyRows
import QueryBridge.Proofs.Passes.SemiJoinRows
import QueryBridge.Proofs.Passes.GrownRows
import QueryBridge.Proofs.Meaning.Aggregates
import QueryBridge.Proofs.Passes.Separation
import QueryBridge.Proofs.Passes.MeaningKept
import QueryBridge.Proofs.Emission.Success
import QueryBridge.Proofs.Emission.Positions
import QueryBridge.Proofs.Emission.Failure
import QueryBridge.Proofs.Emission.Uniformity
import QueryBridge.Proofs.Emission.Glyphs
import QueryBridge.Proofs.Emission.Spelling
import QueryBridge.Proofs.Emission.Separators
import QueryBridge.Proofs.Emission.Comments
import QueryBridge.Proofs.Emission.Outline
import QueryBridge.Proofs.Emission.QueryWords
import QueryBridge.Proofs.Emission.Clauses
import QueryBridge.Proofs.Emission.Brackets
import QueryBridge.Proofs.Emission.SetOperands
import QueryBridge.Proofs.Meaning.SetOperations
import QueryBridge.Proofs.Emission.SetChains
import QueryBridge.Proofs.Emission.Reader
import QueryBridge.Proofs.Emission.Blocks
import QueryBridge.Proofs.Emission.Readings
import QueryBridge.Proofs.Emission.Predicates
import QueryBridge.Proofs.Emission.Arithmetic
import QueryBridge.Proofs.Emission.StringLiterals
import QueryBridge.Proofs.Emission.QuotedPaths
import QueryBridge.Proofs.Tree.Sightings
import QueryBridge.Proofs.Tree.Resolution
import QueryBridge.Proofs.Passes.QualifierBindings
import QueryBridge.Proofs.Passes.ElementBindings
import QueryBridge.Proofs.Passes.SortKeys
import QueryBridge.Proofs.Passes.FixedPoints
import QueryBridge.Proofs.Tree.Erasure
import QueryBridge.Proofs.Tree.Grafting
import QueryBridge.Proofs.Tree.LeafChanges
import QueryBridge.Proofs.Passes.Frames
import QueryBridge.Proofs.Passes.AggregatedExists
import QueryBridge.Proofs.Passes.Scopes
import QueryBridge.Proofs.Text.LetterCase
import QueryBridge.Proofs.Types.Reading
import QueryBridge.Proofs.Types.Respelling
import QueryBridge.Proofs.Types.Rereading
import QueryBridge.Proofs.Warehouse.RecordStreams
import QueryBridge.Proofs.Tree.Rewording
import QueryBridge.Proofs.Emission.Wording
import QueryBridge.Proofs.Source.Restyling
import QueryBridge.Proofs.Source.Modifiers
import QueryBridge.Proofs.Source.LetterCase
import QueryBridge.Proofs.Warehouse.CursorStreams
import QueryBridge.Proofs.Materialized.Reloads
import QueryBridge.Proofs.Materialized.Removals
import QueryBridge.Proofs.Tree.Positions
import QueryBridge.Proofs.Passes.ConvertedConjuncts
import QueryBridge.Proofs.Passes.IntroducedTables
import QueryBridge.Proofs.Passes.FreshAliases
import QueryBridge.Proofs.Passes.ExactShortening
import QueryBridge.Proofs.Warehouse.Listings
import QueryBridge.Proofs.Warehouse.ListedTables
import QueryBridge.Proofs.Warehouse.TypeTables
import QueryBridge.Proofs.Settings.Expansion
import QueryBridge.Proofs.Tree.BuilderCalls
import QueryBridge.Proofs.Manifest.RoundTrip
import QueryBridge.Proofs.Source.Truncations
import QueryBridge.Proofs.Emission.Integers
import QueryBridge.Proofs.Passes.UnboundQualifiers
import QueryBridge.Proofs.Meaning.Conjunctions
import QueryBridge.Proofs.Tree.LeftEnd
