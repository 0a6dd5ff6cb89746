import LexiconSchema.Identifier
import LexiconSchema.Kind
import LexiconSchema.RecordKey
import LexiconSchema.StringFormat
import LexiconSchema.Decimal.Shortest
import LexiconSchema.Json.Reader
import LexiconSchema.Json.Writer
import LexiconSchema.Text.Characters
import LexiconSchema.Text.Cluster
import LexiconSchema.Text.Quoted
import LexiconSchema.StringFormat.Syntax
import LexiconSchema.Constraints
import LexiconSchema.Reference
import LexiconSchema.Node.Position
import LexiconSchema.Node.References
import LexiconSchema.Node.Render
import LexiconSchema.Node.Reader
import LexiconSchema.Document.Reader
import LexiconSchema.Validation
import LexiconSchema.FileTree
import LexiconSchema.Repository.Resolution
import LexiconSchema.Proofs.Outcomes
import LexiconSchema.Proofs.OrderedMaps
import LexiconSchema.Proofs.Attachment
import LexiconSchema.Proofs.Equality
import LexiconSchema.Proofs.Relocation
import LexiconSchema.Proofs.FieldCodecs
import LexiconSchema.Proofs.WrittenForms
import LexiconSchema.Proofs.WrittenObjects
import LexiconSchema.Proofs.RoundTrip
import LexiconSchema.Proofs.Loading
import LexiconSchema.Proofs.Operations
import LexiconSchema.Proofs.Runs
import LexiconSchema.Proofs.Refusals
import LexiconSchema.Proofs.Twins
import LexiconSchema.Proofs.Agreement
import LexiconSchema.Proofs.Places
import LexiconSchema.Proofs.History
import LexiconSchema.Proofs.Backing
import LexiconSchema.Proofs.DistinctNames
import LexiconSchema.Proofs.Grammar
import LexiconSchema.Proofs.FieldForms
import LexiconSchema.Proofs.FieldReadings
import LexiconSchema.Proofs.Acceptance
import LexiconSchema.Proofs.NormalForms
import LexiconSchema.Proofs.Composition
import LexiconSchema.Proofs.Origins
import LexiconSchema.Proofs.LocalReferences
import LexiconSchema.Proofs.Diagnostics
import LexiconSchema.Proofs.UnorderedValues
import LexiconSchema.Proofs.DistinctRenderings
import LexiconSchema.Proofs.Faithfulness
import LexiconSchema.Proofs.KeyOrder
import LexiconSchema.Proofs.WellFormedIdentifiers
import LexiconSchema.Proofs.DottedNames
import LexiconSchema.Proofs.WrittenFiles
import LexiconSchema.Proofs.SchemaPaths
import LexiconSchema.Proofs.FormatInclusions
import LexiconSchema.Proofs.Chains
import LexiconSchema.Proofs.FailureOrder
import LexiconSchema.Proofs.ReferenceChecks
import LexiconSchema.Proofs.LenientFields
import LexiconSchema.Proofs.UnionResolution
import LexiconSchema.Proofs.WrittenReferences
import LexiconSchema.Proofs.ExpandedReferences
import LexiconSchema.Proofs.CorrespondingParts
import LexiconSchema.Proofs.Surroundings
import LexiconSchema.Proofs.MirroredAuthorities
import LexiconSchema.Proofs.FormatPatterns
import LexiconSchema.Proofs.Violations
import LexiconSchema.Proofs.NestedNodes
