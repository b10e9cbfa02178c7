import ApiStubs.Main
import ApiStubs.Proofs.Text.Trim
import ApiStubs.Proofs.Text.Split
import ApiStubs.Proofs.Lua.Naming
import ApiStubs.Proofs.TypeExpr.Commas
import ApiStubs.Proofs.Validation.Checked
import ApiStubs.Proofs.TypeExpr.Parsing
import ApiStubs.Proofs.TypeExpr.Reparse
import ApiStubs.Proofs.Member.Param
import ApiStubs.Proofs.Modifiers
import ApiStubs.Proofs.Observed.Readable
import ApiStubs.Proofs.Documented.Page
import ApiStubs.Proofs.Distinct
import ApiStubs.Proofs.Member.Signature
import ApiStubs.Proofs.Merge.Reading
import ApiStubs.Proofs.Merge.Fields
import ApiStubs.Proofs.Documented.Entry
import ApiStubs.Proofs.Merge.Methods
import ApiStubs.Proofs.Merge.Class
import ApiStubs.Proofs.Files.Path
import ApiStubs.Proofs.Files.Tree
import ApiStubs.Proofs.Documented.Store
import ApiStubs.Proofs.Documented.PagePath
import ApiStubs.Proofs.Documented.BinaryName
import ApiStubs.Proofs.Batch.Outcome
import ApiStubs.Proofs.Exclusions
import ApiStubs.Proofs.Batch.Run
import ApiStubs.Proofs.Batch.Stage
import ApiStubs.Proofs.Batch.Pool
import ApiStubs.Proofs.Batch.Shared
import ApiStubs.Proofs.Batch.Rooted
import ApiStubs.Proofs.Lua.Qualifier
import ApiStubs.Proofs.TypeExpr.Tree
import ApiStubs.Proofs.TypeExpr.Safe
import ApiStubs.Proofs.TypeExpr.Layout
import ApiStubs.Proofs.TypeExpr.Shortened
import ApiStubs.Proofs.TypeExpr.Written
import ApiStubs.Proofs.Validation.Lossless
import ApiStubs.Proofs.Member.Shortened
import ApiStubs.Proofs.Member.Record
import ApiStubs.Proofs.Observed.Record
import ApiStubs.Proofs.Documented.Record
import ApiStubs.Proofs.Json.Scalar
import ApiStubs.Proofs.Json.Reading
import ApiStubs.Proofs.Batch.Source
import ApiStubs.Proofs.Batch.Simulation
import ApiStubs.Proofs.Batch.Places
import ApiStubs.Proofs.Batch.Excluded
import ApiStubs.Proofs.Batch.Canonical
import ApiStubs.Proofs.Batch.Isolation
import ApiStubs.Proofs.Batch.Record
import ApiStubs.Proofs.Batch.Written
import ApiStubs.Proofs.Batch.Lossless
import ApiStubs.Proofs.Batch.Rounds
import ApiStubs.Proofs.Batch.Sanitized
import ApiStubs.Proofs.Documented.Section
import ApiStubs.Proofs.Batch.Reported
import ApiStubs.Proofs.CommandLine.Compile
import ApiStubs.Proofs.Documented.Kept
import ApiStubs.Proofs.Merge.ResolvedFields
import ApiStubs.Proofs.Merge.ResolvedMethods
import ApiStubs.Proofs.Merge.Malformed
import ApiStubs.Proofs.TypeExpr.Head
import ApiStubs.Proofs.Observed.Erased
import ApiStubs.Proofs.Member.Comparison
import ApiStubs.Proofs.Member.ShortComparison
import ApiStubs.Proofs.Text.Pattern
import ApiStubs.Proofs.Lua.QualifierPattern
import ApiStubs.Proofs.TypeExpr.LastSegment
import ApiStubs.Proofs.Text.LowerBlank
import ApiStubs.Proofs.Modifiers.Canonical
import ApiStubs.Proofs.Validation.Unstopped
import ApiStubs.Proofs.Validation.Alike
import ApiStubs.Proofs.Observed.Dump
import ApiStubs.Proofs.Settings
import ApiStubs.Proofs.Batch.Writable
import ApiStubs.Proofs.Files.Named
import ApiStubs.Proofs.CommandLine.Options
import ApiStubs.Proofs.CommandLine.Override
import ApiStubs.Proofs.CommandLine.ExclusionFile
import ApiStubs.Proofs.Number.Shortest
import ApiStubs.Proofs.TypeExpr.Arguments
import ApiStubs.Proofs.Lua.SafeName
import ApiStubs.Proofs.Exclusions.Listing
