import DocLint.Check
import DocLint.CommandLine.Trial
import DocLint.Main
import DocLint.Proofs.Frame
import DocLint.Proofs.Layout
import DocLint.Proofs.Walk.Visits
import DocLint.Proofs.Cursor.Edit
import DocLint.Proofs.Walk.Plan
import DocLint.Proofs.Cursor.Way
import DocLint.Proofs.Walk.Edited
import DocLint.Proofs.Walk.Plain
import DocLint.Proofs.Walk.Reference
import DocLint.Proofs.Walk.Edits
import DocLint.Proofs.Cursor.Spot
import DocLint.Proofs.Cursor.Moves
import DocLint.Proofs.Selector.Match
import DocLint.Proofs.Selector.Format
import DocLint.Proofs.Selector.Accept
import DocLint.Proofs.Lint.Run
import DocLint.Proofs.Lint.Content
import DocLint.Proofs.Lint.Merge
import DocLint.Proofs.Lint.Unwrap
import DocLint.Proofs.Lint.Restore
import DocLint.Proofs.Lint.Total
import DocLint.Proofs.Rule.Consistent
import DocLint.Proofs.Lint.Independent
import DocLint.Proofs.Rule.Attach
import DocLint.Proofs.Lint.Exact
import DocLint.Proofs.Regex.Brackets
import DocLint.Proofs.Rule.Delimit
import DocLint.Proofs.Walk.Reads
import DocLint.Proofs.Selector.Unplaced
import DocLint.Proofs.Selector.Blanks
import DocLint.Proofs.Regex.Forward
import DocLint.Proofs.Rule.Search
import DocLint.Proofs.Lint.Occurrences
import DocLint.Proofs.Lint.Count
import DocLint.Proofs.Url.Policy
import DocLint.Proofs.Lint.Outline
import DocLint.Proofs.Regex.Limits
import DocLint.Proofs.Generate.Always
import DocLint.Proofs.Generate.Document
import DocLint.Proofs.Generate.Selector
import DocLint.Proofs.Check
import DocLint.Proofs.CommandLine.Trial
import DocLint.Proofs.Selector.Tiling
