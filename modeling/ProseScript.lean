import ProseScript.Amount
import ProseScript.Chance
import ProseScript.Chance.Seeded
import ProseScript.Command
import ProseScript.Entity
import ProseScript.Expression
import ProseScript.Fault
import ProseScript.Files.Name
import ProseScript.Files.Session
import ProseScript.Files.Tree
import ProseScript.Format
import ProseScript.Format.Code
import ProseScript.Gender
import ProseScript.Group
import ProseScript.Line
import ProseScript.Lint
import ProseScript.Main
import ProseScript.Placeholder
import ProseScript.Program
import ProseScript.Program.Nesting
import ProseScript.Project
import ProseScript.Proofs.Group
import ProseScript.Proofs.Program.Balance
import ProseScript.Proofs.Program.Marks
import ProseScript.Proofs.Program.RoundTrip
import ProseScript.Proofs.Run.Approx
import ProseScript.Proofs.Run.Follow
import ProseScript.Proofs.Run.Frame
import ProseScript.Proofs.Run.Inline
import ProseScript.Proofs.Run.Invariant
import ProseScript.Proofs.Run.Limit
import ProseScript.Proofs.Run.Names
import ProseScript.Proofs.Run.Outcome
import ProseScript.Proofs.Run.Reach
import ProseScript.Proofs.Run.Replay
import ProseScript.Proofs.Run.StoreInvariant
import ProseScript.Proofs.Run.StoreSteps
import ProseScript.Proofs.Run.Target
import ProseScript.Proofs.Store.Access
import ProseScript.Proofs.Store.Assignment
import ProseScript.Proofs.Store.Locate
import ProseScript.Proofs.Store.Names
import ProseScript.Proofs.Store.Valid
import ProseScript.Proofs.Table
import ProseScript.Proofs.Text.Name
import ProseScript.Run
import ProseScript.Run.Cast
import ProseScript.Run.Generate
import ProseScript.Run.Outcome
import ProseScript.Run.Page
import ProseScript.Run.State
import ProseScript.Run.Write
import ProseScript.Sampling
import ProseScript.Settings
import ProseScript.Settings.Lexeme
import ProseScript.Settings.Reader
import ProseScript.Settings.Record
import ProseScript.Settings.Skip
import ProseScript.Store
import ProseScript.Story
import ProseScript.Table
import ProseScript.Text.Blank
import ProseScript.Text.Case
import ProseScript.Text.Case.Tables
import ProseScript.Text.Letter
import ProseScript.Text.Numeral
import ProseScript.Text.Quoted
import ProseScript.Text.Span
import ProseScript.Text.Split
import ProseScript.Tool.Arguments
import ProseScript.Tool.Check
import ProseScript.Tool.Tell
import ProseScript.Value
import ProseScript.Vocabulary
import ProseScript.WordCount
import ProseScript.Proofs.Program.Occurs
import ProseScript.Proofs.Run.Snippets
import ProseScript.Proofs.Program.Idle
import ProseScript.Proofs.Run.Termination
import ProseScript.Proofs.Store.Snippets
import ProseScript.Proofs.Run.Parallel
import ProseScript.Proofs.Run.Recast
import ProseScript.Proofs.Run.Idle
import ProseScript.Proofs.Run.Warnings
import ProseScript.Proofs.Run.Growth
import ProseScript.Proofs.Run.Faults
import ProseScript.Proofs.Run.Provenance
import ProseScript.Proofs.Run.Arrival
import ProseScript.Proofs.Lint.Findings
import ProseScript.Proofs.Lint.Agreement
import ProseScript.Proofs.Run.Ready
import ProseScript.Proofs.Lint.Calls
import ProseScript.Proofs.Run.Dotted
import ProseScript.Proofs.Store.Additions
import ProseScript.Proofs.Run.Effects
import ProseScript.Proofs.Placeholder.Division
import ProseScript.Proofs.Placeholder.Substitution
import ProseScript.Proofs.Expression.Sum
import ProseScript.Proofs.Placeholder.Residue
import ProseScript.Proofs.Sampling
import ProseScript.Proofs.Expression.CatalogSum
import ProseScript.Proofs.Expression.Selection
import ProseScript.Proofs.Expression.Targets
import ProseScript.Proofs.Run.Fields
import ProseScript.Proofs.Group.Shift
import ProseScript.Proofs.Text.Enclosed
import ProseScript.Proofs.WordCount
import ProseScript.Proofs.Run.Naming
import ProseScript.Proofs.Run.Writing
import ProseScript.Proofs.Group.Shuffle
import ProseScript.Proofs.Expression.Join
import ProseScript.Proofs.Format.Article
import ProseScript.Proofs.Amount
import ProseScript.Proofs.FirstOccurrence
import ProseScript.Proofs.Format.Letters
import ProseScript.Proofs.Run.Shortage
import ProseScript.Proofs.Files.Session
import ProseScript.Proofs.Vocabulary
import ProseScript.Proofs.Files.Tree
import ProseScript.Proofs.Project
import ProseScript.Proofs.Tool.Tell
import ProseScript.Proofs.Table.OrderedMap
import ProseScript.Proofs.Placeholder.Passes
import ProseScript.Proofs.Text.Lines
import ProseScript.Proofs.Text.Split
import ProseScript.Proofs.Expression.Operands
