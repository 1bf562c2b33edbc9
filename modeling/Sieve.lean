import Sieve.Fault.Kind
import Sieve.Files.Discovery
import Sieve.Filter.Request
import Sieve.Json.Reader
import Sieve.Json.Writer
import Sieve.Log.Context
import Sieve.Log.Journal
import Sieve.Log.Request
import Sieve.Main
import Sieve.Proofs.Filter.Decision
import Sieve.Selection.Narrowing
import Sieve.Settings.Load
import Sieve.Spec.File
import Sieve.Spec.Outline
import Sieve.Text.Utf8
import Sieve.Proofs.Spec.Walk
import Sieve.Proofs.Spec.Reading
import Sieve.Proofs.Spec.Items
import Sieve.Proofs.Spec.Steps
import Sieve.Proofs.Spec.Extraction
import Sieve.Proofs.Text.Joined
import Sieve.Proofs.Selection.Keeping
import Sieve.Proofs.Selection.ByTags
import Sieve.Proofs.Selection.ByNames
import Sieve.Proofs.Spec.Agreement
import Sieve.Proofs.Selection.Required
import Sieve.Proofs.Filter.Candidate
import Sieve.Proofs.Spec.Grammar
import Sieve.Proofs.Spec.Places
import Sieve.Proofs.Spec.Inheritance
import Sieve.Proofs.Spec.Faults
import Sieve.Proofs.Spec.Validity
import Sieve.Proofs.Settings.Variables
import Sieve.Proofs.Settings.Document
import Sieve.Proofs.Settings.Merging
import Sieve.Proofs.Settings.Rest
import Sieve.Proofs.Schema.Read
import Sieve.Proofs.Settings.Options
import Sieve.Proofs.Settings.Load
import Sieve.Proofs.Settings.Environment
import Sieve.Proofs.Settings.Override
import Sieve.Proofs.Command.Override
import Sieve.Proofs.Log.Logged
import Sieve.Proofs.Log.Refusal
import Sieve.Proofs.Files.Discovery
import Sieve.Proofs.Files.Path
import Sieve.Proofs.Files.Tree
import Sieve.Proofs.Files.Glob
import Sieve.Proofs.Files.Hidden
import Sieve.Proofs.Selection.Safety
import Sieve.Proofs.Selection.ReadBack
import Sieve.Proofs.Selection.Alike
import Sieve.Proofs.Command.Session
import Sieve.Proofs.Command.Select
import Sieve.Proofs.Command.Levels
import Sieve.Proofs.Settings.Sources
import Sieve.Proofs.Settings.Setting
import Sieve.Proofs.Settings.Precedence
import Sieve.Selection.Pool
import Sieve.Proofs.Selection.Pool
import Sieve.Proofs.Selection.Untagged
import Sieve.Proofs.Spec.Reentry
import Sieve.Proofs.Spec.Alignment
import Sieve.Proofs.Settings.Faults
import Sieve.Proofs.Command.List
import Sieve.Proofs.Command.Endings
import Sieve.Proofs.Filter.Conjunction
import Sieve.Proofs.Command.Parse
import Sieve.Proofs.Filter.Spelling
import Sieve.Proofs.Settings.TwoWays
import Sieve.Proofs.Filter.Words
import Sieve.Proofs.Files.Sets
import Sieve.Proofs.Files.Exclude
import Sieve.Proofs.Files.Line
import Sieve.Proofs.Files.Relative
import Sieve.Proofs.Files.Depth
import Sieve.Proofs.Selection.Blank
import Sieve.Proofs.Settings.Malformed
import Sieve.Proofs.Log.Threshold
import Sieve.Proofs.Log.History
import Sieve.Proofs.Log.OneLine
import Sieve.Proofs.Log.Nesting
import Sieve.Proofs.Selection.Unchanged
import Sieve.Proofs.Settings.Search
import Sieve.Proofs.Settings.Nearest
