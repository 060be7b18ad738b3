import ConsoleSweep.Text.Lines
import ConsoleSweep.Text.Utf8
import ConsoleSweep.Text.Similarity
import ConsoleSweep.Unicode.CaseFold
import ConsoleSweep.Unicode.Age
import ConsoleSweep.Unicode.Boundary
import ConsoleSweep.Unicode.GroupName
import ConsoleSweep.Unicode.Category
import ConsoleSweep.Unicode.Property
import ConsoleSweep.Unicode.Script
import ConsoleSweep.Regex.CharSet
import ConsoleSweep.Regex.Property
import ConsoleSweep.Regex.Node
import ConsoleSweep.Regex.Utf8Split
import ConsoleSweep.Regex.Expr
import ConsoleSweep.Regex.Automaton
import ConsoleSweep.Regex.Match
import ConsoleSweep.Regex.Parse
import ConsoleSweep.Regex.Pattern
import ConsoleSweep.Text.Lower
import ConsoleSweep.Rule
import ConsoleSweep.Plan
import ConsoleSweep.Sweep
import ConsoleSweep.Report
import ConsoleSweep.Report.Json
import ConsoleSweep.Prompt
import ConsoleSweep.Tree.Path
import ConsoleSweep.Tree.IoError
import ConsoleSweep.Tree.Basic
import ConsoleSweep.Tree.Resolve
import ConsoleSweep.Tree.Create
import ConsoleSweep.Batch.Store
import ConsoleSweep.Batch.Run
import ConsoleSweep.Batch.Memory
import ConsoleSweep.Toml.Node
import ConsoleSweep.Toml.Read
import ConsoleSweep.Glob
import ConsoleSweep.Scan
import ConsoleSweep.Settings
import ConsoleSweep.Settings.Load
import ConsoleSweep.Run
import ConsoleSweep.Cli.Spec
import ConsoleSweep.Cli.Help
import ConsoleSweep.Cli.Parse
import ConsoleSweep.Cli.Run
import ConsoleSweep.Main
import ConsoleSweep.Proofs.Lines
import ConsoleSweep.Proofs.Sweep
import ConsoleSweep.Proofs.Batch
import ConsoleSweep.Proofs.MemoryStore
import ConsoleSweep.Proofs.Utf8
import ConsoleSweep.Proofs.Cancel
import ConsoleSweep.Proofs.Rerun
import ConsoleSweep.Proofs.DryRun
import ConsoleSweep.Proofs.Scan
import ConsoleSweep.Proofs.Classify
import ConsoleSweep.Proofs.Changed
import ConsoleSweep.Proofs.Single
import ConsoleSweep.Proofs.Include
import ConsoleSweep.Proofs.Rules
import ConsoleSweep.Proofs.CharSet
import ConsoleSweep.Proofs.Reach
import ConsoleSweep.Proofs.Language
import ConsoleSweep.Proofs.Trim
import ConsoleSweep.Proofs.ImportRule
import ConsoleSweep.Proofs.LogRule
import ConsoleSweep.Proofs.Lower
import ConsoleSweep.Proofs.Prompt
import ConsoleSweep.Proofs.DropLines
import ConsoleSweep.Proofs.Settings
