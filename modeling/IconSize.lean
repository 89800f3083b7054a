import IconSize.Batch.Report
import IconSize.Batch.Run
import IconSize.Batch.Schedule
import IconSize.Batch.Selection
import IconSize.CommandLine.Arguments
import IconSize.CommandLine.Command
import IconSize.Edits.Plan
import IconSize.Edits.Renaming
import IconSize.Files.FileSystem
import IconSize.Files.Path
import IconSize.Files.Reach
import IconSize.Icon.Binding
import IconSize.Icon.Name
import IconSize.Icon.Wrapper
import IconSize.Json.Options
import IconSize.Json.Reader
import IconSize.Json.Report
import IconSize.Json.Value
import IconSize.Json.Writer
import IconSize.Main
import IconSize.Options
import IconSize.Scope.BoundNames
import IconSize.Scope.Reference
import IconSize.Scope.Table
import IconSize.Scope.Walk
import IconSize.Syntax.Dialect
import IconSize.Syntax.Escape
import IconSize.Syntax.Grammar.Basic
import IconSize.Syntax.Grammar.ClassSyntax
import IconSize.Syntax.Grammar.Declaration
import IconSize.Syntax.Grammar.Expression
import IconSize.Syntax.Grammar.Function
import IconSize.Syntax.Grammar.Markup
import IconSize.Syntax.Grammar.Module
import IconSize.Syntax.Grammar.Parameter
import IconSize.Syntax.Grammar.Statement
import IconSize.Syntax.Grammar.TypeSyntax
import IconSize.Syntax.Lexer
import IconSize.Syntax.Parser
import IconSize.Syntax.Program
import IconSize.Syntax.Target
import IconSize.Syntax.Token
import IconSize.Syntax.Tree
import IconSize.Text.Bytes
import IconSize.Text.CodePoints
import IconSize.Text.CodeUnits
import IconSize.Text.Digit
import IconSize.Text.Identifier
import IconSize.Text.Lowercase
import IconSize.Text.Numeral
import IconSize.Transform
import IconSize.Proofs.Icon.ChosenNames
import IconSize.Proofs.Icon.DistinctNames
import IconSize.Proofs.Icon.NamingConvention
import IconSize.Proofs.Json.OptionsText
import IconSize.Proofs.Icon.TopLevelNames
import IconSize.Proofs.Scope.Structure
import IconSize.Proofs.Syntax.ScopeItems
import IconSize.Proofs.Scope.Balance
import IconSize.Proofs.Scope.Agreement
import IconSize.Proofs.Scope.RenamedWalk
import IconSize.Proofs.Scope.Lookup
import IconSize.Proofs.Scope.Layout
import IconSize.Proofs.Scope.ModuleScopes
import IconSize.Proofs.Scope.Shadowing
import IconSize.Proofs.Edits.Capture
import IconSize.Proofs.Edits.Confinement
import IconSize.Proofs.Edits.Overlap
import IconSize.Proofs.Scope.Tree
import IconSize.Proofs.Scope.TypeShadowing
import IconSize.Proofs.Edits.Repetition
import IconSize.Proofs.Edits.ReferenceSyntax
import IconSize.Proofs.Batch.Interleaving
import IconSize.Proofs.Batch.DryRun
import IconSize.Proofs.Edits.RenamingOrder
import IconSize.Proofs.Scope.Forms
import IconSize.Proofs.Scope.Places
import IconSize.Proofs.Scope.HiddenTypes
import IconSize.Proofs.Syntax.Context
import IconSize.Proofs.Scope.Replacement
import IconSize.Proofs.Scope.ParameterLists
import IconSize.Proofs.Scope.PatternNames
import IconSize.Proofs.Scope.ClassNames
import IconSize.Proofs.Edits.Offsets
import IconSize.Proofs.Edits.PublicNames
import IconSize.Proofs.Edits.MatchingTags
import IconSize.Proofs.Batch.Candidates
import IconSize.Proofs.Edits.ModuleText
import IconSize.Proofs.Edits.EntryText
import IconSize.Proofs.Scope.Decorators
