import GoTemplates.Text.CharTable
import GoTemplates.Text.Letter
import GoTemplates.Text.IdentClass
import GoTemplates.Text.Printable
import GoTemplates.Text.CaseMap
import GoTemplates.Text.Quoted
import GoTemplates.Text.Replace
import GoTemplates.Source.Position
import GoTemplates.Text.Blank
import GoTemplates.Text.Split
import GoTemplates.Template.Mapping
import GoTemplates.Template.ImportPath
import GoTemplates.Syntax.Token
import GoTemplates.Syntax.Lexer
import GoTemplates.Syntax.Tree
import GoTemplates.Syntax.Parser.State
import GoTemplates.Syntax.Parser.Grammar
import GoTemplates.Syntax.Parse
import GoTemplates.Syntax.Walk
import GoTemplates.Syntax.Children
import GoTemplates.Printer.Basic
import GoTemplates.Printer.Nodes
import GoTemplates.Printer.File
import GoTemplates.Syntax.Resolve
import GoTemplates.Syntax.Interner
import GoTemplates.Specialize.Imports
import GoTemplates.Specialize.Context
import GoTemplates.Specialize.Table
import GoTemplates.Specialize.Closure
import GoTemplates.Specialize.Rename
import GoTemplates.Specialize.Generate
import GoTemplates.Command.Args
import GoTemplates.Command.Paths
import GoTemplates.Main
import GoTemplates.Proofs.Specialize.Retention
import GoTemplates.Proofs.Specialize.Table
import GoTemplates.Proofs.Specialize.Dependants
import GoTemplates.Proofs.Specialize.ClosureRun
import GoTemplates.Proofs.Syntax.Progress
import GoTemplates.Proofs.Syntax.Productions
import GoTemplates.Proofs.Syntax.LexemeOrder
import GoTemplates.Proofs.Syntax.DeclaredNames
import GoTemplates.Proofs.Specialize.ParsedClosure
import GoTemplates.Proofs.Specialize.RenameFrame
import GoTemplates.Proofs.Syntax.Replacement
import GoTemplates.Proofs.Syntax.WalkOrder
import GoTemplates.Proofs.Specialize.ImportNames
import GoTemplates.Proofs.Text.Replacer
import GoTemplates.Proofs.Template.RoundTrip
import GoTemplates.Proofs.Syntax.Separators
import GoTemplates.Proofs.Syntax.IdentifierGrammars
import GoTemplates.Proofs.Specialize.CommentRenaming
import GoTemplates.Proofs.Specialize.ImportOrganizing
import GoTemplates.Proofs.Syntax.UnionsHaveTerms
import GoTemplates.Proofs.Syntax.AssignedPositions
import GoTemplates.Syntax.Visitor
import GoTemplates.Proofs.Syntax.VisitTour
import GoTemplates.Proofs.Specialize.ClosureTermination
import GoTemplates.Proofs.Syntax.NumberLiterals
import GoTemplates.Proofs.Syntax.StepBound
import GoTemplates.Proofs.Syntax.StepBudget
import GoTemplates.Proofs.Syntax.ParseTermination
import GoTemplates.Proofs.Template.QuotedPaths
import GoTemplates.Proofs.Source.LineLookup
import GoTemplates.Proofs.Syntax.Interning
import GoTemplates.Proofs.Syntax.ParameterGrouping
import GoTemplates.Proofs.Printer.ColumnBlocks
