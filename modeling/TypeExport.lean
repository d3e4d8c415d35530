import TypeExport.Main
import TypeExport.Proofs.Expression.Lexing
import TypeExport.Proofs.Expression.Grammar
import TypeExport.Proofs.Expression.Spelling
import TypeExport.Proofs.Shape.Constructed
import TypeExport.Proofs.Expression.CanonicalForm
import TypeExport.Proofs.Declaration.Meaning
import TypeExport.Proofs.Declaration.Unsupported
import TypeExport.Proofs.ViewModel.Imports
import TypeExport.Proofs.Bag.Conversion
import TypeExport.Proofs.Catalog.Nesting
import TypeExport.Proofs.Shape.Identity
import TypeExport.Proofs.ViewModel.Strict
import TypeExport.Proofs.MemberOrder
import TypeExport.Proofs.Documentation.FirstWins
import TypeExport.Proofs.Files.Writing
import TypeExport.Proofs.Command.AllOrNothing
import TypeExport.Proofs.Shape.Reentry
import TypeExport.Proofs.Catalog.EntryOrder
import TypeExport.Proofs.Expression.DeclaredNames
import TypeExport.Proofs.Expression.ErrorColumn
import TypeExport.Proofs.Documentation.Following
import TypeExport.Proofs.Enumeration.ReadBack
import TypeExport.Proofs.Catalog.Acceptance
import TypeExport.Proofs.Settings.Given
import TypeExport.Proofs.Documentation.Enclosed
import TypeExport.Proofs.Documentation.Segments
import TypeExport.Proofs.ConstantTable
import TypeExport.Proofs.GeneratedNames
import TypeExport.Proofs.Bag.File
import TypeExport.Proofs.SourceFile.UsingBlocks
import TypeExport.Proofs.SourceFile.ImportStatements
import TypeExport.Proofs.Enumeration.Superseded
import TypeExport.Proofs.Documentation.Dedented
import TypeExport.Proofs.Name.Words
import TypeExport.Proofs.Name.CamelCase
import TypeExport.Proofs.Name.Space
import TypeExport.Proofs.Name.SortKey
