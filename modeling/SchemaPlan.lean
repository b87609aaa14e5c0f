import SchemaPlan.Main
import SchemaPlan.Proofs.Classification
import SchemaPlan.Proofs.Migration.Source
import SchemaPlan.Proofs.Migration.Store
import SchemaPlan.Proofs.Calendar.Order
import SchemaPlan.Proofs.Migration.Writing
import SchemaPlan.Proofs.Migration.History
import SchemaPlan.Proofs.Plan
import SchemaPlan.Proofs.Pipeline
import SchemaPlan.Proofs.Commands
import SchemaPlan.Proofs.Generation
import SchemaPlan.Proofs.CommandLine
import SchemaPlan.Proofs.CommandLine.Ending
import SchemaPlan.Proofs.Planning
import SchemaPlan.Proofs.Ruby.Quoting
import SchemaPlan.Proofs.Migration.Column
import SchemaPlan.Proofs.Grammar.Backward
import SchemaPlan.Proofs.Migration.Constraint
import SchemaPlan.Proofs.Migration.Parameters
import SchemaPlan.Proofs.Migration.Distinct
import SchemaPlan.Proofs.Migration.Heading
import SchemaPlan.Proofs.Classification.Order
import SchemaPlan.Proofs.Classification.Closing
import SchemaPlan.Proofs.Classification.LetterCase
import SchemaPlan.Proofs.Classification.Planned
import SchemaPlan.Proofs.TypeMapping.Options
import SchemaPlan.Proofs.TypeSpec
import SchemaPlan.Proofs.Migration.FileName
import SchemaPlan.Proofs.Migration.Slug.Letters
import SchemaPlan.Proofs.Migration.ClassName
import SchemaPlan.Proofs.Calendar.Later
import SchemaPlan.Proofs.Migration.FirstFree
import SchemaPlan.Proofs.Preview
import SchemaPlan.Proofs.Refresh
import SchemaPlan.Proofs.Compilation.Notices
import SchemaPlan.Proofs.Ruby.Denotation
import SchemaPlan.Proofs.Migration.Slug.Parted
import SchemaPlan.Proofs.Migration.Slug.Words
