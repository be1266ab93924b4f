import TableForge.Main
import TableForge.Proofs.Check.Prediction
import TableForge.Proofs.Generation.Preview
import TableForge.Proofs.Path.Components
import TableForge.Proofs.Path.Parent
import TableForge.Proofs.Text.PascalCase
import TableForge.Proofs.Template.Loading
import TableForge.Proofs.Generation.Destination
import TableForge.Proofs.Generation.Nesting
import TableForge.Proofs.FileTree.WellFormed
import TableForge.Proofs.FileTree.Following
import TableForge.Proofs.FileTree.Clearing
import TableForge.Proofs.FileTree.Making
import TableForge.Proofs.FileTree.Writing
import TableForge.Proofs.Generation.Effect
import TableForge.Proofs.Generation.ClassReference
import TableForge.Proofs.Generation.RowConstruction
import TableForge.Proofs.FileTree.Overlay
import TableForge.Proofs.Generation.Failure
import TableForge.Proofs.Generation.Collision
import TableForge.Proofs.Generation.ClassFile
import TableForge.Proofs.Generation.Placeholders
import TableForge.Proofs.Dataset.Decoding
import TableForge.Proofs.Dataset.Acceptance
import TableForge.Proofs.Template.Reading
import TableForge.Proofs.Template.Addressing
import TableForge.Proofs.FileTree.Addresses
import TableForge.Proofs.FileTree.Turns
import TableForge.Proofs.FileTree.Reclearing
import TableForge.Proofs.FileTree.ClearingCount
import TableForge.Proofs.FileTree.Rewriting
import TableForge.Proofs.Generation.Regeneration
import TableForge.Proofs.Fragment.Instantiation
import TableForge.Proofs.Fragment.FillLoop
import TableForge.Proofs.Text.Literal
import TableForge.Proofs.Generation.TextCell
import TableForge.Proofs.Generation.Isolation
import TableForge.Proofs.Generation.RequiredFragments
import TableForge.Proofs.Generation.PassEnding
import TableForge.Proofs.Generation.PassTemplate
import TableForge.Proofs.Generation.PassLoop
import TableForge.Proofs.Report.Account
import TableForge.Proofs.Dataset.Columns
import TableForge.Proofs.Generation.RowIdentifier
import TableForge.Proofs.Generation.RowBlocks
import TableForge.Proofs.Generation.ReservedField
import TableForge.Proofs.Text.ScreamingSnakeCase
import TableForge.Proofs.Check.UnnamedConstants
import TableForge.Proofs.Check.RepeatedIds
import TableForge.Proofs.Source.Label
import TableForge.Proofs.Template.Outcome
import TableForge.Proofs.Check.UnmappedTypes
import TableForge.Proofs.Text.WordSplit
import TableForge.Proofs.Text.CaseProjection
import TableForge.Proofs.Dataset.Insertion
