import JavaFacts.Main
import JavaFacts.Proofs.Preorder
import JavaFacts.Proofs.Walk
import JavaFacts.Proofs.InOrder
import JavaFacts.Proofs.Extraction
import JavaFacts.Proofs.Lowering
import JavaFacts.Proofs.ConcreteNodes
import JavaFacts.Proofs.WellMade
import JavaFacts.Proofs.ParsedNames
import JavaFacts.Proofs.Lines
import JavaFacts.Proofs.Nesting
import JavaFacts.Proofs.SourceOrder
import JavaFacts.Proofs.Moved
import JavaFacts.Proofs.ImplicitClass
import JavaFacts.Proofs.KeptMethods
import JavaFacts.Proofs.Slices
import JavaFacts.Proofs.StoppedWalk
import JavaFacts.Proofs.Receivers
import JavaFacts.Proofs.Consistency
import JavaFacts.Proofs.SuccessiveTrees
import JavaFacts.Proofs.MovedText
import JavaFacts.Proofs.Readers
import JavaFacts.Proofs.Spelling
import JavaFacts.Proofs.ReadingBack
import JavaFacts.Proofs.ReadValues
import JavaFacts.Proofs.StoredFacts
import JavaFacts.Proofs.StoredReports
import JavaFacts.Proofs.ScanOutcome
import JavaFacts.Proofs.ReceiverGroups
import JavaFacts.Proofs.TextLines
import JavaFacts.Proofs.SameTrees
import JavaFacts.Proofs.Reordering
import JavaFacts.Proofs.UnseenChanges
import JavaFacts.Proofs.FirstFault
import JavaFacts.Proofs.Paths
import JavaFacts.Proofs.CollectedFiles
import JavaFacts.Proofs.LoadedConfig
import JavaFacts.Proofs.DeclarationTexts
import JavaFacts.Proofs.StyledTexts
import JavaFacts.Proofs.CountedNodes
