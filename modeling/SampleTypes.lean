import SampleTypes.Files.Tree
import SampleTypes.Main
import SampleTypes.Proofs.Files.Actions
import SampleTypes.Proofs.Files.Paths
import SampleTypes.Proofs.Fixture.Mismatch
import SampleTypes.Proofs.Json.DocumentLines
import SampleTypes.Proofs.Naming.NamesInUse
import SampleTypes.Proofs.Naming.Numbering
import SampleTypes.Proofs.Naming.UnicodeNames
import SampleTypes.Proofs.Naming.UnmarkedNames
import SampleTypes.Proofs.Samples.Loading
import SampleTypes.Proofs.Settings.Serialized
import SampleTypes.Proofs.Shape.Batch
import SampleTypes.Proofs.Shape.Commutativity
import SampleTypes.Proofs.Shape.Least
import SampleTypes.Proofs.Shape.Stability
import SampleTypes.Proofs.Target.Clashes
import SampleTypes.Proofs.Target.Deserialization
import SampleTypes.Proofs.Target.Inlining
import SampleTypes.Proofs.Target.Imports
import SampleTypes.Proofs.Target.JsonNames
import SampleTypes.Proofs.Target.RootWrapping
import SampleTypes.Proofs.Target.SerdeNames
import SampleTypes.Proofs.Target.TypeSyntax
import SampleTypes.Proofs.Fixture.Step
import SampleTypes.Proofs.CommandLine.Delivery
import SampleTypes.Proofs.CommandLine.LineDelimited
import SampleTypes.Proofs.Fixture.Blessing
