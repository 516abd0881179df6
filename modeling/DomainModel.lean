import DomainModel.Compile
import DomainModel.Encoding.Model
import DomainModel.Proofs.FirstFailure
import DomainModel.Proofs.OrderedMap
import DomainModel.Report
import DomainModel.Proofs.OptionTable
import DomainModel.Proofs.OptionMerging
import DomainModel.Proofs.BuildOutcome
import DomainModel.Proofs.FirstViolation
import DomainModel.Proofs.Concatenation
import DomainModel.Proofs.Erasure
import DomainModel.Proofs.Locations
import DomainModel.Proofs.Flattening
import DomainModel.Proofs.DeclarationOrder
import DomainModel.Proofs.Wildcards
import DomainModel.Proofs.JsonEquality
import DomainModel.Proofs.Serialisation
import DomainModel.Proofs.Redeclaration
import DomainModel.Proofs.MergeCalls
import DomainModel.Proofs.Reports
import DomainModel.Proofs.Relationships
import DomainModel.Proofs.PageOutline
import DomainModel.Proofs.CommentMarkers
import DomainModel.Proofs.Regrouping
import DomainModel.Proofs.RepeatedNames
import DomainModel.Proofs.PackageFolder
import DomainModel.Proofs.Separators
import DomainModel.Proofs.WrittenOptions
import DomainModel.Proofs.SelectorValues
import DomainModel.Proofs.InjectedFields
import DomainModel.Proofs.DataBlocks
import DomainModel.Proofs.EntryUnion
import DomainModel.Proofs.Spelling
import DomainModel.Proofs.SelectorSpans
import DomainModel.Proofs.FirstOccurrences
import DomainModel.Proofs.FailurePlaces
