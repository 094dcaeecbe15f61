import RoadSpeed.Profile.Dump
import RoadSpeed.Quantity
import RoadSpeed.Proofs.Edge.Bound
import RoadSpeed.Proofs.Edge.Numbering
import RoadSpeed.Proofs.Model.Answers
import RoadSpeed.Proofs.Profile.Meaning
import RoadSpeed.Proofs.Tables.Validation
import RoadSpeed.Proofs.Tag.Interning
import RoadSpeed.Proofs.Number.Product
import RoadSpeed.Proofs.Quantity
import RoadSpeed.Proofs.Number.Whole
import RoadSpeed.Proofs.Model.Passability
import RoadSpeed.Proofs.Edge.Times
import RoadSpeed.Proofs.Model.Proper
import RoadSpeed.Proofs.Fleet.Agreement
import RoadSpeed.Proofs.Edge.Ways
import RoadSpeed.Proofs.Profile.Acceptance
import RoadSpeed.Proofs.Profile.Application
import RoadSpeed.Proofs.Edge.Atomicity
import RoadSpeed.Proofs.Edge.Reversal
import RoadSpeed.Proofs.Limit.Admission
import RoadSpeed.Proofs.Fleet.Fallback
import RoadSpeed.Proofs.Profile.Applicability
import RoadSpeed.Proofs.Model.UnderLimit
import RoadSpeed.Proofs.Model.Variant
import RoadSpeed.Proofs.Profile.Locality
import RoadSpeed.Proofs.Profile.Composition
import RoadSpeed.Proofs.Model.Extension
import RoadSpeed.Proofs.Profile.Order
import RoadSpeed.Proofs.Edge.Indifference
import RoadSpeed.Proofs.Edge.Tightening
import RoadSpeed.Proofs.Tag.Naming
