import GivenWhenThen.Json.Reader
import GivenWhenThen.Main
import GivenWhenThen.Proofs.Chain.Concatenation
import GivenWhenThen.Proofs.Chain.Failure
import GivenWhenThen.Proofs.Run.Lifecycle
import GivenWhenThen.Scripted.Machine
import GivenWhenThen.Proofs.Chain.Refusal
import GivenWhenThen.Proofs.Chain.Eager
import GivenWhenThen.Proofs.Chain.Laziness
import GivenWhenThen.Proofs.OrderedMap
import GivenWhenThen.Proofs.Scenario.Projection
import GivenWhenThen.Proofs.Run.Report
import GivenWhenThen.Proofs.Run.Acceptance
import GivenWhenThen.Proofs.Chain.Separated
import GivenWhenThen.Proofs.Run.Record
import GivenWhenThen.Proofs.Run.Origin
import GivenWhenThen.Proofs.Run.Timing
import GivenWhenThen.Proofs.Run.Expectation
import GivenWhenThen.Proofs.Chain.AnyOrder
import GivenWhenThen.Proofs.Chain.Exclusion
import GivenWhenThen.Proofs.Chain.Diagnostic
import GivenWhenThen.Proofs.Json.Canonical
import GivenWhenThen.Proofs.Chain.Blame
import GivenWhenThen.Proofs.Chain.Joining
import GivenWhenThen.Proofs.Chain.Reordering
import GivenWhenThen.Proofs.Chain.Loosening
import GivenWhenThen.Proofs.Chain.Bounds
import GivenWhenThen.Proofs.Text.Containment
import GivenWhenThen.Proofs.Run.Independence
import GivenWhenThen.Proofs.Text.AsciiCase
import GivenWhenThen.Proofs.Bank.Conservation
import GivenWhenThen.Proofs.Bank.Isolation
import GivenWhenThen.Proofs.Chain.InRange
