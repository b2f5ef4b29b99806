import GivenWhenThen.Fault.Expectation

/-! Errors of several types, each with a message and a code, and the errors that caused them. -/

namespace GivenWhenThen.Scripted

/-- One error of a chain. -/
structure Layer where
  type : FaultType
  /-- The name of the type without the modules around it. -/
  shortName : String
  message : String
  code : Int := 0
deriving DecidableEq, Repr

/-- An error and what caused it, nearest cause first. -/
structure Fault where
  head : Layer
  causes : List Layer := []
deriving DecidableEq, Repr

namespace Fault

/-- The nearest cause of an error, with the causes behind it. -/
def source : Fault → Option Fault
  | ⟨_, []⟩ => none
  | ⟨_, head :: causes⟩ => some ⟨head, causes⟩

theorem length_causes_of_source {fault cause : Fault} (h : fault.source = some cause) :
    cause.causes.length < fault.causes.length := by
  obtain ⟨head, _ | ⟨next, causes⟩⟩ := fault
  · cases h
  · cases h
    exact Nat.lt_succ_self _

/-- The errors of commands that return errors of the type `own`. -/
def view (own : FaultType) : FaultView Fault where
  own
  typeId fault := fault.head.type.id
  message fault := fault.head.message
  dump fault :=
    fault.head.shortName ++ "<" ++ fault.head.message ++ "|" ++ toString fault.head.code ++ ">"
  source := source
  finite :=
    Subrelation.wf length_causes_of_source (measure fun fault : Fault => fault.causes.length).wf

end Fault

end GivenWhenThen.Scripted
