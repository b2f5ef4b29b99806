import Mathlib.Logic.Relation
import Mathlib.Tactic.SplitIfs
import GivenWhenThen.Scripted.Fault

/-! How the expectations of an error hang together. A test of the type looks at the error alone, or
also at the errors behind it, which `Descends` follows from source to source to the last one, and so
does the walk, by `descends_chain`. `check_laws` relates the tests to each other, for errors of any
types with any number of errors behind them. -/

namespace GivenWhenThen

variable {χ : Type}

/-- The list leads from an error through the nearest cause of each to one that has no cause. -/
inductive Descends (source : χ → Option χ) : χ → List χ → Prop
  | root {fault : χ} (last : source fault = none) : Descends source fault [fault]
  | cause {fault cause : χ} {chain : List χ} (next : source fault = some cause)
      (rest : Descends source cause chain) : Descends source fault (fault :: chain)

namespace Descends

open Relation

variable {source : χ → Option χ} {fault e : χ} {chain chain' : List χ}

theorem unique (h : Descends source fault chain) (h' : Descends source fault chain') :
    chain = chain' := by
  induction h generalizing chain' with
  | root last =>
    cases h' with
    | root => rfl
    | cause next =>
      rw [last] at next
      cases next
  | cause next rest ih =>
    cases h' with
    | root last =>
      rw [last] at next
      cases next
    | cause next' rest' =>
      rw [next] at next'
      cases next'
      rw [ih rest']

/-- The list holds the errors that causes lead to, and no others. -/
theorem mem_iff (h : Descends source fault chain) :
    e ∈ chain ↔ ReflTransGen (fun e cause => source e = some cause) fault e := by
  induction h with
  | @root fault last =>
    rw [List.mem_singleton]
    constructor
    · rintro rfl
      exact .refl
    · intro h
      rcases ReflTransGen.cases_head_iff.1 h with heq | ⟨cause, hcause, -⟩
      · exact heq.symm
      · rw [last] at hcause
        cases hcause
  | @cause fault cause chain next rest ih =>
    rw [List.mem_cons, ih]
    constructor
    · rintro (rfl | h)
      · exact .refl
      · exact .head next h
    · intro h
      rcases ReflTransGen.cases_head_iff.1 h with heq | ⟨other, hother, h⟩
      · exact .inl heq.symm
      · rw [next] at hother
        cases hother
        exact .inr h

end Descends

namespace FaultView

variable (view : FaultView χ)

/-- The walk from source to source comes to the last error. -/
theorem descends_chain (fault : χ) : Descends view.source fault (view.chain fault) := by
  induction fault using view.finite.induction with
  | _ fault ih =>
    rw [chain]
    split
    · next hsource => exact .root hsource
    · next cause hsource => exact .cause hsource (ih cause hsource)

/-- The errors of the type. -/
abbrev OfType (type : FaultType) : Type := {fault : χ // view.typeId fault = type.id}

/-- A condition on the errors of one type, as one that no error of another type meets. -/
def within {type : FaultType} (holds : view.OfType type → Bool) (fault : χ) : Bool :=
  if h : view.typeId fault = type.id then holds ⟨fault, h⟩ else false

end FaultView

namespace FaultExpectation

variable {view : FaultView χ} {fault : χ} {type : FaultType} {holds : χ → Bool}

/-- What is expected of the error of a command fails by an assertion. -/
theorem isAssertion_of_check {expectation : FaultExpectation χ} {error : Error}
    (h : expectation.check view fault = .error error) : error.isAssertion = true := by
  cases expectation with
  | message expected | condition holds | isType type | causedBy type =>
    rw [check] at h
    split_ifs at h
    cases h
    rfl
  | isTypeAnd type holds =>
    rw [check] at h
    split_ifs at h
    · cases h
      rfl
    · cases h
      rfl

theorem check_condition_eq_ok_iff :
    (condition holds).check view fault = .ok () ↔ holds fault = true := by
  rw [check]
  split_ifs with h <;> simp [h]

theorem check_isType_eq_ok_iff :
    (isType type).check view fault = .ok () ↔ view.typeId fault = type.id := by
  rw [check]
  split_ifs with h <;> simp [h]

theorem check_isTypeAnd_of_ne (h : view.typeId fault ≠ type.id) :
    (isTypeAnd type holds).check view fault = (isType type).check view fault := by
  rw [check, check, if_pos h, if_neg h]

theorem check_isTypeAnd_of_eq (h : view.typeId fault = type.id) :
    (isTypeAnd type holds).check view fault = (condition holds).check view fault := by
  rw [check, check, if_neg (not_not_intro h)]

theorem check_causedBy_eq_ok_iff :
    (causedBy type).check view fault = .ok () ↔
      ∃ e ∈ view.chain fault, view.typeId e = type.id := by
  rw [check]
  split_ifs with h
  · simpa using h
  · simpa using h

theorem check_causedBy_of_isType (h : (isType type).check view fault = .ok ()) :
    (causedBy type).check view fault = .ok () := by
  refine check_causedBy_eq_ok_iff.2 ⟨fault, ?_, check_isType_eq_ok_iff.1 h⟩
  exact (view.descends_chain fault).mem_iff.2 .refl

/-- The test of one type with a condition holds of errors of the type that meet the condition. -/
theorem check_isTypeAnd_eq_ok_iff {holds : view.OfType type → Bool} :
    (isTypeAnd type (view.within holds)).check view fault = .ok () ↔
      ∃ htype : view.typeId fault = type.id, holds ⟨fault, htype⟩ = true := by
  by_cases htype : view.typeId fault = type.id
  · rw [check_isTypeAnd_of_eq htype, check_condition_eq_ok_iff, FaultView.within, dif_pos htype]
    simp [htype]
  · rw [check_isTypeAnd_of_ne htype, check_isType_eq_ok_iff]
    simp [htype]

/-- The test that walks from source to source holds if it comes to an error of the type, and
otherwise fails with a line for each error on the way, from the first to the last. It holds wherever
the test of the error alone holds, and nowhere else if there is no source. The test with a condition
adds that the error, as one of the type, meets the condition. On an error of another type it fails
as the test without the condition does, and on an error of the type, such as any that a command
returns where the type is that of its errors, it does what the condition alone does. Each of the
tests, and that of the message, fails by an assertion. -/
theorem check_laws (view : FaultView χ) (fault : χ) (type : FaultType)
    (holds : view.OfType type → Bool) :
    ((causedBy type).check view fault = .ok () ↔
      ∃ e, Relation.ReflTransGen (fun e cause => view.source e = some cause) fault e ∧
        view.typeId e = type.id) ∧
    ((causedBy type).check view fault = .ok () ∨
      ∃ chain, Descends view.source fault chain ∧
        (causedBy type).check view fault = .error (.assertionFailed
          ("Returned error was not caused by the expected type.\nExpected: " ++ type.name ++
            ".\nError chain:\n" ++
            "\n".intercalate (chain.map fun e => "- " ++ view.message e)))) ∧
    ((isType type).check view fault = .ok () ↔ view.typeId fault = type.id) ∧
    ((isType type).check view fault = .ok () → (causedBy type).check view fault = .ok ()) ∧
    (view.source fault = none →
      ((isType type).check view fault = .ok () ↔ (causedBy type).check view fault = .ok ())) ∧
    ((isTypeAnd type (view.within holds)).check view fault = .ok () ↔
      (isType type).check view fault = .ok () ∧
        ∃ htype : view.typeId fault = type.id, holds ⟨fault, htype⟩ = true) ∧
    ((isType type).check view fault ≠ .ok () →
      (isTypeAnd type (view.within holds)).check view fault = (isType type).check view fault ∧
      (isType type).check view fault = .error (.assertionFailed
        ("Error of unexpected type was returned.\nExpected: " ++ type.name ++ ".\nActual: " ++
          view.own.name ++ "."))) ∧
    (view.typeId fault = type.id → ∀ unrestricted : χ → Bool,
      (∀ e : view.OfType type, unrestricted e = holds e) →
      (isTypeAnd type (view.within holds)).check view fault =
        (condition unrestricted).check view fault) ∧
    ∀ (expectation : FaultExpectation χ) (error : Error),
      expectation.check view fault = .error error → error.isAssertion = true := by
  have hchain := view.descends_chain fault
  refine ⟨?_, ?_, check_isType_eq_ok_iff, check_causedBy_of_isType, fun hsource => ?_, ?_,
    fun hfails => ?_, fun htype unrestricted hsame => ?_, fun _ _ => isAssertion_of_check⟩
  · rw [check_causedBy_eq_ok_iff]
    simp only [hchain.mem_iff]
  · by_cases hany : (view.chain fault).any fun e => view.typeId e == type.id
    · left
      rw [check, if_pos hany]
    · right
      refine ⟨_, hchain, ?_⟩
      rw [check, if_neg hany, unexpectedCauses]
  · rw [check_causedBy_eq_ok_iff, hchain.unique (.root hsource), check_isType_eq_ok_iff]
    simp
  · rw [check_isTypeAnd_eq_ok_iff, check_isType_eq_ok_iff]
    constructor
    · rintro ⟨htype, hholds⟩
      exact ⟨htype, htype, hholds⟩
    · rintro ⟨-, hholds⟩
      exact hholds
  · have htype : view.typeId fault ≠ type.id := mt check_isType_eq_ok_iff.2 hfails
    refine ⟨check_isTypeAnd_of_ne htype, ?_⟩
    rw [check, if_neg htype, unexpectedType]
  · have hwithin : view.within holds fault = unrestricted fault := by
      rw [FaultView.within, dif_pos htype]
      exact (hsame ⟨fault, htype⟩).symm
    rw [check_isTypeAnd_of_eq htype, check, check, hwithin]

end FaultExpectation

namespace Scripted.Fault

def commandError : FaultType := ⟨0, "CommandError"⟩

def storageError : FaultType := ⟨1, "StorageError"⟩

def networkError : FaultType := ⟨2, "NetworkError"⟩

/-- Another type of the same name. -/
def foreignNetworkError : FaultType := ⟨3, "NetworkError"⟩

/-- A command that failed because the storage did, which did because of the network. -/
def unstored : Fault :=
  ⟨⟨commandError, "CommandError", "not stored", 1⟩,
    [⟨storageError, "StorageError", "disk gone", 2⟩, ⟨networkError, "NetworkError", "down", 3⟩]⟩

end Scripted.Fault

namespace FaultExpectation

open Scripted.Fault

/-- The walk comes to the error of the network, and not to one of another type of that name. -/
theorem check_laws_unstored :
    (causedBy networkError).check (view commandError) unstored = .ok () ∧
    (isType networkError).check (view commandError) unstored = .error (.assertionFailed
      ("Error of unexpected type was returned.\nExpected: NetworkError" ++
        ".\nActual: CommandError.")) ∧
    (causedBy foreignNetworkError).check (view commandError) unstored = .error (.assertionFailed
      ("Returned error was not caused by the expected type.\nExpected: NetworkError" ++
        ".\nError chain:\n- not stored\n- disk gone\n- down")) := by
  obtain ⟨hnetwork, -, htype, -, -, -, hother, -⟩ :=
    check_laws (view commandError) unstored networkError fun _ => true
  obtain ⟨-, hforeign, -⟩ :=
    check_laws (view commandError) unstored foreignNetworkError fun _ => true
  have hchain : Descends (view commandError).source unstored
      [unstored, ⟨⟨storageError, "StorageError", "disk gone", 2⟩,
        [⟨networkError, "NetworkError", "down", 3⟩]⟩,
        ⟨⟨networkError, "NetworkError", "down", 3⟩, []⟩] :=
    .cause rfl (.cause rfl (.root rfl))
  refine ⟨hnetwork.2 ⟨_, .head rfl (.head rfl .refl), rfl⟩, ?_, ?_⟩
  · refine (hother fun hok => ?_).2
    have hne : (view commandError).typeId unstored ≠ networkError.id := by decide
    exact hne (htype.1 hok)
  · rcases hforeign with hok | ⟨chain, hdescends, herror⟩
    · obtain ⟨e, he, hid⟩ := check_causedBy_eq_ok_iff.1 hok
      rw [((view commandError).descends_chain unstored).unique hchain] at he
      simp only [List.mem_cons, List.not_mem_nil, or_false] at he
      obtain rfl | rfl | rfl := he <;> cases hid
    · rw [herror, hdescends.unique hchain]
      rfl

end FaultExpectation

end GivenWhenThen
