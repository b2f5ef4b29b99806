import GivenWhenThen.Chain.Execution
import GivenWhenThen.Proofs.Canonical
import GivenWhenThen.Proofs.Chain.Building

/-! The walk over the rules of a chain as steps of a small machine. A `Position` is the rule before
and the cursor, `Position.step` takes one rule and `Position.finish` looks at what is left behind
the last one. By `walk_eq` a walk runs this machine on canonical events, although it makes events
canonical only for the rules that it comes to. So an execution that comes to an end has the verdict
of the machine, by `mismatch?_of_execute`, and it comes to an end where all events have canonical
forms, by `execute_isOk`. -/

namespace GivenWhenThen

variable {ε : Type}

/-- The exclusions of a gap. -/
def Rule.exclusions? : Rule ε → Option (List (Exclusion ε))
  | .gap exclusions => some exclusions
  | .block _ => none

/-- The events that a rule expects. -/
def Rule.expected : Rule ε → List ε
  | .gap _ => []
  | .block b => b.events

/-- The events that the rules of a chain expect. -/
def Chain.expected (chain : Chain ε) : List ε := chain.toList.flatMap Rule.expected

/-- Stops with a mismatch if there is one. -/
def stopAt : Option Mismatch → Except Mismatch Unit
  | none => .ok ()
  | some mismatch => .error mismatch

@[simp] theorem failure?_stopAt (mismatch : Option Mismatch) :
    failure? (stopAt mismatch) = mismatch := by
  cases mismatch <;> rfl

theorem Outcome.isSuccess_iff {outcome : Outcome} :
    outcome.isSuccess = true ↔ outcome.mismatch? = none := by
  simp [Outcome.isSuccess, Outcome.mismatch?]

theorem Outcome.isSuccess_iff_bare {outcome : Outcome} :
    outcome.isSuccess = true ↔ outcome.mismatch? = none ∧ outcome.message? = none := by
  simp [Outcome.isSuccess, Outcome.mismatch?, Outcome.message?]

/-- Where each mismatch of an outcome has a counterpart in another one, the success of that one is
the success of the first. -/
theorem Outcome.isSuccess_of_counterpart {outcome outcome' : Outcome}
    (h : ∀ m, outcome.mismatch? = some m → ∃ m', outcome'.mismatch? = some m')
    (hsuccess : outcome'.isSuccess = true) : outcome.isSuccess = true := by
  rw [isSuccess_iff] at hsuccess ⊢
  refine Option.eq_none_iff_forall_ne_some.2 fun m hm => ?_
  obtain ⟨m', hm'⟩ := h m hm
  rw [hsuccess] at hm'
  cases hm'

/-- How far a walk has come: the rule before, and the index of the first event that no block has
taken. -/
structure Position (ε : Type) where
  previous : Option (Rule ε) := none
  cursor : Nat := 0

namespace Position

variable (form : ε → Canonical) (observed : List ε)

/-- The exclusions of the rule before, if it is a gap. -/
def gap (p : Position ε) : Option (List (Exclusion ε)) := p.previous.bind Rule.exclusions?

/-- The position after a rule, or the mismatch that ends the walk there. -/
def step (p : Position ε) : Rule ε → Except Mismatch (Position ε)
  | .gap exclusions => .ok ⟨some (.gap exclusions), p.cursor⟩
  | .block b =>
    match Chain.place p.gap.isSome b.order (b.events.map form) (observed.map form) p.cursor with
    | .missed miss => .error (.missed b.order (b.events.map form) miss)
    | .found start => do
      stopAt (Chain.gapMismatch? p.gap observed p.cursor start)
      return ⟨some (.block b), start + b.events.length⟩

/-- Looks at the events behind the last rule. -/
def finish (p : Position ε) : Except Mismatch Unit :=
  match p.previous with
  | some (.block b) =>
    if p.cursor < observed.length then
      .error (.missed b.order (b.events.map form) (.trailing p.cursor (observed.length - 1)))
    else .ok ()
  | _ => stopAt (Chain.gapMismatch? p.gap observed p.cursor observed.length)

/-- The position after rules, or the mismatch that ends the walk at one of them. -/
def run (p : Position ε) (rules : List (Rule ε)) : Except Mismatch (Position ε) :=
  rules.foldlM (step form observed) p

/-- Takes the rules and looks at the events behind them. -/
def verdict (p : Position ε) (rules : List (Rule ε)) : Except Mismatch Unit :=
  run form observed p rules >>= finish form observed

/-- The rules that a walk comes to: those that it passes, and the one that ends it. -/
def reached (p : Position ε) : List (Rule ε) → List (Rule ε)
  | [] => []
  | rule :: rules =>
    rule ::
      match p.step form observed rule with
      | .ok next => next.reached rules
      | .error _ => []

variable {form observed}

section Block

variable {p : Position ε} {b : Block ε}

theorem step_of_missed {miss : Miss}
    (h : Chain.place p.gap.isSome b.order (b.events.map form) (observed.map form) p.cursor =
      .missed miss) :
    p.step form observed (.block b) = .error (.missed b.order (b.events.map form) miss) := by
  rw [step, h]

variable {start : Nat}
  (h : Chain.place p.gap.isSome b.order (b.events.map form) (observed.map form) p.cursor =
    .found start)
include h

theorem step_of_excluded {mismatch : Mismatch}
    (hgap : Chain.gapMismatch? p.gap observed p.cursor start = some mismatch) :
    p.step form observed (.block b) = .error mismatch := by
  simp only [step, h, hgap]
  rfl

theorem step_of_found (hgap : Chain.gapMismatch? p.gap observed p.cursor start = none) :
    p.step form observed (.block b) = .ok ⟨some (.block b), start + b.events.length⟩ := by
  simp only [step, h, hgap]
  rfl

end Block

theorem finish_block {b : Block ε} {cursor : Nat} :
    Position.finish form observed ⟨some (.block b), cursor⟩ =
      if cursor < observed.length then
        .error (.missed b.order (b.events.map form) (.trailing cursor (observed.length - 1)))
      else .ok () :=
  rfl

theorem run_append (p : Position ε) (l l' : List (Rule ε)) :
    p.run form observed (l ++ l') =
      p.run form observed l >>= fun next => next.run form observed l' :=
  List.foldlM_append

theorem verdict_cons (p : Position ε) (rule : Rule ε) (rules : List (Rule ε)) :
    p.verdict form observed (rule :: rules) =
      p.step form observed rule >>= fun next => next.verdict form observed rules := by
  rw [verdict, run, List.foldlM_cons, bind_assoc]
  rfl

/-- The rules that a walk comes to are the first ones. -/
theorem reached_prefix {p : Position ε} {rules : List (Rule ε)} :
    p.reached form observed rules <+: rules := by
  induction rules generalizing p with
  | nil => exact List.prefix_rfl
  | cons rule rules ih =>
    rw [reached, List.prefix_cons_inj]
    cases p.step form observed rule with
    | ok next => exact ih
    | error mismatch => exact List.nil_prefix

end Position

namespace Chain

variable {c : Canonicalizer ε} {observed : List ε} {l : List (Rule ε)} {stream : StreamId}

/-- The events that a walk makes canonical for the rules that it comes to. The observed events are
asked for with each block, but only the first time can matter. -/
def asked (observed : List ε) : List (Rule ε) → List ε
  | [] => []
  | .gap _ :: rest => asked observed rest
  | .block b :: rest => b.events ++ (observed ++ asked observed rest)

/-- A block on canonical events takes the step of the machine. Behind the last block, the walk looks
at the events left at once. -/
theorem walk_block {p : Position ε} {b : Block ε} {expected published : List Canonical}
    (hexpected : c.all b.events = .ok expected) (hpublished : c.all observed = .ok published) :
    walk c observed (c.all observed) p.gap p.cursor (.block b :: l) =
      match p.step c.form observed (.block b) with
      | .error mismatch => .ok (some mismatch)
      | .ok next =>
        if l = [] then .ok (failure? (next.finish c.form observed))
        else walk c observed (c.all observed) next.gap next.cursor l := by
  obtain rfl := Canonicalizer.eq_map_of_all hexpected
  obtain rfl := Canonicalizer.eq_map_of_all hpublished
  rw [walk, hexpected, hpublished]
  simp only [bind, Except.bind]
  cases hplace : place p.gap.isSome b.order (b.events.map c.form) (observed.map c.form)
      p.cursor with
  | missed miss =>
    rw [Position.step_of_missed hplace]
    rfl
  | found start =>
    cases hgap : gapMismatch? p.gap observed p.cursor start with
    | some mismatch =>
      rw [Position.step_of_excluded hplace hgap]
      simp only [hgap]
      rfl
    | none =>
      rw [Position.step_of_found hplace hgap]
      simp only [hgap, List.length_map, Bool.and_eq_true, List.isEmpty_iff, decide_eq_true_eq]
      by_cases hnil : l = []
      · simp only [hnil, true_and, if_true, Position.finish_block]
        split <;> rfl
      · simp only [hnil, false_and, if_false]
        rfl

/-- A walk makes the events canonical that it asks for, and comes to the verdict of the machine. A
walk over no rules at all does not look behind a block. -/
theorem walk_eq {p : Position ε} (hp : l ≠ [] ∨ ∀ b, p.previous ≠ some (.block b)) :
    walk c observed (c.all observed) p.gap p.cursor l =
      c.all (asked observed (p.reached c.form observed l)) >>= fun _ =>
        .ok (failure? (p.verdict c.form observed l)) := by
  induction l generalizing p with
  | nil =>
    obtain ⟨_ | _ | _, cursor⟩ := p
    · exact congrArg Except.ok (failure?_stopAt _).symm
    · exact absurd rfl (hp.resolve_left (by simp) _)
    · exact congrArg Except.ok (failure?_stopAt _).symm
  | cons rule l ih =>
    cases rule with
    | gap exclusions => exact ih (p := ⟨some (.gap exclusions), p.cursor⟩) (.inr (by simp))
    | block b =>
      rw [Position.reached, asked, Position.verdict_cons, Canonicalizer.all_append_bind,
        Canonicalizer.all_append_bind]
      -- Without the canonical forms of these events, both sides end with the same error.
      cases hexpected : c.all b.events with
      | error error =>
        rw [walk, hexpected]
        rfl
      | ok expected =>
        cases hpublished : c.all observed with
        | error error =>
          rw [walk, hexpected]
          rfl
        | ok published =>
          rw [← hpublished, walk_block hexpected hpublished]
          cases p.step c.form observed (.block b) with
          | error mismatch =>
            rw [hpublished]
            rfl
          | ok next =>
            by_cases hnil : l = []
            · subst hnil
              rw [hpublished]
              rfl
            · refine (if_neg hnil).trans ((ih (.inl hnil)).trans ?_)
              rw [hpublished]
              rfl

theorem covers_asked (hexpected : c.Covers (rules l).expected) (hobserved : c.Covers observed) :
    c.Covers (asked observed l) := by
  induction l with
  | nil => exact fun _ h => nomatch h
  | cons rule l ih =>
    have hrest := ih (hexpected.mono fun e he => List.mem_append_right _ he)
    cases rule with
    | gap exclusions => exact hrest
    | block b =>
      exact (hexpected.mono fun e he => List.mem_append_left _ he).append (hobserved.append hrest)

/-- The outcome of an execution with the given mismatch, whose diagnostic shows all observed events.
-/
def conclude (c : Canonicalizer ε) (stream : StreamId) (observed : List ε) :
    Option Mismatch → Except Error Outcome
  | none => .ok ⟨stream, none⟩
  | some mismatch =>
    c.all observed >>= fun published =>
      .ok ⟨stream, some (mismatch, mismatch.text stream published)⟩

theorem conclude_of_covers (hobserved : c.Covers observed) {mismatch : Option Mismatch} :
    conclude c stream observed mismatch =
      .ok { stream
            failure := mismatch.map
              fun mismatch => (mismatch, mismatch.text stream (observed.map c.form)) } := by
  cases mismatch with
  | none => rfl
  | some mismatch =>
    rw [conclude, Canonicalizer.all_eq_map hobserved]
    rfl

theorem execute_nothing :
    nothing.execute c stream observed =
      conclude c stream observed (if observed.isEmpty then none else some .notEmpty) := by
  cases observed <;> rfl

/-- An execution makes the events canonical that the walk asks for, and comes to the verdict of the
machine. -/
theorem execute_eq (hcheck : (rules l).check = .ok ()) :
    (rules l).execute c stream observed =
      c.all (asked observed (({} : Position ε).reached c.form observed l)) >>= fun _ =>
        conclude c stream observed (failure? (({} : Position ε).verdict c.form observed l)) := by
  have hne : l ≠ [] := by
    rintro rfl
    cases hcheck
  have hwalk : (rules l).mismatch? c observed (c.all observed) = _ :=
    walk_eq (p := {}) (.inl hne)
  rw [execute, hcheck]
  simp only [hwalk, toList_rules]
  cases c.all (asked observed (({} : Position ε).reached c.form observed l)) with
  | error error => rfl
  | ok asked => cases failure? (({} : Position ε).verdict c.form observed l) <;> rfl

/-- An execution that comes to an end comes to the verdict of the machine. -/
theorem mismatch?_of_execute {outcome : Outcome}
    (h : (rules l).execute c stream observed = .ok outcome) :
    outcome.stream = stream ∧
      outcome.mismatch? = failure? (({} : Position ε).verdict c.form observed l) := by
  obtain ⟨_, hcheck, -⟩ := bind_eq_ok_iff.1 h
  rw [execute_eq hcheck] at h
  obtain ⟨_, -, h⟩ := bind_eq_ok_iff.1 h
  cases hverdict : failure? (({} : Position ε).verdict c.form observed l) with
  | none =>
    rw [hverdict] at h
    cases h
    exact ⟨rfl, rfl⟩
  | some mismatch =>
    rw [hverdict] at h
    obtain ⟨published, -, h⟩ := bind_eq_ok_iff.1 h
    cases h
    exact ⟨rfl, rfl⟩

/-- With canonical forms for all events, an execution comes to an end, and the diagnostic of its
mismatch shows the canonical forms. -/
theorem execute_eq_ok (hcheck : (rules l).check = .ok ())
    (hexpected : c.Covers (rules l).expected) (hobserved : c.Covers observed) :
    (rules l).execute c stream observed =
      .ok { stream
            failure := (failure? (({} : Position ε).verdict c.form observed l)).map
              fun mismatch => (mismatch, mismatch.text stream (observed.map c.form)) } := by
  have hreached : c.Covers (rules (({} : Position ε).reached c.form observed l)).expected :=
    hexpected.mono fun e he => by
      obtain ⟨rule, hrule, he⟩ := List.mem_flatMap.1 he
      exact List.mem_flatMap.2 ⟨rule, Position.reached_prefix.subset hrule, he⟩
  rw [execute_eq hcheck, Canonicalizer.all_eq_map (covers_asked hreached hobserved)]
  exact conclude_of_covers hobserved

/-- A chain with rules is executed to an end if all events have canonical forms. -/
theorem execute_isOk (stream : StreamId) (hw : (rules l).WellFormed) (hne : l ≠ [])
    (hexpected : c.Covers (rules l).expected) (hobserved : c.Covers observed) :
    ∃ outcome, (rules l).execute c stream observed = .ok outcome :=
  ⟨_, execute_eq_ok (hw.check_eq_ok hne) hexpected hobserved⟩

end Chain

end GivenWhenThen
