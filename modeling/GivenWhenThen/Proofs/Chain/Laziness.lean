import GivenWhenThen.Proofs.Chain.Eager

/-! Which events an execution makes canonical, and which error it ends with if one of them has no
canonical form. The first block asks for its expected events and then for the observed ones, and
each block behind it asks for its expected events if the walk comes to it. By
`lazy_execution` the first failure in this order is the error of the execution, a chain without
blocks asks for the observed events only to show them, and where nothing fails, the execution is the
eager one. -/

namespace GivenWhenThen

variable {ε : Type}

/-- The walk comes to the first `n` rules and to no other ones: cursors follow the rules before each
of them. -/
def Reaches (form : ε → Canonical) (rules : List (Rule ε)) (observed : List ε) (n : Nat) : Prop :=
  n ≤ rules.length ∧
    ∀ i < rules.length, i < n ↔ ∃ cursor, Placed form (rules.take i) observed cursor

namespace Chain

/-- The events that are made canonical for rules, in this order: the expected ones of the first
block, the observed ones, and the expected ones of the blocks behind. -/
def demand (observed : List ε) : List (Rule ε) → List ε
  | [] => observed
  | .gap _ :: rest => demand observed rest
  | .block b :: rest => b.events ++ (observed ++ (rules rest).expected)

/-- The events that an execution of the chain makes canonical, in this order, up to the first that
has no canonical form. -/
def requests (c : Canonicalizer ε) (observed : List ε) (chain : Chain ε) : List ε :=
  demand observed (({} : Position ε).reached c.form observed chain.toList)

/-- What a chain without blocks asks of the events of a stream. -/
def Permits (chain : Chain ε) (observed : List ε) : Prop :=
  (chain.isNothing = true → observed = []) ∧
    ∀ exclusions, .gap exclusions ∈ chain.toList → ∀ event ∈ observed, ¬Excludes exclusions event

end Chain

variable {form : ε → Canonical} {observed : List ε} {l : List (Rule ε)}

/-! ### The rules that a walk comes to -/

theorem Position.reached_eq_take (form : ε → Canonical) (observed : List ε) (l : List (Rule ε))
    (p : Position ε) :
    ∃ n ≤ l.length, p.reached form observed l = l.take n ∧
      ∀ i < l.length, i < n ↔ ∃ q, p.run form observed (l.take i) = .ok q := by
  induction l generalizing p with
  | nil => exact ⟨0, Nat.le_refl _, rfl, nofun⟩
  | cons rule l ih =>
    have hzero : ∃ q, p.run form observed ((rule :: l).take 0) = .ok q := ⟨p, rfl⟩
    cases hstep : p.step form observed rule with
    | error mismatch =>
      refine ⟨1, by simp, by rw [reached, hstep, List.take_succ_cons, List.take_zero],
        fun i _ => ?_⟩
      cases i with
      | zero => exact ⟨fun _ => hzero, fun _ => Nat.one_pos⟩
      | succ i => simp [run, hstep, bind, Except.bind]
    | ok next =>
      obtain ⟨n, hn, hreached, hruns⟩ := ih next
      refine ⟨n + 1, Nat.succ_le_succ hn, ?_, fun i hi => ?_⟩
      · rw [reached, hstep, List.take_succ_cons, ← hreached]
      · cases i with
        | zero => exact ⟨fun _ => hzero, fun _ => Nat.succ_pos n⟩
        | succ i =>
          rw [Nat.succ_lt_succ_iff, hruns i (Nat.lt_of_succ_lt_succ hi), List.take_succ_cons, run,
            run, List.foldlM_cons, hstep]
          rfl

theorem exists_reaches (form : ε → Canonical) (observed : List ε)
    (hfilled : ∀ rule ∈ l, rule.Filled) :
    ∃ n, Reaches form l observed n ∧ ({} : Position ε).reached form observed l = l.take n := by
  obtain ⟨n, hn, hreached, hruns⟩ := Position.reached_eq_take form observed l {}
  refine ⟨n, ⟨hn, fun i hi => ?_⟩, hreached⟩
  rw [hruns i hi]
  simp only [Position.run_eq_ok_iff fun rule hr => hfilled rule (List.mem_of_mem_take hr)]
  exact ⟨fun ⟨_, cursor, placed, _⟩ => ⟨cursor, placed⟩,
    fun ⟨cursor, placed⟩ => ⟨_, cursor, placed, rfl⟩⟩

/-- A walk passes the gaps before the first block. -/
theorem Position.exists_block_reached (p : Position ε) (form : ε → Canonical) (observed : List ε)
    (h : ∃ b, .block b ∈ l) : ∃ b, .block b ∈ p.reached form observed l := by
  induction l generalizing p with
  | nil => exact absurd h (by simp)
  | cons rule l ih =>
    cases rule with
    | block b => exact ⟨b, List.mem_cons_self⟩
    | gap exclusions =>
      obtain ⟨b, hb⟩ := ih ⟨some (.gap exclusions), p.cursor⟩ (by simpa using h)
      exact ⟨b, List.mem_cons_of_mem _ hb⟩

namespace Chain

variable {c : Canonicalizer ε} {stream : StreamId} {error : Error} {chain : Chain ε}

/-! ### The events that rules ask for -/

/-- Behind the first block, the observed events have canonical forms. -/
theorem firstError_asked_behind (hobserved : c.Covers observed) :
    c.FirstError (asked observed l) error ↔ c.FirstError (rules l).expected error := by
  have hnone : ¬c.FirstError observed error := fun h => h.not_covers hobserved
  induction l with
  | nil => rfl
  | cons rule l ih =>
    cases rule with
    | gap exclusions => exact ih
    | block b =>
      have hexpected : (rules (.block b :: l)).expected = b.events ++ (rules l).expected := rfl
      rw [asked, hexpected, Canonicalizer.firstError_append_iff,
        Canonicalizer.firstError_append_iff, Canonicalizer.firstError_append_iff]
      simp only [hnone, hobserved, ih, false_or, true_and]

/-- What blocks ask for is the order in which events are made canonical. -/
theorem firstError_asked_iff (h : ∃ b, .block b ∈ l) :
    c.FirstError (asked observed l) error ↔ c.FirstError (demand observed l) error := by
  induction l with
  | nil => exact absurd h (by simp)
  | cons rule l ih =>
    cases rule with
    | gap exclusions => exact ih (by simpa using h)
    | block b =>
      rw [asked, demand, Canonicalizer.firstError_append_iff, Canonicalizer.firstError_append_iff,
        Canonicalizer.firstError_append_iff, Canonicalizer.firstError_append_iff]
      exact or_congr_right <| and_congr_right fun _ => or_congr_right <|
        and_congr_right fun hobserved => firstError_asked_behind hobserved

theorem covers_of_asked (h : ∃ b, .block b ∈ l) (hasked : c.Covers (asked observed l)) :
    c.Covers observed := by
  induction l with
  | nil => exact absurd h (by simp)
  | cons rule l ih =>
    cases rule with
    | gap exclusions => exact ih (by simpa using h) hasked
    | block b =>
      exact hasked.mono fun e he => List.mem_append_right _ (List.mem_append_left _ he)

theorem asked_of_no_block (h : ∀ b, .block b ∉ l) : asked observed l = [] := by
  induction l with
  | nil => rfl
  | cons rule l ih =>
    cases rule with
    | gap exclusions => exact ih fun b hb => h b (List.mem_cons_of_mem _ hb)
    | block b => exact absurd List.mem_cons_self (h b)

theorem demand_of_no_block (h : ∀ b, .block b ∉ l) : demand observed l = observed := by
  induction l with
  | nil => rfl
  | cons rule l ih =>
    cases rule with
    | gap exclusions => exact ih fun b hb => h b (List.mem_cons_of_mem _ hb)
    | block b => exact absurd List.mem_cons_self (h b)

/-! ### The error of an execution -/

variable {mismatch : Option Mismatch}

theorem conclude_eq_error_iff :
    conclude c stream observed mismatch = .error error ↔
      mismatch ≠ none ∧ c.FirstError observed error := by
  cases mismatch with
  | none => simp [conclude]
  | some mismatch =>
    rw [conclude, bind_eq_error_iff, Canonicalizer.all_eq_error_iff]
    simp

/-- The diagnostic of a mismatch fails just if one of the events that it shows has no canonical
form. -/
theorem exists_conclude_eq_error_iff (hmismatch : mismatch ≠ none) :
    (∃ error, conclude c stream observed mismatch = .error error) ↔
      ∃ event ∈ observed, ∃ error, c.canonical event = .error error := by
  simp only [conclude_eq_error_iff, hmismatch, ne_eq, not_false_eq_true, true_and]
  constructor
  · rintro ⟨error, herror⟩
    obtain ⟨event, hmem, hevent⟩ := herror.exists_mem
    exact ⟨event, hmem, error, hevent⟩
  · rintro ⟨event, hmem, error, hevent⟩
    refine (Canonicalizer.covers_or_firstError c observed).resolve_left fun hcovers => ?_
    obtain ⟨form, hform⟩ := hcovers event hmem
    rw [hevent] at hform
    cases hform

theorem isSuccess_of_conclude {outcome : Outcome} (hmismatch : mismatch ≠ none)
    (h : conclude c stream observed mismatch = .ok outcome) : outcome.isSuccess = false := by
  obtain ⟨mismatch, rfl⟩ := Option.ne_none_iff_exists'.1 hmismatch
  obtain ⟨published, -, h⟩ := bind_eq_ok_iff.1 h
  cases h
  rfl

/-- The error of a chain with blocks is the first one of the events that the rules ask for. -/
theorem execute_eq_error_iff (hcheck : (rules l).check = .ok ()) (h : ∃ b, .block b ∈ l) :
    (rules l).execute c stream observed = .error error ↔
      c.FirstError (demand observed (({} : Position ε).reached c.form observed l)) error := by
  have hreached := Position.exists_block_reached {} c.form observed h
  rw [execute_eq hcheck, bind_eq_error_iff, Canonicalizer.all_eq_error_iff,
    firstError_asked_iff hreached]
  -- Once the events are canonical that the rules ask for, the diagnostic cannot fail any more.
  refine or_iff_left ?_
  rintro ⟨forms, hforms, hconclude⟩
  rcases Canonicalizer.covers_or_firstError c
    (asked observed (({} : Position ε).reached c.form observed l)) with hcovers | ⟨e, he⟩
  · exact (conclude_eq_error_iff.1 hconclude).2.not_covers (covers_of_asked hreached hcovers)
  · rw [Canonicalizer.all_eq_error_iff.2 he] at hforms
    cases hforms

/-- Rules without a block are a gap alone, since gaps are no neighbours of each other. -/
theorem WellFormed.exists_eq_gap (hwellFormed : (rules l).WellFormed) (hne : l ≠ [])
    (h : ∀ b, .block b ∉ l) : ∃ exclusions, l = [.gap exclusions] := by
  obtain _ | ⟨_ | exclusions, _ | ⟨_ | _, rest⟩⟩ := l
  · exact absurd rfl hne
  · exact absurd List.mem_cons_self (h _)
  · exact absurd List.mem_cons_self (h _)
  · exact absurd List.mem_cons_self (h _)
  · exact ⟨exclusions, rfl⟩
  · exact absurd (List.mem_cons_of_mem _ List.mem_cons_self) (h _)
  · exact absurd ⟨rfl, rfl⟩ (List.isChain_cons_cons.1 hwellFormed.separate).1

theorem verdict_gap_eq_ok_iff {exclusions : List (Exclusion ε)} :
    ({} : Position ε).verdict form observed [.gap exclusions] = .ok () ↔
      (rules [.gap exclusions]).Permits observed := by
  have hverdict : ({} : Position ε).verdict form observed [.gap exclusions] =
      Position.finish form observed ⟨some (.gap exclusions), 0⟩ := rfl
  rw [hverdict, Position.finish_eq_ok_iff]
  simp only [Permits, isNothing_rules, toList_rules, Bool.false_eq_true, List.mem_singleton,
    Rule.gap.injEq, forall_eq, Option.some.injEq, reduceCtorEq, false_implies, implies_true,
    true_and]
  constructor
  · intro hfree event hmem
    obtain ⟨i, hi, rfl⟩ := List.mem_iff_getElem.1 hmem
    exact hfree exclusions rfl i (Nat.zero_le i) hi _ (List.getElem?_eq_getElem hi)
  · rintro hfree _ rfl i - - event hevent
    exact hfree event (List.mem_of_getElem? hevent)

/-- Without a block, events are made canonical for the diagnostic only, which a chain asks for that
does not permit the events. -/
theorem execute_of_no_block (c : Canonicalizer ε) (stream : StreamId) (observed : List ε)
    (hwellFormed : chain.WellFormed)
    (hrules : chain.isNothing = true ∨ chain.toList ≠ []) (h : ∀ b, .block b ∉ chain.toList) :
    ∃ mismatch, (mismatch = none ↔ chain.Permits observed) ∧
      chain.execute c stream observed = conclude c stream observed mismatch := by
  obtain rfl | ⟨l, rfl⟩ := hwellFormed.eq_nothing_or_rules
  · cases observed with
    | nil => exact ⟨none, by simp [Permits], rfl⟩
    | cons e observed => exact ⟨some .notEmpty, by simp [Permits], rfl⟩
  · have hne : l ≠ [] := hrules.resolve_left nofun
    have hnone : ∀ b, .block b ∉ ({} : Position ε).reached c.form observed l := fun b hb =>
      h b (Position.reached_prefix.subset hb)
    refine ⟨_, ?_, by rw [execute_eq (hwellFormed.check_eq_ok hne), asked_of_no_block hnone]; rfl⟩
    obtain ⟨exclusions, rfl⟩ := hwellFormed.exists_eq_gap hne h
    rw [failure?_eq_none_iff, verdict_gap_eq_ok_iff]

/-- The error of an execution is the first one of the events that the rules ask for. -/
theorem firstError_of_execute (hwellFormed : chain.WellFormed)
    (hrules : chain.isNothing = true ∨ chain.toList ≠ [])
    (h : chain.execute c stream observed = .error error) :
    c.FirstError
      (demand observed (({} : Position ε).reached c.form observed chain.toList)) error := by
  by_cases hblock : ∃ b, .block b ∈ chain.toList
  · obtain rfl | ⟨l, rfl⟩ := hwellFormed.eq_nothing_or_rules
    · exact absurd hblock (by simp)
    · have hcheck := hwellFormed.check_isOk hrules
      exact (execute_eq_error_iff hcheck hblock).1 h
  · have hnone : ∀ b, .block b ∉ chain.toList := fun b hb => hblock ⟨b, hb⟩
    obtain ⟨mismatch, -, hexecute⟩ := execute_of_no_block c stream observed hwellFormed
      hrules hnone
    rw [demand_of_no_block fun b hb => hnone b (Position.reached_prefix.subset hb)]
    exact (conclude_eq_error_iff.1 (hexecute.symm.trans h)).2

/-- An execution agrees with the eager one where all events have canonical forms. An error is the
one of the first event without a form among those that the rules ask for, in their order, and each
such event leads to an error if the chain has blocks. A chain without blocks that permits the events
makes none of them canonical, and another one fails just if an observed event has no form. -/
theorem lazy_execution (hbuilt : chain.Built)
    (hrules : chain.isNothing = true ∨ chain.toList ≠ []) :
    (c.Covers chain.expected → c.Covers observed →
      chain.execute c stream observed =
        .ok ((chain.viewed c).executeViews stream (observed.map (chain.view c)))) ∧
    (∃ n, Reaches c.form chain.toList observed n ∧
      (∀ error, chain.execute c stream observed = .error error →
        c.FirstError (demand observed (chain.toList.take n)) error) ∧
      ((∃ b, .block b ∈ chain.toList) → ∀ error,
        c.FirstError (demand observed (chain.toList.take n)) error →
          chain.execute c stream observed = .error error)) ∧
    ((∀ b, .block b ∉ chain.toList) →
      (chain.Permits observed → chain.execute c stream observed = .ok ⟨stream, none⟩) ∧
      (¬chain.Permits observed →
        ((∃ error, chain.execute c stream observed = .error error) ↔
          ∃ event ∈ observed, ∃ error, c.canonical event = .error error) ∧
        ∀ outcome, chain.execute c stream observed = .ok outcome →
          outcome.isSuccess = false)) := by
  have hwellFormed := hbuilt.wellFormed
  refine ⟨execute_eq_executeViews stream hwellFormed hrules, ?_,
    fun hblock => ?_⟩
  · obtain ⟨n, hn, hreached⟩ := exists_reaches c.form observed hwellFormed.filled
    refine ⟨n, hn, ?_⟩
    rw [← hreached]
    refine ⟨fun _ => firstError_of_execute hwellFormed hrules, fun hblock error h => ?_⟩
    obtain rfl | ⟨l, rfl⟩ := hwellFormed.eq_nothing_or_rules
    · exact absurd hblock (by simp)
    · have hcheck := hwellFormed.check_isOk hrules
      exact (execute_eq_error_iff hcheck hblock).2 h
  · obtain ⟨mismatch, hpermits, hexecute⟩ := execute_of_no_block c stream observed hwellFormed
      hrules hblock
    rw [hexecute, ← hpermits]
    refine ⟨?_, fun hmismatch =>
      ⟨exists_conclude_eq_error_iff hmismatch, fun _ => isSuccess_of_conclude hmismatch⟩⟩
    rintro rfl
    rfl

/-- Each event fails with an error that names it. -/
def unreadable : Canonicalizer Bank.Event where
  canonical event := .error (.serialization ⟨event.label, 0⟩)

/-- Where no event has a canonical form, the deposit that the first block expects is the first to
fail, before the event observed and the withdrawal behind it. A gap alone asks for none of them. -/
theorem lazy_execution_deposited :
    (rules [.gap [], .block ⟨.asGiven, [.deposited 1]⟩, .block ⟨.any, [.withdrawn 5]⟩]).execute
        unreadable "acc-1" [.opened "ada"] = .error (.serialization ⟨"Deposited", 0⟩) ∧
      (rules [.gap [(· == .withdrawn 5)]]).execute unreadable "acc-1" [.opened "ada"] =
        .ok ⟨"acc-1", none⟩ := by
  constructor
  · have hbuilt : (rules [.gap [], .block ⟨.asGiven, [Bank.Event.deposited 1]⟩,
        .block ⟨.any, [.withdrawn 5]⟩]).Built :=
      ⟨[.gap [], .block .asGiven [.deposited 1], .block .any [.withdrawn 5]], rfl⟩
    obtain ⟨-, ⟨n, hn, -, herror⟩, -⟩ := @lazy_execution _ [.opened "ada"] unreadable "acc-1" _
      hbuilt (.inr (List.cons_ne_nil _ _))
    have placed : Placed unreadable.form [.gap []] [Bank.Event.opened "ada"] fun _ => 0 := by
      refine ⟨rfl, fun i rule hi => ?_⟩
      obtain _ | i := i
      · cases hi
        exact .gap
      · cases hi
    have hreached : 1 < n := (hn.2 1 (by decide)).2 ⟨_, placed⟩
    obtain ⟨n, rfl⟩ := Nat.exists_eq_add_of_lt hreached
    refine herror ⟨_, List.mem_cons_of_mem _ List.mem_cons_self⟩ _ ?_
    rw [Nat.add_comm 1 n]
    exact ⟨[], .deposited 1, _, rfl, nofun, rfl⟩
  · have hbuilt : (rules [.gap [(· == Bank.Event.withdrawn 5)]]).Built :=
      ⟨[.gap [(· == .withdrawn 5)]], rfl⟩
    refine ((lazy_execution hbuilt (.inr (List.cons_ne_nil _ _))).2.2 ?_).1 ?_
    · simp
    · refine ⟨nofun, ?_⟩
      rintro _ hmem event hevent
      obtain rfl : event = .opened "ada" := by simpa using hevent
      cases List.mem_singleton.1 hmem
      rintro ⟨x, hx, hexcluded⟩
      obtain rfl := List.mem_singleton.1 hx
      exact absurd hexcluded (by decide)

end Chain

end GivenWhenThen
