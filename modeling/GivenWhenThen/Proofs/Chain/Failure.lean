import GivenWhenThen.Proofs.Chain.Segmentation

/-! Why the events of a stream do not satisfy the rules of a chain. `Blocks` is the counterpart of
`Passes` and says with which mismatch a rule ends the walk at a cursor, `Leaves` says the same for
the events behind the last rule, and `FailsWith` finds the first rule to blame. A mismatch of an
execution is the one of `FailsWith`, by `execute_failsWith_iff`. -/

namespace GivenWhenThen

variable {ε : Type}

/-- How a rule ends the walk at a cursor, where `previous` is the rule before. -/
inductive Blocks (form : ε → Canonical) (observed : List ε) :
    (previous : Option (Rule ε)) → (cursor : Nat) → Rule ε → Mismatch → Prop
  /-- A block that is the first rule or follows a block is missed at the cursor. -/
  | anchored {previous : Option (Rule ε)} {cursor : Nat} {b : Block ε} {miss : Miss}
      (tied : ∀ exclusions, previous ≠ some (.gap exclusions))
      (missed : b.order.MissedAt (b.events.map form) (observed.map form) cursor miss) :
      Blocks form observed previous cursor (.block b) (.missed b.order (b.events.map form) miss)
  /-- A block after a gap stands nowhere in the events from the cursor on, whichever of them the gap
  excludes. -/
  | absent {exclusions : List (Exclusion ε)} {cursor : Nat} {b : Block ε}
      (nowhere : ∀ j, cursor ≤ j →
        ¬b.order.StandsAt (b.events.map form) (observed.map form) j)
      (inside : cursor < observed.length) :
      Blocks form observed (some (.gap exclusions)) cursor (.block b)
        (.missed b.order (b.events.map form) (.seriesNotFound cursor (observed.length - 1)))
  /-- A block after a gap has no events left. -/
  | exhausted {exclusions : List (Exclusion ε)} {cursor : Nat} {b : Block ε}
      (ended : cursor = observed.length) :
      Blocks form observed (some (.gap exclusions)) cursor (.block b)
        (.missed b.order (b.events.map form) (.notFound 0))
  /-- A block after a gap stands first at `start`, but the gap excludes an event passed over. -/
  | excluded {exclusions : List (Exclusion ε)} {cursor start index : Nat} {b : Block ε}
      (first : b.order.FirstStandsAt (b.events.map form) (observed.map form) cursor start)
      (hit : FirstExcluded exclusions observed cursor start index) :
      Blocks form observed (some (.gap exclusions)) cursor (.block b)
        (.excluded exclusions.length index)

/-- How the events behind the last rule end the walk. -/
inductive Leaves (form : ε → Canonical) (observed : List ε) (cursor : Nat) :
    Rule ε → Mismatch → Prop
  /-- No event may follow a block. -/
  | trailing {b : Block ε} (left : cursor < observed.length) :
      Leaves form observed cursor (.block b)
        (.missed b.order (b.events.map form) (.trailing cursor (observed.length - 1)))
  /-- No event that a gap excludes may follow it. -/
  | excluded {exclusions : List (Exclusion ε)} {index : Nat}
      (hit : FirstExcluded exclusions observed cursor observed.length index) :
      Leaves form observed cursor (.gap exclusions) (.excluded exclusions.length index)

/-- The mismatch of the first rule to blame: cursors follow the rules before it. -/
inductive FailsWith (form : ε → Canonical) (rules : List (Rule ε)) (observed : List ε)
    (mismatch : Mismatch) : Prop
  | atRule {i : Nat} {rule : Rule ε} {cursor : Nat → Nat} (here : rules[i]? = some rule)
      (placed : Placed form (rules.take i) observed cursor)
      (blocks : Blocks form observed (rules.take i).getLast? (cursor i) rule mismatch)
  | atEnd {rule : Rule ε} {cursor : Nat → Nat} (last : rules.getLast? = some rule)
      (placed : Placed form rules observed cursor)
      (leaves : Leaves form observed (cursor rules.length) rule mismatch)

variable {form : ε → Canonical} {observed : List ε} {rule : Rule ε} {rules : List (Rule ε)}
  {mismatch : Mismatch}

namespace Position

variable {p : Position ε}

theorem gapMismatch?_eq_some_iff {start stop : Nat} :
    Chain.gapMismatch? p.gap observed start stop = some mismatch ↔
      ∃ exclusions index, p.previous = some (.gap exclusions) ∧
        FirstExcluded exclusions observed start stop index ∧
        mismatch = .excluded exclusions.length index := by
  simp only [← gap_eq_some_iff, ← firstExcluded?_eq_some_iff]
  cases p.gap with
  | none => simp [Chain.gapMismatch?]
  | some exclusions => simp [gapMismatch?_some, @eq_comm _ mismatch]

theorem step_block_eq_error_iff {b : Block ε} :
    p.step form observed (.block b) = .error mismatch ↔
      (∃ miss, Chain.place p.gap.isSome b.order (b.events.map form) (observed.map form) p.cursor =
          .missed miss ∧ mismatch = .missed b.order (b.events.map form) miss) ∨
      ∃ start, Chain.place p.gap.isSome b.order (b.events.map form) (observed.map form) p.cursor =
          .found start ∧ Chain.gapMismatch? p.gap observed p.cursor start = some mismatch := by
  cases hplace : Chain.place p.gap.isSome b.order (b.events.map form) (observed.map form)
      p.cursor with
  | missed miss => simp [step_of_missed hplace, eq_comm]
  | found start =>
    cases hgap : Chain.gapMismatch? p.gap observed p.cursor start with
    | none => simp [step_of_found hplace hgap, hgap]
    | some mismatch => simp [step_of_excluded hplace hgap, hgap]

/-- A step ends the walk just if the rule does. -/
theorem step_eq_error_iff (hfilled : rule.Filled) (hle : p.cursor ≤ observed.length) :
    p.step form observed rule = .error mismatch ↔
      Blocks form observed p.previous p.cursor rule mismatch := by
  cases rule with
  | gap exclusions =>
    constructor
    · rintro ⟨⟩
    · obtain ⟨previous, cursor⟩ := p
      rintro ⟨⟩
  | block b =>
    have hne : b.events.map form ≠ [] := by simpa [Rule.Filled] using hfilled
    rw [step_block_eq_error_iff]
    constructor
    · rintro (⟨miss, hplace, rfl⟩ | ⟨start, hplace, hgap⟩)
      · cases hgap : p.gap with
        | none =>
          rw [hgap] at hplace
          exact .anchored (gap_eq_none_iff.1 hgap) ((Order.placeAt_eq_missed_iff hne).1 hplace)
        | some exclusions =>
          rw [hgap] at hplace
          obtain ⟨hnowhere, rfl⟩ := (Order.placeFrom_eq_missed_iff hne).1 hplace
          rw [gap_eq_some_iff.1 hgap, List.length_map]
          by_cases hlt : p.cursor < observed.length
          · rw [if_pos hlt]
            exact .absent hnowhere hlt
          · rw [if_neg hlt]
            exact .exhausted (by omega)
      · obtain ⟨exclusions, index, hprevious, hhit, rfl⟩ := gapMismatch?_eq_some_iff.1 hgap
        rw [gap_eq_some_iff.2 hprevious] at hplace
        rw [hprevious]
        exact .excluded ((Order.placeFrom_eq_found_iff hne).1 hplace) hhit
    · obtain ⟨previous, cursor⟩ := p
      intro h
      cases h with
      | anchored tied missed =>
        have hgap : Position.gap ⟨previous, cursor⟩ = none := gap_eq_none_iff.2 tied
        rw [hgap]
        exact .inl ⟨_, (Order.placeAt_eq_missed_iff hne).2 missed, rfl⟩
      | absent nowhere inside =>
        refine .inl ⟨_, (Order.placeFrom_eq_missed_iff hne).2 ⟨nowhere, ?_⟩, rfl⟩
        rw [List.length_map, if_pos inside]
      | exhausted ended =>
        refine .inl ⟨_, (Order.placeFrom_eq_missed_iff hne).2 ⟨fun j hj hstands => ?_, ?_⟩, rfl⟩
        · have hlt := hstands.lt_length hne
          rw [List.length_map] at hlt
          exact absurd (Nat.lt_of_le_of_lt hj hlt) (by omega)
        · rw [List.length_map, if_neg (by omega)]
      | excluded first hit =>
        exact .inr ⟨_, (Order.placeFrom_eq_found_iff hne).2 first,
          gapMismatch?_eq_some_iff.2 ⟨_, _, rfl, hit, rfl⟩⟩

theorem finish_eq_error_iff :
    p.finish form observed = .error mismatch ↔
      ∃ rule, p.previous = some rule ∧ Leaves form observed p.cursor rule mismatch := by
  obtain ⟨previous, cursor⟩ := p
  constructor
  · intro h
    rcases previous with _ | b | exclusions
    · cases h
    · rw [finish] at h
      split_ifs at h with hlt
      cases h
      exact ⟨_, rfl, .trailing hlt⟩
    · rw [finish, ← failure?_eq_some_iff, failure?_stopAt] at h
      obtain ⟨_, index, ⟨⟩, hhit, rfl⟩ := gapMismatch?_eq_some_iff.1 h
      exact ⟨_, rfl, .excluded hhit⟩
  · rintro ⟨rule, hlast, h⟩
    cases hlast
    cases h with
    | trailing left => exact if_pos left
    | excluded hit =>
      rw [finish, ← failure?_eq_some_iff, failure?_stopAt]
      exact gapMismatch?_eq_some_iff.2 ⟨_, _, rfl, hit, rfl⟩

/-- The machine finds the first rule to blame. -/
theorem verdict_eq_error_iff (hfilled : ∀ rule ∈ rules, rule.Filled) :
    Position.verdict form observed {} rules = .error mismatch ↔
      FailsWith form rules observed mismatch := by
  have hbefore : ∀ i, ∀ rule ∈ rules.take i, rule.Filled := fun i rule hr =>
    hfilled rule (List.mem_of_mem_take hr)
  -- Cursors that follow the rules stay inside the events, so that a rule blocks just if it ends the
  -- walk there.
  have hstep : ∀ {i rule cursor}, rules[i]? = some rule →
      Placed form (rules.take i) observed cursor →
      (step form observed ⟨(rules.take i).getLast?, cursor i⟩ rule = .error mismatch ↔
        Blocks form observed (rules.take i).getLast? (cursor i) rule mismatch) := by
    intro i rule cursor here placed
    have hi := (List.getElem?_eq_some_iff.1 here).1
    exact step_eq_error_iff (hfilled rule (List.mem_of_getElem? here))
      (placed.le_length (List.length_take_of_le hi.le).ge)
  rw [verdict, bind_eq_error_iff, run, foldlM_eq_error_iff]
  constructor
  · rintro (⟨i, rule, p, here, hrun, hblocks⟩ | ⟨p, hrun, hfinish⟩)
    · have hi := (List.getElem?_eq_some_iff.1 here).1
      obtain ⟨cursor, placed, rfl⟩ := (run_eq_ok_iff (hbefore i)).1 hrun
      rw [List.length_take_of_le hi.le] at hblocks
      exact .atRule here placed ((hstep here placed).1 hblocks)
    · obtain ⟨cursor, placed, rfl⟩ := (run_eq_ok_iff hfilled).1 hrun
      obtain ⟨rule, last, leaves⟩ := finish_eq_error_iff.1 hfinish
      exact .atEnd last placed leaves
  · rintro (⟨here, placed, blocks⟩ | ⟨last, placed, leaves⟩)
    · have hi := (List.getElem?_eq_some_iff.1 here).1
      refine .inl ⟨_, _, _, here, (run_eq_ok_iff (hbefore _)).2 ⟨_, placed, rfl⟩, ?_⟩
      rw [List.length_take_of_le hi.le]
      exact (hstep here placed).2 blocks
    · exact .inr ⟨_, (run_eq_ok_iff hfilled).2 ⟨_, placed, rfl⟩,
        finish_eq_error_iff.2 ⟨_, last, leaves⟩⟩

end Position

namespace Chain

variable {l : List (Rule ε)} {c : Canonicalizer ε} {stream : StreamId}

/-- The mismatch of an execution is the one of the first rule to blame. -/
theorem execute_failsWith_iff (hbuilt : (Chain.rules l).Built) (hne : l ≠ [])
    (hexpected : c.Covers (Chain.rules l).expected) (hobserved : c.Covers observed) :
    ∃ outcome, (Chain.rules l).execute c stream observed = .ok outcome ∧
      ∀ mismatch, outcome.mismatch? = some mismatch ↔ FailsWith c.form l observed mismatch := by
  have hfilled : ∀ rule ∈ l, rule.Filled := hbuilt.wellFormed.filled
  obtain ⟨outcome, hexecute⟩ := execute_isOk stream hbuilt.wellFormed hne hexpected hobserved
  refine ⟨outcome, hexecute, fun mismatch => ?_⟩
  rw [(mismatch?_of_execute hexecute).2, failure?_eq_some_iff,
    Position.verdict_eq_error_iff hfilled]

/-- A deposit stands behind a gap, but the gap excludes the event passed over. -/
theorem execute_failsWith_withdrawn :
    ∃ outcome, (Chain.rules [.block ⟨.asGiven, [Bank.Event.opened "ada"]⟩,
        .gap [(· == .withdrawn 5)], .block ⟨.asGiven, [.deposited 10]⟩]).execute
        .byLabel "acc-1" [.opened "ada", .withdrawn 5, .deposited 10] = .ok outcome ∧
      outcome.mismatch? = some (.excluded 1 1) := by
  have hbuilt : (Chain.rules [.block ⟨.asGiven, [Bank.Event.opened "ada"]⟩,
      .gap [(· == .withdrawn 5)], .block ⟨.asGiven, [.deposited 10]⟩]).Built :=
    ⟨[.block .asGiven [.opened "ada"], .gap [(· == .withdrawn 5)],
      .block .asGiven [.deposited 10]], rfl⟩
  have hobserved : Canonicalizer.byLabel.Covers
      [Bank.Event.opened "ada", .withdrawn 5, .deposited 10] := fun _ _ => ⟨_, rfl⟩
  obtain ⟨outcome, hexecute, hmismatch⟩ :=
    execute_failsWith_iff hbuilt (by simp) (fun _ _ => ⟨_, rfl⟩) hobserved
  have placed : Placed Canonicalizer.byLabel.form
      [.block ⟨.asGiven, [Bank.Event.opened "ada"]⟩, .gap [(· == .withdrawn 5)]]
      [.opened "ada", .withdrawn 5, .deposited 10] fun i => min i 1 := by
    refine ⟨rfl, fun i rule hi => ?_⟩
    rcases i with _ | _ | i
    · obtain rfl := Option.some.inj hi
      exact .anchored (by simp) ⟨by simp, rfl⟩
    · obtain rfl := Option.some.inj hi
      exact .gap
    · cases hi
  refine ⟨outcome, hexecute, (hmismatch _).2 (.atRule (i := 2) rfl placed (.excluded
    ⟨Nat.le_succ 1, ⟨by simp, rfl⟩, fun j hge hlt hstands => ?_⟩
    ⟨Nat.le_refl 1, by decide, ⟨_, rfl, _, List.mem_singleton_self _, rfl⟩,
    fun j hge hlt => ?_⟩))⟩
  · obtain rfl : j = 1 := by omega
    exact absurd (congrArg Canonical.tag (List.cons.inj hstands.2).1) (by decide)
  · omega

end Chain

end GivenWhenThen
