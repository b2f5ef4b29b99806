import GivenWhenThen.Bank.Basic
import GivenWhenThen.Proofs.Chain.Placement
import GivenWhenThen.Proofs.Chain.Walk

/-! When the events of a stream satisfy the rules of a chain. `Passes` says how one rule moves the
cursor, `Placed` that cursors follow the rules from the first event on, and `Segmentation` that
nothing is left behind the last rule that should not be. By `run_eq_ok_iff` the machine finds the
cursors where there are any, and by `Placed.unique` there is no second choice. -/

namespace GivenWhenThen

variable {ε : Type}

/-- How a rule moves the cursor, where `previous` is the rule before. -/
inductive Passes (form : ε → Canonical) (observed : List ε) :
    (previous : Option (Rule ε)) → (cursor : Nat) → Rule ε → (next : Nat) → Prop
  /-- A gap takes no event. -/
  | gap {previous : Option (Rule ε)} {cursor : Nat} {exclusions : List (Exclusion ε)} :
      Passes form observed previous cursor (.gap exclusions) cursor
  /-- A block that is the first rule or follows a block stands at the cursor. -/
  | anchored {previous : Option (Rule ε)} {cursor : Nat} {b : Block ε}
      (tied : ∀ exclusions, previous ≠ some (.gap exclusions))
      (stands : b.order.StandsAt (b.events.map form) (observed.map form) cursor) :
      Passes form observed previous cursor (.block b) (cursor + b.events.length)
  /-- A block after a gap stands at the first place from the cursor on, and no event that is passed
  over is excluded. -/
  | searched {exclusions : List (Exclusion ε)} {cursor start : Nat} {b : Block ε}
      (first : b.order.FirstStandsAt (b.events.map form) (observed.map form) cursor start)
      (free : NoneExcluded exclusions observed cursor start) :
      Passes form observed (some (.gap exclusions)) cursor (.block b) (start + b.events.length)

/-- The cursors follow the rules: `cursor i` is where the rule with index `i` begins. -/
structure Placed (form : ε → Canonical) (rules : List (Rule ε)) (observed : List ε)
    (cursor : Nat → Nat) : Prop where
  start : cursor 0 = 0
  passes : ∀ i rule, rules[i]? = some rule →
    Passes form observed (rules.take i).getLast? (cursor i) rule (cursor (i + 1))

/-- The cursors follow the rules and leave no event behind that should not be there. -/
structure Segmentation (form : ε → Canonical) (rules : List (Rule ε)) (observed : List ε)
    (cursor : Nat → Nat) : Prop extends Placed form rules observed cursor where
  ascending : ∀ i < rules.length, cursor i ≤ cursor (i + 1)
  bounded : cursor rules.length ≤ observed.length
  complete : ∀ b, rules.getLast? = some (.block b) → cursor rules.length = observed.length
  free : ∀ exclusions, rules.getLast? = some (.gap exclusions) →
    NoneExcluded exclusions observed (cursor rules.length) observed.length

variable {form : ε → Canonical} {observed : List ε} {previous : Option (Rule ε)} {rule : Rule ε}
  {rules : List (Rule ε)} {cursor cursor' : Nat → Nat} {first next : Nat}

/-! ### One rule -/

theorem Passes.le (h : Passes form observed previous first rule next) : first ≤ next := by
  cases h with
  | gap => exact Nat.le_refl _
  | anchored => exact Nat.le_add_right _ _
  | searched hfirst => exact Nat.le_trans hfirst.1 (Nat.le_add_right _ _)

theorem Passes.le_length (h : Passes form observed previous first rule next)
    (hle : first ≤ observed.length) : next ≤ observed.length := by
  cases h with
  | gap => exact hle
  | anchored _ hstands => simpa using hstands.1
  | searched hfirst => simpa using hfirst.2.1.1

namespace Position

variable {p q : Position ε}

theorem gap_eq_none_iff : p.gap = none ↔ ∀ exclusions, p.previous ≠ some (.gap exclusions) := by
  obtain ⟨_ | _ | _, cursor⟩ := p <;> simp [gap, Rule.exclusions?]

theorem gap_eq_some_iff {exclusions : List (Exclusion ε)} :
    p.gap = some exclusions ↔ p.previous = some (.gap exclusions) := by
  obtain ⟨_ | _ | _, cursor⟩ := p <;> simp [gap, Rule.exclusions?]

theorem gapMismatch?_some {exclusions : List (Exclusion ε)} {start stop : Nat} :
    Chain.gapMismatch? (some exclusions) observed start stop =
      (firstExcluded? exclusions observed start stop).map (.excluded exclusions.length) := by
  cases h : firstExcluded? exclusions observed start stop <;> simp [Chain.gapMismatch?, h]

theorem gapMismatch?_eq_none_iff {start stop : Nat} :
    Chain.gapMismatch? p.gap observed start stop = none ↔
      ∀ exclusions, p.previous = some (.gap exclusions) →
        NoneExcluded exclusions observed start stop := by
  simp only [← gap_eq_some_iff, ← firstExcluded?_eq_none_iff]
  cases p.gap with
  | none => simp [Chain.gapMismatch?]
  | some exclusions => simp [gapMismatch?_some]

theorem step_block_eq_ok_iff {b : Block ε} :
    p.step form observed (.block b) = .ok q ↔
      ∃ start, Chain.place p.gap.isSome b.order (b.events.map form) (observed.map form) p.cursor =
          .found start ∧
        Chain.gapMismatch? p.gap observed p.cursor start = none ∧
        q = ⟨some (.block b), start + b.events.length⟩ := by
  cases hplace : Chain.place p.gap.isSome b.order (b.events.map form) (observed.map form)
      p.cursor with
  | missed miss => simp [step_of_missed hplace]
  | found start =>
    cases hgap : Chain.gapMismatch? p.gap observed p.cursor start with
    | none => simp [step_of_found hplace hgap, hgap, eq_comm]
    | some mismatch => simp [step_of_excluded hplace hgap, hgap]

/-- A step takes a rule just if the rule passes. -/
theorem step_eq_ok_iff (hfilled : rule.Filled) :
    p.step form observed rule = .ok q ↔
      Passes form observed p.previous p.cursor rule q.cursor ∧ q.previous = some rule := by
  cases rule with
  | gap exclusions =>
    constructor
    · rintro ⟨⟩
      exact ⟨.gap, rfl⟩
    · obtain ⟨previous, cursor⟩ := p
      obtain ⟨next, nextCursor⟩ := q
      rintro ⟨⟨⟩, hnext⟩
      dsimp only at hnext
      subst hnext
      rfl
  | block b =>
    have hne : b.events.map form ≠ [] := by simpa [Rule.Filled] using hfilled
    rw [step_block_eq_ok_iff]
    constructor
    · rintro ⟨start, hplace, hfree, rfl⟩
      refine ⟨?_, rfl⟩
      cases hgap : p.gap with
      | none =>
        rw [hgap] at hplace
        obtain ⟨rfl, hstands⟩ := (Order.placeAt_eq_found_iff hne).1 hplace
        exact .anchored (gap_eq_none_iff.1 hgap) hstands
      | some exclusions =>
        rw [hgap] at hplace
        have hprevious := gap_eq_some_iff.1 hgap
        rw [hprevious]
        exact .searched ((Order.placeFrom_eq_found_iff hne).1 hplace)
          (gapMismatch?_eq_none_iff.1 hfree exclusions hprevious)
    · obtain ⟨previous, cursor⟩ := p
      obtain ⟨next, nextCursor⟩ := q
      rintro ⟨hpasses, hnext⟩
      dsimp only at hpasses hnext
      subst hnext
      cases hpasses with
      | anchored tied stands =>
        have hgap : Position.gap ⟨previous, cursor⟩ = none := gap_eq_none_iff.2 tied
        refine ⟨cursor, ?_, gapMismatch?_eq_none_iff.2 fun x hx => absurd hx (tied x), rfl⟩
        rw [hgap]
        exact (Order.placeAt_eq_found_iff hne).2 ⟨rfl, stands⟩
      | searched first free =>
        refine ⟨_, (Order.placeFrom_eq_found_iff hne).2 first, gapMismatch?_eq_none_iff.2 ?_, rfl⟩
        rintro x ⟨⟩
        exact free

theorem finish_eq_ok_iff :
    p.finish form observed = .ok () ↔
      (∀ b, p.previous = some (.block b) → observed.length ≤ p.cursor) ∧
      ∀ exclusions, p.previous = some (.gap exclusions) →
        NoneExcluded exclusions observed p.cursor observed.length := by
  have hstop : stopAt (Chain.gapMismatch? p.gap observed p.cursor observed.length) = .ok () ↔
      ∀ exclusions, p.previous = some (.gap exclusions) →
        NoneExcluded exclusions observed p.cursor observed.length := by
    rw [← failure?_eq_none_iff, failure?_stopAt, gapMismatch?_eq_none_iff]
  rw [← hstop, finish]
  obtain ⟨_ | _ | _, cursor⟩ := p
  · simp
  · simp [gap, Rule.exclusions?, Chain.gapMismatch?, stopAt]
  · simp

end Position

/-! ### All rules -/

theorem placed_nil : Placed form [] observed cursor ↔ cursor 0 = 0 :=
  ⟨Placed.start, fun h => ⟨h, by simp⟩⟩

/-- Cursors follow one more rule if they follow the ones before and it passes. -/
theorem placed_append_singleton :
    Placed form (rules ++ [rule]) observed cursor ↔
      Placed form rules observed cursor ∧
        Passes form observed rules.getLast? (cursor rules.length) rule
          (cursor (rules.length + 1)) := by
  constructor
  · intro h
    refine ⟨⟨h.start, fun i r hi => ?_⟩, by simpa using h.passes rules.length rule (by simp)⟩
    have hlt := (List.getElem?_eq_some_iff.1 hi).1
    have := h.passes i r (by rw [List.getElem?_append_left hlt, hi])
    rwa [List.take_append_of_le_length (by omega)] at this
  · rintro ⟨h, hrule⟩
    refine ⟨h.start, fun i r hi => ?_⟩
    rcases Nat.lt_trichotomy i rules.length with hlt | rfl | hgt
    · rw [List.getElem?_append_left hlt] at hi
      rw [List.take_append_of_le_length (by omega)]
      exact h.passes i r hi
    · obtain rfl : rule = r := by simpa using hi
      simpa using hrule
    · rw [List.getElem?_eq_none (by simp; omega)] at hi
      cases hi

/-- Only the cursors up to the end of the rules matter. -/
theorem Placed.congr (h : Placed form rules observed cursor)
    (heq : ∀ i ≤ rules.length, cursor i = cursor' i) : Placed form rules observed cursor' := by
  refine ⟨heq 0 (Nat.zero_le _) ▸ h.start, fun i rule hi => ?_⟩
  have hlt := (List.getElem?_eq_some_iff.1 hi).1
  rw [← heq i (by omega), ← heq (i + 1) hlt]
  exact h.passes i rule hi

theorem Placed.take (h : Placed form rules observed cursor) (n : Nat) :
    Placed form (rules.take n) observed cursor := by
  refine ⟨h.start, fun i rule hi => ?_⟩
  have hlt := (List.getElem?_eq_some_iff.1 hi).1
  rw [List.length_take] at hlt
  rw [List.take_take, Nat.min_eq_left (by omega)]
  exact h.passes i rule (by rwa [List.getElem?_take_of_lt (by omega)] at hi)

theorem Placed.le_length (h : Placed form rules observed cursor) {i : Nat} (hi : i ≤ rules.length) :
    cursor i ≤ observed.length := by
  induction i with
  | zero => simp [h.start]
  | succ i ih =>
    exact (h.passes i _ (List.getElem?_eq_getElem hi)).le_length (ih (Nat.le_of_succ_le hi))

/-- The machine comes through the rules just if cursors follow them, and ends at the last one. -/
theorem Position.run_eq_ok_iff {p : Position ε} (hfilled : ∀ rule ∈ rules, rule.Filled) :
    Position.run form observed {} rules = .ok p ↔
      ∃ cursor, Placed form rules observed cursor ∧ p = ⟨rules.getLast?, cursor rules.length⟩ := by
  induction rules using List.reverseRecOn generalizing p with
  | nil =>
    constructor
    · rintro ⟨⟩
      exact ⟨fun _ => 0, placed_nil.2 rfl, rfl⟩
    · rintro ⟨cursor, h, rfl⟩
      rw [List.length_nil, h.start]
      rfl
  | append_singleton rules rule ih =>
    have ih := fun {p} => ih (p := p) fun r hr => hfilled r (List.mem_append_left _ hr)
    have hrule := hfilled rule (by simp)
    rw [Position.run_append, bind_eq_ok_iff]
    simp only [Position.run, List.foldlM_cons, List.foldlM_nil, bind_pure,
      Position.step_eq_ok_iff hrule]
    constructor
    · rintro ⟨q, hrun, hpasses, hprevious⟩
      obtain ⟨cursor, h, rfl⟩ := ih.1 hrun
      let cursor' := fun i => if i ≤ rules.length then cursor i else p.cursor
      have hsame : ∀ i ≤ rules.length, cursor i = cursor' i := fun i hi => (if_pos hi).symm
      have hlast : cursor' (rules.length + 1) = p.cursor := if_neg (by omega)
      refine ⟨cursor', placed_append_singleton.2 ⟨h.congr hsame, ?_⟩, ?_⟩
      · rwa [hlast, ← hsame _ (Nat.le_refl _)]
      · obtain ⟨previous, _⟩ := p
        simpa [hlast] using hprevious
    · rintro ⟨cursor, h, rfl⟩
      obtain ⟨hplaced, hpasses⟩ := placed_append_singleton.1 h
      refine ⟨_, ih.2 ⟨cursor, hplaced, rfl⟩, ?_, by simp⟩
      simpa using hpasses

/-- The rules and the events leave no choice of cursors. -/
theorem Placed.unique (hfilled : ∀ rule ∈ rules, rule.Filled)
    (h : Placed form rules observed cursor) (h' : Placed form rules observed cursor') :
    ∀ i ≤ rules.length, cursor i = cursor' i := by
  intro i hi
  have hfilled := fun r hr => hfilled r (List.mem_of_mem_take (i := i) hr)
  have hrun := (Position.run_eq_ok_iff hfilled).2 ⟨cursor, h.take i, rfl⟩
  have hrun' := (Position.run_eq_ok_iff hfilled).2 ⟨cursor', h'.take i, rfl⟩
  rw [hrun, Except.ok.injEq, Position.mk.injEq, List.length_take_of_le hi] at hrun'
  exact hrun'.2

/-- The machine is content with the events just if they have a segmentation. -/
theorem Position.verdict_eq_ok_iff (hfilled : ∀ rule ∈ rules, rule.Filled) :
    Position.verdict form observed {} rules = .ok () ↔
      ∃ cursor, Segmentation form rules observed cursor := by
  rw [Position.verdict, bind_eq_ok_iff]
  simp only [Position.run_eq_ok_iff hfilled]
  constructor
  · rintro ⟨p, ⟨cursor, h, rfl⟩, hfinish⟩
    obtain ⟨hcomplete, hfree⟩ := Position.finish_eq_ok_iff.1 hfinish
    refine ⟨cursor, h, fun i hi => ?_, h.le_length (Nat.le_refl _), fun b hb => ?_, hfree⟩
    · exact (h.passes i _ (List.getElem?_eq_getElem hi)).le
    · exact Nat.le_antisymm (h.le_length (Nat.le_refl _)) (hcomplete b hb)
  · rintro ⟨cursor, h⟩
    exact ⟨_, ⟨cursor, h.toPlaced, rfl⟩, Position.finish_eq_ok_iff.2
      ⟨fun b hb => (h.complete b hb).ge, h.free⟩⟩

namespace Chain

variable {l : List (Rule ε)} {c : Canonicalizer ε} {stream : StreamId}

/-- A chain with rules is content with the events of a stream just if they have a segmentation, and
they have no second one. -/
theorem execute_isSuccess_iff (hbuilt : (Chain.rules l).Built) (hne : l ≠ [])
    (hexpected : c.Covers (Chain.rules l).expected) (hobserved : c.Covers observed) :
    ∃ outcome, (Chain.rules l).execute c stream observed = .ok outcome ∧
      (outcome.isSuccess = true ↔ ∃ cursor, Segmentation c.form l observed cursor) ∧
      ∀ cursor cursor', Segmentation c.form l observed cursor →
        Segmentation c.form l observed cursor' → ∀ i ≤ l.length, cursor i = cursor' i := by
  have hfilled : ∀ rule ∈ l, rule.Filled := hbuilt.wellFormed.filled
  obtain ⟨outcome, hexecute⟩ := execute_isOk stream hbuilt.wellFormed hne hexpected hobserved
  refine ⟨outcome, hexecute, ?_, fun _ _ h h' => h.unique hfilled h'.toPlaced⟩
  obtain ⟨-, hmismatch⟩ := mismatch?_of_execute hexecute
  rw [← Position.verdict_eq_ok_iff hfilled, ← failure?_eq_none_iff, ← hmismatch]
  simp [Outcome.isSuccess, Outcome.mismatch?]

/-- An account that is opened, and behind it a deposit and a withdrawal in any order: the gap passes
over the second event, and the block takes the two after it. -/
theorem execute_isSuccess_opened :
    ∃ outcome, (Chain.rules [.block ⟨.asGiven, [Bank.Event.opened "ada"]⟩,
        .gap [(· == .withdrawn 5)], .block ⟨.any, [.deposited 10, .withdrawn 7]⟩]).execute .byLabel
        "acc-1" [.opened "ada", .opened "bob", .withdrawn 7, .deposited 10] = .ok outcome ∧
      outcome.isSuccess = true := by
  have hbuilt : (Chain.rules [.block ⟨.asGiven, [Bank.Event.opened "ada"]⟩,
      .gap [(· == .withdrawn 5)], .block ⟨.any, [.deposited 10, .withdrawn 7]⟩]).Built :=
    ⟨[.block .asGiven [.opened "ada"], .gap [(· == .withdrawn 5)],
      .block .any [.deposited 10, .withdrawn 7]], rfl⟩
  have hobserved : Canonicalizer.byLabel.Covers
      [Bank.Event.opened "ada", .opened "bob", .withdrawn 7, .deposited 10] := fun _ _ => ⟨_, rfl⟩
  obtain ⟨outcome, hexecute, hsuccess, -⟩ :=
    execute_isSuccess_iff hbuilt (by simp) (fun _ _ => ⟨_, rfl⟩) hobserved
  have first : Order.any.FirstStandsAt
      ([Bank.Event.deposited 10, .withdrawn 7].map Canonicalizer.byLabel.form)
      ([Bank.Event.opened "ada", .opened "bob", .withdrawn 7, .deposited 10].map
        Canonicalizer.byLabel.form) 1 2 := by
    refine ⟨by decide, ⟨by decide, .swap _ _ _⟩, fun j hge hlt hstands => ?_⟩
    obtain rfl : j = 1 := by omega
    have hmem := hstands.2.subset (List.mem_cons_self)
    revert hmem
    decide
  have free : NoneExcluded [(· == .withdrawn 5)]
      [Bank.Event.opened "ada", .opened "bob", .withdrawn 7, .deposited 10] 1 2 := by
    rintro i hge hlt e he ⟨x, hx, hexcluded⟩
    obtain rfl : i = 1 := by omega
    obtain rfl := Option.some.inj he
    obtain rfl := List.mem_singleton.1 hx
    exact absurd hexcluded (by decide)
  let cursor : Nat → Nat := fun i => if i = 0 then 0 else if i < 3 then 1 else 4
  refine ⟨outcome, hexecute, hsuccess.2 ⟨cursor, ⟨rfl, fun i rule hi => ?_⟩,
    by decide, by decide, fun _ _ => rfl, nofun⟩⟩
  rcases i with _ | _ | _ | i
  · obtain rfl := Option.some.inj hi
    exact .anchored nofun ⟨by decide, rfl⟩
  · obtain rfl := Option.some.inj hi
    exact .gap
  · obtain rfl := Option.some.inj hi
    exact .searched first free
  · cases hi

end Chain

end GivenWhenThen
