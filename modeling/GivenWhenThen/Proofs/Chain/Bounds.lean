import GivenWhenThen.Proofs.Chain.Blame
import GivenWhenThen.Proofs.Chain.Separated

/-! Where a mismatch points. `Takes` says which events the blocks in front of it have taken. The
cursor only moves forward, so that the event a mismatch points at is none of theirs, and each check
looks at events that there are: `Blames.exists_cursor` puts the two together. `Bounded` collects
what holds of the indices in a mismatch, and `execute_bounded` says so of each execution. -/

namespace GivenWhenThen

variable {ε : Type}

/-- The walk comes through the rules up to the block `b` with index `k`, and the block stands at
`start`. -/
structure Takes (form : ε → Canonical) (rules : List (Rule ε)) (observed : List ε) (k : Nat)
    (b : Block ε) (start : Nat) : Prop where
  here : rules[k]? = some (.block b)
  stands : b.StandsAt form observed start
  follows : ∃ cursor, Placed form (rules.take (k + 1)) observed cursor ∧
    cursor (k + 1) = start + b.events.length

/-- A gap with these exclusions reports the event at `index`, and the walk ends at a rule: at the
gap itself if it is the last one, or at the block behind it, which stands behind the event. -/
inductive ReportsAt (form : ε → Canonical) (rules : List (Rule ε)) (observed : List ε)
    (exclusions : List (Exclusion ε)) (index : Nat) : Nat → Prop
  | last {i : Nat} (here : rules[i]? = some (.gap exclusions)) (length : rules.length = i + 1) :
      ReportsAt form rules observed exclusions index i
  | ahead {g start : Nat} {b : Block ε} {cursor : Nat → Nat}
      (here : rules[g]? = some (.gap exclusions)) (next : rules[g + 1]? = some (.block b))
      (placed : Placed form (rules.take (g + 1)) observed cursor)
      (first : b.order.FirstStandsAt (b.events.map form) (observed.map form) (cursor (g + 1)) start)
      (lt : index < start) : ReportsAt form rules observed exclusions index (g + 1)

/-- The indices in a mismatch with the rule at index `i` to blame. -/
structure Bounded (form : ε → Canonical) (rules : List (Rule ε)) (observed : List ε) (i : Nat)
    (mismatch : Mismatch) : Prop where
  taken : ∀ k < i, ∀ b, rules[k]? = some (.block b) → ∃ start, Takes form rules observed k b start
  index : ∀ index, mismatch.publishedIndex? = some index → index < observed.length ∧
    ∀ k b start, Takes form rules observed k b start → start + b.events.length ≤ index
  seriesNotFound : ∀ order expected first last,
    mismatch = .missed order expected (.seriesNotFound first last) →
      first ≤ last ∧ last + 1 = observed.length
  trailing : ∀ order expected first last,
    mismatch = .missed order expected (.trailing first last) →
      first ≤ last ∧ last + 1 = observed.length ∧
      ∃ b start, Takes form rules observed i b start ∧ start + b.events.length = first
  notFound : ∀ order expected index, mismatch = .missed order expected (.notFound index) →
    ∃ b, rules[i]? = some (.block b) ∧ order = b.order ∧ expected = b.events.map form ∧
      index < b.events.length
  unobserved : observed = [] → ∀ b, rules[i]? = some (.block b) →
    ∃ index, mismatch = .missed b.order (b.events.map form) (.notFound index)
  excluded : ∀ n index, mismatch = .excluded n index →
    ∃ exclusions e, n = exclusions.length ∧ observed[index]? = some e ∧ Excludes exclusions e ∧
      ReportsAt form rules observed exclusions index i

variable {form : ε → Canonical} {observed : List ε} {rules : List (Rule ε)} {rule : Rule ε}
  {previous : Option (Rule ε)} {mismatch : Mismatch} {order : Order} {expected : List Canonical}
  {b : Block ε} {i k n start first last next index : Nat}

/-! ### One place -/

namespace Order

variable {α : Type} [DecidableEq α] {expected published : List α} {miss : Miss}

/-- The event that a miss points at is one of those from the start on. -/
theorem MissedAt.index_bounds (h : MissedAt expected published start order miss)
    (hindex : miss.publishedIndex? = some index) : start ≤ index ∧ index < published.length := by
  cases h with
  | differs here =>
    cases hindex
    exact ⟨Nat.le_add_right _ _, (List.getElem?_eq_some_iff.1 here).1⟩
  | @surplus k _ before here =>
    cases hindex
    refine ⟨Nat.le_add_right _ _, Nat.not_le.1 fun hle => here ?_⟩
    -- Without an event there, nothing is added to the ones before.
    have hlength : (published.drop start).length ≤ k := by
      rw [List.length_drop]
      omega
    rw [List.take_of_length_le hlength] at before
    rwa [List.take_of_length_le (Nat.le_succ_of_le hlength)]
  | ends | lacking => cases hindex

theorem MissedAt.notFound_lt (h : MissedAt expected published start order (.notFound index)) :
    index < expected.length := by
  cases h with
  | ends _ shorter => exact shorter
  | lacking _ here => exact (List.getElem?_eq_some_iff.1 here).1

/-- At one start there is neither a range nor an end to report. -/
theorem MissedAt.ne_range (h : MissedAt expected published start order miss) (first last : Nat) :
    miss ≠ .seriesNotFound first last ∧ miss ≠ .trailing first last := by
  cases h <;> exact ⟨nofun, nofun⟩

/-- Without published events, an expected one is missing. -/
theorem MissedAt.exists_notFound (h : MissedAt expected [] start order miss) :
    ∃ index, miss = .notFound index := by
  cases h with
  | differs here => cases here
  | surplus _ _ here =>
    rw [List.drop_nil, List.take_nil] at here
    exact absurd List.nil_subperm here
  | ends | lacking => exact ⟨_, rfl⟩

end Order

/-! ### One rule -/

theorem FirstExcluded.lt_length {exclusions : List (Exclusion ε)}
    (h : FirstExcluded exclusions observed first last index) : index < observed.length := by
  obtain ⟨e, he, -⟩ := h.excluded
  exact (List.getElem?_eq_some_iff.1 he).1

theorem Passes.exists_standsAt (h : Passes form observed previous first (.block b) next) :
    ∃ start, b.StandsAt form observed start ∧ next = start + b.events.length := by
  cases h with
  | anchored _ stands => exact ⟨_, stands, rfl⟩
  | searched first => exact ⟨_, first.2.1, rfl⟩

/-- A rule that ends the walk does not pass. -/
theorem Blocks.not_passes (hfilled : rule.Filled) (hle : first ≤ observed.length)
    (h : Blocks form observed previous first rule mismatch) :
    ¬Passes form observed previous first rule next := by
  intro hpasses
  have herror := (Position.step_eq_error_iff (p := ⟨previous, first⟩) hfilled hle).2 h
  have hok := (Position.step_eq_ok_iff (p := ⟨previous, first⟩) (q := ⟨some rule, next⟩) hfilled).2
    ⟨hpasses, rfl⟩
  rw [hok] at herror
  cases herror

theorem Blocks.index_bounds (h : Blocks form observed previous first rule mismatch)
    (hindex : mismatch.publishedIndex? = some index) :
    first ≤ index ∧ index < observed.length := by
  cases h with
  | anchored _ missed =>
    have hbounds := missed.index_bounds hindex
    rwa [List.length_map] at hbounds
  | absent _ inside =>
    cases hindex
    exact ⟨Nat.le_refl _, inside⟩
  | exhausted => cases hindex
  | excluded _ hit =>
    cases hindex
    exact ⟨hit.from_first, hit.lt_length⟩

theorem Blocks.seriesNotFound_bounds (h : Blocks form observed previous start rule
      (.missed order expected (.seriesNotFound first last))) :
    first ≤ last ∧ last + 1 = observed.length := by
  cases h with
  | anchored _ missed => exact absurd rfl (missed.ne_range first last).1
  | absent _ inside => omega

theorem Blocks.not_trailing :
    ¬Blocks form observed previous start rule (.missed order expected (.trailing first last)) := by
  intro h
  cases h with
  | anchored _ missed => exact (missed.ne_range first last).2 rfl

theorem Blocks.notFound_bounds (hfilled : rule.Filled)
    (h : Blocks form observed previous start rule (.missed order expected (.notFound index))) :
    ∃ b, rule = .block b ∧ order = b.order ∧ expected = b.events.map form ∧
      index < b.events.length := by
  cases h with
  | anchored _ missed =>
    have hlt := missed.notFound_lt
    rw [List.length_map] at hlt
    exact ⟨_, rfl, rfl, rfl, hlt⟩
  | exhausted => exact ⟨_, rfl, rfl, rfl, List.length_pos_iff.2 hfilled⟩

theorem Blocks.of_unobserved (h : Blocks form [] previous start (.block b) mismatch) :
    ∃ index, mismatch = .missed b.order (b.events.map form) (.notFound index) := by
  cases h with
  | anchored _ missed =>
    obtain ⟨index, rfl⟩ := missed.exists_notFound
    exact ⟨index, rfl⟩
  | absent _ inside => cases inside
  | exhausted => exact ⟨0, rfl⟩
  | excluded _ hit => cases hit.lt_length

theorem Blocks.ne_notEmpty (h : Blocks form observed previous first rule mismatch) :
    mismatch ≠ .notEmpty := by
  cases h <;> nofun

theorem Leaves.index_bounds (h : Leaves form observed first rule mismatch)
    (hindex : mismatch.publishedIndex? = some index) :
    first ≤ index ∧ index < observed.length := by
  cases h with
  | trailing left =>
    cases hindex
    exact ⟨Nat.le_refl _, left⟩
  | excluded hit =>
    cases hindex
    exact ⟨hit.from_first, hit.lt_length⟩

/-! ### All rules -/

section Rules

variable {cursor : Nat → Nat}

theorem Placed.mono (h : Placed form rules observed cursor) (hik : i ≤ k) (hk : k ≤ rules.length) :
    cursor i ≤ cursor k := by
  induction k, hik using Nat.le_induction with
  | base => exact Nat.le_refl _
  | succ k _ ih =>
    have hpasses := h.passes k _ (List.getElem?_eq_getElem hk)
    exact Nat.le_trans (ih (Nat.le_of_succ_le hk)) hpasses.le

theorem Placed.passes_of_lt (h : Placed form (rules.take n) observed cursor) (hk : k < n)
    (here : rules[k]? = some rule) :
    Passes form observed (rules.take k).getLast? (cursor k) rule (cursor (k + 1)) := by
  have hhere : (rules.take n)[k]? = some rule := by
    rwa [List.getElem?_take_of_lt hk]
  have hpasses := h.passes k rule hhere
  rwa [List.take_take, Nat.min_eq_left hk.le] at hpasses

theorem Placed.take_of_le (h : Placed form (rules.take n) observed cursor) (hk : k ≤ n) :
    Placed form (rules.take k) observed cursor := by
  have hplaced := h.take k
  rwa [List.take_take, Nat.min_eq_left hk] at hplaced

/-- A block that the walk comes through has taken the events in front of the next cursor. -/
theorem Placed.takes (h : Placed form (rules.take n) observed cursor) (hk : k < n)
    (here : rules[k]? = some (.block b)) :
    ∃ start, Takes form rules observed k b start ∧ start + b.events.length = cursor (k + 1) := by
  obtain ⟨start, hstands, hnext⟩ := (h.passes_of_lt hk here).exists_standsAt
  exact ⟨start, ⟨here, hstands, cursor, h.take_of_le hk, hnext⟩, hnext.symm⟩

/-- All walks through the rules up to a block agree on where it ends. -/
theorem Takes.stop_eq (hfilled : ∀ rule ∈ rules, rule.Filled)
    (hplaced : Placed form (rules.take n) observed cursor) (hk : k < n)
    (h : Takes form rules observed k b start) : start + b.events.length = cursor (k + 1) := by
  obtain ⟨cursor', hplaced', hstop⟩ := h.follows
  have hlt := (List.getElem?_eq_some_iff.1 h.here).1
  have hsame := hplaced'.unique (fun rule hrule => hfilled rule (List.mem_of_mem_take hrule))
    (hplaced.take_of_le hk) (k + 1) (List.length_take_of_le hlt).ge
  rw [← hstop, hsame]

/-- Behind a rule that ends the walk, no block takes events. -/
theorem Takes.lt_of_blocks (hfilled : ∀ rule ∈ rules, rule.Filled) (here : rules[i]? = some rule)
    (hplaced : Placed form (rules.take i) observed cursor)
    (hblocks : Blocks form observed (rules.take i).getLast? (cursor i) rule mismatch)
    (h : Takes form rules observed k b start) : k < i := by
  refine Nat.not_le.1 fun hik => ?_
  obtain ⟨cursor', hplaced', -⟩ := h.follows
  have hi := (List.getElem?_eq_some_iff.1 here).1
  have hlength : (rules.take i).length = i := List.length_take_of_le hi.le
  -- The walk to the block comes to the rule at the same cursor, and it gets through.
  have hsame := hplaced.unique (fun rule hrule => hfilled rule (List.mem_of_mem_take hrule))
    (hplaced'.take_of_le (Nat.le_succ_of_le hik)) i hlength.ge
  have hpasses := hplaced'.passes_of_lt (Nat.lt_succ_of_le hik) here
  rw [← hsame] at hpasses
  exact hblocks.not_passes (hfilled rule (List.mem_of_getElem? here))
    (hplaced.le_length hlength.ge) hpasses

end Rules

namespace Blames

/-- A mismatch points at an event that is there, from a cursor on that is behind all blocks that the
walk has come through. -/
theorem exists_cursor (hfilled : ∀ rule ∈ rules, rule.Filled)
    (h : Blames form rules observed i mismatch) :
    ∃ stop, (∀ k b start, Takes form rules observed k b start →
        start + b.events.length ≤ stop) ∧
      ∀ index, mismatch.publishedIndex? = some index → stop ≤ index ∧ index < observed.length := by
  cases h with
  | @atRule rule cursor here placed blocks =>
    refine ⟨cursor i, ?_, fun _ => blocks.index_bounds⟩
    intro k b start htakes
    have hi := (List.getElem?_eq_some_iff.1 here).1
    have hk : k < i := htakes.lt_of_blocks hfilled here placed blocks
    rw [htakes.stop_eq hfilled placed hk]
    exact placed.mono hk (List.length_take_of_le hi.le).ge
  | @atEnd rule cursor last here placed leaves =>
    refine ⟨cursor (i + 1), ?_, fun _ => leaves.index_bounds⟩
    intro k b start htakes
    have hk : k < rules.length := (List.getElem?_eq_some_iff.1 htakes.here).1
    have hplaced : Placed form (rules.take rules.length) observed cursor := by
      rwa [List.take_length]
    rw [htakes.stop_eq hfilled hplaced hk, ← last]
    exact placed.mono hk (Nat.le_refl _)

theorem taken (h : Blames form rules observed i mismatch) (hk : k < i)
    (here : rules[k]? = some (.block b)) : ∃ start, Takes form rules observed k b start := by
  cases h with
  | atRule _ placed =>
    obtain ⟨start, htakes, -⟩ := placed.takes hk here
    exact ⟨start, htakes⟩
  | atEnd last _ placed =>
    rw [← List.take_length (l := rules)] at placed
    obtain ⟨start, htakes, -⟩ := placed.takes (by omega) here
    exact ⟨start, htakes⟩

theorem seriesNotFound_bounds
    (h : Blames form rules observed i (.missed order expected (.seriesNotFound first last))) :
    first ≤ last ∧ last + 1 = observed.length := by
  cases h with
  | atRule _ _ blocks => exact blocks.seriesNotFound_bounds
  | atEnd _ _ _ leaves => cases leaves

theorem trailing_bounds
    (h : Blames form rules observed i (.missed order expected (.trailing first last))) :
    first ≤ last ∧ last + 1 = observed.length ∧
      ∃ b start, Takes form rules observed i b start ∧ start + b.events.length = first := by
  cases h with
  | atRule _ _ blocks => exact absurd blocks Blocks.not_trailing
  | atEnd hlast here placed leaves =>
    rw [← List.take_length (l := rules)] at placed
    cases leaves with
    | trailing left =>
      obtain ⟨start, htakes, hstop⟩ := placed.takes (by omega) here
      exact ⟨by omega, by omega, _, start, htakes, hstop⟩

theorem notFound_bounds (hfilled : ∀ rule ∈ rules, rule.Filled)
    (h : Blames form rules observed i (.missed order expected (.notFound index))) :
    ∃ b, rules[i]? = some (.block b) ∧ order = b.order ∧ expected = b.events.map form ∧
      index < b.events.length := by
  cases h with
  | atRule here _ blocks =>
    obtain ⟨b, rfl, hbounds⟩ := blocks.notFound_bounds (hfilled _ (List.mem_of_getElem? here))
    exact ⟨b, here, hbounds⟩
  | atEnd _ _ _ leaves => cases leaves

theorem of_unobserved (here : rules[i]? = some (.block b)) (h : Blames form rules [] i mismatch) :
    ∃ index, mismatch = .missed b.order (b.events.map form) (.notFound index) := by
  cases h with
  | atRule here' _ blocks =>
    cases here.symm.trans here'
    exact blocks.of_unobserved
  | atEnd _ here' _ leaves =>
    cases here.symm.trans here'
    cases leaves with
    | trailing left => cases left

theorem exists_reportsAt (h : Blames form rules observed i (.excluded n index)) :
    ∃ exclusions e, n = exclusions.length ∧ observed[index]? = some e ∧ Excludes exclusions e ∧
      ReportsAt form rules observed exclusions index i := by
  cases h with
  | @atRule rule cursor here placed blocks =>
    generalize hprevious : (rules.take i).getLast? = previous at blocks
    generalize hcursor : cursor i = first at blocks
    cases blocks with
    | excluded hfirst hit =>
      obtain ⟨e, he, hexcludes⟩ := hit.excluded
      obtain _ | g := i
      · cases hprevious
      · subst hcursor
        have hg := (List.getElem?_eq_some_iff.1 here).1
        rw [List.getLast?_eq_getElem?, List.length_take_of_le hg.le] at hprevious
        have hgap := (List.getElem?_take_of_lt (Nat.lt_succ_self g)).symm.trans hprevious
        exact ⟨_, e, rfl, he, hexcludes, .ahead hgap here placed hfirst hit.before_stop⟩
  | atEnd last here _ leaves =>
    cases leaves with
    | excluded hit =>
      obtain ⟨e, he, hexcludes⟩ := hit.excluded
      exact ⟨_, e, rfl, he, hexcludes, .last here last⟩

theorem ne_notEmpty (h : Blames form rules observed i mismatch) : mismatch ≠ .notEmpty := by
  cases h with
  | atRule _ _ blocks => exact blocks.ne_notEmpty
  | atEnd _ _ _ leaves => cases leaves <;> nofun

theorem bounded (hfilled : ∀ rule ∈ rules, rule.Filled)
    (h : Blames form rules observed i mismatch) : Bounded form rules observed i mismatch := by
  obtain ⟨stop, htaken, hbounds⟩ := h.exists_cursor hfilled
  constructor
  · intro k hk b here
    exact h.taken hk here
  · intro index hindex
    obtain ⟨hle, hlt⟩ := hbounds index hindex
    exact ⟨hlt, fun k b start htakes => Nat.le_trans (htaken k b start htakes) hle⟩
  · rintro order expected first last rfl
    exact h.seriesNotFound_bounds
  · rintro order expected first last rfl
    exact h.trailing_bounds
  · rintro order expected index rfl
    exact h.notFound_bounds hfilled
  · rintro rfl b here
    exact h.of_unobserved here
  · rintro n index rfl
    exact h.exists_reportsAt

end Blames

namespace Chain

variable {chain : Chain ε} {c : Canonicalizer ε}

theorem message?_eq_of_mismatch? {outcome : Outcome} {found : Option Mismatch}
    {text : Mismatch → String}
    (hfailure : outcome.failure = found.map fun mismatch => (mismatch, text mismatch))
    (h : outcome.mismatch? = some mismatch) : outcome.message? = some (text mismatch) := by
  rw [Outcome.mismatch?, hfailure] at h
  rw [Outcome.message?, hfailure]
  cases found with
  | none => cases h
  | some m =>
    cases h
    rfl

/-- Where all events have canonical forms, only a chain without rules is not executed to an end. An
execution succeeds just if it has neither a mismatch nor a message. A mismatch of a chain with rules
has a rule to blame, and points at an event that is there and that no block has taken. -/
theorem execute_bounded (stream : StreamId) (hbuilt : chain.Built)
    (hexpected : c.Covers chain.expected) (hobserved : c.Covers observed) :
    (chain = ∅ ∧ chain.execute c stream observed = .error .emptyChain) ∨
    ∃ outcome, chain.execute c stream observed = .ok outcome ∧
      (outcome.isSuccess = true ↔ outcome.mismatch? = none ∧ outcome.message? = none) ∧
      (chain ≠ nothing → ∀ mismatch, outcome.mismatch? = some mismatch ↔
        ∃ i, Blames c.form chain.toList observed i mismatch) ∧
      ∀ mismatch, outcome.mismatch? = some mismatch →
        outcome.message? = some (mismatch.text stream (observed.map c.form)) ∧
        (∀ index, mismatch.publishedIndex? = some index → index < observed.length) ∧
        (mismatch = .notEmpty ↔ chain = nothing ∧ observed ≠ []) ∧
        ∀ i, Blames c.form chain.toList observed i mismatch →
          Bounded c.form chain.toList observed i mismatch := by
  have hw := hbuilt.wellFormed
  obtain rfl | ⟨l, rfl⟩ := hw.eq_nothing_or_rules
  · refine .inr ⟨_, execute_nothing.trans (conclude_of_covers hobserved),
      Outcome.isSuccess_iff_bare, fun h => absurd rfl h, fun mismatch hmismatch => ?_⟩
    have hnone : ∀ i, ¬Blames c.form [] observed i mismatch := by
      rintro i (⟨⟨⟩, -, -⟩ | ⟨-, ⟨⟩, -, -⟩)
    cases observed with
    | nil => cases hmismatch
    | cons e rest =>
      cases hmismatch
      refine ⟨rfl, ?_, by simp, fun i h => absurd h (hnone i)⟩
      rintro _ ⟨⟩
      exact Nat.succ_pos _
  · by_cases hne : l = []
    · subst hne
      exact .inl ⟨rfl, rfl⟩
    have hexecute : (rules l).execute c stream observed = _ :=
      execute_eq_ok (hw.check_eq_ok hne) hexpected hobserved
    have hblame : ∀ mismatch, _ ↔ ∃ i, Blames c.form l observed i mismatch :=
      fun _ => mismatch?_eq_some_iff_blames hw hexecute
    refine .inr ⟨_, hexecute, Outcome.isSuccess_iff_bare, fun _ => hblame,
      fun mismatch hmismatch => ?_⟩
    obtain ⟨i, hblames⟩ := (hblame mismatch).1 hmismatch
    have hbounded : ∀ i, Blames c.form l observed i mismatch →
        Bounded c.form l observed i mismatch := fun _ h => h.bounded hw.filled
    refine ⟨?_, ?_, ?_, hbounded⟩
    · exact message?_eq_of_mismatch? rfl hmismatch
    · intro index hindex
      exact ((hbounded i hblames).index index hindex).1
    · constructor
      · intro hnotEmpty
        exact absurd hnotEmpty hblames.ne_notEmpty
      · rintro ⟨⟨⟩, -⟩

/-- The gap excludes the withdrawal, which is behind the event that the first block has taken. -/
theorem execute_bounded_withdrawn :
    ∃ outcome i, (Chain.rules [.block ⟨.asGiven, [Bank.Event.opened "ada"]⟩,
        .gap [(· == .withdrawn 5)], .block ⟨.asGiven, [.deposited 10]⟩]).execute .byLabel "acc-1"
        [.opened "ada", .withdrawn 5, .deposited 10] = .ok outcome ∧
      outcome.mismatch? = some (.excluded 1 1) ∧
      Bounded Canonicalizer.byLabel.form [.block ⟨.asGiven, [Bank.Event.opened "ada"]⟩,
        .gap [(· == .withdrawn 5)], .block ⟨.asGiven, [.deposited 10]⟩]
        [.opened "ada", .withdrawn 5, .deposited 10] i (.excluded 1 1) := by
  have hbuilt : (Chain.rules [.block ⟨.asGiven, [Bank.Event.opened "ada"]⟩,
      .gap [(· == .withdrawn 5)], .block ⟨.asGiven, [.deposited 10]⟩]).Built :=
    ⟨[.block .asGiven [.opened "ada"], .gap [(· == .withdrawn 5)],
      .block .asGiven [.deposited 10]], rfl⟩
  have hobserved : Canonicalizer.byLabel.Covers
      [Bank.Event.opened "ada", .withdrawn 5, .deposited 10] := fun _ _ => ⟨_, rfl⟩
  rcases execute_bounded "acc-1" hbuilt (fun _ _ => ⟨_, rfl⟩) hobserved with
    ⟨hempty, -⟩ | ⟨outcome, hexecute, -, hblame, hmismatch⟩
  · cases hempty
  · have hfound : outcome.mismatch? = some (.excluded 1 1) := by
      cases hexecute
      rfl
    obtain ⟨i, hi⟩ := (hblame nofun _).1 hfound
    obtain ⟨-, -, -, hbounded⟩ := hmismatch _ hfound
    exact ⟨outcome, i, hexecute, hfound, hbounded i hi⟩

end Chain

end GivenWhenThen
