import GivenWhenThen.Proofs.Chain.Correspondence
import GivenWhenThen.Proofs.Chain.Failure

/-! Chains that differ only in what their gaps exclude. The stricter of two chains excludes at least
the events that the other excludes. Exclusions play no part in finding a block, so that both chains
move their cursors alike until the stricter one meets an event that only it excludes: by
`Placed.stricter` it has then failed below the cursor of the other. `execute_stricter` compares the
outcomes of the two. -/

namespace GivenWhenThen

variable {ε : Type}

/-- A rule, and the same rule where a gap excludes at most the same events. -/
inductive Rule.Stricter : Rule ε → Rule ε → Prop
  | block {b : Block ε} : Stricter (.block b) (.block b)
  | gap {strict weak : List (Exclusion ε)} (covers : ∀ e, Excludes weak e → Excludes strict e) :
      Stricter (.gap strict) (.gap weak)

/-- A chain, and the same chain where each gap excludes at most the same events. -/
inductive Chain.Stricter : Chain ε → Chain ε → Prop
  | nothing : Stricter .nothing .nothing
  | rules {l l' : List (Rule ε)} (alike : List.Forall₂ Rule.Stricter l l') :
      Stricter (.rules l) (.rules l')

/-- The mismatch that the rules fail with, and the cursor at the check that finds it: where the rule
to blame begins, or behind the last rule. -/
inductive FailsAt (form : ε → Canonical) (rules : List (Rule ε)) (observed : List ε) :
    (cursor : Nat) → Mismatch → Prop
  | atRule {i : Nat} {rule : Rule ε} {cursor : Nat → Nat} {mismatch : Mismatch}
      (here : rules[i]? = some rule) (placed : Placed form (rules.take i) observed cursor)
      (blocks : Blocks form observed (rules.take i).getLast? (cursor i) rule mismatch) :
      FailsAt form rules observed (cursor i) mismatch
  | atEnd {rule : Rule ε} {cursor : Nat → Nat} {mismatch : Mismatch}
      (last : rules.getLast? = some rule) (placed : Placed form rules observed cursor)
      (leaves : Leaves form observed (cursor rules.length) rule mismatch) :
      FailsAt form rules observed (cursor rules.length) mismatch

/-- The mismatches that a stricter rule and a weaker one end the walk with at one cursor: the same
miss, or excluded events of which the stricter rule finds its own no later. -/
inductive Mismatch.NoLater : Mismatch → Mismatch → Prop
  | missed {order : Order} {expected : List Canonical} {miss : Miss} :
      NoLater (.missed order expected miss) (.missed order expected miss)
  | excluded {n m index later : Nat} (le : index ≤ later) :
      NoLater (.excluded n index) (.excluded m later)

variable {form : ε → Canonical} {observed : List ε} {l l' : List (Rule ε)} {rule rule' : Rule ε}
  {previous previous' : Option (Rule ε)} {mismatch : Mismatch}

theorem failsWith_iff_exists_failsAt :
    FailsWith form l observed mismatch ↔ ∃ cursor, FailsAt form l observed cursor mismatch := by
  constructor
  · rintro (⟨here, placed, blocks⟩ | ⟨last, placed, leaves⟩)
    · exact ⟨_, .atRule here placed blocks⟩
    · exact ⟨_, .atEnd last placed leaves⟩
  · rintro ⟨_, ⟨here, placed, blocks⟩ | ⟨last, placed, leaves⟩⟩
    · exact .atRule here placed blocks
    · exact .atEnd last placed leaves

/-! ### Excluded events -/

section Gap

variable {strict weak : List (Exclusion ε)} {first stop index : Nat}

theorem noneExcluded_or_firstExcluded (exclusions : List (Exclusion ε)) (observed : List ε)
    (first stop : Nat) :
    NoneExcluded exclusions observed first stop ∨
      ∃ index, FirstExcluded exclusions observed first stop index := by
  cases h : firstExcluded? exclusions observed first stop with
  | none => exact .inl (firstExcluded?_eq_none_iff.1 h)
  | some index => exact .inr ⟨index, firstExcluded?_eq_some_iff.1 h⟩

/-- Where a gap excludes an event, a stricter gap excludes one no later. -/
theorem FirstExcluded.exists_stricter (covers : ∀ e, Excludes weak e → Excludes strict e)
    (h : FirstExcluded weak observed first stop index) :
    ∃ earlier ≤ index, FirstExcluded strict observed first stop earlier := by
  obtain ⟨e, he, hexcludes⟩ := h.excluded
  rcases noneExcluded_or_firstExcluded strict observed first stop with hnone | ⟨earlier, hearlier⟩
  · exact absurd (covers e hexcludes) (hnone index h.from_first h.before_stop e he)
  · refine ⟨earlier, Nat.not_lt.1 fun hlt => ?_, hearlier⟩
    exact hearlier.before index h.from_first hlt e he (covers e hexcludes)

end Gap

/-! ### One rule -/

theorem tied_iff_of_stricter (hprevious : Option.Rel Rule.Stricter previous previous') :
    (∀ exclusions, previous ≠ some (.gap exclusions)) ↔
      ∀ exclusions, previous' ≠ some (.gap exclusions) := by
  cases hprevious with
  | none => simp
  | some hrule => cases hrule <;> simp

/-- Where a rule passes, a stricter one passes too or finds an event that it excludes. -/
theorem Passes.stricter {cursor next : Nat}
    (hprevious : Option.Rel Rule.Stricter previous previous') (hrule : rule.Stricter rule')
    (h : Passes form observed previous' cursor rule' next) :
    Passes form observed previous cursor rule next ∨
      ∃ n index, Blocks form observed previous cursor rule (.excluded n index) ∧ index < next := by
  cases h with
  | gap =>
    cases hrule
    exact .inl .gap
  | anchored tied stands =>
    cases hrule
    exact .inl (.anchored ((tied_iff_of_stricter hprevious).2 tied) stands)
  | @searched weak cursor start b first free =>
    cases hrule
    obtain ⟨⟨⟩⟩ := hprevious
    rename_i strict covers
    -- The block is found in one place by both, so that only the gap before it makes a difference.
    rcases noneExcluded_or_firstExcluded strict observed cursor start with hnone | ⟨index, hfirst⟩
    · exact .inl (.searched first hnone)
    · refine .inr ⟨_, index, .excluded first hfirst, ?_⟩
      exact Nat.lt_of_lt_of_le hfirst.before_stop (Nat.le_add_right _ _)

/-- Where a rule ends the walk, a stricter one does so as well. -/
theorem Blocks.stricter {cursor : Nat} (hprevious : Option.Rel Rule.Stricter previous previous')
    (hrule : rule.Stricter rule') (h : Blocks form observed previous' cursor rule' mismatch) :
    ∃ earlier, Blocks form observed previous cursor rule earlier ∧ earlier.NoLater mismatch := by
  cases h with
  | anchored tied missed =>
    cases hrule
    exact ⟨_, .anchored ((tied_iff_of_stricter hprevious).2 tied) missed, .missed⟩
  | absent nowhere inside =>
    cases hrule
    obtain ⟨⟨⟩⟩ := hprevious
    exact ⟨_, .absent nowhere inside, .missed⟩
  | exhausted ended =>
    cases hrule
    obtain ⟨⟨⟩⟩ := hprevious
    exact ⟨_, .exhausted ended, .missed⟩
  | excluded first hit =>
    cases hrule
    obtain ⟨⟨⟩⟩ := hprevious
    rename_i covers
    obtain ⟨index, hle, hfirst⟩ := hit.exists_stricter covers
    exact ⟨_, .excluded first hfirst, .excluded hle⟩

theorem Leaves.stricter {cursor : Nat} (hrule : rule.Stricter rule')
    (h : Leaves form observed cursor rule' mismatch) :
    ∃ earlier, Leaves form observed cursor rule earlier ∧ earlier.NoLater mismatch := by
  cases h with
  | trailing left =>
    cases hrule
    exact ⟨_, .trailing left, .missed⟩
  | excluded hit =>
    cases hrule
    rename_i covers
    obtain ⟨index, hle, hfirst⟩ := hit.exists_stricter covers
    exact ⟨_, .excluded hfirst, .excluded hle⟩

/-- Where a rule passes, one that excludes less passes too. -/
theorem Passes.weaker {cursor next : Nat} (hprevious : Option.Rel Rule.Stricter previous previous')
    (hrule : rule.Stricter rule') (h : Passes form observed previous cursor rule next) :
    Passes form observed previous' cursor rule' next := by
  cases h with
  | gap =>
    cases hrule
    exact .gap
  | anchored tied stands =>
    cases hrule
    exact .anchored ((tied_iff_of_stricter hprevious).1 tied) stands
  | searched first free =>
    cases hrule
    obtain ⟨⟨⟩⟩ := hprevious
    rename_i covers
    exact .searched first fun i hi hlt e he hexcludes => free i hi hlt e he (covers e hexcludes)

/-- What a rule misses, one that excludes less misses too. -/
theorem Blocks.weaker {cursor : Nat} {order : Order} {expected : List Canonical} {miss : Miss}
    (hprevious : Option.Rel Rule.Stricter previous previous') (hrule : rule.Stricter rule')
    (h : Blocks form observed previous cursor rule (.missed order expected miss)) :
    Blocks form observed previous' cursor rule' (.missed order expected miss) := by
  cases h with
  | anchored tied missed =>
    cases hrule
    exact .anchored ((tied_iff_of_stricter hprevious).1 tied) missed
  | absent nowhere inside =>
    cases hrule
    obtain ⟨⟨⟩⟩ := hprevious
    exact .absent nowhere inside
  | exhausted ended =>
    cases hrule
    obtain ⟨⟨⟩⟩ := hprevious
    exact .exhausted ended

theorem Blocks.le_of_excluded {cursor n index : Nat}
    (h : Blocks form observed previous cursor rule (.excluded n index)) : cursor ≤ index := by
  cases h with
  | excluded _ hit => exact hit.from_first

/-! ### All rules -/

section Rules

variable {cursor : Nat → Nat} (halike : List.Forall₂ Rule.Stricter l l')
include halike

theorem getLast?_take_stricter (n : Nat) :
    Option.Rel Rule.Stricter (l.take n).getLast? (l'.take n).getLast? :=
  getLast?_of_forall₂ (List.forall₂_take n halike)

/-- Cursors that follow rules follow those that exclude less, too. -/
theorem Placed.weaker (h : Placed form l observed cursor) : Placed form l' observed cursor :=
  h.of_forall₂ halike fun _ _ _ _ _ _ hrule hprevious hpasses => hpasses.weaker hprevious hrule

/-- Cursors that follow rules follow stricter ones too, or these have failed below the last cursor
with an event that they exclude. -/
theorem Placed.stricter {n : Nat} (hn : n ≤ l'.length)
    (h : Placed form (l'.take n) observed cursor) :
    Placed form (l.take n) observed cursor ∨
      ∃ m index, FailsWith form l observed (.excluded m index) ∧ index < cursor n := by
  -- By induction on the rules that are walked: once the stricter ones have failed, the cursor only
  -- moves further beyond the event that they excluded.
  induction n with
  | zero => exact .inl (placed_nil.2 h.start)
  | succ n ih =>
    have hlt : n < l'.length := hn
    obtain ⟨rule, hhere, hrule⟩ :=
      exists_of_rel_some (List.getElem?_eq_getElem hlt ▸ getElem?_of_forall₂ halike n)
    have hle := (List.getElem?_eq_some_iff.1 hhere).1
    rw [List.take_succ_eq_append_getElem hlt, placed_append_singleton,
      List.length_take_of_le hlt.le] at h
    obtain ⟨hbefore, hpasses⟩ := h
    rcases ih hlt.le hbefore with hplaced | ⟨m, index, hfails, hindex⟩
    · rcases hpasses.stricter (getLast?_take_stricter halike n) hrule with
        hpasses | ⟨m, index, hblocks, hindex⟩
      · have htake : l.take (n + 1) = l.take n ++ [rule] := by
          rw [List.take_add_one, hhere, Option.toList_some]
        rw [htake, placed_append_singleton, List.length_take_of_le hle.le]
        exact .inl ⟨hplaced, hpasses⟩
      · exact .inr ⟨m, index, .atRule hhere hplaced hblocks, hindex⟩
    · exact .inr ⟨m, index, hfails, Nat.lt_of_lt_of_le hindex hpasses.le⟩

/-- What rules miss, those that exclude less miss too. -/
theorem FailsWith.weaker {order : Order} {expected : List Canonical} {miss : Miss}
    (h : FailsWith form l observed (.missed order expected miss)) :
    FailsWith form l' observed (.missed order expected miss) := by
  cases h with
  | @atRule i rule _ here placed blocks =>
    obtain ⟨rule', hhere, hrule⟩ := exists_of_some_rel (here ▸ getElem?_of_forall₂ halike i)
    exact .atRule hhere (placed.weaker (List.forall₂_take i halike))
      (blocks.weaker (getLast?_take_stricter halike i) hrule)
  | @atEnd rule _ last placed leaves =>
    obtain ⟨rule', hlast, hrule⟩ := exists_of_some_rel (last ▸ getLast?_of_forall₂ halike)
    rw [halike.length_eq] at leaves
    cases leaves with
    | trailing left =>
      cases hrule
      exact .atEnd hlast (placed.weaker halike) (.trailing left)

/-- Where rules fail at a cursor, stricter ones fail there too, or below it with an event that they
exclude. -/
theorem FailsAt.stricter {at' : Nat} (h : FailsAt form l' observed at' mismatch) :
    (∃ earlier, FailsWith form l observed earlier ∧ earlier.NoLater mismatch) ∨
      ∃ n index, FailsWith form l observed (.excluded n index) ∧ index < at' := by
  cases h with
  | @atRule i rule' _ _ here placed blocks =>
    have hi := (List.getElem?_eq_some_iff.1 here).1
    obtain ⟨rule, hhere, hrule⟩ := exists_of_rel_some (here ▸ getElem?_of_forall₂ halike i)
    rcases placed.stricter halike hi.le with hplaced | hbelow
    · obtain ⟨earlier, hblocks, hle⟩ := blocks.stricter (getLast?_take_stricter halike i) hrule
      exact .inl ⟨earlier, .atRule hhere hplaced hblocks, hle⟩
    · exact .inr hbelow
  | @atEnd rule' _ _ last placed leaves =>
    have hlength := halike.length_eq
    obtain ⟨rule, hlast, hrule⟩ := exists_of_rel_some (last ▸ getLast?_of_forall₂ halike)
    rw [← List.take_length (l := l')] at placed
    rcases placed.stricter halike (Nat.le_refl _) with hplaced | hbelow
    · rw [← hlength, List.take_length] at hplaced
      obtain ⟨earlier, hleaves, hle⟩ := leaves.stricter hrule
      rw [← hlength] at hleaves
      exact .inl ⟨earlier, .atEnd hlast hplaced hleaves, hle⟩
    · exact .inr hbelow

end Rules

theorem FailsAt.le_of_excluded {cursor n index : Nat}
    (h : FailsAt form l observed cursor (.excluded n index)) : cursor ≤ index := by
  cases h with
  | atRule _ _ blocks => exact blocks.le_of_excluded
  | atEnd _ _ leaves => cases leaves with | excluded hit => exact hit.from_first

/-! ### Outcomes -/

/-- The outcomes of a chain and of one whose gaps exclude less, where `rules` are those of the
latter. -/
structure Relaxed (form : ε → Canonical) (rules : List (Rule ε)) (observed : List ε)
    (strict weak : Outcome) : Prop where
  success : strict.isSuccess = true → weak.isSuccess = true
  missed : ∀ order expected miss, strict.mismatch? = some (.missed order expected miss) →
    weak.mismatch? = some (.missed order expected miss)
  excluded : ∀ n index, weak.mismatch? = some (.excluded n index) →
    ∃ m earlier, strict.mismatch? = some (.excluded m earlier) ∧ earlier ≤ index
  /-- What the weaker chain misses, the stricter one misses too, unless it has met an event that it
  excludes below the cursor of that check. -/
  below : ∀ order expected miss, weak.mismatch? = some (.missed order expected miss) →
    (∃ cursor, FailsAt form rules observed cursor (.missed order expected miss)) ∧
    ∀ cursor, FailsAt form rules observed cursor (.missed order expected miss) →
      strict.mismatch? = some (.missed order expected miss) ∨
        ∃ n index, strict.mismatch? = some (.excluded n index) ∧ index < cursor

theorem Relaxed.of_nothing {rules : List (Rule ε)} {strict weak : Outcome}
    (heq : strict.mismatch? = weak.mismatch?)
    (h : weak.mismatch? = none ∨ weak.mismatch? = some .notEmpty) :
    Relaxed form rules observed strict weak := by
  refine ⟨fun hs => ?_, fun _ _ _ hs => ?_, fun _ _ hw => ?_, fun _ _ _ hw => ?_⟩
  · rwa [Outcome.isSuccess_iff, ← heq, ← Outcome.isSuccess_iff]
  · rw [← heq, hs]
  · rcases h with h | h <;> rw [h] at hw <;> cases hw
  · rcases h with h | h <;> rw [h] at hw <;> cases hw

/-- Outcomes that are those of a chain and of a stricter one, by what the rules fail with. -/
theorem Relaxed.of_failsWith {strict weak : Outcome} (halike : List.Forall₂ Rule.Stricter l l')
    (hstrict : ∀ m, strict.mismatch? = some m ↔ FailsWith form l observed m)
    (hweak : ∀ m, weak.mismatch? = some m ↔ FailsWith form l' observed m) :
    Relaxed form l' observed strict weak := by
  -- Whatever the weaker chain fails with, the stricter one fails too.
  have hfails : ∀ {m cursor}, FailsAt form l' observed cursor m →
      (∃ earlier, strict.mismatch? = some earlier ∧ earlier.NoLater m) ∨
        ∃ n index, strict.mismatch? = some (.excluded n index) ∧ index < cursor := by
    intro m cursor hcursor
    simpa only [hstrict] using hcursor.stricter halike
  have hat : ∀ m, weak.mismatch? = some m → ∃ cursor, FailsAt form l' observed cursor m :=
    fun m hm => failsWith_iff_exists_failsAt.1 ((hweak m).1 hm)
  refine ⟨fun hs => ?_, fun order expected miss hs => ?_, fun n index hw => ?_,
    fun order expected miss hw => ⟨hat _ hw, fun cursor hcursor => ?_⟩⟩
  · rw [Outcome.isSuccess_iff] at hs ⊢
    cases hw : weak.mismatch? with
    | none => rfl
    | some m =>
      obtain ⟨cursor, hcursor⟩ := hat m hw
      rcases hfails hcursor with ⟨_, h, -⟩ | ⟨_, _, h, -⟩ <;> rw [hs] at h <;> cases h
  · exact (hweak _).2 (((hstrict _).1 hs).weaker halike)
  · obtain ⟨cursor, hcursor⟩ := hat _ hw
    rcases hfails hcursor with ⟨earlier, h, hle⟩ | ⟨m, earlier, h, hlt⟩
    · cases hle with
      | excluded hle => exact ⟨_, _, h, hle⟩
    · exact ⟨m, earlier, h, (Nat.lt_of_lt_of_le hlt hcursor.le_of_excluded).le⟩
  · rcases hfails hcursor with ⟨earlier, h, hle⟩ | hbelow
    · cases hle
      exact .inl h
    · exact .inr hbelow

namespace Chain

variable {strict weak : Chain ε} {c : Canonicalizer ε}

theorem expected_of_forall₂ (halike : List.Forall₂ Rule.Stricter l l') :
    (Chain.rules l).expected = (Chain.rules l').expected := by
  induction halike with
  | nil => rfl
  | cons hrule _ ih =>
    cases hrule with
    | @block b => exact congrArg (b.events ++ ·) ih
    | gap => exact ih

theorem mismatch?_iff_failsWith {stream : StreamId} {outcome : Outcome}
    (hw : (Chain.rules l).WellFormed)
    (h : (Chain.rules l).execute c stream observed = .ok outcome) (m : Mismatch) :
    outcome.mismatch? = some m ↔ FailsWith c.form l observed m := by
  rw [(mismatch?_of_execute h).2, failure?_eq_some_iff]
  exact Position.verdict_eq_error_iff hw.filled

/-- Exclusions are monotone: of two chains that differ only in them, the one that excludes less
accepts more, and else the two fail alike or the stricter one earlier. Chains without rules are not
executed at all. -/
theorem execute_stricter (stream : StreamId) (hstrict : strict.Built) (hweak : weak.Built)
    (h : strict.Stricter weak) (hexpected : c.Covers strict.expected)
    (hobserved : c.Covers observed) :
    (strict = ∅ ∧ weak = ∅ ∧ strict.execute c stream observed = .error .emptyChain ∧
      weak.execute c stream observed = .error .emptyChain) ∨
    ∃ outcome outcome', strict.execute c stream observed = .ok outcome ∧
      weak.execute c stream observed = .ok outcome' ∧
      Relaxed c.form weak.toList observed outcome outcome' := by
  cases h with
  | nothing =>
    refine .inr ⟨_, _, execute_nothing.trans (conclude_of_covers hobserved),
      execute_nothing.trans (conclude_of_covers hobserved), .of_nothing rfl ?_⟩
    cases observed <;> simp [Outcome.mismatch?]
  | @rules l l' halike =>
    by_cases hne : l = []
    · subst hne
      cases halike
      exact .inl ⟨rfl, rfl, rfl, rfl⟩
    · have hne' : l' ≠ [] := by
        rintro rfl
        cases halike
        exact hne rfl
      obtain ⟨outcome, hrun⟩ :=
        execute_isOk stream hstrict.wellFormed hne hexpected hobserved
      rw [expected_of_forall₂ halike] at hexpected
      obtain ⟨outcome', hrun'⟩ :=
        execute_isOk stream hweak.wellFormed hne' hexpected hobserved
      exact .inr ⟨outcome, outcome', hrun, hrun', .of_failsWith halike
        (mismatch?_iff_failsWith hstrict.wellFormed hrun)
        (mismatch?_iff_failsWith hweak.wellFormed hrun')⟩

/-- Behind the deposit comes an event that no rule takes. Where the gap excludes the withdrawal,
that event is never looked at. -/
theorem execute_stricter_withdrawn :
    let chain := fun exclusions : List (Exclusion Bank.Event) => Chain.rules
      [.block ⟨.asGiven, [.opened "ada"]⟩, .gap exclusions, .block ⟨.asGiven, [.deposited 10]⟩]
    let observed : List Bank.Event :=
      [.opened "ada", .withdrawn 5, .deposited 10, .opened "bob"]
    ∃ outcome outcome',
      (chain [(· == .withdrawn 5)]).execute .byLabel "acc-1" observed = .ok outcome ∧
      (chain []).execute .byLabel "acc-1" observed = .ok outcome' ∧
      Relaxed Canonicalizer.byLabel.form (chain []).toList observed outcome outcome' := by
  intro chain observed
  have hbuilt : ∀ exclusions, (chain exclusions).Built := fun exclusions =>
    ⟨[.block .asGiven [.opened "ada"], .gap exclusions, .block .asGiven [.deposited 10]], rfl⟩
  have hstricter : (chain [(· == .withdrawn 5)]).Stricter (chain []) :=
    .rules (.cons .block (.cons (.gap fun _ ⟨_, hx, _⟩ => nomatch hx) (.cons .block .nil)))
  have hcovers : ∀ events : List Bank.Event, Canonicalizer.byLabel.Covers events :=
    fun _ _ _ => ⟨_, rfl⟩
  rcases execute_stricter "acc-1" (hbuilt _) (hbuilt []) hstricter (hcovers _)
    (hcovers observed) with ⟨h, -⟩ | h
  · cases h
  · exact h

end Chain

end GivenWhenThen
