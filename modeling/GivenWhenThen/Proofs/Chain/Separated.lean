import Mathlib.Data.Nat.Find
import GivenWhenThen.Bank.Basic
import GivenWhenThen.Proofs.Chain.Concatenation

/-! Chains in which each block behind the first gap stands between two gaps, and only the first gap
excludes events. A walk takes the first place where such a block stands and does not come back to
it. By `separated_complete` it misses nothing that way: it comes through just if the blocks can be
assigned to places at all. The exchange is in `verdict_behind_gap_iff`. A place that is first ends
no later than any other, so that the blocks behind still find theirs, and it only makes the gap
before shorter. -/

namespace GivenWhenThen

variable {ε : Type}

/-- Blocks, a gap, and then more blocks, each with a gap behind it that excludes nothing. -/
def Chain.separated (leading : List (Block ε)) (exclusions : List (Exclusion ε))
    (later : List (Block ε)) : List (Rule ε) :=
  leading.map .block ++ .gap exclusions :: later.flatMap fun b => [.block b, .gap []]

/-- The expected events of the block stand among the observed ones from `start` on. -/
def Block.StandsAt (form : ε → Canonical) (observed : List ε) (b : Block ε) (start : Nat) : Prop :=
  b.order.StandsAt (b.events.map form) (observed.map form) start

/-- The blocks stand back to back from `first` up to `stop`. -/
inductive BackToBack (form : ε → Canonical) (observed : List ε) : Nat → List (Block ε) → Nat → Prop
  | nil {first : Nat} : BackToBack form observed first [] first
  | cons {first stop : Nat} {b : Block ε} {blocks : List (Block ε)}
      (stands : b.StandsAt form observed first)
      (rest : BackToBack form observed (first + b.events.length) blocks stop) :
      BackToBack form observed first (b :: blocks) stop

/-- The blocks stand at the starts, none of which is before `first` or before the end of the block
in front. -/
inductive Scattered (form : ε → Canonical) (observed : List ε) :
    Nat → List (Block ε) → List Nat → Prop
  | nil {first : Nat} : Scattered form observed first [] []
  | cons {first start : Nat} {b : Block ε} {blocks : List (Block ε)} {starts : List Nat}
      (le : first ≤ start) (stands : b.StandsAt form observed start)
      (rest : Scattered form observed (start + b.events.length) blocks starts) :
      Scattered form observed first (b :: blocks) (start :: starts)

/-- Places for the blocks of a separated chain: the leading ones up to `stop`, the later ones at the
starts, and no excluded event before the first of these, or before the end if there is none. -/
structure Assignment (form : ε → Canonical) (observed : List ε) (leading : List (Block ε))
    (exclusions : List (Exclusion ε)) (later : List (Block ε)) (stop : Nat) (starts : List Nat) :
    Prop where
  leads : BackToBack form observed 0 leading stop
  follows : Scattered form observed stop later starts
  free : NoneExcluded exclusions observed stop (starts.headD observed.length)

variable {form : ε → Canonical} {observed : List ε} {exclusions : List (Exclusion ε)}
  {leading later blocks : List (Block ε)} {b : Block ε} {tail : List (Rule ε)}
  {previous : Option (Rule ε)} {first first' start next : Nat} {starts : List Nat}

/-! ### The first of several places -/

/-- Where events stand at some place, they stand at a first one. -/
theorem Order.exists_firstStandsAt {α : Type} {order : Order} {expected published : List α}
    (hle : first ≤ start) (h : order.StandsAt expected published start) :
    ∃ m ≤ start, order.FirstStandsAt expected published first m := by
  classical
  have hexists : ∃ m, first ≤ m ∧ order.StandsAt expected published m := ⟨start, hle, h⟩
  obtain ⟨hfirst, hstands⟩ := Nat.find_spec hexists
  refine ⟨Nat.find hexists, Nat.find_min' hexists ⟨hle, h⟩, hfirst, hstands, ?_⟩
  intro j hj hlt hj'
  exact Nat.find_min hexists hlt ⟨hj, hj'⟩

theorem NoneExcluded.mono {stop stop' : Nat} (h : NoneExcluded exclusions observed first stop')
    (hle : stop ≤ stop') : NoneExcluded exclusions observed first stop :=
  fun i hfirst hstop => h i hfirst (by omega)

theorem Scattered.mono (h : Scattered form observed first blocks starts) (hle : first' ≤ first) :
    Scattered form observed first' blocks starts := by
  cases h with
  | nil => exact .nil
  | cons le stands rest => exact .cons (Nat.le_trans hle le) stands rest

/-! ### One rule -/

theorem passes_block_iff_of_tied (htied : ∀ x, previous ≠ some (.gap x)) :
    Passes form observed previous first (.block b) next ↔
      b.StandsAt form observed first ∧ next = first + b.events.length := by
  constructor
  · intro h
    cases h with
    | anchored _ stands => exact ⟨stands, rfl⟩
    | searched => exact absurd rfl (htied _)
  · rintro ⟨hstands, rfl⟩
    exact .anchored htied hstands

theorem passes_block_iff_of_gap :
    Passes form observed (some (.gap exclusions)) first (.block b) next ↔
      ∃ start, b.order.FirstStandsAt (b.events.map form) (observed.map form) first start ∧
        NoneExcluded exclusions observed first start ∧ next = start + b.events.length := by
  constructor
  · intro h
    cases h with
    | anchored tied => exact absurd rfl (tied _)
    | searched hfirst free => exact ⟨_, hfirst, free, rfl⟩
  · rintro ⟨start, hfirst, hfree, rfl⟩
    exact .searched hfirst hfree

namespace Position

variable {p : Position ε} {rule : Rule ε}

theorem verdict_cons_eq_ok_iff (hfilled : rule.Filled) :
    p.verdict form observed (rule :: tail) = .ok () ↔
      ∃ next, Passes form observed p.previous p.cursor rule next ∧
        Position.verdict form observed ⟨some rule, next⟩ tail = .ok () := by
  simp only [verdict, bind_eq_ok_iff, run_cons_eq_ok_iff hfilled]
  constructor
  · rintro ⟨q, ⟨next, hpasses, hrun⟩, hfinish⟩
    exact ⟨next, hpasses, q, hrun, hfinish⟩
  · rintro ⟨next, hpasses, q, hrun, hfinish⟩
    exact ⟨q, ⟨next, hpasses, hrun⟩, hfinish⟩

theorem verdict_gap_cons :
    p.verdict form observed (.gap exclusions :: tail) =
      Position.verdict form observed ⟨some (.gap exclusions), p.cursor⟩ tail := rfl

/-! ### Both parts of the chain -/

/-- A walk over leading blocks takes the events where they stand back to back. -/
theorem verdict_leading_iff (hfilled : ∀ b ∈ leading, b.events ≠ [])
    (hgap : p.gap = none) :
    p.verdict form observed (leading.map .block ++ .gap exclusions :: tail) = .ok () ↔
      ∃ stop, BackToBack form observed p.cursor leading stop ∧
        Position.verdict form observed ⟨some (.gap exclusions), stop⟩ tail = .ok () := by
  induction leading generalizing p with
  | nil =>
    rw [List.map_nil, List.nil_append, verdict_gap_cons]
    constructor
    · exact fun h => ⟨_, .nil, h⟩
    · rintro ⟨_, ⟨⟩, h⟩
      exact h
  | cons b leading ih =>
    have hblock : (Rule.block b).Filled := hfilled b List.mem_cons_self
    have hrest : ∀ b ∈ leading, b.events ≠ [] := fun b hb => hfilled b (List.mem_cons_of_mem _ hb)
    rw [List.map_cons, List.cons_append, verdict_cons_eq_ok_iff hblock]
    simp only [passes_block_iff_of_tied (gap_eq_none_iff.1 hgap)]
    constructor
    · rintro ⟨_, ⟨hstands, rfl⟩, hverdict⟩
      obtain ⟨stop, hleads, hbehind⟩ := (ih hrest rfl).1 hverdict
      exact ⟨stop, .cons hstands hleads, hbehind⟩
    · rintro ⟨stop, ⟨⟩ | ⟨hstands, hleads⟩, hbehind⟩
      exact ⟨_, ⟨hstands, rfl⟩, (ih hrest rfl).2 ⟨stop, hleads, hbehind⟩⟩

/-- A walk that comes from a gap finds places for later blocks if there are any. -/
theorem verdict_behind_gap_iff (hfilled : ∀ b ∈ later, b.events ≠ []) :
    Position.verdict form observed ⟨some (.gap exclusions), first⟩
        (later.flatMap fun b => [.block b, .gap []]) = .ok () ↔
      ∃ starts, Scattered form observed first later starts ∧
        NoneExcluded exclusions observed first (starts.headD observed.length) := by
  induction later generalizing exclusions first with
  | nil =>
    have hverdict : Position.verdict form observed ⟨some (.gap exclusions), first⟩
          (List.flatMap (fun b => [.block b, .gap []]) []) =
        Position.finish form observed ⟨some (.gap exclusions), first⟩ := rfl
    rw [hverdict, finish_eq_ok_iff]
    constructor
    · exact fun h => ⟨[], .nil, h.2 exclusions rfl⟩
    · rintro ⟨_, ⟨⟩, hfree⟩
      refine ⟨nofun, ?_⟩
      rintro _ ⟨⟩
      exact hfree
  | cons b later ih =>
    have hblock : (Rule.block b).Filled := hfilled b List.mem_cons_self
    have hrest : ∀ b ∈ later, b.events ≠ [] := fun b hb => hfilled b (List.mem_cons_of_mem _ hb)
    rw [List.flatMap_cons, List.cons_append, verdict_cons_eq_ok_iff hblock]
    simp only [passes_block_iff_of_gap, List.cons_append, List.nil_append, verdict_gap_cons,
      ih hrest, noneExcluded_nil, and_true]
    constructor
    · rintro ⟨_, ⟨start, hfirst, hfree, rfl⟩, starts, hscattered⟩
      exact ⟨start :: starts, .cons hfirst.1 hfirst.2.1 hscattered, hfree⟩
    -- Any place for the block can be exchanged for the first one.
    · rintro ⟨_, ⟨⟩ | @⟨_, start, _, _, starts, hle, hstands, hscattered⟩, hfree⟩
      obtain ⟨m, hm, hfirst⟩ := Order.exists_firstStandsAt hle hstands
      have hends : m + b.events.length ≤ start + b.events.length := by omega
      exact ⟨_, ⟨m, hfirst, hfree.mono hm, rfl⟩, starts, hscattered.mono hends⟩

end Position

/-! ### The whole chain -/

namespace Chain

variable {c : Canonicalizer ε}

theorem filled_of_separated (h : (rules (separated leading exclusions later)).WellFormed) :
    (∀ b ∈ leading, b.events ≠ []) ∧ ∀ b ∈ later, b.events ≠ [] := by
  have hfilled (b : Block ε) (hb : .block b ∈ separated leading exclusions later) :
      b.events ≠ [] := h.filled (.block b) hb
  constructor
  · intro b hb
    exact hfilled b (by simp [separated, hb])
  · intro b hb
    exact hfilled b (by simp [separated, hb])

theorem verdict_separated_iff (h : (rules (separated leading exclusions later)).WellFormed) :
    Position.verdict form observed {} (separated leading exclusions later) = .ok () ↔
      ∃ stop starts, Assignment form observed leading exclusions later stop starts := by
  obtain ⟨hleading, hlater⟩ := filled_of_separated h
  rw [separated, Position.verdict_leading_iff hleading rfl]
  simp only [Position.verdict_behind_gap_iff hlater]
  constructor
  · rintro ⟨stop, hleads, starts, hfollows, hfree⟩
    exact ⟨stop, starts, hleads, hfollows, hfree⟩
  · rintro ⟨stop, starts, hleads, hfollows, hfree⟩
    exact ⟨stop, hleads, starts, hfollows, hfree⟩

/-- Where all events have canonical forms, executing a separated chain comes to an end, and it
succeeds just if there are places for the blocks, whether or not a walk would choose them. -/
theorem separated_complete (stream : StreamId)
    (hbuilt : (rules (separated leading exclusions later)).Built)
    (hexpected : c.Covers (rules (separated leading exclusions later)).expected)
    (hobserved : c.Covers observed) :
    ∃ outcome,
      (rules (separated leading exclusions later)).execute c stream observed = .ok outcome ∧
      (outcome.isSuccess = true ↔
        ∃ stop starts, Assignment c.form observed leading exclusions later stop starts) := by
  have hw := hbuilt.wellFormed
  have hne : separated leading exclusions later ≠ [] := by simp [separated]
  obtain ⟨outcome, hexecute⟩ := execute_isOk stream hw hne hexpected hobserved
  have haccepts : (rules (separated leading exclusions later)).Accepts c stream observed ↔
      ∃ stop starts, Assignment c.form observed leading exclusions later stop starts := by
    rw [accepts_iff hw hne hexpected hobserved, verdict_separated_iff hw]
  refine ⟨outcome, hexecute, ?_⟩
  rw [← haccepts, Accepts, hexecute]
  simp

/-- The last deposit is a place for the last block, though the walk takes the one before. -/
theorem separated_complete_deposited :
    (rules (separated [⟨.asGiven, [.opened "ada"]⟩] [(· == Bank.Event.withdrawn 5)]
      [⟨.any, [.deposited 10, .withdrawn 7]⟩, ⟨.asGiven, [.deposited 1]⟩])).Accepts .byLabel "acc-1"
      [.opened "ada", .opened "bob", .withdrawn 7, .deposited 10, .deposited 3, .deposited 4] := by
  have hbuilt : (rules (separated [⟨.asGiven, [.opened "ada"]⟩] [(· == Bank.Event.withdrawn 5)]
      [⟨.any, [.deposited 10, .withdrawn 7]⟩, ⟨.asGiven, [.deposited 1]⟩])).Built :=
    ⟨[.block .asGiven [.opened "ada"], .gap [(· == .withdrawn 5)],
      .block .any [.deposited 10, .withdrawn 7], .gap [], .block .asGiven [.deposited 1], .gap []],
      rfl⟩
  have hobserved : Canonicalizer.byLabel.Covers [Bank.Event.opened "ada", .opened "bob",
      .withdrawn 7, .deposited 10, .deposited 3, .deposited 4] := fun _ _ => ⟨_, rfl⟩
  obtain ⟨outcome, hexecute, hsuccess⟩ :=
    separated_complete "acc-1" hbuilt (fun _ _ => ⟨_, rfl⟩) hobserved
  refine ⟨outcome, hexecute, hsuccess.2 ⟨1, [2, 5], ?_, ?_, ?_⟩⟩
  · exact .cons ⟨by decide, rfl⟩ .nil
  · refine .cons (by decide) ⟨by decide, ?_⟩ (.cons (by decide) ⟨by decide, ?_⟩ .nil)
    · exact .swap _ _ _
    · rfl
  · intro i hfirst hstop e he
    obtain rfl : i = 1 := by simp at hstop; omega
    cases he
    rintro ⟨x, hx, hexcluded⟩
    obtain rfl := List.mem_singleton.1 hx
    exact absurd hexcluded (by decide)

end Chain

end GivenWhenThen
