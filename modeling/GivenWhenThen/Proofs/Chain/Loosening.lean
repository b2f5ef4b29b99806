import GivenWhenThen.Proofs.Chain.Correspondence
import GivenWhenThen.Proofs.Chain.Refusal
import GivenWhenThen.Proofs.Chain.Separated

/-! Blocks whose order is given up. A block that stands in the order given stands in any order.
Where it does not stand in any order, the comparison in the order given has noticed no later.
`Order.looserAt` compares the two at one place and in a search. A search may find the looser block
earlier, and then the rules behind it are tried at other events. So `accepts_loosened` is about
chains in which no block is behind a gap, where each block keeps its place. -/

namespace GivenWhenThen

variable {ε : Type}

/-- What the expected events find at `start`, or in a search from there on, in the order given and
in any order. -/
structure Order.LooserAt {α : Type} [DecidableEq α] (expected published : List α) (start : Nat) :
    Prop where
  found : asGiven.placeAt expected published start = .found start →
    any.placeAt expected published start = .found start
  unexpected : ∀ i, any.placeAt expected published start = .missed (.unexpected i) →
    ∃ j ≤ i, asGiven.placeAt expected published start = .missed (.unexpected j)
  notFound : ∀ i, any.placeAt expected published start = .missed (.notFound i) →
    ∃ j, asGiven.placeAt expected published start = .missed (.notFound j) ∨
      asGiven.placeAt expected published start = .missed (.unexpected j)
  search : ∀ m, asGiven.placeFrom expected published start = .found m →
    ∃ n ≤ m, any.placeFrom expected published start = .found n

/-- A block, and the same block where it may be that the order is given up. -/
inductive Block.Loosened : Block ε → Block ε → Prop
  | same {b : Block ε} : Loosened b b
  | any {events : List ε} : Loosened ⟨.asGiven, events⟩ ⟨.any, events⟩

abbrev Rule.Loosened : Rule ε → Rule ε → Prop := Rule.Related Block.Loosened

abbrev Chain.Loosened : Chain ε → Chain ε → Prop := Chain.Related Block.Loosened

/-- No block is behind a gap. -/
def Chain.Anchored (chain : Chain ε) : Prop :=
  chain.toList.IsChain fun rule next => rule.isGap = true → next.isGap = true

/-! ### One place -/

namespace Order

variable {α : Type} {expected published : List α} {start first m i : Nat}

theorem StandsAt.loosened (h : asGiven.StandsAt expected published start) :
    any.StandsAt expected published start :=
  ⟨h.1, .of_eq h.2⟩

theorem FirstStandsAt.loosened (h : asGiven.FirstStandsAt expected published first m) :
    ∃ n ≤ m, any.FirstStandsAt expected published first n :=
  exists_firstStandsAt h.1 h.2.1.loosened

variable [DecidableEq α]

/-- Events that do not stand in any order are missed in the order given. -/
theorem exists_missedAt_asGiven (hne : expected ≠ [])
    (h : ¬any.StandsAt expected published start) :
    ∃ miss, MissedAt expected published start asGiven miss := by
  cases hmiss : asGiven.missAt expected published start with
  | none => exact absurd ((missAt_eq_none_iff hne).1 hmiss).loosened h
  | some miss => exact ⟨miss, missedAt_of_missAt hmiss⟩

/-- Up to an event that is one too many, not all events can have been the expected ones. -/
theorem MissedAt.exists_unexpected (hne : expected ≠ [])
    (h : MissedAt expected published start any (.unexpected i)) :
    ∃ j ≤ i, MissedAt expected published start asGiven (.unexpected j) := by
  obtain ⟨miss, hmissed⟩ := exists_missedAt_asGiven hne h.not_standsAt
  cases h with
  | @surplus k _ _ here =>
    cases hmissed with
    | @differs k' p e hp he hdiffer before =>
      -- Events that agree up to the one at `k` would all be expected ones.
      have hle : k' ≤ k := by
        refine Nat.not_lt.1 fun hlt => here ?_
        have hsame : (published.drop start).take (k + 1) = expected.take (k + 1) := by
          refine List.ext_getElem? fun n => ?_
          rw [List.getElem?_take, List.getElem?_take, List.getElem?_drop]
          split
          · exact before n (by omega)
          · rfl
        rw [hsame]
        exact (List.take_sublist _ _).subperm
      exact ⟨start + k', Nat.add_le_add_left hle start, .differs hp he hdiffer before⟩
    | ends begins _ =>
      have hpart := (List.take_sublist (k + 1) _).trans begins.sublist
      exact absurd hpart.subperm here

theorem looserAt (hne : expected ≠ []) : LooserAt expected published start := by
  constructor
  · intro hfound
    obtain ⟨-, hstands⟩ := (placeAt_eq_found_iff hne).1 hfound
    exact (placeAt_eq_found_iff hne).2 ⟨rfl, hstands.loosened⟩
  · intro i hmissed
    obtain ⟨j, hle, h⟩ := ((placeAt_eq_missed_iff hne).1 hmissed).exists_unexpected hne
    exact ⟨j, hle, (placeAt_eq_missed_iff hne).2 h⟩
  · intro i hmissed
    have hnot := ((placeAt_eq_missed_iff hne).1 hmissed).not_standsAt
    obtain ⟨miss, h⟩ := exists_missedAt_asGiven hne hnot
    have hplace := (placeAt_eq_missed_iff hne).2 h
    cases h with
    | differs => exact ⟨_, .inr hplace⟩
    | ends => exact ⟨_, .inl hplace⟩
  · intro m hfound
    obtain ⟨n, hle, h⟩ := ((placeFrom_eq_found_iff hne).1 hfound).loosened
    exact ⟨n, hle, (placeFrom_eq_found_iff hne).2 h⟩

end Order

namespace Block.Loosened

variable {b b' : Block ε} {form : ε → Canonical} {observed : List ε} {start : Nat}

theorem events_eq (h : b.Loosened b') : b'.events = b.events := by
  cases h <;> rfl

theorem standsAt (h : b.Loosened b') (hstands : b.StandsAt form observed start) :
    b'.StandsAt form observed start := by
  cases h with
  | same => exact hstands
  | any => exact hstands.loosened

end Block.Loosened

/-! ### All rules -/

variable {form : ε → Canonical} {observed : List ε} {l l' : List (Rule ε)} {rule rule' : Rule ε}
  {previous previous' : Option (Rule ε)} {cursor next : Nat}

theorem Passes.loosened (hprevious : Option.Rel Rule.Loosened previous previous')
    (hrule : rule.Loosened rule') (htied : rule.isGap = true ∨ ∀ x, previous ≠ some (.gap x))
    (h : Passes form observed previous cursor rule next) :
    Passes form observed previous' cursor rule' next := by
  cases h with
  | gap =>
    cases hrule
    exact .gap
  | anchored tied stands =>
    obtain ⟨loosened⟩ := hrule
    rw [← loosened.events_eq]
    exact .anchored (tied_of_related hprevious tied) (loosened.standsAt stands)
  | searched =>
    rcases htied with hgap | htied
    · cases hgap
    · exact absurd rfl (htied _)

/-- A rule of an anchored chain is a gap or not behind one. -/
theorem Chain.Anchored.isGap_or_tied {i : Nat} (h : (Chain.rules l).Anchored)
    (hi : l[i]? = some rule) :
    rule.isGap = true ∨ ∀ x, (l.take i).getLast? ≠ some (.gap x) := by
  rw [or_iff_not_imp_right]
  intro hbehind
  obtain ⟨x, hx⟩ := not_forall_not.1 hbehind
  obtain ⟨hlt, rfl⟩ := List.getElem?_eq_some_iff.1 hi
  obtain _ | i := i
  · cases hx
  · have hlast : (l.take (i + 1)).getLast? = l[i]? := by
      rw [List.getLast?_eq_getElem?, List.length_take_of_le hlt.le]
      exact List.getElem?_take_of_lt (Nat.lt_succ_self i)
    obtain ⟨hlt', hgap⟩ := List.getElem?_eq_some_iff.1 (hlast.symm.trans hx)
    exact List.isChain_iff_getElem.1 h i hlt (hgap ▸ rfl)

theorem Segmentation.loosened {cursor : Nat → Nat} (hanchored : (Chain.rules l).Anchored)
    (halike : List.Forall₂ Rule.Loosened l l') (h : Segmentation form l observed cursor) :
    Segmentation form l' observed cursor := by
  have hplaced : Placed form l' observed cursor :=
    h.toPlaced.of_forall₂ halike fun _ _ _ _ _ hi hrule hprevious hpasses =>
      hpasses.loosened hprevious hrule (hanchored.isGap_or_tied hi)
  have hlength := halike.length_eq
  have hlast := getLast?_of_forall₂ halike
  refine ⟨hplaced, ?_, ?_, ?_, ?_⟩
  · rw [← hlength]
    exact h.ascending
  · rw [← hlength]
    exact h.bounded
  · intro b' hb'
    obtain ⟨rule, hrule, hrelated⟩ := exists_of_rel_some (hb' ▸ hlast)
    obtain ⟨loosened⟩ := hrelated
    rw [← hlength]
    exact h.complete _ hrule
  · intro exclusions hgap
    obtain ⟨rule, hrule, hrelated⟩ := exists_of_rel_some (hgap ▸ hlast)
    cases hrelated
    rw [← hlength]
    exact h.free _ hrule

namespace Position

/-- A walk that comes through comes to all rules. -/
theorem reached_of_run {p q : Position ε} (h : p.run form observed l = .ok q) :
    p.reached form observed l = l := by
  induction l generalizing p with
  | nil => rfl
  | cons rule l ih =>
    rw [run, List.foldlM_cons] at h
    obtain ⟨next, hstep, hrun⟩ := bind_eq_ok_iff.1 h
    rw [reached, hstep]
    exact congrArg (rule :: ·) (ih hrun)

end Position

/-! ### Executions -/

namespace Chain

variable {chain chain' : Chain ε} {c : Canonicalizer ε} {stream : StreamId}

theorem asked_loosened (halike : List.Forall₂ Rule.Loosened l l') :
    asked observed l' = asked observed l := by
  induction halike with
  | nil => rfl
  | cons hrule _ ih =>
    cases hrule with
    | gap => exact ih
    | block loosened => rw [asked, asked, loosened.events_eq, ih]

theorem verdict_of_accepts (h : (rules l).Accepts c stream observed) :
    Position.verdict c.form observed {} l = .ok () := by
  obtain ⟨outcome, hexecute, hsuccess⟩ := h
  rwa [Outcome.isSuccess_iff, (mismatch?_of_execute hexecute).2, failure?_eq_none_iff] at hsuccess

/-- An execution that is content makes all events canonical that the rules ask for. -/
theorem execute_of_verdict (hcheck : (rules l).check = .ok ())
    (h : Position.verdict c.form observed {} l = .ok ()) :
    (rules l).execute c stream observed =
      c.all (asked observed l) >>= fun _ => .ok ⟨stream, none⟩ := by
  obtain ⟨p, hrun, -⟩ := bind_eq_ok_iff.1 h
  rw [execute_eq hcheck, Position.reached_of_run hrun, h]
  rfl

/-- Giving up an order never turns success into failure. The first part compares the two orders
where a block is placed, the second one executions of chains without a block behind a gap. -/
theorem accepts_loosened :
    (∀ {α : Type} [DecidableEq α] (expected published : List α) (start : Nat), expected ≠ [] →
      Order.LooserAt expected published start) ∧
    ∀ (c : Canonicalizer ε) (stream : StreamId) (chain chain' : Chain ε) (observed : List ε),
      chain.Built → chain.Anchored → chain.Loosened chain' →
        chain'.Built ∧
          (chain.Accepts c stream observed → chain'.Accepts c stream observed) := by
  refine ⟨fun _ _ _ hne => Order.looserAt hne, ?_⟩
  intro c stream chain chain' observed hbuilt hanchored h
  have hw := hbuilt.wellFormed
  cases h with
  | nothing => exact ⟨hbuilt, id⟩
  | @rules l l' halike =>
    have hw' : (rules l').WellFormed := hw.of_related halike fun b b' hblock hne => by
      rw [hblock.events_eq]
      exact hne
    refine ⟨hw'.built, fun haccepts => ?_⟩
    have hverdict := verdict_of_accepts haccepts
    obtain ⟨cursor, hsegmentation⟩ := (Position.verdict_eq_ok_iff hw.filled).1 hverdict
    have hverdict' := (Position.verdict_eq_ok_iff hw'.filled).2
      ⟨cursor, hsegmentation.loosened hanchored halike⟩
    obtain ⟨outcome, hexecute, hsuccess⟩ := haccepts
    obtain ⟨_, hcheck, -⟩ := bind_eq_ok_iff.1 hexecute
    have hne : l' ≠ [] := by
      rintro rfl
      cases halike
      cases hcheck
    refine ⟨outcome, ?_, hsuccess⟩
    rw [execute_of_verdict (hw'.check_eq_ok hne) hverdict', asked_loosened halike,
      ← execute_of_verdict hcheck hverdict]
    exact hexecute

/-- In any order, the payment is found one event earlier. The second block of the chain may take its
two events in any order as well. -/
theorem accepts_loosened_withdrawn :
    (∃ n ≤ 2, Order.any.placeFrom ["paid", "sent"] ["new", "sent", "paid", "sent"] 0 = .found n) ∧
    (rules [.block ⟨.asGiven, [Bank.Event.opened "ada"]⟩,
        .block ⟨.any, [.deposited 10, .withdrawn 7]⟩, .gap []]).Accepts .byLabel "acc-1"
      [.opened "ada", .deposited 1, .withdrawn 1, .deposited 2] := by
  have hbuilt : (rules [.block ⟨.asGiven, [Bank.Event.opened "ada"]⟩,
      .block ⟨.asGiven, [.deposited 10, .withdrawn 7]⟩, .gap []]).Built :=
    ⟨[.block .asGiven [.opened "ada"], .block .asGiven [.deposited 10, .withdrawn 7], .gap []], rfl⟩
  have hanchored : (rules [.block ⟨.asGiven, [Bank.Event.opened "ada"]⟩,
      .block ⟨.asGiven, [.deposited 10, .withdrawn 7]⟩, .gap []]).Anchored := by
    simp [Anchored, Rule.isGap]
  obtain ⟨hplace, hchain⟩ := accepts_loosened (ε := Bank.Event)
  refine ⟨(hplace _ _ 0 (by decide)).search 2 (by decide), ?_⟩
  exact (hchain .byLabel "acc-1" _ _ _ hbuilt hanchored
    (.rules (.cons (.block .same) (.cons (.block .any) (.cons .gap .nil))))).2 ⟨_, rfl, rfl⟩

end Chain

end GivenWhenThen
