import GivenWhenThen.Proofs.Chain.Bounds
import GivenWhenThen.Proofs.Chain.Indexed

/-! The loop over the rules of a chain has no breach. By `turn_eq` one turn of the loop is a step of
the walk, and by `loop_eq` all turns come to its verdict, so that `execute_eq` has the outcome of
`Chain.execute`, or its error. `Comes` says at which cursors the loop comes to a rule, and `InRange`
what holds of each: no index goes behind the observed events, because each block that is found takes
its events from the ones that are left. -/

namespace GivenWhenThen

variable {ε : Type} {form : ε → Canonical} {observed : List ε} {previous : Option (Rule ε)}
  {b : Block ε} {first next : Nat}

theorem Passes.block_le (h : Passes form observed previous first (.block b) next) :
    first + b.events.length ≤ next := by
  cases h with
  | anchored => exact Nat.le_refl _
  | searched hfirst => exact Nat.add_le_add_right hfirst.1 _

theorem Chain.asked_cons (observed : List ε) (rule : Rule ε) (l : List (Rule ε)) :
    asked observed (rule :: l) = asked observed [rule] ++ asked observed l := by
  cases rule <;> simp [asked]

namespace Position

variable {p q : Position ε} {rule : Rule ε} (h : p.step form observed rule = .ok q)
include h

theorem reached_of_step {rest : List (Rule ε)} :
    p.reached form observed (rule :: rest) = rule :: q.reached form observed rest := by
  rw [reached, h]

theorem verdict_of_step {rest : List (Rule ε)} :
    p.verdict form observed (rule :: rest) = q.verdict form observed rest := by
  rw [verdict_cons, h]
  rfl

end Position

section Place

variable {afterGap : Bool} {order : Order} {expected published : List Canonical}
  {cursor start last : Nat} (hne : expected ≠ [])
include hne

theorem Chain.place_found (h : place afterGap order expected published cursor = .found start) :
    cursor ≤ start ∧ start + expected.length ≤ published.length := by
  cases afterGap with
  | false =>
    obtain ⟨rfl, hstands⟩ := (Order.placeAt_eq_found_iff hne).1 h
    exact ⟨Nat.le_refl _, hstands.1⟩
  | true =>
    have hfirst := (Order.placeFrom_eq_found_iff hne).1 h
    exact ⟨hfirst.1, hfirst.2.1.1⟩

theorem Chain.place_seriesNotFound
    (h : place afterGap order expected published cursor = .missed (.seriesNotFound first last)) :
    first = cursor ∧ cursor < published.length ∧ last + 1 = published.length := by
  cases afterGap with
  | false =>
    have hmissed := (Order.placeAt_eq_missed_iff hne).1 h
    exact absurd rfl (hmissed.ne_range first last).1
  | true =>
    obtain ⟨-, hmiss⟩ := (Order.placeFrom_eq_missed_iff hne).1 h
    by_cases hlt : cursor < published.length
    · rw [if_pos hlt] at hmiss
      cases hmiss
      exact ⟨rfl, hlt, by omega⟩
    · rw [if_neg hlt] at hmiss
      cases hmiss

end Place

namespace Indexed

variable {c : Canonicalizer ε} {rules rest : List (Rule ε)} {rule : Rule ε} {p q : Position ε}
  {last index cursor : Nat}

theorem lift_bind {α β : Type} (x : Except Error α) (f : α → Except Error β) :
    lift (x >>= f) = lift x >>= fun a => lift (f a) := by
  cases x <;> rfl

theorem lift_ne_breach {α : Type} (x : Except Error α) (breach : Breach) :
    lift x ≠ .error (.breach breach) := by
  cases x <;> nofun

/-! ### One turn -/

/-- The position behind a rule, where nothing may be left behind the last one. -/
def advance (form : ε → Canonical) (observed : List ε) (isLast : Bool) (p : Position ε)
    (rule : Rule ε) : Except Mismatch (Position ε) := do
  let next ← p.step form observed rule
  if isLast then next.finish form observed
  return next

section Advance

variable {isLast : Bool}

theorem advance_of_error {mismatch : Mismatch} (h : p.step form observed rule = .error mismatch) :
    advance form observed isLast p rule = .error mismatch := by
  rw [advance, h]
  rfl

theorem advance_of_ok (h : p.step form observed rule = .ok q) :
    advance form observed isLast p rule =
      if isLast then q.finish form observed >>= fun _ => .ok q else .ok q := by
  rw [advance, h]
  rfl

/-- What is left behind the last rule can end the walk, but not move the cursor. -/
theorem step_of_advance (h : advance form observed isLast p rule = .ok q) :
    p.step form observed rule = .ok q := by
  obtain ⟨next, hstep, hnext⟩ := bind_eq_ok_iff.1 h
  cases isLast with
  | false => rwa [Except.ok.inj hnext] at hstep
  | true =>
    obtain ⟨_, -, hnext⟩ := bind_eq_ok_iff.1 hnext
    rwa [Except.ok.inj hnext] at hstep

end Advance

def Turn.of : Except Mismatch (Position ε) → Turn
  | .ok next => .goOn next.cursor
  | .error mismatch => .stop mismatch

theorem exists_of_goOn {result : Except Mismatch (Position ε)} (h : Turn.of result = .goOn next) :
    ∃ q, result = .ok q ∧ q.cursor = next := by
  cases result with
  | error mismatch => cases h
  | ok q =>
    cases h
    exact ⟨q, rfl, rfl⟩

theorem turn_block {expected published : List Canonical} (hfilled : (Rule.block b).Filled)
    (hgap : gapBefore rules index = .ok p.gap) (hexpected : c.all b.events = .ok expected)
    (hpublished : c.all observed = .ok published) :
    turn c rules observed last index p.cursor (.block b) =
      .ok (.of (advance c.form observed (index = last) p (.block b))) := by
  obtain rfl := Canonicalizer.eq_map_of_all hexpected
  obtain rfl := Canonicalizer.eq_map_of_all hpublished
  have hne : b.events.map c.form ≠ [] := by simpa [Rule.Filled] using hfilled
  have hplace : place p.gap.isSome b.order (b.events.map c.form) (observed.map c.form)
      observed.length p.cursor = .ok (Chain.place p.gap.isSome b.order (b.events.map c.form)
        (observed.map c.form) p.cursor) :=
    place_eq hne (List.length_map _)
  simp only [turn, hgap, hexpected, hpublished, lift, Except.mapError, bind, Except.bind, hplace,
    gapMismatch?_eq]
  cases hwhere : Chain.place p.gap.isSome b.order (b.events.map c.form) (observed.map c.form)
      p.cursor with
  | missed miss =>
    rw [advance_of_error (Position.step_of_missed hwhere)]
    rfl
  | found start =>
    cases hmismatch : Chain.gapMismatch? p.gap observed p.cursor start with
    | some mismatch =>
      simp only [hmismatch, advance_of_error (Position.step_of_excluded hwhere hmismatch)]
      rfl
    | none =>
      simp only [hmismatch]
      rw [advance_of_ok (Position.step_of_found hwhere hmismatch), Position.finish_block]
      by_cases hlast : index = last
      · rw [if_pos (decide_eq_true hlast)]
        by_cases hlt : start + b.events.length < observed.length
        · have hminus : minus observed.length 1 = .ok (observed.length - 1) := minus_eq (by omega)
          rw [if_pos ⟨hlast, hlt⟩, if_pos hlt, hminus]
          rfl
        · rw [if_neg fun h => hlt h.2, if_neg hlt]
          rfl
      · rw [if_neg fun h => hlast h.1, if_neg (mt of_decide_eq_true hlast)]
        rfl

theorem turn_eq (hfilled : rule.Filled) (hgap : gapBefore rules index = .ok p.gap) :
    turn c rules observed last index p.cursor rule =
      lift (c.all (Chain.asked observed [rule]) >>= fun _ =>
        .ok (.of (advance c.form observed (index = last) p rule))) := by
  cases rule with
  | gap exclusions =>
    simp only [turn, hgap, gapMismatch?_eq, bind, Except.bind]
    by_cases hlast : index = last
    · have hadvance : advance c.form observed true p (.gap exclusions) =
          stopAt (Chain.gapMismatch? (some exclusions) observed p.cursor observed.length) >>=
            fun _ => .ok ⟨some (.gap exclusions), p.cursor⟩ :=
        rfl
      simp only [hlast, if_true, decide_true, hadvance]
      cases Chain.gapMismatch? (some exclusions) observed p.cursor observed.length <;> rfl
    · simp only [hlast, if_false, decide_false]
      rfl
  | block b =>
    rw [Chain.asked, Chain.asked, List.append_nil, Canonicalizer.all_append_bind]
    cases hexpected : c.all b.events with
    | error error =>
      simp only [turn, hgap, hexpected]
      rfl
    | ok expected =>
      cases hpublished : c.all observed with
      | error error =>
        simp only [turn, hgap, hexpected, hpublished]
        rfl
      | ok published => exact turn_block hfilled hgap hexpected hpublished

/-! ### All turns -/

theorem gapBefore_succ (here : rules[index]? = some rule) (hprevious : q.previous = some rule) :
    gapBefore rules (index + 1) = .ok q.gap := by
  rw [gapBefore, look_eq here, Position.gap, hprevious]
  rfl

/-- The turns come to the verdict of the walk, and make the same events canonical. -/
theorem loop_eq (hfilled : ∀ rule ∈ rules, rule.Filled) (hrest : rules.drop index = rest)
    (hne : rest ≠ []) (hgap : gapBefore rules index = .ok p.gap) :
    loop c rules observed (rules.length - 1) index p.cursor rest =
      lift (c.all (Chain.asked observed (p.reached c.form observed rest)) >>= fun _ =>
        .ok (failure? (p.verdict c.form observed rest))) := by
  induction rest generalizing index p with
  | nil => exact absurd rfl hne
  | cons rule rest ih =>
    have here : rules[index]? = some rule := by
      rw [← List.head?_drop, hrest, List.head?_cons]
    have hbehind : rules.drop (index + 1) = rest := by
      rw [← List.tail_drop, hrest, List.tail_cons]
    have hlength : rules.length = index + (rest.length + 1) := by
      have := congrArg List.length hrest
      rw [List.length_drop, List.length_cons] at this
      have := (List.getElem?_eq_some_iff.1 here).1
      omega
    have hrule := hfilled rule (List.mem_of_getElem? here)
    rw [loop, turn_eq hrule hgap]
    cases hstep : p.step c.form observed rule with
    | error mismatch =>
      rw [advance_of_error hstep, Position.reached, hstep, Position.verdict_cons, hstep]
      cases c.all (Chain.asked observed [rule]) <;> rfl
    | ok next =>
      rw [advance_of_ok hstep, Position.reached_of_step hstep, Position.verdict_of_step hstep,
        Chain.asked_cons observed rule (next.reached _ _ _), Canonicalizer.all_append_bind]
      cases c.all (Chain.asked observed [rule]) with
      | error error => rfl
      | ok forms =>
        by_cases hnil : rest = []
        · have hlast : index = rules.length - 1 := by
            rw [hlength, hnil]
            rfl
          -- The turn of the last rule looks at the events that are left, and the walk behind it.
          have hfinish : next.verdict c.form observed [] = next.finish c.form observed := rfl
          rw [if_pos (decide_eq_true hlast), hnil, hfinish]
          cases next.finish c.form observed <;> rfl
        · have hlast : index ≠ rules.length - 1 := by
            have := List.length_pos_iff.2 hnil
            omega
          have hprevious := ((Position.step_eq_ok_iff hrule).1 hstep).2
          rw [if_neg (mt of_decide_eq_true hlast)]
          exact ih hbehind hnil (gapBefore_succ here hprevious)

variable {stream : StreamId} {chain : Chain ε}

theorem execute_eq_conclude :
    execute c stream chain observed = lift chain.check >>= fun _ =>
      mismatch? c observed chain >>= fun mismatch =>
        lift (Chain.conclude c stream observed mismatch) := by
  rw [execute, check_eq]
  refine bind_congr fun _ => bind_congr fun mismatch => ?_
  cases mismatch with
  | none => rfl
  | some mismatch =>
    rw [Chain.conclude, lift_bind]
    rfl

theorem execute_eq (hw : chain.WellFormed) :
    execute c stream chain observed = lift (chain.execute c stream observed) := by
  rw [execute_eq_conclude]
  obtain rfl | ⟨l, rfl⟩ := hw.eq_nothing_or_rules
  · rw [Chain.execute_nothing]
    rfl
  · cases hcheck : (Chain.rules l).check with
    | error error =>
      rw [Chain.execute, hcheck]
      rfl
    | ok =>
      -- Behind the check there is a last rule.
      have hne : l ≠ [] := by
        rintro rfl
        cases hcheck
      have hlast : minus l.length 1 = .ok (l.length - 1) := minus_eq (List.length_pos_iff.2 hne)
      have hloop : mismatch? c observed (.rules l) = _ :=
        (congrArg (· >>= _) hlast).trans (loop_eq (p := {}) hw.filled List.drop_zero hne rfl)
      rw [hloop, Chain.execute_eq hcheck, Chain.toList_rules]
      cases c.all (Chain.asked observed (({} : Position ε).reached c.form observed l)) <;> rfl

/-! ### The cursor -/

/-- The loop comes to the rule with an index at a cursor. -/
inductive Comes (c : Canonicalizer ε) (rules : List (Rule ε)) (observed : List ε) :
    (index cursor : Nat) → Prop
  | first : Comes c rules observed 0 0
  | next {index cursor next : Nat} {rule : Rule ε} (comes : Comes c rules observed index cursor)
      (here : rules[index]? = some rule)
      (goesOn : turn c rules observed (rules.length - 1) index cursor rule = .ok (.goOn next)) :
      Comes c rules observed (index + 1) next

/-- The rule with an index is a block, and at the cursor it is placed so. -/
structure Places (c : Canonicalizer ε) (rules : List (Rule ε)) (observed : List ε)
    (index cursor : Nat) (b : Block ε) (placement : Placement) : Prop where
  here : rules[index]? = some (.block b)
  result : ∃ gap expected published, gapBefore rules index = .ok gap ∧
    c.all b.events = .ok expected ∧ c.all observed = .ok published ∧
    place gap.isSome b.order expected published observed.length cursor = .ok placement

/-- What holds of the indices where the loop comes to a rule at a cursor. -/
structure InRange (c : Canonicalizer ε) (rules : List (Rule ε)) (observed : List ε)
    (index cursor : Nat) : Prop where
  /-- From here on, the loop comes to what the loop over all rules comes to. -/
  continues : loop c rules observed (rules.length - 1) 0 0 rules =
    loop c rules observed (rules.length - 1) index cursor (rules.drop index)
  cursor_le : cursor ≤ observed.length
  /-- A block that is found takes events that are there, from the cursor on. -/
  found : ∀ b start, Places c rules observed index cursor b (.found start) →
    cursor ≤ start ∧ cursor < start + b.events.length ∧ start + b.events.length ≤ observed.length
  /-- A search that finds nothing has looked at an event. -/
  seriesNotFound : ∀ b first last,
    Places c rules observed index cursor b (.missed (.seriesNotFound first last)) →
      first = cursor ∧ cursor < observed.length ∧ last + 1 = observed.length
  grows : ∀ b next, rules[index]? = some (.block b) →
    turn c rules observed (rules.length - 1) index cursor (.block b) = .ok (.goOn next) →
      cursor < next ∧ next ≤ observed.length

theorem exists_passes_of_goOn (hfilled : rule.Filled) (hgap : gapBefore rules index = .ok p.gap)
    (hturn : turn c rules observed last index p.cursor rule = .ok (.goOn next)) :
    ∃ q : Position ε, q.cursor = next ∧ q.previous = some rule ∧
      Passes c.form observed p.previous p.cursor rule next := by
  rw [turn_eq hfilled hgap] at hturn
  obtain ⟨_, -, hof⟩ := bind_eq_ok_iff.1 (mapError_eq_ok_iff.1 hturn)
  obtain ⟨q, hadvance, rfl⟩ := exists_of_goOn (Except.ok.inj hof)
  obtain ⟨hpasses, hprevious⟩ := (Position.step_eq_ok_iff hfilled).1 (step_of_advance hadvance)
  exact ⟨q, rfl, hprevious, hpasses⟩

theorem Places.place_eq {placement : Placement} (hne : b.events.map c.form ≠ [])
    (hgap : gapBefore rules index = .ok p.gap)
    (h : Places c rules observed index p.cursor b placement) :
    Chain.place p.gap.isSome b.order (b.events.map c.form) (observed.map c.form) p.cursor =
      placement := by
  obtain ⟨gap, expected, published, hbefore, hexpected, hpublished, hplace⟩ := h.result
  obtain rfl : p.gap = gap := Except.ok.inj (hgap.symm.trans hbefore)
  obtain rfl := Canonicalizer.eq_map_of_all hexpected
  obtain rfl := Canonicalizer.eq_map_of_all hpublished
  rw [Indexed.place_eq hne (List.length_map _)] at hplace
  exact Except.ok.inj hplace

section Invariant

variable (hfilled : ∀ rule ∈ rules, rule.Filled)
include hfilled

namespace Comes

theorem exists_position (h : Comes c rules observed index cursor) :
    ∃ p : Position ε, p.cursor = cursor ∧ gapBefore rules index = .ok p.gap ∧
      cursor ≤ observed.length := by
  induction h with
  | first => exact ⟨{}, rfl, rfl, Nat.zero_le _⟩
  | @next index cursor next rule comes here goesOn ih =>
    obtain ⟨p, rfl, hgap, hle⟩ := ih
    have hrule := hfilled rule (List.mem_of_getElem? here)
    obtain ⟨q, hnext, hprevious, hpasses⟩ := exists_passes_of_goOn hrule hgap goesOn
    exact ⟨q, hnext, gapBefore_succ here hprevious, hpasses.le_length hle⟩

omit hfilled in
theorem loop_eq (h : Comes c rules observed index cursor) :
    loop c rules observed (rules.length - 1) 0 0 rules =
      loop c rules observed (rules.length - 1) index cursor (rules.drop index) := by
  induction h with
  | first => rfl
  | @next index cursor next rule comes here goesOn ih =>
    obtain ⟨hlt, hrule⟩ := List.getElem?_eq_some_iff.1 here
    rw [ih, List.drop_eq_getElem_cons hlt, hrule, loop, goesOn]
    rfl

theorem inRange (h : Comes c rules observed index cursor) :
    InRange c rules observed index cursor := by
  obtain ⟨p, rfl, hgap, hle⟩ := h.exists_position hfilled
  have hblock {b : Block ε} (here : rules[index]? = some (.block b)) : 0 < b.events.length :=
    List.length_pos_iff.2 (hfilled _ (List.mem_of_getElem? here))
  have hforms {b : Block ε} (here : rules[index]? = some (.block b)) :
      b.events.map c.form ≠ [] := by
    rw [← List.length_pos_iff, List.length_map]
    exact hblock here
  refine ⟨h.loop_eq, hle, ?_, ?_, ?_⟩
  · intro b start hplaces
    have hne := hforms hplaces.here
    have hpos := hblock hplaces.here
    have hbounds := Chain.place_found hne (hplaces.place_eq hne hgap)
    rw [List.length_map, List.length_map] at hbounds
    omega
  · intro b first last hplaces
    have hne := hforms hplaces.here
    have hbounds := Chain.place_seriesNotFound hne (hplaces.place_eq hne hgap)
    rwa [List.length_map] at hbounds
  · intro b next here hturn
    have hrule := hfilled _ (List.mem_of_getElem? here)
    obtain ⟨q, -, -, hpasses⟩ := exists_passes_of_goOn hrule hgap hturn
    have hpos := hblock here
    have hfar := hpasses.block_le
    exact ⟨by omega, hpasses.le_length hle⟩

end Comes

end Invariant

/-- Each chain that steps build is executed by the loops without a breach, to the outcome of
`Chain.execute` or to its error. As many published events are canonical as were observed, and where
the loop comes to a rule, the indices are in range. -/
theorem execute_inRange (c : Canonicalizer ε) (stream : StreamId) (observed : List ε)
    (hbuilt : chain.Built) :
    execute c stream chain observed = lift (chain.execute c stream observed) ∧
      (∀ breach, execute c stream chain observed ≠ .error (.breach breach)) ∧
      (∀ published, c.all observed = .ok published → published.length = observed.length) ∧
      ∀ index cursor, Comes c chain.toList observed index cursor →
        InRange c chain.toList observed index cursor := by
  have hw := hbuilt.wellFormed
  have heq : execute c stream chain observed = lift (chain.execute c stream observed) :=
    execute_eq hw
  refine ⟨heq, fun breach => ?_, fun published hpublished => ?_, fun index cursor hcomes => ?_⟩
  · rw [heq]
    exact lift_ne_breach _ breach
  · rw [Canonicalizer.eq_map_of_all hpublished, List.length_map]
  · exact hcomes.inRange hw.filled

/-- The loop comes to the last block behind the first event, and finds it behind the withdrawal. -/
theorem execute_inRange_withdrawn :
    (Chain.rules [.block ⟨.any, [Bank.Event.opened "ada"]⟩, .gap [(· == .withdrawn 7)],
        .block ⟨.asGiven, [.deposited 10]⟩]).Built ∧
      (∀ breach, execute .byLabel "acc-1" (Chain.rules [.block ⟨.any, [Bank.Event.opened "ada"]⟩,
          .gap [(· == .withdrawn 7)], .block ⟨.asGiven, [.deposited 10]⟩])
        [.opened "ada", .withdrawn 5, .deposited 10] ≠ .error (.breach breach)) ∧
      Comes .byLabel [.block ⟨.any, [Bank.Event.opened "ada"]⟩, .gap [(· == .withdrawn 7)],
        .block ⟨.asGiven, [.deposited 10]⟩] [.opened "ada", .withdrawn 5, .deposited 10] 2 1 ∧
      InRange .byLabel [.block ⟨.any, [Bank.Event.opened "ada"]⟩, .gap [(· == .withdrawn 7)],
        .block ⟨.asGiven, [.deposited 10]⟩] [.opened "ada", .withdrawn 5, .deposited 10] 2 1 := by
  have hbuilt : (Chain.rules [.block ⟨.any, [Bank.Event.opened "ada"]⟩,
      .gap [(· == .withdrawn 7)], .block ⟨.asGiven, [.deposited 10]⟩]).Built :=
    ⟨[.block .any [.opened "ada"], .gap [(· == .withdrawn 7)], .block .asGiven [.deposited 10]],
      rfl⟩
  obtain ⟨-, hbreach, -, hrange⟩ := execute_inRange .byLabel "acc-1"
    [Bank.Event.opened "ada", .withdrawn 5, .deposited 10] hbuilt
  have hcomes : Comes .byLabel [.block ⟨.any, [Bank.Event.opened "ada"]⟩,
      .gap [(· == .withdrawn 7)], .block ⟨.asGiven, [.deposited 10]⟩]
      [.opened "ada", .withdrawn 5, .deposited 10] 2 1 :=
    .next (.next .first rfl rfl) rfl rfl
  exact ⟨hbuilt, hbreach, hcomes, hrange 2 1 hcomes⟩

/-- A block without events, which no step builds, has a breach. -/
example : execute .byLabel "acc-1" (.rules [.block ⟨.asGiven, []⟩]) [Bank.Event.opened "ada"] =
    .error (.breach (.outOfRange 0 0)) := by
  rfl

end Indexed

end GivenWhenThen
