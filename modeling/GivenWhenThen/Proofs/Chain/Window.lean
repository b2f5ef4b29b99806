import GivenWhenThen.Proofs.Chain.Segmentation

/-! A walk over part of a stream. A walk that ends at a cursor does not depend on the events from
there on, by `run_take_iff`, although the search behind a gap looks at all of them. A walk that
begins at a cursor does not depend on the events before, by `verdict_drop`; only the indices in its
mismatch are smaller. -/

namespace GivenWhenThen

variable {α ε : Type}

/-! ### The events up to a cursor -/

section Take

variable {order : Order} {expected published : List α} {k start first next : Nat}

theorem Order.standsAt_take_iff :
    order.StandsAt expected (published.take k) start ↔
      order.StandsAt expected published start ∧ start + expected.length ≤ k := by
  have hwindow (h : start + expected.length ≤ k) :
      ((published.take k).drop start).take expected.length =
        (published.drop start).take expected.length := by
    rw [List.drop_take, List.take_take, Nat.min_eq_left (by omega)]
  simp only [StandsAt, List.length_take]
  constructor
  · rintro ⟨hlen, hfits⟩
    have hk : start + expected.length ≤ k := by omega
    rw [hwindow hk] at hfits
    exact ⟨⟨by omega, hfits⟩, hk⟩
  · rintro ⟨⟨hlen, hfits⟩, hk⟩
    rw [hwindow hk]
    exact ⟨by omega, hfits⟩

/-- The first place where events stand is the same if they end before the cut. -/
theorem Order.firstStandsAt_take_iff :
    order.FirstStandsAt expected (published.take k) first start ↔
      order.FirstStandsAt expected published first start ∧ start + expected.length ≤ k := by
  simp only [FirstStandsAt, standsAt_take_iff]
  constructor
  -- Events that stand before the first place would end before the cut as well.
  · rintro ⟨hle, ⟨hstands, hk⟩, hbefore⟩
    exact ⟨⟨hle, hstands, fun j hge hlt h => hbefore j hge hlt ⟨h, by omega⟩⟩, hk⟩
  · rintro ⟨⟨hle, hstands, hbefore⟩, hk⟩
    exact ⟨hle, ⟨hstands, hk⟩, fun j hge hlt h => hbefore j hge hlt h.1⟩

theorem noneExcluded_take_iff {exclusions : List (Exclusion α)} {stop : Nat} (hle : stop ≤ k) :
    NoneExcluded exclusions (published.take k) first stop ↔
      NoneExcluded exclusions published first stop := by
  constructor
  · intro h i hfirst hstop e he
    exact h i hfirst hstop e (by rwa [List.getElem?_take_of_lt (by omega)])
  · intro h i hfirst hstop e he
    exact h i hfirst hstop e (by rwa [List.getElem?_take_of_lt (by omega)] at he)

variable {form : ε → Canonical} {observed : List ε} {previous : Option (Rule ε)} {rule : Rule ε}

theorem passes_take_iff (hle : first ≤ k) :
    Passes form (observed.take k) previous first rule next ↔
      Passes form observed previous first rule next ∧ next ≤ k := by
  constructor
  · intro h
    cases h with
    | gap => exact ⟨.gap, hle⟩
    | anchored tied stands =>
      rw [List.map_take, Order.standsAt_take_iff, List.length_map] at stands
      exact ⟨.anchored tied stands.1, stands.2⟩
    | searched hfirst free =>
      rw [List.map_take, Order.firstStandsAt_take_iff, List.length_map] at hfirst
      exact ⟨.searched hfirst.1 ((noneExcluded_take_iff (by omega)).1 free), hfirst.2⟩
  · rintro ⟨h, hnext⟩
    cases h with
    | gap => exact .gap
    | anchored tied stands =>
      refine .anchored tied ?_
      rw [List.map_take, Order.standsAt_take_iff, List.length_map]
      exact ⟨stands, hnext⟩
    | searched hfirst free =>
      refine .searched ?_ ((noneExcluded_take_iff (by omega)).2 free)
      rw [List.map_take, Order.firstStandsAt_take_iff, List.length_map]
      exact ⟨hfirst, hnext⟩

namespace Position

variable {rules : List (Rule ε)} {p q : Position ε}

theorem run_cons_eq_ok_iff (hfilled : rule.Filled) :
    p.run form observed (rule :: rules) = .ok q ↔
      ∃ next, Passes form observed p.previous p.cursor rule next ∧
        Position.run form observed ⟨some rule, next⟩ rules = .ok q := by
  rw [run, List.foldlM_cons, bind_eq_ok_iff]
  constructor
  · rintro ⟨⟨previous, next⟩, hstep, hrun⟩
    obtain ⟨hpasses, rfl⟩ := (step_eq_ok_iff hfilled).1 hstep
    exact ⟨next, hpasses, hrun⟩
  · rintro ⟨next, hpasses, hrun⟩
    exact ⟨⟨some rule, next⟩, (step_eq_ok_iff hfilled).2 ⟨hpasses, rfl⟩, hrun⟩

theorem run_le (hfilled : ∀ rule ∈ rules, rule.Filled) (h : p.run form observed rules = .ok q) :
    p.cursor ≤ q.cursor := by
  induction rules generalizing p with
  | nil =>
    cases h
    exact Nat.le_refl _
  | cons rule rules ih =>
    obtain ⟨next, hpasses, hrun⟩ := (run_cons_eq_ok_iff (hfilled rule (by simp))).1 h
    exact Nat.le_trans hpasses.le (ih (fun r hr => hfilled r (List.mem_cons_of_mem _ hr)) hrun)

/-- A walk is the same without the events behind the place where it ends. -/
theorem run_take_iff (hfilled : ∀ rule ∈ rules, rule.Filled) (hle : p.cursor ≤ k) :
    p.run form (observed.take k) rules = .ok q ↔
      p.run form observed rules = .ok q ∧ q.cursor ≤ k := by
  induction rules generalizing p with
  | nil =>
    constructor
    · rintro ⟨⟩
      exact ⟨rfl, hle⟩
    · exact fun h => h.1
  | cons rule rules ih =>
    have hrule := hfilled rule (by simp)
    have hrest : ∀ r ∈ rules, r.Filled := fun r hr => hfilled r (List.mem_cons_of_mem _ hr)
    rw [run_cons_eq_ok_iff hrule, run_cons_eq_ok_iff hrule]
    simp only [passes_take_iff hle]
    constructor
    · rintro ⟨next, ⟨hpasses, hnext⟩, hrun⟩
      obtain ⟨hrun, hq⟩ := (ih hrest hnext).1 hrun
      exact ⟨⟨next, hpasses, hrun⟩, hq⟩
    · rintro ⟨⟨next, hpasses, hrun⟩, hq⟩
      have hnext : next ≤ k := Nat.le_trans (run_le hrest hrun) hq
      exact ⟨next, ⟨hpasses, hnext⟩, (ih hrest hnext).2 ⟨hrun, hq⟩⟩

end Position

end Take

/-! ### The events from a cursor on -/

/-- A miss with its published indices larger by `k`. -/
def Miss.shift (k : Nat) : Miss → Miss
  | notFound index => notFound index
  | unexpected index => unexpected (k + index)
  | seriesNotFound first last => seriesNotFound (k + first) (k + last)
  | trailing first last => trailing (k + first) (k + last)

/-- A mismatch with its published indices larger by `k`. -/
def Mismatch.shift (k : Nat) : Mismatch → Mismatch
  | notEmpty => notEmpty
  | excluded exclusions index => excluded exclusions (k + index)
  | missed order expected miss => missed order expected (miss.shift k)

/-- A placement with its published indices larger by `k`. -/
def Placement.shift (k : Nat) : Placement → Placement
  | found start => found (k + start)
  | missed miss => missed (miss.shift k)

/-- A position with the cursor further by `k`. -/
def Position.shift (k : Nat) (p : Position ε) : Position ε := ⟨p.previous, k + p.cursor⟩

section Drop

variable [DecidableEq α] {order : Order} {expected published : List α}
  {k start first index next : Nat}

theorem missAsGiven_shift :
    missAsGiven next (k + index) expected published =
      (missAsGiven next index expected published).map (Miss.shift k) := by
  induction expected generalizing next index published with
  | nil => rfl
  | cons e expected ih =>
    cases published with
    | nil => rfl
    | cons p published =>
      rw [missAsGiven, missAsGiven]
      split
      · rw [Nat.add_assoc]
        exact ih
      · rfl

theorem missInAnyOrder_shift {left : List (α × Nat)} :
    missInAnyOrder (k + index) left published =
      (missInAnyOrder index left published).map (Miss.shift k) := by
  induction published generalizing left index with
  | nil => cases left <;> rfl
  | cons p published ih =>
    cases left with
    | nil => rfl
    | cons x left =>
      rw [missInAnyOrder, missInAnyOrder]
      · split
        · rw [Nat.add_assoc]
          exact ih
        · rfl
      · simp
      · simp

namespace Order

theorem missAt_drop :
    order.missAt expected published (k + start) =
      (order.missAt expected (published.drop k) start).map (Miss.shift k) := by
  cases order with
  | asGiven => rw [missAt, missAt, List.drop_drop, missAsGiven_shift]
  | any => rw [missAt, missAt, List.drop_drop, missInAnyOrder_shift]

theorem placeAt_drop :
    order.placeAt expected published (k + start) =
      (order.placeAt expected (published.drop k) start).shift k := by
  rw [placeAt, placeAt, missAt_drop]
  cases order.missAt expected (published.drop k) start <;> rfl

theorem placeFrom_drop :
    order.placeFrom expected published (k + first) =
      (order.placeFrom expected (published.drop k) first).shift k := by
  have hfind : (List.range' (k + first) (published.length - (k + first))).find? (fun start =>
        (order.missAt expected published start).isNone) =
      ((List.range' first ((published.drop k).length - first)).find? fun start =>
        (order.missAt expected (published.drop k) start).isNone).map (k + ·) := by
    rw [← List.map_add_range', List.find?_map, List.length_drop, Nat.sub_sub]
    simp only [Function.comp_def, missAt_drop, Option.isNone_map]
  have hlen : published.length ≤ k + first ↔ (published.drop k).length ≤ first := by
    rw [List.length_drop]
    omega
  rw [placeFrom, placeFrom, hfind]
  by_cases h : (published.drop k).length ≤ first
  · rw [if_pos h, if_pos (hlen.2 h)]
    rfl
  · rw [if_neg h, if_neg (mt hlen.1 h)]
    have hlast : k + ((published.drop k).length - 1) = published.length - 1 := by
      rw [List.length_drop] at h ⊢
      omega
    cases (List.range' first ((published.drop k).length - first)).find? fun start =>
        (order.missAt expected (published.drop k) start).isNone with
    | none => simp only [Option.map_none, Placement.shift, Miss.shift, hlast]
    | some start => rfl

end Order

variable {exclusions : List (Exclusion ε)} {gap : Option (List (Exclusion ε))}
  {form : ε → Canonical} {observed : List ε} {stop : Nat}

theorem firstExcluded?_drop :
    firstExcluded? exclusions observed (k + first) (k + stop) =
      (firstExcluded? exclusions (observed.drop k) first stop).map (k + ·) := by
  rw [firstExcluded?, firstExcluded?, List.take_drop, List.drop_drop, Option.map_map]
  simp only [Function.comp_def, Nat.add_assoc]

namespace Chain

theorem place_drop {afterGap : Bool} {expected published : List Canonical} :
    place afterGap order expected published (k + start) =
      (place afterGap order expected (published.drop k) start).shift k := by
  cases afterGap with
  | false => exact Order.placeAt_drop
  | true => exact Order.placeFrom_drop

theorem gapMismatch?_drop :
    gapMismatch? gap observed (k + first) (k + stop) =
      (gapMismatch? gap (observed.drop k) first stop).map (Mismatch.shift k) := by
  cases gap with
  | none => rfl
  | some exclusions =>
    rw [Position.gapMismatch?_some, Position.gapMismatch?_some, firstExcluded?_drop]
    simp only [Option.map_map, Function.comp_def, Mismatch.shift]

end Chain

namespace Position

variable {p q : Position ε} {rule : Rule ε} {rules : List (Rule ε)}

/-- A step from a cursor on does not look at the events before. -/
theorem step_drop (hgap : q.gap = p.gap) (hcursor : q.cursor = k + p.cursor) :
    q.step form observed rule =
      ((p.step form (observed.drop k) rule).map (shift k)).mapError (Mismatch.shift k) := by
  cases rule with
  | gap exclusions =>
    rw [step, hcursor]
    rfl
  | block b =>
    have hplace : Chain.place q.gap.isSome b.order (b.events.map form) (observed.map form)
        q.cursor = (Chain.place p.gap.isSome b.order (b.events.map form)
          ((observed.drop k).map form) p.cursor).shift k := by
      rw [hgap, hcursor, Chain.place_drop, List.map_drop]
    cases hp : Chain.place p.gap.isSome b.order (b.events.map form) ((observed.drop k).map form)
        p.cursor with
    | missed miss =>
      rw [hp] at hplace
      rw [step_of_missed hp, step_of_missed hplace]
      rfl
    | found start =>
      rw [hp] at hplace
      have hgaps : Chain.gapMismatch? q.gap observed q.cursor (k + start) =
          (Chain.gapMismatch? p.gap (observed.drop k) p.cursor start).map (Mismatch.shift k) := by
        rw [hgap, hcursor, Chain.gapMismatch?_drop]
      cases hm : Chain.gapMismatch? p.gap (observed.drop k) p.cursor start with
      | none =>
        rw [hm] at hgaps
        rw [step_of_found hp hm, step_of_found hplace hgaps, Nat.add_assoc]
        rfl
      | some mismatch =>
        rw [hm] at hgaps
        rw [step_of_excluded hp hm, step_of_excluded hplace hgaps]
        rfl

theorem finish_drop (hk : k ≤ observed.length) :
    (p.shift k).finish form observed =
      (p.finish form (observed.drop k)).mapError (Mismatch.shift k) := by
  have hlength : k + (observed.drop k).length = observed.length := by
    rw [List.length_drop]
    omega
  have hstop : stopAt (Chain.gapMismatch? p.gap observed (k + p.cursor) observed.length) =
      (stopAt (Chain.gapMismatch? p.gap (observed.drop k) p.cursor
        (observed.drop k).length)).mapError (Mismatch.shift k) := by
    rw [← hlength, Chain.gapMismatch?_drop]
    cases Chain.gapMismatch? p.gap (observed.drop k) p.cursor (observed.drop k).length <;> rfl
  obtain ⟨_ | b | _, cursor⟩ := p
  · exact hstop
  · simp only [shift, finish_block]
    by_cases hlt : cursor < (observed.drop k).length
    · have hlast : k + ((observed.drop k).length - 1) = observed.length - 1 := by omega
      rw [if_pos hlt, if_pos (by omega)]
      simp only [Except.mapError, Mismatch.shift, Miss.shift, hlast]
    · rw [if_neg hlt, if_neg (by omega)]
      rfl
  · exact hstop

theorem verdict_shift (hk : k ≤ observed.length) :
    (p.shift k).verdict form observed rules =
      (p.verdict form (observed.drop k) rules).mapError (Mismatch.shift k) := by
  induction rules generalizing p with
  | nil => exact finish_drop hk
  | cons rule rules ih =>
    rw [verdict_cons, verdict_cons, step_drop (p := p) (q := p.shift k) rfl rfl]
    cases p.step form (observed.drop k) rule with
    | error mismatch => rfl
    | ok next => exact ih

/-- A walk from a cursor on is the walk over the events from there on. -/
theorem verdict_drop (hk : k ≤ observed.length) (hne : rules ≠ []) (hgap : q.gap = p.gap)
    (hcursor : q.cursor = k + p.cursor) :
    q.verdict form observed rules =
      (p.verdict form (observed.drop k) rules).mapError (Mismatch.shift k) := by
  obtain ⟨rule, rest, rfl⟩ := List.exists_cons_of_ne_nil hne
  rw [verdict_cons, verdict_cons, step_drop hgap hcursor]
  cases p.step form (observed.drop k) rule with
  | error mismatch => rfl
  | ok next => exact verdict_shift hk

end Position

end Drop

end GivenWhenThen
