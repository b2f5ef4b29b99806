import GivenWhenThen.Proofs.Chain.Segmentation

/-! The execution of a chain by loops over indices. Here a block counts the expected events that it
has found, or marks the ones that it has used, a gap looks at the observed events one index after
the other, and the rules know by their index whether they are the last. Each access to a list and
each subtraction is checked: one that does not fit ends the execution with a `Breach`. The lemmas
`placeAt_eq`, `place_eq`, `gapMismatch?_eq` and `check_eq` say that none of the parts has a breach,
and that they find what the parts of `Chain.execute` find. -/

namespace GivenWhenThen

namespace Indexed

/-- An access outside a list, or a difference below zero. -/
inductive Breach where
  | outOfRange (index length : Nat)
  | underflow (number taken : Nat)
deriving DecidableEq, Repr

/-- What ends an execution without an outcome. -/
inductive Halt where
  | breach (breach : Breach)
  | error (error : Error)
deriving DecidableEq, Repr

variable {α β ε : Type}

/-- The element at an index of a list. -/
def look (l : List α) (index : Nat) : Except Halt α :=
  match l[index]? with
  | some a => .ok a
  | none => .error (.breach (.outOfRange index l.length))

/-- The list with another element at an index. -/
def put (l : List α) (index : Nat) (a : α) : Except Halt (List α) :=
  if index < l.length then .ok (l.set index a)
  else .error (.breach (.outOfRange index l.length))

def minus (number taken : Nat) : Except Halt Nat :=
  if taken ≤ number then .ok (number - taken) else .error (.breach (.underflow number taken))

/-- A result that has an error instead of a breach. -/
def lift (x : Except Error α) : Except Halt α := x.mapError .error

/-! ### The loops -/

section Place

variable [DecidableEq α]

/-- Compares the published events of a window, the first of them with index `index`, with the
expected ones from `next` on. -/
def scanAsGiven (expected : List α) (start next index : Nat) : List α → Except Halt Placement
  | [] => .ok (.missed (.notFound next))
  | p :: window => do
    let e ← look expected next
    if p ≠ e then return .missed (.unexpected index)
    else if next + 1 = expected.length then return .found start
    else scanAsGiven expected start (next + 1) (index + 1) window

/-- The first expected event that is like `p` and not used yet. -/
def slot? (expected : List α) (used : List Bool) (p : α) : Option Nat :=
  (expected.zip used).findIdx? fun (e, used) => !used && e == p

/-- Marks an expected event as used for each published event of a window, the first of which has
index `index`, while there are some left. -/
def scanInAnyOrder (expected : List α) (start left : Nat) (used : List Bool) (index : Nat) :
    List α → Except Halt Placement
  | [] => .ok (.missed (.notFound ((used.findIdx? (!·)).getD 0)))
  | p :: window =>
    match slot? expected used p with
    | none => .ok (.missed (.unexpected index))
    | some slot => do
      let used ← put used slot true
      let left ← minus left 1
      if left = 0 then return .found start
      else scanInAnyOrder expected start left used (index + 1) window

def placeAt (order : Order) (expected published : List α) (start : Nat) : Except Halt Placement :=
  match order with
  | .asGiven => scanAsGiven expected start 0 start (published.drop start)
  | .any =>
    scanInAnyOrder expected start expected.length (List.replicate expected.length false) start
      (published.drop start)

def isFound : Placement → Bool
  | .found _ => true
  | .missed _ => false

/-- Places a block. Where it stands nowhere, the range ends at the last observed event. -/
def place (afterGap : Bool) (order : Order) (expected published : List α)
    (observedLength cursor : Nat) : Except Halt Placement :=
  if !afterGap then placeAt order expected published cursor
  else if published.length ≤ cursor then .ok (.missed (.notFound 0))
  else do
    match ← (List.range' cursor (published.length - cursor)).findM? fun start =>
        isFound <$> placeAt order expected published start with
    | some start => return .found start
    | none => return .missed (.seriesNotFound cursor (← minus observedLength 1))

end Place

/-- The event between `first` and `stop` that a gap excludes, as a mismatch. -/
def gapMismatch? (gap : Option (List (Exclusion ε))) (observed : List ε) (first stop : Nat) :
    Except Halt (Option Mismatch) :=
  match gap with
  | none | some [] => .ok none
  | some exclusions => do
    let index? ← (List.range' first (min stop observed.length - first)).findM? fun index => do
      let event ← look observed index
      return exclusions.any (· event)
    return index?.map (.excluded exclusions.length)

/-- The gap before the rule with an index, if the rule before it is one. -/
def gapBefore (rules : List (Rule ε)) : Nat → Except Halt (Option (List (Exclusion ε)))
  | 0 => .ok none
  | index + 1 => do
    let previous ← look rules index
    return previous.exclusions?

/-- What a rule does: it ends the loop, or the next rule starts at the cursor. -/
inductive Turn where
  | stop (mismatch : Mismatch)
  | goOn (cursor : Nat)
deriving DecidableEq, Repr

/-- The turn of the rule with an index, where `last` is the index of the last rule. -/
def turn (c : Canonicalizer ε) (rules : List (Rule ε)) (observed : List ε)
    (last index cursor : Nat) (rule : Rule ε) : Except Halt Turn := do
  let gap ← gapBefore rules index
  match rule with
  | .gap exclusions =>
    if index = last then
      match ← gapMismatch? (some exclusions) observed cursor observed.length with
      | some mismatch => return .stop mismatch
      | none => return .goOn cursor
    else return .goOn cursor
  | .block b =>
    let expected ← lift (c.all b.events)
    let published ← lift (c.all observed)
    match ← place gap.isSome b.order expected published observed.length cursor with
    | .missed miss => return .stop (.missed b.order expected miss)
    | .found start =>
      match ← gapMismatch? gap observed cursor start with
      | some mismatch => return .stop mismatch
      | none =>
        let next := start + b.events.length
        if index = last ∧ next < observed.length then
          return .stop (.missed b.order expected (.trailing next (← minus observed.length 1)))
        else return .goOn next

/-- The turns of the rules from `index` on. -/
def loop (c : Canonicalizer ε) (rules : List (Rule ε)) (observed : List ε)
    (last index cursor : Nat) : List (Rule ε) → Except Halt (Option Mismatch)
  | [] => .ok none
  | rule :: rest => do
    match ← turn c rules observed last index cursor rule with
    | .stop mismatch => return some mismatch
    | .goOn next => loop c rules observed last (index + 1) next rest

def mismatch? (c : Canonicalizer ε) (observed : List ε) (chain : Chain ε) :
    Except Halt (Option Mismatch) := do
  if chain.isNothing then return if observed.isEmpty then none else some .notEmpty
  else
    let last ← minus chain.toList.length 1
    loop c chain.toList observed last 0 0 chain.toList

/-- Two gaps in a window of two rules. -/
def twoGaps (window : List (Rule ε)) : Except Halt Bool := do
  let first ← look window 0
  if first.isGap then
    let second ← look window 1
    return second.isGap
  else return false

def windows (l : List α) : List (List α) := (l.zip l.tail).map fun (a, b) => [a, b]

def check (chain : Chain ε) : Except Halt Unit := do
  if chain.isNothing then return ()
  else if chain.toList.isEmpty then .error (.error .emptyChain)
  else if ← (windows chain.toList).anyM twoGaps then .error (.error .consecutiveGaps)
  else return ()

/-- Executes the chain against the events observed on a stream. -/
def execute (c : Canonicalizer ε) (stream : StreamId) (chain : Chain ε) (observed : List ε) :
    Except Halt Outcome := do
  check chain
  match ← mismatch? c observed chain with
  | none => return ⟨stream, none⟩
  | some mismatch =>
    let published ← lift (c.all observed)
    return ⟨stream, some (mismatch, mismatch.text stream published)⟩

/-! ### No breach in a part -/

theorem look_eq {l : List α} {index : Nat} {a : α} (h : l[index]? = some a) :
    look l index = .ok a := by
  rw [look, h]

theorem put_eq {l : List α} {index : Nat} (a : α) (h : index < l.length) :
    put l index a = .ok (l.set index a) :=
  if_pos h

theorem minus_eq {number taken : Nat} (h : taken ≤ number) :
    minus number taken = .ok (number - taken) :=
  if_pos h

/-- A search without breaches is the search for the first element with the property. -/
theorem findM?_eq_ok {l : List α} {p : α → Except Halt Bool} {q : α → Bool}
    (h : ∀ a ∈ l, p a = .ok (q a)) : l.findM? p = .ok (l.find? q) := by
  induction l with
  | nil => rfl
  | cons a l ih =>
    obtain ⟨ha, hl⟩ := List.forall_mem_cons.1 h
    rw [List.findM?, ha, ih hl, List.find?_cons]
    cases q a <;> rfl

theorem anyM_eq_ok {l : List α} {p : α → Except Halt Bool} {q : α → Bool}
    (h : ∀ a ∈ l, p a = .ok (q a)) : l.anyM p = .ok (l.any q) := by
  induction l with
  | nil => rfl
  | cons a l ih =>
    obtain ⟨ha, hl⟩ := List.forall_mem_cons.1 h
    rw [List.anyM, ha, ih hl, List.any_cons]
    cases q a <;> rfl

/-! ### Blocks -/

section Blocks

variable {expected published window : List α} {used : List Bool} {e p : α} {u : Bool}
  {order : Order} {first left slot start next index cursor : Nat}

/-- The expected events that are not used, with their indices, of which `first` is the first. -/
def unused (first : Nat) : List α → List Bool → List (α × Nat)
  | e :: expected, false :: used => (e, first) :: unused (first + 1) expected used
  | _ :: expected, true :: used => unused (first + 1) expected used
  | _, _ => []

theorem unused_replicate :
    unused first expected (List.replicate expected.length false) = expected.zipIdx first := by
  induction expected generalizing first with
  | nil => rfl
  | cons e expected ih =>
    rw [List.length_cons, List.replicate_succ, unused, ih, List.zipIdx_cons]

/-- The first mark that is not set is the one of the first expected event left. -/
theorem findIdx?_unused {n : Nat} {rest : List (α × Nat)}
    (h : unused first expected used = (e, n) :: rest) :
    (used.findIdx? (!·)).map (first + ·) = some n := by
  induction expected generalizing first used with
  | nil => cases h
  | cons d expected ih =>
    obtain _ | ⟨_ | _, used⟩ := used
    · cases h
    · cases h
      rfl
    · have hn : (used.findIdx? (!·)).map (first + 1 + ·) = some n := ih h
      rw [List.findIdx?_cons]
      simpa [Function.comp_def, Nat.add_assoc, Nat.add_comm 1] using hn

variable [DecidableEq α]

/-- The placement at a start with a miss, if there is one. -/
def ofMiss (start : Nat) : Option Miss → Placement
  | none => .found start
  | some miss => .missed miss

theorem ofMiss_missAt :
    ofMiss start (order.missAt expected published start) =
      order.placeAt expected published start := by
  rw [Order.placeAt]
  cases order.missAt expected published start <;> rfl

/-- The index of the next expected event is inside the list, because the loop ends at the last
one. -/
theorem scanAsGiven_eq (hnext : next < expected.length) :
    scanAsGiven expected start next index window =
      .ok (ofMiss start (missAsGiven next index (expected.drop next) window)) := by
  induction window generalizing next index with
  | nil =>
    rw [List.drop_eq_getElem_cons hnext]
    rfl
  | cons p window ih =>
    have hlook : look expected next = .ok expected[next] := look_eq (List.getElem?_eq_getElem hnext)
    rw [scanAsGiven, hlook, List.drop_eq_getElem_cons hnext, missAsGiven]
    simp only [bind, Except.bind]
    by_cases hp : expected[next] = p
    · rw [if_neg (not_not.2 hp.symm), if_pos hp]
      by_cases hlast : next + 1 = expected.length
      · have hrest : expected.drop (next + 1) = [] := List.drop_eq_nil_of_le hlast.ge
        rw [if_pos hlast, hrest]
        rfl
      · rw [if_neg hlast]
        exact ih (by omega)
    · rw [if_pos (Ne.symm hp), if_neg hp]
      rfl

theorem slot?_cons :
    slot? (e :: expected) (u :: used) p =
      if !u && e == p then some 0 else (slot? expected used p).map (· + 1) := by
  rw [slot?, List.zip_cons_cons, List.findIdx?_cons]
  rfl

theorem slot?_eq_none_iff (first : Nat) :
    slot? expected used p = none ↔ p ∉ (unused first expected used).map Prod.fst := by
  induction expected generalizing first used with
  | nil => simp [slot?, unused]
  | cons e expected ih =>
    obtain _ | ⟨_ | _, used⟩ := used
    · simp [slot?, unused]
    · by_cases he : e = p
      · simp [slot?_cons, unused, he]
      · simp [slot?_cons, unused, he, Ne.symm he, ih (first + 1)]
    · simp [slot?_cons, unused, ih (first + 1)]

/-- The first expected event like `p` that is left is the one that gets used. -/
theorem unused_set (first : Nat) (h : slot? expected used p = some slot) :
    slot < used.length ∧ p ∈ (unused first expected used).map Prod.fst ∧
      unused first expected (used.set slot true) =
        (unused first expected used).eraseP (·.1 == p) := by
  induction expected generalizing first used slot with
  | nil => cases h
  | cons e expected ih =>
    obtain _ | ⟨u, used⟩ := used
    · cases h
    rw [slot?_cons] at h
    by_cases hu : (!u && e == p) = true
    · rw [if_pos hu] at h
      cases h
      simp only [Bool.and_eq_true, Bool.not_eq_true', beq_iff_eq] at hu
      obtain ⟨rfl, rfl⟩ := hu
      simp [unused]
    · rw [if_neg hu] at h
      obtain ⟨slot, hslot, rfl⟩ := Option.map_eq_some_iff.1 h
      obtain ⟨hlt, hmem, hset⟩ := ih (first + 1) hslot
      cases u with
      | true =>
        rw [List.set_cons_succ, unused, unused]
        exact ⟨Nat.succ_lt_succ hlt, hmem, hset⟩
      | false =>
        have hne : ¬((e, first).1 == p) = true := by simpa using hu
        rw [List.set_cons_succ, unused, unused, hset, List.eraseP_cons_of_neg (by exact hne)]
        exact ⟨Nat.succ_lt_succ hlt, List.mem_cons_of_mem _ hmem, rfl⟩

/-- As many expected events are left as the loop counts, and it ends when there are none. -/
theorem scanInAnyOrder_eq (hleft : left = (unused 0 expected used).length) (hpos : 0 < left) :
    scanInAnyOrder expected start left used index window =
      .ok (ofMiss start (missInAnyOrder index (unused 0 expected used) window)) := by
  induction window generalizing left used index with
  | nil =>
    obtain ⟨⟨e, n⟩, rest, hunused⟩ := List.exists_cons_of_length_pos (hleft ▸ hpos)
    have hn := findIdx?_unused hunused
    simp only [Nat.zero_add, Option.map_id'] at hn
    rw [scanInAnyOrder, hunused, hn]
    rfl
  | cons p window ih =>
    rw [scanInAnyOrder]
    cases hslot : slot? expected used p with
    | none =>
      have hne : unused 0 expected used ≠ [] := List.length_pos_iff.1 (hleft ▸ hpos)
      rw [missInAnyOrder_of_not_mem hne ((slot?_eq_none_iff 0).1 hslot)]
      rfl
    | some slot =>
      -- The event is one of those left, and behind it there is one fewer.
      obtain ⟨hlt, hmem, hset⟩ := unused_set 0 hslot
      have hlen := length_eraseP_fst hmem
      have hfewer : left - 1 = (unused 0 expected (used.set slot true)).length := by
        rw [hset]
        omega
      have hput : put used slot true = .ok (used.set slot true) := put_eq true hlt
      have hminus : minus left 1 = .ok (left - 1) := minus_eq hpos
      rw [missInAnyOrder_of_mem hmem, ← hset]
      simp only [hput, hminus, bind, Except.bind]
      by_cases hnone : left - 1 = 0
      · have hnil := List.length_eq_zero_iff.1 (hfewer.symm.trans hnone)
        rw [if_pos hnone, hnil]
        cases window <;> rfl
      · rw [if_neg hnone]
        exact ih hfewer (Nat.pos_of_ne_zero hnone)

theorem placeAt_eq (hne : expected ≠ []) :
    placeAt order expected published start = .ok (order.placeAt expected published start) := by
  have hpos := List.length_pos_iff.2 hne
  rw [← ofMiss_missAt]
  cases order with
  | asGiven => exact scanAsGiven_eq hpos
  | any =>
    have hunused : unused 0 expected (List.replicate expected.length false) = expected.zipIdx :=
      unused_replicate
    have hleft := congrArg List.length hunused
    rw [List.length_zipIdx] at hleft
    rw [Order.missAt, ← hunused]
    exact scanInAnyOrder_eq hleft.symm hpos

/-- A search that finds nothing began in front of the last event, so that there is one. -/
theorem place_eq {afterGap : Bool} {length : Nat} (hne : expected ≠ [])
    (hlength : published.length = length) :
    place afterGap order expected published length cursor = .ok
      (if afterGap then order.placeFrom expected published cursor
        else order.placeAt expected published cursor) := by
  cases afterGap with
  | false => exact placeAt_eq hne
  | true =>
    have hfind : ∀ starts : List Nat,
        (starts.findM? fun start => isFound <$> placeAt order expected published start) =
          .ok (starts.find? fun start => (order.missAt expected published start).isNone) := by
      refine fun starts => findM?_eq_ok fun start _ => ?_
      rw [placeAt_eq hne, ← ofMiss_missAt]
      cases order.missAt expected published start <;> rfl
    subst hlength
    rw [if_pos rfl, place, Order.placeFrom, hfind]
    by_cases hend : published.length ≤ cursor
    · rw [if_pos hend, if_pos hend]
      rfl
    · have hlast : minus published.length 1 = .ok (published.length - 1) := minus_eq (by omega)
      rw [if_neg hend, if_neg hend, hlast]
      cases (List.range' cursor (published.length - cursor)).find? fun start =>
        (order.missAt expected published start).isNone <;> rfl

end Blocks

/-! ### Gaps -/

section Gaps

variable {exclusions : List (Exclusion ε)} {gap : Option (List (Exclusion ε))} {observed : List ε}
  {rules : List (Rule ε)} {first stop : Nat}

theorem find?_excluded :
    ((List.range' first (min stop observed.length - first)).find? fun index =>
        observed[index]?.any fun event => exclusions.any (· event)) =
      firstExcluded? exclusions observed first stop := by
  have hexcluded (i : Nat) : (observed[i]?.any fun event => exclusions.any (· event)) = true ↔
      ∃ event, observed[i]? = some event ∧ Excludes exclusions event := by
    cases observed[i]? <;> simp [Excludes]
  refine Option.ext fun index => ?_
  rw [List.find?_range'_eq_some, firstExcluded?_eq_some_iff, hexcluded, List.mem_range'_1]
  constructor
  · rintro ⟨hhit, ⟨hfirst, hstop⟩, hbefore⟩
    refine ⟨hfirst, by omega, hhit, fun i hi hlt event hevent hexcludes => ?_⟩
    have hnot := hbefore i hi hlt
    rw [(hexcluded i).2 ⟨event, hevent, hexcludes⟩] at hnot
    cases hnot
  · rintro ⟨hfirst, hstop, ⟨event, hevent, hexcludes⟩, hbefore⟩
    have hlt := (List.getElem?_eq_some_iff.1 hevent).1
    refine ⟨⟨event, hevent, hexcludes⟩, ⟨hfirst, by omega⟩, fun i hi hlt => ?_⟩
    rw [Bool.not_eq_true', ← Bool.not_eq_true, hexcluded]
    rintro ⟨event, hevent, hexcludes⟩
    exact hbefore i hi hlt event hevent hexcludes

theorem gapMismatch?_eq :
    gapMismatch? gap observed first stop = .ok (Chain.gapMismatch? gap observed first stop) := by
  obtain _ | _ | ⟨x, exclusions⟩ := gap
  · rfl
  · have hnone : firstExcluded? [] observed first stop = none :=
      firstExcluded?_eq_none_iff.2 noneExcluded_nil
    rw [Position.gapMismatch?_some, hnone]
    rfl
  · rw [Position.gapMismatch?_some, ← find?_excluded, gapMismatch?, findM?_eq_ok]
    · rfl
    · intro index hindex
      -- The range ends at the observed events, wherever the gap does.
      have hlt : index < observed.length := by
        have := List.mem_range'_1.1 hindex
        omega
      have hevent := List.getElem?_eq_getElem hlt
      rw [look_eq hevent, hevent]
      rfl
    · simp

theorem twoGaps_eq {l window : List (Rule ε)} (h : window ∈ windows l) :
    twoGaps window = .ok (window.all Rule.isGap) := by
  obtain ⟨⟨a, b⟩, -, rfl⟩ := List.mem_map.1 h
  cases a <;> cases b <;> rfl

theorem check_eq (chain : Chain ε) : check chain = lift chain.check := by
  obtain ⟨_ | _, _ | ⟨rule, rest⟩⟩ := chain
  any_goals rfl
  · have hpairs : (windows (rule :: rest)).any (·.all Rule.isGap) =
        ((rule :: rest).zip rest).any fun pair => pair.1.isGap && pair.2.isGap := by
      simp [windows, List.any_map, Function.comp_def]
    have hcheck : Chain.check ⟨false, rule :: rest⟩ =
        if ((rule :: rest).zip rest).any fun pair => pair.1.isGap && pair.2.isGap then
          .error .consecutiveGaps
        else .ok () :=
      rfl
    rw [hcheck, check, anyM_eq_ok fun _ h => twoGaps_eq h, hpairs]
    cases ((rule :: rest).zip rest).any fun pair => pair.1.isGap && pair.2.isGap <;> rfl

end Gaps

end Indexed

end GivenWhenThen
