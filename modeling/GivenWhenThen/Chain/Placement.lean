import GivenWhenThen.Chain.Rule

/-! Where the events of a block stand among the published ones. `Order.placeAt` tries one start,
and `Order.placeFrom` looks for the first start at which the block stands. -/

namespace GivenWhenThen

/-- Where a block was missed. Indices count published events, except in `notFound`. -/
inductive Miss where
  /-- The published events end before the expected event with this index was found. -/
  | notFound (index : Nat)
  /-- The published event with this index does not belong here. -/
  | unexpected (index : Nat)
  /-- The block stands nowhere in this range. -/
  | seriesNotFound (first last : Nat)
  /-- The events of this range follow the last block. -/
  | trailing (first last : Nat)
deriving DecidableEq, Repr

/-- Where a block stands, or where it was missed. -/
inductive Placement where
  | found (start : Nat)
  | missed (miss : Miss)
deriving DecidableEq, Repr

variable {α : Type} [DecidableEq α]

/-- Compares expected events, the first of them with index `next`, one by one with published events,
the first of them with index `index`. -/
def missAsGiven (next index : Nat) : List α → List α → Option Miss
  | [], _ => none
  | _ :: _, [] => some (.notFound next)
  | e :: expected, p :: published =>
    if e = p then missAsGiven (next + 1) (index + 1) expected published
    else some (.unexpected index)

/-- Takes each published event, the first of them with index `index`, from the expected events left,
which carry their own indices; of equal ones the first is taken. -/
def missInAnyOrder (index : Nat) : List (α × Nat) → List α → Option Miss
  | [], _ => none
  | (_, next) :: _, [] => some (.notFound next)
  | left, p :: published =>
    if left.any (·.1 == p) then missInAnyOrder (index + 1) (left.eraseP (·.1 == p)) published
    else some (.unexpected index)

namespace Order

/-- What keeps the expected events from standing at `start`, if anything. -/
def missAt (order : Order) (expected published : List α) (start : Nat) : Option Miss :=
  match order with
  | asGiven => missAsGiven 0 start expected (published.drop start)
  | any => missInAnyOrder start expected.zipIdx (published.drop start)

/-- Tries to place the expected events at `start`. -/
def placeAt (order : Order) (expected published : List α) (start : Nat) : Placement :=
  match order.missAt expected published start with
  | none => .found start
  | some miss => .missed miss

/-- Places the expected events at the first start from `first` on where they stand. With no event
left to look at, the first expected one is missing. -/
def placeFrom (order : Order) (expected published : List α) (first : Nat) : Placement :=
  if published.length ≤ first then .missed (.notFound 0)
  else
    match (List.range' first (published.length - first)).find? fun start =>
        (order.missAt expected published start).isNone with
    | some start => .found start
    | none => .missed (.seriesNotFound first (published.length - 1))

end Order

end GivenWhenThen
