import GivenWhenThen.Canonical
import GivenWhenThen.Task

/-! A bank whose accounts are streams of events. The balance of an account is what its events add
up to; a withdrawal costs a fee and is rejected if the balance does not cover it. Amounts are whole
numbers of 64 bits, and how the program is built decides what becomes of a result that is out of
their range: it panics, or it is wrapped around. -/

namespace GivenWhenThen.Bank

/-- How the program is built. -/
inductive Build where
  /-- An overflow panics. -/
  | checked
  /-- An overflow wraps around. -/
  | wrapping
deriving DecidableEq, Repr

/-- The number is in the range of amounts. -/
def Fits (n : Int) : Prop := Int64.minValue.toInt ≤ n ∧ n ≤ Int64.maxValue.toInt

instance (n : Int) : Decidable (Fits n) := inferInstanceAs (Decidable (_ ∧ _))

namespace Build

/-- The result of an operation, given what it is exactly and what it is wrapped around; nothing
where the operation panics. -/
def result (build : Build) (exact : Int) (wrapped : Int64) : Option Int64 :=
  match build with
  | checked => if Fits exact then some wrapped else none
  | wrapping => some wrapped

def add (build : Build) (a b : Int64) : Option Int64 := build.result (a.toInt + b.toInt) (a + b)

def neg (build : Build) (a : Int64) : Option Int64 := build.result (-a.toInt) (-a)

end Build

inductive Event where
  | opened (owner : String)
  | deposited (amount : Int64)
  | withdrawn (amount : Int64)
deriving DecidableEq, Repr

namespace Event

def label : Event → String
  | opened _ => "Opened"
  | deposited _ => "Deposited"
  | withdrawn _ => "Withdrawn"

/-- The data of an event, by name. -/
def data : Event → String × Json
  | opened owner => ("owner", .string owner)
  | deposited amount | withdrawn amount => ("amount", .number (.int amount.toInt))

/-- The data of an event under its label. -/
def toJson (event : Event) : Json := .object [(event.label, .object [event.data])]

def dump (event : Event) : String :=
  Dump.record event.label <|
    match event with
    | opened owner => [("owner", Dump.text owner)]
    | deposited amount | withdrawn amount => [("amount", toString amount)]

instance : GivenWhenThen.Event Event where
  label := label
  serialize event := .ok event.toJson
  dump := dump

/-- What an event adds to the balance of its account. -/
def effect (build : Build) : Event → Option Int64
  | opened _ => some 0
  | deposited amount => some amount
  | withdrawn amount => build.neg amount

/-- What events add to a sum, one after the other. -/
def sumFrom (build : Build) (sum : Int64) : List Event → Option Int64
  | [] => some sum
  | event :: events => do sumFrom build (← build.add sum (← event.effect build)) events

end Event

inductive Command where
  | deposit (account : StreamId) (amount : Int64)
  | withdraw (account : StreamId) (amount : Int64)
deriving DecidableEq, Repr

inductive Fault where
  | insufficientFunds (balance requested : Int64)
deriving DecidableEq, Repr

namespace Fault

def message : Fault → String
  | insufficientFunds balance requested =>
    "Insufficient funds: balance " ++ toString balance ++ ", requested " ++ toString requested

def dump : Fault → String
  | insufficientFunds balance requested =>
    Dump.record "InsufficientFunds"
      [("balance", toString balance), ("requested", toString requested)]

/-- What was to be taken from the account, the fee included. -/
def requested : Fault → Int64
  | insufficientFunds _ requested => requested

/-- The type of the errors of a bank, under the given name. -/
def type (name : String) : FaultType := { id := 0, name }

/-- The errors of a bank, none of which has a cause. -/
def view (name : String) : FaultView Fault where
  own := type name
  typeId _ := (type name).id
  message := message
  dump := dump
  source _ := none
  finite := ⟨fun _ => ⟨_, nofun⟩⟩

end Fault

/-- The fee for each withdrawal, and the fees taken so far. -/
structure Fees where
  withdrawal : Int64 := 0
  collected : Int64 := 0
deriving DecidableEq, Repr

end Bank

/-- A bank: the events before the run, those published in it, and the fees. -/
structure Bank where
  history : Streams Bank.Event := ∅
  published : Streams Bank.Event := ∅
  fees : Bank.Fees := {}
deriving DecidableEq

namespace Bank

/-- The sum of the effects of all events of an account; nothing where summing up panics. -/
def balance (build : Build) (bank : Bank) (account : StreamId) : Option Int64 :=
  Event.sumFrom build 0 (bank.history.events account ++ bank.published.events account)

def publish (bank : Bank) (account : StreamId) (event : Event) : Bank :=
  { bank with published := bank.published.append account [event] }

/-- Carries out a command, or rejects it and leaves the bank as it is. There is no answer where the
command panics, which it does before it changes the bank. -/
def dispatch (build : Build) (bank : Bank) : Command → Option (Bank × Except Fault Unit)
  | .deposit account amount => some (bank.publish account (.deposited amount), .ok ())
  | .withdraw account amount => do
    let balance ← bank.balance build account
    let requested ← build.add amount bank.fees.withdrawal
    if balance < requested then return (bank, .error (.insufficientFunds balance requested))
    else
      let collected ← build.add bank.fees.collected bank.fees.withdrawal
      return ({ bank with fees.collected := collected }.publish account (.withdrawn requested),
        .ok ())

/-- A bank in the process that runs it, which is gone once a command has panicked. -/
structure Hosted where
  bank : Bank := {}
  panicked : Bool := false
deriving DecidableEq

/-- The adapter of a bank, whose type of errors is shown under the given name. A command that panics
gives no answer, however long one waits. -/
def adapter (build : Build) (faultName : String) : Adapter Hosted Event Command Fault Fees where
  faults := Fault.view faultName
  services hosted := hosted.bank.fees
  withServices hosted fees := { hosted with bank.fees := fees }
  beforeTest hosted := .done { hosted with bank.history := ∅, bank.published := ∅ } (.ok ())
  seed given hosted := .done { hosted with bank.history := given } (.ok ())
  dispatch command hosted :=
    match hosted.bank.dispatch build command with
    | some (bank, result) => .done { hosted with bank } result
    | none => .stuck { hosted with panicked := true }
  published hosted := .done hosted (.ok hosted.bank.published)

end Bank

end GivenWhenThen
