import GivenWhenThen.Canonical
import GivenWhenThen.Chain.Rule

/-! Labelled events with a body of any shape. -/

namespace GivenWhenThen.Scripted

/-- Values whose serialized form is not their own, or that have none. -/
inductive Special where
  | notANumber
  | negativeInfinity
  | bytes
  | integerKeys
  | listKey
  | hugeInteger
deriving DecidableEq, Repr

/-- Numbers that are not finite become null, bytes a list, and integer keys texts. -/
def Special.serialize : Special → Except String Json
  | notANumber | negativeInfinity => .ok .null
  | bytes => .ok (.array [.number (.int 0), .number (.int 127), .number (.int 255)])
  | integerKeys => .ok (.object [("10", .string "x"), ("9", .string "y"), ("-1", .string "z")])
  | listKey => .error "key must be a string"
  | hugeInteger => .error "number out of range"

inductive Body where
  /-- Nothing but the label, which is the serialized form. -/
  | label
  /-- A value in an object under the label. -/
  | wrapped (value : Json)
  /-- A value as it is. -/
  | plain (value : Json)
  /-- A body that cannot be serialized. -/
  | failing (text : String)
  | special (value : Special)

/-- An event, with data that is not serialized. -/
structure Event where
  label : String
  body : Body
  skipped : Json := .null

/-- Equality of values whose fields may be listed in any order. -/
def sameValue (a b : Json) : Bool := a.sorted.same b.sorted

def Body.same : Body → Body → Bool
  | label, label => true
  | wrapped a, wrapped b | plain a, plain b => sameValue a b
  | failing a, failing b => a == b
  | special a, special b => a == b
  | _, _ => false

namespace Event

def same (a b : Event) : Bool :=
  a.label == b.label && a.body.same b.body && sameValue a.skipped b.skipped

/-- A field of the body is an integer greater than `bound`. -/
def exceeds (field : String) (bound : Int) (event : Event) : Bool :=
  match event.body with
  | .wrapped value | .plain value =>
    match value.get? field with
    | some (.number (.int n)) => bound < n
    | _ => false
  | _ => false

instance : GivenWhenThen.Event Event where
  label := label
  serialize event :=
    match event.body with
    | .label => .ok (.string event.label)
    | .wrapped value => .ok (.object [(event.label, value)])
    | .plain value => .ok value
    | .failing text => .error text
    | .special value => value.serialize
  dump event := Dump.call "Ev" [event.label]

end Event

end GivenWhenThen.Scripted
