import GivenWhenThen.Dump
import GivenWhenThen.Error
import GivenWhenThen.Json.Text

/-! Canonical events. Events are compared by a type tag and a text of their content, which a
`Canonicalizer` makes. `Canonicalizer.json` takes the label as the tag and the serialized form as
the content, with the fields of objects in order and one object around the content removed if its
only key is the label. -/

namespace GivenWhenThen

/-- Events have a label, which names their type, and a serialized form. Serialization may fail,
with a text that says why. -/
class Event (ε : Type) where
  label : ε → String
  serialize : ε → Except String Json
  dump : ε → String

/-- An event as it is compared and shown. -/
structure Canonical where
  tag : String
  content : String
deriving DecidableEq, Repr, Inhabited

/-- Canonical events are ordered by tag, then by content, both by code points. -/
def Canonical.le (a b : Canonical) : Bool :=
  a.tag < b.tag || (a.tag = b.tag && a.content ≤ b.content)

/-- A way to make events canonical, and the text that shows it. -/
structure Canonicalizer (ε : Type) where
  canonical : ε → Except Error Canonical
  dump : String := Dump.partialRecord "CanonicalizeFn" []

namespace Canonicalizer

variable {ε : Type}

/-- The canonical forms of all events, or the error of the first event that has none. -/
def all (c : Canonicalizer ε) (events : List ε) : Except Error (List Canonical) :=
  events.mapM c.canonical

/-- The content of an object whose only key is the label, and any other value as it is. -/
def unwrap (label : String) : Json → Json
  | .object [(key, inner)] => if key = label then inner else .object [(key, inner)]
  | value => value

/-- The canonical form of the event with the given label and serialized form. -/
def ofJson [FloatText] (label : String) (value : Json) : Canonical :=
  { tag := label, content := (unwrap label value.sorted).text }

/-- Events by their label and serialized form. -/
def json [Event ε] [FloatText] : Canonicalizer ε where
  canonical event :=
    match Event.serialize event with
    | .ok value => .ok (ofJson (Event.label event) value)
    | .error text => .error (.serialization ⟨text, 0⟩)
  dump := "JsonCanonicalizer"

/-! ### Other canonical forms -/

/-- The canonical form that `f` makes of the one by serialized form. -/
def mapJson [Event ε] [FloatText] (f : Canonical → Canonical) : Canonicalizer ε where
  canonical event := (json.canonical event).map f

/-- Events by their labels alone. -/
def byLabel [Event ε] : Canonicalizer ε where
  canonical event := .ok { tag := Event.label event, content := "" }

/-- Events by their contents alone. -/
def byContent [Event ε] [FloatText] : Canonicalizer ε := mapJson fun form => { form with tag := "" }

/-- Events up to the case of ASCII letters. -/
def ignoringCase [Event ε] [FloatText] : Canonicalizer ε :=
  mapJson fun form =>
    { tag := form.tag.map Char.toLower, content := form.content.map Char.toLower }

/-- An error for the events with a label. -/
def failingOn [Event ε] [FloatText] (label : String) (error : Error) : Canonicalizer ε where
  canonical event :=
    if Event.label event = label then .error error else json.canonical event

end Canonicalizer

end GivenWhenThen
