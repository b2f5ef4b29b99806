import GivenWhenThen.OrderedMap
import GivenWhenThen.Dump

/-! Streams of events, each known by its id. -/

namespace GivenWhenThen

/-- The name of a stream. Streams are ordered by the code points of their names. -/
abbrev StreamId := String

/-- The events of each stream, in ascending order of the ids. -/
abbrev Streams (ε : Type) := OrderedMap (List ε)

namespace StreamId

/-- The text of a 16-byte identifier: hexadecimal digits in groups of 8, 4, 4, 4 and 12. -/
def ofBytes (bytes : List UInt8) : StreamId :=
  let hex (b : UInt8) : List Char := [(b.toNat / 16).digitChar, (b.toNat % 16).digitChar]
  let digits := bytes.flatMap hex
  let group (first count : Nat) : String := String.ofList ((digits.drop first).take count)
  "-".intercalate [group 0 8, group 8 4, group 12 4, group 16 4, group 20 12]

def dump (id : StreamId) : String := Dump.call "StreamId" [Dump.text id]

end StreamId

namespace Streams

variable {ε : Type}

/-- The events of a stream; a stream without an entry has none. -/
def events (streams : Streams ε) (id : StreamId) : List ε := (streams.get? id).getD []

/-- Adds events at the end of a stream, whose entry is made if there is none. -/
def append (streams : Streams ε) (id : StreamId) (events : List ε) : Streams ε :=
  streams.alter id fun old => old.getD [] ++ events

/-- The streams with at least one event, in ascending order. -/
def nonempty (streams : Streams ε) : List StreamId :=
  (streams.entries.filter (!·.2.isEmpty)).map (·.1)

/-- All events, in ascending order of the streams. -/
def allEvents (streams : Streams ε) : List ε := streams.values.flatten

def dump (dumpEvent : ε → String) (streams : Streams ε) : String :=
  Dump.map (streams.entries.map fun (id, events) =>
    (StreamId.dump id, Dump.list (events.map dumpEvent)))

end Streams

end GivenWhenThen
