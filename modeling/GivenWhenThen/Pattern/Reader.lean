import GivenWhenThen.Fault.Message
import GivenWhenThen.Pattern.Footprint
import GivenWhenThen.Pattern.Marked
import GivenWhenThen.Pattern.Token

/-! Reading patterns. The reader takes one token after the other and keeps the groups that are still
open; a pattern without meaning, such as one with a group left open, is not read at all. -/

namespace GivenWhenThen.Pattern

/-- A pattern with the depth to which groups, repetitions, sequences, alternatives and brackets nest
in it. A change of flags is an item that cannot be repeated. -/
structure Reader.Item where
  pattern : Pattern
  depth : Nat
  repeatable : Bool := true

/-- A group in progress: its number if it has one, the alternatives before the last bar and the
items after it, each last first. -/
structure Reader.Group where
  flags : Flags
  number : Option Nat := none
  alternatives : List Reader.Item := []
  items : List Reader.Item := []

/-- The innermost open group, the groups around it, how many groups have a number, and the group
names used so far. -/
structure Reader where
  group : Reader.Group
  outer : List Reader.Group := []
  numbered : Nat := 0
  names : List String := []

namespace Reader

namespace Item

/-- Joins items, last first. Two or more of them nest one level deeper. -/
def join (operator : List Pattern → Pattern) (items : List Item) : Item :=
  let pattern := operator (items.reverse.map (·.pattern))
  match items with
  | [] => { pattern, depth := 0 }
  | [item] => { item with pattern }
  | items => { pattern, depth := items.foldl (fun depth item => max depth item.depth) 0 + 1 }

/-- The item in a group, which may have a number. -/
def inGroup (item : Item) (number : Option Nat) : Item :=
  { pattern := match number with
      | some number => .group number item.pattern
      | none => item.pattern
    depth := item.depth + 1 }

/-- The item between `least` and `most` times in a row, or without an upper bound. -/
def iterate (item : Item) (least : Nat) (most : Option Nat) : Item :=
  { pattern := item.pattern.iterate least most, depth := item.depth + 1 }

end Item

namespace Group

/-- The items after the last bar, one after the other. -/
def sequence (group : Group) : Item := .join concat group.items

/-- The pattern of the whole group. -/
def whole (group : Group) : Item :=
  match group.alternatives with
  | [] => group.sequence
  | before => .join oneOf (group.sequence :: before)

def add (group : Group) (item : Item) : Group := { group with items := item :: group.items }

/-- Begins the next alternative. -/
def bar (group : Group) : Group :=
  { group with alternatives := group.sequence :: group.alternatives, items := [] }

end Group

/-- Opens a group, whose name must be new. -/
def opened (reader : Reader) : GroupKind → Option Reader
  | .plain change =>
    some { reader with
      group := { flags := reader.group.flags.apply change }
      outer := reader.group :: reader.outer }
  | .numbered name =>
    if name.any reader.names.contains then none
    else some
      { group := { flags := reader.group.flags, number := some reader.numbered }
        outer := reader.group :: reader.outer
        numbered := reader.numbered + 1
        names := name.toList ++ reader.names }

def step (reader : Reader) (token : Token) : Option Reader :=
  let group := reader.group
  match token with
  | .item pattern depth => some { reader with group := group.add { pattern, depth } }
  | .alternative => some { reader with group := group.bar }
  | .openGroup kind => reader.opened kind
  | .change change =>
    let flag : Item := { pattern := empty, depth := 0, repeatable := false }
    some { reader with group := { group.add flag with flags := group.flags.apply change } }
  | .closeGroup =>
    match reader.outer with
    | [] => none
    | around :: outer =>
      some { reader with group := around.add (group.whole.inGroup group.number), outer }
  | .iterate least most =>
    match group.items with
    | [] => none
    | item :: items =>
      if !item.repeatable then none
      else some { reader with group := { group with items := item.iterate least most :: items } }

/-- Reads a text of at most `fuel` tokens. -/
def readAll? (fuel : Nat) (reader : Reader) (text : List Char) : Option Reader :=
  let flags := reader.group.flags
  match fuel, flags.skip text with
  | _, [] => some reader
  | 0, _ :: _ => none
  | fuel + 1, text => do
    let (token, rest) ← Token.next? flags text
    readAll? fuel (← reader.step token) rest

end Reader

/-- Patterns that nest deeper are not read. -/
def maxDepth : Nat := 250

/-- The pattern with the given text, if it can be read. -/
def Reader.whole? (text : String) : Option Pattern := do
  let chars := text.toList
  let reader ← readAll? chars.length { group := { flags := {} } } chars
  let whole := reader.group.whole
  if reader.outer.isEmpty && whole.depth ≤ maxDepth then return whole.pattern else none

/-- The pattern with the given text, or what is wrong with it. -/
def ofText (text : String) : Except Defect Pattern :=
  match Reader.whole? text with
  | none => .error (.unreadable (.ofText text))
  | some p => if p.isTooLarge then .error .tooLarge else .ok p

/-- The patterns that are read here, for programs that run. -/
instance : PatternEngine where
  compile source :=
    match ofText source with
    | .ok p => .ok p.occursIn
    | .error defect => .error defect.report

end GivenWhenThen.Pattern
