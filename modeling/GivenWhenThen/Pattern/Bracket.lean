import GivenWhenThen.Pattern.Escape

/-! Sets of characters in brackets. They nest, and two of them may be intersected or subtracted. -/

namespace GivenWhenThen.Pattern

/-- A set with the depth to which brackets, unions and operators nest in it. -/
structure NestedSet where
  set : CharSet
  depth : Nat := 0

namespace NestedSet

/-- The union of sets, which nests them if there are two or more. -/
def union : List NestedSet → NestedSet
  | [] => { set := .nothing }
  | [item] => item
  | items =>
    { set := .unionAll (items.map (·.set))
      depth := items.foldl (fun depth item => max depth item.depth) 0 + 1 }

/-- Joins the set before an operator with the one after it. -/
def join (before : Option (Char × NestedSet)) (after : NestedSet) : NestedSet :=
  match before with
  | none => after
  | some (operator, first) =>
    { set := match operator with
        | '&' => first.set.inter after.set
        | '-' => first.set.diff after.set
        | _ => first.set.symmDiff after.set
      depth := max first.depth after.depth + 1 }

end NestedSet

namespace Bracket

/-- A character or a set of characters, before it is known whether a range follows. -/
def item? (flags : Flags) : List Char → Option ((Char ⊕ CharSet) × List Char)
  | [] => none
  | '\\' :: rest =>
    match Escape.read? flags rest with
    | some (.char c, rest) => some (.inl c, rest)
    | some (.chars set, rest) => some (.inr set, rest)
    | _ => none
  | c :: rest => some (.inl c, rest)

/-- The range with the given ends and its variants up to case. In ASCII both ends are ASCII
characters. -/
def between? (flags : Flags) (first last : Char) : Option CharSet :=
  if first ≤ last && !(flags.ascii && 0x80 ≤ last.toNat) then
    some (flags.close (.range first last))
  else none

/-- The set that an item alone stands for. -/
def alone? (flags : Flags) : Char ⊕ CharSet → Option CharSet
  | .inl c => between? flags c c
  | .inr set => some set

/-- An item of a set, or a range between two of them that are characters. A dash before a dash or
before the closing bracket makes no range. -/
def range? (flags : Flags) (text : List Char) : Option (CharSet × List Char) := do
  let (item, rest) ← item? flags text
  let rest := flags.skip rest
  match rest with
  | '-' :: after =>
    let after := flags.skip after
    if after.head? == some ']' || after.head? == some '-' then
      return (← alone? flags item, rest)
    else
      match item, ← item? flags after with
      | .inl first, (.inl last, rest) => return (← between? flags first last, rest)
      | _, _ => none
  | _ => return (← alone? flags item, rest)

/-- The sets of ASCII characters with a name of their own. -/
def named? (name : String) : Option CharSet :=
  let lower := CharSet.range 'a' 'z'
  let upper := CharSet.range 'A' 'Z'
  let decimal := CharSet.range '0' '9'
  match name with
  | "alnum" => some (.union (.union lower upper) decimal)
  | "alpha" => some (.union lower upper)
  | "ascii" => some (.range '\x00' '\x7f')
  | "blank" => some (.union (.single ' ') (.single '\t'))
  | "cntrl" => some (.union (.range '\x00' '\x1f') (.single '\x7f'))
  | "digit" => some decimal
  | "graph" => some (.range '!' '~')
  | "lower" => some lower
  | "print" => some (.range ' ' '~')
  | "punct" =>
    some (.diff (.range '!' '~') (.union (.union lower upper) decimal))
  | "space" => some (.union (.range '\t' '\r') (.single ' '))
  | "upper" => some upper
  | "word" => some (.union (.union (.union lower upper) decimal) (.single '_'))
  | "xdigit" => some (.union (.union (.range 'a' 'f') (.range 'A' 'F')) decimal)
  | _ => none

/-- The characters outside a set, which are not of ASCII alone. -/
def outside? (flags : Flags) (set : CharSet) : Option CharSet :=
  if flags.ascii then none else some set.complement

/-- A named set after its opening bracket, such as `:alpha:]` or its complement `:^alpha:]`. -/
def namedSet? : List Char → Option (CharSet × Bool × List Char)
  | ':' :: rest => do
    let negated := rest.head? == some '^'
    let name := (if negated then rest.drop 1 else rest).takeWhile Char.isAlpha
    let set ← named? (String.ofList name)
    match rest.drop (name.length + if negated then 1 else 0) with
    | ':' :: ']' :: rest => return (set, negated, rest)
    | _ => none
  | _ => none

mutual

/-- The items of a set up to its end. `fuel` bounds the number of items, of which there are no more
than characters. -/
def items? (flags : Flags) (fuel : Nat) (before : Option (Char × NestedSet))
    (items : List NestedSet) (text : List Char) : Option (NestedSet × List Char) :=
  match fuel with
  | 0 => none
  | fuel + 1 =>
    let joined := NestedSet.join before (.union items)
    match flags.skip text with
    | [] => none
    | ']' :: rest => some (joined, rest)
    | '&' :: '&' :: rest => items? flags fuel (some ('&', joined)) [] rest
    | '-' :: '-' :: rest => items? flags fuel (some ('-', joined)) [] rest
    | '~' :: '~' :: rest => items? flags fuel (some ('~', joined)) [] rest
    | '[' :: inner =>
      match namedSet? inner with
      | some (set, negated, rest) => do
        let set := flags.close set
        let set ← if negated then outside? flags set else some set
        items? flags fuel before (items ++ [{ set }]) rest
      | none => do
        let (item, rest) ← set? flags fuel inner
        items? flags fuel before (items ++ [item]) rest
    | text => do
      let (set, rest) ← range? flags text
      items? flags fuel before (items ++ [{ set }]) rest

/-- A set in brackets after the opening one. Dashes at its start and a bracket right at its start
stand for themselves. -/
def set? (flags : Flags) (fuel : Nat) (text : List Char) : Option (NestedSet × List Char) :=
  match fuel with
  | 0 => none
  | fuel + 1 => do
    let text := flags.skip text
    let negated := text.head? == some '^'
    let text := if negated then flags.skip (text.drop 1) else text
    let (dashes, text) := flags.takeAll (· == '-') text
    let bracket := dashes.isEmpty && text.head? == some ']'
    let first := dashes ++ if bracket then [']'] else []
    let (inner, rest) ← items? flags fuel none
      (first.map fun c => { set := flags.close (.single c) })
      (if bracket then text.drop 1 else text)
    let set ← if negated then outside? flags inner.set else some inner.set
    return ({ set, depth := inner.depth + 1 }, rest)

end

end Bracket

end GivenWhenThen.Pattern
