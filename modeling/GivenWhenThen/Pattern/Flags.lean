import GivenWhenThen.Pattern.CharSet

/-! The flags of a pattern, and the blanks that count for nothing while it is verbose. -/

namespace GivenWhenThen.Pattern

/-- Settings that hold from where they are written to the end of the group around them. -/
structure Flags where
  ignoreCase : Bool := false
  multiLine : Bool := false
  dotAll : Bool := false
  /-- A carriage return ends a line too. -/
  crlf : Bool := false
  /-- Classes, word boundaries and case know ASCII characters only. -/
  ascii : Bool := false
  /-- Blanks and comments count for nothing. -/
  verbose : Bool := false

/-- A change of flags, as `(flag, on)` in the order written. -/
abbrev FlagChange := List (Char × Bool)

namespace Flags

/-- Applies a change. The flag `U`, which swaps short and long matches, plays no part in whether a
pattern matches. -/
def apply (flags : Flags) (change : FlagChange) : Flags :=
  change.foldl (fun flags (letter, on) =>
    match letter with
    | 'i' => { flags with ignoreCase := on }
    | 'm' => { flags with multiLine := on }
    | 's' => { flags with dotAll := on }
    | 'R' => { flags with crlf := on }
    | 'u' => { flags with ascii := !on }
    | 'x' => { flags with verbose := on }
    | _ => flags) flags

def caseRule (flags : Flags) : CaseRule :=
  if flags.ignoreCase then if flags.ascii then .ascii else .unicode else .exact

/-- The characters that count as one of the set. -/
def close (flags : Flags) (set : CharSet) : CharSet := flags.caseRule.close set

/-- Drops blanks, and comments from a `#` to the end of the line. -/
def dropBlanks (inComment : Bool) : List Char → List Char
  | [] => []
  | c :: rest =>
    if inComment then dropBlanks (c != '\n') rest
    else if Unicode.isBlank c then dropBlanks false rest
    else if c == '#' then dropBlanks true rest
    else c :: rest

/-- Drops what counts for nothing at the front of a text. -/
def skip (flags : Flags) (text : List Char) : List Char :=
  if flags.verbose then dropBlanks false text else text

/-- At most `limit` characters for which `p` holds, and the rest of the text. What counts for
nothing may stand after each of them. -/
def takeSome (flags : Flags) (p : Char → Bool) : (limit : Nat) → List Char →
    List Char × List Char
  | limit + 1, c :: rest =>
    if p c then
      let (found, rest) := takeSome flags p limit (flags.skip rest)
      (c :: found, rest)
    else ([], c :: rest)
  | _, text => ([], text)

/-- All characters at the front for which `p` holds, and the rest of the text. -/
def takeAll (flags : Flags) (p : Char → Bool) (text : List Char) : List Char × List Char :=
  flags.takeSome p text.length text

/-- Letters that switch on and, after a dash, letters that switch off. No letter stands twice. -/
def change? (letters : List Char) : Option FlagChange :=
  let isFlag (c : Char) : Bool := "imsRUux".toList.contains c
  let on := letters.takeWhile (· != '-')
  let off := letters.drop (on.length + 1)
  let dashed := on.length < letters.length
  if (on ++ off).all isFlag && (on ++ off).Nodup && !(dashed && off.isEmpty) then
    some (on.map (·, true) ++ off.map (·, false))
  else none

end Flags

end GivenWhenThen.Pattern
