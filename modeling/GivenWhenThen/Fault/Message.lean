import GivenWhenThen.Error
import GivenWhenThen.Dump
import GivenWhenThen.Text.Lowercase

/-! What is expected of the message of an error. What a pattern means and which patterns are valid
is the affair of an engine: a scenario hands patterns over as they are written, and keeps what it is
told. -/

namespace GivenWhenThen

/-- An engine compiles a pattern to a test of the texts in which it occurs, or says what is wrong
with the pattern. -/
class PatternEngine where
  compile : String → Except PatternError (String → Bool)

/-- The whole message or a part of it, both up to case, or a pattern that occurs in it. -/
inductive MessageMatch where
  | equals (expected : String)
  | contains (expected : String)
  | pattern (source : String) (occursIn : String → Bool)

namespace MessageMatch

/-- The match of a written pattern, which the engine must be able to compile. -/
def ofPattern [PatternEngine] (source : String) : Except Error MessageMatch :=
  match PatternEngine.compile source with
  | .ok occursIn => .ok (pattern source occursIn)
  | .error cause => .error (.invalidPattern cause)

def holds : MessageMatch → String → Bool
  | equals expected, actual => Text.equalsIgnoringCase expected actual
  | contains expected, actual => Text.containsIgnoringCase actual expected
  | pattern _ occursIn, actual => occursIn actual

/-- The text or the pattern asked for, as it was written. -/
def expected : MessageMatch → String
  | equals expected | contains expected => expected
  | pattern source _ => source

def kind : MessageMatch → String
  | equals _ => "Equals"
  | contains _ => "Contains"
  | pattern _ _ => "MatchesRegex"

/-- Matches of one kind are the same if they were written the same. -/
def same (a b : MessageMatch) : Bool := a.kind == b.kind && a.expected == b.expected

def dump : MessageMatch → String
  | equals expected => Dump.call "Equals" [Dump.text expected]
  | contains expected => Dump.call "Contains" [Dump.text expected]
  | pattern source _ => Dump.call "Regex" [Dump.call "Regex" [Dump.text source]]

end MessageMatch

end GivenWhenThen
