import GivenWhenThen.Dump
import GivenWhenThen.Duration

/-! The errors of building and running a scenario, and their messages. -/

namespace GivenWhenThen

/-- A fault reported by a serializer or an adapter. Two faults are the same only if they are the
same occurrence, whatever their texts. -/
structure Cause where
  text : String
  occurrence : Nat := 0
deriving DecidableEq, Repr

/-- What an engine says against a pattern, and the text that shows it. -/
structure PatternError where
  text : String
  dump : String
deriving DecidableEq, Repr

inductive Error where
  /-- A chain with rules was told to expect no events. -/
  | noneWithRules
  /-- A rule was added to a chain that expects no events. -/
  | ruleAfterNone
  /-- A gap was added right after a gap. -/
  | consecutiveGaps
  /-- A chain without rules was executed. -/
  | emptyChain
  /-- A block was given no events. -/
  | emptyBlock
  /-- A step named no stream in a scenario without a default stream. -/
  | missingStream (method : String)
  /-- The pattern of an error message does not compile. -/
  | invalidPattern (cause : PatternError)
  /-- An expectation did not hold. -/
  | assertionFailed (text : String)
  /-- An event could not be serialized. -/
  | serialization (cause : Cause)
  /-- The adapter failed. -/
  | adapter (cause : Cause)
  /-- The adapter did not complete a phase in time. -/
  | timeout (phase : String) (bound : Duration)
deriving DecidableEq, Repr

namespace Error

def message : Error → String
  | noneWithRules => "Cannot set None if there are other rules defined."
  | ruleAfterNone => "Cannot add any rule if None is set."
  | consecutiveGaps => "Cannot add two consecutive negative rules (then_any or then_not)."
  | emptyChain => "Cannot assert without at least one rule defined."
  | emptyBlock => "Expected events collection is empty."
  | missingStream method =>
    "Scenario was created with Scenario::for_many(), pass a stream id to " ++ method ++
      "_on(...) or create the scenario with Scenario::for_stream(stream_id)."
  | invalidPattern cause => "Invalid error message pattern: " ++ cause.text
  | assertionFailed text => "\n" ++ text
  | serialization cause => "Serialization error: " ++ cause.text
  | adapter cause => "Adapter error: " ++ cause.text
  | timeout phase bound => "Adapter did not complete " ++ phase ++ " within " ++ bound.text

/-- The scenario or a chain was built wrongly. -/
def isConstruction : Error → Bool
  | noneWithRules | ruleAfterNone | consecutiveGaps | emptyChain | emptyBlock => true
  | missingStream _ | invalidPattern _ => true
  | assertionFailed _ | serialization _ | adapter _ | timeout _ _ => false

def isAssertion : Error → Bool
  | assertionFailed _ => true
  | _ => false

/-- The error was caused by another one. -/
def hasCause : Error → Bool
  | invalidPattern _ | serialization _ | adapter _ => true
  | _ => false

def dump : Error → String
  | noneWithRules => "NoneWithRules"
  | ruleAfterNone => "RuleAfterNone"
  | consecutiveGaps => "ConsecutiveNegativeRules"
  | emptyChain => "EmptyChain"
  | emptyBlock => "EmptyExpectedEvents"
  | missingStream method => Dump.call "MissingStreamId" [Dump.text method]
  | invalidPattern cause => Dump.call "InvalidPattern" [cause.dump]
  | assertionFailed text => Dump.call "AssertionFailed" [Dump.text text]
  | serialization cause => Dump.call "Serialization" [Dump.text cause.text]
  | adapter cause => Dump.call "Adapter" [Dump.text cause.text]
  | timeout phase bound => Dump.call "AdapterTimeout" [Dump.text phase, bound.text]

end Error

end GivenWhenThen
