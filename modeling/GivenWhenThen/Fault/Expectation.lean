import GivenWhenThen.Fault.Message

/-! What is expected of the error that a command returns. -/

namespace GivenWhenThen

/-- A type of errors: what tells it apart from all other types, and the name that diagnostics print,
which several types may have. -/
structure FaultType where
  id : Nat
  name : String
deriving DecidableEq, Repr

/-- How errors are told apart and shown: those of the type `own`, which commands return, and the
errors of any types behind them. -/
structure FaultView (χ : Type) where
  own : FaultType
  /-- What tells the type of an error apart from all other types. -/
  typeId : χ → Nat
  message : χ → String
  dump : χ → String
  /-- The error that caused an error, if there is one. -/
  source : χ → Option χ
  /-- Behind each error there are finitely many others. -/
  finite : WellFounded fun cause fault => source fault = some cause

/-- An error, the error that caused it, and so on up to the one without a cause. -/
def FaultView.chain {χ : Type} (view : FaultView χ) (fault : χ) : List χ :=
  fault ::
    match _h : view.source fault with
    | none => []
    | some cause => view.chain cause
termination_by view.finite.wrap fault

inductive FaultExpectation (χ : Type) where
  /-- The message matches. -/
  | message (expected : MessageMatch)
  /-- The condition holds. -/
  | condition (holds : χ → Bool)
  /-- The error is of the type. -/
  | isType (type : FaultType)
  /-- The error is of the type, and the condition holds. -/
  | isTypeAnd (type : FaultType) (holds : χ → Bool)
  /-- The error or one behind it is of the type. -/
  | causedBy (type : FaultType)

namespace FaultExpectation

variable {χ : Type} (view : FaultView χ)

/-- The message does not match. -/
def unexpectedMessage (expected : MessageMatch) (fault : χ) : Error :=
  .assertionFailed <|
    "Error with unexpected message was returned.\nError message assertion of type " ++
      expected.kind ++ " failed.\nExpected: " ++ expected.expected ++ "\nActual: " ++
      view.message fault ++ "\nReturned error:\n" ++ view.dump fault

/-- The condition does not hold. -/
def unmetCondition (fault : χ) : Error :=
  .assertionFailed <|
    "Unexpected error was returned. Returned error did not match specified condition.\n" ++
      "Returned error:\n" ++ view.dump fault

/-- The error is not of the type. What is shown is the type of all errors that commands return. -/
def unexpectedType (type : FaultType) : Error :=
  .assertionFailed <|
    "Error of unexpected type was returned.\nExpected: " ++ type.name ++ ".\nActual: " ++
      view.own.name ++ "."

/-- Neither the error nor one behind it is of the type. -/
def unexpectedCauses (type : FaultType) (fault : χ) : Error :=
  .assertionFailed <|
    "Returned error was not caused by the expected type.\nExpected: " ++ type.name ++
      ".\nError chain:\n" ++
      "\n".intercalate ((view.chain fault).map fun e => "- " ++ view.message e)

/-- Nothing if the error is as expected, and otherwise an assertion failure that says how it
differs. -/
def check (expectation : FaultExpectation χ) (fault : χ) : Except Error Unit :=
  match expectation with
  | message expected =>
    if expected.holds (view.message fault) then .ok ()
    else .error (unexpectedMessage view expected fault)
  | condition holds => if holds fault then .ok () else .error (unmetCondition view fault)
  | isType type => if view.typeId fault = type.id then .ok () else .error (unexpectedType view type)
  | isTypeAnd type holds =>
    if view.typeId fault ≠ type.id then .error (unexpectedType view type)
    else if holds fault then .ok () else .error (unmetCondition view fault)
  | causedBy type =>
    if (view.chain fault).any fun e => view.typeId e == type.id then .ok ()
    else .error (unexpectedCauses view type fault)

def dump : FaultExpectation χ → String
  | message expected => Dump.call "Message" [expected.dump]
  | condition _ => Dump.partialRecord "Condition" []
  | isType type => Dump.call "Is" [Dump.text type.name]
  | isTypeAnd type _ => Dump.partialRecord "IsAnd" [("type_name", Dump.text type.name)]
  | causedBy type => Dump.call "CausedBy" [Dump.text type.name]

end FaultExpectation

end GivenWhenThen
