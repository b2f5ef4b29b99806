import GivenWhenThen.Bank.Basic
import GivenWhenThen.Pattern.Reader
import GivenWhenThen.Run

/-! A walk through four scenarios on one bank. The last one fails on purpose and shows its report.
-/

namespace GivenWhenThen.Bank

abbrev BankScenario := Scenario Event Command Fault Fees

/-- The name under which diagnostics show the errors of the bank. -/
def faultName : String := "Bank.Fault"

namespace Walkthrough

def deposit : BankScenario :=
  [.given (.default "given") [.opened "ada"],
   .command (.deposit "acc-1" 10),
   .one (.default "then") (.deposited 10)].foldl Scenario.add (.forStream "acc-1")

def withdrawal : BankScenario :=
  [.arrange fun fees => { fees with withdrawal := 1 },
   .given (.default "given") [.opened "ada", .deposited 20],
   .command (.deposit "acc-1" 5),
   .command (.withdraw "acc-1" 9),
   .without (.default "then_not") [fun event => event.label == "Withdrawn"],
   .one (.default "then") (.withdrawn 10),
   .checkNow fun fees => .ofBool (fees.collected == 1)].foldl Scenario.add (.forStream "acc-1")

def rejection : BankScenario :=
  [.given (.default "given") [.opened "grace", .deposited 3],
   .command (.withdraw "acc-2" 4),
   .fault (.isType (Fault.type faultName)),
   .fault (.message (.contains "insufficient funds")),
   .faultPattern "requested 4$"].foldl Scenario.add (.forStream "acc-2")

def transfer : BankScenario :=
  [.given (.named "acc-1") [.opened "ada", .deposited 50],
   .given (.named "acc-2") [.opened "grace"],
   .command (.withdraw "acc-1" 30),
   .command (.deposit "acc-2" 20),
   .one (.named "acc-1") (.withdrawn 30),
   .one (.named "acc-2") (.deposited 30)].foldl Scenario.add .forMany

/-- Runs a scenario with the settings that runs have if nothing else is said. -/
def run (scenario : BankScenario) (bank : Bank) : Ended Hosted Event Command :=
  scenario.run (adapter .checked faultName) {} .json { bank }

/-- What the walkthrough has printed so far, and the bank. -/
structure State where
  bank : Bank := {}
  printed : List String := []

abbrev Step := ExceptT Error (StateM State)

def print (text : String) : Step Unit := modify fun s => { s with printed := s.printed ++ [text] }

/-- Runs a scenario and keeps the bank. -/
def runStep (scenario : BankScenario) : Step (Except Error Unit) := do
  let ended := run scenario (← get).bank
  modify fun s => { s with bank := ended.state.bank }
  return ended.result

/-- Runs a scenario that must hold. -/
def expectSuccess (title : String) (scenario : BankScenario) : Step Unit := do
  print title
  liftExcept (← runStep scenario)
  print "  passed"

def steps : Step Unit := do
  print "=== Given/When/Then Demonstration ===\n"
  expectSuccess "--- Scenario 1: Deposit after opening ---" deposit
  expectSuccess "\n--- Scenario 2: Withdrawal fee and exclusions ---" withdrawal
  modify fun s => { s with bank := { s.bank with fees := {} } }
  expectSuccess "\n--- Scenario 3: Rejected withdrawal ---" rejection
  print "\n--- Scenario 4: Transfer across streams (fails on purpose) ---"
  match ← runStep transfer with
  | .error (.assertionFailed report) => print report
  | .error error => print ("  unexpected outcome: " ++ Dump.call "Err" [error.dump])
  | .ok () => print "  unexpected outcome: Ok(())"

/-- The result of the walkthrough and the texts it prints, each on lines of its own. -/
def outcome : Except Error Unit × List String :=
  let (result, state) := steps.run {}
  (result, state.printed)

end Walkthrough

end GivenWhenThen.Bank
