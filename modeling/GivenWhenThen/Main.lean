import GivenWhenThen.Bank.Walkthrough

/-! The command line prints the walkthrough of the bank. -/

open GivenWhenThen

def main : IO UInt32 := do
  let (result, printed) := Bank.Walkthrough.outcome
  for text in printed do
    IO.println text
  match result with
  | .ok () => return 0
  | .error error =>
    IO.eprintln ("Error: " ++ error.dump)
    return 1
