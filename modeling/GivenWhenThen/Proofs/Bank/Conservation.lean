import Mathlib.Algebra.Ring.Int.Defs
import GivenWhenThen.Bank.Basic
import GivenWhenThen.Proofs.OrderedMap

/-! The money of a bank. `Bank.funds` is what the events of an account add up to exactly. A bank
that panics when an amount goes out of range, and gets through, has computed what is exact, and so
does a bank that is built otherwise. `dispatch_cases` says all that one command can do; from it
`Balanced` follows by induction on the commands, those that the bank rejects included, and `Settles`
for each further command. By `conservation` this holds of a bank from the seeding of its history on.
-/

namespace GivenWhenThen

namespace Streams

variable {ε : Type} (streams : Streams ε) {id other : StreamId} (events : List ε)

theorem get?_append_of_ne (h : other ≠ id) :
    (streams.append id events).get? other = streams.get? other := by
  rw [append, OrderedMap.get?_alter, if_neg h]

theorem events_append_self :
    (streams.append id events).events id = streams.events id ++ events := by
  rw [Streams.events, append, OrderedMap.get?_alter, if_pos rfl]
  rfl

end Streams

namespace Bank

/-- What an event adds to the balance of its account exactly. -/
def Event.worth : Event → Int
  | opened _ => 0
  | deposited amount => amount.toInt
  | withdrawn amount => -amount.toInt

/-- What the events of an account add up to exactly. -/
def funds (bank : Bank) (account : StreamId) : Int :=
  ((bank.history.events account ++ bank.published.events account).map Event.worth).sum

namespace Command

/-- The account that a command is about. -/
def account : Command → StreamId
  | deposit account _ | withdraw account _ => account

def isWithdrawal : Command → Bool
  | deposit _ _ => false
  | withdraw _ _ => true

/-- The event that a command publishes if it is carried out. -/
def event (fee : Int64) : Command → Event
  | deposit _ amount => .deposited amount
  | withdraw _ amount => .withdrawn (amount + fee)

/-- What a command deposits to an account. -/
def deposited (account : StreamId) : Command → Int
  | deposit id amount => if id = account then amount.toInt else 0
  | withdraw _ _ => 0

/-- What a command takes from an account if it is carried out, the fee included. -/
def charged (fee : Int64) (account : StreamId) : Command → Int
  | deposit _ _ => 0
  | withdraw id amount => if id = account then amount.toInt + fee.toInt else 0

end Command

/-- The bank behind commands, one after the other, unless one of them panics. -/
def after (build : Build) (bank : Bank) : List Command → Option Bank
  | [] => some bank
  | command :: rest => do (← bank.dispatch build command).1.after build rest

/-- Those of the commands, one after the other, that the bank carries out. -/
def accepted (build : Build) (bank : Bank) : List Command → List Command
  | [] => []
  | command :: rest =>
    match bank.dispatch build command with
    | some (next, .ok ()) => command :: next.accepted build rest
    | some (next, .error _) => next.accepted build rest
    | none => []

/-- The bank as it is once it has been prepared for a run and seeded with a history. -/
def seeded (bank : Bank) (given : Streams Event) : Bank :=
  { bank with history := given, published := ∅ }

/-- What a bank does to carry out a command. -/
structure CarriesOut (bank : Bank) (command : Command) (next : Bank) : Prop where
  history : next.history = bank.history
  published : next.published.events command.account =
    bank.published.events command.account ++ [command.event bank.fees.withdrawal]
  worth : (command.event bank.fees.withdrawal).worth =
    command.deposited command.account - command.charged bank.fees.withdrawal command.account
  others : ∀ other, other ≠ command.account → next.published.get? other = bank.published.get? other
  fee : next.fees.withdrawal = bank.fees.withdrawal
  collected : next.fees.collected.toInt =
    bank.fees.collected.toInt + if command.isWithdrawal then bank.fees.withdrawal.toInt else 0

/-- The balances that do not overflow are exact, and those that the bank computes. -/
def Computes (build : Build) (bank : Bank) : Prop :=
  ∀ account balance, bank.balance .checked account = some balance →
    balance.toInt = bank.funds account ∧ bank.balance build account = some balance

/-- The books of the bank behind commands, against those of the bank before. -/
structure Balanced (build : Build) (bank : Bank) (commands : List Command) (final : Bank) :
    Prop where
  reached : bank.after build commands = some final
  computes : final.Computes build
  history : final.history = bank.history
  funds : ∀ account, final.funds account =
    bank.funds account + (commands.map (Command.deposited account)).sum -
      ((bank.accepted build commands).map (Command.charged bank.fees.withdrawal account)).sum
  fee : final.fees.withdrawal = bank.fees.withdrawal
  collected : final.fees.collected.toInt =
    bank.fees.collected.toInt +
      bank.fees.withdrawal.toInt * (bank.accepted build commands).countP Command.isWithdrawal

/-- How a bank answers a command. -/
structure Settles (build : Build) (bank : Bank) (command : Command) (next : Bank)
    (result : Except Fault Unit) : Prop where
  answers : bank.dispatch build command = some (next, result)
  computes : next.Computes build
  rejects_iff : ∀ account amount, command = .withdraw account amount →
    ((∃ fault, result = .error fault) ↔
      bank.funds account < amount.toInt + bank.fees.withdrawal.toInt)
  rejected : ∀ fault, result = .error fault →
    next = bank ∧
    ∃ account amount balance requested, command = .withdraw account amount ∧
      fault = .insufficientFunds balance requested ∧ balance.toInt = bank.funds account ∧
      requested.toInt = amount.toInt + bank.fees.withdrawal.toInt
  accepted : result = .ok () →
    bank.CarriesOut command next ∧
    ∀ other, other ≠ command.account → next.funds other = bank.funds other
  covered : ∀ account amount, command = .withdraw account amount → result = .ok () →
    0 ≤ next.funds account
  solvent : (∀ account amount, command = .deposit account amount → 0 ≤ amount.toInt) →
    ∀ account, 0 ≤ bank.funds account → 0 ≤ next.funds account

/-! ### Arithmetic in range -/

namespace Build

variable {exact : Int} {wrapped a b c : Int64}

theorem result_checked_eq_some_iff :
    checked.result exact wrapped = some c ↔ Fits exact ∧ wrapped = c := by
  rw [result]
  split_ifs with h <;> simp [h]

theorem result_of_fits (build : Build) (h : Fits exact) :
    build.result exact wrapped = some wrapped := by
  cases build with
  | checked => exact if_pos h
  | wrapping => rfl

theorem bmod_eq_of_fits (h : Fits exact) : exact.bmod Int64.size = exact := by
  obtain ⟨hleast, hmost⟩ := h
  rw [Int64.toInt_minValue] at hleast
  rw [Int64.toInt_maxValue] at hmost
  exact Int.bmod_eq_of_le (by simp only [Int64.size]; omega) (by simp only [Int64.size]; omega)

/-- An addition that does not overflow is exact, and the same however the program is built. -/
theorem add_of_checked (h : checked.add a b = some c) :
    a + b = c ∧ c.toInt = a.toInt + b.toInt ∧ ∀ build : Build, build.add a b = some c := by
  obtain ⟨hfits, rfl⟩ := result_checked_eq_some_iff.1 h
  exact ⟨rfl, (Int64.toInt_add a b).trans (bmod_eq_of_fits hfits),
    fun build => result_of_fits build hfits⟩

theorem neg_of_checked (h : checked.neg a = some c) :
    c.toInt = -a.toInt ∧ ∀ build : Build, build.neg a = some c := by
  obtain ⟨hfits, rfl⟩ := result_checked_eq_some_iff.1 h
  exact ⟨(Int64.toInt_neg a).trans (bmod_eq_of_fits hfits),
    fun build => result_of_fits build hfits⟩

end Build

namespace Event

variable {event : Event} {events : List Event} {sum c : Int64}

theorem effect_of_checked (h : event.effect .checked = some c) :
    c.toInt = event.worth ∧ ∀ build, event.effect build = some c := by
  cases event with
  | opened owner =>
    cases h
    exact ⟨rfl, fun _ => rfl⟩
  | deposited amount =>
    cases h
    exact ⟨rfl, fun _ => rfl⟩
  | withdrawn amount => exact Build.neg_of_checked h

theorem sumFrom_of_checked (h : sumFrom .checked sum events = some c) :
    c.toInt = sum.toInt + (events.map worth).sum ∧ ∀ build, sumFrom build sum events = some c := by
  induction events generalizing sum with
  | nil =>
    cases h
    exact ⟨by simp, fun _ => rfl⟩
  | cons event events ih =>
    obtain ⟨effect, heffect, h⟩ := Option.bind_eq_some_iff.1 h
    obtain ⟨next, hnext, h⟩ := Option.bind_eq_some_iff.1 h
    obtain ⟨hworth, heffects⟩ := effect_of_checked heffect
    obtain ⟨-, hsum, hadds⟩ := Build.add_of_checked hnext
    obtain ⟨htotal, hsums⟩ := ih h
    refine ⟨?_, fun build => ?_⟩
    · rw [htotal, hsum, hworth, List.map_cons, List.sum_cons]
      omega
    · exact Option.bind_eq_some_iff.2
        ⟨effect, heffects build, Option.bind_eq_some_iff.2 ⟨next, hadds build, hsums build⟩⟩

theorem exists_sumFrom_wrapping (sum : Int64) (events : List Event) :
    ∃ c, sumFrom .wrapping sum events = some c := by
  induction events generalizing sum with
  | nil => exact ⟨sum, rfl⟩
  | cons event events ih => cases event <;> exact ih _

end Event

variable {bank next final : Bank} {command : Command} {commands : List Command}
  {answer : Bank × Except Fault Unit} {account : StreamId} {balance : Int64}

/-- A balance that does not overflow is exact, and the same however the program is built. -/
theorem balance_of_checked (h : bank.balance .checked account = some balance) :
    balance.toInt = bank.funds account ∧ ∀ build, bank.balance build account = some balance := by
  obtain ⟨htotal, hsums⟩ := Event.sumFrom_of_checked h
  refine ⟨?_, hsums⟩
  rw [htotal, funds]
  exact Int.zero_add _

theorem computes (build : Build) (bank : Bank) : bank.Computes build := by
  intro account balance hbalance
  obtain ⟨hexact, hbalances⟩ := balance_of_checked hbalance
  exact ⟨hexact, hbalances build⟩

theorem funds_eq_add (bank : Bank) (account : StreamId) :
    bank.funds account = ((bank.history.events account).map Event.worth).sum +
      ((bank.published.events account).map Event.worth).sum := by
  rw [funds, List.map_append, List.sum_append]

/-! ### One command -/

theorem Command.effects_eq_zero (fee : Int64) (h : account ≠ command.account) :
    command.deposited account = 0 ∧ command.charged fee account = 0 := by
  cases command <;> simp_all [deposited, charged, Command.account, eq_comm]

theorem carriesOut_deposit (account : StreamId) (amount : Int64) :
    bank.CarriesOut (.deposit account amount) (bank.publish account (.deposited amount)) where
  history := rfl
  published := Streams.events_append_self _ _
  worth := by simp [Command.event, Event.worth, Command.deposited, Command.charged, Command.account]
  others _ h := Streams.get?_append_of_ne _ _ h
  fee := rfl
  collected := (Int.add_zero _).symm

theorem carriesOut_withdraw {account : StreamId} {amount requested collected : Int64}
    (hrequested : Build.checked.add amount bank.fees.withdrawal = some requested)
    (hcollected : Build.checked.add bank.fees.collected bank.fees.withdrawal = some collected) :
    bank.CarriesOut (.withdraw account amount)
      ({ bank with fees.collected := collected }.publish account (.withdrawn requested)) := by
  obtain ⟨rfl, hexact, -⟩ := Build.add_of_checked hrequested
  obtain ⟨-, hcollects, -⟩ := Build.add_of_checked hcollected
  refine ⟨rfl, Streams.events_append_self _ _, ?_,
    fun _ hother => Streams.get?_append_of_ne _ _ hother, rfl, hcollects⟩
  simp [Command.event, Event.worth, Command.deposited, Command.charged, Command.account, hexact]

/-- A command that does not overflow is carried out, or it is a withdrawal that the balance does not
cover and changes nothing. -/
theorem dispatch_cases (h : bank.dispatch .checked command = some answer) :
    (answer.2 = .ok () ∧ bank.CarriesOut command answer.1 ∧
      ∀ account amount, command = .withdraw account amount →
        amount.toInt + bank.fees.withdrawal.toInt ≤ bank.funds account) ∨
    ∃ account amount balance requested, command = .withdraw account amount ∧
      balance.toInt = bank.funds account ∧
      requested.toInt = amount.toInt + bank.fees.withdrawal.toInt ∧
      balance.toInt < requested.toInt ∧
      answer = (bank, .error (.insufficientFunds balance requested)) := by
  cases command with
  | deposit account amount =>
    cases h
    exact .inl ⟨rfl, carriesOut_deposit account amount, nofun⟩
  | withdraw account amount =>
    obtain ⟨balance, hbalance, h⟩ := Option.bind_eq_some_iff.1 h
    obtain ⟨requested, hrequested, h⟩ := Option.bind_eq_some_iff.1 h
    have hfunds := (balance_of_checked hbalance).1
    have hexact := (Build.add_of_checked hrequested).2.1
    split_ifs at h with hlt
    · cases h
      exact .inr ⟨account, amount, balance, requested, rfl, hfunds, hexact,
        Int64.lt_iff_toInt_lt.1 hlt, rfl⟩
    · obtain ⟨collected, hcollected, h⟩ := Option.bind_eq_some_iff.1 h
      cases h
      refine .inl ⟨rfl, carriesOut_withdraw hrequested hcollected, ?_⟩
      rintro _ _ ⟨⟩
      have hle := Int.not_lt.1 (mt Int64.lt_iff_toInt_lt.2 hlt)
      rwa [hexact, hfunds] at hle

/-- A command that does not overflow does the same however the bank is built. -/
theorem dispatch_of_checked (build : Build) (h : bank.dispatch .checked command = some answer) :
    bank.dispatch build command = some answer := by
  cases command with
  | deposit account amount => exact h
  | withdraw account amount =>
    obtain ⟨balance, hbalance, h⟩ := Option.bind_eq_some_iff.1 h
    obtain ⟨requested, hrequested, h⟩ := Option.bind_eq_some_iff.1 h
    refine Option.bind_eq_some_iff.2 ⟨balance, (balance_of_checked hbalance).2 build, ?_⟩
    refine Option.bind_eq_some_iff.2 ⟨requested, (Build.add_of_checked hrequested).2.2 build, ?_⟩
    split_ifs at h ⊢ with hlt
    · exact h
    · obtain ⟨collected, hcollected, h⟩ := Option.bind_eq_some_iff.1 h
      exact Option.bind_eq_some_iff.2
        ⟨collected, (Build.add_of_checked hcollected).2.2 build, h⟩

/-- A bank that wraps amounts around answers every command. -/
theorem exists_dispatch_wrapping (bank : Bank) (command : Command) :
    ∃ answer, bank.dispatch .wrapping command = some answer := by
  cases command with
  | deposit account amount => exact ⟨_, rfl⟩
  | withdraw account amount =>
    obtain ⟨balance, hbalance⟩ := Event.exists_sumFrom_wrapping 0
      (bank.history.events account ++ bank.published.events account)
    rw [dispatch, Bank.balance, hbalance]
    by_cases hlt : balance < amount + bank.fees.withdrawal
    · exact ⟨_, if_pos hlt⟩
    · exact ⟨_, if_neg hlt⟩

theorem CarriesOut.funds (h : bank.CarriesOut command next) (account : StreamId) :
    next.funds account =
      bank.funds account + command.deposited account -
        command.charged bank.fees.withdrawal account := by
  rw [funds_eq_add, funds_eq_add, h.history]
  by_cases hother : account = command.account
  · rw [hother, h.published, List.map_append, List.sum_append, List.map_singleton,
      List.sum_singleton, h.worth]
    omega
  · obtain ⟨hdeposited, hcharged⟩ := Command.effects_eq_zero bank.fees.withdrawal hother
    have hevents : next.published.events account = bank.published.events account :=
      congrArg (·.getD []) (h.others account hother)
    rw [hevents, hdeposited, hcharged]
    omega

section Settles

variable {build : Build}

theorem CarriesOut.settles (h : bank.CarriesOut command next)
    (hanswers : bank.dispatch build command = some (next, .ok ()))
    (hcovered : ∀ account amount, command = .withdraw account amount →
      amount.toInt + bank.fees.withdrawal.toInt ≤ bank.funds account) :
    bank.Settles build command next (.ok ()) where
  answers := hanswers
  computes := Bank.computes build _
  rejects_iff account amount hcommand := by
    have hle := hcovered account amount hcommand
    exact ⟨nofun, fun hlt => absurd hlt (Int.not_lt.2 hle)⟩
  rejected := nofun
  accepted _ := by
    refine ⟨h, fun other hother => ?_⟩
    obtain ⟨hdeposited, hcharged⟩ := Command.effects_eq_zero bank.fees.withdrawal hother
    rw [h.funds, hdeposited, hcharged]
    omega
  covered := by
    rintro account amount rfl -
    have hle := hcovered account amount rfl
    rw [h.funds, Command.deposited, Command.charged, if_pos rfl]
    omega
  solvent hdeposits account hfunds := by
    rw [h.funds]
    cases command with
    | deposit id amount =>
      have hamount := hdeposits id amount rfl
      simp only [Command.deposited, Command.charged]
      split <;> omega
    | withdraw id amount =>
      have hle := hcovered id amount rfl
      simp only [Command.deposited, Command.charged]
      split
      · next hid =>
        subst hid
        omega
      · omega

theorem settles_of_lt {account : StreamId} {amount balance requested : Int64}
    (hanswers : bank.dispatch build (.withdraw account amount) =
      some (bank, .error (.insufficientFunds balance requested)))
    (hbalance : balance.toInt = bank.funds account)
    (hrequested : requested.toInt = amount.toInt + bank.fees.withdrawal.toInt)
    (hlt : balance.toInt < requested.toInt) :
    bank.Settles build (.withdraw account amount) bank
      (.error (.insufficientFunds balance requested)) where
  answers := hanswers
  computes := Bank.computes build _
  rejects_iff := by
    rintro _ _ ⟨⟩
    rw [hbalance, hrequested] at hlt
    exact ⟨fun _ => hlt, fun _ => ⟨_, rfl⟩⟩
  rejected := by
    rintro _ ⟨⟩
    exact ⟨rfl, account, amount, balance, requested, rfl, rfl, hbalance, hrequested⟩
  accepted := nofun
  covered := nofun
  solvent _ _ hfunds := hfunds

theorem settles_of_checked (build : Build) {result : Except Fault Unit}
    (hanswer : bank.dispatch .checked command = some (next, result)) :
    bank.Settles build command next result := by
  have hanswers := dispatch_of_checked build hanswer
  rcases dispatch_cases hanswer with ⟨hok, hout, hcovered⟩ |
    ⟨account, amount, balance, requested, rfl, hbalance, hrequested, hlt, heq⟩
  · obtain rfl : result = .ok () := hok
    exact hout.settles hanswers hcovered
  · cases heq
    exact settles_of_lt hanswers hbalance hrequested hlt

end Settles

/-! ### All commands -/

theorem after_cons {build : Build} {result : Except Fault Unit}
    (h : bank.dispatch build command = some (next, result)) :
    bank.after build (command :: commands) = next.after build commands := by
  rw [after, h]
  rfl

theorem accepted_of_ok {build : Build} (commands : List Command)
    (h : bank.dispatch build command = some (next, .ok ())) :
    bank.accepted build (command :: commands) = command :: next.accepted build commands := by
  rw [Bank.accepted, h]

theorem accepted_of_error {build : Build} (commands : List Command) {fault : Fault}
    (h : bank.dispatch build command = some (next, .error fault)) :
    bank.accepted build (command :: commands) = next.accepted build commands := by
  rw [Bank.accepted, h]

theorem Balanced.nil (build : Build) (bank : Bank) : bank.Balanced build [] bank where
  reached := rfl
  computes := Bank.computes build bank
  history := rfl
  funds account := by simp [Bank.accepted]
  fee := rfl
  collected := by simp [Bank.accepted]

section Cons

variable {build : Build} (hrest : next.Balanced build commands final)
include hrest

theorem Balanced.cons_of_ok (hanswers : bank.dispatch build command = some (next, .ok ()))
    (hout : bank.CarriesOut command next) : bank.Balanced build (command :: commands) final where
  reached := (after_cons hanswers).trans hrest.reached
  computes := hrest.computes
  history := hrest.history.trans hout.history
  funds account := by
    rw [accepted_of_ok commands hanswers, hrest.funds, hout.funds, hout.fee, List.map_cons,
      List.map_cons, List.sum_cons, List.sum_cons]
    omega
  fee := hrest.fee.trans hout.fee
  collected := by
    rw [accepted_of_ok commands hanswers, hrest.collected, hout.collected, hout.fee,
      List.countP_cons]
    cases command.isWithdrawal with
    | true =>
      simp only [if_true, Int.natCast_add, Int.mul_add]
      omega
    | false => simp only [Bool.false_eq_true, if_false, Nat.add_zero, Int.add_zero]

/-- The bank behind a rejected command is the one before. -/
theorem Balanced.cons_of_error {amount : Int64} {fault : Fault}
    (hanswers : next.dispatch build (.withdraw account amount) = some (next, .error fault)) :
    next.Balanced build (.withdraw account amount :: commands) final where
  reached := (after_cons hanswers).trans hrest.reached
  computes := hrest.computes
  history := hrest.history
  funds other := by
    rw [accepted_of_error commands hanswers, hrest.funds, List.map_cons, List.sum_cons,
      Command.deposited, Int.zero_add]
  fee := hrest.fee
  collected := by rw [accepted_of_error commands hanswers, hrest.collected]

end Cons

theorem balanced_of_checked (build : Build) (h : bank.after .checked commands = some final) :
    bank.Balanced build commands final := by
  induction commands generalizing bank with
  | nil =>
    cases h
    exact .nil build _
  | cons command commands ih =>
    obtain ⟨⟨next, result⟩, hanswer, h⟩ := Option.bind_eq_some_iff.1 h
    have hanswers := dispatch_of_checked build hanswer
    rcases dispatch_cases hanswer with ⟨hok, hout, -⟩ | ⟨account, amount, _, _, rfl, -, -, -, heq⟩
    · obtain rfl : result = .ok () := hok
      exact (ih h).cons_of_ok hanswers hout
    · cases heq
      exact (ih h).cons_of_error hanswers

/-- A bank that is prepared for a run and seeded with a history has the fees of before and the money
of the history. Whatever commands it is given, as long as none of them makes an amount go out of
range, the books are balanced behind them, however the bank is built. How it answers one more
command depends on the balance alone: a withdrawal is rejected just if the balance does not cover it
with its fee, an accepted command is one event on its own account, and only a deposit of less than
nothing can overdraw an account. -/
theorem conservation (build : Build) (faultName : String) (bank : Bank) (given : Streams Event) :
    (((adapter build faultName).beforeTest { bank }).andThen fun prepared _ =>
      (adapter build faultName).seed given prepared) =
        .done { bank := bank.seeded given } (.ok ()) ∧
    (bank.seeded given).fees = bank.fees ∧
    (∀ account,
      (bank.seeded given).funds account = ((given.events account).map Event.worth).sum) ∧
    ∀ commands final, (bank.seeded given).after .checked commands = some final →
      (bank.seeded given).Balanced build commands final ∧
      ∀ command next result, final.dispatch .checked command = some (next, result) →
        final.Settles build command next result := by
  refine ⟨rfl, rfl, fun account => ?_, fun commands final h => ⟨balanced_of_checked build h, ?_⟩⟩
  · rw [funds_eq_add]
    exact Int.add_zero _
  · exact fun command next result hanswer => settles_of_checked build hanswer

/-- Of ten in an account, seven can be withdrawn for a fee of one, and then nothing more. -/
theorem conservation_withdrawing :
    let seeded := Bank.seeded { fees := { withdrawal := 1 } }
      (Streams.append ∅ "acc-1" [.opened "ada", .deposited 10])
    let withdraw (amount : Int64) : Command := .withdraw "acc-1" amount
    let final : Bank :=
      { seeded with
        published := Streams.append ∅ "acc-1" [.withdrawn 8]
        fees := { withdrawal := 1, collected := 1 } }
    seeded.Balanced .wrapping [withdraw 7] final ∧
      final.Settles .wrapping (withdraw 2) final (.error (.insufficientFunds 2 3)) := by
  intro seeded withdraw final
  obtain ⟨-, -, -, hcommands⟩ := conservation .wrapping "Bank.Fault"
    { fees := { withdrawal := 1 } } (Streams.append ∅ "acc-1" [.opened "ada", .deposited 10])
  obtain ⟨hbalanced, hsettles⟩ := hcommands [withdraw 7] final (by decide)
  exact ⟨hbalanced, hsettles (withdraw 2) final _ (by decide)⟩

end Bank

end GivenWhenThen
