import GivenWhenThen.Run

/-! Running the stages of a run from given progress. A stage that goes on after another one takes
over its result and its progress, unless that one has ended with an error. -/

namespace GivenWhenThen.Stage

variable {σ ε κ α β : Type} {p q : Progress σ ε κ}

theorem run_get : (get : Stage σ ε κ (Progress σ ε κ)).run p = (.ok p, p) := rfl

theorem run_liftExcept (result : Except Error α) :
    (liftExcept result : Stage σ ε κ α).run p = (result, p) := by
  cases result <;> rfl

theorem run_use (interaction : Interaction ε κ) (f : σ → σ) :
    (use interaction f).run p = (.ok (), ⟨f p.state, p.interactions ++ [interaction]⟩) := rfl

section Bind

variable {x : Stage σ ε κ α} {f : α → Stage σ ε κ β}

theorem run_bind : (x >>= f).run p = (ExceptT.bindCont f (x.run p).1).run (x.run p).2 := rfl

theorem run_bind_of_ok {v : α} (h : x.run p = (.ok v, q)) : (x >>= f).run p = (f v).run q := by
  rw [run_bind, h]
  rfl

theorem run_bind_of_error {error : Error} (h : x.run p = (.error error, q)) :
    (x >>= f).run p = (.error error, q) := by
  rw [run_bind, h]
  rfl

end Bind

section Call

variable [Timer σ] {settings : Settings} {phase : Phase} {interaction : Interaction ε κ}
  {task : σ → Task σ α} {next : σ}

/-- A call that is done in time. -/
theorem run_call_of_some {v : α}
    (h : (task p.state).within (settings.limit p.state) = (next, some v)) :
    (call settings phase interaction task).run p =
      (.ok v, ⟨next, p.interactions ++ [interaction]⟩) := by
  rw [call, run_bind_of_ok run_get, h]
  rfl

/-- A call that is not done in time. -/
theorem run_call_of_none
    (h : (task p.state).within (settings.limit p.state) = (next, none)) :
    (call settings phase interaction task).run p =
      (.error (.timeout phase.text settings.timeout), ⟨next, p.interactions ++ [interaction]⟩) := by
  rw [call, run_bind_of_ok run_get, h]
  rfl

end Call

end GivenWhenThen.Stage
