import GivenWhenThen.Task

/-! Calls under a clock. `Task.runUntil` runs a call from a time on until a timer ends it at a
deadline. A call that is due right at the deadline is polled before the timer. To run a call within
a limit is to run it until that much later, by `within_eq`, whatever the time is when it starts. -/

namespace GivenWhenThen

namespace Duration

variable {d d' : Duration}

theorem le_iff : d ≤ d' ↔ d.nanoseconds ≤ d'.nanoseconds := Iff.rfl

theorem lt_iff : d < d' ↔ d.nanoseconds < d'.nanoseconds := Iff.rfl

theorem nanoseconds_add : (d + d').nanoseconds = d.nanoseconds + d'.nanoseconds := rfl

theorem nanoseconds_sub : (d - d').nanoseconds = d.nanoseconds - d'.nanoseconds := rfl

end Duration

namespace Task

variable {σ τ α β : Type}

/-- The call with what `f` makes of its result. -/
def map (f : α → β) (task : Task σ α) : Task σ β := task.andThen fun s a => done s (f a)

/-- Runs the call from the time `now` on until the deadline, and gives the time when it ends. The
result is missing if it was the timer that ended it. -/
def runUntil (deadline now : Nat) : Task σ α → Nat × σ × Option α
  | done s a => (now, s, some a)
  | wait s delay rest =>
    if now + delay.nanoseconds ≤ deadline then
      rest.runUntil deadline (now + delay.nanoseconds)
    else (deadline, s, none)
  | stuck s => (deadline, s, none)

variable {task : Task σ α} {deadline now : Nat} {limit length : Duration}

theorem within_map (f : α → β) :
    (task.map f).within limit = ((task.within limit).1, (task.within limit).2.map f) := by
  induction task generalizing limit with
  | done s a => rfl
  | wait s delay rest ih =>
    rw [map, andThen, within, within]
    split
    · exact ih
    · rfl
  | stuck s => rfl

/-- The state behind the call is the part of the whole that the call has brought about. -/
theorem within_mapState (f : σ → τ) :
    (task.mapState f).within limit = (f (task.within limit).1, (task.within limit).2) := by
  induction task generalizing limit with
  | done s a => rfl
  | wait s delay rest ih =>
    rw [mapState, within, within]
    split
    · exact ih
    · rfl
  | stuck s => rfl

theorem within_eq (now : Nat) :
    task.within limit = (task.runUntil (now + limit.nanoseconds) now).2 := by
  induction task generalizing limit now with
  | done s a => rfl
  | wait s delay rest ih =>
    rw [within, runUntil]
    by_cases h : delay ≤ limit
    · have hle := Duration.le_iff.1 h
      have hdeadline : now + delay.nanoseconds + (limit - delay).nanoseconds =
          now + limit.nanoseconds := by
        rw [Duration.nanoseconds_sub]
        omega
      rw [if_pos h, if_pos (by omega), ih (now + delay.nanoseconds), hdeadline]
    · rw [if_neg h, if_neg (fun hle => h (Nat.le_of_add_le_add_left hle))]
  | stuck s => rfl

/-- A call that has its result by the deadline is run to its end. -/
theorem runUntil_of_le (h : task.duration? = some length)
    (hle : now + length.nanoseconds ≤ deadline) :
    ∃ final result,
      task.runUntil deadline now = (now + length.nanoseconds, final, some result) := by
  induction task generalizing now length with
  | done s a =>
    cases h
    exact ⟨s, a, rfl⟩
  | wait s delay rest ih =>
    obtain ⟨left, hleft, rfl⟩ := Option.map_eq_some_iff.1 h
    rw [Duration.nanoseconds_add, ← Nat.add_assoc] at hle ⊢
    rw [runUntil, if_pos (by omega)]
    exact ih hleft hle
  | stuck s => cases h

/-- A call that does not have its result by the deadline is ended there. -/
theorem runUntil_of_lt (hnow : now ≤ deadline)
    (h : ∀ length, task.duration? = some length → deadline < now + length.nanoseconds) :
    ∃ final, task.runUntil deadline now = (deadline, final, none) := by
  induction task generalizing now with
  | done s a =>
    have hlate : deadline < now + 0 := h ⟨0⟩ rfl
    omega
  | wait s delay rest ih =>
    rw [runUntil]
    split
    · next hle =>
      refine ih hle fun left hleft => ?_
      have hlate := h (delay + left) (by rw [duration?, hleft]; rfl)
      rw [Duration.nanoseconds_add] at hlate
      omega
    · exact ⟨s, rfl⟩
  | stuck s => exact ⟨s, rfl⟩

end Task

end GivenWhenThen
