import GivenWhenThen.Proofs.Chain.Window

/-! Two chains one after the other, the first of which ends with a block. The steps of both build
the rules of both, and the rules hold of a stream just if the stream splits in two parts, one for
each chain. `concatenation` also says which of the two is to blame for a mismatch, and what a gap at
the end of a chain allows. -/

namespace GivenWhenThen

variable {ε : Type}

namespace Chain

/-- The execution comes to an end without a mismatch. -/
def Accepts (c : Canonicalizer ε) (stream : StreamId) (chain : Chain ε) (observed : List ε) :
    Prop :=
  ∃ outcome, chain.execute c stream observed = .ok outcome ∧ outcome.isSuccess = true

/-- The execution comes to an end with the mismatch. -/
def Rejects (c : Canonicalizer ε) (stream : StreamId) (chain : Chain ε) (observed : List ε)
    (mismatch : Mismatch) : Prop :=
  ∃ outcome, chain.execute c stream observed = .ok outcome ∧ outcome.mismatch? = some mismatch

variable {c : Canonicalizer ε} {stream : StreamId} {observed : List ε} {l l₁ l₂ : List (Rule ε)}
  {b : Block ε} {steps₁ steps₂ : List (Step ε)} {mismatch : Mismatch} {k : Nat}

/-! ### Building -/

theorem attempt_nothing (step : Step ε) : (nothing : Chain ε).attempt step = nothing := by
  cases step with
  | nothing => rfl
  | block order events => cases events <;> rfl
  | gap exclusions => rfl

/-- A step that pushes a rule adds it, unless it and the last rule are gaps. -/
theorem attempt_of_push {step : Step ε} {rule : Rule ε}
    (h : (rules l).apply step = (push rule).run (rules l)) :
    (rules l).attempt step =
      rules (if rule.isGap && l.getLast?.any Rule.isGap then l else l ++ [rule]) := by
  rw [attempt, h, run_push, isNothing_rules, toList_rules, if_neg Bool.false_ne_true]
  split_ifs <;> rfl

/-- A rule is pushed behind rules that end with a block just as it is without them. -/
theorem attempt_append_of_push (hlast : l₁.getLast? = some (.block b)) {step : Step ε}
    {rule : Rule ε} {l' : List (Rule ε)}
    (hpush : ∀ chain : Chain ε, chain.apply step = (push rule).run chain)
    (h : (rules l).attempt step = rules l') :
    (rules (l₁ ++ l)).attempt step = rules (l₁ ++ l') := by
  have hgap : (l₁ ++ l).getLast?.any Rule.isGap = l.getLast?.any Rule.isGap := by
    rw [List.getLast?_append, hlast]
    cases l.getLast? <;> rfl
  rw [attempt_of_push (hpush _)] at h
  rw [attempt_of_push (hpush _), hgap, ← rules_injective h]
  split
  · rfl
  · rw [List.append_assoc]

/-- A step behind rules that end with a block does what it does without them. -/
theorem attempt_append (hlast : l₁.getLast? = some (.block b)) {step : Step ε} {l' : List (Rule ε)}
    (h : (rules l).attempt step = rules l') :
    (rules (l₁ ++ l)).attempt step = rules (l₁ ++ l') := by
  cases step with
  | nothing =>
    obtain ⟨r₁, rest₁, rfl⟩ := List.exists_cons_of_ne_nil
      (show l₁ ≠ [] by rintro rfl; cases hlast)
    cases l with
    | nil => cases h
    | cons r rest =>
      cases h
      rfl
  | block order events =>
    cases events with
    | nil =>
      cases h
      rfl
    | cons e events =>
      have hpush (chain : Chain ε) : chain.apply (.block order (e :: events)) =
          (push (.block ⟨order, e :: events⟩)).run chain := rfl
      exact attempt_append_of_push hlast hpush h
  | gap exclusions =>
    exact attempt_append_of_push hlast (fun _ => rfl) h

theorem build_append (h₁ : build steps₁ = rules l₁) (hlast : l₁.getLast? = some (.block b))
    (h₂ : build steps₂ = rules l₂) : build (steps₁ ++ steps₂) = rules (l₁ ++ l₂) := by
  induction steps₂ using List.reverseRecOn generalizing l₂ with
  | nil =>
    cases h₂
    rw [List.append_nil, List.append_nil, h₁]
  | append_singleton steps step ih =>
    rw [build, List.foldl_append] at h₂
    rw [build, ← List.append_assoc, List.foldl_append]
    obtain hsteps | ⟨l, hsteps⟩ := (build_wellFormed steps).eq_nothing_or_rules
    · rw [build] at hsteps
      rw [hsteps] at h₂
      cases (attempt_nothing step).symm.trans h₂
    · have ih := ih hsteps
      rw [build] at hsteps ih
      rw [hsteps] at h₂
      rw [ih]
      exact attempt_append hlast h₂

/-! ### Executing -/

theorem accepts_iff (hw : (rules l).WellFormed) (hne : l ≠ [])
    (hexpected : c.Covers (rules l).expected) (hobserved : c.Covers observed) :
    (rules l).Accepts c stream observed ↔
      Position.verdict c.form observed {} l = .ok () := by
  obtain ⟨outcome, hexecute⟩ := execute_isOk stream hw hne hexpected hobserved
  rw [← failure?_eq_none_iff, ← (mismatch?_of_execute hexecute).2]
  simp [Accepts, hexecute, Outcome.isSuccess, Outcome.mismatch?]

theorem rejects_iff (hw : (rules l).WellFormed) (hne : l ≠ [])
    (hexpected : c.Covers (rules l).expected) (hobserved : c.Covers observed) :
    (rules l).Rejects c stream observed mismatch ↔
      Position.verdict c.form observed {} l = .error mismatch := by
  obtain ⟨outcome, hexecute⟩ := execute_isOk stream hw hne hexpected hobserved
  rw [← failure?_eq_some_iff, ← (mismatch?_of_execute hexecute).2]
  simp [Rejects, hexecute]

end Chain

namespace Position

variable {form : ε → Canonical} {observed : List ε} {l l₁ l₂ : List (Rule ε)} {b : Block ε}
  {p : Position ε} {k : Nat}

theorem verdict_append :
    p.verdict form observed (l₁ ++ l₂) =
      p.run form observed l₁ >>= fun next => next.verdict form observed l₂ := by
  rw [verdict, run_append, bind_assoc]
  rfl

/-- A walk over rules that end with a block ends behind the block. -/
theorem exists_of_run_eq_ok (hfilled : ∀ rule ∈ l, rule.Filled)
    (hlast : l.getLast? = some (.block b)) (h : Position.run form observed {} l = .ok p) :
    ∃ k ≤ observed.length, p = ⟨some (.block b), k⟩ := by
  obtain ⟨cursor, placed, rfl⟩ := (run_eq_ok_iff hfilled).1 h
  exact ⟨_, placed.le_length (Nat.le_refl _), by rw [hlast]⟩

/-- Rules that end with a block hold of the events up to `k` just if the walk over all events takes
those and no more. -/
theorem verdict_take_eq_ok_iff (hfilled : ∀ rule ∈ l, rule.Filled)
    (hlast : l.getLast? = some (.block b)) (hk : k ≤ observed.length) :
    Position.verdict form (observed.take k) {} l = .ok () ↔
      Position.run form observed {} l = .ok ⟨some (.block b), k⟩ := by
  rw [verdict, bind_eq_ok_iff]
  constructor
  · rintro ⟨q, hrun, hfinish⟩
    obtain ⟨hall, hle⟩ := (run_take_iff hfilled (Nat.zero_le k)).1 hrun
    obtain ⟨k', -, rfl⟩ := exists_of_run_eq_ok hfilled hlast hall
    have hge : k ≤ k' := by
      have := (finish_eq_ok_iff.1 hfinish).1 b rfl
      rwa [List.length_take, Nat.min_eq_left hk] at this
    obtain rfl : k' = k := Nat.le_antisymm hle hge
    exact hall
  · intro hrun
    refine ⟨_, (run_take_iff hfilled (Nat.zero_le k)).2 ⟨hrun, Nat.le_refl k⟩,
      finish_eq_ok_iff.2 ⟨fun _ _ => List.length_take_le k observed, ?_⟩⟩
    rintro exclusions ⟨⟩

/-- Rules behind a block hold of the events from `k` on just if they hold of the stream that begins
there. -/
theorem verdict_behind (hne : l ≠ []) (hk : k ≤ observed.length) :
    Position.verdict form observed ⟨some (.block b), k⟩ l =
      (Position.verdict form (observed.drop k) {} l).mapError (Mismatch.shift k) :=
  verdict_drop hk hne rfl rfl

end Position

namespace Chain

section Concatenation

variable {c : Canonicalizer ε} {stream : StreamId} {observed : List ε} {l₁ l₂ : List (Rule ε)}
  {b : Block ε} {steps₁ steps₂ : List (Step ε)} {k : Nat}

theorem covers_append (h₁ : c.Covers (rules l₁).expected) (h₂ : c.Covers (rules l₂).expected) :
    c.Covers (rules (l₁ ++ l₂)).expected := by
  rw [Chain.expected, toList_rules, List.flatMap_append]
  exact h₁.append h₂

theorem ne_nil_of_getLast? (hlast : l₁.getLast? = some (.block b)) : l₁ ≠ [] := by
  rintro rfl
  cases hlast

variable (h₁ : build steps₁ = rules l₁) (hlast : l₁.getLast? = some (.block b))
  (hexpected₁ : c.Covers (rules l₁).expected) (hobserved : c.Covers observed)
include h₁ hlast hexpected₁ hobserved

theorem accepts_take_iff (hk : k ≤ observed.length) :
    (rules l₁).Accepts c stream (observed.take k) ↔
      Position.run c.form observed {} l₁ = .ok ⟨some (.block b), k⟩ := by
  have hw : (rules l₁).WellFormed := wellFormed_of_build h₁
  rw [accepts_iff hw (ne_nil_of_getLast? hlast) hexpected₁
    (hobserved.mono fun e => List.mem_of_mem_take)]
  exact Position.verdict_take_eq_ok_iff hw.filled hlast hk

variable (h₂ : build steps₂ = rules l₂) (hne : l₂ ≠ []) (hexpected₂ : c.Covers (rules l₂).expected)
include h₂ hne hexpected₂

omit h₁ hlast hexpected₁ in
theorem accepts_drop_iff (hk : k ≤ observed.length) :
    (rules l₂).Accepts c stream (observed.drop k) ↔
      Position.verdict c.form observed ⟨some (.block b), k⟩ l₂ = .ok () := by
  have hw : (rules l₂).WellFormed := wellFormed_of_build h₂
  rw [accepts_iff hw hne hexpected₂ (hobserved.mono fun e => List.mem_of_mem_drop),
    Position.verdict_behind hne hk, mapError_eq_ok_iff]

omit h₁ hlast hexpected₁ in
theorem verdict_of_rejects_drop {mismatch : Mismatch} (hk : k ≤ observed.length)
    (h : (rules l₂).Rejects c stream (observed.drop k) mismatch) :
    Position.verdict c.form observed ⟨some (.block b), k⟩ l₂ = .error (mismatch.shift k) := by
  have hw : (rules l₂).WellFormed := wellFormed_of_build h₂
  rw [rejects_iff hw hne hexpected₂ (hobserved.mono fun e => List.mem_of_mem_drop)] at h
  rw [Position.verdict_behind hne hk, h]
  rfl

theorem accepts_append_iff_verdict :
    (rules (l₁ ++ l₂)).Accepts c stream observed ↔
      Position.verdict c.form observed {} (l₁ ++ l₂) = .ok () :=
  accepts_iff (wellFormed_of_build (build_append h₁ hlast h₂)) (by simp [hne])
    (covers_append hexpected₁ hexpected₂) hobserved

theorem rejects_append_iff_verdict {mismatch : Mismatch} :
    (rules (l₁ ++ l₂)).Rejects c stream observed mismatch ↔
      Position.verdict c.form observed {} (l₁ ++ l₂) = .error mismatch :=
  rejects_iff (wellFormed_of_build (build_append h₁ hlast h₂)) (by simp [hne])
    (covers_append hexpected₁ hexpected₂) hobserved

/-- The rules of both chains hold of a stream that splits in two parts, one for each chain. -/
theorem accepts_append_iff :
    (rules (l₁ ++ l₂)).Accepts c stream observed ↔
      ∃ k ≤ observed.length, (rules l₁).Accepts c stream (observed.take k) ∧
        (rules l₂).Accepts c stream (observed.drop k) := by
  have hw₁ : (rules l₁).WellFormed := wellFormed_of_build h₁
  rw [accepts_append_iff_verdict h₁ hlast hexpected₁ hobserved h₂ hne hexpected₂,
    Position.verdict_append, bind_eq_ok_iff]
  constructor
  · rintro ⟨p, hrun, hverdict⟩
    obtain ⟨k, hk, rfl⟩ := Position.exists_of_run_eq_ok hw₁.filled hlast hrun
    exact ⟨k, hk, (accepts_take_iff h₁ hlast hexpected₁ hobserved hk).2 hrun,
      (accepts_drop_iff hobserved h₂ hne hexpected₂ hk).2 hverdict⟩
  · rintro ⟨k, hk, htake, hdrop⟩
    exact ⟨_, (accepts_take_iff h₁ hlast hexpected₁ hobserved hk).1 htake,
      (accepts_drop_iff hobserved h₂ hne hexpected₂ hk).1 hdrop⟩

/-- Behind events of which the first rules hold, the other rules are to blame. -/
theorem rejects_append_of_accepts {mismatch : Mismatch} (hk : k ≤ observed.length)
    (htake : (rules l₁).Accepts c stream (observed.take k))
    (hdrop : (rules l₂).Rejects c stream (observed.drop k) mismatch) :
    (rules (l₁ ++ l₂)).Rejects c stream observed (mismatch.shift k) := by
  rw [rejects_append_iff_verdict h₁ hlast hexpected₁ hobserved h₂ hne hexpected₂,
    Position.verdict_append, bind_eq_error_iff]
  exact .inr ⟨_, (accepts_take_iff h₁ hlast hexpected₁ hobserved hk).1 htake,
    verdict_of_rejects_drop hobserved h₂ hne hexpected₂ hk hdrop⟩

/-- Where the first rules hold of no beginning of the stream, they are to blame. -/
theorem rejects_append_of_not_accepts
    (hnone : ∀ k ≤ observed.length, ¬(rules l₁).Accepts c stream (observed.take k)) :
    ∃ mismatch, (rules l₁).Rejects c stream observed mismatch ∧
      (rules (l₁ ++ l₂)).Rejects c stream observed mismatch := by
  have hw₁ : (rules l₁).WellFormed := wellFormed_of_build h₁
  cases hrun : Position.run c.form observed {} l₁ with
  -- A walk that comes through the first rules would make them accept what it has taken.
  | ok p =>
    obtain ⟨k, hk, rfl⟩ := Position.exists_of_run_eq_ok hw₁.filled hlast hrun
    exact absurd ((accepts_take_iff h₁ hlast hexpected₁ hobserved hk).2 hrun) (hnone k hk)
  | error mismatch =>
    refine ⟨mismatch, ?_, ?_⟩
    · rw [rejects_iff hw₁ (ne_nil_of_getLast? hlast) hexpected₁ hobserved, Position.verdict,
        bind_eq_error_iff]
      exact .inl hrun
    · rw [rejects_append_iff_verdict h₁ hlast hexpected₁ hobserved h₂ hne hexpected₂,
        Position.verdict_append, bind_eq_error_iff]
      exact .inl hrun

omit h₂ hne hexpected₂ in
/-- A gap at the end holds of the streams that begin as the rules before ask and have no excluded
event behind that. -/
theorem accepts_append_gap_iff (exclusions : List (Exclusion ε)) :
    (rules (l₁ ++ [.gap exclusions])).Accepts c stream observed ↔
      ∃ k ≤ observed.length, (rules l₁).Accepts c stream (observed.take k) ∧
        NoneExcluded exclusions observed k observed.length := by
  have h₂ : build [.gap exclusions] = rules [.gap exclusions] := rfl
  have hexpected₂ : c.Covers (rules [.gap exclusions]).expected := nofun
  rw [accepts_append_iff h₁ hlast hexpected₁ hobserved h₂ (List.cons_ne_nil _ _) hexpected₂]
  refine exists_congr fun k => and_congr_right fun hk => and_congr_right fun _ => ?_
  rw [accepts_drop_iff (b := b) hobserved h₂ (List.cons_ne_nil _ _) hexpected₂ hk]
  have hverdict : Position.verdict c.form observed ⟨some (.block b), k⟩ [.gap exclusions] =
      Position.finish c.form observed ⟨some (.gap exclusions), k⟩ := rfl
  rw [hverdict, Position.finish_eq_ok_iff]
  constructor
  · exact fun h => h.2 exclusions rfl
  · refine fun h => ⟨nofun, ?_⟩
    rintro _ ⟨⟩
    exact h

end Concatenation

variable {c : Canonicalizer ε} {observed : List ε} {l₁ l₂ : List (Rule ε)} {b : Block ε}
  {steps₁ steps₂ : List (Step ε)}

/-- The steps of two chains, the first of which ends with a block, build one that accepts the
streams with a beginning that the first accepts and a rest that the second accepts. There is one way
to split them. A mismatch is the second chain's if the first accepts what is before, and the first
chain's if it accepts no beginning of the stream. Behind a gap at the end, a stream goes on with any
events that are not excluded, and with any at all if the gap excludes none. -/
theorem concatenation (stream : StreamId)
    (h₁ : build steps₁ = rules l₁) (h₂ : build steps₂ = rules l₂)
    (hlast : l₁.getLast? = some (.block b)) (hne : l₂ ≠ [])
    (hexpected₁ : c.Covers (rules l₁).expected) (hexpected₂ : c.Covers (rules l₂).expected)
    (hobserved : c.Covers observed) :
    build (steps₁ ++ steps₂) = rules (l₁ ++ l₂) ∧
    ((rules (l₁ ++ l₂)).Accepts c stream observed ↔
      ∃ k ≤ observed.length, (rules l₁).Accepts c stream (observed.take k) ∧
        (rules l₂).Accepts c stream (observed.drop k)) ∧
    (∀ k ≤ observed.length, ∀ k' ≤ observed.length, (rules l₁).Accepts c stream (observed.take k) →
      (rules l₁).Accepts c stream (observed.take k') → k = k') ∧
    (∀ k ≤ observed.length, (rules l₁).Accepts c stream (observed.take k) →
      ∀ mismatch, (rules l₂).Rejects c stream (observed.drop k) mismatch →
        (rules (l₁ ++ l₂)).Rejects c stream observed (mismatch.shift k)) ∧
    ((∀ k ≤ observed.length, ¬(rules l₁).Accepts c stream (observed.take k)) →
      ∃ mismatch, (rules l₁).Rejects c stream observed mismatch ∧
        (rules (l₁ ++ l₂)).Rejects c stream observed mismatch) ∧
    (∀ exclusions, build (steps₁ ++ [.gap exclusions]) = rules (l₁ ++ [.gap exclusions]) ∧
      ((rules (l₁ ++ [.gap exclusions])).Accepts c stream observed ↔
        ∃ k ≤ observed.length, (rules l₁).Accepts c stream (observed.take k) ∧
          NoneExcluded exclusions observed k observed.length)) ∧
    ((rules (l₁ ++ [.gap []])).Accepts c stream observed ↔
      ∃ k ≤ observed.length, (rules l₁).Accepts c stream (observed.take k)) := by
  refine ⟨build_append h₁ hlast h₂,
    accepts_append_iff h₁ hlast hexpected₁ hobserved h₂ hne hexpected₂, ?_,
    fun k hk htake mismatch hdrop =>
      rejects_append_of_accepts h₁ hlast hexpected₁ hobserved h₂ hne hexpected₂ hk htake hdrop,
    rejects_append_of_not_accepts h₁ hlast hexpected₁ hobserved h₂ hne hexpected₂,
    fun exclusions => ⟨build_append h₁ hlast rfl,
      accepts_append_gap_iff h₁ hlast hexpected₁ hobserved exclusions⟩, ?_⟩
  · intro k hk k' hk' htake htake'
    have hrun := (accepts_take_iff h₁ hlast hexpected₁ hobserved hk).1 htake
    rw [(accepts_take_iff h₁ hlast hexpected₁ hobserved hk').1 htake'] at hrun
    cases hrun
    rfl
  · rw [accepts_append_gap_iff h₁ hlast hexpected₁ hobserved]
    simp only [noneExcluded_nil, and_true]

/-- An account that is opened, and then a deposit before any withdrawal. -/
theorem concatenation_opened :
    (rules [.block ⟨.asGiven, [Bank.Event.opened "ada"]⟩, .gap [(· == .withdrawn 5)],
      .block ⟨.asGiven, [.deposited 10]⟩]).Rejects .byLabel "acc-1"
      [.opened "ada", .withdrawn 5, .deposited 10] (.excluded 1 1) := by
  have hobserved : Canonicalizer.byLabel.Covers
      [Bank.Event.opened "ada", .withdrawn 5, .deposited 10] := fun _ _ => ⟨_, rfl⟩
  have h₁ : build [.block .asGiven [Bank.Event.opened "ada"]] =
      rules [.block ⟨.asGiven, [.opened "ada"]⟩] := rfl
  have h₂ : build [.gap [(· == Bank.Event.withdrawn 5)], .block .asGiven [.deposited 10]] =
      rules [.gap [(· == .withdrawn 5)], .block ⟨.asGiven, [.deposited 10]⟩] := rfl
  have h := concatenation "acc-1" h₁ h₂ rfl (by simp) (fun _ _ => ⟨_, rfl⟩) (fun _ _ => ⟨_, rfl⟩)
    hobserved
  exact h.2.2.2.1 1 (by decide) ⟨_, rfl, rfl⟩ (.excluded 1 0) ⟨_, rfl, rfl⟩

end Chain

end GivenWhenThen
