import GivenWhenThen.Proofs.Chain.Correspondence
import GivenWhenThen.Proofs.Run.Acceptance

/-! What the chains of a scenario have to do with each other, and with the events of streams that
have none, where no error is expected. Two runs are compared whose calls are answered alike, except
that the published events may differ: `Mirrors` relates their systems, `follow_mirrors` their calls
one by one, and `run_mirrors` the runs. By `stream_independence`, the order of the chains and the
events of streams without a chain decide nothing, and each chain is executed for itself. -/

namespace GivenWhenThen

variable {σ σ' ε κ χ ς : Type}

namespace Answer

/-- The same answer, or published events that are the same on some streams. -/
inductive Agrees (same : StreamId → Prop) : Answer ε χ → Answer ε χ → Prop
  | refl (answer : Answer ε χ) : Agrees same answer answer
  | published {streams streams' : Streams ε}
      (events : ∀ id, same id → streams'.events id = streams.events id) :
      Agrees same (.published streams) (.published streams')

variable {same : StreamId → Prop} {answer answer' : Answer ε χ}

theorem Agrees.symm (h : Agrees same answer answer') : Agrees same answer' answer := by
  cases h with
  | refl => exact .refl answer
  | published events => exact .published fun id hid => (events id hid).symm

/-- Answers that agree are both published events, or they are the same. -/
theorem Agrees.published_or_eq (h : Agrees same answer answer') :
    (∃ streams streams', answer = .published streams ∧ answer' = .published streams' ∧
      ∀ id, same id → streams'.events id = streams.events id) ∨
    (∀ streams, answer ≠ .published streams) ∧ answer' = answer := by
  cases h with
  | published events => exact .inl ⟨_, _, rfl, rfl, events⟩
  | refl =>
    cases answer with
    | published streams => exact .inl ⟨streams, streams, rfl, rfl, fun _ _ => rfl⟩
    | _ => exact .inr ⟨nofun, rfl⟩

theorem Agrees.eq_of_ne (h : Agrees same answer answer')
    (hne : ∀ streams, answer ≠ .published streams) : answer' = answer := by
  rcases h.published_or_eq with ⟨streams, _, heq, -⟩ | ⟨-, heq⟩
  · exact absurd heq (hne streams)
  · exact heq

end Answer

namespace Scenario

variable (a : Adapter σ ε κ χ ς) (a' : Adapter σ' ε κ χ ς) (settings : Settings)
  (c : Canonicalizer ε) (s : Scenario ε κ χ ς)

/-- The systems of two runs show errors alike, and take each call of the scenario, also its
arrangements and checks, from related states to related states with answers that agree. -/
structure Mirrors [Timer σ] [Timer σ'] (same : StreamId → Prop) (R : σ → σ' → Prop) :
    Prop where
  faults : a'.faults = a.faults
  call (call : Interaction ε κ) {state : σ} {state' : σ'} (related : R state state') :
    R (s.answer a settings call state).1 (s.answer a' settings call state').1 ∧
      Answer.Agrees same (s.answer a settings call state).2 (s.answer a' settings call state').2

/-- The run publishes events that every chain accepts on its stream. -/
def MeetsChains [Timer σ] (state : σ) : Prop :=
  ∃ streams after, s.Publishes a settings state streams after ∧
    checkStreams settings c streams s.chains = .ok ()

/-- The scenario with other chains. -/
def withChains (chains : List (StreamId × Chain ε)) : Scenario ε κ χ ς := { s with chains }

/-- Whether the chains accept the published events is decided by the streams of `same`, for other
chains in their place too. -/
def Decides (same : StreamId → Prop) (chains : List (StreamId × Chain ε)) : Prop :=
  ∀ streams streams' : Streams ε, (∀ id, same id → streams'.events id = streams.events id) →
    (checkStreams settings c streams' chains = .ok () ↔
      checkStreams settings c streams s.chains = .ok ())

/-- The check of the chains fails on the events of the one run, and that of the other chains on the
events of the other run. -/
structure Rejected (same : StreamId → Prop) (chains : List (StreamId × Chain ε))
    (streams streams' : Streams ε) (error error' : Error) : Prop where
  events : ∀ id, same id → streams'.events id = streams.events id
  fails : checkStreams settings c streams s.chains = .error error
  fails' : checkStreams settings c streams' chains = .error error'

/-- The two runs have the same result, or reports on their published events with the same sections,
which end with the streams that got events. -/
def SameSections [Timer σ] [Timer σ'] (state : σ) (state' : σ') : Prop :=
  (s.run a' settings c state').result = (s.run a settings c state).result ∨
    ∃ streams after streams' after' sections, s.Publishes a settings state streams after ∧
      s.Publishes a' settings state' streams' after' ∧
      List.Forall₂ (Reports c streams settings.separatorWidth) s.chains sections ∧
      List.Forall₂ (Reports c streams' settings.separatorWidth) s.chains sections ∧
      (s.run a settings c state).result = .error (.assertionFailed
        (String.join sections ++ ending settings.separatorWidth streams.nonempty)) ∧
      (s.run a' settings c state').result = .error (.assertionFailed
        (String.join sections ++ ending settings.separatorWidth streams'.nonempty))

/-- The executions on all streams but `id` are the same for both published events, as far as they
are made, and so is the error that ends them, where those on `id` do not. -/
structure Unaffected (id : StreamId) (streams streams' : Streams ε) : Prop where
  executions : ∀ entry ∈ s.chains, entry.1 ≠ id →
    execution c streams' entry = execution c streams entry
  outcomes : ∀ outcomes outcomes', executeAll c streams s.chains = .ok outcomes →
    executeAll c streams' s.chains = .ok outcomes' →
    ∀ (i : Nat) (entry : StreamId × Chain ε), s.chains[i]? = some entry → entry.1 ≠ id →
      outcomes'[i]? = outcomes[i]?
  errors : (∀ entry ∈ s.chains, entry.1 = id → ∃ outcome outcome',
      execution c streams entry = .ok outcome ∧ execution c streams' entry = .ok outcome') →
    ∀ error, executeAll c streams s.chains = .error error ↔
      executeAll c streams' s.chains = .error error

variable {a a' settings c s} {same : StreamId → Prop} {R : σ → σ' → Prop} {state mid after : σ}
  {state' : σ'} {chains : List (StreamId × Chain ε)} {call : Interaction ε κ}
  {calls : List (Interaction ε κ)} {answer answer' : Answer ε χ} {streams streams' : Streams ε}
  {error error' : Error}

/-! ### Calls in a row -/

section Runs

variable [Timer σ] [Timer σ']

theorem Mirrors.symm (h : s.Mirrors a a' settings same R) :
    s.Mirrors a' a settings same fun state' state => R state state' where
  faults := h.faults.symm
  call call _ _ related := ⟨(h.call call related).1, (h.call call related).2.symm⟩

/-- A call that is not for the published events is answered the same in both runs. -/
theorem Mirrors.exists_answer (h : s.Mirrors a a' settings same R) (related : R state state')
    (hanswer : s.answer a settings call state = (mid, answer)) (hcall : call ≠ .published) :
    ∃ mid', s.answer a' settings call state' = (mid', answer) ∧ R mid mid' := by
  obtain ⟨hnext, hagrees⟩ := h.call call related
  have heq := hagrees.eq_of_ne fun _ => answer_ne_published hcall
  rw [hanswer] at hnext heq
  exact ⟨_, Prod.ext rfl heq, hnext⟩

theorem answer_withChains :
    (s.withChains chains).answer a settings call state = s.answer a settings call state := by
  cases call <;> rfl

theorem does_withChains_iff {final : σ} :
    (s.withChains chains).Does a settings calls state final ↔
      s.Does a settings calls state final := by
  induction calls generalizing state with
  | nil => rw [does_nil_iff, does_nil_iff]
  | cons call calls ih => simp only [does_cons_iff, answer_withChains, ih]

theorem publishes_withChains_iff :
    (s.withChains chains).Publishes a settings state streams after ↔
      s.Publishes a settings state streams after := by
  simp only [Publishes, does_withChains_iff, answer_withChains]
  rfl

theorem Does.mirrors (hdoes : s.Does a settings calls state mid)
    (h : s.Mirrors a a' settings same R) (related : R state state') (hcalls : .published ∉ calls) :
    ∃ mid', s.Does a' settings calls state' mid' ∧ R mid mid' := by
  induction calls generalizing state state' with
  | nil =>
    obtain rfl := does_nil_iff.1 hdoes
    exact ⟨state', .nil, related⟩
  | cons call calls ih =>
    obtain ⟨next, hanswer, hrest⟩ := does_cons_iff.1 hdoes
    have hcall : call ≠ .published := fun h => hcalls (h ▸ List.mem_cons_self)
    obtain ⟨next', hanswer', hnext⟩ := h.exists_answer related hanswer hcall
    obtain ⟨mid', hdoes', hmid⟩ := ih hrest hnext fun h => hcalls (List.mem_cons_of_mem _ h)
    exact ⟨mid', does_cons_iff.2 ⟨next', hanswer', hdoes'⟩, hmid⟩

theorem Publishes.mirrors (hpublishes : s.Publishes a settings state streams after)
    (h : s.Mirrors a a' settings same R) (related : R state state') :
    ∃ streams' after', s.Publishes a' settings state' streams' after' ∧
      ∀ id, same id → streams'.events id = streams.events id := by
  obtain ⟨acted, hacts, hanswer⟩ := hpublishes
  obtain ⟨acted', hacts', hacted⟩ := hacts.mirrors h related published_not_mem_acts
  have hagrees := (h.call .published hacted).2
  rw [hanswer] at hagrees
  rcases hanswer' : s.answer a' settings .published acted' with ⟨after', answer'⟩
  rw [hanswer'] at hagrees
  cases hagrees with
  | refl => exact ⟨streams, after', ⟨acted', hacts', hanswer'⟩, fun _ _ => rfl⟩
  | published events => exact ⟨_, after', ⟨acted', hacts', hanswer'⟩, events⟩

theorem meetsChains_iff_mirrors (h : s.Mirrors a a' settings same R) (related : R state state')
    (hdecides : s.Decides settings c same chains) :
    (s.withChains chains).MeetsChains a' settings c state' ↔ s.MeetsChains a settings c state := by
  constructor
  · rintro ⟨streams', after', hpublishes', haccepts'⟩
    obtain ⟨streams, after, hpublishes, hevents⟩ :=
      (publishes_withChains_iff.1 hpublishes').mirrors h.symm related
    have haccepts := (hdecides streams streams' fun id hid => (hevents id hid).symm).1 haccepts'
    exact ⟨streams, after, hpublishes, haccepts⟩
  · rintro ⟨streams, after, hpublishes, haccepts⟩
    obtain ⟨streams', after', hpublishes', hevents⟩ := hpublishes.mirrors h related
    exact ⟨streams', after', publishes_withChains_iff.2 hpublishes',
      (hdecides streams streams' hevents).2 haccepts⟩

/-! ### What the answers mean -/

omit [Timer σ] [Timer σ'] in
theorem judge_withChains (hfaults : s.faults = []) (hview : a'.faults = a.faults)
    (hne : ∀ streams, answer ≠ .published streams) :
    (s.withChains chains).judge a' settings c answer = s.judge a settings c answer := by
  cases answer with
  | done => rfl
  | published streams => exact absurd rfl (hne streams)
  | fault fault => simp [judge, withChains, hfaults, unexpectedFault, hview]
  | failed error => rfl

omit [Timer σ] [Timer σ'] in
/-- Answers that agree mean the same error, or what is said on published events that the chains do
not accept. -/
theorem judge_mirrors (hfaults : s.faults = []) (hview : a'.faults = a.faults)
    (hdecides : s.Decides settings c same chains) (h : Answer.Agrees same answer answer') :
    (s.withChains chains).judge a' settings c answer' = s.judge a settings c answer ∨
      ∃ streams streams' error error', answer = .published streams ∧
        answer' = .published streams' ∧
        s.Rejected settings c same chains streams streams' error error' ∧
        s.judge a settings c answer = some error ∧
        (s.withChains chains).judge a' settings c answer' = some error' := by
  have hfaults' : (s.withChains chains).faults = [] := hfaults
  rcases h.published_or_eq with ⟨streams, streams', rfl, rfl, hevents⟩ | ⟨hne, rfl⟩
  · rw [judge_streams a settings c hfaults, judge_streams a' settings c hfaults']
    cases hfails : checkStreams settings c streams s.chains with
    | ok =>
      have haccepts : checkStreams settings c streams' (s.withChains chains).chains = .ok () :=
        (hdecides streams streams' hevents).2 hfails
      rw [haccepts]
      exact .inl rfl
    | error error =>
      cases hfails' : checkStreams settings c streams' (s.withChains chains).chains with
      | ok =>
        have haccepts := (hdecides streams streams' hevents).1 hfails'
        rw [hfails] at haccepts
        cases haccepts
      | error error' =>
        exact .inr ⟨streams, streams', error, error', rfl, rfl, ⟨hevents, hfails, hfails'⟩, rfl,
          rfl⟩
  · exact .inl (judge_withChains hfaults hview hne)

omit [Timer σ] [Timer σ'] in
theorem goesOn_mirrors (a : Adapter σ ε κ χ ς) (a' : Adapter σ' ε κ χ ς) (hfaults : s.faults = [])
    (hdecides : s.Decides settings c same chains) (h : Answer.Agrees same answer answer') :
    (s.withChains chains).goesOn a' settings c answer' = s.goesOn a settings c answer := by
  have hfaults' : (s.withChains chains).faults = [] := hfaults
  rcases h.published_or_eq with ⟨streams, streams', rfl, rfl, hevents⟩ | ⟨hne, rfl⟩
  · rw [Bool.eq_iff_iff, goesOn, goesOn, Option.isNone_iff_eq_none, Option.isNone_iff_eq_none,
      judge_streams a settings c hfaults, judge_streams a' settings c hfaults',
      failure?_eq_none_iff, failure?_eq_none_iff]
    exact hdecides streams streams' hevents
  · cases answer' with
    | published streams => exact absurd rfl (hne streams)
    | _ => rfl

/-- The two runs make the same calls, whose answers agree. -/
theorem follow_mirrors (hfaults : s.faults = []) (hdecides : s.Decides settings c same chains)
    (h : s.Mirrors a a' settings same R) (related : R state state')
    (plan : List (Interaction ε κ)) :
    List.Forall₂ (fun call call' => call'.1 = call.1 ∧ Answer.Agrees same call.2 call'.2)
        (s.follow a settings c plan state).1
        ((s.withChains chains).follow a' settings c plan state').1 ∧
      R (s.follow a settings c plan state).2
        ((s.withChains chains).follow a' settings c plan state').2 := by
  induction plan generalizing state state' with
  | nil => exact ⟨.nil, related⟩
  | cons call plan ih =>
    obtain ⟨hnext, hagrees⟩ := h.call call related
    have hgo := goesOn_mirrors a a' hfaults hdecides hagrees
    have hsame : (s.withChains chains).answer a' settings call state' =
        s.answer a' settings call state' := answer_withChains
    rw [← hsame] at hnext hagrees hgo
    -- Both runs go on behind answers that agree, or neither does.
    cases hstep : s.goesOn a settings c (s.answer a settings call state).2 with
    | true =>
      obtain ⟨hcalls, hfinal⟩ := ih hnext
      rw [follow_of_goesOn hstep, follow_of_goesOn (hgo.trans hstep)]
      exact ⟨.cons ⟨rfl, hagrees⟩ hcalls, hfinal⟩
    | false =>
      rw [follow_of_not_goesOn hstep, follow_of_not_goesOn (hgo.trans hstep)]
      exact ⟨.cons ⟨rfl, hagrees⟩ .nil, hnext⟩

omit [Timer σ] [Timer σ'] in
/-- Calls whose answers agree mean the same first error, or what is said on published events that
the chains do not accept. -/
theorem verdict_mirrors (hfaults : s.faults = []) (hview : a'.faults = a.faults)
    (hdecides : s.Decides settings c same chains)
    {calls calls' : List (Interaction ε κ × Answer ε χ)}
    (h : List.Forall₂ (fun call call' => call'.1 = call.1 ∧ Answer.Agrees same call.2 call'.2)
      calls calls') :
    (s.withChains chains).verdict a' settings c calls' = s.verdict a settings c calls ∨
      ∃ call streams streams' error error',
        (call, .published streams) ∈ calls ∧ (call, .published streams') ∈ calls' ∧
        s.Rejected settings c same chains streams streams' error error' ∧
        s.verdict a settings c calls = .error error ∧
        (s.withChains chains).verdict a' settings c calls' = .error error' := by
  induction h with
  | nil => exact .inl rfl
  | @cons call call' calls calls' hcall _ ih =>
    obtain ⟨call, answer⟩ := call
    obtain ⟨call', answer'⟩ := call'
    obtain ⟨rfl, hagrees⟩ : call' = call ∧ Answer.Agrees same answer answer' := hcall
    rcases judge_mirrors (a := a) hfaults hview hdecides hagrees with
      hjudge | ⟨streams, streams', error, error', rfl, rfl, hrejected, hjudge, hjudge'⟩
    · cases hanswer : s.judge a settings c answer with
      | none =>
        rw [verdict_cons hanswer, verdict_cons (hjudge.trans hanswer)]
        refine ih.imp_right ?_
        rintro ⟨call, streams, streams', error, error', hmem, hmem', hends⟩
        exact ⟨call, streams, streams', error, error', List.mem_cons_of_mem _ hmem,
          List.mem_cons_of_mem _ hmem', hends⟩
      | some error =>
        rw [verdict_cons_of_some hanswer, verdict_cons_of_some (hjudge.trans hanswer)]
        exact .inl rfl
    · exact .inr ⟨call', streams, streams', error, error', List.mem_cons_self, List.mem_cons_self,
        hrejected, verdict_cons_of_some hjudge, verdict_cons_of_some hjudge'⟩

/-! ### Runs -/

/-- A call that is made comes behind calls that have succeeded. -/
theorem exists_passes_of_mem_follow {plan : List (Interaction ε κ)}
    (h : (call, answer) ∈ (s.follow a settings c plan state).1) :
    ∃ before behind mid, plan = before ++ call :: behind ∧
      s.Passes a settings c before state mid ∧ (s.answer a settings call mid).2 = answer := by
  induction plan generalizing state with
  | nil => cases h
  | cons first plan ih =>
    cases hgo : s.goesOn a settings c (s.answer a settings first state).2 with
    | true =>
      rw [follow_of_goesOn hgo] at h
      rcases List.mem_cons.1 h with heq | hmem
      · cases heq
        exact ⟨[], plan, state, rfl, rfl, rfl⟩
      · obtain ⟨before, behind, mid, rfl, hpasses, hanswer⟩ := ih hmem
        exact ⟨first :: before, behind, mid, rfl, ⟨goesOn_iff.1 hgo, hpasses⟩, hanswer⟩
    | false =>
      rw [follow_of_not_goesOn hgo] at h
      cases List.mem_singleton.1 h
      exact ⟨[], plan, state, rfl, rfl, rfl⟩

theorem exists_publishes_of_mem_follow (hfaults : s.faults = [])
    (hbefore : s.answer a settings .beforeTest state = (mid, .done))
    (h : (call, .published streams) ∈ (s.follow a settings c s.plan mid).1) :
    ∃ after, s.Publishes a settings state streams after := by
  obtain ⟨before, behind, acted, hplan, hpasses, hanswer⟩ := exists_passes_of_mem_follow h
  obtain rfl : call = .published := by
    by_contra hcall
    exact answer_ne_published hcall hanswer
  -- The plan asks for the published events in one place only.
  have hstages : .published ∉ s.stages s.commands.length false 0 := by simp [stages]
  have hchecks : .published ∉
      (List.range s.checks.length).map (.check : Nat → Interaction ε κ) := by simp
  rw [plan_eq hfaults, List.append_cons_inj_of_notMem hstages hchecks] at hplan
  obtain ⟨rfl, -, -⟩ := hplan
  exact ⟨_, acted, does_cons_iff.2 ⟨mid, hbefore, (passes_iff_does hstages).1 hpasses⟩,
    Prod.ext rfl hanswer⟩

/-- The two runs make the same calls, and end in related states and alike, unless the chains accept
the published events in neither run. -/
theorem run_mirrors (hs : s.error = none) (hfaults : s.faults = [])
    (h : s.Mirrors a a' settings same R) (related : R state state')
    (hdecides : s.Decides settings c same chains) :
    ((s.withChains chains).run a' settings c state').interactions =
        (s.run a settings c state).interactions ∧
      R (s.run a settings c state).state ((s.withChains chains).run a' settings c state').state ∧
      (((s.withChains chains).run a' settings c state').result =
          (s.run a settings c state).result ∨
        ∃ streams after streams' after' error error', s.Publishes a settings state streams after ∧
          s.Publishes a' settings state' streams' after' ∧
          s.Rejected settings c same chains streams streams' error error' ∧
          (s.run a settings c state).result = .error error ∧
          ((s.withChains chains).run a' settings c state').result = .error error') := by
  have hs' : (s.withChains chains).error = none := hs
  have hfaults' : (s.withChains chains).faults = [] := hfaults
  obtain ⟨next, prepared, hbefore⟩ := exists_answer_ofResult a settings s .beforeTest state rfl
  obtain ⟨next', hbefore', hnext⟩ := h.exists_answer related hbefore nofun
  cases prepared with
  | error error =>
    rw [run_of_failed hs hbefore, run_of_failed hs' hbefore']
    exact ⟨rfl, hnext, .inl rfl⟩
  | ok =>
    obtain ⟨hcalls, hmid⟩ := follow_mirrors (c := c) hfaults hdecides h hnext s.plan
    rcases hfollow : s.follow a settings c s.plan next with ⟨calls, mid⟩
    rcases hfollow' : (s.withChains chains).follow a' settings c s.plan next' with ⟨calls', mid'⟩
    rw [hfollow, hfollow'] at hcalls hmid
    obtain ⟨final, ending, hafter⟩ := exists_answer_ofResult a settings s .afterTest mid rfl
    obtain ⟨final', hafter', hfinal⟩ := h.exists_answer hmid hafter nofun
    have hinteractions : List.Forall₂ Eq (calls'.map Prod.fst) (calls.map Prod.fst) := by
      rw [List.forall₂_map_left_iff, List.forall₂_map_right_iff]
      exact hcalls.flip.imp fun _ _ hcall => hcall.1
    rw [List.forall₂_eq_eq_eq] at hinteractions
    rw [run_of_prepared hs hbefore hfollow hafter, run_of_prepared hs' hbefore' hfollow' hafter']
    have hlast : (s.withChains chains).verdict a' settings c [(.afterTest, .ofResult ending)] =
        s.verdict a settings c [(.afterTest, .ofResult ending)] := by
      cases ending <;> rfl
    simp only [hinteractions, true_and, verdict_append, hlast]
    refine ⟨hfinal, ?_⟩
    rcases verdict_mirrors hfaults h.faults hdecides hcalls with
      heq | ⟨call, streams, streams', error, error', hmem, hmem', hrejected, hverdict, hverdict'⟩
    · rw [heq]
      exact .inl rfl
    · obtain ⟨after, hpublishes⟩ := exists_publishes_of_mem_follow (c := c) hfaults hbefore
        (hfollow ▸ hmem)
      obtain ⟨after', hpublishes'⟩ := exists_publishes_of_mem_follow (c := c) hfaults' hbefore'
        (hfollow' ▸ hmem')
      refine .inr ⟨streams, after, streams', after', error, error', hpublishes,
        publishes_withChains_iff.1 hpublishes', hrejected, ?_, ?_⟩
      · rw [hverdict]
        rfl
      · rw [hverdict']
        rfl

/-! ### Chains -/

theorem decides_of_perm (hperm : chains.Perm s.chains) (hsame : ∀ entry ∈ s.chains, same entry.1) :
    s.Decides settings c same chains := by
  intro streams streams' hevents
  rw [checkStreams_eq_ok_iff, checkStreams_eq_ok_iff]
  simp only [hperm.mem_iff]
  refine forall₂_congr fun entry hmem => ?_
  rw [hevents entry.1 (hsame entry hmem)]

theorem Rejected.sections (h : s.Rejected settings c same s.chains streams streams' error error')
    (hsame : ∀ entry ∈ s.chains, same entry.1) :
    error' = error ∨ ∃ sections,
      List.Forall₂ (Reports c streams settings.separatorWidth) s.chains sections ∧
      List.Forall₂ (Reports c streams' settings.separatorWidth) s.chains sections ∧
      error = .assertionFailed
        (String.join sections ++ ending settings.separatorWidth streams.nonempty) ∧
      error' = .assertionFailed
        (String.join sections ++ ending settings.separatorWidth streams'.nonempty) := by
  obtain ⟨hevents, hfails, hfails'⟩ := h
  have hall : s.chains.mapM (execution c streams') = s.chains.mapM (execution c streams) :=
    mapM_congr fun entry hmem => execution_congr (hevents entry.1 (hsame entry hmem))
  cases houtcomes : s.chains.mapM (execution c streams) with
  | error failure =>
    rw [checkStreams_of_error houtcomes] at hfails
    rw [checkStreams_of_error (hall.trans houtcomes)] at hfails'
    exact .inl (Except.error.inj (hfails'.symm.trans hfails))
  | ok outcomes =>
    rw [checkStreams_of_outcomes houtcomes] at hfails
    rw [checkStreams_of_outcomes (hall.trans houtcomes)] at hfails'
    split at hfails
    · cases hfails
    · next hsuccess =>
      rw [if_neg hsuccess] at hfails'
      rw [report_eq] at hfails hfails'
      exact .inr ⟨_, forall₂_reports houtcomes, forall₂_reports (hall.trans houtcomes),
        (Except.error.inj hfails).symm, (Except.error.inj hfails').symm⟩

theorem unaffected_of_events {id : StreamId}
    (h : ∀ entry ∈ s.chains, entry.1 ≠ id → streams'.events entry.1 = streams.events entry.1) :
    s.Unaffected c id streams streams' := by
  have hsame : ∀ entry ∈ s.chains, entry.1 ≠ id →
      execution c streams' entry = execution c streams entry :=
    fun entry hmem hne => execution_congr (h entry hmem hne)
  refine ⟨hsame, fun outcomes outcomes' hall hall' i entry hi hne => ?_, fun hends error => ?_⟩
  · have hat := getElem?_of_forall₂ (mapM_eq_ok_iff.1 hall) i
    have hat' := getElem?_of_forall₂ (mapM_eq_ok_iff.1 hall') i
    rw [hi] at hat hat'
    obtain ⟨outcome, houtcome, hexecution⟩ := exists_of_some_rel hat
    obtain ⟨outcome', houtcome', hexecution'⟩ := exists_of_some_rel hat'
    have heq : execution c streams' entry = .ok outcome :=
      (hsame entry (List.mem_of_getElem? hi) hne).trans hexecution
    rw [houtcome, houtcome', Except.ok.inj (hexecution'.symm.trans heq)]
  · have heach : ∀ entry ∈ s.chains, execution c streams entry = execution c streams' entry ∨
        (∃ outcome, execution c streams entry = .ok outcome) ∧
          ∃ outcome, execution c streams' entry = .ok outcome := by
      intro entry hmem
      by_cases hid : entry.1 = id
      · obtain ⟨outcome, outcome', houtcome, houtcome'⟩ := hends entry hmem hid
        exact .inr ⟨⟨outcome, houtcome⟩, outcome', houtcome'⟩
      · exact .inl (hsame entry hmem hid).symm
    exact ⟨mapM_eq_error_congr heach,
      mapM_eq_error_congr fun entry hmem => (heach entry hmem).imp Eq.symm And.symm⟩

/-- What the chains of a scenario have to do with each other, in two runs whose systems mirror each
other but for the published events, where no error is expected. If the events are the same on all
streams with a chain, the order of the chains and the events of the other streams decide neither
whether the chains accept, nor what calls are made, nor any section of a report. If they are the
same on all streams with a chain but one, so are the executions on these streams. -/
theorem stream_independence (hs : s.error = none) (hfaults : s.faults = [])
    (h : s.Mirrors a a' settings same R) (related : R state state') :
    ((∀ entry ∈ s.chains, same entry.1) →
      (∀ chains, chains.Perm s.chains →
        ((s.withChains chains).MeetsChains a' settings c state' ↔
          s.MeetsChains a settings c state) ∧
        (((s.withChains chains).run a' settings c state').result = .ok () ↔
          (s.run a settings c state).result = .ok ()) ∧
        ((s.withChains chains).run a' settings c state').interactions =
          (s.run a settings c state).interactions ∧
        R (s.run a settings c state).state ((s.withChains chains).run a' settings c state').state) ∧
      s.SameSections a a' settings c state state') ∧
    ∀ id, (∀ entry ∈ s.chains, entry.1 ≠ id → same entry.1) →
      ∀ streams after, s.Publishes a settings state streams after →
        ∃ streams' after', s.Publishes a' settings state' streams' after' ∧
          s.Unaffected c id streams streams' := by
  refine ⟨fun hsame => ⟨fun chains hperm => ?_, ?_⟩, fun id hsame streams after hpublishes => ?_⟩
  · have hdecides : s.Decides settings c same chains := decides_of_perm hperm hsame
    obtain ⟨hinteractions, hfinal, hresult⟩ := run_mirrors hs hfaults h related hdecides
    refine ⟨meetsChains_iff_mirrors h related hdecides, ?_, hinteractions, hfinal⟩
    rcases hresult with heq | ⟨_, _, _, _, _, _, -, -, -, hfails, hfails'⟩
    · rw [heq]
    · rw [hfails, hfails']
      exact iff_of_false nofun nofun
  · have hdecides : s.Decides settings c same s.chains := decides_of_perm (.refl _) hsame
    obtain ⟨-, -, hresult⟩ := run_mirrors hs hfaults h related hdecides
    rcases hresult with heq | ⟨streams, after, streams', after', error, error', hpublishes,
      hpublishes', hrejected, hfails, hfails'⟩
    · exact .inl heq
    · rcases hrejected.sections hsame with rfl | ⟨sections, hsections, hsections', rfl, rfl⟩
      · exact .inl (hfails'.trans hfails.symm)
      · exact .inr ⟨streams, after, streams', after', sections, hpublishes, hpublishes', hsections,
          hsections', hfails, hfails'⟩
  · obtain ⟨streams', after', hpublishes', hevents⟩ := hpublishes.mirrors h related
    exact ⟨streams', after', hpublishes', unaffected_of_events fun entry hmem hne =>
      hevents entry.1 (hsame entry hmem hne)⟩

end Runs

/-- A bank that publishes one more event, on the given stream. -/
def opening (id : StreamId) : Adapter Bank.Hosted Bank.Event Bank.Command Bank.Fault Bank.Fees :=
  { Bank.adapter .checked "Fault" with
    published := fun p => .done p (.ok (p.bank.published.append id [.opened "auditor"])) }

theorem mirrors_opening (s : Scenario Bank.Event Bank.Command Bank.Fault Bank.Fees)
    (id : StreamId) : s.Mirrors (Bank.adapter .checked "Fault") (opening id) {} (· ≠ id) Eq where
  faults := rfl
  call := by
    rintro call p _ rfl
    cases call with
    | published =>
      exact ⟨rfl, .published fun _ hne => p.bank.published.events_append_of_ne _ hne⟩
    | _ => exact ⟨rfl, .refl _⟩

/-- A deposit is met on its account, also by a bank that publishes on another stream, and with the
chains the other way around. If it is not expected, the reports have the same sections. An event on
the account leaves the other accounts alone. -/
theorem stream_independence_opening :
    let bank := Bank.adapter .checked "Fault"
    let deposit := depositing (.rules [.block ⟨.asGiven, [.deposited 10]⟩])
    (deposit.withChains deposit.chains.reverse).MeetsChains (opening "audit") {} .byLabel {} ∧
    (depositing .nothing).SameSections bank (opening "audit") {} .byLabel {} {} ∧
    ∃ streams after, deposit.Publishes (opening "acc-1") {} {} streams after ∧
      deposit.Unaffected .byLabel "acc-1" (Bank.publish {} "acc-1" (.deposited 10)).published
        streams := by
  intro bank deposit
  let final : Bank := Bank.publish {} "acc-1" (.deposited 10)
  have hpublishes : deposit.Publishes bank {} {} final.published { bank := final } :=
    ⟨{ bank := final }, .cons rfl (.cons rfl (.cons rfl .nil)), rfl⟩
  have hmeets : deposit.MeetsChains bank {} .byLabel {} :=
    ⟨final.published, { bank := final }, hpublishes, rfl⟩
  have hchains : ∀ entry ∈ deposit.chains, entry.1 ≠ "audit" := by decide
  have hother : ∀ entry ∈ (depositing .nothing).chains, entry.1 ≠ "audit" := by decide
  refine ⟨?_, ?_, ?_⟩
  · exact (((stream_independence rfl rfl (deposit.mirrors_opening "audit") rfl).1 hchains).1 _
      (List.reverse_perm _)).1.2 hmeets
  · exact ((stream_independence rfl rfl (mirrors_opening _ "audit") rfl).1 hother).2
  · exact (stream_independence rfl rfl (deposit.mirrors_opening "acc-1") rfl).2 "acc-1"
      (fun _ _ hne => hne) _ _ hpublishes

end Scenario

end GivenWhenThen
