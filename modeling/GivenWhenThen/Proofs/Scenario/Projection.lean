import Mathlib.Data.List.Nodup
import GivenWhenThen.Scenario
import GivenWhenThen.Proofs.Chain.Building
import GivenWhenThen.Proofs.OrderedMap
import GivenWhenThen.Proofs.Results

/-! Scenarios as they are built. All clauses share one list of chains, one map of histories and one
error, but the chain and the history of a stream depend on the clauses about that stream only:
`Scenario.Describes` says what a scenario holds in terms of `project`, which picks out what is about
one stream, and `describes_build` that it holds of each scenario that clauses build. -/

namespace GivenWhenThen

variable {ε κ χ ς : Type}

/-- What is about the given stream, in order. -/
def project {α : Type} (id : StreamId) (l : List (StreamId × α)) : List α :=
  (l.filter (·.1 = id)).map (·.2)

/-- The stream that a target means in a scenario with the default stream `home`. -/
def Target.resolve (home : Option StreamId) : Target → Except Error StreamId
  | named id => .ok id
  | default method =>
    match home with
    | some id => .ok id
    | none => .error (.missingStream method)

namespace Clause

/-- The history that a clause adds to a stream. -/
def history? (home : Option StreamId) : Clause ε κ χ ς → Option (StreamId × List ε)
  | given target events => (target.resolve home).toOption.map (·, events)
  | _ => none

/-- The step that a clause asks of the chain of a stream. -/
def step? (home : Option StreamId) : Clause ε κ χ ς → Option (StreamId × Chain.Step ε)
  | expect target step => (target.resolve home).toOption.map (·, step)
  | _ => none

def arrangement? : Clause ε κ χ ς → Option (ς → ς)
  | arrange action => some action
  | _ => none

def command? : Clause ε κ χ ς → Option κ
  | command c => some c
  | _ => none

def check? : Clause ε κ χ ς → Option (Check ς)
  | check c => some c
  | _ => none

/-- What a clause expects of the error; nothing if it gives a pattern that does not compile. -/
def fault? [PatternEngine] : Clause ε κ χ ς → Option (FaultExpectation χ)
  | fault expectation => some expectation
  | faultPattern source =>
    match PatternEngine.compile source with
    | .ok occursIn => some (.message (.pattern source occursIn))
    | .error _ => none
  | _ => none

/-- The error with which a clause fails where the streams have the given chains. -/
def error? [PatternEngine] (home : Option StreamId) (chain : StreamId → Chain ε) :
    Clause ε κ χ ς → Option Error
  | given target _ => failure? (target.resolve home)
  | expect target step =>
    match target.resolve home with
    | .ok id => (chain id).refusal? step
    | .error error => some error
  | faultPattern source =>
    match PatternEngine.compile source with
    | .ok _ => none
    | .error cause => some (.invalidPattern cause)
  | arrange _ | command _ | check _ | fault _ => none

end Clause

/-- The methods about the default stream, each of which also exists for a stream that is named. -/
inductive Method (ε : Type) where
  | given (events : List ε)
  | one (event : ε)
  | inOrder (events : List ε)
  | inAnyOrder (events : List ε)
  | without (exclusions : List (Exclusion ε))
  | anything
  | nothing

namespace Method

/-- The name that the error of a missing stream gives. -/
def name : Method ε → String
  | given _ => "given"
  | one _ => "then"
  | inOrder _ => "then_in_order"
  | inAnyOrder _ => "then_in_any_order"
  | without _ => "then_not"
  | anything => "then_any"
  | nothing => "then_none"

/-- The clause of a method about the target. -/
def on (target : Target) : Method ε → Clause ε κ χ ς
  | given events => .given target events
  | one event => .one target event
  | inOrder events => .inOrder target events
  | inAnyOrder events => .inAnyOrder target events
  | without exclusions => .without target exclusions
  | anything => .anything target
  | nothing => .nothing target

/-- The clause of a method about the default stream. -/
def onDefault (method : Method ε) : Clause ε κ χ ς := method.on (.default method.name)

end Method

namespace Scenario

/-- A scenario without clauses, which has a default stream or names its streams. -/
def start : Option StreamId → Scenario ε κ χ ς
  | some id => forStream id
  | none => forMany

/-- The scenario that clauses build. -/
def build [PatternEngine] (home : Option StreamId) (clauses : List (Clause ε κ χ ς)) :
    Scenario ε κ χ ς :=
  clauses.foldl add (start home)

/-- The steps that clauses ask of the chains, each with its stream. -/
def steps (home : Option StreamId) (clauses : List (Clause ε κ χ ς)) :
    List (StreamId × Chain.Step ε) :=
  clauses.filterMap (Clause.step? home)

/-- The histories that clauses add, each with its stream. -/
def histories (home : Option StreamId) (clauses : List (Clause ε κ χ ς)) :
    List (StreamId × List ε) :=
  clauses.filterMap (Clause.history? home)

/-- The chain that the steps of a stream build. -/
def chainOf (home : Option StreamId) (clauses : List (Clause ε κ χ ς)) (id : StreamId) : Chain ε :=
  Chain.build (project id (steps home clauses))

/-- The errors of the clauses that fail. -/
def failures [PatternEngine] (home : Option StreamId) (clauses : List (Clause ε κ χ ς)) :
    List Error :=
  clauses.zipIdx.filterMap fun (clause, i) => clause.error? home (chainOf home (clauses.take i))

/-- What a scenario holds after clauses. -/
structure Describes [PatternEngine] (home : Option StreamId) (clauses : List (Clause ε κ χ ς))
    (s : Scenario ε κ χ ς) : Prop where
  stream : s.stream = home
  /-- The first error stays. -/
  error : s.error = (failures home clauses).head?
  /-- Each stream that a step is about has one chain, which its own steps build; the streams are in
  the order of their first steps. -/
  chains : s.chains = ((steps home clauses).map (·.1)).eraseDups.map fun id =>
    (id, chainOf home clauses id)
  ids : (s.chains.map (·.1)).Nodup
  /-- Each stream that a history is about has all of its histories, one after the other. -/
  given : ∀ id, s.given.get? id =
    if id ∈ (histories home clauses).map (·.1) then
      some (project id (histories home clauses)).flatten
    else none
  arrangements : s.arrangements = clauses.filterMap Clause.arrangement?
  commands : s.commands = clauses.filterMap Clause.command?
  checks : s.checks = clauses.filterMap Clause.check?
  faults : s.faults = clauses.filterMap Clause.fault?

end Scenario

/-! ### Lists of what is about streams -/

section Lists

variable {α β : Type} {l : List (StreamId × α)} {id id' : StreamId} {a : α}

theorem filterMap_append_singleton (f : α → Option β) (l : List α) (a : α) :
    (l ++ [a]).filterMap f = l.filterMap f ++ (f a).toList := by
  rw [List.filterMap_append]
  cases h : f a <;> simp [h]

theorem project_append_singleton :
    project id (l ++ [(id', a)]) = project id l ++ if id' = id then [a] else [] := by
  rw [project, project, List.filter_append, List.map_append]
  by_cases h : id' = id <;> simp [h]

theorem project_eq_nil_iff : project id l = [] ↔ id ∉ l.map (·.1) := by
  simp only [project, List.map_eq_nil_iff, List.filter_eq_nil_iff, decide_eq_true_eq, List.mem_map,
    not_exists, not_and]

theorem eraseDups_append_singleton (ids : List StreamId) (id : StreamId) :
    (ids ++ [id]).eraseDups = if id ∈ ids then ids.eraseDups else ids.eraseDups ++ [id] := by
  rw [List.eraseDups_append]
  by_cases h : id ∈ ids <;> simp [List.removeAll, List.eraseDups_cons, h]

theorem nodup_eraseDups (ids : List StreamId) : ids.eraseDups.Nodup := by
  induction ids using List.reverseRecOn with
  | nil => exact List.nodup_nil
  | append_singleton ids id ih =>
    rw [eraseDups_append_singleton]
    split_ifs with h
    · exact ih
    · rw [← List.concat_eq_append]
      exact ih.concat (mt List.mem_eraseDups.1 h)

end Lists

namespace Scenario

variable {s : Scenario ε κ χ ς} {home : Option StreamId} {clauses : List (Clause ε κ χ ς)}
  {clause : Clause ε κ χ ς} {id : StreamId} {step : Chain.Step ε}

/-! ### The chains of the streams -/

theorem lookup_map (ids : List StreamId) (f : StreamId → Chain ε) (id : StreamId) :
    (ids.map fun j => (j, f j)).lookup id = if id ∈ ids then some (f id) else none := by
  induction ids with
  | nil => rfl
  | cons j ids ih =>
    rw [List.map_cons, OrderedMap.lookup_cons_eq_ite, ih]
    by_cases h : id = j <;> simp [h]

theorem setChain_map (ids : List StreamId) (f : StreamId → Chain ε) (id : StreamId)
    (chain : Chain ε) (h : ids.Nodup) :
    setChain id chain (ids.map fun j => (j, f j)) =
      (if id ∈ ids then ids else ids ++ [id]).map fun j => (j, Function.update f id chain j) := by
  induction ids with
  | nil => simp [setChain]
  | cons j ids ih =>
    obtain ⟨hj, hids⟩ := List.nodup_cons.1 h
    rw [List.map_cons, setChain]
    by_cases heq : j = id
    · subst heq
      have hrest : ∀ k ∈ ids, Function.update f j chain k = f k := by
        rintro k hk
        refine Function.update_of_ne ?_ _ _
        rintro rfl
        exact hj hk
      rw [if_pos rfl, if_pos List.mem_cons_self, List.map_cons, Function.update_self]
      exact congrArg _ (List.map_congr_left fun k hk => by rw [hrest k hk])
    · have hhead : Function.update f id chain j = f j := Function.update_of_ne heq _ _
      rw [if_neg heq, ih hids]
      by_cases hmem : id ∈ ids
      · rw [if_pos hmem, if_pos (List.mem_cons_of_mem _ hmem), List.map_cons, hhead]
      · have hmem' : id ∉ j :: ids := List.not_mem_cons_of_ne_of_not_mem (Ne.symm heq) hmem
        rw [if_neg hmem, if_neg hmem', List.cons_append, List.map_cons, hhead]

theorem steps_append_singleton :
    steps home (clauses ++ [clause]) = steps home clauses ++ (clause.step? home).toList :=
  filterMap_append_singleton _ _ _

theorem histories_append_singleton :
    histories home (clauses ++ [clause]) =
      histories home clauses ++ (clause.history? home).toList :=
  filterMap_append_singleton _ _ _

theorem chainOf_of_step (h : clause.step? home = some (id, step)) :
    chainOf home (clauses ++ [clause]) =
      Function.update (chainOf home clauses) id ((chainOf home clauses id).attempt step) := by
  funext j
  rw [chainOf, steps_append_singleton, h, Option.toList_some, project_append_singleton]
  by_cases heq : id = j
  · subst heq
    rw [if_pos rfl, Chain.build_append_singleton, Function.update_self, chainOf]
  · rw [if_neg heq, List.append_nil, Function.update_of_ne (Ne.symm heq), chainOf]

/-! ### One clause -/

theorem onTarget_eq (target : Target) (f : StreamId → Scenario ε κ χ ς) :
    s.onTarget target f =
      match target.resolve s.stream with
      | .ok id => f id
      | .error error => s.record error := by
  cases target with
  | named id => rfl
  | default method =>
    cases h : s.stream <;> simp [onTarget, Target.resolve, h]

theorem expectOn_eq :
    s.expectOn id step =
      { s with
        chains := setChain id ((s.chain id).attempt step) s.chains
        error := s.error.or ((s.chain id).refusal? step) } := by
  rw [expectOn, Chain.attempt, Chain.refusal?]
  cases (s.chain id).apply step with
  | ok _ next => simp
  | error error next => rfl

variable [PatternEngine]

/-- What a clause does to a scenario. -/
theorem add_eq :
    s.add clause =
      { stream := s.stream
        arrangements := s.arrangements ++ clause.arrangement?.toList
        given := (clause.history? s.stream).elim s.given fun (id, events) =>
          s.given.append id events
        commands := s.commands ++ clause.command?.toList
        chains := (clause.step? s.stream).elim s.chains fun (id, step) =>
          setChain id ((s.chain id).attempt step) s.chains
        checks := s.checks ++ clause.check?.toList
        faults := s.faults ++ clause.fault?.toList
        error := s.error.or (clause.error? s.stream s.chain) } := by
  cases clause <;>
    simp only [add, onTarget_eq, MessageMatch.ofPattern, Clause.history?, Clause.step?,
      Clause.arrangement?, Clause.command?, Clause.check?, Clause.fault?, Clause.error?]
  case given target events =>
    cases target.resolve s.stream <;> simp [Except.toOption, failure?, record]
  case expect target step =>
    cases target.resolve s.stream <;> simp [Except.toOption, record, expectOn_eq]
  case faultPattern source => cases PatternEngine.compile source <;> simp [record]
  all_goals simp

/-! ### All clauses -/

theorem build_append_singleton :
    build home (clauses ++ [clause]) = (build home clauses).add clause := by
  rw [build, List.foldl_append]
  rfl

theorem failures_append_singleton :
    failures home (clauses ++ [clause]) =
      failures home clauses ++ (clause.error? home (chainOf home clauses)).toList := by
  rw [failures, List.zipIdx_append, List.zipIdx_singleton, filterMap_append_singleton, failures]
  congr 1
  · refine List.filterMap_congr fun entry hmem => ?_
    have hlt : entry.2 < clauses.length := by
      simpa using (List.mem_zipIdx hmem).2.1
    simp only [List.take_append_of_le_length hlt.le]
  · simp only [Nat.zero_add, List.take_left]

namespace Describes

variable (h : Describes home clauses s)
include h

theorem chain_eq : s.chain = chainOf home clauses := by
  funext id
  rw [chain, h.chains, lookup_map]
  split_ifs with hmem
  · rfl
  · have hnil : project id (steps home clauses) = [] :=
      project_eq_nil_iff.2 (mt List.mem_eraseDups.2 hmem)
    rw [chainOf, hnil]
    rfl

theorem chains_add :
    (s.add clause).chains =
      ((steps home (clauses ++ [clause])).map (·.1)).eraseDups.map fun id =>
        (id, chainOf home (clauses ++ [clause]) id) := by
  simp only [add_eq, h.stream, steps_append_singleton]
  cases hstep : clause.step? home with
  | none =>
    have hsame : chainOf home (clauses ++ [clause]) = chainOf home clauses := by
      funext id
      rw [chainOf, steps_append_singleton, hstep, Option.toList_none, List.append_nil, chainOf]
    rw [hsame, Option.toList_none, List.append_nil]
    exact h.chains
  | some entry =>
    obtain ⟨id, step⟩ := entry
    simp only [Option.elim_some, Option.toList_some, List.map_append, List.map_singleton]
    rw [h.chains, setChain_map _ _ _ _ (nodup_eraseDups _), eraseDups_append_singleton,
      chainOf_of_step hstep, h.chain_eq]
    simp only [List.mem_eraseDups]

theorem given_add (id : StreamId) :
    (s.add clause).given.get? id =
      if id ∈ (histories home (clauses ++ [clause])).map (·.1) then
        some (project id (histories home (clauses ++ [clause]))).flatten
      else none := by
  simp only [add_eq, h.stream, histories_append_singleton]
  cases hhistory : clause.history? home with
  | none =>
    rw [Option.toList_none, List.append_nil]
    exact h.given id
  | some entry =>
    obtain ⟨target, events⟩ := entry
    have hold : (s.given.get? target).getD [] =
        (project target (histories home clauses)).flatten := by
      rw [h.given]
      split_ifs with hmem
      · rfl
      · rw [project_eq_nil_iff.2 hmem]
        rfl
    simp only [Option.elim_some, Option.toList_some, Streams.append, OrderedMap.get?_alter,
      project_append_singleton, List.map_append, List.map_singleton, List.mem_append,
      List.mem_singleton]
    by_cases heq : id = target
    · subst heq
      simp [hold]
    · rw [if_neg heq, if_neg (Ne.symm heq), List.append_nil, h.given]
      simp only [heq, or_false]

protected theorem add : Describes home (clauses ++ [clause]) (s.add clause) where
  stream := by rw [add_eq, h.stream]
  error := by
    simp only [add_eq, failures_append_singleton, h.error, h.stream, h.chain_eq, List.head?_append]
    cases clause.error? home (chainOf home clauses) <;> rfl
  chains := h.chains_add
  ids := by
    rw [h.chains_add, List.map_map]
    simpa [Function.comp_def] using nodup_eraseDups _
  given := h.given_add
  arrangements := by rw [add_eq, filterMap_append_singleton, h.arrangements]
  commands := by rw [add_eq, filterMap_append_singleton, h.commands]
  checks := by rw [add_eq, filterMap_append_singleton, h.checks]
  faults := by rw [add_eq, filterMap_append_singleton, h.faults]

end Describes

theorem describes_start : Describes home [] (start home : Scenario ε κ χ ς) := by
  cases home <;> exact ⟨rfl, rfl, rfl, List.nodup_nil, fun _ => rfl, rfl, rfl, rfl, rfl⟩

theorem describes_build (home : Option StreamId) (clauses : List (Clause ε κ χ ς)) :
    Describes home clauses (build home clauses) := by
  induction clauses using List.reverseRecOn with
  | nil => exact describes_start
  | append_singleton clauses clause ih =>
    rw [build_append_singleton]
    exact ih.add

/-- An error that is there is not replaced. -/
theorem error_foldl_add {error : Error} (h : s.error = some error) :
    (clauses.foldl add s).error = some error := by
  induction clauses generalizing s with
  | nil => exact h
  | cons clause clauses ih =>
    refine ih ?_
    rw [add_eq, h]
    rfl

/-- A method asks something of the stream of its target, whatever the target is. -/
theorem exists_add_on (s : Scenario ε κ χ ς) (method : Method ε) :
    ∃ f, ∀ target, s.add (method.on target) = s.onTarget target f := by
  cases method <;> exact ⟨_, fun _ => rfl⟩

/-- Scenarios that clauses build, in any order and of any streams, also where some of them fail, and
whichever patterns the engine compiles. Each holds what its clauses say: the first error, which no
later clause replaces, the chains and the histories of the streams, each of which is made of the
clauses about its stream, and the arrangements, commands, checks and expected errors in order. A
method about the default stream does what the method about this stream does, and records that the
stream is missing, and nothing else, where there is no default stream. -/
theorem build_projection :
    (∀ home (clauses : List (Clause ε κ χ ς)), Describes home clauses (build home clauses)) ∧
    (∀ home (clauses later : List (Clause ε κ χ ς)) error,
      (build home clauses).error = some error →
        (build home (clauses ++ later)).error = some error) ∧
    (∀ id (clauses : List (Clause ε κ χ ς)) (method : Method ε),
      build (some id) (clauses ++ [method.onDefault]) =
        build (some id) (clauses ++ [method.on (.named id)])) ∧
    ∀ (clauses : List (Clause ε κ χ ς)) (method : Method ε),
      build none (clauses ++ [method.onDefault]) =
        { build none clauses with
          error := (build none clauses).error.or (some (.missingStream method.name)) } := by
  refine ⟨describes_build, fun home clauses later error h => ?_, fun id clauses method => ?_,
    fun clauses method => ?_⟩
  · rw [build, List.foldl_append]
    exact error_foldl_add h
  · obtain ⟨f, hf⟩ := exists_add_on (build (some id) clauses) method
    rw [build_append_singleton, build_append_singleton, Method.onDefault, hf, hf, onTarget_eq,
      onTarget_eq, (describes_build (some id) clauses).stream]
    rfl
  · obtain ⟨f, hf⟩ := exists_add_on (build none clauses) method
    rw [build_append_singleton, Method.onDefault, hf, onTarget_eq,
      (describes_build none clauses).stream]
    rfl

end Scenario

end GivenWhenThen
