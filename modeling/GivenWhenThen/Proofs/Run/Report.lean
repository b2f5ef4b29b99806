import GivenWhenThen.Proofs.Chain.Concatenation
import GivenWhenThen.Proofs.OrderedMap
import GivenWhenThen.Run

/-! What a run makes of the published events of all streams. It executes every chain, also behind
one that does not accept its events, and reports on all of them if there is such a one. By
`checkStreams_of_rejected` the report has one section for each chain, and ends with the streams that
got events. -/

namespace GivenWhenThen

/-! ### The text of a report -/

/-- The line between the sections of a report. -/
def separator (width : Nat) : String := String.ofList (List.replicate width '-')

/-- How the section of a report for a stream begins. -/
def heading (width : Nat) (stream : StreamId) : String :=
  separator width ++ "\nRESULT FOR STREAM: " ++ stream ++ "\n\n"

/-- How a report ends where these streams got events. -/
def ending (width : Nat) (withEvents : List StreamId) : String :=
  separator width ++ "\n" ++
    (if withEvents.isEmpty then "No events were published to any stream.\n"
    else "Events were published to the following streams:\n" ++
      String.join (withEvents.map fun id => "- " ++ id ++ "\n")) ++
    separator width ++ "\n"

variable {ε : Type} {c : Canonicalizer ε} {streams : Streams ε} {width : Nat}

theorem report_eq (outcomes : List Outcome) (withEvents : List StreamId) (width : Nat) :
    report outcomes withEvents width =
      String.join (outcomes.map (Outcome.reportText (separator width))) ++
        ending width withEvents := by
  simp only [ending, ← String.append_assoc]
  rfl

theorem lt_length_append {a b : String} {n : Nat} (h : n < a.length) : n < (a ++ b).length := by
  rw [String.length_append]
  omega

theorem Mismatch.lt_length_text (mismatch : Mismatch) (stream : StreamId)
    (published : List Canonical) : 3 < (mismatch.text stream published).length := by
  cases mismatch with
  | notEmpty =>
    have h : 3 < "No events expected.\n".length := by decide
    exact lt_length_append (lt_length_append (lt_length_append h))
  | excluded =>
    have h : 3 < "Expected not to find any event matching ".length := by decide
    iterate 7 apply lt_length_append
    exact h
  | missed =>
    have h : 3 < "Expected following events ".length := by decide
    iterate 5 apply lt_length_append
    exact h

/-- A diagnostic is too long to look like the section of a chain that accepts. -/
theorem Mismatch.text_ne_ok (mismatch : Mismatch) (stream : StreamId) (published : List Canonical) :
    mismatch.text stream published ≠ "OK\n" := by
  intro h
  have hlength := mismatch.lt_length_text stream published
  rw [h] at hlength
  exact absurd hlength (by decide)

/-! ### The section of a stream -/

/-- The execution of a chain against the published events of its stream. -/
def execution (c : Canonicalizer ε) (streams : Streams ε) (entry : StreamId × Chain ε) :
    Except Error Outcome :=
  entry.2.execute c entry.1 (streams.events entry.1)

/-- The section for a chain, with its heading and below it `OK` just if the chain accepts the events
of its stream, and otherwise the message of the execution. -/
def Reports (c : Canonicalizer ε) (streams : Streams ε) (width : Nat) (entry : StreamId × Chain ε)
    (text : String) : Prop :=
  ∃ outcome body, execution c streams entry = .ok outcome ∧ text = heading width entry.1 ++ body ∧
    (body = "OK\n\n" ↔ outcome.isSuccess = true) ∧
    ∀ message, outcome.message? = some message → body = message ++ "\n"

theorem outcome_of_execute {chain : Chain ε} {stream : StreamId} {observed : List ε}
    {outcome : Outcome} (h : chain.execute c stream observed = .ok outcome) :
    outcome.stream = stream ∧
      ∀ mismatch message, outcome.failure = some (mismatch, message) →
        ∃ published, message = mismatch.text stream published := by
  obtain ⟨-, -, h⟩ := bind_eq_ok_iff.1 h
  obtain ⟨mismatch?, -, h⟩ := bind_eq_ok_iff.1 h
  cases mismatch? with
  | none =>
    cases h
    exact ⟨rfl, nofun⟩
  | some mismatch =>
    obtain ⟨published, -, h⟩ := bind_eq_ok_iff.1 h
    cases h
    refine ⟨rfl, ?_⟩
    rintro _ _ ⟨⟩
    exact ⟨published, rfl⟩

theorem reports_reportText {entry : StreamId × Chain ε} {outcome : Outcome}
    (h : execution c streams entry = .ok outcome) :
    Reports c streams width entry (outcome.reportText (separator width)) := by
  obtain ⟨hstream, hmessage⟩ := outcome_of_execute h
  obtain ⟨stream, failure⟩ := outcome
  obtain rfl : stream = entry.1 := hstream
  cases failure with
  | none => exact ⟨_, "OK\n\n", h, rfl, iff_of_true rfl rfl, by rintro _ ⟨⟩⟩
  | some failure =>
    obtain ⟨mismatch, message⟩ := failure
    obtain ⟨published, rfl⟩ := hmessage mismatch message rfl
    refine ⟨_, mismatch.text entry.1 published ++ "\n", h, rfl,
      iff_of_false ?_ Bool.false_ne_true, ?_⟩
    · rw [show "OK\n\n" = "OK\n" ++ "\n" from rfl, String.append_left_inj]
      exact mismatch.text_ne_ok _ _
    · rintro _ ⟨⟩
      rfl

theorem execution_congr {streams' : Streams ε} {entry : StreamId × Chain ε}
    (h : streams'.events entry.1 = streams.events entry.1) :
    execution c streams' entry = execution c streams entry := by
  rw [execution, execution, h]

/-! ### All streams -/

namespace Scenario

variable {settings : Settings} {chains : List (StreamId × Chain ε)} {outcomes : List Outcome}

/-- Where all executions come to an end, the outcomes are judged. -/
theorem checkStreams_of_outcomes (h : chains.mapM (execution c streams) = .ok outcomes) :
    checkStreams settings c streams chains =
      if outcomes.all Outcome.isSuccess then .ok ()
      else
        .error (.assertionFailed (report outcomes streams.nonempty settings.separatorWidth)) := by
  have hall : executeAll c streams chains = .ok outcomes := h
  rw [checkStreams, hall]
  rfl

theorem checkStreams_of_error {error : Error}
    (h : chains.mapM (execution c streams) = .error error) :
    checkStreams settings c streams chains = .error error := by
  have hall : executeAll c streams chains = .error error := h
  rw [checkStreams, hall]
  rfl

theorem forall₂_reports (h : chains.mapM (execution c streams) = .ok outcomes) :
    List.Forall₂ (Reports c streams width) chains
      (outcomes.map (Outcome.reportText (separator width))) := by
  rw [List.forall₂_map_right_iff]
  exact (mapM_eq_ok_iff.1 h).imp fun _ _ => reports_reportText

theorem checkStreams_eq_ok_iff :
    checkStreams settings c streams chains = .ok () ↔
      ∀ entry ∈ chains, entry.2.Accepts c entry.1 (streams.events entry.1) := by
  constructor
  · intro h
    obtain ⟨outcomes, houtcomes, -⟩ := bind_eq_ok_iff.1 h
    rw [checkStreams_of_outcomes houtcomes] at h
    split at h
    · next hall =>
      exact exists_mapM_eq_ok_iff.1 ⟨outcomes, houtcomes, List.all_eq_true.1 hall⟩
    · cases h
  · intro h
    obtain ⟨outcomes, houtcomes, hall⟩ := exists_mapM_eq_ok_iff.2 h
    exact (checkStreams_of_outcomes houtcomes).trans (if_pos (List.all_eq_true.2 hall))

/-- A report has a section for each chain, also behind the first that does not accept. -/
theorem checkStreams_of_rejected
    (hexecution : ∀ entry ∈ chains, ∃ outcome, execution c streams entry = .ok outcome)
    (hrejected : ∃ entry ∈ chains, ¬entry.2.Accepts c entry.1 (streams.events entry.1)) :
    ∃ sections, List.Forall₂ (Reports c streams settings.separatorWidth) chains sections ∧
      checkStreams settings c streams chains =
        .error (.assertionFailed (String.join sections ++
          ending settings.separatorWidth streams.nonempty)) := by
  obtain ⟨outcomes, houtcomes, -⟩ :=
    exists_mapM_eq_ok_iff (P := fun _ => True) |>.2 fun entry hmem =>
      (hexecution entry hmem).imp fun _ h => ⟨h, trivial⟩
  have hfails : ¬outcomes.all Outcome.isSuccess = true := by
    intro hall
    obtain ⟨entry, hmem, hrejects⟩ := hrejected
    exact hrejects
      (exists_mapM_eq_ok_iff.1 ⟨outcomes, houtcomes, List.all_eq_true.1 hall⟩ entry hmem)
  refine ⟨_, forall₂_reports houtcomes, ?_⟩
  rw [checkStreams_of_outcomes houtcomes, if_neg hfails, report_eq]

/-- The first execution that fails ends the others behind it. -/
theorem checkStreams_of_failed {error : Error} {before behind : List (StreamId × Chain ε)}
    {entry : StreamId × Chain ε} (hchains : chains = before ++ entry :: behind)
    (hbefore : ∀ other ∈ before, ∃ outcome, execution c streams other = .ok outcome)
    (hentry : execution c streams entry = .error error) :
    checkStreams settings c streams chains = .error error :=
  checkStreams_of_error (mapM_eq_error_iff.2 ⟨before, entry, behind, hchains, hbefore, hentry⟩)

/-- Without the expected error, the run asks for the canonical forms of all published events. -/
theorem missingFault_eq_error_iff {error : Error} :
    missingFault c streams = .error error ↔ c.FirstError streams.allEvents error := by
  rw [missingFault, bind_eq_error_iff, ← Canonicalizer.all_eq_error_iff]
  simp [pure, Except.pure]

end Scenario

end GivenWhenThen
