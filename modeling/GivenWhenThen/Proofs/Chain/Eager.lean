import GivenWhenThen.Proofs.Chain.Segmentation

/-! Executing a chain whose events are all canonical from the start. A `View` is all that such an
execution knows of an event: its canonical form, and which exclusions of the chain hold for it. The
machine of a walk does not need to know more: by `verdict_seen` it comes to the same verdict on
views as on the events behind them. -/

namespace GivenWhenThen

variable {ε : Type}

/-- An event as it is seen once it is canonical, with the truth values of the exclusions of all gaps
of a chain, one gap after the other. -/
structure View where
  form : Canonical
  excluded : List Bool
deriving DecidableEq, Repr

namespace Chain

/-- The exclusions of all gaps, one gap after the other. -/
def exclusions (chain : Chain ε) : List (Exclusion ε) :=
  chain.toList.flatMap fun rule => rule.exclusions?.getD []

/-- What is seen of an event. -/
def view (c : Canonicalizer ε) (chain : Chain ε) (event : ε) : View :=
  { form := c.form event, excluded := chain.exclusions.map (· event) }

/-- The rules with views in place of events, where `index` exclusions stand before them in the
chain. An exclusion looks its truth value up. -/
def viewRules (view : ε → View) (index : Nat) : List (Rule ε) → List (Rule View)
  | [] => []
  | .block b :: rest => .block ⟨b.order, b.events.map view⟩ :: viewRules view index rest
  | .gap exclusions :: rest =>
    .gap ((exclusions.zipIdx index).map fun (_, i) seen => seen.excluded.getD i false) ::
      viewRules view (index + exclusions.length) rest

/-- The chain with views in place of events. -/
def viewed (c : Canonicalizer ε) (chain : Chain ε) : Chain View where
  isNothing := chain.isNothing
  toList := viewRules (chain.view c) 0 chain.toList

/-- The outcome of an execution to which only views of events are known. -/
def executeViews (stream : StreamId) (chain : Chain View) (observed : List View) : Outcome :=
  let mismatch? : Option Mismatch :=
    if chain.isNothing then if observed.isEmpty then none else some .notEmpty
    else failure? (Position.verdict View.form observed {} chain.toList)
  { stream
    failure := mismatch?.map fun mismatch =>
      (mismatch, mismatch.text stream (observed.map View.form)) }

end Chain

/-! ### The machine on views -/

/-- A rule and the same rule for views. -/
inductive Rule.Seen (view : ε → View) (observed : List ε) : Rule ε → Rule View → Prop
  | block {b : Block ε} : Seen view observed (.block b) (.block ⟨b.order, b.events.map view⟩)
  | gap {exclusions : List (Exclusion ε)} {seen : List (Exclusion View)}
      (alike : List.Forall₂ (fun excludes excludes' => ∀ e ∈ observed,
        excludes' (view e) = excludes e) exclusions seen) :
      Seen view observed (.gap exclusions) (.gap seen)

/-- A position and the same position for views. -/
structure Position.Seen (view : ε → View) (observed : List ε) (p : Position ε)
    (q : Position View) : Prop where
  previous : Option.Rel (Rule.Seen view observed) p.previous q.previous
  cursor : q.cursor = p.cursor

variable {view : ε → View} {form : ε → Canonical} {observed : List ε} {first stop : Nat}

theorem findIdx?_congr {α : Type} {f g : α → Bool} {l : List α} (h : ∀ x ∈ l, f x = g x) :
    l.findIdx? f = l.findIdx? g := by
  induction l with
  | nil => rfl
  | cons x l ih =>
    rw [List.findIdx?_cons, List.findIdx?_cons, h x (by simp),
      ih fun y hy => h y (List.mem_cons_of_mem _ hy)]

section Gap

variable {exclusions : List (Exclusion ε)} {seen : List (Exclusion View)}
  (alike : List.Forall₂ (fun excludes excludes' => ∀ e ∈ observed,
    excludes' (view e) = excludes e) exclusions seen)
include alike

theorem any_seen {e : ε} (he : e ∈ observed) :
    seen.any (· (view e)) = exclusions.any (· e) := by
  induction alike with
  | nil => rfl
  | cons hhead _ ih => rw [List.any_cons, List.any_cons, hhead e he, ih]

theorem firstExcluded?_seen :
    firstExcluded? seen (observed.map view) first stop =
      firstExcluded? exclusions observed first stop := by
  rw [firstExcluded?, firstExcluded?, ← List.map_take, ← List.map_drop, List.findIdx?_map]
  refine congrArg _ (findIdx?_congr fun e he => any_seen alike ?_)
  exact List.mem_of_mem_take (List.mem_of_mem_drop he)

end Gap

namespace Position

variable {p : Position ε} {q : Position View} {rule : Rule ε} {rule' : Rule View}

theorem Seen.gap_isSome (h : p.Seen view observed q) : q.gap.isSome = p.gap.isSome := by
  obtain ⟨previous, cursor⟩ := p
  obtain ⟨previous', cursor'⟩ := q
  cases h.previous with
  | none => rfl
  | some hrule => cases hrule <;> rfl

theorem Seen.gapMismatch?_eq (h : p.Seen view observed q) (first stop : Nat) :
    Chain.gapMismatch? q.gap (observed.map view) first stop =
      Chain.gapMismatch? p.gap observed first stop := by
  obtain ⟨previous, cursor⟩ := p
  obtain ⟨previous', cursor'⟩ := q
  cases h.previous with
  | none => rfl
  | some hrule =>
    cases hrule with
    | block => rfl
    | gap alike =>
      simp only [gap, Option.bind_some, Rule.exclusions?, gapMismatch?_some,
        firstExcluded?_seen alike, alike.length_eq]

variable (hform : ∀ e, (view e).form = form e)
include hform

theorem map_form_map (events : List ε) : (events.map view).map View.form = events.map form := by
  rw [List.map_map]
  exact List.map_congr_left fun e _ => hform e

/-- A step on views ends the walk with the same mismatch, or goes to the same position. -/
theorem Seen.step (h : p.Seen view observed q) (hrule : rule.Seen view observed rule') :
    (∃ mismatch, p.step form observed rule = .error mismatch ∧
      q.step View.form (observed.map view) rule' = .error mismatch) ∨
    ∃ p' q', p.step form observed rule = .ok p' ∧
      q.step View.form (observed.map view) rule' = .ok q' ∧ p'.Seen view observed q' := by
  cases hrule with
  | gap alike => exact .inr ⟨_, _, rfl, rfl, .some (.gap alike), h.cursor⟩
  | @block b =>
    have hplace : Chain.place q.gap.isSome b.order ((b.events.map view).map View.form)
        ((observed.map view).map View.form) q.cursor =
        Chain.place p.gap.isSome b.order (b.events.map form) (observed.map form) p.cursor := by
      rw [h.gap_isSome, h.cursor, map_form_map hform, map_form_map hform]
    cases hp : Chain.place p.gap.isSome b.order (b.events.map form) (observed.map form)
        p.cursor with
    | missed miss =>
      rw [hp] at hplace
      refine .inl ⟨_, step_of_missed hp, ?_⟩
      rw [step_of_missed hplace, map_form_map hform]
    | found start =>
      rw [hp] at hplace
      have hgap := h.gapMismatch?_eq p.cursor start
      rw [← h.cursor] at hgap
      cases hm : Chain.gapMismatch? p.gap observed p.cursor start with
      | some mismatch =>
        rw [h.cursor, hm, ← h.cursor] at hgap
        exact .inl ⟨mismatch, step_of_excluded hp hm, step_of_excluded hplace hgap⟩
      | none =>
        rw [h.cursor, hm, ← h.cursor] at hgap
        refine .inr ⟨_, _, step_of_found hp hm, step_of_found hplace hgap, .some .block, ?_⟩
        simp only [List.length_map]

theorem Seen.finish (h : p.Seen view observed q) :
    q.finish View.form (observed.map view) = p.finish form observed := by
  have hgap := h.gapMismatch?_eq p.cursor observed.length
  obtain ⟨previous, cursor⟩ := p
  obtain ⟨previous', cursor'⟩ := q
  obtain rfl : cursor' = cursor := h.cursor
  cases h.previous with
  | none => rfl
  | some hrule =>
    cases hrule with
    | block => simp only [finish_block, List.length_map, map_form_map hform]
    | gap alike =>
      rw [Position.finish, Position.finish, List.length_map]
      exact congrArg stopAt hgap

/-- The machine comes to the same verdict on views as on the events behind them. -/
theorem verdict_seen {l : List (Rule ε)} {l' : List (Rule View)}
    (hl : List.Forall₂ (Rule.Seen view observed) l l') (h : p.Seen view observed q) :
    q.verdict View.form (observed.map view) l' = p.verdict form observed l := by
  induction hl generalizing p q with
  | nil => exact h.finish hform
  | cons hrule _ ih =>
    rw [verdict_cons, verdict_cons]
    rcases h.step hform hrule with ⟨mismatch, hp, hq⟩ | ⟨p', q', hp, hq, hnext⟩
    · rw [hp, hq]
      rfl
    · rw [hp, hq]
      exact ih hnext

end Position

/-! ### The views of a chain -/

namespace Chain

variable {c : Canonicalizer ε} {l : List (Rule ε)}

/-- Each exclusion of a gap finds its truth value, where `before` are the exclusions that stand
before it in the chain. -/
theorem forall₂_zipIdx {all before after exclusions : List (Exclusion ε)}
    (hview : ∀ e, (view e).excluded = all.map (· e))
    (hall : all = before ++ (exclusions ++ after)) :
    List.Forall₂ (fun excludes (excludes' : Exclusion View) =>
        ∀ e ∈ observed, excludes' (view e) = excludes e) exclusions
      ((exclusions.zipIdx before.length).map fun (_, i) seen => seen.excluded.getD i false) := by
  induction exclusions generalizing before with
  | nil => exact .nil
  | cons excludes exclusions ih =>
    have hbehind : all = (before ++ [excludes]) ++ (exclusions ++ after) := by simp [hall]
    have hnext := ih hbehind
    rw [List.length_append, List.length_singleton] at hnext
    refine .cons (fun e _ => ?_) hnext
    simp [hview, hall]

theorem forall₂_viewRules {all before : List (Exclusion ε)}
    (hview : ∀ e, (view e).excluded = all.map (· e))
    (hall : all = before ++ (rules l).exclusions) :
    List.Forall₂ (Rule.Seen view observed) l (viewRules view before.length l) := by
  induction l generalizing before with
  | nil => exact .nil
  | cons rule l ih =>
    cases rule with
    | block b => exact .cons .block (ih hall)
    | gap exclusions =>
      have hbehind : all = (before ++ exclusions) ++ (rules l).exclusions := by
        rw [hall, List.append_assoc]
        rfl
      have hnext := ih hbehind
      rw [List.length_append] at hnext
      exact .cons (.gap (forall₂_zipIdx hview hall)) hnext

/-- An execution on events that are all canonical comes to the outcome of the execution on views. -/
theorem execute_eq_executeViews (stream : StreamId) {chain : Chain ε}
    (hwellFormed : chain.WellFormed) (hrules : chain.isNothing = true ∨ chain.toList ≠ [])
    (hexpected : c.Covers chain.expected) (hobserved : c.Covers observed) :
    chain.execute c stream observed =
      .ok ((chain.viewed c).executeViews stream (observed.map (chain.view c))) := by
  have hform : ∀ e, (chain.view c e).form = c.form e := fun _ => rfl
  have hcheck := hwellFormed.check_isOk hrules
  obtain rfl | ⟨l, rfl⟩ := hwellFormed.eq_nothing_or_rules
  · rw [executeViews, Position.map_form_map hform, execute_nothing]
    cases observed with
    | nil => rfl
    | cons e observed =>
      rw [List.isEmpty_cons, conclude_of_covers hobserved]
      rfl
  · have hseen : List.Forall₂ (Rule.Seen ((rules l).view c) observed) l
        (viewRules ((rules l).view c) 0 l) :=
      forall₂_viewRules (fun _ => rfl) (List.nil_append _).symm
    have hverdict : Position.verdict View.form (observed.map ((rules l).view c)) {}
        (viewRules ((rules l).view c) 0 l) = Position.verdict c.form observed {} l :=
      Position.verdict_seen hform hseen ⟨.none, rfl⟩
    rw [execute_eq_ok hcheck hexpected hobserved, executeViews, Position.map_form_map hform]
    simp only [viewed, isNothing_rules, toList_rules, hverdict, Bool.false_eq_true, if_false]

end Chain

end GivenWhenThen
