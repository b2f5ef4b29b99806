import GivenWhenThen.Proofs.Chain.Blame
import GivenWhenThen.Proofs.Chain.Refusal
import GivenWhenThen.Proofs.Chain.Separated

/-! Two neighbouring blocks in the order given, and one block that expects the events of both. At
the cursor, the joined block stands just if the first one does and the second one stands behind it,
and `missAt_append` says at which event it is missed otherwise. So `execute_joined` compares the
chain that keeps them apart with the chain that joins them. Behind a gap, the joined block accepts
more: the first of two blocks is placed without a look at the second, by
`exists_accepts_joined_only`. -/

namespace GivenWhenThen

/-- A miss of a block that stands behind `k` more expected events. -/
def Miss.behind (k : Nat) : Miss → Miss
  | .notFound index => .notFound (k + index)
  | miss => miss

@[simp] theorem Miss.publishedIndex?_behind (k : Nat) (miss : Miss) :
    (miss.behind k).publishedIndex? = miss.publishedIndex? := by
  cases miss <;> rfl

/-! ### One place -/

section Place

variable {α : Type} [DecidableEq α] {first second published : List α} {start next index k : Nat}

theorem missAsGiven_behind :
    missAsGiven (k + next) index second published =
      (missAsGiven next index second published).map (Miss.behind k) := by
  induction second generalizing next index published with
  | nil => rfl
  | cons e second ih =>
    cases published with
    | nil => rfl
    | cons p published =>
      rw [missAsGiven, missAsGiven]
      split
      · rw [Nat.add_assoc]
        exact ih
      · rfl

/-- The events of two lists are compared one list after the other. -/
theorem missAsGiven_append :
    missAsGiven next index (first ++ second) published =
      (missAsGiven next index first published).or
        (missAsGiven (next + first.length) (index + first.length) second
          (published.drop first.length)) := by
  induction first generalizing next index published with
  | nil => rfl
  | cons e first ih =>
    cases published with
    | nil => rfl
    | cons p published =>
      rw [List.cons_append, missAsGiven, missAsGiven]
      split
      · have hlength : ∀ i, i + (e :: first).length = i + 1 + first.length := by
          intro i
          rw [List.length_cons]
          omega
        rw [ih, hlength, hlength, List.length_cons, List.drop_succ_cons]
      · rfl

namespace Order

theorem missAt_append :
    asGiven.missAt (first ++ second) published start =
      (asGiven.missAt first published start).or
        ((asGiven.missAt second published (start + first.length)).map
          (Miss.behind first.length)) := by
  simp only [missAt, missAsGiven_append, List.drop_drop, Nat.zero_add]
  rw [← missAsGiven_behind, Nat.add_zero]

theorem standsAt_append_iff (hfirst : first ≠ []) (hsecond : second ≠ []) :
    asGiven.StandsAt (first ++ second) published start ↔
      asGiven.StandsAt first published start ∧
        asGiven.StandsAt second published (start + first.length) := by
  rw [← missAt_eq_none_iff (by simp [hfirst]), ← missAt_eq_none_iff hfirst,
    ← missAt_eq_none_iff hsecond, missAt_append]
  simp

end Order

end Place

variable {ε : Type}

/-- The rules of a chain, with two blocks that expect events in the order given. -/
def Chain.apart (before : List (Rule ε)) (first second : List ε) (after : List (Rule ε)) :
    List (Rule ε) :=
  before ++ .block ⟨.asGiven, first⟩ :: .block ⟨.asGiven, second⟩ :: after

/-- The rules of the chain, with one block that expects the events of both. -/
def Chain.joined (before : List (Rule ε)) (first second : List ε) (after : List (Rule ε)) :
    List (Rule ε) :=
  before ++ .block ⟨.asGiven, first ++ second⟩ :: after

/-- A mismatch with two blocks behind `n` rules, at the rule with index `i`, and the mismatch where
they are joined. -/
inductive Mismatch.Joined (form : ε → Canonical) (n : Nat) (first second : List ε) :
    (i : Nat) → Mismatch → Mismatch → Prop
  | before {i : Nat} {mismatch : Mismatch} (lt : i < n) :
      Joined form n first second i mismatch mismatch
  | first {miss : Miss} :
      Joined form n first second n (.missed .asGiven (first.map form) miss)
        (.missed .asGiven ((first ++ second).map form) miss)
  | second {miss : Miss} :
      Joined form n first second (n + 1) (.missed .asGiven (second.map form) miss)
        (.missed .asGiven ((first ++ second).map form) (miss.behind first.length))
  | after {i : Nat} {mismatch : Mismatch} (gt : n + 1 < i) :
      Joined form n first second i mismatch mismatch

variable {form : ε → Canonical} {observed : List ε} {first second : List ε}
  {before after : List (Rule ε)} {previous : Option (Rule ε)} {cursor middle next i n : Nat}
  {mismatch mismatch' : Mismatch}

theorem Mismatch.Joined.publishedIndex?_eq
    (h : Mismatch.Joined form n first second i mismatch mismatch') :
    mismatch'.publishedIndex? = mismatch.publishedIndex? := by
  cases h with
  | before | first | after => rfl
  | second => exact Miss.publishedIndex?_behind _ _

/-! ### Two rules -/

/-- Where one block passes and then the other, the joined one passes, behind a gap too. -/
theorem Passes.joined (hfirst : first ≠ []) (hsecond : second ≠ [])
    (h : Passes form observed previous cursor (.block ⟨.asGiven, first⟩) middle)
    (h' : Passes form observed (some (.block ⟨.asGiven, first⟩)) middle
      (.block ⟨.asGiven, second⟩) next) :
    Passes form observed previous cursor (.block ⟨.asGiven, first ++ second⟩) next := by
  have hfirst' : first.map form ≠ [] := by simpa using hfirst
  have hsecond' : second.map form ≠ [] := by simpa using hsecond
  have hstands : ∀ {start}, Order.asGiven.StandsAt ((first ++ second).map form)
      (observed.map form) start ↔
      Order.asGiven.StandsAt (first.map form) (observed.map form) start ∧
        Order.asGiven.StandsAt (second.map form) (observed.map form) (start + first.length) := by
    intro start
    rw [List.map_append, Order.standsAt_append_iff hfirst' hsecond', List.length_map]
  have hlength : ∀ start, start + first.length + second.length =
      start + (first ++ second).length := by
    intro start
    rw [List.length_append]
    omega
  obtain ⟨hbehind, rfl⟩ := (passes_block_iff_of_tied (by simp)).1 h'
  cases h with
  | anchored tied stands =>
    rw [hlength]
    exact .anchored tied (hstands.2 ⟨stands, hbehind⟩)
  | searched start free =>
    rw [hlength]
    refine .searched ⟨start.1, hstands.2 ⟨start.2.1, hbehind⟩, ?_⟩ free
    -- An earlier place of the joined block would be an earlier place of the first one.
    intro j hge hlt hj
    exact start.2.2 j hge hlt (hstands.1 hj).1

namespace Position

variable {p q : Position ε} {rule : Rule ε} {rules : List (Rule ε)} {b b' : Block ε}

/-- A step does not depend on more of the position than the gap and the cursor. -/
theorem step_congr (hgap : p.gap = q.gap) (hcursor : p.cursor = q.cursor) :
    p.step form observed rule = q.step form observed rule := by
  cases rule with
  | gap exclusions =>
    rw [step, step, hcursor]
  | block b =>
    rw [step, step, hgap, hcursor]

theorem verdict_congr (hne : rules ≠ []) (hgap : p.gap = q.gap) (hcursor : p.cursor = q.cursor) :
    p.verdict form observed rules = q.verdict form observed rules := by
  obtain ⟨rule, rest, rfl⟩ := List.exists_cons_of_ne_nil hne
  rw [verdict_cons, verdict_cons, step_congr hgap hcursor]

/-- Behind a block, it does not matter for success which block it is. -/
theorem verdict_behind_block (b b' : Block ε)
    (h : Position.verdict form observed ⟨some (.block b), cursor⟩ rules = .ok ()) :
    Position.verdict form observed ⟨some (.block b'), cursor⟩ rules = .ok () := by
  cases rules with
  | nil =>
    have hfinish := (finish_eq_ok_iff (p := ⟨some (.block b), cursor⟩)).1 h
    refine (finish_eq_ok_iff (p := ⟨some (.block b'), cursor⟩)).2 ⟨?_, nofun⟩
    intro _ _
    exact hfinish.1 b rfl
  | cons rule rest =>
    rw [← h]
    exact verdict_congr (List.cons_ne_nil _ _) rfl rfl

/-- A block that is not behind a gap is looked for at the cursor only. -/
theorem place_of_tied (form : ε → Canonical) (observed : List ε) (b : Block ε)
    (hgap : p.gap = none) :
    Chain.place p.gap.isSome b.order (b.events.map form) (observed.map form) p.cursor =
      b.order.placeAt (b.events.map form) (observed.map form) p.cursor := by
  rw [hgap]
  rfl

theorem step_block_of_miss (hgap : p.gap = none) {miss : Miss}
    (h : b.order.missAt (b.events.map form) (observed.map form) p.cursor = some miss) :
    p.step form observed (.block b) = .error (.missed b.order (b.events.map form) miss) := by
  have hplace := place_of_tied form observed b hgap
  rw [Order.placeAt, h] at hplace
  exact step_of_missed hplace

theorem verdict_block_of_miss (hgap : p.gap = none) {miss : Miss}
    (h : b.order.missAt (b.events.map form) (observed.map form) p.cursor = some miss) :
    p.verdict form observed (.block b :: rules) =
      .error (.missed b.order (b.events.map form) miss) := by
  rw [verdict_cons, step_block_of_miss hgap h]
  rfl

theorem step_block_of_stands (hgap : p.gap = none)
    (h : b.order.missAt (b.events.map form) (observed.map form) p.cursor = none) :
    p.step form observed (.block b) =
      .ok ⟨some (.block b), p.cursor + b.events.length⟩ := by
  have hplace := place_of_tied form observed b hgap
  rw [Order.placeAt, h] at hplace
  exact step_of_found hplace (by rw [hgap]; rfl)

/-- A walk that comes to a block at the cursor ends there, or behind it, or at a later rule. -/
theorem StopsAt.of_block (hgap : p.gap = none)
    (h : StopsAt form observed p (.block b :: rules) i mismatch) :
    (∃ miss, b.order.missAt (b.events.map form) (observed.map form) p.cursor = some miss ∧
      i = 0 ∧ mismatch = .missed b.order (b.events.map form) miss) ∨
    b.order.missAt (b.events.map form) (observed.map form) p.cursor = none ∧
      ((rules = [] ∧ i = 0 ∧
        Position.finish form observed ⟨some (.block b), p.cursor + b.events.length⟩ =
          .error mismatch) ∨
      ∃ j, i = j + 1 ∧ StopsAt form observed ⟨some (.block b), p.cursor + b.events.length⟩ rules j
        mismatch) := by
  cases hmiss : b.order.missAt (b.events.map form) (observed.map form) p.cursor with
  | some miss =>
    have hstep := step_block_of_miss hgap hmiss
    refine .inl ⟨miss, rfl, ?_⟩
    cases h with
    | here blocked =>
      rw [hstep] at blocked
      cases blocked
      exact ⟨rfl, rfl⟩
    | behind taken | later taken =>
      rw [hstep] at taken
      cases taken
  | none =>
    have hstep := step_block_of_stands hgap hmiss
    refine .inr ⟨rfl, ?_⟩
    cases h with
    | here blocked =>
      rw [hstep] at blocked
      cases blocked
    | behind taken left =>
      rw [hstep] at taken
      cases taken
      exact .inl ⟨rfl, rfl, left⟩
    | later taken rest =>
      rw [hstep] at taken
      cases taken
      exact .inr ⟨_, rfl, rest⟩

theorem verdict_joined_of_ok (hfirst : first ≠ []) (hsecond : second ≠ [])
    (h : p.verdict form observed
      (.block ⟨.asGiven, first⟩ :: .block ⟨.asGiven, second⟩ :: after) = .ok ()) :
    p.verdict form observed (.block ⟨.asGiven, first ++ second⟩ :: after) = .ok () := by
  have hfilled : (Rule.block ⟨.asGiven, first⟩).Filled := hfirst
  have hfilled' : (Rule.block ⟨.asGiven, second⟩).Filled := hsecond
  have hjoined : (Rule.block ⟨.asGiven, first ++ second⟩).Filled :=
    List.append_ne_nil_of_left_ne_nil hfirst second
  obtain ⟨middle, hpasses, h⟩ := (verdict_cons_eq_ok_iff hfilled).1 h
  obtain ⟨next, hpasses', h⟩ := (verdict_cons_eq_ok_iff hfilled').1 h
  exact (verdict_cons_eq_ok_iff hjoined).2
    ⟨next, hpasses.joined hfirst hsecond hpasses', verdict_behind_block _ _ h⟩

/-- Where a walk ends that starts with two blocks, the walk with the joined one ends as well. -/
theorem StopsAt.joined (n : Nat) (hgap : p.gap = none)
    (h : StopsAt form observed p
      (.block ⟨.asGiven, first⟩ :: .block ⟨.asGiven, second⟩ :: after) i mismatch) :
    ∃ mismatch', Mismatch.Joined form n first second (n + i) mismatch mismatch' ∧
      p.verdict form observed (.block ⟨.asGiven, first ++ second⟩ :: after) =
        .error mismatch' := by
  have hjoined : Order.asGiven.missAt ((first ++ second).map form) (observed.map form) p.cursor =
      (Order.asGiven.missAt (first.map form) (observed.map form) p.cursor).or
        ((Order.asGiven.missAt (second.map form) (observed.map form)
          (p.cursor + first.length)).map (Miss.behind first.length)) := by
    rw [List.map_append, Order.missAt_append, List.length_map]
  rcases h.of_block hgap with ⟨miss, hmiss, rfl, rfl⟩ | ⟨hfirst, ⟨hnil, -⟩ | ⟨j, rfl, hrest⟩⟩
  · rw [hmiss] at hjoined
    exact ⟨_, .first, verdict_block_of_miss hgap hjoined⟩
  · cases hnil
  rw [hfirst] at hjoined
  have hbehind : Position.gap
      ⟨some (.block ⟨.asGiven, first⟩), p.cursor + first.length⟩ = none := rfl
  rcases hrest.of_block hbehind with ⟨miss, hmiss, rfl, rfl⟩ | ⟨hsecond, hend⟩
  · dsimp only at hmiss
    rw [hmiss] at hjoined
    exact ⟨_, .second, verdict_block_of_miss hgap hjoined⟩
  dsimp only at hsecond hend
  rw [hsecond] at hjoined
  have hcursor : p.cursor + first.length + second.length =
      p.cursor + (first ++ second).length := by
    rw [List.length_append]
    omega
  rw [hcursor] at hend
  rw [verdict_cons, step_block_of_stands hgap hjoined]
  rcases hend with ⟨rfl, rfl, hleft⟩ | ⟨j, rfl, hafter⟩
  -- Events that are left behind the last block are left behind the joined one.
  · rw [finish_block] at hleft
    split_ifs at hleft with hlt
    cases hleft
    exact ⟨_, .second, if_pos hlt⟩
  · refine ⟨mismatch, .after (by omega), ?_⟩
    rw [← hafter.verdict_eq]
    exact verdict_congr hafter.ne_nil rfl rfl

end Position

/-! ### All rules -/

namespace Chain

variable {c : Canonicalizer ε} {l : List (Rule ε)}

theorem verdict_joined_of_ok (hfirst : first ≠ []) (hsecond : second ≠ [])
    (h : Position.verdict form observed {} (apart before first second after) = .ok ()) :
    Position.verdict form observed {} (joined before first second after) = .ok () := by
  rw [apart, Position.verdict_append] at h
  obtain ⟨p, hrun, hverdict⟩ := bind_eq_ok_iff.1 h
  rw [joined, Position.verdict_append, hrun]
  exact Position.verdict_joined_of_ok hfirst hsecond hverdict

/-- A mismatch with both blocks has its counterpart where they are joined. -/
theorem verdict_joined_of_blames (hfilled : ∀ rule ∈ apart before first second after, rule.Filled)
    (htied : ∀ exclusions, before.getLast? ≠ some (.gap exclusions))
    (h : Blames form (apart before first second after) observed i mismatch) :
    ∃ mismatch', Mismatch.Joined form before.length first second i mismatch mismatch' ∧
      Position.verdict form observed {} (joined before first second after) =
        .error mismatch' := by
  have hbefore : ∀ rule ∈ before, rule.Filled := fun rule hrule =>
    hfilled rule (List.mem_append_left _ hrule)
  rw [joined, Position.verdict_append]
  rcases (h.stopsAt hfilled).of_append (List.cons_ne_nil _ _) with
    ⟨hlt, hrun⟩ | ⟨p, j, hrun, rfl, hstops⟩
  · rw [hrun]
    exact ⟨mismatch, .before hlt, rfl⟩
  · obtain ⟨cursor, -, rfl⟩ := (Position.run_eq_ok_iff hbefore).1 hrun
    rw [hrun]
    exact hstops.joined _ (Position.gap_eq_none_iff.2 htied)

theorem expected_joined :
    (rules (joined before first second after)).expected =
      (rules (apart before first second after)).expected := by
  simp [expected, joined, apart, Rule.expected]

theorem WellFormed.joined (h : (rules (apart before first second after)).WellFormed) :
    (rules (joined before first second after)).WellFormed := by
  obtain ⟨-, hseparate, hfilled⟩ := h
  rw [toList_rules, apart, List.isChain_append, List.isChain_cons_cons, List.isChain_cons]
    at hseparate
  obtain ⟨hbefore, ⟨-, -, hafter⟩, -⟩ := hseparate
  have hfirst : (Rule.block ⟨.asGiven, first⟩).Filled := hfilled _ (by simp [apart])
  refine ⟨nofun, ?_, fun rule hrule => ?_⟩
  · rw [toList_rules, Chain.joined, List.isChain_append, List.isChain_cons]
    refine ⟨hbefore, ⟨?_, hafter⟩, ?_⟩
    · rintro rule - ⟨⟨⟩, -⟩
    · rintro rule - _ ⟨⟩ ⟨-, ⟨⟩⟩
  · rcases List.mem_append.1 hrule with hmem | hmem
    · exact hfilled rule (List.mem_append_left _ hmem)
    · rcases List.mem_cons.1 hmem with rfl | hmem
      · exact List.append_ne_nil_of_left_ne_nil hfirst second
      · exact hfilled rule (by simp [apart, hmem])

/-- Behind a gap, the first of two blocks is placed at the first event like its own, though the
second one does not stand there. The joined block goes on to the next place. -/
theorem exists_accepts_joined_only :
    ∃ first second observed : List Bank.Event,
      (rules (apart [.gap []] first second [])).Built ∧
      (rules (joined [.gap []] first second [])).Accepts .byLabel "acc-1" observed ∧
      ∃ mismatch,
        (rules (apart [.gap []] first second [])).Rejects .byLabel "acc-1" observed mismatch :=
  ⟨[.deposited 1], [.withdrawn 1], [.deposited 1, .deposited 1, .withdrawn 1],
    ⟨[.gap [], .block .asGiven [.deposited 1], .block .asGiven [.withdrawn 1]], rfl⟩,
    ⟨_, rfl, rfl⟩, _, _, rfl, rfl⟩

/-- A chain with two neighbouring blocks in the order given, and the chain that joins them. What
the first one accepts, the other one accepts too. Unless the blocks are behind a gap, both accept
the same, and a mismatch with the blocks apart has its counterpart with them joined, at the same
published event; a missing event of the second block counts behind those of the first. Behind a
gap, the joined block can accept more. -/
theorem execute_joined (stream : StreamId)
    (hbuilt : (rules (apart before first second after)).Built)
    (hexpected : c.Covers (rules (apart before first second after)).expected)
    (hobserved : c.Covers observed) :
    (rules (joined before first second after)).Built ∧
    (∃ outcome outcome',
      (rules (apart before first second after)).execute c stream observed = .ok outcome ∧
      (rules (joined before first second after)).execute c stream observed = .ok outcome' ∧
      (outcome.isSuccess = true → outcome'.isSuccess = true) ∧
      ((∀ exclusions, before.getLast? ≠ some (.gap exclusions)) →
        (outcome'.isSuccess = true → outcome.isSuccess = true) ∧
        (∀ mismatch, outcome.mismatch? = some mismatch ↔
          ∃ i, Blames c.form (apart before first second after) observed i mismatch) ∧
        ∀ i mismatch, Blames c.form (apart before first second after) observed i mismatch →
          ∃ mismatch', Mismatch.Joined c.form before.length first second i mismatch mismatch' ∧
            outcome'.mismatch? = some mismatch' ∧
            mismatch'.publishedIndex? = mismatch.publishedIndex?)) ∧
    ∃ first second observed : List Bank.Event,
      (rules (apart [.gap []] first second [])).Built ∧
      (rules (joined [.gap []] first second [])).Accepts .byLabel "acc-1" observed ∧
      ∃ mismatch,
        (rules (apart [.gap []] first second [])).Rejects .byLabel "acc-1" observed mismatch := by
  have hw := hbuilt.wellFormed
  have hfirst : first ≠ [] := hw.filled (.block ⟨.asGiven, first⟩) (by simp [apart])
  have hsecond : second ≠ [] := hw.filled (.block ⟨.asGiven, second⟩) (by simp [apart])
  obtain ⟨outcome, hexecute⟩ :=
    execute_isOk stream hw (by simp [apart]) hexpected hobserved
  obtain ⟨outcome', hexecute'⟩ :=
    execute_isOk stream hw.joined (by simp [joined]) (expected_joined ▸ hexpected) hobserved
  have hmismatch := (mismatch?_of_execute hexecute).2
  have hmismatch' := (mismatch?_of_execute hexecute').2
  have hblames : ∀ mismatch, outcome.mismatch? = some mismatch ↔
      ∃ i, Blames c.form (apart before first second after) observed i mismatch := fun _ =>
    mismatch?_eq_some_iff_blames hw hexecute
  refine ⟨hw.joined.built, ⟨outcome, outcome', hexecute, hexecute', ?_, fun htied => ?_⟩,
    exists_accepts_joined_only⟩
  · intro hsuccess
    rw [Outcome.isSuccess_iff, hmismatch, failure?_eq_none_iff] at hsuccess
    rw [Outcome.isSuccess_iff, hmismatch', failure?_eq_none_iff]
    exact verdict_joined_of_ok hfirst hsecond hsuccess
  · have hcounterpart : ∀ i mismatch,
        Blames c.form (apart before first second after) observed i mismatch →
          ∃ mismatch', Mismatch.Joined c.form before.length first second i mismatch mismatch' ∧
            outcome'.mismatch? = some mismatch' ∧
            mismatch'.publishedIndex? = mismatch.publishedIndex? := by
      intro i mismatch h
      obtain ⟨mismatch', hjoined, hverdict⟩ := verdict_joined_of_blames hw.filled htied h
      refine ⟨mismatch', hjoined, ?_, hjoined.publishedIndex?_eq⟩
      rw [hmismatch', failure?_eq_some_iff, hverdict]
    refine ⟨Outcome.isSuccess_of_counterpart fun mismatch hm => ?_, hblames, hcounterpart⟩
    obtain ⟨i, h⟩ := (hblames mismatch).1 hm
    obtain ⟨mismatch', -, hm', -⟩ := hcounterpart i mismatch h
    exact ⟨mismatch', hm'⟩

/-- The withdrawal is missing that the second block expects behind the deposit. It is the event with
index 1 there, and the one with index 2 where the blocks are joined. -/
theorem execute_joined_withdrawn :
    ∃ outcome, (rules (joined [] [.opened "ada"] [.deposited 10, .withdrawn 7] [])).execute
        .byLabel "acc-1" [Bank.Event.opened "ada", .deposited 10] = .ok outcome ∧
      outcome.mismatch? = some (.missed .asGiven
        ([Bank.Event.opened "ada", .deposited 10, .withdrawn 7].map Canonicalizer.byLabel.form)
        (.notFound 2)) := by
  have hbuilt :
      (rules (apart [] [Bank.Event.opened "ada"] [.deposited 10, .withdrawn 7] [])).Built :=
    ⟨[.block .asGiven [.opened "ada"], .block .asGiven [.deposited 10, .withdrawn 7]], rfl⟩
  have hobserved : Canonicalizer.byLabel.Covers [Bank.Event.opened "ada", .deposited 10] :=
    fun _ _ => ⟨_, rfl⟩
  obtain ⟨-, ⟨_, outcome, -, hexecute, -, htied⟩, -⟩ :=
    execute_joined "acc-1" hbuilt (fun _ _ => ⟨_, rfl⟩) hobserved
  obtain ⟨-, -, hcounterpart⟩ := htied (by simp)
  have placed : Placed Canonicalizer.byLabel.form [.block ⟨.asGiven, [Bank.Event.opened "ada"]⟩]
      [.opened "ada", .deposited 10] id := by
    refine ⟨rfl, fun i rule hi => ?_⟩
    obtain _ | i := i
    · obtain rfl := Option.some.inj hi
      exact .anchored (by simp) ⟨by decide, rfl⟩
    · cases hi
  obtain ⟨mismatch, hjoined, hmismatch, -⟩ := hcounterpart 1 _
    (.atRule rfl placed (.anchored (by simp [apart]) (.ends ⟨[_], rfl⟩ (by decide))))
  refine ⟨outcome, hexecute, hmismatch.trans ?_⟩
  cases hjoined with
  | before lt => exact absurd lt (by decide)
  | second => rfl
  | after gt => exact absurd gt (by decide)

end Chain

end GivenWhenThen
