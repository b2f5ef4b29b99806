import GivenWhenThen.Chain.Mismatch
import GivenWhenThen.Proofs.Json.Text
import GivenWhenThen.Proofs.Text.Span
import GivenWhenThen.Scripted.Event

/-! What a diagnostic tells. The diagnostic of a mismatch is a text of lines, by `Mismatch.text_eq`,
and lines are read back from a text. The first line tells the kind of the mismatch, an empty line
ends a list of events, and the line of a miss tells its `Locus`. So the diagnostic tells the
published events and the mismatch, up to `Mismatch.Alike`: `Mismatch.text_eq_text_iff`. -/

namespace GivenWhenThen

open Text

/-! ### The lines of a diagnostic -/

namespace Canonical

/-- The two lines of each event, the first of them with index `index`. -/
def lines (index : Nat) : List Canonical → List String
  | [] => []
  | event :: events =>
    (toString index ++ ". [" ++ event.tag ++ "]") :: event.content :: lines (index + 1) events

/-- An event whose tag and content are a line each. -/
structure OneLine (event : Canonical) : Prop where
  tag : Text.OneLine event.tag
  content : Text.OneLine event.content

/-- The lines of events in a text; without events there is an empty one. -/
def block (events : List Canonical) : List String :=
  if events = [] then [""] else lines 0 events

/-- The lines that close every diagnostic. -/
def closing (published : List Canonical) : List String :=
  "Published events:" :: (lines 0 published ++ [""])

variable {events events' published : List Canonical} {index : Nat} {rest rest' : List String}

theorem lines_ne_nil (hne : events ≠ []) : lines index events ≠ [] := by
  cases events with
  | nil => exact absurd rfl hne
  | cons => nofun

theorem block_ne_nil : block events ≠ [] := by
  rw [block]
  split
  · nofun
  · next hne => exact lines_ne_nil hne

theorem intercalate_lines (index : Nat) (events : List Canonical) :
    "\n".intercalate ((events.zipIdx index).map fun (event, index) =>
      toString index ++ ". [" ++ event.tag ++ "]\n" ++ event.content) =
      "\n".intercalate (lines index events) := by
  induction events generalizing index with
  | nil => rfl
  | cons event events ih =>
    have hline : "]\n" = "]" ++ "\n" := by decide
    rw [List.zipIdx_cons, List.map_cons, lines]
    cases events with
    | nil =>
      simp only [List.zipIdx_nil, List.map_nil, lines, String.intercalate_singleton,
        String.intercalate_cons_cons, hline, String.append_assoc]
    | cons event' events =>
      rw [String.intercalate_cons_of_ne_nil (by simp), ih, String.intercalate_cons_cons,
        String.intercalate_cons_of_ne_nil (lines_ne_nil (by simp))]
      simp only [hline, String.append_assoc]

theorem listText_eq (events : List Canonical) :
    listText events = "\n".intercalate (block events) := by
  unfold listText block
  rw [intercalate_lines]
  split
  · next h =>
    subst h
    rfl
  · rfl

theorem publishedText_eq (hne : published ≠ []) :
    publishedText published = "\n".intercalate (closing published) := by
  have hline : "Published events:\n" = "Published events:" ++ "\n" := by decide
  have hlines : lines 0 published ≠ [] := lines_ne_nil hne
  unfold publishedText closing
  rw [listText_eq, block, if_neg hne, String.intercalate_cons_of_ne_nil (by simp),
    String.intercalate_append_of_ne_nil hlines (by simp), hline, String.intercalate_singleton]
  simp only [String.append_assoc, String.append_empty]

theorem header_ne_empty (index : Nat) (event : Canonical) :
    toString index ++ ". [" ++ event.tag ++ "]" ≠ "" := by
  rw [ne_eq, ← String.toList_inj]
  simp

/-- Events are read back from their lines, up to an empty line. -/
theorem lines_append_inj
    (h : lines index events ++ "" :: rest = lines index events' ++ "" :: rest') :
    events = events' ∧ rest = rest' := by
  -- No event begins with an empty line, so that both lists end at the same one.
  induction events generalizing index events' with
  | nil =>
    cases events' with
    | nil => exact ⟨rfl, (List.cons.inj h).2⟩
    | cons event' events' => exact absurd (List.cons.inj h).1.symm (header_ne_empty index event')
  | cons event events ih =>
    cases events' with
    | nil => exact absurd (List.cons.inj h).1 (header_ne_empty index event)
    | cons event' events' =>
      simp only [lines, List.cons_append, List.cons.injEq, String.append_left_inj,
        String.append_right_inj] at h
      obtain ⟨htag, hcontent, h⟩ := h
      obtain ⟨rfl, rfl⟩ := ih h
      exact ⟨congrArg (· :: events) (congr (congrArg mk htag) hcontent), rfl⟩

theorem block_append_inj (h : block events ++ "" :: rest = block events' ++ "" :: rest') :
    events = events' ∧ rest = rest' := by
  have hempty : ∀ {events : List Canonical} {rest rest' : List String}, events ≠ [] →
      block events ++ "" :: rest ≠ block [] ++ "" :: rest' := by
    intro events rest rest' hne heq
    obtain ⟨event, events, rfl⟩ := List.exists_cons_of_ne_nil hne
    exact header_ne_empty 0 event (List.cons.inj heq).1
  by_cases hne : events = [] <;> by_cases hne' : events' = []
  · subst hne hne'
    exact ⟨rfl, (List.cons.inj (List.cons.inj h).2).2⟩
  · exact absurd (hne ▸ h).symm (hempty hne')
  · exact absurd (hne' ▸ h) (hempty hne)
  · rw [block, block, if_neg hne, if_neg hne'] at h
    exact lines_append_inj h

theorem closing_ne_nil : closing published ≠ [] :=
  List.cons_ne_nil _ _

theorem closing_inj (h : closing events = closing events') : events = events' :=
  (lines_append_inj (List.cons.inj h).2).1

theorem oneLine_lines (h : ∀ event ∈ events, event.OneLine) :
    ∀ line ∈ lines index events, Text.OneLine line := by
  induction events generalizing index with
  | nil => nofun
  | cons event events ih =>
    obtain ⟨hevent, hevents⟩ := List.forall_mem_cons.1 h
    refine List.forall_mem_cons.2 ⟨?_, List.forall_mem_cons.2 ⟨hevent.content, ih hevents⟩⟩
    simp only [oneLine_append_iff, oneLine_toString, hevent.tag, true_and, and_true]
    decide

theorem oneLine_block (h : ∀ event ∈ events, event.OneLine) :
    ∀ line ∈ block events, Text.OneLine line := by
  rw [block]
  split
  · decide
  · exact oneLine_lines h

theorem oneLine_closing (h : ∀ event ∈ published, event.OneLine) :
    ∀ line ∈ closing published, Text.OneLine line := by
  rw [closing, List.forall_mem_cons, List.forall_mem_append]
  exact ⟨by decide, oneLine_lines h, by decide⟩

end Canonical

/-! ### The line of a miss -/

theorem indexText_inj {i j : Nat} (h : indexText i = indexText j) : i = j := by
  simp only [indexText, String.append_left_inj, String.append_right_inj] at h
  exact toString_inj (congrArg _ h)

theorem rangeText_inj {first last first' last' : Nat}
    (h : rangeText first last = rangeText first' last') : first = first' ∧ last = last' := by
  simp only [rangeText, String.append_assoc, String.append_right_inj] at h
  obtain ⟨hfirst, h⟩ := (toString_append_inj (by simp) (by simp)).1 h
  rw [String.append_right_inj, toString_append_inj (by simp) (by simp)] at h
  exact ⟨hfirst, h.1⟩

/-- What the line of a miss tells. -/
inductive Locus where
  | expected (index : Nat)
  | published (index : Nat)
  | series (first last : Nat)
  | range (first last : Nat)

namespace Locus

/-- The words before the numbers. -/
def opening : Locus → String
  | expected _ => "Expected event "
  | published _ => "Unexpected published event found at "
  | series _ _ => "Expected series of events not found in range "
  | range _ _ => "Unexpected published events found in range "

/-- The numbers and what follows them. -/
def numbers : Locus → String
  | expected index => indexText index ++ " not found."
  | published index => indexText index ++ "."
  | series first last | range first last => rangeText first last ++ "."

def text (locus : Locus) : String := locus.opening ++ locus.numbers

variable {locus locus' : Locus}

theorem ne_bracket_of_mem_opening : ∀ c ∈ locus.opening.toList, (c != '[') = true := by
  rw [← List.all_eq_true]
  cases locus with
  | expected | published | series | range => dsimp only [opening]; decide

theorem head?_numbers : locus.numbers.toList.head? = some '[' := by
  cases locus <;> simp [numbers, indexText, rangeText]

theorem text_inj (h : locus.text = locus'.text) : locus = locus' := by
  -- The first bracket ends the words, and no two kinds share these.
  have hspan : ∀ locus : Locus, Span (· != '[') locus.opening.toList locus.numbers.toList :=
    fun locus => ⟨ne_bracket_of_mem_opening, by simp [head?_numbers]⟩
  have hlist := congrArg String.toList h
  rw [text, text, String.toList_append, String.toList_append] at hlist
  obtain ⟨hopening, hnumbers⟩ := span_inj (hspan locus) (hspan locus') hlist
  rw [String.toList_inj] at hopening hnumbers
  cases locus with
  | expected i =>
    cases locus' with
    | expected j =>
      simp only [numbers, String.append_left_inj] at hnumbers
      rw [indexText_inj hnumbers]
    | published | series | range => exact absurd hopening (by dsimp only [opening]; decide)
  | published i =>
    cases locus' with
    | published j =>
      simp only [numbers, String.append_left_inj] at hnumbers
      rw [indexText_inj hnumbers]
    | expected | series | range => exact absurd hopening (by dsimp only [opening]; decide)
  | series first last =>
    cases locus' with
    | series first' last' =>
      simp only [numbers, String.append_left_inj] at hnumbers
      obtain ⟨rfl, rfl⟩ := rangeText_inj hnumbers
      rfl
    | expected | published | range => exact absurd hopening (by dsimp only [opening]; decide)
  | range first last =>
    cases locus' with
    | range first' last' =>
      simp only [numbers, String.append_left_inj] at hnumbers
      obtain ⟨rfl, rfl⟩ := rangeText_inj hnumbers
      rfl
    | expected | published | series => exact absurd hopening (by dsimp only [opening]; decide)

theorem oneLine_text (locus : Locus) : Text.OneLine locus.text := by
  cases locus with
  | expected | published | series | range =>
    unfold text opening numbers indexText rangeText
    simp only [oneLine_append_iff, oneLine_toString]
    decide

end Locus

namespace Miss

/-- What a miss tells: of one event behind the last block it tells the same as of an event that does
not belong where it is. -/
def locus : Miss → Locus
  | notFound index => .expected index
  | unexpected index => .published index
  | seriesNotFound first last => .series first last
  | trailing first last => if first = last then .published first else .range first last

/-- Misses that tell the same: equal ones, and the one event behind the last block, where it could
as well be an event that does not belong there. -/
inductive Alike : Miss → Miss → Prop
  | refl {miss : Miss} : Alike miss miss
  | unexpected {index : Nat} : Alike (.unexpected index) (.trailing index index)
  | trailing {index : Nat} : Alike (.trailing index index) (.unexpected index)

variable {miss miss' : Miss}

theorem text_eq (miss : Miss) : miss.text = miss.locus.text := by
  cases miss with
  | notFound | unexpected | seriesNotFound => exact String.append_assoc
  | trailing first last =>
    change (if first = last then unexpectedText first else _) =
      (if first = last then Locus.published first else Locus.range first last).text
    split
    · exact String.append_assoc
    · exact String.append_assoc

theorem alike_iff : miss.Alike miss' ↔ miss.locus = miss'.locus := by
  constructor
  · intro h
    cases h with
    | refl => rfl
    | unexpected | trailing => simp [locus]
  · intro h
    cases miss <;> cases miss' <;> grind [locus, Alike]

end Miss

/-! ### The diagnostic -/

namespace Mismatch

/-- Mismatches that tell the same. -/
inductive Alike : Mismatch → Mismatch → Prop
  | refl {mismatch : Mismatch} : Alike mismatch mismatch
  | missed {order : Order} {expected : List Canonical} {miss miss' : Miss} (h : miss.Alike miss') :
    Alike (.missed order expected miss) (.missed order expected miss')

/-- The line that says what was expected. -/
def heading : Mismatch → String
  | notEmpty => "No events expected."
  | excluded exclusions _ =>
    "Expected not to find any event matching " ++ toString exclusions ++ " specified rule" ++
      (if exclusions = 1 then "" else "s") ++ "."
  | missed order _ _ => "Expected following events " ++ order.text ++ ":"

/-- The lines under the heading and above the published events. -/
def body : Mismatch → List String
  | notEmpty => [(Locus.published 0).text]
  | excluded _ index => ["", (Locus.published index).text]
  | missed _ expected miss => Canonical.block expected ++ ["", miss.locus.text]

variable {stream stream' : String} {published published' : List Canonical}
variable {mismatch mismatch' : Mismatch}

theorem unexpectedText_eq (index : Nat) : unexpectedText index = (Locus.published index).text :=
  String.append_assoc

theorem body_ne_nil (mismatch : Mismatch) : mismatch.body ≠ [] := by
  cases mismatch with
  | notEmpty | excluded => nofun
  | missed => simp [body]

theorem text_eq (stream : String) (hne : published ≠ []) (mismatch : Mismatch) :
    mismatch.text stream published =
      "\n".intercalate (mismatch.heading :: (mismatch.body ++ Canonical.closing published)) := by
  have hjoin :
      "\n".intercalate (mismatch.heading :: (mismatch.body ++ Canonical.closing published)) =
      mismatch.heading ++ "\n" ++ "\n".intercalate mismatch.body ++ "\n" ++
        Canonical.publishedText published := by
    rw [Canonical.publishedText_eq hne, String.intercalate_cons_of_ne_nil (by simp [body_ne_nil]),
      String.intercalate_append_of_ne_nil mismatch.body_ne_nil Canonical.closing_ne_nil]
    simp only [String.append_assoc]
  rw [hjoin]
  cases mismatch with
  | notEmpty =>
    have hend : "No events expected.\n" = "No events expected." ++ "\n" := by decide
    unfold text heading body
    dsimp only
    rw [unexpectedText_eq, hend, String.intercalate_singleton]
  | excluded exclusions index =>
    have hend : ".\n\n" = "." ++ "\n" ++ "\n" := by decide
    unfold text heading body
    dsimp only
    rw [unexpectedText_eq, hend, String.intercalate_cons_cons, String.intercalate_singleton]
    simp only [String.append_assoc, String.empty_append]
  | missed order expected miss =>
    have hcolon : ":\n" = ":" ++ "\n" := by decide
    have hend : "\n\n" = "\n" ++ "\n" := by decide
    unfold text heading body
    dsimp only
    rw [if_neg (by simpa using hne), Canonical.listText_eq, Miss.text_eq, hcolon, hend,
      String.intercalate_append_of_ne_nil Canonical.block_ne_nil (List.cons_ne_nil _ _),
      String.intercalate_cons_cons, String.intercalate_singleton]
    simp only [String.append_assoc, String.empty_append]

theorem order_inj {order order' : Order} {expected expected' : List Canonical} {miss miss' : Miss}
    (h : (missed order expected miss).heading = (missed order' expected' miss').heading) :
    order = order' := by
  unfold heading at h
  rw [String.append_left_inj, String.append_right_inj] at h
  cases order with
  | asGiven =>
    cases order' with
    | asGiven => rfl
    | any => exact absurd h (by decide)
  | any =>
    cases order' with
    | asGiven => exact absurd h (by decide)
    | any => rfl

theorem exclusions_inj {exclusions exclusions' index index' : Nat}
    (h : (excluded exclusions index).heading = (excluded exclusions' index').heading) :
    exclusions = exclusions' := by
  unfold heading at h
  dsimp only at h
  rw [String.append_left_inj, String.append_assoc, String.append_assoc, String.append_assoc,
    String.append_assoc, String.append_right_inj] at h
  exact ((toString_append_inj (by simp) (by simp)).1 h).1

theorem lines_inj
    (h : mismatch.heading :: (mismatch.body ++ Canonical.closing published) =
      mismatch'.heading :: (mismatch'.body ++ Canonical.closing published')) :
    published = published' ∧ mismatch.Alike mismatch' := by
  obtain ⟨hheading, h⟩ := List.cons.inj h
  -- Ten characters are enough to tell the headings of two kinds apart.
  have hkind := congrArg (·.toList.take 10) hheading
  cases mismatch with
  | notEmpty =>
    cases mismatch' with
    | notEmpty => exact ⟨Canonical.closing_inj (List.cons.inj h).2, .refl⟩
    | excluded | missed =>
      unfold heading at hkind
      simp at hkind
  | excluded exclusions index =>
    cases mismatch' with
    | excluded exclusions' index' =>
      obtain ⟨-, h⟩ := List.cons.inj h
      obtain ⟨hlocus, hclosing⟩ := List.cons.inj h
      cases Locus.text_inj hlocus
      rw [exclusions_inj hheading]
      exact ⟨Canonical.closing_inj hclosing, .refl⟩
    | notEmpty | missed =>
      unfold heading at hkind
      simp at hkind
  | missed order expected miss =>
    cases mismatch' with
    | missed order' expected' miss' =>
      cases order_inj hheading
      simp only [body, List.append_assoc, List.cons_append] at h
      obtain ⟨rfl, hrest⟩ := Canonical.block_append_inj h
      obtain ⟨hlocus, hclosing⟩ := List.cons.inj hrest
      exact ⟨Canonical.closing_inj hclosing, .missed (Miss.alike_iff.2 (Locus.text_inj hlocus))⟩
    | notEmpty | excluded =>
      unfold heading at hkind
      simp at hkind

/-- The events that were expected. -/
def expected : Mismatch → List Canonical
  | notEmpty | excluded _ _ => []
  | missed _ expected _ => expected

theorem oneLine_heading (mismatch : Mismatch) : Text.OneLine mismatch.heading := by
  cases mismatch with
  | notEmpty =>
    unfold heading
    dsimp only
    decide
  | excluded exclusions index =>
    have hplural : Text.OneLine (if exclusions = 1 then "" else "s") := by
      split
      · decide
      · decide
    unfold heading
    simp only [oneLine_append_iff, oneLine_toString, hplural, and_true]
    decide
  | missed order expected miss =>
    unfold heading
    simp only [oneLine_append_iff]
    cases order with
    | asGiven | any => decide

theorem oneLine_body (h : ∀ event ∈ mismatch.expected, event.OneLine) :
    ∀ line ∈ mismatch.body, Text.OneLine line := by
  have hempty : Text.OneLine "" := by decide
  cases mismatch with
  | notEmpty => exact List.forall_mem_singleton.2 (Locus.oneLine_text _)
  | excluded => simp [body, hempty, Locus.oneLine_text]
  | missed order expected miss =>
    refine List.forall_mem_append.2 ⟨Canonical.oneLine_block h, ?_⟩
    simp [hempty, Locus.oneLine_text]

theorem oneLine_lines (h : ∀ event ∈ mismatch.expected ++ published, event.OneLine) :
    ∀ line ∈ mismatch.heading :: (mismatch.body ++ Canonical.closing published),
      Text.OneLine line := by
  obtain ⟨hexpected, hpublished⟩ := List.forall_mem_append.1 h
  rw [List.forall_mem_cons, List.forall_mem_append]
  exact ⟨mismatch.oneLine_heading, oneLine_body hexpected, Canonical.oneLine_closing hpublished⟩

/-- Where there are published events, and all tags and contents are lines, the diagnostic tells
these events and the mismatch. Contents that are serialized forms are lines. -/
theorem text_eq_text_iff (ε : Type) [Event ε] (hne : published ≠ []) (hne' : published' ≠ [])
    (h : ∀ event ∈ mismatch.expected ++ published, event.OneLine)
    (h' : ∀ event ∈ mismatch'.expected ++ published', event.OneLine) :
    (mismatch.text stream published = mismatch'.text stream' published' ↔
      published = published' ∧ mismatch.Alike mismatch') ∧
    ∀ (event : ε) (form : Canonical), Canonicalizer.json.canonical event = .ok form →
      Text.OneLine form.content := by
  refine ⟨?_, fun event form hform => ?_⟩
  · rw [text_eq stream hne, text_eq stream' hne', joinLines_inj (List.cons_ne_nil _ _)
      (List.cons_ne_nil _ _) (oneLine_lines h) (oneLine_lines h')]
    refine ⟨lines_inj, ?_⟩
    rintro ⟨rfl, halike⟩
    cases halike with
    | refl => rfl
    | missed halike =>
      unfold heading body
      dsimp only
      rw [Miss.alike_iff.1 halike]
  · unfold Canonicalizer.json at hform
    dsimp only at hform
    split at hform
    · cases hform
      exact Json.oneLine_text _
    · cases hform

/-- One event behind the last block is told as an event that does not belong there, and otherwise
than a missing one. -/
theorem text_eq_text_iff_trailing :
    let published : List Canonical := [⟨"Sent", "1"⟩, ⟨"Paid", "2"⟩]
    let mismatch : Miss → Mismatch := missed .asGiven [⟨"Sent", "1"⟩]
    (mismatch (.unexpected 1)).text "a" published = (mismatch (.trailing 1 1)).text "b" published ∧
      (mismatch (.unexpected 1)).text "a" published ≠
        (mismatch (.notFound 1)).text "a" published := by
  intro published mismatch
  have hlines : ∀ miss, ∀ event ∈ (mismatch miss).expected ++ published, event.OneLine := by
    intro miss event hmem
    have hevents : event = ⟨"Sent", "1"⟩ ∨ event = ⟨"Paid", "2"⟩ := by
      simpa [mismatch, expected, published] using hmem
    rcases hevents with rfl | rfl
    · exact ⟨by decide, by decide⟩
    · exact ⟨by decide, by decide⟩
  constructor
  · exact (text_eq_text_iff Scripted.Event (by decide) (by decide) (hlines _) (hlines _)).1.2
      ⟨rfl, .missed .unexpected⟩
  · intro h
    have halike := ((text_eq_text_iff Scripted.Event (by decide) (by decide) (hlines _)
      (hlines _)).1.1 h).2
    rcases halike with _ | halike
    cases halike

end Mismatch

end GivenWhenThen
