import GivenWhenThen.Json.Text
import GivenWhenThen.Json.Token
import GivenWhenThen.Proofs.Json.Number
import Mathlib.Tactic.IntervalCases

/-! Different values have different texts, by `Json.text_inj`. A text can be read from its front:
its first character tells the shape of the value, a string goes on up to the first quote that stands
for itself, a number up to a character that no number has, and the elements of a container up to its
closing character. `ReadBack` says so of one value, whatever follows it, and `readBack_text` proves
it by induction on the value. No text has a line end, by `oneLine_text`. -/

namespace GivenWhenThen.Json

open Decimal Text

/-! ### Strings -/

/-- The characters that stand for one character of a string. -/
def word (c : Char) : List Char := (escape? c).getD [c]

/-- Reads the first character of a string back, and what follows it. -/
def unescape? : List Char → Option (Char × List Char)
  | '\\' :: 'u' :: _ :: _ :: high :: low :: rest => do
    let high ← Lexer.hexValue? high
    let low ← Lexer.hexValue? low
    return (Char.ofNat (16 * high + low), rest)
  | '\\' :: c :: rest => (Lexer.unescape? c).map (·, rest)
  | c :: rest => some (c, rest)
  | [] => none

/-- What holds of the characters below U+0020 one by one holds of them all. -/
theorem forall_control {p : Char → Prop} (h : ∀ n < 0x20, p (Char.ofNat n)) {c : Char}
    (hc : c.toNat < 0x20) : p c := by
  rw [← Char.ofNat_toNat c]
  exact h c.toNat hc

theorem word_of_ne {c : Char} (hcontrol : ¬c.toNat < 0x20) (hquote : c ≠ '"')
    (hbackslash : c ≠ '\\') : word c = [c] := by
  unfold word escape?
  split
  · exact absurd rfl hquote
  · exact absurd rfl hbackslash
  · exact absurd (by decide) hcontrol
  · exact absurd (by decide) hcontrol
  · exact absurd (by decide) hcontrol
  · exact absurd (by decide) hcontrol
  · exact absurd (by decide) hcontrol
  · rw [if_neg hcontrol, Option.getD_none]

theorem unescape?_word (c : Char) (rest : List Char) :
    unescape? (word c ++ rest) = some (c, rest) := by
  by_cases hcontrol : c.toNat < 0x20
  · refine forall_control (p := fun c => unescape? (word c ++ rest) = some (c, rest)) ?_ hcontrol
    intro n hn
    interval_cases n <;> rfl
  · by_cases hquote : c = '"'
    · rw [hquote]
      rfl
    · by_cases hbackslash : c = '\\'
      · rw [hbackslash]
        rfl
      · rw [word_of_ne hcontrol hquote hbackslash, List.singleton_append, unescape?]
        · exact fun _ _ _ _ _ h => absurd h hbackslash
        · exact fun _ _ h => absurd h hbackslash

theorem word_append_inj {c d : Char} {r s : List Char} (h : word c ++ r = word d ++ s) :
    c = d ∧ r = s := by
  have hread := unescape?_word c r
  rw [h, unescape?_word] at hread
  exact (Prod.mk.inj (Option.some.inj hread)).imp Eq.symm Eq.symm

/-- A quote stands for itself only at the end of a string. -/
theorem word_append_ne {c : Char} {r s : List Char} : word c ++ r ≠ '"' :: s := by
  intro h
  have hread := unescape?_word c r
  rw [h, unescape?] at hread
  · obtain ⟨rfl, -⟩ := Prod.mk.inj (Option.some.inj hread)
    cases h
  · nofun
  · nofun

theorem escape_append_inj {l m r s : List Char} (h : escape l ++ '"' :: r = escape m ++ '"' :: s) :
    l = m ∧ r = s := by
  have hcons : ∀ (c : Char) (l r : List Char), escape (c :: l) ++ r = word c ++ (escape l ++ r) :=
    fun c l r => List.append_assoc ..
  induction l generalizing m with
  | nil =>
    cases m with
    | nil => exact ⟨rfl, (List.cons.inj h).2⟩
    | cons d m =>
      rw [hcons] at h
      exact absurd h.symm word_append_ne
  | cons c l ih =>
    rw [hcons] at h
    cases m with
    | nil => exact absurd h word_append_ne
    | cons d m =>
      rw [hcons] at h
      obtain ⟨rfl, hrest⟩ := word_append_inj h
      obtain ⟨rfl, rfl⟩ := ih hrest
      exact ⟨rfl, rfl⟩

theorem toList_quote_append (s : String) (r : List Char) :
    (quote s).toList ++ r = '"' :: (escape s.toList ++ '"' :: r) := by
  simp [quote]

theorem quote_append_inj {k l : String} {r s : List Char}
    (h : (quote k).toList ++ r = (quote l).toList ++ s) : k = l ∧ r = s := by
  rw [toList_quote_append, toList_quote_append] at h
  obtain ⟨hlist, hrest⟩ := escape_append_inj (List.cons.inj h).2
  exact ⟨String.toList_inj.1 hlist, hrest⟩

theorem newline_not_mem_word (c : Char) : '\n' ∉ word c := by
  by_cases hcontrol : c.toNat < 0x20
  · exact forall_control (p := fun c => '\n' ∉ word c) (by decide) hcontrol
  · by_cases hquote : c = '"'
    · rw [hquote]
      decide
    · by_cases hbackslash : c = '\\'
      · rw [hbackslash]
        decide
      · rw [word_of_ne hcontrol hquote hbackslash, List.mem_singleton]
        rintro rfl
        exact hcontrol (by decide)

theorem oneLine_quote (s : String) : OneLine (quote s) := by
  have hescape : ∀ l : List Char, '\n' ∉ escape l := by
    intro l
    induction l with
    | nil => nofun
    | cons c l ih => exact fun h => (List.mem_append.1 h).elim (newline_not_mem_word c) ih
  have hlist : OneLine (String.ofList (escape s.toList)) := by
    rw [OneLine, String.toList_ofList]
    exact hescape _
  rw [quote, oneLine_append_iff, oneLine_append_iff]
  exact ⟨⟨by decide, hlist⟩, by decide⟩

/-! ### Elements between commas -/

/-- A text that begins with nothing that could go on with a number. -/
def Ended (r : List Char) : Prop := ∀ c ∈ r.head?, isNumberChar c = false

theorem ended_cons {c : Char} {r : List Char} (hc : isNumberChar c = false) : Ended (c :: r) := by
  intro d hd
  rwa [← Option.some.inj hd]

section Separated

variable {α : Type} {w : α → String} {close : Char} {as bs : List α} {r s : List Char}

/-- The text of `a` is read back where no number goes on. -/
def ReadBack (w : α → String) (a : α) : Prop :=
  ∀ {b : α} {r s : List Char}, Ended r → Ended s →
    (w a).toList ++ r = (w b).toList ++ s → a = b ∧ r = s

/-- Elements, each after a comma, and what follows them. -/
def following (w : α → String) (r : List Char) : List α → List Char
  | [] => r
  | a :: as => ',' :: ((w a).toList ++ following w r as)

theorem ended_following (hr : Ended r) : Ended (following w r as) := by
  cases as with
  | nil => exact hr
  | cons => exact ended_cons (by decide)

/-- Elements after commas are read back up to a closing character. -/
theorem following_inj (hclose : isNumberChar close = false) (hcomma : close ≠ ',')
    (hread : ∀ a ∈ as, ReadBack w a)
    (h : following w (close :: r) as = following w (close :: s) bs) : as = bs ∧ r = s := by
  induction as generalizing bs with
  | nil =>
    cases bs with
    | nil => exact ⟨rfl, (List.cons.inj h).2⟩
    | cons b bs => exact absurd (List.cons.inj h).1 hcomma
  | cons a as ih =>
    cases bs with
    | nil => exact absurd (List.cons.inj h).1.symm hcomma
    | cons b bs =>
      have hended : ∀ {r as}, Ended (following w (close :: r) as) :=
        ended_following (ended_cons hclose)
      obtain ⟨ha, has⟩ := List.forall_mem_cons.1 hread
      obtain ⟨rfl, hrest⟩ := ha hended hended (List.cons.inj h).2
      obtain ⟨rfl, rfl⟩ := ih has hrest
      exact ⟨rfl, rfl⟩

/-- The same of a list whose first element has no comma before it, and begins otherwise than the
list is closed. -/
theorem separated_inj {l : List α → String} (hclose : isNumberChar close = false)
    (hcomma : close ≠ ',') (hstart : ∀ a r s, (w a).toList ++ r ≠ close :: s) (hnil : l [] = "")
    (hcons : ∀ a as r, (l (a :: as)).toList ++ r = (w a).toList ++ following w r as)
    (hread : ∀ a ∈ as, ReadBack w a)
    (h : (l as).toList ++ close :: r = (l bs).toList ++ close :: s) : as = bs ∧ r = s := by
  have hempty : ∀ r, (l []).toList ++ r = r := by
    intro r
    rw [hnil]
    rfl
  cases as with
  | nil =>
    cases bs with
    | nil => exact ⟨rfl, (List.cons.inj (List.append_cancel_left h)).2⟩
    | cons b bs =>
      rw [hempty, hcons] at h
      exact (hstart _ _ _ h.symm).elim
  | cons a as =>
    cases bs with
    | nil =>
      rw [hempty, hcons] at h
      exact (hstart _ _ _ h).elim
    | cons b bs =>
      rw [hcons, hcons] at h
      exact following_inj hclose hcomma hread (congrArg (',' :: ·) h)

end Separated

/-! ### Values -/

/-- Induction on a value, with the elements of a container as a list. -/
theorem induction {p : Json → Prop} (null : p .null) (bool : ∀ b, p (.bool b))
    (number : ∀ n, p (.number n)) (string : ∀ s, p (.string s))
    (array : ∀ items, (∀ x ∈ items, p x) → p (.array items))
    (object : ∀ fields, (∀ f ∈ fields, p f.2) → p (.object fields)) (value : Json) : p value :=
  @Json.rec p (fun items => ∀ x ∈ items, p x) (fun fields => ∀ f ∈ fields, p f.2) (fun f => p f.2)
    null bool number string array object nofun (fun _ _ hx hxs => List.forall_mem_cons.2 ⟨hx, hxs⟩)
    nofun (fun _ _ hf hfs => List.forall_mem_cons.2 ⟨hf, hfs⟩) (fun _ _ h => h) value

/-- The text of a field. -/
def fieldText [FloatText] (field : String × Json) : String := quote field.1 ++ ":" ++ text field.2

theorem textItems_cons_append [FloatText] (x : Json) (items : List Json) (r : List Char) :
    (textItems (x :: items)).toList ++ r = (text x).toList ++ following text r items := by
  induction items generalizing x with
  | nil => rfl
  | cons y items ih =>
    simp only [textItems, following, String.toList_append, List.append_assoc, ih]
    rfl

theorem textFields_cons_append [FloatText] (f : String × Json) (fields : List (String × Json))
    (r : List Char) :
    (textFields (f :: fields)).toList ++ r =
      (fieldText f).toList ++ following fieldText r fields := by
  induction fields generalizing f with
  | nil => rfl
  | cons g fields ih =>
    simp only [textFields, fieldText, following, String.toList_append, List.append_assoc, ih]
    rfl

/-- What the first character of a text tells of the value. -/
inductive Shape where
  | null
  | bool (value : Bool)
  | number
  | string
  | array
  | object

def shape : Json → Shape
  | null => .null
  | bool b => .bool b
  | number _ => .number
  | string _ => .string
  | array _ => .array
  | object _ => .object

/-- The shape of the values whose text begins with the character, if it begins any. -/
def Shape.ofChar? (c : Char) : Option Shape :=
  match c with
  | 'n' => some .null
  | 't' => some (.bool true)
  | 'f' => some (.bool false)
  | '"' => some .string
  | '[' => some .array
  | '\x7b' => some .object
  | c => if isNumberChar c then some .number else none

theorem Shape.ofChar?_of_isNumberChar {c : Char} (h : isNumberChar c = true) :
    ofChar? c = some .number := by
  unfold ofChar?
  split
  · exact absurd h (by decide)
  · exact absurd h (by decide)
  · exact absurd h (by decide)
  · exact absurd h (by decide)
  · exact absurd h (by decide)
  · exact absurd h (by decide)
  · exact if_pos h

section Text

variable [FloatText] [LawfulFloatText]

theorem exists_text_eq_cons (value : Json) :
    ∃ c rest, value.text.toList = c :: rest ∧ Shape.ofChar? c = some value.shape := by
  cases value with
  | null => exact ⟨'n', ['u', 'l', 'l'], by simp [text], rfl⟩
  | bool b =>
    cases b with
    | false => exact ⟨'f', ['a', 'l', 's', 'e'], by simp [text], rfl⟩
    | true => exact ⟨'t', ['r', 'u', 'e'], by simp [text], rfl⟩
  | number n =>
    obtain ⟨c, rest, hcons⟩ := List.exists_cons_of_ne_nil n.toList_text_ne_nil
    have hc : isNumberChar c = true := Number.isNumberChar_of_mem (by rw [hcons]; simp)
    exact ⟨c, rest, hcons, Shape.ofChar?_of_isNumberChar hc⟩
  | string s => exact ⟨'"', escape s.toList ++ ['"'], by simp [text, quote], rfl⟩
  | array items => exact ⟨'[', (textItems items).toList ++ [']'], by simp [text], rfl⟩
  | object fields => exact ⟨'\x7b', (textFields fields).toList ++ ['\x7d'], by simp [text], rfl⟩

theorem shape_eq_of_text_append_eq {x y : Json} {r s : List Char}
    (h : x.text.toList ++ r = y.text.toList ++ s) : x.shape = y.shape := by
  obtain ⟨c, rest, hx, hc⟩ := x.exists_text_eq_cons
  obtain ⟨d, rest', hy, hd⟩ := y.exists_text_eq_cons
  rw [hx, hy] at h
  rw [(List.cons.inj h).1, hd] at hc
  exact (Option.some.inj hc).symm

theorem text_append_ne_cons {c : Char} (hc : Shape.ofChar? c = none) (x : Json)
    (r s : List Char) : x.text.toList ++ r ≠ c :: s := by
  intro h
  obtain ⟨d, rest, hx, hd⟩ := x.exists_text_eq_cons
  rw [hx] at h
  rw [(List.cons.inj h).1, hc] at hd
  cases hd

omit [LawfulFloatText] in
theorem readBack_fieldText {key : String} {value : Json} (h : ReadBack text value) :
    ReadBack fieldText (key, value) := by
  intro g r s hr hs heq
  obtain ⟨key', value'⟩ := g
  simp only [fieldText, String.toList_append, List.append_assoc] at heq
  obtain ⟨rfl, hvalue⟩ := quote_append_inj heq
  obtain ⟨rfl, hrest⟩ := h hr hs (List.append_cancel_left hvalue)
  exact ⟨rfl, hrest⟩

omit [LawfulFloatText] in
theorem fieldText_append_ne_cons {c : Char} (hc : c ≠ '"') (f : String × Json) (r s : List Char) :
    (fieldText f).toList ++ r ≠ c :: s := by
  intro h
  rw [fieldText, String.append_assoc, String.toList_append, List.append_assoc,
    toList_quote_append] at h
  exact hc (List.cons.inj h).1.symm

/-- The text of a value is read back where no number goes on. -/
theorem readBack_text (value : Json) : ReadBack text value := by
  -- In each case the first character leaves one constructor for the other value.
  induction value using induction with
  | null =>
    intro y r s hr hs h
    have hshape := shape_eq_of_text_append_eq h
    cases y with
    | null => exact ⟨rfl, List.append_cancel_left h⟩
    | bool | number | string | array | object => nomatch hshape
  | bool b =>
    intro y r s hr hs h
    have hshape := shape_eq_of_text_append_eq h
    cases y with
    | bool b' =>
      cases hshape
      exact ⟨rfl, List.append_cancel_left h⟩
    | null | number | string | array | object => nomatch hshape
  | number n =>
    intro y r s hr hs h
    have hshape := shape_eq_of_text_append_eq h
    cases y with
    | number m =>
      obtain ⟨htext, hrest⟩ := span_inj ⟨fun _ => Number.isNumberChar_of_mem, hr⟩
        ⟨fun _ => Number.isNumberChar_of_mem, hs⟩ h
      rw [Number.text_inj (String.toList_inj.1 htext)]
      exact ⟨rfl, hrest⟩
    | null | bool | string | array | object => nomatch hshape
  | string t =>
    intro y r s hr hs h
    have hshape := shape_eq_of_text_append_eq h
    cases y with
    | string t' =>
      obtain ⟨rfl, hrest⟩ := quote_append_inj h
      exact ⟨rfl, hrest⟩
    | null | bool | number | array | object => nomatch hshape
  | array items ih =>
    intro y r s hr hs h
    have hshape := shape_eq_of_text_append_eq h
    cases y with
    | array items' =>
      have htext : ∀ (items : List Json) (r : List Char),
          (array items).text.toList ++ r = '[' :: ((textItems items).toList ++ ']' :: r) := by
        intro items r
        simp [text]
      rw [htext, htext] at h
      obtain ⟨rfl, hrest⟩ := separated_inj (by decide) (by decide) (text_append_ne_cons rfl) rfl
        textItems_cons_append ih (List.cons.inj h).2
      exact ⟨rfl, hrest⟩
    | null | bool | number | string | object => nomatch hshape
  | object fields ih =>
    intro y r s hr hs h
    have hshape := shape_eq_of_text_append_eq h
    cases y with
    | object fields' =>
      have htext : ∀ (fields : List (String × Json)) (r : List Char),
          (object fields).text.toList ++ r =
            '\x7b' :: ((textFields fields).toList ++ '\x7d' :: r) := by
        intro fields r
        simp [text]
      rw [htext, htext] at h
      obtain ⟨rfl, hrest⟩ := separated_inj (by decide) (by decide)
        (fieldText_append_ne_cons (by decide)) rfl textFields_cons_append
        (fun f hf => readBack_fieldText (ih f hf)) (List.cons.inj h).2
      exact ⟨rfl, hrest⟩
    | null | bool | number | string | array => nomatch hshape

/-- Different values have different texts. -/
theorem text_inj {x y : Json} (h : x.text = y.text) : x = y := by
  have hended : Ended [] := nofun
  have hlist : x.text.toList ++ [] = y.text.toList ++ [] := by rw [h]
  exact (readBack_text x hended hended hlist).1

/-! ### Lines -/

omit [LawfulFloatText] in
theorem oneLine_textItems {items : List Json} (h : ∀ x ∈ items, OneLine x.text) :
    OneLine (textItems items) := by
  have hcomma : OneLine "," := by decide
  induction items with
  | nil =>
    unfold textItems
    decide
  | cons x items ih =>
    obtain ⟨hx, hitems⟩ := List.forall_mem_cons.1 h
    cases items with
    | nil => exact hx
    | cons y items =>
      rw [textItems, oneLine_append_iff, oneLine_append_iff]
      · exact ⟨⟨hx, hcomma⟩, ih hitems⟩
      · nofun

omit [LawfulFloatText] in
theorem oneLine_textFields {fields : List (String × Json)} (h : ∀ f ∈ fields, OneLine f.2.text) :
    OneLine (textFields fields) := by
  have hcomma : OneLine "," := by decide
  have hcolon : OneLine ":" := by decide
  induction fields with
  | nil =>
    unfold textFields
    decide
  | cons f fields ih =>
    obtain ⟨hf, hfields⟩ := List.forall_mem_cons.1 h
    have hfield : OneLine (quote f.1 ++ ":" ++ text f.2) := by
      rw [oneLine_append_iff, oneLine_append_iff]
      exact ⟨⟨oneLine_quote f.1, hcolon⟩, hf⟩
    cases fields with
    | nil => exact hfield
    | cons g fields =>
      rw [textFields, oneLine_append_iff, oneLine_append_iff]
      · exact ⟨⟨hfield, hcomma⟩, ih hfields⟩
      · nofun

/-- Line ends in strings are escaped, so that the text is a single line. -/
theorem oneLine_text (value : Json) : OneLine value.text := by
  induction value using induction with
  | null =>
    unfold text
    decide
  | bool b =>
    cases b with
    | false | true =>
      unfold text
      decide
  | number n => exact fun h => absurd (Number.isNumberChar_of_mem h) (by decide)
  | string s => exact oneLine_quote s
  | array items ih =>
    rw [text, oneLine_append_iff, oneLine_append_iff]
    exact ⟨⟨by decide, oneLine_textItems ih⟩, by decide⟩
  | object fields ih =>
    rw [text, oneLine_append_iff, oneLine_append_iff]
    exact ⟨⟨by decide, oneLine_textFields ih⟩, by decide⟩

end Text

end GivenWhenThen.Json
