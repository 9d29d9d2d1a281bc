import Zentra.PythonText

/-!
# Numbers in texts

What a text has to look like to be a number: a run of digits for `str.isdigit()`, and the
literals of `float(text)`, which may stand between white space, have their digits of any
script, and have underscores between the digits.

* `trim_eq_self_iff` — a text without anything to strip;
* `readFloat` — the literals that are plain: ASCII, and nothing around the number;
* `floatOf_eq_readFloat` — a text that could be one is read alike by `float(text)`;
* `unadorned_of_readFloat` — and no other text is a plain literal.
-/

open PythonText

namespace PythonNumbers

/-- What the Unicode database says of a character, and what of it is ASCII. -/
structure CharacterData where
  /-- `c.isalnum()` -/
  alnum : Char → Bool
  /-- `c.isdigit()` -/
  digit : Char → Bool
  /-- `unicodedata.decimal(c)`, as an ASCII digit -/
  decimal : Char → Option Char
  alnum_ascii : ∀ c, c.toNat < 128 → alnum c = c.isAlphanum
  digit_ascii : ∀ c, c.toNat < 128 → digit c = c.isDigit
  alnum_space : ∀ c, isSpace c = true → alnum c = false

def IsAscii (c : Char) : Prop := c.toNat < 128

instance : DecidablePred IsAscii := fun c => inferInstanceAs (Decidable (c.toNat < 128))

theorem isDigit_iff {c : Char} : c.isDigit = true ↔ 48 ≤ c.toNat ∧ c.toNat ≤ 57 := by
  unfold Char.isDigit
  rw [Bool.and_eq_true, decide_eq_true_eq, decide_eq_true_eq, ge_iff_le, UInt32.le_iff_toNat_le,
    UInt32.le_iff_toNat_le]
  rfl

theorem isAlpha_iff {c : Char} :
    c.isAlpha = true ↔ 65 ≤ c.toNat ∧ c.toNat ≤ 90 ∨ 97 ≤ c.toNat ∧ c.toNat ≤ 122 := by
  unfold Char.isAlpha Char.isUpper Char.isLower
  simp only [Bool.or_eq_true, Bool.and_eq_true, decide_eq_true_eq, ge_iff_le,
    UInt32.le_iff_toNat_le]
  rfl

theorem isSpace_of_isAlphanum {c : Char} (h : c.isAlphanum = true) : isSpace c = false := by
  unfold Char.isAlphanum at h
  rw [Bool.or_eq_true, isAlpha_iff, isDigit_iff] at h
  unfold isSpace
  simp only [Bool.or_eq_false_iff, Bool.and_eq_false_iff, decide_eq_false_iff_not,
    beq_eq_false_iff_ne]
  omega

def CharacterData.ascii : CharacterData where
  alnum := Char.isAlphanum
  digit := Char.isDigit
  decimal _ := none
  alnum_ascii _ _ := rfl
  digit_ascii _ _ := rfl
  alnum_space c hspace := by
    by_contra halnum
    have hnot := isSpace_of_isAlphanum (Bool.eq_true_of_not_eq_false halnum)
    rw [hspace] at hnot
    cases hnot

/-- The text without the characters at its ends that are to go. -/
def trim (gone : Char → Bool) (text : List Char) : List Char :=
  ((text.dropWhile gone).reverse.dropWhile gone).reverse

section Trim

variable {gone : Char → Bool} {text : List Char}

theorem strip_eq_trim (text : String) :
    PythonText.strip text = String.ofList (trim isSpace text.toList) := rfl

theorem trim_prefix_dropWhile (gone : Char → Bool) (text : List Char) :
    trim gone text <+: text.dropWhile gone := by
  have hback : ((text.dropWhile gone).reverse.dropWhile gone).reverse <+:
      (text.dropWhile gone).reverse.reverse :=
    List.reverse_prefix.2 (List.dropWhile_suffix gone)
  rw [List.reverse_reverse] at hback
  exact hback

theorem trim_sublist (gone : Char → Bool) (text : List Char) : (trim gone text).Sublist text :=
  (trim_prefix_dropWhile gone text).sublist.trans (List.dropWhile_sublist gone)

theorem dropWhile_eq_self_iff :
    text.dropWhile gone = text ↔ ∀ c, text.head? = some c → gone c = false := by
  cases text with
  | nil => simp
  | cons c text =>
      constructor
      · intro h first hfirst
        cases hfirst
        by_contra hgone
        rw [List.dropWhile_cons_of_pos (Bool.eq_true_of_not_eq_false hgone)] at h
        have hlength := (List.dropWhile_sublist gone (l := text)).length_le
        rw [h, List.length_cons] at hlength
        omega
      · intro h
        exact List.dropWhile_cons_of_neg (by simp [h c rfl])

/-- **Nothing to strip**: neither the first nor the last character is to go. -/
theorem trim_eq_self_iff :
    trim gone text = text ↔ (∀ c, text.head? = some c → gone c = false) ∧
      ∀ c, text.getLast? = some c → gone c = false := by
  constructor
  · intro h
    have hlength := (trim_prefix_dropWhile gone text).length_le
    rw [h] at hlength
    have hfront : text.dropWhile gone = text :=
      (List.dropWhile_sublist gone).eq_of_length_le hlength
    refine ⟨dropWhile_eq_self_iff.1 hfront, ?_⟩
    rw [trim, hfront] at h
    have hback : text.reverse.dropWhile gone = text.reverse := List.reverse_eq_iff.1 h
    intro c hc
    exact dropWhile_eq_self_iff.1 hback c (by rw [List.head?_reverse]; exact hc)
  · intro ⟨hfirst, hlast⟩
    have hback : text.reverse.dropWhile gone = text.reverse := by
      refine dropWhile_eq_self_iff.2 ?_
      intro c hc
      rw [List.head?_reverse] at hc
      exact hlast c hc
    rw [trim, dropWhile_eq_self_iff.2 hfirst, hback, List.reverse_reverse]

end Trim

/-- `text.isdigit()`. -/
def isDigitText (data : CharacterData) (text : List Char) : Bool :=
  text ≠ [] && text.all data.digit

/-- What a literal of `float(text)` stands for: a number, infinite or not, or none. -/
inductive FloatKind
  | number | nan
  deriving DecidableEq, Repr

def withoutSign : List Char → List Char
  | '+' :: rest => rest
  | '-' :: rest => rest
  | text => text

/-- What may follow the digits: nothing, or a power of ten. -/
def isExponent : List Char → Bool
  | [] => true
  | c :: rest => (c = 'e' || c = 'E') && withoutSign rest ≠ [] &&
      (withoutSign rest).all Char.isDigit

/-- Digits, of which a point may be anywhere, and an exponent. -/
def isFloatNumber (text : List Char) : Bool :=
  let whole := text.takeWhile Char.isDigit
  match text.dropWhile Char.isDigit with
  | '.' :: rest => (whole ≠ [] || rest.takeWhile Char.isDigit ≠ []) &&
      isExponent (rest.dropWhile Char.isDigit)
  | rest => whole ≠ [] && isExponent rest

/-- The value of a plain literal, as to its kind. -/
def readFloat (text : List Char) : Option FloatKind :=
  let unsigned := withoutSign text
  let word := unsigned.map Char.toLower
  if word = "inf".toList ∨ word = "infinity".toList then some .number
  else if word = "nan".toList then some .nan
  else if isFloatNumber unsigned then some .number
  else none

/-- The characters of plain literals. -/
def IsFloatChar (c : Char) : Prop := c.isAlphanum = true ∨ c = '.' ∨ c = '+' ∨ c = '-'

theorem mem_withoutSign {text : List Char} {c : Char} (h : c ∈ text) :
    c ∈ withoutSign text ∨ c = '+' ∨ c = '-' := by
  unfold withoutSign
  split
  · rcases List.mem_cons.1 h with hsign | hrest
    · exact .inr (.inl hsign)
    · exact .inl hrest
  · rcases List.mem_cons.1 h with hsign | hrest
    · exact .inr (.inr hsign)
    · exact .inl hrest
  · exact .inl h

theorem isFloatChar_of_isDigit {c : Char} (h : c.isDigit = true) : IsFloatChar c :=
  .inl (by rw [Char.isAlphanum, h, Bool.or_true])

theorem isFloatChar_of_isExponent {text : List Char} {c : Char} (h : isExponent text = true)
    (hc : c ∈ text) : IsFloatChar c := by
  cases text with
  | nil => cases hc
  | cons first rest =>
      simp only [isExponent, Bool.and_eq_true, Bool.or_eq_true, decide_eq_true_eq,
        List.all_eq_true] at h
      obtain ⟨⟨hfirst, -⟩, hdigits⟩ := h
      rcases List.mem_cons.1 hc with rfl | hrest
      · rcases hfirst with rfl | rfl
        · exact .inl (by decide)
        · exact .inl (by decide)
      · rcases mem_withoutSign hrest with hdigit | hsign
        · exact isFloatChar_of_isDigit (hdigits c hdigit)
        · exact .inr (.inr hsign)

theorem mem_takeWhile_or_dropWhile {p : Char → Bool} {text : List Char} {c : Char}
    (h : c ∈ text) : p c = true ∨ c ∈ text.dropWhile p := by
  rw [← List.takeWhile_append_dropWhile (p := p) (l := text), List.mem_append] at h
  exact h.imp_left (List.all_eq_true.1 List.all_takeWhile c)

theorem isFloatChar_of_isFloatNumber {text : List Char} {c : Char}
    (h : isFloatNumber text = true) (hc : c ∈ text) : IsFloatChar c := by
  rcases mem_takeWhile_or_dropWhile (p := Char.isDigit) hc with hdigit | hrest
  · exact isFloatChar_of_isDigit hdigit
  unfold isFloatNumber at h
  split at h
  next rest hpoint =>
      rw [hpoint] at hrest
      rcases List.mem_cons.1 hrest with rfl | hrest
      · exact .inr (.inl rfl)
      rcases mem_takeWhile_or_dropWhile (p := Char.isDigit) hrest with hdigit | hrest
      · exact isFloatChar_of_isDigit hdigit
      · exact isFloatChar_of_isExponent (Bool.and_eq_true_iff.1 h).2 hrest
  next =>
      exact isFloatChar_of_isExponent (Bool.and_eq_true_iff.1 h).2 hrest

/-- A character whose lower case is a letter is a letter. -/
theorem isAlpha_of_toLower {c : Char} (h : c.toLower.isAlpha = true) : c.isAlpha = true := by
  unfold Char.toLower at h
  split at h
  next hupper =>
      refine isAlpha_iff.2 (.inl ?_)
      simpa [UInt32.le_iff_toNat_le] using hupper
  next => exact h

/-- **The characters of a plain literal.** -/
theorem isFloatChar_of_readFloat {text : List Char} {kind : FloatKind} {c : Char}
    (h : readFloat text = some kind) (hc : c ∈ text) : IsFloatChar c := by
  rcases mem_withoutSign hc with hmem | hsign
  · have hword : ∀ word : List Char, (withoutSign text).map Char.toLower = word →
        word.all Char.isAlpha = true → IsFloatChar c := by
      intro word hword hletters
      have hlower : c.toLower ∈ word := hword ▸ List.mem_map_of_mem hmem
      have halpha := isAlpha_of_toLower (List.all_eq_true.1 hletters _ hlower)
      exact .inl (by rw [Char.isAlphanum, halpha, Bool.true_or])
    unfold readFloat at h
    dsimp only at h
    split at h
    next hinf =>
        rcases hinf with hinf | hinf
        · exact hword _ hinf (by decide)
        · exact hword _ hinf (by decide)
    next =>
        split at h
        next hnan => exact hword _ hnan (by decide)
        next =>
            split at h
            next hnumber => exact isFloatChar_of_isFloatNumber hnumber hmem
            next => cases h
  · exact .inr (.inr hsign)

/-- The white space around a literal. -/
def isFloatSpace (c : Char) : Bool :=
  (0x09 ≤ c.toNat && c.toNat ≤ 0x0D) || c.toNat == 0x20

/-- A character as the literal is read: digits of any script are digits. -/
def asciiImage (data : CharacterData) (c : Char) : Char :=
  if IsAscii c then c else if isSpace c then ' ' else (data.decimal c).getD '?'

/-- The literal without its underscores, each of which has to be between two digits. -/
def withoutUnderscores : Char → List Char → Option (List Char)
  | previous, [] => if previous = '_' then none else some []
  | previous, c :: rest =>
      if c = '_' then
        if previous.isDigit then withoutUnderscores '_' rest else none
      else if previous = '_' ∧ ¬ c.isDigit then none
      else (withoutUnderscores c rest).map (c :: ·)

/-- `float(text)`, as to its kind: none where it raises. -/
def floatOf (data : CharacterData) (text : List Char) : Option FloatKind :=
  (withoutUnderscores '\x00' (trim isFloatSpace (text.map (asciiImage data)))).bind readFloat

/-- The text could be plain: it is ASCII without underscores, and without space around it. -/
structure Unadorned (text : List Char) : Prop where
  ascii : ∀ c ∈ text, IsAscii c
  underscores : '_' ∉ text
  trimmed : trim isFloatSpace text = text

instance (text : List Char) : Decidable (Unadorned text) :=
  decidable_of_iff
    (text.all (fun c => decide (IsAscii c)) = true ∧ '_' ∉ text ∧ trim isFloatSpace text = text)
    ⟨fun h => ⟨fun c hc => of_decide_eq_true (List.all_eq_true.1 h.1 c hc), h.2.1, h.2.2⟩,
      fun h => ⟨List.all_eq_true.2 fun c hc => decide_eq_true (h.ascii c hc),
        h.underscores, h.trimmed⟩⟩

theorem withoutUnderscores_eq_self {previous : Char} {text : List Char} (hprevious : previous ≠ '_')
    (h : '_' ∉ text) : withoutUnderscores previous text = some text := by
  induction text generalizing previous with
  | nil => exact if_neg hprevious
  | cons c rest ih =>
      obtain ⟨hc, hrest⟩ := not_or.1 (mt List.mem_cons.2 h)
      have hne : c ≠ '_' := fun hsame => hc hsame.symm
      rw [withoutUnderscores, if_neg hne, if_neg fun hunder => hprevious hunder.1, ih hne hrest]
      rfl

/-- **A text that could be plain** is read as a plain literal. -/
theorem floatOf_eq_readFloat (data : CharacterData) {text : List Char} (h : Unadorned text) :
    floatOf data text = readFloat text := by
  have himage : text.map (asciiImage data) = text := by
    refine (List.map_congr_left ?_).trans (List.map_id text)
    intro c hc
    exact if_pos (h.ascii c hc)
  rw [floatOf, himage, h.trimmed, withoutUnderscores_eq_self (by decide) h.underscores]
  rfl

theorem IsFloatChar.facts {c : Char} (h : IsFloatChar c) :
    IsAscii c ∧ c ≠ '_' ∧ isFloatSpace c = false := by
  rcases h with h | rfl | rfl | rfl
  · have hspace := isSpace_of_isAlphanum h
    unfold Char.isAlphanum at h
    rw [Bool.or_eq_true, isAlpha_iff, isDigit_iff] at h
    refine ⟨?_, ?_, ?_⟩
    · unfold IsAscii
      omega
    · rintro rfl
      revert h
      decide
    · unfold isFloatSpace
      simp only [Bool.or_eq_false_iff, Bool.and_eq_false_iff, decide_eq_false_iff_not,
        beq_eq_false_iff_ne]
      omega
  · decide
  · decide
  · decide

/-- **A plain literal** is such a text. -/
theorem unadorned_of_readFloat {text : List Char} {kind : FloatKind}
    (h : readFloat text = some kind) : Unadorned text := by
  have hchars : ∀ c ∈ text, IsAscii c ∧ c ≠ '_' ∧ isFloatSpace c = false :=
    fun c hc => (isFloatChar_of_readFloat h hc).facts
  refine ⟨fun c hc => (hchars c hc).1, fun hmem => (hchars _ hmem).2.1 rfl, ?_⟩
  refine trim_eq_self_iff.2 ⟨?_, ?_⟩
  · intro c hc
    exact (hchars c (List.mem_of_mem_head? hc)).2.2
  · intro c hc
    exact (hchars c (List.mem_of_mem_getLast? hc)).2.2

end PythonNumbers
