import Zentra.LandingZone

/-!
# Types that the sampled values have

The type of a column is inferred from the shapes of its values.  A shape is wider than the type:
any number of dashes before digits of any script, whatever `float` reads, ten characters of which
two are dashes.

* `isInt64_iff`, `isFloat_iff` — what is left to ask of a value that has the shape;
* `inferred_parses_iff` — when every sampled value parses under the type that is inferred.
-/

open PythonText PythonNumbers

namespace Zentra

namespace Connector

/-- The value of digits behind an optional sign. -/
def integerValue (text : List Char) : Int :=
  let size := Nat.ofDigitChars 10 (withoutSign text) 0
  if text.head? = some '-' then -(size : Int) else size

/-- The value is in the range of the type. -/
def InInt64 (value : Int) : Prop := -2 ^ 63 ≤ value ∧ value < 2 ^ 63

/-- ASCII digits behind an optional sign, with a value in the range. -/
structure IsInt64 (text : List Char) : Prop where
  nonempty : withoutSign text ≠ []
  digits : (withoutSign text).all Char.isDigit = true
  range : InInt64 (integerValue text)

def IsLeapYear (year : Nat) : Prop := 4 ∣ year ∧ (¬ 100 ∣ year ∨ 400 ∣ year)

instance : DecidablePred IsLeapYear := fun _ => inferInstanceAs (Decidable (_ ∧ (_ ∨ _)))

def monthLength (year month : Nat) : Nat :=
  if month = 2 then if IsLeapYear year then 29 else 28
  else if month = 4 ∨ month = 6 ∨ month = 9 ∨ month = 11 then 30
  else 31

/-- The numbers of a text of the form `yyyy-mm-dd`. -/
def datePartsOf (text : List Char) : Option (Nat × Nat × Nat) :=
  match text with
  | [y₁, y₂, y₃, y₄, '-', m₁, m₂, '-', d₁, d₂] =>
      if [y₁, y₂, y₃, y₄, m₁, m₂, d₁, d₂].all Char.isDigit then
        some (Nat.ofDigitChars 10 [y₁, y₂, y₃, y₄] 0, Nat.ofDigitChars 10 [m₁, m₂] 0,
          Nat.ofDigitChars 10 [d₁, d₂] 0)
      else none
  | _ => none

/-- The text names a day of the calendar. -/
def IsCalendarDate (text : List Char) : Prop :=
  ∃ year month date, datePartsOf text = some (year, month, date) ∧
    1 ≤ year ∧ 1 ≤ month ∧ month ≤ 12 ∧ 1 ≤ date ∧ date ≤ monthLength year month

def IsFloat (text : List Char) : Prop := readFloat text ≠ none

def Parses : ColumnType → String → Prop
  | .int64, value => IsInt64 value.toList
  | .float64, value => IsFloat value.toList
  | .date, value => IsCalendarDate value.toList
  | .string, _ => True

section Shapes

variable {data : CharacterData} {value : String} {text : List Char}

/-- Without two dashes in front, and without a plus, only the sign goes. -/
theorem dropWhile_dash (hdashes : ¬ ['-', '-'] <+: text) (hplus : text.head? ≠ some '+') :
    text.dropWhile (· = '-') = withoutSign text := by
  cases text with
  | nil => rfl
  | cons first rest =>
      by_cases hfirst : first = '-'
      · subst hfirst
        rw [List.dropWhile_cons_of_pos (by decide)]
        cases rest with
        | nil => rfl
        | cons second rest =>
            have hsecond : second ≠ '-' := by
              rintro rfl
              exact hdashes ⟨rest, rfl⟩
            rw [List.dropWhile_cons_of_neg (by simpa using hsecond)]
            rfl
      · have hne : first ≠ '+' := fun hsame => hplus (hsame ▸ rfl)
        rw [List.dropWhile_cons_of_neg (by simpa using hfirst)]
        unfold withoutSign
        split
        · next hplus => exact absurd (List.cons.inj hplus).1 hne
        · next hdash => exact absurd (List.cons.inj hdash).1 hfirst
        · rfl

/-- **An integer shape** is one of the type if it is ASCII, has no more than one dash, and is not
too large. -/
theorem isInt64_iff (hshape : integerShaped data value = true) :
    IsInt64 value.toList ↔ (∀ c ∈ value.toList, IsAscii c) ∧ ¬ ['-', '-'] <+: value.toList ∧
      InInt64 (integerValue value.toList) := by
  have hdigits : value.toList.dropWhile (· = '-') ≠ [] ∧
      (value.toList.dropWhile (· = '-')).all data.digit = true := by
    unfold integerShaped isDigitText at hshape
    rw [Bool.and_eq_true, decide_eq_true_eq] at hshape
    exact hshape
  constructor
  · intro h
    refine ⟨?_, ?_, h.range⟩
    · intro c hc
      rcases mem_withoutSign hc with hdigit | rfl | rfl
      · exact (isFloatChar_of_isDigit (List.all_eq_true.1 h.digits c hdigit)).facts.1
      · decide
      · decide
    · intro hdashes
      obtain ⟨rest, hrest⟩ := hdashes
      have hdash := h.digits
      rw [← hrest] at hdash
      exact absurd hdash (by simp [withoutSign])
  · intro ⟨hascii, hdashes, hrange⟩
    have hplus : value.toList.head? ≠ some '+' := by
      intro hhead
      cases htext : value.toList with
      | nil =>
          rw [htext] at hhead
          cases hhead
      | cons first rest =>
          rw [htext] at hhead hdigits
          cases hhead
          rw [List.dropWhile_cons_of_neg (by decide), List.all_cons, Bool.and_eq_true,
            data.digit_ascii '+' (by decide)] at hdigits
          exact absurd hdigits.2.1 (by decide)
    rw [dropWhile_dash hdashes hplus] at hdigits
    refine ⟨hdigits.1, List.all_eq_true.2 ?_, hrange⟩
    intro c hc
    have hmem : c ∈ value.toList := by
      rw [← dropWhile_dash hdashes hplus] at hc
      exact (List.dropWhile_sublist _).mem hc
    rw [← data.digit_ascii c (hascii c hmem)]
    exact List.all_eq_true.1 hdigits.2 c hc

/-- **A float shape** is one of the type if it is plain. -/
theorem isFloat_iff (hshape : floatShaped data value = true) :
    IsFloat value.toList ↔ Unadorned value.toList := by
  constructor
  · intro h
    obtain ⟨kind, hkind⟩ := Option.ne_none_iff_exists'.1 h
    exact unadorned_of_readFloat hkind
  · intro h hnone
    have hread := of_decide_eq_true hshape
    rw [floatOf_eq_readFloat data h, hnone] at hread
    cases hread

end Shapes

/-- Integers are ASCII, in range and have one dash at most; floats are plain; dates are of the
calendar. -/
structure Plausible (data : CharacterData) (seen : List String) : Prop where
  integers : seen.all (integerShaped data) = true → ∀ value ∈ seen,
    (∀ c ∈ value.toList, IsAscii c) ∧ ¬ ['-', '-'] <+: value.toList ∧
      InInt64 (integerValue value.toList)
  floats : seen.all (integerShaped data) = false → seen.all (floatShaped data) = true →
    ∀ value ∈ seen, Unadorned value.toList
  dates : seen.all (integerShaped data) = false → seen.all (floatShaped data) = false →
    seen.all dateShaped = true → ∀ value ∈ seen, IsCalendarDate value.toList

/-- **Every value parses under the inferred type** exactly if the values are plausible. -/
theorem inferred_parses_iff (data : CharacterData) (values : List String) :
    (∀ value ∈ values, value ≠ "" → Parses (inferType data values) value) ↔
      Plausible data (values.filter (· ≠ "")) := by
  have hseen : (∀ value ∈ values, value ≠ "" → Parses (inferType data values) value) ↔
      ∀ value ∈ values.filter (· ≠ ""), Parses (inferType data values) value := by
    simp only [List.mem_filter, decide_eq_true_eq, and_imp]
  rw [hseen]
  unfold inferType
  dsimp only
  generalize values.filter (· ≠ "") = seen
  by_cases hempty : seen = []
  · subst hempty
    exact ⟨fun _ => ⟨by simp, by simp, by simp⟩, by simp⟩
  rw [if_neg hempty]
  cases hintegers : seen.all (integerShaped data) with
  | true =>
      have hshape := List.all_eq_true.1 hintegers
      constructor
      · intro h
        refine ⟨fun _ value hvalue => (isInt64_iff (hshape value hvalue)).1 (h value hvalue), ?_, ?_⟩
        · simp [hintegers]
        · simp [hintegers]
      · intro h value hvalue
        exact (isInt64_iff (hshape value hvalue)).2 (h.integers hintegers value hvalue)
  | false =>
      cases hfloats : seen.all (floatShaped data) with
      | true =>
          have hshape := List.all_eq_true.1 hfloats
          constructor
          · intro h
            refine ⟨?_, ?_, ?_⟩
            · simp [hintegers]
            · exact fun _ _ value hvalue => (isFloat_iff (hshape value hvalue)).1 (h value hvalue)
            · simp [hfloats]
          · intro h value hvalue
            exact (isFloat_iff (hshape value hvalue)).2 (h.floats hintegers hfloats value hvalue)
      | false =>
          cases hdates : seen.all dateShaped with
          | true =>
              constructor
              · intro h
                exact ⟨by simp [hintegers], by simp [hfloats], fun _ _ _ => h⟩
              · intro h
                exact h.dates hintegers hfloats hdates
          | false =>
              constructor
              · intro _
                exact ⟨by simp [hintegers], by simp [hfloats], by simp [hdates]⟩
              · intro _ _ _
                trivial

/-- **Values that the inferred types refuse**: two dashes, one more than the largest integer, an
underscore between digits, and a month that is none. -/
theorem refused_values :
    (inferType .ascii ["--5"] = .int64 ∧ ¬ Parses .int64 "--5") ∧
    (inferType .ascii ["9223372036854775808"] = .int64 ∧
      ¬ Parses .int64 "9223372036854775808") ∧
    (inferType .ascii ["1_000"] = .float64 ∧ ¬ Parses .float64 "1_000") ∧
    (inferType .ascii ["2024-13-45"] = .date ∧ ¬ Parses .date "2024-13-45") := by
  refine ⟨⟨by decide, ?_⟩, ⟨by decide, ?_⟩, ⟨by decide, ?_⟩, ⟨by decide, ?_⟩⟩
  · intro h
    exact absurd h.digits (by decide)
  · intro h
    exact absurd h.range.2 (by decide)
  · intro h
    exact h (by decide)
  · intro h
    obtain ⟨year, month, date, hparts, -, -, hmonth, -⟩ := h
    have hread : datePartsOf "2024-13-45".toList = some (2024, 13, 45) := by decide
    rw [hread] at hparts
    cases hparts
    exact absurd hmonth (by decide)

end Connector

end Zentra
