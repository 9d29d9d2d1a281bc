import Mathlib.Data.List.Infix

/-!
# Three-valued logic and text patterns

What a condition of a statement comes to on a row: true, false, or unknown where a
value is missing.  A row is selected if the condition is true.

* `conj_eq_true`, `disj_eq_true`, `neg_eq_true` — when a compound condition is true;
* `like` — a text against a pattern with wildcards;
* `like_contains`, `like_startsWith`, `like_endsWith` — the patterns around an escaped
  text.
-/

namespace SqlLogic

/-- A truth value; `none` is unknown. -/
abbrev Truth := Option Bool

/-- `NOT`. -/
def neg : Truth → Truth := Option.map Bool.not

/-- `AND` of two. -/
def both : Truth → Truth → Truth
  | some false, _ => some false
  | _, some false => some false
  | some true, some true => some true
  | _, _ => none

/-- `OR` of two. -/
def either : Truth → Truth → Truth
  | some true, _ => some true
  | _, some true => some true
  | some false, some false => some false
  | _, _ => none

/-- `AND` of a list. -/
def conj (ts : List Truth) : Truth := ts.foldr both (some true)

/-- `OR` of a list. -/
def disj (ts : List Truth) : Truth := ts.foldr either (some false)

theorem neg_eq_true {t : Truth} : neg t = some true ↔ t = some false := by
  cases t with
  | none => simp [neg]
  | some b => cases b <;> simp [neg]

theorem both_eq_true {s t : Truth} : both s t = some true ↔ s = some true ∧ t = some true := by
  rcases s with _ | _ | _ <;> rcases t with _ | _ | _ <;> simp [both]

theorem either_eq_true {s t : Truth} :
    either s t = some true ↔ s = some true ∨ t = some true := by
  rcases s with _ | _ | _ <;> rcases t with _ | _ | _ <;> simp [either]

theorem either_eq_false {s t : Truth} :
    either s t = some false ↔ s = some false ∧ t = some false := by
  rcases s with _ | _ | _ <;> rcases t with _ | _ | _ <;> simp [either]

theorem conj_eq_true {ts : List Truth} : conj ts = some true ↔ ∀ t ∈ ts, t = some true := by
  induction ts with
  | nil => simp [conj]
  | cons t ts ih =>
      have hcons : conj (t :: ts) = both t (conj ts) := rfl
      rw [hcons, both_eq_true, ih, List.forall_mem_cons]

theorem disj_eq_true {ts : List Truth} : disj ts = some true ↔ ∃ t ∈ ts, t = some true := by
  induction ts with
  | nil => simp [disj]
  | cons t ts ih =>
      have hcons : disj (t :: ts) = either t (disj ts) := rfl
      rw [hcons, either_eq_true, ih, List.exists_mem_cons_iff]

theorem disj_eq_false {ts : List Truth} :
    disj ts = some false ↔ ∀ t ∈ ts, t = some false := by
  induction ts with
  | nil => simp [disj]
  | cons t ts ih =>
      have hcons : disj (t :: ts) = either t (disj ts) := rfl
      rw [hcons, either_eq_false, ih, List.forall_mem_cons]

inductive Wildcard
  | char (c : Char)
  | anyChar
  | anyText
  deriving DecidableEq, Repr

/-- A character of a pattern that is not escaped. -/
def wildcard (c : Char) : Wildcard :=
  if c = '%' then .anyText else if c = '_' then .anyChar else .char c

/-- The elements of a pattern; `escaped` says that the escape character comes before. -/
def wildcards (escape : Char) : Bool → List Char → List Wildcard
  | _, [] => []
  | true, c :: cs => .char c :: wildcards escape false cs
  | false, c :: cs =>
      if c = escape then wildcards escape true cs
      else wildcard c :: wildcards escape false cs

/-- Whether a text matches a pattern. -/
def like : List Wildcard → List Char → Bool
  | [], text => text.isEmpty
  | .char _ :: _, [] => false
  | .char c :: rest, d :: text => c = d && like rest text
  | .anyChar :: _, [] => false
  | .anyChar :: rest, _ :: text => like rest text
  | .anyText :: rest, text => text.tails.any (like rest)

/-- Escape the characters that a pattern gives a meaning to. -/
def escapeLike (escape : Char) : List Char → List Char
  | [] => []
  | c :: cs =>
      if c = '%' ∨ c = '_' ∨ c = escape then escape :: c :: escapeLike escape cs
      else c :: escapeLike escape cs

theorem wildcards_escapeLike (escape : Char) (text rest : List Char) :
    wildcards escape false (escapeLike escape text ++ rest) =
      text.map .char ++ wildcards escape false rest := by
  induction text with
  | nil => rfl
  | cons c cs ih =>
      by_cases hc : c = '%' ∨ c = '_' ∨ c = escape
      · simp [escapeLike, hc, wildcards, ih]
      · simp only [escapeLike, if_neg hc]
        simp only [not_or] at hc
        simp [wildcards, wildcard, hc, ih]

theorem like_anyText (rest : List Wildcard) (text : List Char) :
    like (.anyText :: rest) text = true ↔ ∃ tail, tail <:+ text ∧ like rest tail = true := by
  simp [like]

theorem like_chars (chars : List Char) (rest : List Wildcard) (text : List Char) :
    like (chars.map .char ++ rest) text = true ↔
      ∃ tail, text = chars ++ tail ∧ like rest tail = true := by
  induction chars generalizing text with
  | nil => simp
  | cons c cs ih =>
      cases text with
      | nil => simp [like]
      | cons d text =>
          have hcons : like ((c :: cs).map .char ++ rest) (d :: text) = true ↔
              c = d ∧ like (cs.map .char ++ rest) text = true := by
            simp [like]
          rw [hcons, ih]
          constructor
          · rintro ⟨rfl, tail, rfl, htail⟩
            exact ⟨tail, rfl, htail⟩
          · rintro ⟨tail, htext, htail⟩
            obtain ⟨rfl, rfl⟩ := List.cons.inj htext
            exact ⟨rfl, tail, rfl, htail⟩

theorem like_all (text : List Char) : like [.anyText] text = true := by
  rw [like_anyText]
  exact ⟨[], List.nil_suffix, rfl⟩

theorem like_startsWith (chars text : List Char) :
    like (chars.map .char ++ [.anyText]) text = true ↔ chars <+: text := by
  rw [like_chars]
  constructor
  · rintro ⟨tail, rfl, -⟩
    exact List.prefix_append chars tail
  · rintro ⟨tail, rfl⟩
    exact ⟨tail, rfl, like_all tail⟩

theorem like_endsWith (chars text : List Char) :
    like (.anyText :: chars.map .char) text = true ↔ chars <:+ text := by
  have hchars : ∀ tail, like (chars.map .char) tail = true ↔ tail = chars := by
    intro tail
    have h := like_chars chars [] tail
    rw [List.append_nil] at h
    rw [h]
    constructor
    · rintro ⟨rest, rfl, hrest⟩
      have hnil : rest = [] := by simpa [like] using hrest
      rw [hnil, List.append_nil]
    · rintro rfl
      exact ⟨[], (List.append_nil _).symm, rfl⟩
  rw [like_anyText]
  constructor
  · rintro ⟨tail, htail, hlike⟩
    rwa [(hchars tail).1 hlike] at htail
  · intro hsuffix
    exact ⟨chars, hsuffix, (hchars chars).2 rfl⟩

theorem like_contains (chars text : List Char) :
    like (.anyText :: (chars.map .char ++ [.anyText])) text = true ↔ chars <:+: text := by
  rw [like_anyText]
  constructor
  · rintro ⟨tail, htail, hlike⟩
    exact ((like_startsWith chars tail).1 hlike).isInfix.trans htail.isInfix
  · rintro ⟨before, after, rfl⟩
    refine ⟨chars ++ after, ⟨before, by simp⟩, ?_⟩
    exact (like_startsWith chars _).2 (List.prefix_append chars after)

end SqlLogic
