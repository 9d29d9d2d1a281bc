import Mathlib.Data.List.Infix
import Mathlib.Data.Rat.Floor

/-!
# Text operations of the language

`str.strip()` on text without arguments removes the white space at both ends;
the white space characters are those for which `str.isspace()` holds.  The names
that `str.lower()` is called on are ASCII.

* `thousands`, `percent` — the two number formats;
* `roundHalfEven_mono` — rounding keeps the order;
* `length_join_append` — a joined text grows with its parts;
* `splitFirst_append`, `removeFront_append` — the two parts of a text that was put
  together around a separator.
-/

namespace PythonText

/-- The characters that `str.strip()` removes. -/
def isSpace (c : Char) : Bool :=
  let n := c.toNat
  (0x09 ≤ n && n ≤ 0x0D) || (0x1C ≤ n && n ≤ 0x20) || n == 0x85 || n == 0xA0 ||
    n == 0x1680 || (0x2000 ≤ n && n ≤ 0x200A) || n == 0x2028 || n == 0x2029 ||
    n == 0x202F || n == 0x205F || n == 0x3000

/-- `text.strip()`. -/
def strip (text : String) : String :=
  let front := text.toList.dropWhile isSpace
  String.ofList (front.reverse.dropWhile isSpace).reverse

/-- `not text.strip()`: nothing but white space. -/
def Blank (text : String) : Prop := strip text = ""

instance : DecidablePred Blank := fun text => decEq (strip text) ""

/-- `text.lower()`, for ASCII text. -/
def lower (text : String) : String := String.ofList (text.toList.map Char.toLower)

/-- `part in text`. -/
def Occurs (part text : String) : Prop := part.toList <:+: text.toList

instance (part text : String) : Decidable (Occurs part text) :=
  List.decidableInfix _ _

/-- `text.partition(separator)`, less the separator. -/
def partition (text : String) (separator : Char) : String × String :=
  (String.ofList (text.toList.takeWhile (· ≠ separator)),
    String.ofList ((text.toList.dropWhile (· ≠ separator)).drop 1))

/-- A comma before every third digit, the last digit first. -/
def groupDigits : List Char → List Char
  | a :: b :: c :: d :: rest => a :: b :: c :: ',' :: groupDigits (d :: rest)
  | digits => digits

/-- `f"{n:,}"`. -/
def thousands (n : Int) : String :=
  (if n < 0 then "-" else "") ++
    String.ofList (groupDigits (Nat.toDigits 10 n.natAbs).reverse).reverse

/-- The nearest integer, the even one of two. -/
def roundHalfEven (x : Rat) : Int :=
  let below := ⌊x⌋
  if x - below < 1 / 2 then below
  else if 1 / 2 < x - below then below + 1
  else if below % 2 = 0 then below
  else below + 1

theorem roundHalfEven_le (x : Rat) : (roundHalfEven x : Rat) ≤ x + 1 / 2 := by
  have hbelow := Int.floor_le x
  unfold roundHalfEven
  dsimp only
  split_ifs with hlow hhigh heven
  · linarith
  · push_cast
    linarith
  · linarith
  · push_cast
    linarith

theorem le_roundHalfEven (x : Rat) : x - 1 / 2 ≤ (roundHalfEven x : Rat) := by
  have habove := Int.lt_floor_add_one x
  unfold roundHalfEven
  dsimp only
  split_ifs with hlow hhigh heven
  · linarith
  · push_cast
    linarith
  · linarith
  · push_cast
    linarith

@[simp] theorem roundHalfEven_intCast (n : Int) : roundHalfEven n = n := by
  unfold roundHalfEven
  simp

/-- **Rounding** keeps the order: two roundings that change places would be half a unit from one
number. -/
theorem roundHalfEven_mono {x y : Rat} (h : x ≤ y) : roundHalfEven x ≤ roundHalfEven y := by
  by_contra hlt
  have hstep : (roundHalfEven y : Rat) + 1 ≤ roundHalfEven x := by
    exact_mod_cast Int.add_one_le_of_lt (not_le.1 hlt)
  have hupper := roundHalfEven_le x
  have hlower := le_roundHalfEven y
  have hsame : x = y := by linarith
  exact hlt (le_of_eq (congrArg roundHalfEven hsame))

/-- `f"{x:.0%}"`. -/
def percent (x : Rat) : String := toString (roundHalfEven (100 * x)) ++ "%"

example : thousands 1234567 = "1,234,567" := by decide

example : percent (1 / 8) = "12%" := by decide +kernel

/-- `separator.join(parts)`. -/
def join (separator : String) : List String → String
  | [] => ""
  | [part] => part
  | part :: next :: rest => part ++ separator ++ join separator (next :: rest)

theorem length_le_length_join (separator part : String) (parts : List String) :
    part.length ≤ (join separator (part :: parts)).length := by
  cases parts with
  | nil => exact le_refl _
  | cons next rest =>
      unfold join
      rw [String.length_append, String.length_append]
      omega

/-- A joined text is longer with further parts, the first of which is not empty. -/
theorem length_join_append (separator : String) {next : String} (hnext : next ≠ "")
    (parts rest : List String) :
    (join separator parts).length < (join separator (parts ++ next :: rest)).length := by
  have hpositive : 0 < next.length := by
    have hlength : next.length ≠ 0 := fun h => hnext (String.length_eq_zero_iff.1 h)
    omega
  have hrest := length_le_length_join separator next rest
  induction parts with
  | nil => exact hpositive.trans_le hrest
  | cons part parts ih =>
      cases parts with
      | nil =>
          show part.length <
            (part ++ separator ++ join separator (next :: rest)).length
          rw [String.length_append, String.length_append]
          omega
      | cons second parts =>
          show (part ++ separator ++ join separator (second :: parts)).length <
            (part ++ separator ++ join separator (second :: parts ++ next :: rest)).length
          rw [String.length_append, String.length_append, String.length_append,
            String.length_append]
          omega

/-- `text.startswith(front)`. -/
def StartsWith (front text : String) : Prop := front.toList <+: text.toList

instance (front text : String) : Decidable (StartsWith front text) :=
  inferInstanceAs (Decidable (_ <+: _))

/-- `text.removeprefix(front)`. -/
def removeFront (front text : String) : String :=
  if StartsWith front text then String.ofList (text.toList.drop front.toList.length)
  else text

/-- The characters before the first occurrence of the separator. -/
def firstPart (separator : List Char) : List Char → List Char
  | [] => []
  | c :: rest =>
      if separator <+: c :: rest then [] else c :: firstPart separator rest

/-- `text.split(separator, maxsplit=1)[0]`. -/
def splitFirst (separator text : String) : String :=
  String.ofList (firstPart separator.toList text.toList)

theorem startsWith_iff {front text : String} :
    StartsWith front text ↔ ∃ rest, text = front ++ rest := by
  constructor
  · intro h
    obtain ⟨rest, hrest⟩ := h
    refine ⟨String.ofList rest, String.toList_inj.1 ?_⟩
    rw [String.toList_append, String.toList_ofList, hrest]
  · intro h
    obtain ⟨rest, rfl⟩ := h
    exact ⟨rest.toList, String.toList_append.symm⟩

theorem removeFront_append (front rest : String) :
    removeFront front (front ++ rest) = rest := by
  unfold removeFront
  rw [if_pos (startsWith_iff.2 ⟨rest, rfl⟩), String.toList_append, List.drop_left,
    String.ofList_toList]

/-- What is left of a text is no longer than it, and as long only if nothing went. -/
theorem length_removeFront {front text : String} (h : StartsWith front text) :
    (removeFront front text).length + front.length = text.length := by
  obtain ⟨rest, rfl⟩ := startsWith_iff.1 h
  rw [removeFront_append, String.length_append, Nat.add_comm]

theorem firstPart_append {separator : List Char} {c : Char}
    (hseparator : separator.head? = some c) {front : List Char} (hfront : c ∉ front)
    (rest : List Char) : firstPart separator (front ++ (separator ++ rest)) = front := by
  obtain ⟨others, rfl⟩ := List.head?_eq_some_iff.1 hseparator
  induction front with
  | nil =>
      show firstPart (c :: others) (c :: (others ++ rest)) = []
      unfold firstPart
      exact if_pos ⟨rest, rfl⟩
  | cons d front ih =>
      rw [List.mem_cons, not_or] at hfront
      have hnot : ¬ c :: others <+: d :: (front ++ (c :: others ++ rest)) := by
        intro h
        exact hfront.1 (List.cons_prefix_cons.1 h).1
      show firstPart (c :: others) (d :: (front ++ (c :: others ++ rest))) = d :: front
      unfold firstPart
      rw [if_neg hnot, ih hfront.2]

/-- **The first part.** It is what was put in front of the separator, if it does not
hold the separator's first character. -/
theorem splitFirst_append {separator front : String} {c : Char}
    (hseparator : separator.toList.head? = some c) (hfront : c ∉ front.toList)
    (rest : String) : splitFirst separator (front ++ (separator ++ rest)) = front := by
  unfold splitFirst
  rw [String.toList_append, String.toList_append, firstPart_append hseparator hfront,
    String.ofList_toList]

end PythonText
