import Mathlib.Algebra.GroupWithZero.Nat
import Mathlib.Data.List.Basic
import Mathlib.Data.List.Forall2

/-!
# Quoted text

The text of a statement, read from left to right: string literals between single quotes
and identifiers between double quotes, where a doubled quote stands for the quote
itself, and everything else outside of them.

* `literalContent_enclosed` — a literal is read as it was written;
* `scan` — what a text consists of, with the contents of the literals left out;
* `tokens` — its tokens: words, numbers, punctuation, literals, quoted identifiers;
* `Alike` — two texts that scan alike, from the outside to the outside;
* `Alike.append`, `Alike.intercalate`, `alike_quoted`, `alike_literal` — how such texts
  are put together.
-/

namespace SqlText

/-- Double every occurrence of the quote. -/
def doubled (quote : Char) : List Char → List Char
  | [] => []
  | c :: cs => if c = quote then c :: c :: doubled quote cs else c :: doubled quote cs

def enclosed (quote : Char) (content : List Char) : List Char :=
  quote :: (doubled quote content ++ [quote])

theorem doubled_of_notMem {quote : Char} {text : List Char} (h : quote ∉ text) :
    doubled quote text = text := by
  induction text with
  | nil => rfl
  | cons c cs ih =>
      simp only [List.mem_cons, not_or] at h
      rw [doubled, if_neg (Ne.symm h.1), ih h.2]

theorem doubled_append (quote : Char) (xs ys : List Char) :
    doubled quote (xs ++ ys) = doubled quote xs ++ doubled quote ys := by
  induction xs with
  | nil => rfl
  | cons c cs ih =>
      by_cases hc : c = quote
      · simp [doubled, hc, ih]
      · simp [doubled, hc, ih]

/-- What stands between two quotes, read from behind the first of them: two quotes are one, and
the last one ends it. -/
def unquoted (quote : Char) : List Char → Option (List Char)
  | [] => none
  | [c] => if c = quote then some [] else none
  | c :: d :: rest =>
      if c = quote then
        if d = quote then (unquoted quote rest).map (c :: ·) else none
      else (unquoted quote (d :: rest)).map (c :: ·)

def literalContent (quote : Char) : List Char → Option (List Char)
  | [] => none
  | c :: rest => if c = quote then unquoted quote rest else none

theorem unquoted_cons {quote c : Char} (h : c ≠ quote) (rest : List Char) :
    unquoted quote (c :: rest) = (unquoted quote rest).map (c :: ·) := by
  cases rest with
  | nil =>
      unfold unquoted
      rw [if_neg h]
      rfl
  | cons d rest =>
      rw [unquoted]
      exact if_neg h

/-- **A literal** has the content that was put between its quotes. -/
theorem literalContent_enclosed (quote : Char) (content : List Char) :
    literalContent quote (enclosed quote content) = some content := by
  refine (if_pos rfl).trans ?_
  induction content with
  | nil => exact if_pos rfl
  | cons c cs ih =>
      unfold doubled
      by_cases hc : c = quote
      · subst hc
        rw [if_pos rfl, List.cons_append, List.cons_append, unquoted, if_pos rfl, if_pos rfl, ih]
        rfl
      · rw [if_neg hc, List.cons_append, unquoted_cons hc, ih]
        rfl

/-- Where in the text one is; `stringQuote` and `identifierQuote` stand right after a
quote that closes the literal unless another one follows. -/
inductive Mode
  | outside
  | inString
  | stringQuote
  | inIdentifier
  | identifierQuote
  deriving DecidableEq, Repr

inductive Piece
  | char (c : Char)
  | string
  | identifier
  deriving DecidableEq, Repr

/-- A character outside of the literals. -/
def scanOutside (c : Char) : Mode × List Piece :=
  if c = '\'' then (.inString, [.string])
  else if c = '"' then (.inIdentifier, [.identifier])
  else (.outside, [.char c])

def scanChar : Mode → Char → Mode × List Piece
  | .outside, c => scanOutside c
  | .inString, c => if c = '\'' then (.stringQuote, []) else (.inString, [])
  | .stringQuote, c => if c = '\'' then (.inString, []) else scanOutside c
  | .inIdentifier, c => if c = '"' then (.identifierQuote, []) else (.inIdentifier, [])
  | .identifierQuote, c => if c = '"' then (.inIdentifier, []) else scanOutside c

def scan : Mode → List Char → Mode × List Piece
  | m, [] => (m, [])
  | m, c :: cs => ((scan (scanChar m c).1 cs).1, (scanChar m c).2 ++ (scan (scanChar m c).1 cs).2)

theorem scan_append (m : Mode) (xs ys : List Char) :
    scan m (xs ++ ys) =
      ((scan (scan m xs).1 ys).1, (scan m xs).2 ++ (scan (scan m xs).1 ys).2) := by
  induction xs generalizing m with
  | nil => rfl
  | cons c cs ih => simp [scan, ih, List.append_assoc]

/-- A token of the text, without the contents of the literals. -/
inductive Token
  | word (text : List Char)
  | number
  | punctuation (c : Char)
  | string
  | identifier
  deriving DecidableEq, Repr

inductive Pending
  | none
  | word (read : List Char)
  | number
  deriving DecidableEq, Repr

def Pending.close : Pending → List Token
  | none => []
  | word read => [.word read]
  | number => [.number]

def lex : Pending → List Piece → List Token
  | pending, [] => pending.close
  | pending, .string :: rest => pending.close ++ .string :: lex .none rest
  | pending, .identifier :: rest => pending.close ++ .identifier :: lex .none rest
  | pending, .char c :: rest =>
      match pending with
      | .word read =>
          if c.isAlphanum ∨ c = '_' then lex (.word (read ++ [c])) rest
          else if c.isWhitespace then .word read :: lex .none rest
          else .word read :: .punctuation c :: lex .none rest
      | .number =>
          if c.isAlphanum ∨ c = '.' then lex .number rest
          else if c.isWhitespace then .number :: lex .none rest
          else .number :: .punctuation c :: lex .none rest
      | .none =>
          if c.isDigit then lex .number rest
          else if c.isAlpha ∨ c = '_' then lex (.word [c]) rest
          else if c.isWhitespace then lex .none rest
          else .punctuation c :: lex .none rest

/-- The kinds of the tokens of a text, one after the other. -/
def tokens (text : String) : List Token := lex .none (scan .outside text.toList).2

example : tokens "SELECT \"a\"\"b\".* WHERE x = 'it''s'" =
    [.word "SELECT".toList, .identifier, .punctuation '.', .punctuation '*',
      .word "WHERE".toList, .word ['x'], .punctuation '=', .string] := by decide

theorem count_lex (pending : Pending) (pieces : List Piece) :
    (lex pending pieces).count .string = pieces.count .string := by
  have hclose : ∀ pending : Pending, pending.close.count .string = 0 := by
    intro pending
    cases pending <;> rfl
  induction pieces generalizing pending with
  | nil => exact hclose pending
  | cons piece rest ih =>
      cases piece with
      | string => simp [lex, hclose, ih]
      | identifier => simp [lex, hclose, ih]
      | char c =>
          cases pending with
          | none =>
              simp only [lex]
              split_ifs <;> simp [ih]
          | word read =>
              simp only [lex]
              split_ifs <;> simp [ih]
          | number =>
              simp only [lex]
              split_ifs <;> simp [ih]

def Plain (text : List Char) : Prop := ∀ c ∈ text, c ≠ '\'' ∧ c ≠ '"'

instance (text : List Char) : Decidable (Plain text) := List.decidableBAll _ text

/-- The modes in which no literal is open. -/
def Closed (m : Mode) : Prop := m ≠ .inString ∧ m ≠ .inIdentifier

instance (m : Mode) : Decidable (Closed m) := inferInstanceAs (Decidable (_ ∧ _))

theorem closed_outside : Closed .outside := by decide

theorem scanChar_plain {m : Mode} (hm : Closed m) {c : Char} (hc : c ≠ '\'' ∧ c ≠ '"') :
    scanChar m c = (.outside, [.char c]) := by
  cases m with
  | outside => simp [scanChar, scanOutside, hc]
  | inString => exact absurd rfl hm.1
  | stringQuote => simp [scanChar, scanOutside, hc]
  | inIdentifier => exact absurd rfl hm.2
  | identifierQuote => simp [scanChar, scanOutside, hc]

theorem scan_plain {text : List Char} (h : Plain text) :
    scan .outside text = (.outside, text.map .char) := by
  induction text with
  | nil => rfl
  | cons c cs ih =>
      have hc := scanChar_plain closed_outside (h c List.mem_cons_self)
      have hrest := ih fun d hd => h d (List.mem_cons_of_mem c hd)
      simp [scan, hc, hrest]

/-- A text that begins with a character other than a quote leaves a closed literal. -/
theorem scan_separator {m : Mode} (hm : Closed m) {c : Char} {text : List Char}
    (h : Plain (c :: text)) :
    scan m (c :: text) = (.outside, (c :: text).map .char) := by
  have hc := scanChar_plain hm (h c List.mem_cons_self)
  have hrest := scan_plain fun d hd => h d (List.mem_cons_of_mem c hd)
  simp [scan, hc, hrest]

theorem scan_inString (content : List Char) (rest : List Char) :
    scan .inString (doubled '\'' content ++ rest) = scan .inString rest := by
  induction content with
  | nil => rfl
  | cons c cs ih =>
      by_cases hc : c = '\''
      · subst hc
        simpa [doubled, scan, scanChar] using ih
      · simpa [doubled, scan, scanChar, hc] using ih

theorem scan_inIdentifier (content : List Char) (rest : List Char) :
    scan .inIdentifier (doubled '"' content ++ rest) = scan .inIdentifier rest := by
  induction content with
  | nil => rfl
  | cons c cs ih =>
      by_cases hc : c = '"'
      · subst hc
        simpa [doubled, scan, scanChar] using ih
      · simpa [doubled, scan, scanChar, hc] using ih

theorem scan_literal (content : List Char) :
    scan .outside (enclosed '\'' content) = (.stringQuote, [.string]) := by
  have h := scan_inString content ['\'']
  simp only [enclosed, scan, scanChar, scanOutside, if_true]
  rw [h]
  rfl

theorem scan_quoted (content : List Char) :
    scan .outside (enclosed '"' content) = (.identifierQuote, [.identifier]) := by
  have h := scan_inIdentifier content ['"']
  have hquote : ¬ ('"' = '\'') := by decide
  simp only [enclosed, scan, scanChar, scanOutside, if_neg hquote, if_true]
  rw [h]
  rfl

/-- Both texts lead from the outside to the same closed mode, with the same pieces. -/
def Alike (a b : String) : Prop :=
  Closed (scan .outside a.toList).1 ∧ scan .outside a.toList = scan .outside b.toList

instance (a b : String) : Decidable (Alike a b) := inferInstanceAs (Decidable (_ ∧ _))

theorem Alike.symm {a b : String} (h : Alike a b) : Alike b a := ⟨h.2 ▸ h.1, h.2.symm⟩

theorem Alike.trans {a b c : String} (hab : Alike a b) (hbc : Alike b c) : Alike a c :=
  ⟨hab.1, hab.2.trans hbc.2⟩

theorem Alike.left {a b : String} (h : Alike a b) : Alike a a := h.trans h.symm

theorem Alike.tokens_eq {a b : String} (h : Alike a b) : tokens a = tokens b := by
  simp only [tokens, h.2]

theorem alike_plain {text : String} (h : Plain text.toList) : Alike text text := by
  refine ⟨?_, rfl⟩
  rw [scan_plain h]
  exact closed_outside

theorem alike_literal {a b : String} {x y : List Char} (ha : a.toList = enclosed '\'' x)
    (hb : b.toList = enclosed '\'' y) : Alike a b := by
  unfold Alike
  rw [ha, hb, scan_literal, scan_literal]
  decide

theorem alike_quoted {a b : String} {x y : List Char} (ha : a.toList = enclosed '"' x)
    (hb : b.toList = enclosed '"' y) : Alike a b := by
  unfold Alike
  rw [ha, hb, scan_quoted, scan_quoted]
  decide

/-- A separator: some text without quotes, not empty. -/
def Separator (text : String) : Prop := text.toList ≠ [] ∧ Plain text.toList

instance (text : String) : Decidable (Separator text) := inferInstanceAs (Decidable (_ ∧ _))

variable {a b c d s : String}

theorem scan_after (hclosed : Closed (scan .outside a.toList).1) (hs : Separator s) :
    scan .outside (a ++ s).toList =
      (.outside, (scan .outside a.toList).2 ++ s.toList.map .char) := by
  obtain ⟨hne, hplain⟩ := hs
  rw [String.toList_append, scan_append]
  cases htext : s.toList with
  | nil => exact absurd htext hne
  | cons c cs =>
      rw [htext] at hplain
      rw [scan_separator hclosed hplain]

theorem Alike.followed (h : Alike a b) (hs : Separator s) : Alike (a ++ s) (b ++ s) := by
  unfold Alike
  rw [scan_after h.1 hs, scan_after (h.2 ▸ h.1) hs, h.2]
  exact ⟨closed_outside, rfl⟩

theorem Alike.preceded (h : Alike a b) (hs : Plain s.toList) : Alike (s ++ a) (s ++ b) := by
  unfold Alike
  rw [String.toList_append, String.toList_append, scan_append, scan_append, scan_plain hs, h.2]
  exact ⟨h.2 ▸ h.1, rfl⟩

/-- **Composition.**  Texts that scan alike, put together with a separator. -/
theorem Alike.append (h : Alike a b) (hs : Separator s) (h' : Alike c d) :
    Alike (a ++ s ++ c) (b ++ s ++ d) := by
  unfold Alike
  rw [String.toList_append, String.toList_append (s := b ++ s), scan_append, scan_append,
    scan_after h.1 hs, scan_after (h.2 ▸ h.1) hs, h.2, h'.2]
  exact ⟨h'.2 ▸ h'.1, rfl⟩

/-- **Lists.**  Texts that scan alike one by one, joined by a separator. -/
theorem Alike.intercalate {as bs : List String} (h : List.Forall₂ Alike as bs)
    (hs : Separator s) : Alike (s.intercalate as) (s.intercalate bs) := by
  induction h with
  | nil =>
      rw [String.intercalate_nil]
      exact alike_plain (by decide)
  | cons hhead htail ih =>
      cases htail with
      | nil => simpa using hhead
      | cons hnext hrest =>
          rw [String.intercalate_cons_cons, String.intercalate_cons_cons]
          exact hhead.append hs ih

theorem forall₂_alike_map {ι : Type} {f g : ι → String} {xs : List ι}
    (h : ∀ x ∈ xs, Alike (f x) (g x)) : List.Forall₂ Alike (xs.map f) (xs.map g) := by
  rw [List.forall₂_map_left_iff, List.forall₂_map_right_iff, List.forall₂_same]
  exact h

/-- The number of string literals of a text. -/
def strings (text : String) : Nat := (scan .outside text.toList).2.count .string

theorem strings_tokens (text : String) : (tokens text).count .string = strings text :=
  count_lex .none _

theorem count_char (text : List Char) : (text.map Piece.char).count .string = 0 := by
  induction text with
  | nil => rfl
  | cons c cs ih => simpa using ih

/-- Texts that leave no literal open are counted one after the other. -/
theorem strings_append (ha : Alike a a) (hs : Separator s) (c : String) :
    strings (a ++ s ++ c) = strings a + strings c := by
  simp only [strings]
  rw [String.toList_append, scan_append, scan_after ha.1 hs]
  simp [List.count_append, count_char]

theorem strings_preceded (hs : Plain s.toList) (c : String) : strings (s ++ c) = strings c := by
  simp only [strings]
  rw [String.toList_append, scan_append, scan_plain hs]
  simp [List.count_append, count_char]

theorem strings_intercalate {as : List String} (h : ∀ a ∈ as, Alike a a) (hs : Separator s) :
    strings (s.intercalate as) = (as.map strings).sum := by
  induction as with
  | nil =>
      rw [String.intercalate_nil]
      rfl
  | cons a as ih =>
      have ha := h a List.mem_cons_self
      have hrest := ih fun x hx => h x (List.mem_cons_of_mem a hx)
      cases as with
      | nil => simp
      | cons b bs =>
          rw [String.intercalate_cons_cons, strings_append ha hs, hrest]
          simp

end SqlText
