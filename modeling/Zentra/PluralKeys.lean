import Mathlib.Tactic.NormNum
import Zentra.FieldNames
import Zentra.PythonText

/-!
# Foreign keys of pluralised tables

A foreign key is named after the thing it points at, a table after many of them.  The plural is
taken back by its ending, and the ending `es` is taken off whole, with the `e` of the noun.

* `singularise_plural` — which plurals are taken back;
* `recognises_iff` — the pair is recognised exactly where the plural is taken back.
-/

namespace Zentra

namespace Connector

def isLower (c : Char) : Bool := 'a' ≤ c && c ≤ 'z'

/-- The name of a table in the singular: a lowercase word, whose plural takes an `s`. -/
structure Noun (noun : String) : Prop where
  lower : ∀ c ∈ noun.toList, isLower c = true
  long : 3 ≤ noun.length
  not_s : endsWith "s" noun = false
  not_y : endsWith "y" noun = false
  not_suffix : noun ∉ keySuffixes

instance (noun : String) : Decidable (Noun noun) :=
  decidable_of_iff (noun.toList.all isLower = true ∧ 3 ≤ noun.length ∧
      endsWith "s" noun = false ∧ endsWith "y" noun = false ∧ noun ∉ keySuffixes)
    ⟨fun ⟨lower, long, not_s, not_y, not_suffix⟩ =>
        ⟨List.all_eq_true.1 lower, long, not_s, not_y, not_suffix⟩,
      fun h => ⟨List.all_eq_true.2 h.lower, h.long, h.not_s, h.not_y, h.not_suffix⟩⟩

/-- What is relied on of `str.lower`: lowercase words with underscores stay as they are. -/
def KeepsLowercase (lower : String → String) : Prop :=
  ∀ text, (∀ c ∈ text.toList, isLower c = true ∨ c = '_') → lower text = text

section Tokens

variable {lower : String → String} {noun text : String} {chars : List Char}

theorem not_isUpper {c : Char} (h : isLower c = true ∨ c = '_') : isUpper c = false := by
  obtain hlower | rfl := h
  · unfold isLower at hlower
    unfold isUpper
    simp only [Bool.and_eq_true, decide_eq_true_eq, Bool.and_eq_false_iff,
      decide_eq_false_iff_not] at hlower ⊢
    exact .inr fun hupper => absurd (Char.le_trans hlower.1 hupper) (by decide)
  · decide

theorem camelSpaced_eq (h : ∀ c ∈ chars, isUpper c = false) : camelSpaced chars = chars := by
  induction chars using camelSpaced.induct with
  | case1 left right rest hboundary ih =>
      rw [h right (by simp), Bool.and_false] at hboundary
      cases hboundary
  | case2 left right rest hboundary ih =>
      unfold camelSpaced
      rw [if_neg hboundary, ih fun c hc => h c (List.mem_cons_of_mem _ hc)]
  | case3 rest hshort =>
      unfold camelSpaced
      split
      next left right others => exact absurd rfl (hshort left right others)
      next => rfl

theorem tokenise_eq (hlower : KeepsLowercase lower)
    (h : ∀ c ∈ text.toList, isLower c = true ∨ c = '_') :
    tokenise lower text = alphanumericParts text := by
  unfold tokenise
  rw [camelSpaced_eq fun c hc => not_isUpper (h c hc), String.ofList_toList, hlower text h]

theorem part_of_lower {c : Char} (h : isLower c = true) : (!isLowerOrDigit c) = false := by
  unfold isLower at h
  unfold isLowerOrDigit
  simp [h]

theorem alphanumericParts_word (hword : ∀ c ∈ text.toList, isLower c = true) (hne : text ≠ "") :
    alphanumericParts text = [text] := by
  unfold alphanumericParts
  rw [List.splitOnP_eq_singleton fun c hc => part_of_lower (hword c hc)]
  have hlist : text.toList ≠ [] := fun hnil => hne (String.toList_eq_nil_iff.1 hnil)
  simp [hlist]

theorem alphanumericParts_key (hword : ∀ c ∈ noun.toList, isLower c = true) (hne : noun ≠ "") :
    alphanumericParts (noun ++ "_id") = [noun, "id"] := by
  have hlist : noun.toList ≠ [] := fun hnil => hne (String.toList_eq_nil_iff.1 hnil)
  have hchars : (noun ++ "_id").toList = noun.toList ++ '_' :: ['i', 'd'] := String.toList_append
  have hrest : (['i', 'd'] : List Char).splitOnP (fun c => !isLowerOrDigit c) = [['i', 'd']] :=
    by decide
  unfold alphanumericParts
  rw [hchars, List.splitOnP_append_cons_of_forall_mem
    (fun c hc => part_of_lower (hword c hc)) '_' (by decide), hrest]
  simp [hlist]

end Tokens

section Endings

variable {ending token : String}

theorem endsWith_iff : endsWith ending token = true ↔ ending.toList <:+ token.toList :=
  decide_eq_true_iff

theorem endsWith_trans {last : String} (hlast : endsWith last ending = true)
    (h : endsWith ending token = true) : endsWith last token = true :=
  endsWith_iff.2 ((endsWith_iff.1 hlast).trans (endsWith_iff.1 h))

theorem endsWith_append (ending token last : String) :
    endsWith (ending ++ last) (token ++ last) = endsWith ending token := by
  unfold endsWith
  rw [String.toList_append, String.toList_append]
  exact decide_eq_decide.2 List.suffix_append_self_iff

theorem endsWith_false {other : String} (h : endsWith ending token = true)
    (hlength : ending.toList.length ≤ other.toList.length)
    (hother : ¬ ending.toList <:+ other.toList) : endsWith other token = false := by
  cases hends : endsWith other token with
  | false => rfl
  | true =>
      exact absurd (List.suffix_of_suffix_length_le (endsWith_iff.1 h) (endsWith_iff.1 hends)
        hlength) hother

theorem shortened_append (token last : String) :
    shortened (token ++ last) last.length = token := by
  unfold shortened
  rw [String.length_append, Nat.add_sub_cancel, String.toList_append, ← String.length_toList,
    List.take_left, String.ofList_toList]

theorem length_shortened (token : String) (count : Nat) :
    (shortened token count).length = token.length - count := by
  unfold shortened
  rw [String.length_ofList, List.length_take, String.length_toList]
  omega

end Endings

section Sides

variable {lower : String → String} {noun : String}

theorem Noun.ne_empty (h : Noun noun) : noun ≠ "" := by
  rintro rfl
  exact absurd h.long (by decide)

theorem Noun.lower_append (h : Noun noun) {ending : String}
    (hending : ∀ c ∈ ending.toList, isLower c = true ∨ c = '_') :
    ∀ c ∈ (noun ++ ending).toList, isLower c = true ∨ c = '_' := by
  intro c hc
  rw [String.toList_append] at hc
  obtain hnoun | hend := List.mem_append.1 hc
  · exact .inl (h.lower c hnoun)
  · exact hending c hend

/-- **The key of the table** stands for the table, in the singular. -/
theorem core_plural (hlower : KeepsLowercase lower) (h : Noun noun) :
    core lower (noun ++ "s") "id" = [singularise (noun ++ "s")] := by
  have hword : ∀ c ∈ (noun ++ "s").toList, isLower c = true := by
    intro c hc
    rw [String.toList_append] at hc
    obtain hnoun | hend := List.mem_append.1 hc
    · exact h.lower c hnoun
    · exact List.all_eq_true.1 (by decide : "s".toList.all isLower = true) c hend
  have hne : noun ++ "s" ≠ "" := by
    intro hempty
    have hlength := congrArg String.length hempty
    rw [String.length_append] at hlength
    exact absurd hlength (by simp)
  have htable : tokenise lower (noun ++ "s") = [noun ++ "s"] := by
    rw [tokenise_eq hlower fun c hc => .inl (hword c hc), alphanumericParts_word hword hne]
  have hfield : normaliseFieldName lower "id" = ["id"] := by
    unfold normaliseFieldName
    rw [tokenise_eq hlower fun c hc => .inl (List.all_eq_true.1
      (by decide : "id".toList.all isLower = true) c hc)]
    decide
  unfold core
  rw [hfield, htable]
  exact if_pos (by decide)

theorem singularise_eq (h : Noun noun) : singularise noun = noun := by
  have hends (ending : String) (hlast : endsWith "s" ending = true) :
      endsWith ending noun = false := by
    cases hending : endsWith ending noun with
    | false => rfl
    | true => exact (endsWith_trans hlast hending).symm.trans h.not_s
  unfold singularise
  rw [hends "ies" (by decide), hends "es" (by decide), h.not_s]
  simp

/-- **The foreign key** is reduced to the noun. -/
theorem core_foreignKey (hlower : KeepsLowercase lower) (h : Noun noun) (table : String) :
    core lower table (noun ++ "_id") = [noun] := by
  have htokens : tokenise lower (noun ++ "_id") = [noun, "id"] := by
    have hending : ∀ c ∈ "_id".toList, isLower c = true ∨ c = '_' := by
      intro c hc
      obtain rfl | rfl | rfl : c = '_' ∨ c = 'i' ∨ c = 'd' := by simpa using hc
      · exact .inr rfl
      · exact .inl rfl
      · exact .inl rfl
    rw [tokenise_eq hlower (h.lower_append hending), alphanumericParts_key h.lower h.ne_empty]
  have hkept : stripTablePrefix [noun, "id"] = [noun, "id"] := if_neg (not_le.2 h.long)
  have hfield : normaliseFieldName lower (noun ++ "_id") = [singularise noun] := by
    unfold normaliseFieldName
    rw [htokens, hkept]
    rfl
  have hsingular : singularise noun = noun := singularise_eq h
  have hmeaning : [noun] ∉ [[], ["id"], ["key"]] := by
    intro hmem
    obtain hid | hkey : noun = "id" ∨ noun = "key" := by simpa using hmem
    · exact h.not_suffix (hid ▸ by decide)
    · exact h.not_suffix (hkey ▸ by decide)
  unfold core
  rw [hfield, hsingular]
  exact if_neg hmeaning

/-- **A plural is taken back** unless the noun ends with an `e` that has no `s` before it. -/
theorem singularise_plural (h : Noun noun) :
    singularise (noun ++ "s") = noun ↔
      (endsWith "e" noun = true → endsWith "se" noun = true) := by
  have hlong := h.long
  have hlength : (noun ++ "s").length = noun.length + 1 := String.length_append _ _
  have hies : endsWith "ies" (noun ++ "s") = endsWith "ie" noun := endsWith_append "ie" noun "s"
  have hes : endsWith "es" (noun ++ "s") = endsWith "e" noun := endsWith_append "e" noun "s"
  have hses : endsWith "ses" (noun ++ "s") = endsWith "se" noun := endsWith_append "se" noun "s"
  have hss : endsWith "ss" (noun ++ "s") = endsWith "s" noun := endsWith_append "s" noun "s"
  have hs : endsWith "s" (noun ++ "s") = true :=
    endsWith_iff.2 (String.toList_append ▸ List.suffix_append _ _)
  unfold singularise
  rw [hies, hes, hses, hss, hs, h.not_s, hlength, decide_eq_true (by omega : 3 < noun.length + 1),
    decide_eq_true (by omega : 2 < noun.length + 1)]
  simp only [Bool.true_and, Bool.not_false, if_true]
  cases hie : endsWith "ie" noun with
  | true =>
      -- the ending becomes a `y`
      rw [if_pos rfl]
      have hse : endsWith "se" noun = false := endsWith_false hie (by decide) (by decide)
      refine iff_of_false (fun hsame => ?_) fun hboth => ?_
      · have hy : endsWith "y" (shortened (noun ++ "s") 3 ++ "y") = true :=
          endsWith_iff.2 (String.toList_append ▸ List.suffix_append _ _)
        rw [hsame, h.not_y] at hy
        cases hy
      · rw [hboth (endsWith_trans (by decide) hie)] at hse
        cases hse
  | false =>
      rw [if_neg Bool.false_ne_true]
      have hone : shortened (noun ++ "s") 1 = noun := shortened_append noun "s"
      cases he : endsWith "e" noun with
      | false => exact iff_of_true hone fun hnone => by cases hnone
      | true =>
          cases hse : endsWith "se" noun with
          | true => exact iff_of_true hone fun _ => rfl
          | false =>
              -- two letters go
              refine iff_of_false (fun hsame => ?_) fun hboth => by cases hboth rfl
              have hshorter := congrArg String.length hsame
              rw [if_pos (by decide), length_shortened, hlength] at hshorter
              omega

/-- **The pair is recognised** exactly where the plural is taken back. -/
theorem recognises_iff (hlower : KeepsLowercase lower) (h : Noun noun) (other : String) :
    nameAffinity lower (noun ++ "s") "id" other (noun ++ "_id") = 1 ↔
      (endsWith "e" noun = true → endsWith "se" noun = true) := by
  rw [← singularise_plural h]
  unfold nameAffinity
  rw [core_plural hlower h, core_foreignKey hlower h]
  unfold tokenOverlap
  rw [if_neg (by simp)]
  constructor
  · intro hfull
    by_contra hdiffers
    rw [if_neg (by simpa using hdiffers)] at hfull
    have hnone : [singularise (noun ++ "s")].toFinset ∩ [noun].toFinset = ∅ := by
      rw [List.toFinset_cons, List.toFinset_cons, List.toFinset_nil]
      exact Finset.singleton_inter_of_notMem (by simpa using hdiffers)
    simp only [hnone, if_true] at hfull
    exact absurd hfull (by norm_num)
  · intro hsame
    exact if_pos (by rw [hsame])

end Sides

theorem keepsLowercase_lower : KeepsLowercase PythonText.lower := by
  intro text h
  have hchar : ∀ c ∈ text.toList, c.toLower = c := by
    intro c hc
    have hnot := not_isUpper (h c hc)
    unfold isUpper at hnot
    unfold Char.toLower
    refine dif_neg fun hupper => ?_
    have hcapital : 'A' ≤ c ∧ c ≤ 'Z' := hupper
    rw [decide_eq_true hcapital.1, decide_eq_true hcapital.2] at hnot
    cases hnot
  unfold PythonText.lower
  rw [List.map_congr_left hchar, List.map_id', String.ofList_toList]

/-- Customers are recognised. -/
theorem customers_recognised :
    nameAffinity PythonText.lower ("customer" ++ "s") "id" "orders" ("customer" ++ "_id") = 1 :=
  (recognises_iff keepsLowercase_lower (by decide) "orders").2 (by decide)

/-- Stores are not. -/
theorem stores_unrecognised : Noun "store" ∧
    nameAffinity PythonText.lower ("store" ++ "s") "id" "orders" ("store" ++ "_id") = 0 := by
  decide +kernel

end Connector

end Zentra
