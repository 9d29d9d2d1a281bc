import Mathlib.Algebra.Order.Field.Basic
import Mathlib.Data.Finset.Card
import Mathlib.Data.Rat.Defs
import Mathlib.Tactic.Positivity

/-!
# Name affinity between two fields

A name is split into tokens at case changes and at everything that is neither a letter nor a
digit, and reduced to the tokens that carry meaning; a field whose name says nothing by itself
is known by its table.  Two names are compared by the tokens they share.

* `nameAffinity_symm` — which of the two fields comes first does not matter.

How a text is turned into lower case is a parameter.  A quotient of lengths is exact here.
-/

namespace Zentra

namespace Connector

def isLowerOrDigit (c : Char) : Bool := ('a' ≤ c && c ≤ 'z') || ('0' ≤ c && c ≤ '9')

def isUpper (c : Char) : Bool := 'A' ≤ c && c ≤ 'Z'

/-- `_CAMEL_BOUNDARY.sub("_", name)`. -/
def camelSpaced : List Char → List Char
  | left :: right :: rest =>
      if isLowerOrDigit left && isUpper right then left :: '_' :: camelSpaced (right :: rest)
      else left :: camelSpaced (right :: rest)
  | rest => rest

/-- `_NON_ALNUM.split(text)`, less the empty parts. -/
def alphanumericParts (text : String) : List String :=
  ((text.toList.splitOnP fun c => !isLowerOrDigit c).filter fun part => part ≠ []).map
    String.ofList

/-- `KEY_SUFFIXES`. -/
def keySuffixes : List String := ["id", "key", "code", "no", "num", "fk", "ref"]

/-- `MAX_STRIPPED_PREFIX_LENGTH`. -/
def maxStrippedPrefixLength : Nat := 2

/-- `_strip_key_suffix`: the last token, where it is a suffix and not all there is. -/
def stripKeySuffix (tokens : List String) : List String :=
  if 1 < tokens.length ∧ tokens.getLast?.any fun token => token ∈ keySuffixes then
    tokens.dropLast
  else tokens

def stripTablePrefix (tokens : List String) : List String :=
  match tokens with
  | first :: second :: rest =>
      if first.length ≤ maxStrippedPrefixLength then second :: rest else tokens
  | _ => tokens

/-- `token.endswith(ending)`. -/
def endsWith (ending token : String) : Bool := decide (ending.toList <:+ token.toList)

/-- `token[:-count]`. -/
def shortened (token : String) (count : Nat) : String :=
  String.ofList (token.toList.take (token.length - count))

def singularise (token : String) : String :=
  if 3 < token.length && endsWith "ies" token then shortened token 3 ++ "y"
  else if 2 < token.length && endsWith "es" token && !endsWith "ses" token then
    shortened token 2
  else if 2 < token.length && endsWith "s" token && !endsWith "ss" token then
    shortened token 1
  else token

section Naming

variable (lower : String → String)

/-- Split a name into lowercase tokens. -/
def tokenise (name : String) : List String :=
  alphanumericParts (lower (String.ofList (camelSpaced name.toList)))

/-- Reduce a field name to the tokens that carry meaning. -/
def normaliseFieldName (name : String) : List String :=
  (stripKeySuffix (stripTablePrefix (tokenise lower name))).map singularise

/-- `_core`: the tokens a field contributes, including its table when it needs it. -/
def core (table fieldName : String) : List String :=
  let tokens := normaliseFieldName lower fieldName
  if tokens ∈ [[], ["id"], ["key"]] then (tokenise lower table).map singularise else tokens

/-- The share of the tokens of two names that they have in common. -/
def tokenOverlap (left right : List String) : ℚ :=
  if left = [] ∨ right = [] then 0
  else if left = right then 1
  else
    let shared := left.toFinset ∩ right.toFinset
    if shared = ∅ then 0 else shared.card / (left.toFinset ∪ right.toFinset).card

/-- Score how much two field names suggest the same key. -/
def nameAffinity (leftTable leftField rightTable rightField : String) : ℚ :=
  tokenOverlap (core lower leftTable leftField) (core lower rightTable rightField)

example : singularise "countries" = "country" := by decide

theorem tokenOverlap_symm (left right : List String) :
    tokenOverlap left right = tokenOverlap right left := by
  unfold tokenOverlap
  dsimp only
  rw [Finset.inter_comm, Finset.union_comm]
  refine ite_congr (propext or_comm) (fun _ => rfl) fun _ => ?_
  exact ite_congr (propext eq_comm) (fun _ => rfl) fun _ => rfl

/-- **Symmetry**: a pair of fields has one affinity. -/
theorem nameAffinity_symm (leftTable leftField rightTable rightField : String) :
    nameAffinity lower leftTable leftField rightTable rightField =
      nameAffinity lower rightTable rightField leftTable leftField :=
  tokenOverlap_symm _ _

end Naming

end Connector

end Zentra
