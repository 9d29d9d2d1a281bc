import Zentra.FilterMeaning

/-!
# Patterns that stand for texts

`contains`, `startsWith` and `endsWith` become LIKE patterns.  The value is escaped twice, for the
pattern and for the literal around it, and the database takes both back.

* `likeMatches_buildLikePattern` — the pattern stands for the value;
* `buildPattern_eq` — the second builder of patterns, which escapes the other way round.
-/

open SqlText SqlLogic

namespace Zentra

namespace QueryEngine

/-- `text.replace(/c/g, replacement)`. -/
def replaceEach (c : Char) (replacement text : List Char) : List Char :=
  text.flatMap fun d => if d = c then replacement else [d]

def escapeString (value : String) : String :=
  String.ofList (replaceEach '\'' ['\'', '\''] value.toList)

def escapeLikePattern (pattern : String) : String :=
  String.ofList (replaceEach '_' ['\\', '_'] (replaceEach '%' ['\\', '%']
    (replaceEach '\\' ['\\', '\\'] pattern.toList)))

def buildContainsPattern (value : String) : String :=
  "'%" ++ escapeLikePattern (escapeString value) ++ "%'"

def buildStartsWithPattern (value : String) : String :=
  "'" ++ escapeLikePattern (escapeString value) ++ "%'"

def buildEndsWithPattern (value : String) : String :=
  "'%" ++ escapeLikePattern (escapeString value) ++ "'"

/-- The second builder of an operator. -/
def buildPattern (value : String) : LikePatternOperator → String
  | .contains => buildContainsPattern value
  | .startsWith => buildStartsWithPattern value
  | .endsWith => buildEndsWithPattern value

theorem replaceEach_cons (c d : Char) (replacement text : List Char) :
    replaceEach c replacement (d :: text) =
      (if d = c then replacement else [d]) ++ replaceEach c replacement text := rfl

theorem replaceEach_append (c : Char) (replacement xs ys : List Char) :
    replaceEach c replacement (xs ++ ys) =
      replaceEach c replacement xs ++ replaceEach c replacement ys := List.flatMap_append

theorem escapeLike_cons (escape c : Char) (text : List Char) :
    escapeLike escape (c :: text) = escapeLike escape [c] ++ escapeLike escape text := by
  rw [escapeLike, escapeLike]
  split
  · rfl
  · rfl

/-- The two builders escape a character alike: a quote is none of the pattern's characters. -/
theorem replaceEach_char (c : Char) :
    replaceEach '_' ['\\', '_'] (replaceEach '%' ['\\', '%'] (replaceEach '\\' ['\\', '\\']
      (if c = '\'' then ['\'', '\''] else [c]))) = doubled '\'' (escapeLike '\\' [c]) := by
  by_cases hquote : c = '\''
  · subst hquote
    decide
  by_cases hescape : c = '\\'
  · subst hescape
    decide
  by_cases hpercent : c = '%'
  · subst hpercent
    decide
  by_cases hscore : c = '_'
  · subst hscore
    decide
  · simp [replaceEach, escapeLike, doubled, hquote, hescape, hpercent, hscore]

/-- **The two builders** escape alike. -/
theorem escapeLikePattern_escapeString (value : String) :
    (escapeLikePattern (escapeString value)).toList =
      doubled '\'' (escapeLike '\\' value.toList) := by
  unfold escapeLikePattern escapeString
  rw [String.toList_ofList, String.toList_ofList]
  induction value.toList with
  | nil => rfl
  | cons c cs ih =>
      rw [replaceEach_cons, replaceEach_append, replaceEach_append, replaceEach_append, ih,
        replaceEach_char, ← doubled_append, ← escapeLike_cons]

theorem buildPattern_eq (value : String) (operator : LikePatternOperator) :
    buildPattern value operator = buildLikePattern value operator := by
  have hescaped : escapeLikePattern (escapeString value) =
      String.ofList (doubled '\'' (escapeLike '\\' value.toList)) := by
    rw [← escapeLikePattern_escapeString, String.ofList_toList]
  cases operator with
  | contains => exact congrArg (fun escaped => "'%" ++ escaped ++ "%'") hescaped
  | startsWith => exact congrArg (fun escaped => "'" ++ escaped ++ "%'") hescaped
  | endsWith => exact congrArg (fun escaped => "'%" ++ escaped ++ "'") hescaped

/-- `subject LIKE pattern ESCAPE escape`, on the literals of the statement. -/
def likeMatches (pattern escape subject : String) : Option Bool := do
  let pattern ← literalContent '\'' pattern.toList
  match ← literalContent '\'' escape.toList with
  | [c] => return like (wildcards c false pattern) subject.toList
  | _ => none

def escapeLiteral : String := "'\\'"

instance (operator : LikePatternOperator) (sought text : List Char) :
    Decidable (operator.Relates sought text) :=
  match operator with
  | .contains => inferInstanceAs (Decidable (_ <:+: _))
  | .startsWith => inferInstanceAs (Decidable (_ <+: _))
  | .endsWith => inferInstanceAs (Decidable (_ <:+ _))

/-- The pattern stands for the value: it is known of every text whether it matches. -/
theorem likeMatches_buildLikePattern (operator : LikePatternOperator) (value subject : String) :
    likeMatches (buildLikePattern value operator) escapeLiteral subject =
      some (decide (operator.Relates value.toList subject.toList)) := by
  have hescape : literalContent '\'' escapeLiteral.toList = some ['\\'] := by decide
  unfold likeMatches
  rw [buildLikePattern_toList, literalContent_enclosed, hescape]
  refine congrArg some (Bool.eq_iff_iff.2 ?_)
  exact (like_likePattern operator value subject.toList).trans decide_eq_true_iff.symm

theorem text_like (operator : LikePatternOperator) (member value : String) :
    (Predicate.like false member operator value).text =
      quoteMemberRef member ++ " LIKE " ++ buildLikePattern value operator ++ " ESCAPE " ++
        escapeLiteral := by
  have hescape : " ESCAPE '\\'" = " ESCAPE " ++ escapeLiteral := by decide
  have hnot : quoteMemberRef member ++ " " ++ notText false ++ "LIKE " =
      quoteMemberRef member ++ " LIKE " := by
    rw [String.append_assoc, String.append_assoc]
    rfl
  have htext : (Predicate.like false member operator value).text =
      quoteMemberRef member ++ " " ++ notText false ++ "LIKE " ++
        buildLikePattern value operator ++ " ESCAPE '\\'" := rfl
  rw [htext, hnot, hescape, ← String.append_assoc]

/-- **Patterns mean substrings**: the condition matches a text exactly if the text contains the
value, starts with it or ends with it, and both builders write the same pattern. -/
theorem like_means_substring (operator : LikePatternOperator) (member value subject : String) :
    (Predicate.like false member operator value).text =
        quoteMemberRef member ++ " LIKE " ++ buildLikePattern value operator ++ " ESCAPE " ++
          escapeLiteral ∧
      likeMatches (buildLikePattern value operator) escapeLiteral subject =
        some (decide (operator.Relates value.toList subject.toList)) ∧
      buildPattern value operator = buildLikePattern value operator :=
  ⟨text_like operator member value, likeMatches_buildLikePattern operator value subject,
    buildPattern_eq value operator⟩

example : likeMatches (buildLikePattern "50%_o'\\" .contains) escapeLiteral "a 50%_o'\\ b" =
    some true := by decide

end QueryEngine

end Zentra
