import Mathlib.Algebra.Order.Ring.Rat
import Mathlib.Data.List.Infix
import Mathlib.Tactic.NormNum

/-!
# Outcome signals of the agents, and what bounds a confidence

An agent reports a confidence or the verdict of a validation.  A confidence
lies between zero and one and names how it was calibrated, so a
`ConfidenceOutcome` carries both facts.  Two ceilings may lower it: how
independent the recheck was, and how many records the claim rests on.

Scores are only compared and copied, never computed with; a float stands for
the decimal it is written as.
-/

namespace Zentra

structure ConfidenceOutcome where
  score : ℚ
  calibrationMethod : String
  score_nonneg : 0 ≤ score := by norm_num
  score_le_one : score ≤ 1 := by norm_num
  method_ne_empty : calibrationMethod ≠ "" := by decide
  deriving DecidableEq

structure ValidationOutcome where
  passed : Bool
  checks : List String := []
  issues : List String := []
  deriving DecidableEq, Repr

/-- `OutcomeSignal`: one of the two, told apart by `kind`. -/
inductive OutcomeSignal
  | confidence (outcome : ConfidenceOutcome)
  | validation (outcome : ValidationOutcome)
  deriving DecidableEq

def OutcomeSignal.kind : OutcomeSignal → String
  | confidence _ => "confidence"
  | validation _ => "validation"

/-- `outcome.score if isinstance(outcome, ConfidenceOutcome) else None`. -/
def OutcomeSignal.score? : OutcomeSignal → Option ℚ
  | confidence outcome => some outcome.score
  | validation _ => none

/-- `_FAMILY_MARKERS`, each of which is also the name of its family. -/
def familyMarkers : List String :=
  ["gpt-oss", "claude", "gemini", "nemotron", "glm", "gpt-5", "kimi", "qwen",
    "llama"]

/-- `model_family` of a model identifier, which is plain ASCII: the family whose
marker occurs in the last part of the name, else that part itself. -/
def modelFamily (model : String) : String :=
  let lastPart := (model.toList.reverse.takeWhile (· ≠ '/')).reverse
  let name := lastPart.map Char.toLower
  match familyMarkers.find? fun marker => decide (marker.toList <:+: name) with
  | some family => family
  | none => String.ofList name

inductive IndependenceLevel
  | none
  | partly
  | full
  deriving DecidableEq, Repr

namespace IndependenceLevel

def value : IndependenceLevel → String
  | none => "none"
  | partly => "partial"
  | full => "full"

/-- The bound of a recheck: `_INDEPENDENCE_CEILINGS`, with the calibration
method that names it. -/
def bound : IndependenceLevel → ConfidenceOutcome
  | none => { score := 1 / 2, calibrationMethod := "capped_independence_none" }
  | partly =>
      { score := 17 / 20, calibrationMethod := "capped_independence_partial" }
  | full => { score := 1, calibrationMethod := "capped_independence_full" }

/-- The calibration method is the fixed prefix followed by the level. -/
theorem bound_method (level : IndependenceLevel) :
    level.bound.calibrationMethod = "capped_independence_" ++ level.value := by
  cases level <;> decide

end IndependenceLevel

/-- `independence_of`: unknown on either side is no independence. -/
def independenceOf (analystModel evaluatorModel : Option String) :
    IndependenceLevel :=
  match analystModel, evaluatorModel with
  | some analyst, some evaluator =>
      if analyst = "" ∨ evaluator = "" then .none
      else if analyst = evaluator then .none
      else if modelFamily analyst = modelFamily evaluator then .partly
      else .full
  | _, _ => .none

/-- `confidence_ceiling`: an unknown sample size is the weakest case. -/
def confidenceCeiling : Option Int → ℚ
  | none => 1 / 2
  | some size =>
      if size < 0 then 1 / 2
      else if size < 5 then 1 / 2
      else if size < 30 then 13 / 20
      else if size < 100 then 17 / 20
      else 1

theorem confidenceCeiling_range (size : Option Int) :
    0 ≤ confidenceCeiling size ∧ confidenceCeiling size ≤ 1 := by
  unfold confidenceCeiling
  cases size with
  | none => norm_num
  | some size =>
      by_cases hnegative : size < 0
      · norm_num [hnegative]
      by_cases hfive : size < 5
      · norm_num [hnegative, hfive]
      by_cases hthirty : size < 30
      · norm_num [hnegative, hfive, hthirty]
      by_cases hhundred : size < 100
      · norm_num [hnegative, hfive, hthirty, hhundred]
      · norm_num [hnegative, hfive, hthirty, hhundred]

def sampleBound (size : Option Int) : ConfidenceOutcome where
  score := confidenceCeiling size
  calibrationMethod := "capped_sample_size"
  score_nonneg := (confidenceCeiling_range size).1
  score_le_one := (confidenceCeiling_range size).2

/-- The bound of a claim that is not about sampled data. -/
def unsampledBound : ConfidenceOutcome where
  score := 1
  calibrationMethod := "not_a_sampled_claim"

/-- `min(a, b, key=score)`: the first of two bounds with the lower score. -/
def ConfidenceOutcome.min (a b : ConfidenceOutcome) : ConfidenceOutcome :=
  if b.score < a.score then b else a

theorem ConfidenceOutcome.min_score (a b : ConfidenceOutcome) :
    (a.min b).score = Min.min a.score b.score := by
  unfold ConfidenceOutcome.min
  by_cases hless : b.score < a.score
  · rw [if_pos hless, min_eq_right (le_of_lt hless)]
  · rw [if_neg hless, min_eq_left (not_lt.1 hless)]

end Zentra
