import Zentra.PythonText
import Zentra.RelationInference

/-!
# How far a Relation is believed

The confidence of a candidate is the smallest of its combined score, what the sample supports and
what the number of distinct values supports.

* `assess_confidence` — the assessed confidence as one minimum;
* `assess_bounded` — the confidence stays below both ceilings, and more evidence never lowers it.
-/

open PythonText

namespace Zentra

namespace Connector

theorem round4_eq (value : ℚ) : round4 value = roundHalfEven (value * 10000) / 10000 := by
  have hfloor : (value * 10000).floor = ⌊value * 10000⌋ := rfl
  unfold round4 roundHalfEven
  dsimp only
  rw [hfloor]
  split_ifs <;> push_cast <;> rfl

theorem round4_mono {value other : ℚ} (h : value ≤ other) : round4 value ≤ round4 other := by
  have hscaled : roundHalfEven (value * 10000) ≤ roundHalfEven (other * 10000) :=
    roundHalfEven_mono (by linarith)
  have hcast : (roundHalfEven (value * 10000) : ℚ) ≤ roundHalfEven (other * 10000) := by
    exact_mod_cast hscaled
  rw [round4_eq, round4_eq]
  linarith

theorem round4_of_digits (digits : Int) : round4 (digits / 10000) = digits / 10000 := by
  have hscaled : (digits / 10000 * 10000 : ℚ) = digits := by ring
  rw [round4_eq, hscaled, roundHalfEven_intCast]

/-- `sample_size_ceiling`, of a size that may be missing. -/
def sampleSizeCeilingOf : Option Int → ℚ
  | none => 2 / 5
  | some sampledRows => if sampledRows < 0 then 2 / 5 else sampleSizeCeiling sampledRows.toNat

/-- `cardinality_ceiling`, of a count that may be missing. -/
def cardinalityCeilingOf : Option Int → ℚ
  | none => 2 / 5
  | some distinctValues =>
      if distinctValues < 0 then 2 / 5 else cardinalityCeiling distinctValues.toNat

theorem sampleSizeCeiling_mono {few many : Nat} (h : few ≤ many) :
    sampleSizeCeiling few ≤ sampleSizeCeiling many := by
  unfold sampleSizeCeiling
  split_ifs <;> first | omega | norm_num

theorem cardinalityCeiling_mono {few many : Nat} (h : few ≤ many) :
    cardinalityCeiling few ≤ cardinalityCeiling many := by
  unfold cardinalityCeiling
  split_ifs <;> first | omega | norm_num

/-- A ceiling has four digits, and is between 0 and 1. -/
structure IsCeiling (ceiling : ℚ) : Prop where
  rounded : round4 ceiling = ceiling
  nonneg : 0 ≤ ceiling
  le_one : ceiling ≤ 1

theorem isCeiling_of_digits {ceiling : ℚ} (digits : Nat) (hdigits : digits ≤ 10000)
    (h : ceiling = digits / 10000) : IsCeiling ceiling := by
  have hcast : (digits : ℚ) ≤ 10000 := by exact_mod_cast hdigits
  have hnonneg : (0 : ℚ) ≤ digits := Nat.cast_nonneg digits
  subst h
  refine ⟨?_, by positivity, by linarith⟩
  have hrounded := round4_of_digits digits
  rwa [Int.cast_natCast] at hrounded

theorem isCeiling_sampleSizeCeiling (rows : Nat) : IsCeiling (sampleSizeCeiling rows) := by
  unfold sampleSizeCeiling
  split_ifs
  · exact isCeiling_of_digits 5000 (by decide) (by norm_num)
  · exact isCeiling_of_digits 7000 (by decide) (by norm_num)
  · exact isCeiling_of_digits 8500 (by decide) (by norm_num)
  · exact isCeiling_of_digits 10000 (by decide) (by norm_num)

theorem isCeiling_cardinalityCeiling (distinct : Nat) :
    IsCeiling (cardinalityCeiling distinct) := by
  unfold cardinalityCeiling
  split_ifs
  · exact isCeiling_of_digits 1000 (by decide) (by norm_num)
  · exact isCeiling_of_digits 3500 (by decide) (by norm_num)
  · exact isCeiling_of_digits 6000 (by decide) (by norm_num)
  · exact isCeiling_of_digits 8000 (by decide) (by norm_num)
  · exact isCeiling_of_digits 10000 (by decide) (by norm_num)

theorem isCeiling_sampleSizeCeilingOf (sampledRows : Option Int) :
    IsCeiling (sampleSizeCeilingOf sampledRows) := by
  have hunknown : IsCeiling (2 / 5) := isCeiling_of_digits 4000 (by decide) (by norm_num)
  cases sampledRows with
  | none => exact hunknown
  | some rows =>
      show IsCeiling (if rows < 0 then 2 / 5 else sampleSizeCeiling rows.toNat)
      split_ifs
      · exact hunknown
      · exact isCeiling_sampleSizeCeiling _

theorem isCeiling_cardinalityCeilingOf (distinctValues : Option Int) :
    IsCeiling (cardinalityCeilingOf distinctValues) := by
  have hunknown : IsCeiling (2 / 5) := isCeiling_of_digits 4000 (by decide) (by norm_num)
  cases distinctValues with
  | none => exact hunknown
  | some distinct =>
      show IsCeiling (if distinct < 0 then 2 / 5 else cardinalityCeiling distinct.toNat)
      split_ifs
      · exact hunknown
      · exact isCeiling_cardinalityCeiling _

theorem sampleSizeCeilingOf_none_le (rows : Nat) :
    sampleSizeCeilingOf none ≤ sampleSizeCeilingOf (some rows) := by
  show 2 / 5 ≤ sampleSizeCeiling rows
  unfold sampleSizeCeiling
  split_ifs <;> norm_num

section Assessment

variable {affinity other : ℚ} {overlap more : OverlapMeasurement}

/-- The combined score, before it is rounded and before the ceilings apply. -/
def combinedScore (affinity : ℚ) (overlap : OverlapMeasurement) : ℚ :=
  7 / 20 * affinity + 13 / 20 * overlap.overlapFraction

/-- A measurement with no less evidence. -/
structure OverlapMeasurement.NoMoreThan (overlap more : OverlapMeasurement) : Prop where
  fraction : overlap.overlapFraction ≤ more.overlapFraction
  rows : overlap.sampledRows ≤ more.sampledRows
  cardinality : overlap.minCardinality ≤ more.minCardinality

theorem overlapFraction_nonneg : 0 ≤ overlap.overlapFraction := by
  unfold OverlapMeasurement.overlapFraction
  split
  · exact le_refl _
  · positivity

/-- **The assessed confidence** is a minimum; the ceilings need no rounding. -/
theorem assess_confidence : (assess affinity overlap).confidence =
    min (round4 (combinedScore affinity overlap))
      (min (assess affinity overlap).sampleCeiling
        (assess affinity overlap).cardinalityCeilingValue) := by
  have hmono : Monotone round4 := fun _ _ h => round4_mono h
  show round4 (min (combinedScore affinity overlap) (min (sampleSizeCeiling overlap.sampledRows)
    (cardinalityCeiling overlap.minCardinality))) = _
  rw [hmono.map_min, hmono.map_min, (isCeiling_sampleSizeCeiling _).rounded,
    (isCeiling_cardinalityCeiling _).rounded]
  rfl

theorem round4_nonneg {value : ℚ} (h : 0 ≤ value) : 0 ≤ round4 value := by
  have hzero : round4 0 = 0 := by simpa using round4_of_digits 0
  exact hzero.symm.le.trans (round4_mono h)

theorem combinedScore_mono (haffinity : affinity ≤ other) (hmore : overlap.NoMoreThan more) :
    combinedScore affinity overlap ≤ combinedScore other more := by
  have hfraction := hmore.fraction
  unfold combinedScore
  linarith

theorem confidence_mono (haffinity : affinity ≤ other) (hmore : overlap.NoMoreThan more) :
    (assess affinity overlap).confidence ≤ (assess other more).confidence := by
  rw [assess_confidence, assess_confidence]
  exact min_le_min (round4_mono (combinedScore_mono haffinity hmore))
    (min_le_min (sampleSizeCeiling_mono hmore.rows) (cardinalityCeiling_mono hmore.cardinality))

theorem bindingCeiling_eq_none_iff : (assess affinity overlap).bindingCeiling = .none ↔
    combinedScore affinity overlap ≤ (assess affinity overlap).sampleCeiling ∧
      combinedScore affinity overlap ≤ (assess affinity overlap).cardinalityCeilingValue := by
  rw [← le_min_iff, ← min_eq_left_iff]
  unfold assess combinedScore
  dsimp only
  split_ifs with hscore
  · exact iff_of_true rfl hscore
  · exact iff_of_false (by simp) hscore
  · exact iff_of_false (by simp) hscore

/-- What bounds the confidence of a candidate. -/
structure Bounds (affinity : ℚ) (overlap : OverlapMeasurement) : Prop where
  nonneg : 0 ≤ (assess affinity overlap).confidence
  le_one : (assess affinity overlap).confidence ≤ 1
  le_sample : (assess affinity overlap).confidence ≤
    sampleSizeCeilingOf (some overlap.sampledRows)
  le_cardinality : (assess affinity overlap).confidence ≤
    cardinalityCeilingOf (some overlap.minCardinality)
  /-- an unknown sample is the weakest case -/
  unknown : sampleSizeCeilingOf none ≤ sampleSizeCeilingOf (some overlap.sampledRows)
  mono : ∀ other more, affinity ≤ other → overlap.NoMoreThan more →
    (assess affinity overlap).confidence ≤ (assess other more).confidence
  unbound : (assess affinity overlap).bindingCeiling = .none ↔
    combinedScore affinity overlap ≤ (assess affinity overlap).sampleCeiling ∧
      combinedScore affinity overlap ≤ (assess affinity overlap).cardinalityCeilingValue

/-- **The bounds** on the confidence of a candidate, whatever the evidence. -/
theorem assess_bounded (haffinity : 0 ≤ affinity) : Bounds affinity overlap := by
  have hmin := @assess_confidence affinity overlap
  have hsample := isCeiling_sampleSizeCeilingOf (some overlap.sampledRows)
  have hcardinality := isCeiling_cardinalityCeilingOf (some overlap.minCardinality)
  have hle_sample : (assess affinity overlap).confidence ≤
      sampleSizeCeilingOf (some overlap.sampledRows) := by
    rw [hmin]
    exact (min_le_right _ _).trans (min_le_left _ _)
  have hle_cardinality : (assess affinity overlap).confidence ≤
      cardinalityCeilingOf (some overlap.minCardinality) := by
    rw [hmin]
    exact (min_le_right _ _).trans (min_le_right _ _)
  have hscore : 0 ≤ combinedScore affinity overlap := by
    have hfraction := @overlapFraction_nonneg overlap
    unfold combinedScore
    positivity
  refine ⟨?_, hle_sample.trans hsample.le_one, hle_sample, hle_cardinality,
    sampleSizeCeilingOf_none_le _, ?_, bindingCeiling_eq_none_iff⟩
  · rw [hmin]
    exact le_min (round4_nonneg hscore) (le_min hsample.nonneg hcardinality.nonneg)
  · exact fun other more hother hmore => confidence_mono hother hmore

end Assessment

/-- Half of two hundred values were found among fifty rows. -/
def halfMatched : OverlapMeasurement where
  leftDistinct := 200
  rightDistinct := 200
  matchedDistinct := 100
  sampledRows := 50

/-- Names that are half alike. -/
theorem halfMatched_bounded : Bounds (1 / 2) halfMatched := assess_bounded (by norm_num)

/-- Nothing holds a score down that is as high as a ceiling. -/
theorem at_ceiling_unbound : (assess (1 / 2) halfMatched).bindingCeiling = .none ∧
    ¬ combinedScore (1 / 2) halfMatched < (assess (1 / 2) halfMatched).sampleCeiling := by
  decide +kernel

end Connector

end Zentra
