import Zentra.PublicationGate

/-!
# What the sample sizes decide

Both agents report how many records their figures rest on.  The sizes cap the confidence, and
two sizes that are far apart keep a result from counting as converged.  A size of zero stands
for a question about the catalog; both rules drop it together with the sizes that are missing.

* `Bounded` — what `bounded_outcome` should do, and `bounded_iff`: when it does;
* `converged_fails_iff` — when samples that diverge fail the convergence.
-/

namespace Zentra

theorem confidenceCeiling_le_half_iff {size : Int} :
    confidenceCeiling (some size) ≤ 1 / 2 ↔ size < 5 := by
  unfold confidenceCeiling
  dsimp only
  split_ifs with hnegative hfive hthirty hhundred
  · exact iff_of_true (le_refl _) (by omega)
  · exact iff_of_true (le_refl _) hfive
  · exact iff_of_false (by norm_num) hfive
  · exact iff_of_false (by norm_num) hfive
  · exact iff_of_false (by norm_num) hfive

theorem confidenceCeiling_mono {small large : Int} (h : small ≤ large) :
    confidenceCeiling (some small) ≤ confidenceCeiling (some large) := by
  unfold confidenceCeiling
  dsimp only
  split_ifs <;> first | omega | norm_num

theorem confidenceCeiling_zero : confidenceCeiling (some 0) = 1 / 2 := by
  norm_num [confidenceCeiling]

theorem ConfidenceOutcome.min_eq_or (a b : ConfidenceOutcome) : a.min b = a ∨ a.min b = b := by
  unfold ConfidenceOutcome.min
  split
  · exact .inr rfl
  · exact .inl rfl

namespace PipelineResult

/-- A size that is reported and not zero. -/
def Counts (size : Option Int) : Prop := size ≠ none ∧ size ≠ some 0

instance (size : Option Int) : Decidable (Counts size) := inferInstanceAs (Decidable (_ ∧ _))

variable {result : PipelineResult} {outcome : ConfidenceOutcome} {threshold : ℚ}

theorem not_counts_iff {size : Option Int} : ¬ Counts size ↔ size = none ∨ size = some 0 := by
  unfold Counts
  tauto

theorem confidenceCeiling_of_not_counts {size : Option Int} (h : ¬ Counts size) :
    confidenceCeiling size = 1 / 2 := by
  obtain rfl | rfl := not_counts_iff.1 h
  · rfl
  · exact confidenceCeiling_zero

/-- The one size that counts, if the other does not. -/
def LoneSample (result : PipelineResult) (size : Int) : Prop :=
  size ≠ 0 ∧
    (result.analystSampleSize = some size ∧ ¬ Counts result.evaluatorSampleSize ∨
      result.evaluatorSampleSize = some size ∧ ¬ Counts result.analystSampleSize)

instance (size : Int) : Decidable (result.LoneSample size) :=
  inferInstanceAs (Decidable (_ ∧ (_ ∧ _ ∨ _ ∧ _)))

theorem sampleSize_eq_min {analyst evaluator : Int}
    (hanalyst : result.analystSampleSize = some analyst) (ha : analyst ≠ 0)
    (hevaluator : result.evaluatorSampleSize = some evaluator) (he : evaluator ≠ 0) :
    result.sampleSize = some (min analyst evaluator) := by
  unfold sampleSize
  simp [hanalyst, hevaluator, ha, he, List.min?]

theorem sampleSize_of_lone {size : Int} (h : result.LoneSample size) :
    result.sampleSize = some size := by
  obtain ⟨hsize, ⟨hthis, hother⟩ | ⟨hthis, hother⟩⟩ := h
  all_goals
    unfold sampleSize
    obtain hnone | hzero := not_counts_iff.1 hother
    · simp [hthis, hnone, hsize, List.min?]
    · simp [hthis, hzero, hsize, List.min?]

theorem sampleSize_eq_none (hanalyst : ¬ Counts result.analystSampleSize)
    (hevaluator : ¬ Counts result.evaluatorSampleSize) : result.sampleSize = none := by
  unfold sampleSize
  obtain ha | ha := not_counts_iff.1 hanalyst <;>
    obtain he | he := not_counts_iff.1 hevaluator <;> simp [ha, he]

theorem sample_cases (result : PipelineResult) :
    (∃ analyst evaluator, result.analystSampleSize = some analyst ∧ analyst ≠ 0 ∧
        result.evaluatorSampleSize = some evaluator ∧ evaluator ≠ 0) ∨
      (∃ size, result.LoneSample size) ∨
        (¬ Counts result.analystSampleSize ∧ ¬ Counts result.evaluatorSampleSize) := by
  have hsome : ∀ {size : Option Int}, Counts size → ∃ n, size = some n ∧ n ≠ 0 := by
    intro size hcounts
    obtain ⟨n, hn⟩ := Option.ne_none_iff_exists'.1 hcounts.1
    exact ⟨n, hn, fun hzero => hcounts.2 (by rw [hn, hzero])⟩
  by_cases hanalyst : Counts result.analystSampleSize
  · obtain ⟨analyst, ha, hanonzero⟩ := hsome hanalyst
    by_cases hevaluator : Counts result.evaluatorSampleSize
    · obtain ⟨evaluator, he, henonzero⟩ := hsome hevaluator
      exact .inl ⟨analyst, evaluator, ha, hanonzero, he, henonzero⟩
    · exact .inr (.inl ⟨analyst, hanonzero, .inl ⟨ha, hevaluator⟩⟩)
  · by_cases hevaluator : Counts result.evaluatorSampleSize
    · obtain ⟨evaluator, he, henonzero⟩ := hsome hevaluator
      exact .inr (.inl ⟨evaluator, henonzero, .inr ⟨he, hanalyst⟩⟩)
    · exact .inr (.inr ⟨hanalyst, hevaluator⟩)

theorem counts_some {size : Int} : Counts (some size) ↔ size ≠ 0 := by
  simp [Counts]

theorem LoneSample.unique {size other : Int} (h : result.LoneSample size)
    (hother : result.LoneSample other) : size = other := by
  obtain ⟨hsize, ⟨hthis, hnot⟩ | ⟨hthis, hnot⟩⟩ := h
  · obtain ⟨-, ⟨hsame, -⟩ | ⟨-, hcounts⟩⟩ := hother
    · exact Option.some.inj (hthis.symm.trans hsame)
    · rw [hthis] at hcounts
      exact absurd (counts_some.2 hsize) hcounts
  · obtain ⟨-, ⟨-, hcounts⟩ | ⟨hsame, -⟩⟩ := hother
    · rw [hthis] at hcounts
      exact absurd (counts_some.2 hsize) hcounts
    · exact Option.some.inj (hthis.symm.trans hsame)

/-- Beside a lone size, the other agent has the lowest ceiling. -/
theorem LoneSample.ceilings {size : Int} (h : result.LoneSample size) (score : ℚ) :
    (score ≤ confidenceCeiling result.analystSampleSize ∧
        score ≤ confidenceCeiling result.evaluatorSampleSize) ↔
      score ≤ confidenceCeiling (some size) ∧ score ≤ 1 / 2 := by
  obtain ⟨-, ⟨hthis, hnot⟩ | ⟨hthis, hnot⟩⟩ := h
  · rw [hthis, confidenceCeiling_of_not_counts hnot]
  · rw [hthis, confidenceCeiling_of_not_counts hnot, and_comm]

/-- The bounds that a calibration method names: the reported score, the independence of the
recheck, and what the sizes support. -/
def bounds (result : PipelineResult) (outcome : ConfidenceOutcome) : List ConfidenceOutcome :=
  [outcome, (independenceOf result.analystModel result.evaluatorModel).bound] ++
    if result.NotASampledClaim then [unsampledBound]
    else [sampleBound result.analystSampleSize, sampleBound result.evaluatorSampleSize]

/-- What bounding should do: no bound is exceeded, that of each agent's sample included, and the
method names one that the score equals. -/
structure Bounded (result : PipelineResult) (outcome bounded : ConfidenceOutcome) : Prop where
  reported : bounded.score ≤ outcome.score
  independent : bounded.score ≤
    (independenceOf result.analystModel result.evaluatorModel).bound.score
  sampled : ¬ result.NotASampledClaim →
    bounded.score ≤ confidenceCeiling result.analystSampleSize ∧
      bounded.score ≤ confidenceCeiling result.evaluatorSampleSize
  named : ∃ bound ∈ result.bounds outcome,
    bound.calibrationMethod = bounded.calibrationMethod ∧ bound.score = bounded.score

/-- **The condition.**  Where only one size counts, it is below five, or another bound is no
higher than the lowest ceiling. -/
def LoneSampleIsWeak (result : PipelineResult) (outcome : ConfidenceOutcome) : Prop :=
  ∀ size, result.LoneSample size → size < 5 ∨ outcome.score ≤ 1 / 2 ∨
    (independenceOf result.analystModel result.evaluatorModel).bound.score ≤ 1 / 2

/-- The bound that is taken from the sizes. -/
def ofSample (result : PipelineResult) : ConfidenceOutcome :=
  if result.NotASampledClaim then unsampledBound else sampleBound result.sampleSize

theorem boundedOutcome_eq (houtcome : result.outcome = .confidence outcome) :
    result.boundedOutcome = .confidence ((outcome.min
      (independenceOf result.analystModel result.evaluatorModel).bound).min result.ofSample) := by
  unfold boundedOutcome
  rw [houtcome]
  rfl

/-- The size that the cap is taken from is that of an agent. -/
theorem sampleSize_eq_or (hsampled : ¬ result.NotASampledClaim) :
    result.sampleSize = result.analystSampleSize ∨
      result.sampleSize = result.evaluatorSampleSize := by
  obtain ⟨analyst, evaluator, ha, hanonzero, he, henonzero⟩ | ⟨size, hlone⟩ | ⟨ha, he⟩ :=
    sample_cases result
  · rw [sampleSize_eq_min ha hanonzero he henonzero, ha, he]
    exact (min_choice analyst evaluator).imp (congrArg some) (congrArg some)
  · rw [sampleSize_of_lone hlone]
    obtain ⟨-, ⟨hthis, -⟩ | ⟨hthis, -⟩⟩ := hlone
    · exact .inl hthis.symm
    · exact .inr hthis.symm
  · rw [sampleSize_eq_none ha he]
    obtain hnone | hzero := not_counts_iff.1 ha
    · exact .inl hnone.symm
    · obtain hnone | hother := not_counts_iff.1 he
      · exact .inr hnone.symm
      · exact absurd ⟨hzero, hother⟩ hsampled

theorem ofSample_mem (outcome : ConfidenceOutcome) : result.ofSample ∈ result.bounds outcome := by
  unfold ofSample bounds
  by_cases hsampled : result.NotASampledClaim
  · simp [hsampled]
  · simp only [hsampled, if_false]
    obtain h | h := sampleSize_eq_or hsampled <;> simp [h]

/-- **The cap** holds for both agents exactly when a lone size is below five or the score is no
higher than the lowest ceiling. -/
theorem capped_iff (score : ℚ) :
    (min score (confidenceCeiling result.sampleSize) ≤ confidenceCeiling result.analystSampleSize ∧
      min score (confidenceCeiling result.sampleSize) ≤
        confidenceCeiling result.evaluatorSampleSize) ↔
      ∀ size, result.LoneSample size → size < 5 ∨ score ≤ 1 / 2 := by
  obtain ⟨analyst, evaluator, ha, hanonzero, he, henonzero⟩ | ⟨size, hlone⟩ | ⟨ha, he⟩ :=
    sample_cases result
  · -- the smaller of the two has the lower ceiling
    rw [sampleSize_eq_min ha hanonzero he henonzero, ha, he]
    refine iff_of_true ⟨?_, ?_⟩ ?_
    · exact (min_le_right _ _).trans (confidenceCeiling_mono (min_le_left _ _))
    · exact (min_le_right _ _).trans (confidenceCeiling_mono (min_le_right _ _))
    · intro size hlone
      obtain ⟨-, ⟨-, hnot⟩ | ⟨-, hnot⟩⟩ := hlone
      · rw [he] at hnot
        exact absurd (counts_some.2 henonzero) hnot
      · rw [ha] at hnot
        exact absurd (counts_some.2 hanonzero) hnot
  · rw [hlone.ceilings, sampleSize_of_lone hlone]
    have hcapped : min score (confidenceCeiling (some size)) ≤ 1 / 2 ↔
        size < 5 ∨ score ≤ 1 / 2 := by
      rw [min_le_iff, confidenceCeiling_le_half_iff, or_comm]
    rw [hcapped]
    constructor
    · intro h other hother
      rw [hother.unique hlone]
      exact h.2
    · intro h
      exact ⟨min_le_right _ _, h size hlone⟩
  · rw [sampleSize_eq_none ha he, confidenceCeiling_of_not_counts ha,
      confidenceCeiling_of_not_counts he]
    refine iff_of_true ⟨min_le_right _ _, min_le_right _ _⟩ ?_
    intro size hlone
    obtain ⟨hsize, ⟨hthis, -⟩ | ⟨hthis, -⟩⟩ := hlone
    · exact absurd (by rw [hthis]; exact counts_some.2 hsize) ha
    · exact absurd (by rw [hthis]; exact counts_some.2 hsize) he

theorem not_loneSample (h : result.NotASampledClaim) (size : Int) : ¬ result.LoneSample size := by
  intro hlone
  obtain ⟨hsize, ⟨hthis, -⟩ | ⟨hthis, -⟩⟩ := hlone
  · exact hsize (Option.some.inj (hthis.symm.trans h.1))
  · exact hsize (Option.some.inj (hthis.symm.trans h.2))

/-- **The bounds hold** exactly when a sample that counts alone is weak anyway. -/
theorem bounded_iff (houtcome : result.outcome = .confidence outcome) :
    (∃ bounded, result.boundedOutcome = .confidence bounded ∧
      result.Bounded outcome bounded) ↔ result.LoneSampleIsWeak outcome := by
  let independence := (independenceOf result.analystModel result.evaluatorModel).bound
  let bounded := (outcome.min independence).min result.ofSample
  have hbounded : result.boundedOutcome = .confidence bounded := boundedOutcome_eq houtcome
  have hscore : bounded.score =
      min (min outcome.score independence.score) result.ofSample.score := by
    rw [ConfidenceOutcome.min_score, ConfidenceOutcome.min_score]
  have hnamed : ∃ bound ∈ result.bounds outcome,
      bound.calibrationMethod = bounded.calibrationMethod ∧ bound.score = bounded.score := by
    refine ⟨bounded, ?_, rfl, rfl⟩
    obtain h | h := ConfidenceOutcome.min_eq_or (outcome.min independence) result.ofSample
    · obtain h' | h' := ConfidenceOutcome.min_eq_or outcome independence
      · exact List.mem_append_left _ (by simp [bounded, h, h'])
      · exact List.mem_append_left _ (by simp [bounded, h, h', independence])
    · exact (show bounded = result.ofSample from h) ▸ ofSample_mem outcome
  have hothers : bounded.score ≤ outcome.score ∧ bounded.score ≤ independence.score := by
    rw [hscore]
    exact ⟨(min_le_left _ _).trans (min_le_left _ _), (min_le_left _ _).trans (min_le_right _ _)⟩
  have hweak : result.LoneSampleIsWeak outcome ↔ ∀ size, result.LoneSample size →
      size < 5 ∨ min outcome.score independence.score ≤ 1 / 2 := by
    simp only [LoneSampleIsWeak, min_le_iff, independence]
  have hsampled : (¬ result.NotASampledClaim →
      bounded.score ≤ confidenceCeiling result.analystSampleSize ∧
        bounded.score ≤ confidenceCeiling result.evaluatorSampleSize) ↔
      result.LoneSampleIsWeak outcome := by
    rw [hweak]
    by_cases hcatalog : result.NotASampledClaim
    · exact iff_of_true (fun hnot => absurd hcatalog hnot)
        fun size hlone => absurd hlone (not_loneSample hcatalog size)
    · have hsize : result.ofSample.score = confidenceCeiling result.sampleSize := by
        rw [ofSample, if_neg hcatalog]
        rfl
      rw [hscore, hsize, ← capped_iff]
      exact ⟨fun h => h hcatalog, fun h _ => h⟩
  rw [← hsampled]
  constructor
  · intro ⟨found, hfound, hholds⟩
    obtain rfl : bounded = found := OutcomeSignal.confidence.inj (hbounded.symm.trans hfound)
    exact hholds.sampled
  · intro hsizes
    exact ⟨bounded, hbounded, hothers.1, hothers.2, hsizes, hnamed⟩

/-- The larger of the two sizes is more than twice the smaller. -/
def SamplesDiverge (analyst evaluator : Int) : Prop :=
  2 * min analyst evaluator < max analyst evaluator

/-- **Samples that diverge** fail the convergence exactly when not just one of the sizes is zero,
or the recheck failed it. -/
theorem converged_fails_iff {analyst evaluator : Int} (signal : OutcomeSignal)
    (hanalyst : result.analystSampleSize = some analyst)
    (hevaluator : result.evaluatorSampleSize = some evaluator) :
    (SamplesDiverge analyst evaluator →
        .converged ∈ (result.publicationDecision signal threshold).failed) ↔
      ((analyst = 0 ↔ evaluator = 0) ∨ result.converged = false) := by
  have hfailed : .converged ∈ (result.publicationDecision signal threshold).failed ↔
      (result.converged = true → result.SampleSizesDiverge) := by
    unfold publicationDecision
    rw [mem_failed_iff]
    show (result.converged && !decide result.SampleSizesDiverge) = false ↔ _
    cases result.converged <;> simp
  have hdiverge : result.SampleSizesDiverge ↔
      analyst ≠ 0 ∧ evaluator ≠ 0 ∧ SamplesDiverge analyst evaluator := by
    unfold SampleSizesDiverge SamplesDiverge
    rw [hanalyst, hevaluator]
    dsimp only
    rw [mul_comm]
  rw [hfailed, hdiverge]
  unfold SamplesDiverge
  cases result.converged with
  | false => simp
  | true =>
      simp only [true_implies, Bool.true_eq_false, or_false]
      omega

/-- A confident result of two models, of which one has reported its sample. -/
def sampledOnce (analyst : Option Int) (evaluator : Int) : PipelineResult where
  finding := ⟨"headline", "summary", [], []⟩
  outcome := .confidence { score := 9 / 10, calibrationMethod := "reported" }
  converged := true
  analystModel := some "openai/gpt-5"
  evaluatorModel := some "anthropic/claude"
  analystSampleSize := analyst
  evaluatorSampleSize := some evaluator

/-- A lone sample of three is capped as a missing one is. -/
theorem bounded_sampledOnce :
    ∃ bounded, (sampledOnce none 3).boundedOutcome = .confidence bounded ∧
      (sampledOnce none 3).Bounded
        { score := 9 / 10, calibrationMethod := "reported" } bounded :=
  (bounded_iff rfl).2 fun size hlone => by
    obtain ⟨-, ⟨hthis, -⟩ | ⟨hthis, -⟩⟩ := hlone
    · cases hthis
    · obtain rfl := Option.some.inj hthis
      exact .inl (by decide)

/-- **A sample that is missing** does not cap the confidence beside one of a thousand. -/
theorem missing_sample_uncapped :
    ¬ ∃ bounded, (sampledOnce none 1000).boundedOutcome = .confidence bounded ∧
      (sampledOnce none 1000).Bounded
        { score := 9 / 10, calibrationMethod := "reported" } bounded := by
  intro ⟨bounded, hbounded, hholds⟩
  have hscore : (sampledOnce none 1000).boundedOutcome.score? = some (9 / 10) := by
    decide +kernel
  rw [hbounded] at hscore
  have hcapped : bounded.score ≤ 1 / 2 := (hholds.sampled (by decide)).1
  rw [Option.some.inj hscore] at hcapped
  norm_num at hcapped

/-- Sizes of ten and a hundred fail the convergence. -/
theorem diverging_samples_fail :
    .converged ∈ ((sampledOnce (some 10) 100).publicationDecision
      (sampledOnce (some 10) 100).boundedOutcome (7 / 10)).failed :=
  (converged_fails_iff _ rfl rfl).2 (.inl (by decide)) (by unfold SamplesDiverge; decide)

/-- **A size of zero** beside one of a hundred does not. -/
theorem zero_sample_converges :
    SamplesDiverge 0 100 ∧
      .converged ∉ ((sampledOnce (some 0) 100).publicationDecision
        (sampledOnce (some 0) 100).boundedOutcome (7 / 10)).failed :=
  ⟨by unfold SamplesDiverge; decide, by decide +kernel⟩

end PipelineResult

end Zentra
