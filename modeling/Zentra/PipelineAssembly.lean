import Mathlib.Tactic.Tauto
import Zentra.PublicationGate
import Zentra.RunBoard

/-!
# From measurements to a published finding

How the Orchestrator Loop turns what the agents established into a pipeline
result: the measurements are merged onto the board, open conflicts are
documented, the Insight Agent's claims are tied to citations, and the
application evaluates the result.

* `orchestrate_ok` — what the result carries over from the measurements;
* `contradiction_published_iff` — it does not reach the publication policy: when
  a contradicted run is published nevertheless.
-/

open Raising

namespace Zentra

/-- One claim as the Insight Agent wrote it: a mapping, with `none` for a key
that is missing. -/
structure RawClaim where
  kind : Option String
  text : Option String
  metric : Option String := none
  value : Option String := none
  period : Option String := none
  deriving DecidableEq, Repr

/-- What the Insight Agent proposed. -/
structure InsightOutcome where
  executionId : UUID
  headline : String
  summary : String
  claims : List RawClaim
  contradictions : List String
  rootCause : String
  outcome : OutcomeSignal
  deriving DecidableEq

/-- A governed Analyst measurement with its independent recheck: the states of
the two agents, as far as the loop reads them. -/
structure MeasurementResult where
  analystItemId : UUID
  evidence : List ValidatedEvidence
  metrics : List MetricComparison
  analystRefs : List String
  evaluatorRefs : List String
  outcome : OutcomeSignal
  recheckPassed : Bool
  analystModel : Option String := none
  evaluatorModel : Option String := none
  analystSampleSize : Option Int := none
  evaluatorSampleSize : Option Int := none
  deriving DecidableEq

/-- The measurement as the board sees it. -/
def MeasurementResult.measurement (result : MeasurementResult) : Measurement :=
  ⟨result.analystItemId, result.evidence⟩

/-- What the run established, for the application to act on. -/
structure PipelineOutcome where
  headline : String
  summary : String
  metrics : List MetricComparison
  evidenceRefs : List String
  outcome : OutcomeSignal
  converged : Bool
  contradictions : List String
  insight : InsightOutcome
  analystModel : Option String := none
  evaluatorModel : Option String := none
  analystSampleSize : Option Int := none
  evaluatorSampleSize : Option Int := none
  evidence : List ValidatedEvidence := []
  deriving DecidableEq

inductive UncitableClaimError
  | twoMeasurements (metric : String)
  | noEvidence (position : Int)
  | foreignValue (metric : String)
  deriving DecidableEq, Repr

inductive AssemblyError
  | uncitableClaim (error : UncitableClaimError)
  | keyError (key : String)
  | valueError (message : String)
  | draftFinding (error : DraftFindingError)
  | board (error : BoardError)
  | unsettledConflict (openConflicts : Nat)
  deriving DecidableEq, Repr

/-- `_optional_str`: a blank label is no label. -/
def optionalStr (value : Option String) : Option String :=
  value.bind fun text =>
    if PythonText.Blank text then none else some (PythonText.strip text)

/-- `ClaimKind(value)`. -/
def ClaimKind.ofValue (value : String) : Except AssemblyError ClaimKind :=
  if value = "observed" then .ok .observed
  else if value = "interpretation" then .ok .interpretation
  else .error (.valueError ("'" ++ value ++ "' is not a valid ClaimKind"))

/-- `RootCauseState(value)`. -/
def RootCauseState.ofValue (value : String) : Except AssemblyError RootCauseState :=
  if value = "unresolved" then .ok .unresolved
  else .error (.valueError ("'" ++ value ++ "' is not a valid RootCauseState"))

/-- `EvidenceReference(value)`. -/
def EvidenceReference.ofValue (value : String) :
    Except AssemblyError EvidenceReference :=
  if scheme : "artifact://".toList <+: value.toList then .ok ⟨value, scheme⟩
  else .error (.valueError "Evidence references must use the artifact:// scheme")

/-- The dictionary `by_metric`: a metric measured twice is refused. -/
def byMetric : List ValidatedEvidence → List ValidatedEvidence →
    Except AssemblyError (List ValidatedEvidence)
  | seen, [] => .ok seen
  | seen, item :: rest =>
      if seen.any fun earlier => earlier.metric = item.metric then
        .error (.uncitableClaim (.twoMeasurements item.metric))
      else byMetric (seen ++ [item]) rest

/-- The arguments that every citation of a run shares. -/
structure CitationContext where
  evaluatorOutcome : OutcomeSignal
  analysisRunId : UUID
  organizationId : UUID

/-- `_citation`: the citation's figure is the claim's figure, and must be one of
the two that were measured. -/
def citation (context : CitationContext) (newId : UUID) (measured : ValidatedEvidence)
    (value : String) (period : Option String) :
    Except AssemblyError EvidenceCitation :=
  if value ≠ measured.previousValue ∧ value ≠ measured.currentValue then
    .error (.uncitableClaim (.foreignValue measured.metric))
  else .ok {
    citationId := newId
    organizationId := context.organizationId
    analysisRunId := context.analysisRunId
    metric := measured.metric
    filters := measured.filters
    period
    grain := measured.grain
    producingExecutionId := some measured.producingExecutionId
    aggregateValue := value
    evaluatorOutcome := some context.evaluatorOutcome }

/-- The dictionary of citations by metric and period, in order of insertion, and
the next fresh identifier. -/
structure Citations where
  byKey : List ((String × Option String) × EvidenceCitation) := []
  newId : UUID
  deriving DecidableEq

/-- The citations themselves: `citations.values()`. -/
def Citations.values (citations : Citations) : List EvidenceCitation :=
  citations.byKey.map Prod.snd

/-- The citation for a claim's metric and period: the one that is there, or a
new one. -/
def Citations.cite (citations : Citations) (context : CitationContext)
    (measured : ValidatedEvidence) (value : String) (period : Option String) :
    Except AssemblyError (UUID × Citations) :=
  match citations.byKey.find? fun entry => entry.1 = (measured.metric, period) with
  | some (_, found) => .ok (found.citationId, citations)
  | none => do
      let made ← citation context citations.newId measured value period
      return (made.citationId, {
        byKey := citations.byKey ++ [((measured.metric, period), made)]
        newId := citations.newId + 1 })

/-- `ClaimKind(str(raw["kind"]))`. -/
def RawClaim.claimKind (raw : RawClaim) : Except AssemblyError ClaimKind :=
  match raw.kind with
  | some value => ClaimKind.ofValue value
  | none => .error (.keyError "kind")

/-- `str(raw["text"])`. -/
def RawClaim.claimText (raw : RawClaim) : Except AssemblyError String :=
  match raw.text with
  | some text => .ok text
  | none => .error (.keyError "text")

/-- The citations of one claim: an interpretation cites nothing, an observed
claim the measurement of its metric. -/
def citationIdsFor (context : CitationContext) (measurements : List ValidatedEvidence)
    (position : Int) (citations : Citations) (kind : ClaimKind)
    (metric value period : Option String) :
    Except AssemblyError (List UUID × Citations) :=
  match kind with
  | .interpretation => .ok ([], citations)
  | .observed =>
      match measurements.find? fun item => item.metric = metric.getD "" with
      | none => .error (.uncitableClaim (.noEvidence position))
      | some measured => do
          let (id, citations) ← citations.cite context measured (value.getD "") period
          return ([id], citations)

/-- One round of the loop over the claims. -/
def assembleClaim (context : CitationContext) (measurements : List ValidatedEvidence)
    (position : Int) (citations : Citations) (raw : RawClaim) :
    Except AssemblyError (Claim × Citations) := do
  let kind ← raw.claimKind
  let metric := optionalStr raw.metric
  let value := optionalStr raw.value
  let period := optionalStr raw.period
  let (citationIds, citations) ← citationIdsFor context measurements position citations
    kind metric value period
  let text ← raw.claimText
  return ({
    claimId := citations.newId, kind, text, position, metric, value, period
    citationIds }, { citations with newId := citations.newId + 1 })

def assembleClaims (context : CitationContext) (measurements : List ValidatedEvidence) :
    Int → Citations → List RawClaim → Except AssemblyError (List Claim × Citations)
  | _, citations, [] => .ok ([], citations)
  | position, citations, raw :: rest => do
      let (claim, citations) ← assembleClaim context measurements position citations raw
      let (claims, citations) ←
        assembleClaims context measurements (position + 1) citations rest
      return (claim :: claims, citations)

def draftWithCitations (context : CitationContext) (newId : UUID) (now : Int)
    (insight : InsightOutcome) (evidence : List ValidatedEvidence) :
    Except AssemblyError (DraftFinding × List EvidenceCitation) := do
  let measurements ← byMetric [] evidence
  let (claims, citations) ← assembleClaims context measurements 0 { newId } insight.claims
  let rootCause ← RootCauseState.ofValue insight.rootCause
  let confidence := match insight.outcome with
    | .confidence outcome => some outcome
    | .validation _ => none
  match DraftFinding.new citations.newId context.organizationId context.analysisRunId
      1 now (some insight.executionId) insight.headline insight.summary claims
      (insight.contradictions.map fun detail => { detail }) rootCause confidence with
  | .error e => throw (.draftFinding e)
  | .ok draft => return (draft, citations.values)

def pipelineResult (analysisRunId organizationId newId : UUID) (now : Int)
    (outcome : PipelineOutcome) : Except AssemblyError PipelineResult := do
  let (draft, citations) ← draftWithCitations
    ⟨outcome.outcome, analysisRunId, organizationId⟩ newId now outcome.insight
    outcome.evidence
  let evidenceRefs ← outcome.evidenceRefs.mapM EvidenceReference.ofValue
  return {
    finding := ⟨outcome.headline, outcome.summary, outcome.metrics, evidenceRefs⟩
    outcome := outcome.outcome
    converged := outcome.converged
    contradictions := outcome.contradictions
    analystModel := outcome.analystModel
    evaluatorModel := outcome.evaluatorModel
    analystSampleSize := outcome.analystSampleSize
    evaluatorSampleSize := outcome.evaluatorSampleSize
    draftFinding := some draft
    evidenceCitations := citations }

/-- Documenting the open conflicts, and refusing to go on while one is open:
`document_conflicts` and `require_settled_conflicts`. -/
def settleBoard (now : Int) (board : AnalysisRunBoard) :
    Except AssemblyError AnalysisRunBoard :=
  match documentConflicts now board with
  | .error e => .error (.board e)
  | .ok board =>
      if SettledConflicts board then .ok board
      else .error (.unsettledConflict board.unresolvedConflicts.length)

/-- The outcome that the loop reports. -/
def pipelineOutcome (primary : MeasurementResult) (children : List MeasurementResult)
    (insight : InsightOutcome) (board : AnalysisRunBoard) : PipelineOutcome where
  headline := insight.headline
  summary := insight.summary
  metrics := primary.metrics
  evidenceRefs := ((primary :: children).flatMap fun measured =>
    measured.analystRefs ++ measured.evaluatorRefs).eraseDups
  outcome := primary.outcome
  converged := primary.recheckPassed
  contradictions := insight.contradictions ++ documentedConflicts board
  insight
  analystModel := primary.analystModel
  evaluatorModel := primary.evaluatorModel
  analystSampleSize := primary.analystSampleSize
  evaluatorSampleSize := primary.evaluatorSampleSize
  evidence := primary.evidence

/-- The Orchestrator Loop from the measurements on: merge them onto a new board,
settle its conflicts, and assemble the result around what the Insight Agent
proposed. -/
def orchestrate (boardId analysisRunId organizationId newId : UUID) (now : Int)
    (primary : MeasurementResult) (children : List MeasurementResult)
    (insight : InsightOutcome) : Except AssemblyError PipelineResult := do
  let (board, newId) := mergeAll now
    (AnalysisRunBoard.create boardId analysisRunId organizationId now, newId)
    ((primary :: children).map MeasurementResult.measurement)
  let board ← settleBoard now board
  pipelineResult analysisRunId organizationId newId now
    (pipelineOutcome primary children insight board)

/-- Everything that one execution of a run depends on. -/
structure ExecutionInput where
  loaded : AnalysisRun
  storedVersion : Int
  threshold : ℚ
  boardId : UUID
  newId : UUID
  approvalId : UUID
  now : Int
  persisted : Bool
  primary : MeasurementResult
  children : List MeasurementResult
  insight : InsightOutcome

namespace ExecutionInput

def pipeline (input : ExecutionInput) : Except AssemblyError PipelineResult :=
  orchestrate input.boardId input.loaded.analysisRunId input.loaded.organizationId
    input.newId input.now input.primary input.children input.insight

/-- The execution: what the application makes of that result. -/
def execute (input : ExecutionInput) :
    Except ExecuteError (AnalysisRun × Option HumanApproval) :=
  executeEvaluation input.loaded input.storedVersion input.threshold
    (input.pipeline.mapError fun _ => .pipeline) input.now input.approvalId
    input.persisted

/-- The figures that are merged onto the board. -/
def figures (input : ExecutionInput) : List (String × Option String × String) :=
  (input.primary :: input.children).flatMap fun measured =>
    measured.measurement.figures

/-- The execution committed a run that is completed without a human. -/
def AutoPublished (outcome : Except ExecuteError (AnalysisRun × Option HumanApproval)) :
    Prop :=
  ∃ saved approval completion, outcome = .ok (saved, approval) ∧
    saved.status = .completed ∧ saved.completion = some completion ∧
    completion.humanApproved = false

instance : DecidablePred AutoPublished
  | .error _ => .isFalse fun ⟨_, _, _, heq, _⟩ => by cases heq
  | .ok (saved, _) =>
      decidable_of_iff (saved.status = .completed ∧
          saved.completion.any fun completion => !completion.humanApproved) (by
        constructor
        · rintro ⟨hstatus, hcompletion⟩
          obtain ⟨completion, hsome, happroved⟩ := (Option.any_eq_true _ _).1 hcompletion
          exact ⟨saved, _, completion, rfl, hstatus, hsome, by simpa using happroved⟩
        · rintro ⟨_, _, completion, heq, hstatus, hsome, happroved⟩
          cases heq
          exact ⟨hstatus, by simp [hsome, happroved]⟩)

/-- What the primary measurement alone says about the result. -/
def primaryResult (input : ExecutionInput) : PipelineResult where
  finding := ⟨"", "", [], []⟩
  outcome := input.primary.outcome
  converged := input.primary.recheckPassed
  analystModel := input.primary.analystModel
  evaluatorModel := input.primary.evaluatorModel
  analystSampleSize := input.primary.analystSampleSize
  evaluatorSampleSize := input.primary.evaluatorSampleSize

/-- Nothing but a contradiction stands in the way of publication: the agents
converged, the bounded confidence clears the threshold, and there is an observed
claim unless the question was not about sampled data. -/
def OtherwisePublishable (input : ExecutionInput) : Prop :=
  input.primaryResult.Holds input.threshold .converged ∧
    input.primaryResult.Holds input.threshold .confident ∧
    (input.primaryResult.NotASampledClaim ∨
      ∃ raw ∈ input.insight.claims, raw.kind = some "observed")

/-- The execution can commit: the pipeline assembles a result, the run is running
with an attempt left, nobody saves it meanwhile, and the rest of the transaction
goes through. -/
def Commits (input : ExecutionInput) : Prop :=
  (∃ result, input.pipeline = .ok result) ∧ input.loaded.status = .running ∧
    input.loaded.evaluationAttempts < 3 ∧
    input.storedVersion = input.loaded.version ∧ input.persisted = true

end ExecutionInput

theorem ClaimKind.ofValue_eq_ok {value : String} {kind : ClaimKind}
    (h : ClaimKind.ofValue value = .ok kind) :
    kind = .observed ↔ value = "observed" := by
  unfold ClaimKind.ofValue at h
  by_cases hobserved : value = "observed"
  · rw [if_pos hobserved] at h
    cases h
    simp [hobserved]
  · rw [if_neg hobserved] at h
    by_cases hinterpretation : value = "interpretation"
    · rw [if_pos hinterpretation] at h
      cases h
      simp [hobserved]
    · rw [if_neg hinterpretation] at h
      cases h

/-- If the claim is observed, it cites one of the citations. -/
def CitedIn (citations : List EvidenceCitation) (claim : Claim) : Prop :=
  claim.kind = .observed →
    ∃ cited ∈ citations, claim.citationIds = [cited.citationId]

/-- Later citations are added behind the earlier ones, and are active. -/
def Extends (before after : Citations) : Prop :=
  ∃ extra, after.values = before.values ++ extra ∧
    ∀ made ∈ extra, made.state = .active

theorem Extends.refl (citations : Citations) : Extends citations citations :=
  ⟨[], by simp, by simp⟩

theorem Extends.trans {a b c : Citations} (hab : Extends a b) (hbc : Extends b c) :
    Extends a c := by
  obtain ⟨first, hfirst, hactive⟩ := hab
  obtain ⟨second, hsecond, hmore⟩ := hbc
  refine ⟨first ++ second, by rw [hsecond, hfirst, List.append_assoc], ?_⟩
  intro made hmade
  rcases List.mem_append.1 hmade with h | h
  · exact hactive made h
  · exact hmore made h

theorem CitedIn.extends {before after : Citations} {claim : Claim}
    (h : CitedIn before.values claim) (hext : Extends before after) :
    CitedIn after.values claim := by
  intro hobserved
  obtain ⟨cited, hcited, hids⟩ := h hobserved
  obtain ⟨extra, hextra, -⟩ := hext
  exact ⟨cited, by rw [hextra]; exact List.mem_append_left _ hcited, hids⟩

theorem RawClaim.claimKind_eq_ok {raw : RawClaim} {kind : ClaimKind}
    (h : raw.claimKind = .ok kind) :
    kind = .observed ↔ raw.kind = some "observed" := by
  unfold RawClaim.claimKind at h
  cases hraw : raw.kind with
  | none =>
      rw [hraw] at h
      cases h
  | some value =>
      rw [hraw] at h
      rw [ClaimKind.ofValue_eq_ok h, Option.some.injEq]

/-- Citing a measurement adds active citations only, and returns the identifier
of one of the citations. -/
theorem Citations.cite_spec {citations after : Citations} {context : CitationContext}
    {measured : ValidatedEvidence} {value : String} {period : Option String} {id : UUID}
    (h : citations.cite context measured value period = .ok (id, after)) :
    Extends citations after ∧ ∃ cited ∈ after.values, id = cited.citationId := by
  unfold Citations.cite at h
  split at h
  · rename_i key found hfind
    cases h
    refine ⟨Extends.refl _, found, ?_, rfl⟩
    exact List.mem_map.2 ⟨(key, found), List.mem_of_find?_eq_some hfind, rfl⟩
  · rw [bind_eq_ok] at h
    obtain ⟨made, hmade, hreturn⟩ := h
    cases hreturn
    have hactive : made.state = .active := by
      unfold citation at hmade
      split at hmade
      · cases hmade
      · cases hmade
        rfl
    refine ⟨⟨[made], by simp [Citations.values], by simpa using hactive⟩, made, ?_, rfl⟩
    simp [Citations.values]

theorem citationIdsFor_spec {context : CitationContext}
    {measurements : List ValidatedEvidence} {position : Int}
    {citations after : Citations} {kind : ClaimKind}
    {metric value period : Option String} {ids : List UUID}
    (h : citationIdsFor context measurements position citations kind metric value
      period = .ok (ids, after)) :
    Extends citations after ∧
      (kind = .observed → ∃ cited ∈ after.values, ids = [cited.citationId]) := by
  unfold citationIdsFor at h
  cases kind with
  | interpretation =>
      cases h
      exact ⟨Extends.refl _, fun hkind => by cases hkind⟩
  | observed =>
      simp only at h
      split at h
      · cases h
      · rw [bind_eq_ok] at h
        obtain ⟨⟨id, next⟩, hcite, hreturn⟩ := h
        cases hreturn
        obtain ⟨hext, cited, hcited, rfl⟩ := Citations.cite_spec hcite
        exact ⟨hext, fun _ => ⟨cited, hcited, rfl⟩⟩

/-- **One claim** of the draft. -/
theorem assembleClaim_spec {context : CitationContext}
    {measurements : List ValidatedEvidence} {position : Int}
    {citations after : Citations} {raw : RawClaim} {claim : Claim}
    (h : assembleClaim context measurements position citations raw =
      .ok (claim, after)) :
    Extends citations after ∧ (claim.kind = .observed ↔ raw.kind = some "observed") ∧
      CitedIn after.values claim := by
  unfold assembleClaim at h
  rw [bind_eq_ok] at h
  obtain ⟨kind, hkind, h⟩ := h
  simp only [bind_eq_ok] at h
  obtain ⟨⟨ids, next⟩, hids, text, -, hreturn⟩ := h
  cases hreturn
  obtain ⟨hext, hcited⟩ := citationIdsFor_spec hids
  exact ⟨hext, RawClaim.claimKind_eq_ok hkind, hcited⟩

/-- **All claims** of the draft. -/
theorem assembleClaims_spec {context : CitationContext}
    {measurements : List ValidatedEvidence} {raws : List RawClaim} {position : Int}
    {citations after : Citations} {claims : List Claim}
    (h : assembleClaims context measurements position citations raws =
      .ok (claims, after)) :
    Extends citations after ∧
      ((∃ claim ∈ claims, claim.kind = .observed) ↔
        ∃ raw ∈ raws, raw.kind = some "observed") ∧
      ∀ claim ∈ claims, CitedIn after.values claim := by
  induction raws generalizing position citations claims with
  | nil =>
      cases h
      exact ⟨Extends.refl _, by simp, by simp⟩
  | cons raw rest ih =>
      unfold assembleClaims at h
      simp only [bind_eq_ok] at h
      obtain ⟨⟨claim, next⟩, hclaim, ⟨later, last⟩, hlater, hreturn⟩ := h
      cases hreturn
      obtain ⟨hfirst, hkind, hcited⟩ := assembleClaim_spec hclaim
      obtain ⟨hrest, hkinds, hall⟩ := ih hlater
      refine ⟨hfirst.trans hrest, ?_, ?_⟩
      · simp [hkind, hkinds]
      · intro other hother
        rcases List.mem_cons.1 hother with rfl | hmem
        · exact hcited.extends hrest
        · exact hall other hmem

/-- **The draft** takes over the Insight Agent's contradictions, all of them
open, and its observed claims cite active citations. -/
theorem draftWithCitations_spec {context : CitationContext} {newId : UUID} {now : Int}
    {insight : InsightOutcome} {evidence : List ValidatedEvidence}
    {draft : DraftFinding} {citations : List EvidenceCitation}
    (h : draftWithCitations context newId now insight evidence =
      .ok (draft, citations)) :
    draft.contradictions = insight.contradictions.map (fun detail => { detail }) ∧
      ((∃ claim ∈ draft.claims, claim.kind = .observed) ↔
        ∃ raw ∈ insight.claims, raw.kind = some "observed") ∧
      (∀ claim ∈ draft.claims, CitedIn citations claim) ∧
      ∀ cited ∈ citations, cited.state = .active := by
  unfold draftWithCitations at h
  simp only [bind_eq_ok] at h
  obtain ⟨measurements, -, ⟨claims, after⟩, hclaims, rootCause, -, h⟩ := h
  obtain ⟨hext, hkinds, hcited⟩ := assembleClaims_spec hclaims
  split at h
  · cases h
  · rename_i made hmade
    cases h
    obtain ⟨hsame, hcontradictions⟩ := DraftFinding.new_eq_ok hmade
    rw [hsame]
    refine ⟨hcontradictions, hkinds, hcited, ?_⟩
    obtain ⟨extra, hextra, hactive⟩ := hext
    rw [hextra]
    exact hactive

/-- **The result of the pipeline**: everything that the publication policy reads
comes from the primary measurement and the draft, and the contradictions that it
does not read are those of the Insight Agent and of the board. -/
theorem orchestrate_ok {boardId analysisRunId organizationId newId : UUID} {now : Int}
    {primary : MeasurementResult} {children : List MeasurementResult}
    {insight : InsightOutcome} {result : PipelineResult}
    (h : orchestrate boardId analysisRunId organizationId newId now primary children
      insight = .ok result) :
    ∃ board context draftId draft finding,
      settleBoard now (mergeAll now
        (AnalysisRunBoard.create boardId analysisRunId organizationId now, newId)
        ((primary :: children).map MeasurementResult.measurement)).1 = .ok board ∧
      draftWithCitations context draftId now insight primary.evidence =
        .ok (draft, result.evidenceCitations) ∧
      result = {
        finding
        outcome := primary.outcome
        converged := primary.recheckPassed
        contradictions := insight.contradictions ++ documentedConflicts board
        analystModel := primary.analystModel
        evaluatorModel := primary.evaluatorModel
        analystSampleSize := primary.analystSampleSize
        evaluatorSampleSize := primary.evaluatorSampleSize
        draftFinding := some draft
        evidenceCitations := result.evidenceCitations } := by
  unfold orchestrate pipelineResult at h
  simp only [bind_eq_ok] at h
  obtain ⟨board, hboard, ⟨draft, citations⟩, hdraft, refs, -, hreturn⟩ := h
  cases hreturn
  exact ⟨board, _, _, draft, _, hboard, hdraft, rfl⟩

namespace ExecutionInput

theorem holds_iff {input : ExecutionInput} {result : PipelineResult}
    (h : input.pipeline = .ok result) :
    (∀ condition, result.Holds input.threshold condition) ↔
      input.OtherwisePublishable ∧ input.insight.contradictions = [] := by
  obtain ⟨board, context, draftId, draft, finding, -, hdraft, hresult⟩ := orchestrate_ok h
  obtain ⟨hopen, hkinds, hcited, hactive⟩ := draftWithCitations_spec hdraft
  -- two conditions only depend on the primary measurement
  have hconverged : result.Holds input.threshold .converged ↔
      input.primaryResult.Holds input.threshold .converged := by
    rw [hresult]
    rfl
  have hconfident : result.Holds input.threshold .confident ↔
      input.primaryResult.Holds input.threshold .confident := by
    rw [hresult]
    rfl
  -- the other two depend on the draft, whose citations can all be followed
  have hsampled : result.NotASampledClaim ↔ input.primaryResult.NotASampledClaim := by
    rw [hresult]
    rfl
  have hdraftFinding : result.draftFinding = some draft := by rw [hresult]
  have hevidenced : result.Holds input.threshold .evidenced ↔
      input.primaryResult.NotASampledClaim ∨
        ∃ raw ∈ input.insight.claims, raw.kind = some "observed" := by
    rw [← hsampled, ← hkinds]
    unfold PipelineResult.Holds
    simp only [hdraftFinding, Option.some.injEq, forall_eq']
    refine or_congr_right (and_iff_left ?_)
    intro claim hclaim hobserved
    obtain ⟨cited, hmem, hids⟩ := hcited claim hclaim hobserved
    rw [hids]
    refine ⟨by simp, ?_⟩
    intro id hid
    rw [List.mem_singleton.1 hid]
    exact ⟨cited, hmem, rfl, hactive cited hmem⟩
  have huncontradicted : result.Holds input.threshold .uncontradicted ↔
      input.insight.contradictions = [] := by
    unfold PipelineResult.Holds
    simp only [hdraftFinding, Option.some.injEq, forall_eq']
    rw [hopen]
    simp [List.eq_nil_iff_forall_not_mem]
  unfold OtherwisePublishable
  rw [← hconverged, ← hconfident, ← hevidenced, ← huncontradicted]
  constructor
  · intro hall
    exact ⟨⟨hall _, hall _, hall _⟩, hall _⟩
  · rintro ⟨⟨h1, h2, h3⟩, h4⟩ condition
    cases condition with
    | converged => exact h1
    | confident => exact h2
    | evidenced => exact h3
    | uncontradicted => exact h4

theorem commits_iff {input : ExecutionInput} :
    input.Commits ↔ ∃ outcome, input.execute = .ok outcome := by
  unfold Commits execute
  cases input.pipeline with
  | error e =>
      constructor
      · rintro ⟨⟨result, hresult⟩, -⟩
        cases hresult
      · rintro ⟨outcome, houtcome⟩
        cases houtcome
  | ok result =>
      refine Iff.trans ?_ executeEvaluation_commits_iff.symm
      simp

/-- A run that the execution commits is published without a human exactly if
nothing but a contradiction could have stood in the way, and the Insight Agent
reported none. -/
theorem autoPublished_iff {input : ExecutionInput} {saved : AnalysisRun}
    {approval : Option HumanApproval} (h : input.execute = .ok (saved, approval)) :
    AutoPublished input.execute ↔
      input.OtherwisePublishable ∧ input.insight.contradictions = [] := by
  cases hpipeline : input.pipeline with
  | error e =>
      rw [execute, hpipeline] at h
      cases h
  | ok result =>
      rw [← holds_iff hpipeline, h]
      rw [execute, hpipeline] at h
      rcases executeEvaluation_cases h with
        ⟨hholds, hstatus, hcompletion, -⟩ | ⟨hnot, hgated, -⟩
      · exact ⟨fun _ => hholds, fun _ => ⟨_, _, _, rfl, hstatus, hcompletion, rfl⟩⟩
      · refine ⟨?_, fun hholds => absurd hholds hnot⟩
        rintro ⟨_, _, _, heq, hcompleted, -⟩
        cases heq
        rw [hgated] at hcompleted
        cases hcompleted

end ExecutionInput

open ExecutionInput

/-- **When a contradicted run is not published.**  Two merged figures that share a
metric and a period but differ in value keep a run from being published without
a human exactly if there are no such figures, or something else keeps it from
being published: a contradiction that the Insight Agent itself reported, another
condition of the publication policy, or an execution that cannot commit. -/
theorem contradiction_withheld_iff (input : ExecutionInput) :
    (FiguresContradict input.figures → ¬ AutoPublished input.execute) ↔
      ¬ FiguresContradict input.figures ∨ input.insight.contradictions ≠ [] ∨
        ¬ input.OtherwisePublishable ∨ ¬ input.Commits := by
  rw [commits_iff]
  cases hexecute : input.execute with
  | error e =>
      constructor
      · intro _
        exact .inr (.inr (.inr (by rintro ⟨outcome, ⟨⟩⟩)))
      · rintro - - ⟨_, _, _, heq, -⟩
        cases heq
  | ok outcome =>
      obtain ⟨saved, approval⟩ := outcome
      have hpublished := autoPublished_iff hexecute
      rw [hexecute] at hpublished
      rw [hpublished]
      have hcommits : ∃ outcome, (Except.ok (saved, approval) :
          Except ExecuteError (AnalysisRun × Option HumanApproval)) = .ok outcome :=
        ⟨_, rfl⟩
      by_cases hfigures : FiguresContradict input.figures <;> tauto

/-- Two measurements of June's revenue disagree, the board documents the
conflict, and the run is published all the same. -/
theorem contradiction_published :
    ∃ input : ExecutionInput, FiguresContradict input.figures ∧
      AutoPublished input.execute := by
  let figure (value : String) (executionId : UUID) : ValidatedEvidence :=
    ⟨"revenue", "120", value, some "2024-05", some "2024-06", [], none, executionId⟩
  let measured (value : String) (executionId : UUID) : MeasurementResult := {
    analystItemId := executionId
    evidence := [figure value executionId]
    metrics := []
    analystRefs := []
    evaluatorRefs := []
    outcome := .confidence { score := 9 / 10, calibrationMethod := "reported" }
    recheckPassed := true
    analystModel := some "openai/gpt-5"
    evaluatorModel := some "anthropic/claude"
    analystSampleSize := some 120
    evaluatorSampleSize := some 130 }
  let input : ExecutionInput := {
    loaded := ⟨1, 2, "Why did revenue fall?", .running, 3, 0, 0, 0, none, none, none,
      none, none, none, none, none, none, none, none, none, none, []⟩
    storedVersion := 3
    threshold := 7 / 10
    boardId := 4
    newId := 100
    approvalId := 5
    now := 10
    persisted := true
    primary := measured "90" 11
    children := [measured "100" 12]
    insight := {
      executionId := 13
      headline := "Revenue fell"
      summary := "Revenue fell to 90."
      claims := [⟨some "observed", some "Revenue was 90.", some "revenue", some "90",
        some "2024-06"⟩]
      contradictions := []
      rootCause := "unresolved"
      outcome := .validation { passed := true } } }
  exact ⟨input, by decide +kernel, by decide +kernel⟩

end Zentra
