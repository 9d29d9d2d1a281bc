import Zentra.ErasureReadback

/-!
# How much of the evidence an erasure removes

Two stored states of a run that differ in their evidence only should read the
same once the evidence was erased.  They do if the content lay where the erasure
reaches.  What it does not reach is the board, the evaluator's outcome on a
citation, the validation outcome of the run and the metrics of the claims.

* `erased_withoutContent`, `holdsContent_erased` — on spotless states, and only
  on these, the erasure leaves no trace of the content;
* `erasure_complete_iff` — the erasures of two such states are complete exactly
  if both of them are spotless.
-/

open JsonDocument StepTrace Raising

namespace Zentra

/-- The value is the outcome of a validation. -/
def isValidation : Json → Bool
  | .object members =>
      match Object.get "kind" members with
      | some (.string kind) => decide (kind = "validation")
      | _ => false
  | _ => false

def HoldsValidation (state : Object) : Prop :=
  ∃ value, ("outcome", value) ∈ state ∧ isValidation value

def withoutValidation (state : Object) : Object :=
  state.map fun member =>
    if member.1 = "outcome" ∧ isValidation member.2 then (member.1, .null) else member

namespace RunRow

/-- The finding, the validation outcome and the message of the failure. -/
def HoldsContent (row : RunRow) : Prop :=
  Object.HasPath ["finding"] row.state ∨ Object.HasPath ["failure", "message"] row.state ∨
    HoldsValidation row.state

def withoutContent (row : RunRow) : RunRow :=
  { row with
    state := withoutValidation
      ((row.state.delete "finding").deletePath ["failure", "message"]) }

end RunRow

namespace Fact

def HoldsContent (fact : Fact) : Prop :=
  fact.metric ≠ "" ∨ fact.value ≠ "" ∨ fact.period ≠ none ∨ fact.evidenceRefs ≠ []

def withoutContent (fact : Fact) : Fact :=
  { fact with metric := "", value := "", period := none, evidenceRefs := [] }

end Fact

namespace Conflict

def HoldsContent (conflict : Conflict) : Prop :=
  conflict.description ≠ "" ∨ conflict.resolution ≠ none

def withoutContent (conflict : Conflict) : Conflict :=
  { conflict with description := "", resolution := none }

end Conflict

namespace EvidenceCitation

def HoldsContent (citation : EvidenceCitation) : Prop :=
  citation.aggregateValue ≠ "" ∨ citation.metric ≠ "" ∨ citation.filters ≠ [] ∨
    citation.period ≠ none ∨ citation.grain ≠ none ∨ citation.evaluatorOutcome ≠ none

def withoutContent (citation : EvidenceCitation) : EvidenceCitation :=
  { citation with
    aggregateValue := ""
    metric := ""
    filters := []
    period := none
    grain := none
    evaluatorOutcome := none }

end EvidenceCitation

namespace DraftRow

def HoldsContent (row : DraftRow) : Prop :=
  row.headline ≠ "" ∨ row.summary ≠ "" ∨ row.contradictions ≠ []

def withoutContent (row : DraftRow) : DraftRow :=
  { row with headline := "", summary := "", contradictions := [] }

end DraftRow

namespace ClaimRow

def HoldsContent (row : ClaimRow) : Prop :=
  row.claimText ≠ "" ∨ (∃ value ∈ row.claimValue, value ≠ "") ∨ row.period ≠ none ∨
    ∃ metric ∈ row.metric, metric ≠ ""

/-- That a claim has a metric stays. -/
def withoutContent (row : ClaimRow) : ClaimRow :=
  { row with
    claimText := ""
    claimValue := none
    period := none
    metric := row.metric.map fun _ => "" }

end ClaimRow

namespace DraftReading

def HoldsContent (reading : DraftReading) : Prop :=
  reading.draft.HoldsContent ∨ ∃ claim ∈ reading.claims, claim.HoldsContent

def withoutContent (reading : DraftReading) : DraftReading :=
  { reading with
    draft := reading.draft.withoutContent
    claims := reading.claims.map ClaimRow.withoutContent }

end DraftReading

namespace Readings

/-- No column that is read holds evidence content. -/
structure Blank (readings : Readings) : Prop where
  run : ∀ row ∈ readings.run, ¬ row.HoldsContent
  facts : ∀ fact ∈ readings.facts, ¬ fact.HoldsContent
  conflicts : ∀ conflict ∈ readings.conflicts, ¬ conflict.HoldsContent
  citations : ∀ citation ∈ readings.citations, ¬ citation.HoldsContent
  draft : ∀ reading ∈ readings.draft, ¬ reading.HoldsContent

/-- What is read, with all content blanked. -/
def withoutContent (readings : Readings) : Readings where
  run := readings.run.map RunRow.withoutContent
  facts := readings.facts.map Fact.withoutContent
  conflicts := readings.conflicts.map Conflict.withoutContent
  citations := readings.citations.map EvidenceCitation.withoutContent
  draft := readings.draft.map DraftReading.withoutContent

/-- No content lies where the erasure does not reach. -/
structure Spotless (readings : Readings) : Prop where
  outcome : ∀ row ∈ readings.run, ¬ HoldsValidation row.state
  facts : ∀ fact ∈ readings.facts, ¬ fact.HoldsContent
  conflicts : ∀ conflict ∈ readings.conflicts, ¬ conflict.HoldsContent
  evaluator_outcomes : ∀ citation ∈ readings.citations, citation.evaluatorOutcome = none
  claim_metrics : ∀ reading ∈ readings.draft, ∀ claim ∈ reading.claims,
    ∀ metric ∈ claim.metric, metric = ""

end Readings

/-- A row of `analysis_runs` after the erasure. -/
def RunRow.erased (row : RunRow) : RunRow := row.withoutFinding.withoutMessage

def DraftReading.erased (reading : DraftReading) : DraftReading :=
  { reading with
    draft := reading.draft.withoutNarrative.withoutContradictions
    claims := reading.claims.map ClaimRow.erased }

theorem Readings.eraseSurfaces_all (readings : Readings) :
    readings.eraseSurfaces evidenceSurfaces =
      { readings with
        run := readings.run.map RunRow.erased
        citations := readings.citations.map EvidenceCitation.erased
        draft := readings.draft.map DraftReading.erased } := by
  obtain ⟨run, facts, conflicts, citations, draft⟩ := readings
  cases run <;> cases draft <;> rfl

def Readings.erased (readings : Readings) : Readings :=
  readings.eraseSurfaces evidenceSurfaces

/-- A stored run holds the outcome of a validation exactly if its outcome is
one. -/
theorem holdsValidation_stateToJson {run : AnalysisRun} :
    HoldsValidation (stateToJson run) ↔ ∃ outcome, run.outcome = some (.validation outcome) := by
  have hmember : ∀ value, ("outcome", value) ∈ stateToJson run ↔
      value = outcomeOrNull run.outcome := by
    intro value
    simp [stateToJson]
  unfold HoldsValidation
  simp only [hmember, exists_eq_left]
  rcases run.outcome with _ | outcome | outcome
  · simp [outcomeOrNull, isValidation]
  · have hkind : isValidation (outcomeOrNull (some (.confidence outcome))) = false := rfl
    simp [hkind]
  · have hkind : isValidation (outcomeOrNull (some (.validation outcome))) = true := rfl
    simp [hkind]

theorem holdsValidation_delete {key : String} {state : Object} (hkey : key ≠ "outcome") :
    HoldsValidation (state.delete key) ↔ HoldsValidation state := by
  constructor
  · rintro ⟨value, hvalue, hvalid⟩
    exact ⟨value, List.mem_of_mem_filter hvalue, hvalid⟩
  · rintro ⟨value, hvalue, hvalid⟩
    refine ⟨value, List.mem_filter.2 ⟨hvalue, ?_⟩, hvalid⟩
    exact decide_eq_true hkey.symm

theorem holdsValidation_deletePath {key next : String} {path : List String}
    {state : Object} (hkey : key ≠ "outcome") :
    HoldsValidation (Object.deletePath (key :: next :: path) state) ↔
      HoldsValidation state := by
  rw [Object.deletePath]
  constructor
  · rintro ⟨value, hvalue, hvalid⟩
    obtain ⟨member, hmember, hchanged⟩ := List.mem_map.1 hvalue
    by_cases hname : member.1 = key
    · rw [if_pos hname] at hchanged
      have houtcome : member.1 = "outcome" := congrArg Prod.fst hchanged
      exact absurd (hname.symm.trans houtcome) hkey
    · rw [if_neg hname] at hchanged
      subst hchanged
      exact ⟨value, hmember, hvalid⟩
  · rintro ⟨value, hvalue, hvalid⟩
    exact ⟨value, List.mem_map.2 ⟨_, hvalue, if_neg hkey.symm⟩, hvalid⟩

theorem withoutValidation_eq_self {state : Object} (h : ¬ HoldsValidation state) :
    withoutValidation state = state := by
  refine (List.map_congr_left ?_).trans (List.map_id state)
  rintro ⟨name, value⟩ hmember
  have hno : ¬ (name = "outcome" ∧ isValidation value) := by
    rintro ⟨rfl, hvalid⟩
    exact h ⟨value, hmember, hvalid⟩
  rw [if_neg hno]
  rfl

namespace RunRow

variable {row : RunRow}

theorem holdsValidation_erased :
    HoldsValidation row.erased.state ↔ HoldsValidation row.state := by
  show HoldsValidation (Object.deletePath ["failure", "message"]
    (Object.delete "finding" row.state)) ↔ _
  rw [holdsValidation_deletePath (by decide), holdsValidation_delete (by decide)]

theorem not_hasPath_finding : ¬ Object.HasPath ["finding"] row.erased.state := by
  show ¬ Object.HasPath ["finding"] (Object.deletePath ["failure", "message"]
    (Object.delete "finding" row.state))
  rw [Object.hasPath_singleton, Object.get_deletePath, if_neg (by decide),
    Object.get_delete, if_pos rfl]
  simp

theorem not_hasPath_message :
    ¬ Object.HasPath ["failure", "message"] row.erased.state :=
  Object.not_hasPath_deletePath _ _

theorem holdsContent_erased : row.erased.HoldsContent ↔ HoldsValidation row.state := by
  constructor
  · rintro (hfinding | hmessage | hvalidation)
    · exact absurd hfinding not_hasPath_finding
    · exact absurd hmessage not_hasPath_message
    · exact holdsValidation_erased.1 hvalidation
  · exact fun hvalidation => .inr (.inr (holdsValidation_erased.2 hvalidation))

theorem erased_erased : row.erased.erased = row.erased := by
  have hfinding : row.erased.state.delete "finding" = row.erased.state :=
    Object.deletePath_eq_self ["finding"] _ not_hasPath_finding
  have hmessage : row.erased.state.deletePath ["failure", "message"] = row.erased.state :=
    Object.deletePath_eq_self _ _ not_hasPath_message
  show { row.erased with
    state := (row.erased.state.delete "finding").deletePath ["failure", "message"] } = _
  rw [hfinding, hmessage]

theorem erased_withoutContent (h : ¬ HoldsValidation row.state) :
    row.withoutContent.erased = row.erased := by
  have hblank : row.withoutContent = row.erased := by
    show { row with state := withoutValidation row.erased.state } = row.erased
    rw [withoutValidation_eq_self (mt holdsValidation_erased.1 h)]
    rfl
  rw [hblank, erased_erased]

end RunRow

theorem Fact.withoutContent_eq_self {fact : Fact} (h : ¬ fact.HoldsContent) :
    fact.withoutContent = fact := by
  obtain ⟨factId, metric, value, period, workItemId, refs⟩ := fact
  unfold Fact.HoldsContent at h
  push Not at h
  obtain ⟨rfl, rfl, rfl, rfl⟩ := h
  rfl

theorem Conflict.withoutContent_eq_self {conflict : Conflict}
    (h : ¬ conflict.HoldsContent) : conflict.withoutContent = conflict := by
  obtain ⟨conflictId, description, status, resolution⟩ := conflict
  unfold Conflict.HoldsContent at h
  push Not at h
  obtain ⟨rfl, rfl⟩ := h
  rfl

namespace EvidenceCitation

variable {citation : EvidenceCitation}

theorem holdsContent_erased :
    citation.erased.HoldsContent ↔ citation.evaluatorOutcome ≠ none := by
  simp [HoldsContent, erased, erasedText]

theorem erased_withoutContent (h : citation.evaluatorOutcome = none) :
    citation.withoutContent.erased = citation.erased := by
  unfold withoutContent erased
  rw [h]

end EvidenceCitation

namespace ClaimRow

variable {claim : ClaimRow}

theorem holdsContent_erased :
    claim.erased.HoldsContent ↔ ∃ metric ∈ claim.metric, metric ≠ "" := by
  simp [HoldsContent, erased, erasedText]

theorem erased_withoutContent (h : ∀ metric ∈ claim.metric, metric = "") :
    claim.withoutContent.erased = claim.erased := by
  have hmetric : claim.metric.map (fun _ => "") = claim.metric := by
    cases hsome : claim.metric with
    | none => rfl
    | some metric =>
        obtain rfl := h metric hsome
        rfl
  unfold withoutContent erased
  rw [hmetric]

end ClaimRow

namespace DraftReading

variable {reading : DraftReading}

theorem holdsContent_erased :
    reading.erased.HoldsContent ↔
      ∃ claim ∈ reading.claims, ∃ metric ∈ claim.metric, metric ≠ "" := by
  have hdraft : ¬ reading.erased.draft.HoldsContent := by
    simp [DraftRow.HoldsContent, erased, DraftRow.withoutNarrative,
      DraftRow.withoutContradictions, erasedText]
  unfold HoldsContent
  rw [or_iff_right hdraft]
  simp only [erased, List.mem_map, exists_exists_and_eq_and,
    ClaimRow.holdsContent_erased]

theorem erased_withoutContent
    (h : ∀ claim ∈ reading.claims, ∀ metric ∈ claim.metric, metric = "") :
    reading.withoutContent.erased = reading.erased := by
  have hclaims : (reading.claims.map ClaimRow.withoutContent).map ClaimRow.erased =
      reading.claims.map ClaimRow.erased := by
    rw [List.map_map]
    refine List.map_congr_left ?_
    intro claim hclaim
    exact ClaimRow.erased_withoutContent (h claim hclaim)
  show { reading with
    draft := reading.draft.withoutNarrative.withoutContradictions
    claims := (reading.claims.map ClaimRow.withoutContent).map ClaimRow.erased } = _
  rw [hclaims]
  rfl

end DraftReading

namespace Readings

variable {readings first second : Readings}

/-- **What the erasure leaves behind** is what lies where it does not reach. -/
theorem blank_erased : readings.erased.Blank ↔ readings.Spotless := by
  unfold erased
  rw [eraseSurfaces_all]
  constructor
  · intro h
    refine ⟨?_, h.facts, h.conflicts, ?_, ?_⟩
    · intro row hrow hvalidation
      exact h.run row.erased (Option.mem_map_of_mem _ hrow)
        (RunRow.holdsContent_erased.2 hvalidation)
    · intro citation hcitation
      by_contra houtcome
      exact h.citations citation.erased (List.mem_map_of_mem hcitation)
        (EvidenceCitation.holdsContent_erased.2 houtcome)
    · intro reading hreading claim hclaim metric hmetric
      by_contra hname
      exact h.draft reading.erased (Option.mem_map_of_mem _ hreading)
        (DraftReading.holdsContent_erased.2 ⟨claim, hclaim, metric, hmetric, hname⟩)
  · intro h
    refine ⟨?_, h.facts, h.conflicts, ?_, ?_⟩
    · intro row hrow hcontent
      obtain ⟨before, hbefore, rfl⟩ := Option.mem_map.1 hrow
      exact h.outcome before hbefore (RunRow.holdsContent_erased.1 hcontent)
    · intro citation hcitation hcontent
      obtain ⟨before, hbefore, rfl⟩ := List.mem_map.1 hcitation
      exact EvidenceCitation.holdsContent_erased.1 hcontent
        (h.evaluator_outcomes before hbefore)
    · intro reading hreading hcontent
      obtain ⟨before, hbefore, rfl⟩ := Option.mem_map.1 hreading
      obtain ⟨claim, hclaim, metric, hmetric, hname⟩ :=
        DraftReading.holdsContent_erased.1 hcontent
      exact hname (h.claim_metrics before hbefore claim hclaim metric hmetric)

theorem erased_withoutContent (h : readings.Spotless) :
    readings.withoutContent.erased = readings.erased := by
  have hrun : (readings.run.map RunRow.withoutContent).map RunRow.erased =
      readings.run.map RunRow.erased := by
    rw [Option.map_map]
    exact Option.map_congr fun row hrow => RunRow.erased_withoutContent (h.outcome row hrow)
  have hfacts : readings.facts.map Fact.withoutContent = readings.facts :=
    (List.map_congr_left fun fact hfact =>
      Fact.withoutContent_eq_self (h.facts fact hfact)).trans (List.map_id _)
  have hconflicts : readings.conflicts.map Conflict.withoutContent = readings.conflicts :=
    (List.map_congr_left fun conflict hconflict =>
      Conflict.withoutContent_eq_self (h.conflicts conflict hconflict)).trans
        (List.map_id _)
  have hcitations : (readings.citations.map EvidenceCitation.withoutContent).map
      EvidenceCitation.erased = readings.citations.map EvidenceCitation.erased := by
    rw [List.map_map]
    exact List.map_congr_left fun citation hcitation =>
      EvidenceCitation.erased_withoutContent (h.evaluator_outcomes citation hcitation)
  have hdraft : (readings.draft.map DraftReading.withoutContent).map DraftReading.erased =
      readings.draft.map DraftReading.erased := by
    rw [Option.map_map]
    exact Option.map_congr fun reading hreading =>
      DraftReading.erased_withoutContent (h.claim_metrics reading hreading)
  unfold erased
  rw [eraseSurfaces_all, eraseSurfaces_all]
  show Readings.mk _ _ _ _ _ = Readings.mk _ _ _ _ _
  exact congr (congr (congr (congr (congrArg Readings.mk hrun) hfacts) hconflicts)
    hcitations) hdraft

/-- **Two runs of the erasure.**  Spotless readings that differ in their content
only are the same after the erasure. -/
theorem erased_eq_erased (hsame : first.withoutContent = second.withoutContent)
    (hfirst : first.Spotless) (hsecond : second.Spotless) :
    first.erased = second.erased := by
  calc first.erased
      = first.withoutContent.erased := (erased_withoutContent hfirst).symm
    _ = second.withoutContent.erased := by rw [hsame]
    _ = second.erased := erased_withoutContent hsecond

end Readings

/-- `delete_evidence`, called in some way, reports a completed erasure and leaves
a database. -/
def Reports (db : Database) (key : RunKey) (after : Database) : Prop :=
  ∃ role erasureId category now operation,
    db.deleteEvidence role key erasureId category now = .ok (operation, after) ∧
      operation.progress = .completed

/-- A stored terminal run that can be read and was not erased before. -/
structure Erasable (db : Database) (key : RunKey) : Prop where
  deletable : ∃ row run, db.Deletable key .owner row run
  unerased : ¬ db.Completed key

/-- Two states of a run differ in evidence content only. -/
def SameButContent (first second : Database) (key : RunKey) : Prop :=
  (first.readings key).withoutContent = (second.readings key).withoutContent

/-- What an erasure promises of two states that differ in evidence content
only. -/
structure ErasureComplete (first second : Database) (key : RunKey) : Prop where
  same : ∀ after after', Reports first key after → Reports second key after' →
    after.readings key = after'.readings key
  first_blank : ∀ after, Reports first key after → (after.readings key).Blank
  second_blank : ∀ after, Reports second key after → (after.readings key).Blank

namespace Erasable

variable {db : Database} {key : RunKey}

theorem readings_of_reports (h : Erasable db key) {after : Database}
    (hreports : Reports db key after) :
    after.readings key = (db.readings key).erased := by
  obtain ⟨role, erasureId, category, now, operation, hret, -⟩ := hreports
  obtain ⟨row, run, hdeletable⟩ := Database.deletable_of_returns hret
  obtain ⟨operation', after', hret', -, -, hreadings⟩ :=
    @Database.deleteEvidence_of_open db key role erasureId category now row run
      hdeletable h.unerased
  rw [hret] at hret'
  cases hret'
  exact hreadings.trans (Database.readings_eraseSurfaces evidenceSurfaces)

theorem reports (h : Erasable db key) : ∃ after, Reports db key after := by
  obtain ⟨row, run, hdeletable⟩ := h.deletable
  obtain ⟨operation, after, hret, hprogress, -⟩ :=
    @Database.deleteEvidence_of_open db key .owner 0 .organizationRequest 0 row run
      hdeletable h.unerased
  exact ⟨after, .owner, 0, .organizationRequest, 0, operation, hret, hprogress⟩

/-- The reported deletions leave no content exactly if there was none out of
their reach. -/
theorem blank_iff (h : Erasable db key) :
    (∀ after, Reports db key after → (after.readings key).Blank) ↔
      (db.readings key).Spotless := by
  rw [← Readings.blank_erased]
  constructor
  · intro hblank
    obtain ⟨after, hreports⟩ := h.reports
    rw [← h.readings_of_reports hreports]
    exact hblank after hreports
  · intro hblank after hreports
    rw [h.readings_of_reports hreports]
    exact hblank

end Erasable

theorem StoredRun.erasable {db : Database} {run : AnalysisRun} (h : StoredRun db run)
    (hrun : run.Storable) (hterminal : run.Terminal) : Erasable db run.key where
  deletable := ⟨_, _, by decide, h.stored, analysisRunFromRow_ofRun hrun.lifecycle,
    value_mem_terminalValues hterminal⟩
  unerased := h.unerased

/-- **Completeness of an erasure.**  Take two stored states of a terminal run
that differ in evidence content only.  Once `delete_evidence` has reported a
completed erasure of both, they read the same and hold no content, exactly if
neither of them holds any on the board, as an evaluator's outcome on a citation,
as a validation outcome of the run or as the metric of a claim.

A deletion after a completed one changes nothing. -/
theorem erasure_complete_iff {first second : Database} {key : RunKey}
    (hfirst : Erasable first key) (hsecond : Erasable second key)
    (hsame : SameButContent first second key) :
    (ErasureComplete first second key ↔
      (first.readings key).Spotless ∧ (second.readings key).Spotless) ∧
    ∀ db : Database, db.Completed key → ∀ after, Reports db key after → after = db := by
  constructor
  · rw [← hfirst.blank_iff, ← hsecond.blank_iff]
    constructor
    · exact fun h => ⟨h.first_blank, h.second_blank⟩
    · rintro ⟨hfirstBlank, hsecondBlank⟩
      refine ⟨?_, hfirstBlank, hsecondBlank⟩
      intro after after' hafter hafter'
      rw [hfirst.readings_of_reports hafter, hsecond.readings_of_reports hafter']
      exact Readings.erased_eq_erased hsame (hfirst.blank_iff.1 hfirstBlank)
        (hsecond.blank_iff.1 hsecondBlank)
  · rintro db hcompleted after ⟨role, erasureId, category, now, operation, hret, -⟩
    obtain ⟨row, run, hdeletable⟩ := Database.deletable_of_returns hret
    obtain ⟨operation', hret', -⟩ := @Database.deleteEvidence_of_completed db key role
      erasureId category now row run hdeletable hcompleted
    rw [hret] at hret'
    cases hret'
    rfl

/-- A database with one fact on the board of a run. -/
def withFact (db : Database) (key : RunKey) (value : String) : Database :=
  { db with
    workspaces := [⟨5, key⟩]
    boardFacts :=
      [⟨5, key.organizationId, ⟨9, "revenue", value, some "2024-06", 4, []⟩⟩] }

/-- A database with one draft of a run. -/
def withDraft (db : Database) (key : RunKey) (headline : String) : Database :=
  { db with
    draftFindings :=
      [⟨8, key, 1, none, headline, "", [⟨"two figures", false⟩], .unresolved, none, 1⟩] }

def cancelledRun : AnalysisRun :=
  let created : AnalysisRun := AnalysisRun.recorded "analysis_run.created" 0 [] .empty {
    analysisRunId := 1
    organizationId := 2
    question := "Why did revenue fall?"
    status := .pending
    version := 1
    evaluationAttempts := 0
    createdAt := 0
    updatedAt := 0 }
  (AnalysisRun.cancel 2).after ((AnalysisRun.start 1).after created)

theorem storable_cancelledRun : cancelledRun.Storable :=
  AnalysisRun.storable_exec
    (AnalysisRun.storable_create
      (show AnalysisRun.create 1 2 "Why did revenue fall?" 0 = .ok _ from rfl))
    (exec_of_run (show StepTrace.run (calling RunOp.method) _ [.start 1, .cancel 2] =
      some cancelledRun from rfl))

/-- Two drafts are the same after the erasure. -/
theorem erasure_complete_iff_drafts :
    ErasureComplete
      (withDraft (Database.empty.add cancelledRun) cancelledRun.key "Revenue fell")
      (withDraft (Database.empty.add cancelledRun) cancelledRun.key "Revenue rose")
      cancelledRun.key := by
  have hstored : ∀ headline, StoredRun
      (withDraft (Database.empty.add cancelledRun) cancelledRun.key headline)
      cancelledRun := by
    intro headline
    refine ⟨rfl, ?_⟩
    rintro ⟨operation, hoperation, -⟩
    cases hoperation
  have hspotless : ∀ headline,
      ((withDraft (Database.empty.add cancelledRun) cancelledRun.key headline).readings
        cancelledRun.key).Spotless := by
    intro headline
    refine ⟨?_, ?_, ?_, ?_, ?_⟩
    · rintro row ⟨⟩ hvalidation
      obtain ⟨outcome, houtcome⟩ := holdsValidation_stateToJson.1 hvalidation
      cases houtcome
    · rintro fact ⟨⟩
    · rintro conflict ⟨⟩
    · rintro citation ⟨⟩
    · rintro reading ⟨⟩ claim ⟨⟩
  exact (erasure_complete_iff
    ((hstored "Revenue fell").erasable storable_cancelledRun (by decide))
    ((hstored "Revenue rose").erasable storable_cancelledRun (by decide)) rfl).1.2
    ⟨hspotless "Revenue fell", hspotless "Revenue rose"⟩

/-- Two boards that differ in one figure still do after both erasures were
reported completed. -/
theorem board_survives_erasure :
    ∃ first second after after',
      first = withFact (Database.empty.add cancelledRun) cancelledRun.key "90" ∧
      second = withFact (Database.empty.add cancelledRun) cancelledRun.key "100" ∧
      Erasable first cancelledRun.key ∧ Erasable second cancelledRun.key ∧
      SameButContent first second cancelledRun.key ∧
      Reports first cancelledRun.key after ∧ Reports second cancelledRun.key after' ∧
      (after.readings cancelledRun.key).facts ≠ (after'.readings cancelledRun.key).facts ∧
      ¬ ErasureComplete first second cancelledRun.key := by
  have hstored : ∀ value, StoredRun
      (withFact (Database.empty.add cancelledRun) cancelledRun.key value)
      cancelledRun := by
    intro value
    refine ⟨rfl, ?_⟩
    rintro ⟨operation, hoperation, -⟩
    cases hoperation
  have herasable : ∀ value, Erasable
      (withFact (Database.empty.add cancelledRun) cancelledRun.key value)
      cancelledRun.key :=
    fun value => (hstored value).erasable storable_cancelledRun (by decide)
  have hdiffer : ∀ after after',
      Reports (withFact (Database.empty.add cancelledRun) cancelledRun.key "90")
        cancelledRun.key after →
      Reports (withFact (Database.empty.add cancelledRun) cancelledRun.key "100")
        cancelledRun.key after' →
      (after.readings cancelledRun.key).facts ≠
        (after'.readings cancelledRun.key).facts := by
    intro after after' hafter hafter'
    rw [(herasable _).readings_of_reports hafter,
      (herasable _).readings_of_reports hafter']
    decide
  obtain ⟨after, hafter⟩ := (herasable "90").reports
  obtain ⟨after', hafter'⟩ := (herasable "100").reports
  refine ⟨_, _, after, after', rfl, rfl, herasable _, herasable _, rfl, hafter, hafter',
    hdiffer _ _ hafter hafter', ?_⟩
  intro hcomplete
  exact hdiffer _ _ hafter hafter' (congrArg Readings.facts
    (hcomplete.same _ _ hafter hafter'))

end Zentra
