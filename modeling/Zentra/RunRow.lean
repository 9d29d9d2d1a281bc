import Mathlib
import Zentra.AnalysisRunLifecycle
import Zentra.JsonDocument

/-!
# The table of Analysis Runs

A run is stored in one row.  Most fields have a column of their own; the
finding, the outcome, the completion and the failure share the JSON column
`state`, which is written whole and read by key.

* `valid_ofRun` — the database accepts the row of every run that the lifecycle
  operations reach;
* `saveRow_returns` — a run is saved over a row of the version it was read at.

Identifiers are written as their numerals.
-/

open JsonDocument Raising StepTrace

namespace Zentra

inductive RowError
  | keyError (key : String)
  | typeError
  | valueError (message : String)
  | validationError
  deriving DecidableEq, Repr

/-- `value[key]`. -/
def item (key : String) : Json → Except RowError Json
  | .object members =>
      match Object.get key members with
      | some value => .ok value
      | none => .error (.keyError key)
  | _ => .error .typeError

/-- `value.get(key)`. -/
def itemOrNone (key : String) : Json → Except RowError (Option Json)
  | .object members => .ok (Object.get key members)
  | _ => .error .typeError

def text : Json → Except RowError String
  | .string value => .ok value
  | _ => .error .typeError

/-- A value that is a text, null or missing. -/
def textOrNone : Option Json → Except RowError (Option String)
  | none => .ok none
  | some .null => .ok none
  | some value => do
      let value ← text value
      return some value

def items : Json → Except RowError (List Json)
  | .array values => .ok values
  | _ => .error .typeError

/-- A text that may be missing, in a document. -/
def textJson : Option String → Json
  | none => .null
  | some value => .string value

/-- `str(id)`. -/
def uuidJson (id : UUID) : Json := .string id.repr

/-- `UUID(value)`. -/
def uuidFromJson (value : Json) : Except RowError UUID := do
  let value ← text value
  match value.toNat? with
  | some id => return id
  | none => .error (.valueError "badly formed hexadecimal UUID string")

def metricToJson (metric : MetricComparison) : Json :=
  .object [
    ("metric", .string metric.metric),
    ("previous_value", .string metric.previousValue),
    ("previous_label", textJson metric.previousLabel),
    ("current_value", .string metric.currentValue),
    ("current_label", textJson metric.currentLabel),
    ("unit", .string metric.unit)]

/-- `ref.value`. -/
def referenceToJson (ref : EvidenceReference) : Json := .string ref.value

def findingToJson : Option Finding → Json
  | none => .null
  | some finding => .object [
      ("headline", .string finding.headline),
      ("summary", .string finding.summary),
      ("metrics", .array (finding.metrics.map metricToJson)),
      ("evidence_refs", .array (finding.evidenceRefs.map referenceToJson))]

def metricFromJson (metric : Json) : Except RowError MetricComparison := do
  let name ← item "metric" metric >>= text
  let previousValue ← item "previous_value" metric >>= text
  let currentValue ← item "current_value" metric >>= text
  let unit ← item "unit" metric >>= text
  let previousLabel ← itemOrNone "previous_label" metric >>= textOrNone
  let currentLabel ← itemOrNone "current_label" metric >>= textOrNone
  return { metric := name, previousValue, currentValue, unit, previousLabel, currentLabel }

/-- `EvidenceReference(reference)`. -/
def evidenceReference (value : String) : Except RowError EvidenceReference :=
  if h : "artifact://".toList <+: value.toList then .ok ⟨value, h⟩
  else .error (.valueError "Evidence references must use the artifact:// scheme")

def referenceFromJson (value : Json) : Except RowError EvidenceReference := do
  let value ← text value
  evidenceReference value

/-- `_finding_from_json` of `state.get("finding")`. -/
def findingFromJson : Option Json → Except RowError (Option Finding)
  | none => .ok none
  | some .null => .ok none
  | some value => do
      let headline ← item "headline" value >>= text
      let summary ← item "summary" value >>= text
      let metrics ← item "metrics" value >>= items
      let metrics ← metrics.mapM metricFromJson
      let references ← item "evidence_refs" value >>= items
      let evidenceRefs ← references.mapM referenceFromJson
      return some { headline, summary, metrics, evidenceRefs }

/-- `outcome.model_dump(mode="json")`. -/
def outcomeToJson : OutcomeSignal → Json
  | .confidence outcome => .object [
      ("kind", .string "confidence"),
      ("score", .number outcome.score),
      ("calibration_method", .string outcome.calibrationMethod)]
  | .validation outcome => .object [
      ("kind", .string "validation"),
      ("passed", .bool outcome.passed),
      ("checks", .array (outcome.checks.map .string)),
      ("issues", .array (outcome.issues.map .string))]

/-- The check that the validator of a model makes: no other keys. -/
def onlyKeys (keys : List String) (members : Object) : Bool :=
  members.all fun member => decide (member.1 ∈ keys)

/-- The checks that `ConfidenceOutcome` makes on its fields. -/
def confidenceOutcome (score : ℚ) (method : String) : Except RowError OutcomeSignal :=
  if h : (0 ≤ score ∧ score ≤ 1) ∧ method ≠ "" then
    .ok (.confidence ⟨score, method, h.1.1, h.1.2, h.2⟩)
  else .error .validationError

def confidenceFromJson (members : Object) : Except RowError OutcomeSignal :=
  if onlyKeys ["kind", "score", "calibration_method"] members then
    match Object.get "score" members, Object.get "calibration_method" members with
    | some (.number score), some (.string method) => confidenceOutcome score method
    | _, _ => .error .validationError
  else .error .validationError

def validText : Json → Except RowError String
  | .string value => .ok value
  | _ => .error .validationError

/-- A tuple of texts, empty if it is missing. -/
def textsFromJson : Option Json → Except RowError (List String)
  | none => .ok []
  | some (.array values) => values.mapM validText
  | some _ => .error .validationError

def validationFromJson (members : Object) : Except RowError OutcomeSignal :=
  if onlyKeys ["kind", "passed", "checks", "issues"] members then
    match Object.get "passed" members with
    | some (.bool passed) => do
        let checks ← textsFromJson (Object.get "checks" members)
        let issues ← textsFromJson (Object.get "issues" members)
        return .validation { passed, checks, issues }
    | _ => .error .validationError
  else .error .validationError

/-- `OUTCOME_ADAPTER.validate_python(value)`. -/
def validateOutcome : Json → Except RowError OutcomeSignal
  | .object members =>
      match Object.get "kind" members with
      | some (.string kind) =>
          if kind = "confidence" then confidenceFromJson members
          else if kind = "validation" then validationFromJson members
          else .error .validationError
      | _ => .error .validationError
  | _ => .error .validationError

/-- The outcome of `state.get("outcome")`. -/
def outcomeFromJson : Option Json → Except RowError (Option OutcomeSignal)
  | none => .ok none
  | some value =>
      if value.truthy then do
        let outcome ← validateOutcome value
        return some outcome
      else .ok none

/-- The completion of `state.get("completion")`, if there is a finding. -/
def completionFromJson (finding : Option Finding) :
    Option Json → Except RowError (Option CompletionOutcome)
  | none => .ok none
  | some value =>
      match finding with
      | none => .ok none
      | some finding =>
          if value.truthy then do
            match ← item "human_approved" value with
            | .bool humanApproved => return some { finding, humanApproved }
            | _ => .error .typeError
          else .ok none

/-- The failure of `state.get("failure")`. -/
def failureFromJson : Option Json → Except RowError (Option FailureOutcome)
  | none => .ok none
  | some value =>
      if value.truthy then do
        let code ← item "code" value >>= text
        let message ← item "message" value >>= text
        let category ← itemOrNone "category" value >>= textOrNone
        return some { code, message, category }
      else .ok none

/-- The Data Connections of `state.get("data_connection_ids")` and
`state.get("data_connection_id")`: several of them, else one, else none. -/
def dataConnectionFromJson (values value : Option Json) :
    Except RowError (Option DataConnectionId) :=
  match values.filter Json.truthy with
  | some values => do
      let values ← items values
      let ids ← values.mapM uuidFromJson
      return some (.many ids)
  | none =>
      match value.filter Json.truthy with
      | some value => do
          let id ← uuidFromJson value
          return some (.one id)
      | none => .ok none

/-- The source scope of `state.get("source_scope_id")`. -/
def sourceScopeFromJson (value : Option Json) : Except RowError (Option UUID) :=
  match value.filter Json.truthy with
  | some value => do
      let id ← uuidFromJson value
      return some id
  | none => .ok none

def outcomeOrNull : Option OutcomeSignal → Json
  | none => .null
  | some outcome => outcomeToJson outcome

def completionToJson : Option CompletionOutcome → Json
  | none => .null
  | some completion => .object [("human_approved", .bool completion.humanApproved)]

def failureToJson : Option FailureOutcome → Json
  | none => .null
  | some failure => .object [
      ("code", .string failure.code),
      ("message", .string failure.message),
      ("category", textJson failure.category)]

def connectionToJson : Option DataConnectionId → Json
  | some (.one id) => uuidJson id
  | _ => .null

def connectionsToJson : Option DataConnectionId → Json
  | some (.many ids) => .array (ids.map uuidJson)
  | _ => .null

def sourceScopeToJson : Option UUID → Json
  | none => .null
  | some id => uuidJson id

def stateToJson (run : AnalysisRun) : Object := [
  ("finding", findingToJson run.finding),
  ("outcome", outcomeOrNull run.outcome),
  ("completion", completionToJson run.completion),
  ("failure", failureToJson run.failure),
  ("data_connection_id", connectionToJson run.dataConnectionId),
  ("data_connection_ids", connectionsToJson run.dataConnectionId),
  ("source_scope_id", sourceScopeToJson run.sourceScopeId)]

/-- A row of `analysis_runs`. -/
structure RunRow where
  analysisRunId : UUID
  organizationId : UUID
  question : String
  status : String
  state : Object
  scenarioKey : Option String
  sourceScopeId : Option UUID
  chatSessionId : Option UUID
  chatSequence : Option Int
  initiatingMessageId : Option UUID
  parentAnalysisRunId : Option UUID
  retryOfAnalysisRunId : Option UUID
  version : Int
  evaluationAttempts : Int
  createdAt : Int
  updatedAt : Int
  finishedAt : Option Int

/-- The statuses, in the order of their definition. -/
def allStatuses : List AnalysisRunStatus :=
  [.pending, .running, .evaluating, .awaitingApproval, .completed, .rejected, .failed,
    .cancelled]

/-- `AnalysisRunStatus(value)`. -/
def statusOfValue (value : String) : Except RowError AnalysisRunStatus :=
  match allStatuses.find? fun status => decide (status.value = value) with
  | some status => .ok status
  | none => .error (.valueError (value ++ " is not a valid AnalysisRunStatus"))

/-- The row that `add` inserts. -/
def RunRow.ofRun (run : AnalysisRun) : RunRow where
  analysisRunId := run.analysisRunId
  organizationId := run.organizationId
  question := run.question
  status := run.status.value
  state := stateToJson run
  scenarioKey := run.scenarioKey
  sourceScopeId := run.sourceScopeId
  chatSessionId := run.threadId
  chatSequence := run.threadSequence
  initiatingMessageId := run.initiatingMessageId
  parentAnalysisRunId := run.parentAnalysisRunId
  retryOfAnalysisRunId := run.retryOfAnalysisRunId
  version := run.version
  evaluationAttempts := run.evaluationAttempts
  createdAt := run.createdAt
  updatedAt := run.updatedAt
  finishedAt := run.finishedAt

/-- `AnalysisRun(...)`, from the columns of a row and what was read out of its
state. -/
def RunRow.toRun (row : RunRow) (finding : Option Finding)
    (outcome : Option OutcomeSignal) (completion : Option CompletionOutcome)
    (failure : Option FailureOutcome) (status : AnalysisRunStatus)
    (dataConnectionId : Option DataConnectionId) (sourceScopeId : Option UUID) :
    AnalysisRun where
  analysisRunId := row.analysisRunId
  organizationId := row.organizationId
  question := row.question
  scenarioKey := row.scenarioKey
  status := status
  version := row.version
  evaluationAttempts := row.evaluationAttempts
  createdAt := row.createdAt
  updatedAt := row.updatedAt
  threadId := row.chatSessionId
  threadSequence := row.chatSequence
  initiatingMessageId := row.initiatingMessageId
  parentAnalysisRunId := row.parentAnalysisRunId
  retryOfAnalysisRunId := row.retryOfAnalysisRunId
  finishedAt := row.finishedAt
  finding := finding
  outcome := outcome
  completion := completion
  failure := failure
  dataConnectionId := dataConnectionId
  sourceScopeId := sourceScopeId
  events := []

def analysisRunFromRow (row : RunRow) : Except RowError AnalysisRun := do
  let finding ← findingFromJson (row.state.get "finding")
  let outcome ← outcomeFromJson (row.state.get "outcome")
  let completion ← completionFromJson finding (row.state.get "completion")
  let failure ← failureFromJson (row.state.get "failure")
  let status ← statusOfValue row.status
  let dataConnectionId ← dataConnectionFromJson (row.state.get "data_connection_ids")
    (row.state.get "data_connection_id")
  let sourceScopeId ← sourceScopeFromJson (row.state.get "source_scope_id")
  return row.toRun finding outcome completion failure status dataConnectionId
    sourceScopeId

/-- The check constraints of the table.  A comparison with null refuses no
row. -/
def RunRow.Valid (row : RunRow) : Prop :=
  row.status ∈ allStatuses.map AnalysisRunStatus.value ∧
  1 ≤ row.version ∧
  0 ≤ row.evaluationAttempts ∧ row.evaluationAttempts ≤ 3 ∧
  ((row.chatSessionId = none ∧ row.chatSequence = none ∧
      row.initiatingMessageId = none) ∨
    (row.chatSessionId.isSome ∧ (∀ sequence ∈ row.chatSequence, 1 ≤ sequence) ∧
      row.initiatingMessageId.isSome))

instance : DecidablePred RunRow.Valid := fun _ => inferInstanceAs (Decidable (_ ∧ _))

inductive SaveError
  | concurrentAnalysisRunUpdateError
  | integrityError
  deriving DecidableEq, Repr

/-- What `save` writes into a row. -/
def RunRow.written (row : RunRow) (run : AnalysisRun) : RunRow :=
  { row with
    status := run.status.value
    state := stateToJson run
    version := run.version
    evaluationAttempts := run.evaluationAttempts
    updatedAt := run.updatedAt
    finishedAt := run.finishedAt }

/-- `save`, over the row with the identifier of the run: refused if the row is
not the one that was read, or by a constraint. -/
def saveRow (run : AnalysisRun) (expectedVersion : Int) (row : RunRow) :
    Except SaveError RunRow :=
  if row.organizationId = run.organizationId ∧ row.version = expectedVersion then
    if (row.written run).Valid then .ok (row.written run)
    else .error .integrityError
  else .error .concurrentAnalysisRunUpdateError

theorem uuidFromJson_uuidJson (id : UUID) : uuidFromJson (uuidJson id) = .ok id := by
  have hread : id.repr.toNat? = some id := Nat.toNat?_repr id
  show (match id.repr.toNat? with
    | some id => Except.ok id
    | none => .error _) = _
  rw [hread]

theorem truthy_uuidJson (id : UUID) : (uuidJson id).truthy = true := by
  have hne : id.repr ≠ "" := Nat.repr_ne_empty
  exact decide_eq_true hne

theorem metricFromJson_toJson (metric : MetricComparison) :
    metricFromJson (metricToJson metric) = .ok metric := by
  obtain ⟨name, previousValue, currentValue, unit, previousLabel, currentLabel⟩ := metric
  cases previousLabel <;> cases currentLabel <;> rfl

theorem referenceFromJson_toJson (ref : EvidenceReference) :
    referenceFromJson (referenceToJson ref) = .ok ref := by
  show evidenceReference ref.value = _
  rw [evidenceReference, dif_pos ref.scheme]

theorem findingFromJson_toJson (finding : Option Finding) :
    findingFromJson (some (findingToJson finding)) = .ok finding := by
  cases finding with
  | none => rfl
  | some finding =>
      have hmetrics : (finding.metrics.map metricToJson).mapM metricFromJson =
          .ok finding.metrics := mapM_map_eq_ok metricFromJson_toJson _
      have hrefs : (finding.evidenceRefs.map referenceToJson).mapM referenceFromJson =
          .ok finding.evidenceRefs := mapM_map_eq_ok referenceFromJson_toJson _
      show (do
        let metrics ← (finding.metrics.map metricToJson).mapM metricFromJson
        let evidenceRefs ←
          (finding.evidenceRefs.map referenceToJson).mapM referenceFromJson
        return some { finding with metrics, evidenceRefs }) = _
      rw [hmetrics, hrefs]
      rfl

theorem textsFromJson_map (texts : List String) :
    textsFromJson (some (.array (texts.map .string))) = .ok texts := by
  have hvalid : ∀ value, validText (.string value) = .ok value := fun _ => rfl
  exact mapM_map_eq_ok hvalid texts

theorem validateOutcome_toJson (outcome : OutcomeSignal) :
    validateOutcome (outcomeToJson outcome) = .ok outcome := by
  cases outcome with
  | confidence outcome =>
      show confidenceOutcome outcome.score outcome.calibrationMethod = _
      rw [confidenceOutcome, dif_pos ⟨⟨outcome.score_nonneg, outcome.score_le_one⟩,
        outcome.method_ne_empty⟩]
  | validation outcome =>
      show (do
        let checks ← textsFromJson (some (.array (outcome.checks.map .string)))
        let issues ← textsFromJson (some (.array (outcome.issues.map .string)))
        return OutcomeSignal.validation { passed := outcome.passed, checks, issues }) = _
      rw [textsFromJson_map, textsFromJson_map]
      rfl

theorem outcomeFromJson_toJson (outcome : Option OutcomeSignal) :
    outcomeFromJson (some (outcomeOrNull outcome)) = .ok outcome := by
  cases outcome with
  | none => rfl
  | some outcome =>
      have htruthy : (outcomeToJson outcome).truthy = true := by
        cases outcome <;> rfl
      show outcomeFromJson (some (outcomeToJson outcome)) = _
      rw [outcomeFromJson, if_pos htruthy, validateOutcome_toJson]
      rfl

/-- The Data Connections as they are read back: an empty list of them is
none. -/
def reloadedConnection : Option DataConnectionId → Option DataConnectionId
  | some (.many []) => none
  | dataConnectionId => dataConnectionId

theorem dataConnectionFromJson_toJson (connection : Option DataConnectionId) :
    dataConnectionFromJson (some (connectionsToJson connection))
      (some (connectionToJson connection)) = .ok (reloadedConnection connection) := by
  rcases connection with _ | id | ids
  · rfl
  · show (match (some (uuidJson id)).filter Json.truthy with
      | some value => do
          let id ← uuidFromJson value
          return some (DataConnectionId.one id)
      | none => .ok none) = _
    rw [Option.filter_some_pos (truthy_uuidJson id)]
    show (do
      let id ← uuidFromJson (uuidJson id)
      return some (DataConnectionId.one id)) = _
    rw [uuidFromJson_uuidJson]
    rfl
  · cases ids with
    | nil => rfl
    | cons id ids =>
        show (do
          let ids ← ((id :: ids).map uuidJson).mapM uuidFromJson
          return some (DataConnectionId.many ids)) = _
        rw [mapM_map_eq_ok uuidFromJson_uuidJson]
        rfl

theorem sourceScopeFromJson_toJson (sourceScopeId : Option UUID) :
    sourceScopeFromJson (some (sourceScopeToJson sourceScopeId)) =
      .ok sourceScopeId := by
  cases sourceScopeId with
  | none => rfl
  | some id =>
      show sourceScopeFromJson (some (uuidJson id)) = _
      rw [sourceScopeFromJson, Option.filter_some_pos (truthy_uuidJson id)]
      show (do
        let id ← uuidFromJson (uuidJson id)
        return some id) = _
      rw [uuidFromJson_uuidJson]
      rfl

theorem statusOfValue_value (status : AnalysisRunStatus) :
    statusOfValue status.value = .ok status := by
  cases status <;> rfl

/-- A completion is read back together with its finding, or not at all. -/
theorem completionFromJson_toJson {finding : Option Finding}
    {completion : Option CompletionOutcome}
    (h : ∀ c, completion = some c → ∀ f, finding = some f → c.finding = f) :
    completionFromJson finding (some (completionToJson completion)) =
      .ok (if finding.isSome then completion else none) := by
  cases finding with
  | none => rfl
  | some finding =>
      cases completion with
      | none => rfl
      | some completion =>
          obtain rfl := h completion rfl finding rfl
          rfl

theorem failureFromJson_toJson (failure : Option FailureOutcome) :
    failureFromJson (some (failureToJson failure)) = .ok failure := by
  rcases failure with _ | ⟨code, message, category⟩
  · rfl
  · cases category <;> rfl

/-- The run as it is read back; the events are not in its row. -/
def AnalysisRun.reloaded (run : AnalysisRun) : AnalysisRun :=
  { run with
    dataConnectionId := reloadedConnection run.dataConnectionId
    events := [] }

section Reading

variable {row : RunRow} {finding : Option Finding} {outcome : Option OutcomeSignal}
  {completion : Option CompletionOutcome}

theorem analysisRunFromRow_ok {failure : Option FailureOutcome}
    {status : AnalysisRunStatus} {connection : Option DataConnectionId}
    {sourceScopeId : Option UUID}
    (hfinding : findingFromJson (row.state.get "finding") = .ok finding)
    (houtcome : outcomeFromJson (row.state.get "outcome") = .ok outcome)
    (hcompletion : completionFromJson finding (row.state.get "completion") =
      .ok completion)
    (hfailure : failureFromJson (row.state.get "failure") = .ok failure)
    (hstatus : statusOfValue row.status = .ok status)
    (hconnection : dataConnectionFromJson (row.state.get "data_connection_ids")
      (row.state.get "data_connection_id") = .ok connection)
    (hscope : sourceScopeFromJson (row.state.get "source_scope_id") =
      .ok sourceScopeId) :
    analysisRunFromRow row = .ok (row.toRun finding outcome completion failure status
      connection sourceScopeId) := by
  unfold analysisRunFromRow
  rw [hfinding, houtcome, hfailure, hstatus, hconnection, hscope]
  show (do
    let completion ← completionFromJson finding (row.state.get "completion")
    return row.toRun finding outcome completion failure status connection
      sourceScopeId) = _
  rw [hcompletion]
  rfl

/-- A failure that cannot be read is a row that cannot be read. -/
theorem analysisRunFromRow_failure {error : RowError}
    (hfinding : findingFromJson (row.state.get "finding") = .ok finding)
    (houtcome : outcomeFromJson (row.state.get "outcome") = .ok outcome)
    (hcompletion : completionFromJson finding (row.state.get "completion") =
      .ok completion)
    (hfailure : failureFromJson (row.state.get "failure") = .error error) :
    analysisRunFromRow row = .error error := by
  unfold analysisRunFromRow
  rw [hfinding, houtcome, hfailure]
  show (do
    let _ ← completionFromJson finding (row.state.get "completion")
    Except.error error) = _
  rw [hcompletion]
  rfl

end Reading

/-- The completion of a run that keeps the lifecycle invariant is read back with
its finding. -/
theorem completionFromJson_lifecycle {run : AnalysisRun} (h : run.Lifecycle) :
    completionFromJson run.finding (some (completionToJson run.completion)) =
      .ok run.completion := by
  rw [completionFromJson_toJson]
  · cases hsome : run.completion with
    | none => simp
    | some completion => simp [h.completion_finding completion hsome]
  · intro completion hsome finding hfinding
    have hsame := h.completion_finding completion hsome
    rw [hfinding] at hsame
    exact (Option.some.inj hsame).symm

/-- **Round trip.**  The row of a run that keeps the lifecycle invariant is read
back as that run. -/
theorem analysisRunFromRow_ofRun {run : AnalysisRun} (h : run.Lifecycle) :
    analysisRunFromRow (.ofRun run) = .ok run.reloaded :=
  analysisRunFromRow_ok (findingFromJson_toJson _) (outcomeFromJson_toJson _)
    (completionFromJson_lifecycle h) (failureFromJson_toJson _)
    (statusOfValue_value _) (dataConnectionFromJson_toJson _)
    (sourceScopeFromJson_toJson _)

namespace AnalysisRun

variable {run run' : AnalysisRun} {op : RunOp}

/-- A run is linked to a Thread by all three fields or by none of them. -/
def ThreadLinked (run : AnalysisRun) : Prop :=
  (run.threadId = none ∧ run.threadSequence = none ∧ run.initiatingMessageId = none) ∨
    (run.threadId.isSome ∧ (∀ sequence ∈ run.threadSequence, 1 ≤ sequence) ∧
      run.initiatingMessageId.isSome)

/-- What a run needs besides the lifecycle invariant to be stored. -/
structure Storable (run : AnalysisRun) : Prop where
  lifecycle : run.Lifecycle
  version_pos : 1 ≤ run.version
  thread_linked : run.ThreadLinked

/-- No change touches the link to the Thread or lowers the version. -/
theorem Change.kept (hchange : Change run op run') :
    run'.threadId = run.threadId ∧ run'.threadSequence = run.threadSequence ∧
      run'.initiatingMessageId = run.initiatingMessageId ∧
      run.version ≤ run'.version := by
  have hversion : ¬ op.IsTransition ∨ run.version < run'.version := by
    by_cases hop : op.IsTransition
    · exact .inr (hchange.version hop)
    · exact .inl hop
  cases hchange with
  | denied => exact ⟨rfl, rfl, rfl, le_rfl⟩
  | erased => exact ⟨rfl, rfl, rfl, le_rfl⟩
  | _ => exact ⟨rfl, rfl, rfl, (hversion.resolve_left (not_not.2 trivial)).le⟩

theorem Change.storable (hchange : Change run op run') (h : run.Storable) :
    run'.Storable := by
  obtain ⟨hthread, hsequence, hmessage, hversion⟩ := hchange.kept
  refine ⟨hchange.lifecycle h.lifecycle, h.version_pos.trans hversion, ?_⟩
  unfold ThreadLinked
  rw [hthread, hsequence, hmessage]
  exact h.thread_linked

theorem storable_create {analysisRunId organizationId : UUID} {question : String}
    {now : Int} {dataConnectionId : Option DataConnectionId}
    {sourceScopeId threadId : Option UUID} {threadSequence : Option Int}
    {initiatingMessageId parentAnalysisRunId retryOfAnalysisRunId : Option UUID}
    (h : create analysisRunId organizationId question now dataConnectionId
      sourceScopeId threadId threadSequence initiatingMessageId
      parentAnalysisRunId retryOfAnalysisRunId = .ok run) : run.Storable := by
  have hlifecycle := (lifecycle_create h).1
  unfold create at h
  split at h
  · cases h
  · rename_i hlinked
    cases h
    refine ⟨hlifecycle, le_rfl, ?_⟩
    show (threadId = none ∧ threadSequence = none ∧ initiatingMessageId = none) ∨
      (threadId.isSome ∧ (∀ sequence ∈ threadSequence, 1 ≤ sequence) ∧
        initiatingMessageId.isSome)
    cases threadId <;> cases threadSequence <;> cases initiatingMessageId <;>
      simp_all

theorem storable_exec {created : AnalysisRun} {ops : List RunOp}
    (h : created.Storable) (hexec : Exec (calling RunOp.method) created ops run) :
    run.Storable := by
  refine hexec.invariant Storable h ?_
  intro t op u hinv hstep
  rcases calling_cases hinv.lifecycle hstep with rfl | ⟨-, hchange⟩
  · exact hinv
  · exact hchange.storable hinv

end AnalysisRun

theorem value_mem_allStatuses (status : AnalysisRunStatus) :
    status.value ∈ allStatuses.map AnalysisRunStatus.value := by
  cases status <;> decide

/-- The constraints accept the row of a run that can be stored, and what it
writes into its row. -/
theorem valid_ofRun {run : AnalysisRun} (h : run.Storable) : (RunRow.ofRun run).Valid :=
  ⟨value_mem_allStatuses run.status, h.version_pos, h.lifecycle.attempts_nonneg,
    h.lifecycle.attempts_le, h.thread_linked⟩

theorem saveRow_returns {run : AnalysisRun} {row : RunRow}
    (horganization : row.organizationId = run.organizationId)
    (hvalid : (row.written run).Valid) :
    saveRow run row.version row = .ok (row.written run) := by
  rw [saveRow, if_pos ⟨horganization, rfl⟩, if_pos hvalid]

end Zentra
