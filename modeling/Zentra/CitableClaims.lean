import Zentra.ClaimValidation

/-!
# Accepted claims that cannot be cited

The assembly matches the claims with the metrics once more, and in its own way: a metric has
one measurement, names and values are trimmed, and only the first claim about a metric and a
period is compared with what was measured.

* `assembleClaims_spec` — the loop over the claims gives up exactly on them;
* `agree_iff` — when the assembly cites whatever the agent has accepted.
-/

open PythonJson

namespace Zentra

namespace InsightAgent

/-- The name by which the assembly looks for a measurement. -/
def citedName (claim : RawClaim) : String := (optionalStr claim.metric).getD ""

/-- The value that the assembly looks for. -/
def citedValue (claim : RawClaim) : String := (optionalStr claim.value).getD ""

/-- The key of the citation of a claim. -/
def citedKey (claim : RawClaim) : String × Option String :=
  (citedName claim, optionalStr claim.period)

def Observed (claim : RawClaim) : Prop := claim.kind = some "observed"

instance (claim : RawClaim) : Decidable (Observed claim) :=
  inferInstanceAs (Decidable (_ = _))

/-- The measurement carries the value. -/
def Carries (measured : ValidatedEvidence) (value : String) : Prop :=
  value = measured.previousValue ∨ value = measured.currentValue

/-- An observed claim can be cited after the ones before it: its metric was measured, and the
value too unless the citation is already there. -/
def CitableAfter (measurements : List ValidatedEvidence) (earlier : List RawClaim)
    (claim : RawClaim) : Prop :=
  ∃ measured ∈ measurements, measured.metric = citedName claim ∧
    (Carries measured (citedValue claim) ∨
      ∃ other ∈ earlier, Observed other ∧ citedKey other = citedKey claim)

/-- Every observed claim can be cited after the ones before it. -/
def AllCitable (measurements : List ValidatedEvidence) (earlier claims : List RawClaim) : Prop :=
  ∀ before claim later, claims = before ++ claim :: later → Observed claim →
    CitableAfter measurements (earlier ++ before) claim

/-- **The condition**: no metric was measured twice, and every observed claim can be cited. -/
structure Citable (measurements : List ValidatedEvidence) (claims : List RawClaim) : Prop where
  distinct : (measurements.map ValidatedEvidence.metric).Nodup
  citable : AllCitable measurements [] claims

/-- The computation returns if the condition holds, and gives up on a claim that cannot be
cited if it does not. -/
def ReturnsIff {α : Type} (condition : Prop) (result : Except AssemblyError α) : Prop :=
  (condition ∧ ∃ value, result = .ok value) ∨
    (¬ condition ∧ ∃ error, result = .error (.uncitableClaim error))

section Measurements

variable {measurements seen : List ValidatedEvidence} {name : String}

/-- The dictionary of the measurements, or a metric that was measured twice. -/
theorem byMetric_cases (seen evidence : List ValidatedEvidence)
    (hseen : (seen.map ValidatedEvidence.metric).Nodup) :
    (((seen ++ evidence).map ValidatedEvidence.metric).Nodup ∧
      byMetric seen evidence = .ok (seen ++ evidence)) ∨
    (¬ ((seen ++ evidence).map ValidatedEvidence.metric).Nodup ∧
      ∃ error, byMetric seen evidence = .error (.uncitableClaim error)) := by
  induction evidence generalizing seen with
  | nil =>
      left
      rw [List.append_nil]
      exact ⟨hseen, rfl⟩
  | cons item rest ih =>
      unfold byMetric
      by_cases hany : (seen.any fun earlier => earlier.metric = item.metric) = true
      · right
        rw [if_pos hany]
        refine ⟨fun hnodup => ?_, _, rfl⟩
        obtain ⟨other, hother, hsame⟩ := List.any_eq_true.1 hany
        rw [List.map_append, List.nodup_append] at hnodup
        refine hnodup.2.2 other.metric (List.mem_map_of_mem hother) item.metric ?_ ?_
        · exact List.mem_map_of_mem List.mem_cons_self
        · simpa using hsame
      · rw [if_neg hany]
        have hnew : ((seen ++ [item]).map ValidatedEvidence.metric).Nodup := by
          rw [List.map_append, List.nodup_append]
          refine ⟨hseen, by simp, ?_⟩
          intro metric hmetric last hlast heq
          obtain ⟨other, hother, rfl⟩ := List.mem_map.1 hmetric
          have hitem : last = item.metric := by simpa using hlast
          exact hany (List.any_eq_true.2 ⟨other, hother, by simpa using heq.trans hitem⟩)
        have happend : seen ++ item :: rest = seen ++ [item] ++ rest := by simp
        rw [happend]
        exact ih (seen ++ [item]) hnew

end Measurements

section Claims

variable {context : CitationContext} {measurements : List ValidatedEvidence} {position : Int}
  {citations : Citations} {claim : RawClaim} {earlier : List RawClaim}

/-- The citations are those of the earlier observed claims. -/
def CitesEarlier (citations : Citations) (earlier : List RawClaim) : Prop :=
  ∀ key, (∃ entry ∈ citations.byKey, entry.1 = key) ↔
    ∃ other ∈ earlier, Observed other ∧ citedKey other = key

/-- What the agent writes: the kind is known and the text is there. -/
def Formed (claim : RawClaim) : Prop :=
  (claim.kind = some "observed" ∨ claim.kind = some "interpretation") ∧ claim.text.isSome

/-- The round of a claim that is not observed cites nothing. -/
theorem assembleClaim_interpretation (context : CitationContext)
    (measurements : List ValidatedEvidence) (position : Int) (citations : Citations)
    (hkind : claim.kind = some "interpretation")
    (htext : claim.text.isSome) :
    ∃ made, assembleClaim context measurements position citations claim =
      .ok (made, { citations with newId := citations.newId + 1 }) := by
  obtain ⟨text, htext⟩ := Option.isSome_iff_exists.1 htext
  have hclaimKind : claim.claimKind = .ok .interpretation := by
    rw [RawClaim.claimKind, hkind]
    rfl
  have hclaimText : claim.claimText = .ok text := by
    rw [RawClaim.claimText, htext]
  unfold assembleClaim
  rw [hclaimKind, hclaimText]
  exact ⟨_, rfl⟩

theorem cite_cases (context : CitationContext) (citations : Citations) (measured : ValidatedEvidence)
    (value : String) (period : Option String) :
    (∃ entry ∈ citations.byKey, entry.1 = (measured.metric, period)) ∧
        (∃ id, citations.cite context measured value period = .ok (id, citations)) ∨
      (¬ ∃ entry ∈ citations.byKey, entry.1 = (measured.metric, period)) ∧
        (Carries measured value ∧ (∃ id made newId,
            citations.cite context measured value period = .ok (id, {
              byKey := citations.byKey ++ [((measured.metric, period), made)], newId })) ∨
          ¬ Carries measured value ∧ ∃ error,
            citations.cite context measured value period = .error (.uncitableClaim error)) := by
  unfold Citations.cite
  cases hfind : citations.byKey.find? fun entry => entry.1 = (measured.metric, period) with
  | some entry =>
      left
      have hkey : entry.1 = (measured.metric, period) := by simpa using List.find?_some hfind
      exact ⟨⟨entry, List.mem_of_find?_eq_some hfind, hkey⟩, _, rfl⟩
  | none =>
      right
      have hnone : ¬ ∃ entry ∈ citations.byKey, entry.1 = (measured.metric, period) := by
        intro ⟨entry, hentry, hkey⟩
        have hne := List.find?_eq_none.1 hfind entry hentry
        simp [hkey] at hne
      refine ⟨hnone, ?_⟩
      dsimp only
      unfold citation
      by_cases hcarries : Carries measured value
      · left
        rw [if_neg (by unfold Carries at hcarries; tauto)]
        exact ⟨hcarries, _, _, _, rfl⟩
      · right
        rw [if_pos (by unfold Carries at hcarries; tauto)]
        exact ⟨hcarries, _, rfl⟩

theorem CitesEarlier.found (h : CitesEarlier citations earlier) (hkind : Observed claim)
    (hfound : ∃ entry ∈ citations.byKey, entry.1 = citedKey claim) (newId : UUID) :
    CitesEarlier { citations with newId } (earlier ++ [claim]) := by
  intro key
  rw [h key]
  constructor
  · intro ⟨other, hother, hrest⟩
    exact ⟨other, List.mem_append_left _ hother, hrest⟩
  · intro ⟨other, hother, hobserved, hkey⟩
    obtain hold | hlast := List.mem_append.1 hother
    · exact ⟨other, hold, hobserved, hkey⟩
    · obtain rfl : other = claim := by simpa using hlast
      exact (h key).1 (hkey ▸ hfound)

theorem CitesEarlier.made (h : CitesEarlier citations earlier) (hkind : Observed claim)
    (made : EvidenceCitation) (newId : UUID) :
    CitesEarlier { byKey := citations.byKey ++ [(citedKey claim, made)], newId }
      (earlier ++ [claim]) := by
  intro key
  constructor
  · intro ⟨entry, hentry, hkey⟩
    obtain hold | hlast := List.mem_append.1 hentry
    · obtain ⟨other, hother, hrest⟩ := (h key).1 ⟨entry, hold, hkey⟩
      exact ⟨other, List.mem_append_left _ hother, hrest⟩
    · obtain rfl : entry = (citedKey claim, made) := by simpa using hlast
      exact ⟨claim, by simp, hkind, hkey⟩
  · intro ⟨other, hother, hobserved, hkey⟩
    obtain hold | hlast := List.mem_append.1 hother
    · obtain ⟨entry, hentry, hrest⟩ := (h key).2 ⟨other, hold, hobserved, hkey⟩
      exact ⟨entry, List.mem_append_left _ hentry, hrest⟩
    · obtain rfl : other = claim := by simpa using hlast
      exact ⟨_, List.mem_append_right _ List.mem_cons_self, hkey⟩

theorem CitesEarlier.skip (h : CitesEarlier citations earlier) (hkind : ¬ Observed claim)
    (newId : UUID) : CitesEarlier { citations with newId } (earlier ++ [claim]) := by
  intro key
  rw [h key]
  constructor
  · intro ⟨other, hother, hrest⟩
    exact ⟨other, List.mem_append_left _ hother, hrest⟩
  · intro ⟨other, hother, hobserved, hkey⟩
    obtain hold | hlast := List.mem_append.1 hother
    · exact ⟨other, hold, hobserved, hkey⟩
    · obtain rfl : other = claim := by simpa using hlast
      exact absurd hobserved hkind

theorem assembleClaim_observed (context : CitationContext) (position : Int)
    (hkind : Observed claim) (htext : claim.text.isSome)
    (hdistinct : (measurements.map ValidatedEvidence.metric).Nodup)
    (hcites : CitesEarlier citations earlier) :
    (CitableAfter measurements earlier claim ∧ ∃ made after,
      assembleClaim context measurements position citations claim = .ok (made, after) ∧
        CitesEarlier after (earlier ++ [claim])) ∨
    (¬ CitableAfter measurements earlier claim ∧ ∃ error,
      assembleClaim context measurements position citations claim =
        .error (.uncitableClaim error)) := by
  obtain ⟨text, htext⟩ := Option.isSome_iff_exists.1 htext
  have hclaimKind : claim.claimKind = .ok .observed := by
    rw [RawClaim.claimKind, hkind]
    rfl
  have hclaimText : claim.claimText = .ok text := by
    rw [RawClaim.claimText, htext]
  unfold assembleClaim
  rw [hclaimKind, hclaimText]
  dsimp only [bind, Except.bind, citationIdsFor]
  cases hfind : measurements.find? fun item => item.metric = (optionalStr claim.metric).getD "" with
  | none =>
      right
      refine ⟨fun ⟨measured, hmem, hname, _⟩ => ?_, _, rfl⟩
      have hne := List.find?_eq_none.1 hfind measured hmem
      exact hne (by simpa [citedName] using hname)
  | some measured =>
      have hname : measured.metric = citedName claim := by
        simpa [citedName] using List.find?_some hfind
      have hmem := List.mem_of_find?_eq_some hfind
      have hkey : (measured.metric, optionalStr claim.period) = citedKey claim := by
        rw [hname, citedKey]
      dsimp only
      obtain ⟨hfound, id, hcite⟩ | ⟨hnone, hmade⟩ := cite_cases context citations
          measured ((optionalStr claim.value).getD "")
          (optionalStr claim.period)
      · left
        rw [hkey] at hfound
        refine ⟨⟨measured, hmem, hname, .inr ((hcites _).1 hfound)⟩, ?_⟩
        rw [hcite]
        exact ⟨_, _, rfl, hcites.found hkind hfound _⟩
      · rw [hkey] at hnone hmade
        obtain ⟨hcarries, id, made, newId, hcite⟩ | ⟨hcarries, error, hcite⟩ := hmade
        · left
          refine ⟨⟨measured, hmem, hname, .inl hcarries⟩, ?_⟩
          rw [hcite]
          exact ⟨_, _, rfl, hcites.made hkind made _⟩
        · right
          rw [hcite]
          refine ⟨fun ⟨other, hother, hsame, h⟩ => ?_, error, rfl⟩
          obtain h | hearlier := h
          · obtain rfl : other = measured :=
              List.inj_on_of_nodup_map hdistinct hother hmem (hsame.trans hname.symm)
            exact hcarries h
          · exact hnone ((hcites _).2 hearlier)

theorem allCitable_cons {first : RawClaim} {rest : List RawClaim} :
    AllCitable measurements earlier (first :: rest) ↔
      (Observed first → CitableAfter measurements earlier first) ∧
        AllCitable measurements (earlier ++ [first]) rest := by
  constructor
  · intro h
    constructor
    · intro hfirst
      simpa using h [] first rest rfl hfirst
    · intro before claim later hsplit hclaim
      have hafter := h (first :: before) claim later (by rw [hsplit]; rfl) hclaim
      simpa using hafter
  · intro ⟨hfirst, hrest⟩ before claim later hsplit hclaim
    cases before with
    | nil =>
        obtain ⟨rfl, -⟩ := List.cons.inj hsplit
        simpa using hfirst hclaim
    | cons other before =>
        obtain ⟨rfl, htail⟩ := List.cons.inj hsplit
        simpa using hrest before claim later htail hclaim

theorem ReturnsIff.cons {first : RawClaim} {rest : List RawClaim} {made : Claim}
    {after : Citations}
    (hmade : assembleClaim context measurements position citations first = .ok (made, after))
    (hfirst : Observed first → CitableAfter measurements earlier first)
    (hrest : ReturnsIff (AllCitable measurements (earlier ++ [first]) rest)
      (assembleClaims context measurements (position + 1) after rest)) :
    ReturnsIff (AllCitable measurements earlier (first :: rest))
      (assembleClaims context measurements position citations (first :: rest)) := by
  unfold ReturnsIff
  rw [allCitable_cons, assembleClaims, hmade]
  obtain ⟨hcitable, result, hresult⟩ | ⟨hnot, error, herror⟩ := hrest
  · left
    refine ⟨⟨hfirst, hcitable⟩, (made :: result.1, result.2), ?_⟩
    dsimp only [bind, Except.bind]
    rw [hresult]
    rfl
  · right
    refine ⟨fun h => hnot h.2, error, ?_⟩
    dsimp only [bind, Except.bind]
    rw [herror]

/-- **The loop over the claims** gives up exactly if some observed claim cannot be cited. -/
theorem assembleClaims_spec {claims : List RawClaim}
    (hdistinct : (measurements.map ValidatedEvidence.metric).Nodup)
    (hformed : ∀ claim ∈ claims, Formed claim) (hcites : CitesEarlier citations earlier) :
    ReturnsIff (AllCitable measurements earlier claims)
      (assembleClaims context measurements position citations claims) := by
  induction claims generalizing position citations earlier with
  | nil =>
      left
      refine ⟨fun before claim later h => ?_, _, rfl⟩
      simp at h
  | cons first rest ih =>
      obtain ⟨hkind, htext⟩ := hformed first List.mem_cons_self
      have hrest : ∀ claim ∈ rest, Formed claim :=
        fun claim hclaim => hformed claim (List.mem_cons_of_mem _ hclaim)
      obtain hobserved | hinterpretation := hkind
      · obtain ⟨hcitable, made, after, hmade, hafter⟩ | ⟨hnot, error, herror⟩ :=
          assembleClaim_observed context position hobserved htext
            hdistinct hcites
        · exact .cons hmade (fun _ => hcitable) (ih hrest hafter)
        · right
          rw [allCitable_cons, assembleClaims, herror]
          exact ⟨fun h => hnot (h.1 hobserved), error, rfl⟩
      · have hkind : ¬ Observed first := by
          unfold Observed
          rw [hinterpretation]
          decide
        obtain ⟨made, hmade⟩ := assembleClaim_interpretation context measurements position
          citations hinterpretation htext
        exact .cons hmade (fun h => absurd h hkind) (ih hrest (hcites.skip hkind _))

end Claims

section Agreement

variable (render : Json → String)

theorem formed_raw (claim : ValidatedClaim) : Formed (claim.raw render) := by
  unfold Formed ValidatedClaim.raw
  cases claim.kind with
  | observed => exact ⟨.inl rfl, rfl⟩
  | interpretation => exact ⟨.inr rfl, rfl⟩

/-- The assembly of the draft cites all claims of the Insight Agent. -/
def Cites (context : CitationContext) (newId : UUID) (now : Int) (insight : InsightOutcome)
    (evidence : List ValidatedEvidence) : Prop :=
  ∀ error, draftWithCitations context newId now insight evidence ≠
    .error (.uncitableClaim error)

/-- **The assembly of a draft** whose claims are formed gives up on one of them exactly if a
metric was measured twice or a claim cannot be cited. -/
theorem cites_iff {context : CitationContext} {newId : UUID} {now : Int}
    {insight : InsightOutcome} {evidence : List ValidatedEvidence}
    (hformed : ∀ claim ∈ insight.claims, Formed claim) :
    Cites context newId now insight evidence ↔ Citable evidence insight.claims := by
  unfold Cites draftWithCitations
  obtain ⟨hdistinct, hmetrics⟩ | ⟨htwice, error, hmetrics⟩ := byMetric_cases [] evidence (by simp)
  · rw [List.nil_append] at hdistinct hmetrics
    have hnone : CitesEarlier { newId } [] := by
      intro key
      simp
    have hclaims : ReturnsIff (AllCitable evidence [] insight.claims)
        (assembleClaims context evidence 0 { newId } insight.claims) :=
      assembleClaims_spec hdistinct hformed hnone
    rw [hmetrics]
    obtain ⟨hcitable, ⟨claims, citations⟩, hresult⟩ | ⟨hnot, error, herror⟩ := hclaims
    · refine iff_of_true (fun error h => ?_) ⟨hdistinct, hcitable⟩
      dsimp only [bind, Except.bind] at h
      rw [hresult] at h
      dsimp only at h
      unfold RootCauseState.ofValue at h
      split at h
      next hroot =>
        split at hroot
        · cases hroot
        · cases hroot
          cases h
      next =>
        split at h
        · cases h
        · cases h
    · refine iff_of_false (fun h => ?_) (fun h => hnot h.citable)
      refine h error ?_
      dsimp only [bind, Except.bind]
      rw [herror]
  · rw [List.nil_append] at htwice
    refine iff_of_false (fun h => ?_) (fun h => htwice h.distinct)
    refine h error ?_
    rw [hmetrics]
    rfl

/-- Whatever the agent has accepted against the metrics of the Analyst, the assembly cites. -/
def Agree (draft : Object) (analyst : AnalystState) (context : CitationContext) (newId : UUID)
    (now : Int) (insight : InsightOutcome) : Prop :=
  ∀ claims, validatedClaims render draft analyst.metrics = .ok claims →
    Cites context newId now { insight with claims := claims.map (·.raw render) }
      (validatedEvidenceFromState render analyst)

/-- **When the validator and the assembler agree**: exactly if the claims are refused, or no
metric was measured twice and each observed claim can be cited. -/
theorem agree_iff (draft : Object) (analyst : AnalystState) (context : CitationContext)
    (newId : UUID) (now : Int) (insight : InsightOutcome) :
    Agree render draft analyst context newId now insight ↔
      ∀ claims, validatedClaims render draft analyst.metrics = .ok claims →
        Citable (validatedEvidenceFromState render analyst) (claims.map (·.raw render)) := by
  refine forall₂_congr fun claims _ => cites_iff ?_
  intro claim hclaim
  obtain ⟨validated, -, rfl⟩ := List.mem_map.1 hclaim
  exact formed_raw render validated

end Agreement

/-- Two days of one metric. -/
def dailyOrders : List Object :=
  [[("metric", .string "orders"), ("previous_value", .string "5"),
      ("previous_label", .string "Monday"), ("current_value", .string "7"),
      ("current_label", .string "Tuesday"), ("unit", .string "count")],
    [("metric", .string "orders"), ("previous_value", .string "7"),
      ("previous_label", .string "Tuesday"), ("current_value", .string "9"),
      ("current_label", .string "Wednesday"), ("unit", .string "count")]]

/-- A draft with one claim about one of the days. -/
def dailyDraft : Object :=
  [("claims", .list [.object [("kind", .string "observed"),
    ("text", .string "Nine orders on Wednesday."), ("metric", .string "orders"),
    ("value", .string "9"), ("period", .string "Wednesday")]])]

/-- **A breakdown by date** is measured twice under one name: the agent accepts a claim about
it, and the assembly gives up. -/
theorem dailyOrders_uncitable :
    ¬ Agree (fun _ => "") dailyDraft ⟨some 1, dailyOrders, [], none⟩
      ⟨.validation ⟨false, [], []⟩, 2, 3⟩ 4 0
      ⟨5, "Orders grew", "Orders grew.", [], [], "unresolved",
        .validation ⟨false, [], []⟩⟩ := by
  intro h
  refine h [⟨.observed, "Nine orders on Wednesday.", some "orders", .string "9",
    .string "Wednesday"⟩] ?_ (.twoMeasurements "orders") ?_
  · rfl
  · rfl

end InsightAgent

end Zentra
