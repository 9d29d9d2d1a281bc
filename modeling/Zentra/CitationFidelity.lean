import Zentra.CitableClaims

/-!
# Citations that carry their claim's figure

A claim that is observed cites the measurement it rests on, and a citation is made once for a
metric and a period: the figure it carries is that of the first claim.  A later claim over the
same metric and period reuses it, whatever its own figure is.

* `Assembled.valuesAgree`, `Assembled.faithful` — fidelity and the values of the claims;
* `draft_faithful_iff` — when every observed claim is cited with its own figure.
-/

open Raising

namespace Zentra

/-- The two sides that a measurement compares. -/
inductive Side
  | previous
  | current
  deriving DecidableEq, Repr

def ValidatedEvidence.figure (measured : ValidatedEvidence) : Side → String
  | .previous => measured.previousValue
  | .current => measured.currentValue

/-- The period of a side, where the aggregate names one. -/
def ValidatedEvidence.label (measured : ValidatedEvidence) : Side → Option String
  | .previous => measured.previousPeriod
  | .current => measured.currentPeriod

/-- The claim is about a side: its value is the figure of that side, and its period is that of
the same side, unless the aggregate names none. -/
structure Claim.About (claim : Claim) (measured : ValidatedEvidence) (side : Side) : Prop where
  metric : claim.metric = some measured.metric
  value : claim.value = some (measured.figure side)
  period : measured.label side = none ∨ claim.period = measured.label side

/-- The citation belongs to a side of a measurement: it carries that side's figure, and the
provenance of the measurement. -/
structure EvidenceCitation.Belongs (cited : EvidenceCitation) (measured : ValidatedEvidence)
    (side : Side) : Prop where
  metric : cited.metric = measured.metric
  value : cited.aggregateValue = measured.figure side
  period : measured.label side = none ∨ cited.period = measured.label side
  filters : cited.filters = measured.filters
  grain : cited.grain = measured.grain
  producer : cited.producingExecutionId = some measured.producingExecutionId

/-- **Fidelity** of a claim: every citation it cites has the claim's value, is taken from one of
the two sides of a measurement of the claim's metric, and belongs to the side that the claim is
about. -/
def Claim.Faithful (evidence : List ValidatedEvidence) (citations : List EvidenceCitation)
    (claim : Claim) : Prop :=
  (∀ id ∈ claim.citationIds, ∃ cited ∈ citations, cited.citationId = id) ∧
    ∀ cited ∈ citations, cited.citationId ∈ claim.citationIds →
      claim.value = some cited.aggregateValue ∧
        ∃ measured ∈ evidence, claim.metric = some measured.metric ∧
          (∃ side, cited.aggregateValue = measured.figure side) ∧
          ∀ side, claim.About measured side → cited.Belongs measured side

/-- No two observed claims share a metric and a period and differ in their value. -/
def InsightOutcome.ValuesAgree (insight : InsightOutcome) : Prop :=
  ∀ first ∈ insight.claims, ∀ second ∈ insight.claims,
    first.kind = some "observed" → second.kind = some "observed" →
      optionalStr first.metric = optionalStr second.metric →
        optionalStr first.period = optionalStr second.period →
          optionalStr first.value = optionalStr second.value

/-- The citation is taken from a measurement, with one of its two figures. -/
structure EvidenceCitation.TakenFrom (cited : EvidenceCitation)
    (measured : ValidatedEvidence) : Prop where
  metric : cited.metric = measured.metric
  figure : ∃ side, cited.aggregateValue = measured.figure side
  filters : cited.filters = measured.filters
  grain : cited.grain = measured.grain
  producer : cited.producingExecutionId = some measured.producingExecutionId

/-- The dictionary: each citation stands under its own metric and period, once, and the
identifiers are different and used. -/
structure Keyed (measurements : List ValidatedEvidence) (citations : Citations) : Prop where
  own : ∀ entry ∈ citations.byKey, entry.1 = (entry.2.metric, entry.2.period)
  once : (citations.byKey.map Prod.fst).Nodup
  fresh : ∀ cited ∈ citations.values, cited.citationId < citations.newId
  distinct : (citations.values.map EvidenceCitation.citationId).Nodup
  taken : ∀ cited ∈ citations.values, ∃ measured ∈ measurements, cited.TakenFrom measured

section Dictionary

variable {context : CitationContext} {measurements : List ValidatedEvidence}
  {citations after : Citations} {measured : ValidatedEvidence} {value : String}
  {period : Option String} {id newId : UUID}

theorem keyed_nil (measurements : List ValidatedEvidence) (newId : UUID) :
    Keyed measurements { newId } where
  own := by simp
  once := List.nodup_nil
  fresh := by simp [Citations.values]
  distinct := List.nodup_nil
  taken := by simp [Citations.values]

/-- The identifiers drawn for anything else keep the dictionary. -/
theorem Keyed.draw (h : Keyed measurements citations) :
    Keyed measurements { citations with newId := citations.newId + 1 } where
  own := h.own
  once := h.once
  fresh := fun cited hcited => (h.fresh cited hcited).trans (Nat.lt_succ_self _)
  distinct := h.distinct
  taken := h.taken

theorem Keyed.same (h : Keyed measurements citations) {first second : EvidenceCitation}
    (hfirst : first ∈ citations.values) (hsecond : second ∈ citations.values)
    (hmetric : first.metric = second.metric) (hperiod : first.period = second.period) :
    first = second := by
  obtain ⟨entry, hentry, rfl⟩ := List.mem_map.1 hfirst
  obtain ⟨other, hother, rfl⟩ := List.mem_map.1 hsecond
  have hkey : entry.1 = other.1 := by
    rw [h.own entry hentry, h.own other hother, hmetric, hperiod]
  rw [List.inj_on_of_nodup_map h.once hentry hother hkey]

theorem Keyed.eq_of_id (h : Keyed measurements citations) {first second : EvidenceCitation}
    (hfirst : first ∈ citations.values) (hsecond : second ∈ citations.values)
    (hid : first.citationId = second.citationId) : first = second :=
  List.inj_on_of_nodup_map h.distinct hfirst hsecond hid

theorem citation_made {made : EvidenceCitation}
    (h : citation context newId measured value period = .ok made) :
    made.citationId = newId ∧ made.period = period ∧ made.aggregateValue = value ∧
      made.TakenFrom measured := by
  unfold citation at h
  split at h
  · cases h
  next hfigure =>
    cases h
    refine ⟨rfl, rfl, rfl, rfl, ?_, rfl, rfl, rfl⟩
    by_cases hprevious : value = measured.previousValue
    · exact ⟨.previous, hprevious⟩
    · refine ⟨.current, ?_⟩
      by_contra hcurrent
      exact hfigure ⟨hprevious, hcurrent⟩

/-- **Citing** keeps the dictionary.  The citation returned is the one of the metric and the
period, and one that is new carries the figure that is asked for. -/
theorem Citations.cite_keyed (h : Keyed measurements citations) (hmem : measured ∈ measurements)
    (hcite : citations.cite context measured value period = .ok (id, after)) :
    Keyed measurements after ∧ citations.values ⊆ after.values ∧
      (∀ cited ∈ after.values, cited ∈ citations.values ∨
        cited.metric = measured.metric ∧ cited.period = period ∧ cited.aggregateValue = value) ∧
      ∃ cited ∈ after.values, cited.citationId = id ∧ cited.metric = measured.metric ∧
        cited.period = period := by
  unfold Citations.cite at hcite
  split at hcite
  next key found hfind =>
    cases hcite
    have hentry := List.mem_of_find?_eq_some hfind
    have hkey := List.find?_some hfind
    rw [decide_eq_true_eq] at hkey
    dsimp only at hkey
    obtain ⟨hmetric, hperiod⟩ := Prod.mk.inj ((h.own _ hentry).symm.trans hkey)
    exact ⟨h, List.Subset.refl _, fun _ hcited => .inl hcited, found,
      List.mem_map.2 ⟨_, hentry, rfl⟩, rfl, hmetric, hperiod⟩
  next hnone =>
    rw [bind_eq_ok] at hcite
    obtain ⟨made, hmade, hreturn⟩ := hcite
    cases hreturn
    obtain ⟨hid, hperiod, hvalue, htaken⟩ := citation_made hmade
    have hvalues : Citations.values { byKey := citations.byKey ++
        [((measured.metric, period), made)], newId := citations.newId + 1 } =
        citations.values ++ [made] := by
      unfold Citations.values
      rw [List.map_append, List.map_singleton]
    have hunused : (measured.metric, period) ∉ citations.byKey.map Prod.fst := by
      intro hused
      obtain ⟨entry, hentry, hkey⟩ := List.mem_map.1 hused
      exact List.find?_eq_none.1 hnone entry hentry (decide_eq_true hkey)
    refine ⟨⟨?_, ?_, ?_, ?_, ?_⟩, ?_, ?_, ?_⟩
    · intro entry hentry
      rw [List.mem_append, List.mem_singleton] at hentry
      obtain hentry | rfl := hentry
      · exact h.own entry hentry
      · dsimp only
        rw [htaken.metric, hperiod]
    · rw [List.map_append, List.map_singleton, List.nodup_append]
      refine ⟨h.once, List.nodup_singleton _, ?_⟩
      intro key hkey other hother
      rw [List.mem_singleton.1 hother]
      intro hsame
      rw [hsame] at hkey
      exact hunused hkey
    · intro cited hcited
      rw [hvalues, List.mem_append, List.mem_singleton] at hcited
      obtain hcited | rfl := hcited
      · exact (h.fresh cited hcited).trans (Nat.lt_succ_self _)
      · rw [hid]
        exact Nat.lt_succ_self _
    · rw [hvalues, List.map_append, List.map_singleton, List.nodup_append]
      refine ⟨h.distinct, List.nodup_singleton _, ?_⟩
      intro earlier hearlier other hother
      obtain ⟨cited, hcited, rfl⟩ := List.mem_map.1 hearlier
      rw [List.mem_singleton.1 hother, hid]
      exact (h.fresh cited hcited).ne
    · intro cited hcited
      rw [hvalues, List.mem_append, List.mem_singleton] at hcited
      obtain hcited | rfl := hcited
      · exact h.taken cited hcited
      · exact ⟨measured, hmem, htaken⟩
    · rw [hvalues]
      exact List.subset_append_left _ _
    · intro cited hcited
      rw [hvalues, List.mem_append, List.mem_singleton] at hcited
      obtain hcited | rfl := hcited
      · exact .inl hcited
      · exact .inr ⟨htaken.metric, hperiod, hvalue⟩
    · refine ⟨made, ?_, rfl, htaken.metric, hperiod⟩
      rw [hvalues]
      exact List.mem_append_right _ (List.mem_singleton_self _)

end Dictionary

/-- The claim is made from what the agent wrote. -/
structure Claim.WrittenFrom (claim : Claim) (raw : RawClaim) : Prop where
  kind : claim.kind = .observed ↔ raw.kind = some "observed"
  metric : claim.metric = optionalStr raw.metric
  value : claim.value = optionalStr raw.value
  period : claim.period = optionalStr raw.period

/-- The claim carries the key and the figure of a citation. -/
def Claim.Made (claim : Claim) (cited : EvidenceCitation) : Prop :=
  claim.kind = .observed ∧ claim.metric.getD "" = cited.metric ∧ claim.period = cited.period ∧
    claim.value.getD "" = cited.aggregateValue

/-- The claim, where it is observed, cites the one citation of its metric and period. -/
def Claim.CitesOwn (claim : Claim) (citations : Citations) : Prop :=
  claim.kind = .observed → ∃ cited ∈ citations.values, claim.citationIds = [cited.citationId] ∧
    cited.metric = claim.metric.getD "" ∧ cited.period = claim.period

/-- What a part of the loop does: the dictionary is kept and grows, every new citation is made
for one of the claims, and each claim cites its own. -/
structure Assembled (measurements : List ValidatedEvidence) (before after : Citations)
    (claims : List Claim) : Prop where
  keyed : Keyed measurements after
  grows : before.values ⊆ after.values
  made : ∀ cited ∈ after.values, cited ∈ before.values ∨ ∃ claim ∈ claims, claim.Made cited
  cited : ∀ claim ∈ claims, claim.CitesOwn after

section Claims

variable {context : CitationContext} {measurements : List ValidatedEvidence}
  {citations after : Citations} {position : Int}

/-- **One claim.** -/
theorem assembleClaim_assembled {raw : RawClaim} {claim : Claim}
    (hkeyed : Keyed measurements citations)
    (h : assembleClaim context measurements position citations raw = .ok (claim, after)) :
    Assembled measurements citations after [claim] ∧ claim.WrittenFrom raw := by
  unfold assembleClaim at h
  rw [bind_eq_ok] at h
  obtain ⟨kind, hkind, h⟩ := h
  simp only [bind_eq_ok] at h
  obtain ⟨⟨ids, next⟩, hids, text, -, hreturn⟩ := h
  cases hreturn
  refine ⟨?_, RawClaim.claimKind_eq_ok hkind, rfl, rfl, rfl⟩
  unfold citationIdsFor at hids
  cases kind with
  | interpretation =>
      cases hids
      refine ⟨hkeyed.draw, List.Subset.refl _, fun _ hcited => .inl hcited, ?_⟩
      intro claim hclaim hobserved
      rw [List.mem_singleton.1 hclaim] at hobserved
      cases hobserved
  | observed =>
      dsimp only at hids
      split at hids
      · cases hids
      next measured hfind =>
        rw [bind_eq_ok] at hids
        obtain ⟨⟨id, cited⟩, hcite, hreturn⟩ := hids
        cases hreturn
        have hmetric := List.find?_some hfind
        rw [decide_eq_true_eq] at hmetric
        obtain ⟨hnext, hgrows, hmade, made, hmem, hid, hown, hperiod⟩ :=
          Citations.cite_keyed hkeyed (List.mem_of_find?_eq_some hfind) hcite
        refine ⟨hnext.draw, hgrows, ?_, ?_⟩
        · intro other hother
          obtain hbefore | ⟨hothers, hperiods, hvalue⟩ := hmade other hother
          · exact .inl hbefore
          · exact .inr ⟨_, List.mem_singleton_self _, rfl, hmetric.symm.trans hothers.symm,
              hperiods.symm, hvalue.symm⟩
        · intro claim hclaim hobserved
          rw [List.mem_singleton.1 hclaim]
          exact ⟨made, hmem, by rw [hid], hown.trans hmetric, hperiod⟩

/-- **All claims**, by induction over what the agent wrote. -/
theorem assembleClaims_assembled {raws : List RawClaim} {claims : List Claim}
    (hkeyed : Keyed measurements citations)
    (h : assembleClaims context measurements position citations raws = .ok (claims, after)) :
    Assembled measurements citations after claims ∧
      List.Forall₂ (fun claim raw => claim.WrittenFrom raw) claims raws := by
  induction raws generalizing position citations claims with
  | nil =>
      cases h
      exact ⟨⟨hkeyed, List.Subset.refl _, fun _ hcited => .inl hcited, by simp⟩, .nil⟩
  | cons raw rest ih =>
      unfold assembleClaims at h
      simp only [bind_eq_ok] at h
      obtain ⟨⟨claim, next⟩, hclaim, ⟨later, last⟩, hlater, hreturn⟩ := h
      cases hreturn
      obtain ⟨hfirst, hwritten⟩ := assembleClaim_assembled hkeyed hclaim
      obtain ⟨hrest, hall⟩ := ih hfirst.keyed hlater
      refine ⟨⟨hrest.keyed, List.Subset.trans hfirst.grows hrest.grows, ?_, ?_⟩, .cons hwritten hall⟩
      · intro cited hcited
        obtain hnext | ⟨other, hother, hmade⟩ := hrest.made cited hcited
        · obtain hbefore | ⟨other, hother, hmade⟩ := hfirst.made cited hnext
          · exact .inl hbefore
          · rw [List.mem_singleton.1 hother] at hmade
            exact .inr ⟨claim, List.mem_cons_self .., hmade⟩
        · exact .inr ⟨other, List.mem_cons_of_mem _ hother, hmade⟩
      · intro other hother hobserved
        obtain rfl | hother := List.mem_cons.1 hother
        · obtain ⟨cited, hcited, hown⟩ :=
            hfirst.cited other (List.mem_singleton_self _) hobserved
          exact ⟨cited, hrest.grows hcited, hown⟩
        · exact hrest.cited other hother hobserved

theorem exists_raw {claims : List Claim} {raws : List RawClaim} {claim : Claim}
    (h : List.Forall₂ (fun claim raw => Claim.WrittenFrom claim raw) claims raws)
    (hclaim : claim ∈ claims) : ∃ raw ∈ raws, claim.WrittenFrom raw := by
  induction h with
  | nil => cases hclaim
  | cons hwritten _ ih =>
      obtain rfl | hclaim := List.mem_cons.1 hclaim
      · exact ⟨_, List.mem_cons_self .., hwritten⟩
      · obtain ⟨raw, hraw, hfrom⟩ := ih hclaim
        exact ⟨raw, List.mem_cons_of_mem _ hraw, hfrom⟩

theorem exists_claim {claims : List Claim} {raws : List RawClaim} {raw : RawClaim}
    (h : List.Forall₂ (fun claim raw => Claim.WrittenFrom claim raw) claims raws)
    (hraw : raw ∈ raws) : ∃ claim ∈ claims, claim.WrittenFrom raw := by
  induction h with
  | nil => cases hraw
  | cons hwritten _ ih =>
      obtain rfl | hraw := List.mem_cons.1 hraw
      · exact ⟨_, List.mem_cons_self .., hwritten⟩
      · obtain ⟨claim, hclaim, hfrom⟩ := ih hraw
        exact ⟨claim, List.mem_cons_of_mem _ hclaim, hfrom⟩

end Claims

section Draft

variable {context : CitationContext} {newId : UUID} {now : Int} {insight : InsightOutcome}
  {evidence : List ValidatedEvidence} {draft : DraftFinding} {citations : List EvidenceCitation}

/-- What stands behind a draft: its claims are those the agent wrote, they were assembled over
the evidence, and the citations are those of the dictionary. -/
theorem draftWithCitations_assembled
    (h : draftWithCitations context newId now insight evidence = .ok (draft, citations)) :
    ∃ after, Assembled evidence { newId } after draft.claims ∧ citations = after.values ∧
      List.Forall₂ (fun claim raw => claim.WrittenFrom raw) draft.claims insight.claims := by
  unfold draftWithCitations at h
  simp only [bind_eq_ok] at h
  obtain ⟨measurements, hmeasurements, ⟨claims, after⟩, hclaims, rootCause, -, h⟩ := h
  have hevidence : measurements = evidence := by
    obtain ⟨-, hsame⟩ | ⟨-, error, herror⟩ :=
      InsightAgent.byMetric_cases [] evidence List.nodup_nil
    · rw [hmeasurements] at hsame
      exact Except.ok.inj hsame
    · rw [hmeasurements] at herror
      cases herror
  subst hevidence
  obtain ⟨hassembled, hwritten⟩ := assembleClaims_assembled (keyed_nil measurements newId) hclaims
  split at h
  · cases h
  next made hmade =>
    cases h
    obtain ⟨hsame, -⟩ := DraftFinding.new_eq_ok hmade
    rw [hsame]
    exact ⟨after, hassembled, rfl, hwritten⟩

theorem DraftFinding.measured (draft : DraftFinding) {claim : Claim}
    (hclaim : claim ∈ draft.claims) (hobserved : claim.kind = .observed) :
    claim.metric = some (claim.metric.getD "") ∧ claim.value = some (claim.value.getD "") := by
  obtain ⟨hmetric, hvalue⟩ := draft.observed_measured claim hclaim hobserved
  constructor
  · cases hsome : claim.metric with
    | none =>
        rw [hsome] at hmetric
        cases hmetric
    | some metric => rfl
  · obtain ⟨value, hsome⟩ := Option.isSome_iff_exists.1 hvalue
    rw [hsome]
    rfl

/-- The observed claims of a draft, over one metric and period, have one value. -/
def DraftFinding.ValuesAgree (draft : DraftFinding) : Prop :=
  ∀ first ∈ draft.claims, ∀ second ∈ draft.claims, first.kind = .observed →
    second.kind = .observed → first.metric = second.metric → first.period = second.period →
      first.value = second.value

/-- The claims of the draft agree exactly if what the agent wrote does. -/
theorem valuesAgree_iff
    (h : List.Forall₂ (fun claim raw => Claim.WrittenFrom claim raw) draft.claims
      insight.claims) :
    draft.ValuesAgree ↔ insight.ValuesAgree := by
  constructor
  · intro hagree first hfirst second hsecond hobserved hother hmetric hperiod
    obtain ⟨claim, hclaim, hfrom⟩ := exists_claim h hfirst
    obtain ⟨other, hotherclaim, hotherfrom⟩ := exists_claim h hsecond
    rw [← hfrom.value, ← hotherfrom.value]
    refine hagree claim hclaim other hotherclaim (hfrom.kind.2 hobserved)
      (hotherfrom.kind.2 hother) ?_ ?_
    · rw [hfrom.metric, hotherfrom.metric, hmetric]
    · rw [hfrom.period, hotherfrom.period, hperiod]
  · intro hagree first hfirst second hsecond hobserved hother hmetric hperiod
    obtain ⟨raw, hraw, hfrom⟩ := exists_raw h hfirst
    obtain ⟨other, hotherraw, hotherfrom⟩ := exists_raw h hsecond
    rw [hfrom.value, hotherfrom.value]
    refine hagree raw hraw other hotherraw (hfrom.kind.1 hobserved)
      (hotherfrom.kind.1 hother) ?_ ?_
    · rw [← hfrom.metric, ← hotherfrom.metric, hmetric]
    · rw [← hfrom.period, ← hotherfrom.period, hperiod]

theorem Assembled.cites {after : Citations} {claim : Claim}
    (h : Assembled evidence { newId } after draft.claims) (hclaim : claim ∈ draft.claims)
    (hobserved : claim.kind = .observed) :
    ∃ cited ∈ after.values, claim.citationIds = [cited.citationId] ∧
      claim.metric = some cited.metric ∧ cited.period = claim.period := by
  obtain ⟨cited, hcited, hids, hmetric, hperiod⟩ := h.cited claim hclaim hobserved
  refine ⟨cited, hcited, hids, ?_, hperiod⟩
  rw [hmetric]
  exact (draft.measured hclaim hobserved).1

/-- In a draft whose claims are faithful the values agree: claims over one metric and period
cite the same citation. -/
theorem Assembled.valuesAgree {after : Citations}
    (h : Assembled evidence { newId } after draft.claims)
    (hfaithful : ∀ claim ∈ draft.claims, claim.kind = .observed →
      claim.Faithful evidence after.values) : draft.ValuesAgree := by
  intro first hfirst second hsecond hobserved hother hmetric hperiod
  obtain ⟨cited, hcited, hids, hown, hperiods⟩ := h.cites hfirst hobserved
  obtain ⟨again, hagain, hagainids, hagainown, hagainperiods⟩ := h.cites hsecond hother
  have hsame : cited = again := by
    refine h.keyed.same hcited hagain ?_ ?_
    · exact Option.some.inj (hown.symm.trans (hmetric.trans hagainown))
    · exact hperiods.trans (hperiod.trans hagainperiods.symm)
  subst hsame
  have hvalue := (hfaithful first hfirst hobserved).2 cited hcited (by simp [hids])
  have hothervalue := (hfaithful second hsecond hother).2 cited hcited (by simp [hagainids])
  exact hvalue.1.trans hothervalue.1.symm

/-- Where the values agree, every claim is faithful: its citation was made for a claim with the
same metric and period, and so with the same value. -/
theorem Assembled.faithful {after : Citations} {claim : Claim}
    (h : Assembled evidence { newId } after draft.claims) (hagree : draft.ValuesAgree)
    (hclaim : claim ∈ draft.claims) (hobserved : claim.kind = .observed) :
    claim.Faithful evidence after.values := by
  obtain ⟨cited, hcited, hids, hown, hperiod⟩ := h.cites hclaim hobserved
  have hvalue : claim.value = some cited.aggregateValue := by
    obtain hbefore | ⟨maker, hmaker, hkind, hmetric, hsame, hfigure⟩ := h.made cited hcited
    · cases hbefore
    · obtain ⟨hmetrics, hvalues⟩ := draft.measured hmaker hkind
      rw [← hfigure, ← hvalues]
      refine hagree claim hclaim maker hmaker hobserved hkind ?_ ?_
      · rw [hown, hmetrics, hmetric]
      · rw [hsame, hperiod]
  obtain ⟨measured, hmeasured, htaken⟩ := h.keyed.taken cited hcited
  constructor
  · intro id hid
    rw [hids, List.mem_singleton] at hid
    exact ⟨cited, hcited, hid.symm⟩
  · intro other hother hid
    rw [hids, List.mem_singleton] at hid
    obtain rfl := h.keyed.eq_of_id hother hcited hid
    refine ⟨hvalue, measured, hmeasured, ?_, htaken.figure, ?_⟩
    · rw [hown, htaken.metric]
    · intro side habout
      have hfigure : other.aggregateValue = measured.figure side :=
        Option.some.inj (hvalue.symm.trans habout.value)
      have hlabel : measured.label side = none ∨ other.period = measured.label side := by
        rw [hperiod]
        exact habout.period
      exact ⟨htaken.metric, hfigure, hlabel, htaken.filters, htaken.grain, htaken.producer⟩

/-- **Fidelity of a draft.**  Every observed claim of a draft is cited with its own figure, from
the side it is about, exactly if no two observed claims over one metric and one period differ
in their value. -/
theorem draft_faithful_iff
    (h : draftWithCitations context newId now insight evidence = .ok (draft, citations)) :
    (∀ claim ∈ draft.claims, claim.kind = .observed → claim.Faithful evidence citations) ↔
      insight.ValuesAgree := by
  obtain ⟨after, hassembled, rfl, hwritten⟩ := draftWithCitations_assembled h
  rw [← valuesAgree_iff hwritten]
  constructor
  · intro hfaithful
    exact hassembled.valuesAgree hfaithful
  · intro hagree claim hclaim hobserved
    exact hassembled.faithful hagree hclaim hobserved

end Draft

/-- Refunds of 20 and of 260, over two periods that the aggregate does not name. -/
def unnamedRefunds : ValidatedEvidence :=
  ⟨"refunds", "20", "260", none, none, [], none, 11⟩

/-- What the agent writes about some of the figures of refunds. -/
def refundInsight (values : List String) : InsightOutcome where
  executionId := 13
  headline := "Refunds rose"
  summary := "Refunds rose to 260."
  claims := values.map fun value =>
    ⟨some "observed", some "Refunds were measured.", some "refunds", some value, none⟩
  contradictions := []
  rootCause := "unresolved"
  outcome := .validation { passed := true }

/-- Two claims that state one figure share its citation. -/
theorem refunds_faithful : ∃ draft citations,
    draftWithCitations ⟨.validation { passed := true }, 1, 2⟩ 20 0
      (refundInsight ["260", "260"]) [unnamedRefunds] = .ok (draft, citations) ∧
    ∀ claim ∈ draft.claims, claim.kind = .observed →
      claim.Faithful [unnamedRefunds] citations := by
  obtain ⟨⟨draft, citations⟩, h⟩ : ∃ built, draftWithCitations ⟨.validation { passed := true },
      1, 2⟩ 20 0 (refundInsight ["260", "260"]) [unnamedRefunds] = .ok built := ⟨_, rfl⟩
  refine ⟨draft, citations, h, (draft_faithful_iff h).2 ?_⟩
  unfold InsightOutcome.ValuesAgree
  decide

/-- **Two sides**: the second claim states the other figure, and cites the first. -/
theorem refunds_unfaithful : ∃ draft citations,
    draftWithCitations ⟨.validation { passed := true }, 1, 2⟩ 20 0
      (refundInsight ["20", "260"]) [unnamedRefunds] = .ok (draft, citations) ∧
    ¬ ∀ claim ∈ draft.claims, claim.kind = .observed →
      claim.Faithful [unnamedRefunds] citations := by
  obtain ⟨⟨draft, citations⟩, h⟩ : ∃ built, draftWithCitations ⟨.validation { passed := true },
      1, 2⟩ 20 0 (refundInsight ["20", "260"]) [unnamedRefunds] = .ok built := ⟨_, rfl⟩
  refine ⟨draft, citations, h, fun hfaithful => ?_⟩
  obtain ⟨after, hassembled, rfl, hwritten⟩ := draftWithCitations_assembled h
  have hagree := (valuesAgree_iff hwritten).1 (hassembled.valuesAgree hfaithful)
  unfold InsightOutcome.ValuesAgree at hagree
  revert hagree
  decide

end Zentra
