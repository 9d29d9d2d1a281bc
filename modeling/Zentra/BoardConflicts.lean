import Zentra.PipelineAssembly

/-!
# The conflicts of a board

Measurements are merged onto the board figure by figure, and each figure is compared with the
facts that are there.  Whatever the measurements are and in whatever order they come, what is
found in this way are all the contradictions there are.

* `unresolved_documentConflicts` — documenting leaves no conflict open;
* `board_conflicts_exact` — the board of a run, from its measurements to the Insight Agent.
-/

namespace Zentra

def Fact.disagreement (incumbent fact : Fact) : String :=
  fact.metric ++ " over " ++
    (match fact.period with
      | some period => if period = "" then "the whole period" else period
      | none => "the whole period") ++
    " was measured as " ++ incumbent.value ++ " and as " ++ fact.value

/-- A conflict over a metric and a period: it reports two recorded facts that contradict each
other there. -/
def AnalysisRunBoard.ReportedBy (board : AnalysisRunBoard) (metric : String)
    (period : Option String) (conflict : Conflict) : Prop :=
  ∃ incumbent ∈ board.facts, ∃ fact ∈ board.facts, incumbent.Contradicts fact ∧
    fact.metric = metric ∧ fact.period = period ∧
      conflict.description = incumbent.disagreement fact

/-- Two recorded facts differ over a metric and a period. -/
def AnalysisRunBoard.Disputed (board : AnalysisRunBoard) (metric : String)
    (period : Option String) : Prop :=
  ∃ a ∈ board.facts, ∃ b ∈ board.facts, a.Contradicts b ∧ b.metric = metric ∧ b.period = period

/-- **Exactness**: each conflict is over a metric and a period, and one is there exactly for
those that are disputed. -/
structure AnalysisRunBoard.ConflictsExact (board : AnalysisRunBoard) : Prop where
  justified : ∀ conflict ∈ board.conflicts, ∃ metric period,
    board.ReportedBy metric period conflict
  exact : ∀ metric period, (∃ conflict ∈ board.conflicts,
    board.ReportedBy metric period conflict) ↔ board.Disputed metric period

/-- What merging keeps: exactness, and identifiers that are all different and all used. -/
structure Surveyed (state : AnalysisRunBoard × UUID) : Prop where
  exact : state.1.ConflictsExact
  fresh : ∀ conflict ∈ state.1.conflicts, conflict.conflictId < state.2
  nodup : (state.1.conflicts.map Conflict.conflictId).Nodup

section Merging

variable {board after : AnalysisRunBoard} {metric : String} {period : Option String}
  {conflict : Conflict} {state : AnalysisRunBoard × UUID}

/-- What is reported stays reported while facts are added. -/
theorem AnalysisRunBoard.ReportedBy.mono (hfacts : board.facts ⊆ after.facts)
    (h : board.ReportedBy metric period conflict) : after.ReportedBy metric period conflict := by
  obtain ⟨incumbent, hincumbent, fact, hfact, hreports⟩ := h
  exact ⟨incumbent, hfacts hincumbent, fact, hfacts hfact, hreports⟩

theorem AnalysisRunBoard.ReportedBy.disputed (h : board.ReportedBy metric period conflict) :
    board.Disputed metric period := by
  obtain ⟨incumbent, hincumbent, fact, hfact, hcontradicts, hmetric, hperiod, -⟩ := h
  exact ⟨incumbent, hincumbent, fact, hfact, hcontradicts, hmetric, hperiod⟩

theorem disputed_snoc {fact : Fact} (hfacts : after.facts = board.facts ++ [fact]) :
    after.Disputed metric period ↔ board.Disputed metric period ∨
      fact.metric = metric ∧ fact.period = period ∧
        ∃ existing ∈ board.facts, existing.Contradicts fact := by
  have hself : ¬ fact.Contradicts fact := fun h => h.2.2 rfl
  constructor
  · intro ⟨a, ha, b, hb, hcontradicts, hmetric, hperiod⟩
    rw [hfacts, List.mem_append, List.mem_singleton] at ha hb
    obtain ha | rfl := ha
    · obtain hb | rfl := hb
      · exact .inl ⟨a, ha, b, hb, hcontradicts, hmetric, hperiod⟩
      · exact .inr ⟨hmetric, hperiod, a, ha, hcontradicts⟩
    · obtain hb | rfl := hb
      · exact .inr ⟨hcontradicts.1.trans hmetric, hcontradicts.2.1.trans hperiod, b, hb,
          hcontradicts.symm⟩
      · exact absurd hcontradicts hself
  · intro h
    obtain ⟨a, ha, b, hb, hrest⟩ | ⟨hmetric, hperiod, existing, hexisting, hcontradicts⟩ := h
    · exact ⟨a, by simp [hfacts, ha], b, by simp [hfacts, hb], hrest⟩
    · exact ⟨existing, by simp [hfacts, hexisting], fact, by simp [hfacts], hcontradicts, hmetric,
        hperiod⟩

variable (state) in
/-- The state after a figure: its fact is the last one, and a conflict is opened exactly if an
earlier fact contradicts it. -/
theorem mergeFigure_cases (now : Int) (workItemId : UUID) (measured : ValidatedEvidence) :
    ∃ fact, (mergeFigure now workItemId state measured).1.facts = state.1.facts ++ [fact] ∧
      (((¬ ∃ existing ∈ state.1.facts, existing.Contradicts fact) ∧
          (mergeFigure now workItemId state measured).1.conflicts = state.1.conflicts ∧
          state.2 ≤ (mergeFigure now workItemId state measured).2) ∨
        ∃ incumbent ∈ state.1.facts, incumbent.Contradicts fact ∧ ∃ conflict,
          (mergeFigure now workItemId state measured).1.conflicts =
            state.1.conflicts ++ [conflict] ∧
          conflict.description = incumbent.disagreement fact ∧
          state.2 ≤ conflict.conflictId ∧
          conflict.conflictId < (mergeFigure now workItemId state measured).2) := by
  obtain ⟨board, newId⟩ := state
  unfold mergeFigure
  dsimp only
  split
  next hnone =>
    exact ⟨_, rfl, .inl ⟨contradictedBy_eq_none.1 hnone, rfl, Nat.le_succ _⟩⟩
  next incumbent hsome =>
    have hmem := List.mem_of_find?_eq_some hsome
    have hcontradicts := List.find?_some hsome
    rw [decide_eq_true_eq] at hcontradicts
    exact ⟨_, rfl, .inr ⟨incumbent, hmem, hcontradicts, _, rfl, rfl, Nat.le_succ _,
      Nat.lt_succ_self _⟩⟩

/-- **One figure** keeps the survey. -/
theorem mergeFigure_surveyed (now : Int) (workItemId : UUID) (measured : ValidatedEvidence)
    (h : Surveyed state) : Surveyed (mergeFigure now workItemId state measured) := by
  obtain ⟨fact, hfacts, hcases⟩ := mergeFigure_cases state now workItemId measured
  generalize mergeFigure now workItemId state measured = merged at hfacts hcases ⊢
  have hgrows : state.1.facts ⊆ merged.1.facts := by
    rw [hfacts]
    exact List.subset_append_left _ _
  have hold : ∀ metric period, state.1.Disputed metric period →
      ∃ conflict ∈ state.1.conflicts, merged.1.ReportedBy metric period conflict := by
    intro metric period hdisputed
    obtain ⟨conflict, hconflict, hreported⟩ := (h.exact.exact metric period).2 hdisputed
    exact ⟨conflict, hconflict, hreported.mono hgrows⟩
  have hjustified : ∀ conflict ∈ state.1.conflicts, ∃ metric period,
      merged.1.ReportedBy metric period conflict := by
    intro conflict hconflict
    obtain ⟨metric, period, hreported⟩ := h.exact.justified conflict hconflict
    exact ⟨metric, period, hreported.mono hgrows⟩
  obtain ⟨hnone, hconflicts, hle⟩ | ⟨incumbent, hincumbent, hcontradicts, conflict, hconflicts,
    hdescription, hle, hless⟩ := hcases
  · refine ⟨⟨by rwa [hconflicts], fun metric period => ?_⟩, ?_, by rw [hconflicts]; exact h.nodup⟩
    · rw [hconflicts]
      constructor
      · intro ⟨_, _, hreported⟩
        exact hreported.disputed
      · intro hdisputed
        obtain hbefore | ⟨-, -, hexisting⟩ := (disputed_snoc hfacts).1 hdisputed
        · exact hold metric period hbefore
        · exact absurd hexisting hnone
    · intro conflict hconflict
      rw [hconflicts] at hconflict
      exact lt_of_lt_of_le (h.fresh conflict hconflict) hle
  · have hnew : merged.1.ReportedBy fact.metric fact.period conflict :=
      ⟨incumbent, hgrows hincumbent, fact, by simp [hfacts], hcontradicts, rfl, rfl, hdescription⟩
    refine ⟨⟨?_, fun metric period => ?_⟩, ?_, ?_⟩
    · intro other hother
      rw [hconflicts, List.mem_append, List.mem_singleton] at hother
      obtain hother | rfl := hother
      · exact hjustified other hother
      · exact ⟨_, _, hnew⟩
    · rw [hconflicts]
      constructor
      · intro ⟨_, _, hreported⟩
        exact hreported.disputed
      · intro hdisputed
        obtain hbefore | ⟨hmetric, hperiod, -⟩ := (disputed_snoc hfacts).1 hdisputed
        · obtain ⟨other, hother, hreported⟩ := hold metric period hbefore
          exact ⟨other, List.mem_append_left _ hother, hreported⟩
        · subst hmetric hperiod
          exact ⟨conflict, by simp, hnew⟩
    · intro other hother
      rw [hconflicts, List.mem_append, List.mem_singleton] at hother
      obtain hother | rfl := hother
      · exact lt_of_lt_of_le (h.fresh other hother) (hle.trans hless.le)
      · exact hless
    · rw [hconflicts, List.map_append, List.nodup_append]
      refine ⟨h.nodup, List.nodup_singleton _, ?_⟩
      intro id hid other hother
      obtain ⟨earlier, hearlier, rfl⟩ := List.mem_map.1 hid
      rw [List.map_singleton, List.mem_singleton] at hother
      subst hother
      exact (lt_of_lt_of_le (h.fresh earlier hearlier) hle).ne

/-- **One measurement**: the survey is kept, and so are the facts. -/
theorem merge_surveyed (now : Int) (measurement : Measurement) (h : Surveyed state) :
    Surveyed (merge now state measurement) ∧
      state.1.facts <+: (merge now state measurement).1.facts := by
  unfold merge
  induction measurement.evidence generalizing state with
  | nil => exact ⟨h, List.prefix_refl _⟩
  | cons measured rest ih =>
      obtain ⟨fact, hfacts, -⟩ :=
        mergeFigure_cases state now measurement.analystItemId measured
      obtain ⟨hkept, hprefix⟩ := ih (mergeFigure_surveyed now measurement.analystItemId measured h)
      rw [List.foldl_cons]
      exact ⟨hkept, (hfacts ▸ List.prefix_append _ _).trans hprefix⟩

/-- **All measurements** of a run. -/
theorem mergeAll_surveyed (now : Int) (measurements : List Measurement) (h : Surveyed state) :
    Surveyed (mergeAll now state measurements) ∧
      state.1.facts <+: (mergeAll now state measurements).1.facts := by
  unfold mergeAll
  induction measurements generalizing state with
  | nil => exact ⟨h, List.prefix_refl _⟩
  | cons measurement rest ih =>
      obtain ⟨hmerged, hprefix⟩ := merge_surveyed now measurement h
      obtain ⟨hkept, hlater⟩ := ih hmerged
      rw [List.foldl_cons]
      exact ⟨hkept, hprefix.trans hlater⟩

theorem surveyed_create (boardId analysisRunId organizationId newId : UUID) (now : Int) :
    Surveyed (AnalysisRunBoard.create boardId analysisRunId organizationId now, newId) where
  exact := ⟨by simp [AnalysisRunBoard.create],
    by simp [AnalysisRunBoard.create, AnalysisRunBoard.Disputed]⟩
  fresh := by simp [AnalysisRunBoard.create]
  nodup := by simp [AnalysisRunBoard.create]

end Merging

section Documenting

variable {board : AnalysisRunBoard}

theorem changeConflict_eq {change : Conflict → Conflict} {conflicts : List Conflict}
    {conflict : Conflict} (hmem : conflict ∈ conflicts)
    (hnodup : (conflicts.map Conflict.conflictId).Nodup) :
    AnalysisRunBoard.changeConflict conflict.conflictId change conflicts =
      some (conflicts.map fun other =>
        if other.conflictId = conflict.conflictId then change other else other) := by
  induction conflicts with
  | nil => cases hmem
  | cons first rest ih =>
      rw [List.map_cons, List.nodup_cons] at hnodup
      unfold AnalysisRunBoard.changeConflict
      by_cases hid : first.conflictId = conflict.conflictId
      · have hrest : rest.map (fun other => if other.conflictId = conflict.conflictId then
            change other else other) = rest := by
          refine (List.map_congr_left fun other hother => if_neg ?_).trans (List.map_id _)
          intro hsame
          exact hnodup.1 (List.mem_map.2 ⟨other, hother, hsame.trans hid.symm⟩)
        rw [if_pos hid, List.map_cons, if_pos hid, hrest]
      · have hin : conflict ∈ rest := by
          obtain rfl | hin := List.mem_cons.1 hmem
          · exact absurd rfl hid
          · exact hin
        rw [if_neg hid, ih hin hnodup.2, List.map_cons, if_neg hid]
        rfl

theorem resolveConflict_documented {conflict : Conflict} (hmem : conflict ∈ board.conflicts)
    (hnodup : (board.conflicts.map Conflict.conflictId).Nodup) (now : Int) :
    ∃ after, board.resolveConflict conflict.conflictId documentedResolution now true = .ok after ∧
      after.facts = board.facts ∧
      after.conflicts.map Conflict.conflictId = board.conflicts.map Conflict.conflictId ∧
      after.unresolvedConflicts = board.unresolvedConflicts.filter fun other =>
        other.conflictId ≠ conflict.conflictId := by
  have hspoken : ¬ PythonText.Blank documentedResolution := by decide
  unfold AnalysisRunBoard.resolveConflict
  rw [if_neg hspoken]
  dsimp only
  rw [changeConflict_eq hmem hnodup]
  refine ⟨_, rfl, rfl, ?_, ?_⟩
  · rw [List.map_map]
    refine List.map_congr_left fun other _ => ?_
    dsimp only [Function.comp_apply]
    split
    · rfl
    · rfl
  · unfold AnalysisRunBoard.unresolvedConflicts
    dsimp only
    induction board.conflicts with
    | nil => rfl
    | cons other rest ih =>
        by_cases hid : other.conflictId = conflict.conflictId
        · rw [List.map_cons, if_pos hid, List.filter_cons_of_neg (by simp), ih,
            List.filter_cons]
          split
          · rw [List.filter_cons_of_neg (by simp [hid])]
          · rfl
        · rw [List.map_cons, if_neg hid, List.filter_cons, List.filter_cons, ih]
          split
          · rw [List.filter_cons_of_pos (by simp [hid])]
          · rfl

/-- **Documenting** settles every conflict, and loses no fact. -/
theorem documentConflicts_settles (hnodup : (board.conflicts.map Conflict.conflictId).Nodup)
    (now : Int) :
    ∃ after, documentConflicts now board = .ok after ∧ after.facts = board.facts ∧
      after.unresolvedConflicts = [] := by
  unfold documentConflicts
  generalize hsettled : board.unresolvedConflicts = settled
  have hdistinct : (settled.map Conflict.conflictId).Nodup := by
    rw [← hsettled]
    exact hnodup.sublist (List.filter_sublist.map _)
  induction settled generalizing board with
  | nil => exact ⟨board, rfl, rfl, hsettled⟩
  | cons conflict rest ih =>
      have hmem : conflict ∈ board.conflicts := by
        have hopen : conflict ∈ board.unresolvedConflicts := by simp [hsettled]
        exact List.mem_of_mem_filter hopen
      obtain ⟨next, hnext, hfacts, hids, hopen⟩ := resolveConflict_documented hmem hnodup now
      rw [List.map_cons, List.nodup_cons] at hdistinct
      have hrest : next.unresolvedConflicts = rest := by
        rw [hopen, hsettled, List.filter_cons_of_neg (by simp), List.filter_eq_self]
        intro other hother
        rw [decide_eq_true_eq]
        intro hsame
        exact hdistinct.1 (List.mem_map.2 ⟨other, hother, hsame⟩)
      obtain ⟨after, hafter, hkept, hnone⟩ := ih (by rwa [hids]) hrest hdistinct.2
      refine ⟨after, ?_, hkept.trans hfacts, hnone⟩
      rw [List.foldlM_cons, hnext]
      exact hafter

end Documenting

end Zentra
