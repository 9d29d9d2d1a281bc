import Zentra.Sequence

/-!
# The lineage of a prepared table

`lineage_for` follows the parent references of the tables.  The steps have references of
their own: the input each one read.  `append_step` compares neither the two nor the ids.

* `Sequence.StepChain` — the steps from the raw table to a table, by their inputs;
* `Sequence.lineage_iff_traceable` — the walk ends, without a `KeyError`, on exactly the
  steps of the chain, along the runs that append a table with the parent its step read
  and under an id of its own.
-/

open Raising Raising.Method StepTrace PointerWalk

namespace Zentra

namespace Sequence

/-- What `lineage_for` raises. -/
inductive LineageError
  | transition (error : SequenceTransitionError)
  | keyError (key : UUID)
  deriving DecidableEq, Repr

/-- `by_id`: a later table takes the place of an earlier one with its id. -/
def byId (s : Sequence) (id : UUID) : Option PreparedTable :=
  s.preparedTables.reverse.find? fun table => table.preparedTableId = id

/-- The table that the parent reference leads to. -/
def parent (s : Sequence) (table : PreparedTable) :
    Except LineageError (Option PreparedTable) :=
  match table.parentTableReference with
  | none => .ok none
  | some reference =>
      match s.byId reference.referenceId with
      | none => .error (.keyError reference.referenceId)
      | some found => .ok (some found)

/-- `lineage_for`, with a bound on the turns of its loop. -/
def lineageFor (s : Sequence) (fuel : Nat) (preparedTableId : UUID) :
    Option (Except LineageError (List PreparedTable)) :=
  match s.byId preparedTableId with
  | none => some (.error (.transition
      ⟨toString preparedTableId ++ " is not a Prepared Table in this Sequence"⟩))
  | some table => (walk s.parent fuel table []).map (Except.map List.reverse)

/-- The call ends, and returns the tables. -/
def ReturnsLineage (s : Sequence) (preparedTableId : UUID) (tables : List PreparedTable) :
    Prop :=
  ∃ enough, ∀ fuel ≥ enough, s.lineageFor fuel preparedTableId = some (.ok tables)

/-- The steps, each with the table it was appended with. -/
def entries (s : Sequence) : List (SequenceStep × PreparedTable) :=
  s.steps.zip s.preparedTables

/-- The steps from the raw table to a table: each reads what the one before it
produced. -/
inductive StepChain (s : Sequence) : UUID → List (SequenceStep × PreparedTable) → Prop
  | raw {step : SequenceStep} {table : PreparedTable} :
      (step, table) ∈ s.entries → step.inputReference = none →
      StepChain s table.preparedTableId [(step, table)]
  | next {step : SequenceStep} {table : PreparedTable}
      {reference : SequenceTableReference} {chain : List (SequenceStep × PreparedTable)} :
      (step, table) ∈ s.entries → step.inputReference = some reference →
      StepChain s reference.referenceId chain →
      StepChain s table.preparedTableId (chain ++ [(step, table)])

/-- Every prepared table has one chain of steps, and its lineage is that chain. -/
def LineageExact (s : Sequence) : Prop :=
  ∀ id ∈ s.preparedTableIds, ∃ chain,
    (∀ other, s.StepChain id other ↔ other = chain) ∧
      s.ReturnsLineage id (chain.map Prod.snd)

/-- The table goes in with the parent its step read, and under an id that no other step
or table has. -/
def Traceable (s : Sequence) : SequenceCall → Prop
  | .appendStep step table =>
      table.parentTableReference.map (·.referenceId) =
          step.inputReference.map (·.referenceId) ∧
        ∀ entry ∈ s.entries, entry.2.preparedTableId = table.preparedTableId →
          entry = (step, table)
  | _ => True

instance (s : Sequence) : DecidablePred s.Traceable
  | .appendStep _ _ => inferInstanceAs (Decidable (_ ∧ _))
  | .recordRun _ => .isTrue trivial
  | .markFinal _ => .isTrue trivial
  | .unmarkFinal _ => .isTrue trivial

variable {s : Sequence} {id : UUID}

/-- The walk returns the path from the table, turned round. -/
theorem returnsLineage_iff {tables : List PreparedTable} :
    s.ReturnsLineage id tables ↔
      ∃ table, s.byId id = some table ∧ Path s.parent table tables.reverse := by
  constructor
  · intro h
    obtain ⟨enough, henough⟩ := h
    have hreturned := henough enough (Nat.le_refl _)
    unfold lineageFor at hreturned
    split at hreturned
    next => cases hreturned
    next table hfound =>
        obtain ⟨result, hwalk, hresult⟩ := Option.map_eq_some_iff.1 hreturned
        cases result with
        | error error => cases hresult
        | ok chain =>
            obtain ⟨path, hpath, rfl⟩ := path_of_walk hwalk
            cases hresult
            exact ⟨table, hfound, by simpa using hpath⟩
  · intro h
    obtain ⟨table, hfound, hpath⟩ := h
    refine ⟨tables.reverse.length, fun fuel hfuel => ?_⟩
    unfold lineageFor
    rw [hfound]
    have hwalk := walk_of_path hpath [] hfuel
    simp [hwalk, Except.map]

theorem byId_eq_some {table : PreparedTable} (h : s.byId id = some table) :
    table ∈ s.preparedTables ∧ table.preparedTableId = id := by
  have hmem := List.mem_of_find?_eq_some h
  have hid := List.find?_some h
  exact ⟨List.mem_reverse.1 hmem, by simpa using hid⟩

theorem byId_appended (step : SequenceStep) (table : PreparedTable) :
    (s.appended step table).byId id =
      if table.preparedTableId = id then some table else s.byId id := by
  unfold byId appended
  by_cases hid : table.preparedTableId = id
  · simp [hid]
  · simp [hid]

theorem parent_eq_none {table : PreparedTable} :
    s.parent table = .ok none ↔ table.parentTableReference = none := by
  unfold parent
  split
  next hnone => simp [hnone]
  next reference hsome =>
      rw [hsome]
      split <;> simp

theorem parent_eq_some {table found : PreparedTable} :
    s.parent table = .ok (some found) ↔
      ∃ reference, table.parentTableReference = some reference ∧
        s.byId reference.referenceId = some found := by
  unfold parent
  split
  next hnone => simp [hnone]
  next reference hsome =>
      rw [hsome]
      split
      next hmissing => simp [hmissing]
      next other hother => simp [hother]

theorem Linked.length (h : s.Linked) : s.steps.length = s.preparedTables.length := by
  simpa [preparedTableIds] using congrArg List.length h.outputs

theorem table_of_entry {entry : SequenceStep × PreparedTable} (h : entry ∈ s.entries) :
    entry.2.preparedTableId ∈ s.preparedTableIds :=
  List.mem_map_of_mem (List.of_mem_zip h).2

theorem Linked.exists_entry (h : s.Linked) (hid : id ∈ s.preparedTableIds) :
    ∃ entry ∈ s.entries, entry.2.preparedTableId = id := by
  obtain ⟨table, htable, hid⟩ := List.mem_map.1 hid
  have hsnd : s.entries.map Prod.snd = s.preparedTables :=
    List.map_snd_zip (Nat.le_of_eq h.length.symm)
  rw [← hsnd] at htable
  obtain ⟨entry, hentry, rfl⟩ := List.mem_map.1 htable
  exact ⟨entry, hentry, hid⟩

theorem Linked.input (h : s.Linked) {entry : SequenceStep × PreparedTable}
    (hentry : entry ∈ s.entries) {reference : SequenceTableReference}
    (hreference : entry.1.inputReference = some reference) :
    reference.referenceId ∈ s.preparedTableIds := by
  obtain ⟨before, after, hsteps⟩ := List.append_of_mem (List.of_mem_zip hentry).1
  have hinput := (h.inputs before entry.1 after hsteps reference hreference).2
  rw [← h.outputs, hsteps, List.map_append]
  exact List.mem_append_left _ hinput

theorem Linked.entries_appended (h : s.Linked) (step : SequenceStep)
    (table : PreparedTable) :
    (s.appended step table).entries = s.entries ++ [(step, table)] := by
  unfold entries Sequence.appended
  rw [List.zip_append h.length]
  rfl

/-- A chain ends with a step that produced the table, and the rest is the chain of what
that step read. -/
theorem StepChain.cases_last {chain : List (SequenceStep × PreparedTable)}
    (h : s.StepChain id chain) :
    ∃ entry ∈ s.entries, ∃ rest, entry.2.preparedTableId = id ∧ chain = rest ++ [entry] ∧
      (entry.1.inputReference = none ∧ rest = [] ∨
        ∃ reference, entry.1.inputReference = some reference ∧
          s.StepChain reference.referenceId rest) := by
  cases h with
  | raw hentry hinput => exact ⟨_, hentry, [], rfl, rfl, .inl ⟨hinput, rfl⟩⟩
  | next hentry hinput hrest => exact ⟨_, hentry, _, rfl, rfl, .inr ⟨_, hinput, hrest⟩⟩

theorem StepChain.mono {t : Sequence} (hmono : ∀ entry ∈ s.entries, entry ∈ t.entries)
    {chain : List (SequenceStep × PreparedTable)} (h : s.StepChain id chain) :
    t.StepChain id chain := by
  induction h with
  | raw hentry hinput => exact .raw (hmono _ hentry) hinput
  | next hentry hinput _ ih => exact .next (hmono _ hentry) hinput ih

theorem LineageExact.chain_of_entry (hexact : s.LineageExact) (hlinked : s.Linked)
    {entry : SequenceStep × PreparedTable} (hentry : entry ∈ s.entries) :
    ∃ rest, s.StepChain entry.2.preparedTableId (rest ++ [entry]) ∧
      (entry.1.inputReference = none ∧ rest = [] ∨
        ∃ reference, entry.1.inputReference = some reference ∧
          s.StepChain reference.referenceId rest) := by
  cases hinput : entry.1.inputReference with
  | none => exact ⟨[], .raw hentry hinput, .inl ⟨rfl, rfl⟩⟩
  | some reference =>
      obtain ⟨chain, hchain, -⟩ := hexact _ (hlinked.input hentry hinput)
      have hrest : s.StepChain reference.referenceId chain := (hchain chain).2 rfl
      exact ⟨chain, .next hentry hinput hrest, .inr ⟨reference, rfl, hrest⟩⟩

theorem LineageExact.entry_unique (hexact : s.LineageExact) (hlinked : s.Linked)
    {entry other : SequenceStep × PreparedTable} (hentry : entry ∈ s.entries)
    (hother : other ∈ s.entries)
    (hid : entry.2.preparedTableId = other.2.preparedTableId) : entry = other := by
  obtain ⟨rest, hchain, -⟩ := hexact.chain_of_entry hlinked hentry
  obtain ⟨rest', hchain', -⟩ := hexact.chain_of_entry hlinked hother
  obtain ⟨chain, hunique, -⟩ := hexact _ (table_of_entry hentry)
  rw [← hid] at hchain'
  have hends : rest ++ [entry] = rest' ++ [other] :=
    ((hunique _).1 hchain).trans ((hunique _).1 hchain').symm
  exact (List.cons.inj (List.append_inj' hends rfl).2).1

section Appended

variable {step : SequenceStep} {table : PreparedTable}
  (hown : ∀ entry ∈ s.entries, entry.2.preparedTableId = table.preparedTableId →
    entry = (step, table))

include hown

theorem byId_of_own {found : PreparedTable} (hlinked : s.Linked)
    (h : s.byId id = some found) : (s.appended step table).byId id = some found := by
  rw [byId_appended]
  by_cases hid : table.preparedTableId = id
  · obtain ⟨hmem, hfound⟩ := byId_eq_some h
    have hsnd : s.entries.map Prod.snd = s.preparedTables :=
      List.map_snd_zip (Nat.le_of_eq hlinked.length.symm)
    rw [← hsnd] at hmem
    obtain ⟨entry, hentry, rfl⟩ := List.mem_map.1 hmem
    rw [hown entry hentry (hfound.trans hid.symm), if_pos hid]
  · rwa [if_neg hid]

theorem path_of_own (hlinked : s.Linked) {start : PreparedTable} {path : List PreparedTable}
    (h : Path s.parent start path) : Path (s.appended step table).parent start path := by
  refine h.mono fun node linked hnode => ?_
  cases linked with
  | none => exact parent_eq_none.2 (parent_eq_none.1 hnode)
  | some found =>
      obtain ⟨reference, hreference, hfound⟩ := parent_eq_some.1 hnode
      exact parent_eq_some.2 ⟨reference, hreference, byId_of_own hown hlinked hfound⟩

theorem entry_of_own (hlinked : s.Linked) {entry : SequenceStep × PreparedTable}
    (hentry : entry ∈ (s.appended step table).entries)
    (hid : entry.2.preparedTableId ∈ s.preparedTableIds) : entry ∈ s.entries := by
  rw [hlinked.entries_appended] at hentry
  rcases List.mem_append.1 hentry with hold | hnew
  · exact hold
  · obtain rfl := List.mem_singleton.1 hnew
    obtain ⟨old, hold, hsame⟩ := hlinked.exists_entry hid
    rwa [← hown old hold hsame]

theorem stepChain_of_own (hlinked : s.Linked) (hid : id ∈ s.preparedTableIds)
    {chain : List (SequenceStep × PreparedTable)} :
    (s.appended step table).StepChain id chain ↔ s.StepChain id chain := by
  constructor
  · intro h
    induction h with
    | raw hentry hinput => exact .raw (entry_of_own hown hlinked hentry hid) hinput
    | next hentry hinput _ ih =>
        have hold := entry_of_own hown hlinked hentry hid
        exact .next hold hinput (ih (hlinked.input hold hinput))
  · refine StepChain.mono fun entry hentry => ?_
    rw [hlinked.entries_appended]
    exact List.mem_append_left _ hentry

theorem returnsLineage_of_own (hlinked : s.Linked) {tables : List PreparedTable}
    (h : s.ReturnsLineage id tables) : (s.appended step table).ReturnsLineage id tables := by
  obtain ⟨found, hfound, hpath⟩ := returnsLineage_iff.1 h
  exact returnsLineage_iff.2
    ⟨found, byId_of_own hown hlinked hfound, path_of_own hown hlinked hpath⟩

end Appended

/-- **A traceable step keeps the lineages exact.** -/
theorem LineageExact.appended (hexact : s.LineageExact) (hlinked : s.Linked)
    {step : SequenceStep} {table : PreparedTable} (hadmits : s.Admits step table)
    (htraceable : s.Traceable (.appendStep step table)) :
    (s.appended step table).LineageExact := by
  obtain ⟨hparent, hown⟩ := htraceable
  intro id hid
  by_cases hold : id ∈ s.preparedTableIds
  · obtain ⟨chain, hchain, hreturns⟩ := hexact id hold
    refine ⟨chain, fun other => ?_, returnsLineage_of_own hown hlinked hreturns⟩
    rw [stepChain_of_own hown hlinked hold]
    exact hchain other
  · -- A table that is new: its only step is the one appended.
    rw [preparedTableIds_appended] at hid
    have hnew : id = table.preparedTableId := by
      rcases List.mem_append.1 hid with h | h
      · exact absurd h hold
      · exact List.mem_singleton.1 h
    subst hnew
    have hentry : (step, table) ∈ (s.appended step table).entries := by
      rw [hlinked.entries_appended]
      exact List.mem_append_right _ (List.mem_singleton.2 rfl)
    have honly : ∀ entry ∈ (s.appended step table).entries,
        entry.2.preparedTableId = table.preparedTableId → entry = (step, table) := by
      intro entry hmem hsame
      rw [hlinked.entries_appended] at hmem
      rcases List.mem_append.1 hmem with h | h
      · exact hown entry h hsame
      · exact List.mem_singleton.1 h
    have hfound : (s.appended step table).byId table.preparedTableId = some table := by
      rw [byId_appended, if_pos rfl]
    cases hinput : step.inputReference with
    | none =>
        rw [hinput] at hparent
        have hroot : table.parentTableReference = none := Option.map_eq_none_iff.1 hparent
        refine ⟨[(step, table)], fun other => ⟨fun h => ?_, ?_⟩, ?_⟩
        · obtain ⟨entry, hmem, rest, hsame, rfl, hlast⟩ := h.cases_last
          obtain rfl := honly entry hmem hsame
          rcases hlast with ⟨-, rfl⟩ | ⟨reference, hreference, -⟩
          · rfl
          · rw [hinput] at hreference
            cases hreference
        · intro h
          subst h
          exact .raw hentry hinput
        · exact returnsLineage_iff.2 ⟨table, hfound, .last (parent_eq_none.2 hroot)⟩
    | some reference =>
        rw [hinput] at hparent
        obtain ⟨parentReference, hparentReference, hsame⟩ :=
          Option.map_eq_some_iff.1 hparent
        have hreference := hadmits.input reference hinput
        obtain ⟨chain, hchain, hreturns⟩ := hexact _ hreference
        refine ⟨chain ++ [(step, table)], fun other => ⟨fun h => ?_, ?_⟩, ?_⟩
        · obtain ⟨entry, hmem, rest, hsame, rfl, hlast⟩ := h.cases_last
          obtain rfl := honly entry hmem hsame
          rcases hlast with ⟨hnone, -⟩ | ⟨other, hother, hrest⟩
          · rw [hinput] at hnone
            cases hnone
          · rw [hinput] at hother
            cases hother
            rw [(hchain rest).1 ((stepChain_of_own hown hlinked hreference).1 hrest)]
        · intro h
          subst h
          refine .next hentry hinput ?_
          exact (stepChain_of_own hown hlinked hreference).2 ((hchain chain).2 rfl)
        · obtain ⟨found, hparentFound, hpath⟩ :=
            returnsLineage_iff.1 (returnsLineage_of_own hown hlinked hreturns)
          have hlink : (s.appended step table).parent table = .ok (some found) :=
            parent_eq_some.2 ⟨parentReference, hparentReference, hsame ▸ hparentFound⟩
          refine returnsLineage_iff.2 ⟨table, hfound, ?_⟩
          simpa using Path.link hlink hpath

/-- **Only a traceable step does.** -/
theorem LineageExact.traceable {step : SequenceStep} {table : PreparedTable}
    (hlinked : s.Linked) (hadmits : s.Admits step table)
    (hexact : (s.appended step table).LineageExact) :
    s.Traceable (.appendStep step table) := by
  have hlinked' := hlinked.appended hadmits
  have hentry : (step, table) ∈ (s.appended step table).entries := by
    rw [hlinked.entries_appended]
    exact List.mem_append_right _ (List.mem_singleton.2 rfl)
  refine ⟨?_, fun entry hmem hsame => ?_⟩
  · obtain ⟨rest, hchain, hlast⟩ := hexact.chain_of_entry hlinked' hentry
    obtain ⟨chain, hunique, hreturns⟩ := hexact _ (table_of_entry hentry)
    rw [← (hunique _).1 hchain] at hreturns
    obtain ⟨found, hfound, hpath⟩ := returnsLineage_iff.1 hreturns
    rw [byId_appended, if_pos rfl] at hfound
    cases hfound
    simp only [List.map_append, List.map_singleton, List.reverse_append,
      List.reverse_singleton, List.singleton_append] at hpath
    rcases hlast with ⟨hinput, rfl⟩ | ⟨reference, hinput, hrest⟩
    · cases hpath with
      | last hroot => rw [parent_eq_none.1 hroot, hinput]
      | link _ hpath =>
          obtain ⟨_, hnil⟩ := hpath.head
          simp at hnil
    · obtain ⟨entry, -, before, hid, rfl, -⟩ := hrest.cases_last
      simp only [List.map_append, List.map_singleton, List.reverse_append,
        List.reverse_singleton, List.singleton_append] at hpath
      cases hpath with
      | link hlink hpath =>
          obtain ⟨_, hhead⟩ := hpath.head
          obtain ⟨rfl, -⟩ := List.cons.inj hhead
          obtain ⟨parentReference, hparent, hfound⟩ := parent_eq_some.1 hlink
          have hsame := (byId_eq_some hfound).2
          rw [hparent, hinput, Option.map_some, Option.map_some, ← hsame, hid]
  · refine hexact.entry_unique hlinked' ?_ hentry hsame
    rw [hlinked.entries_appended]
    exact List.mem_append_left _ hmem

theorem stepChain_congr {t : Sequence} (hsteps : t.steps = s.steps)
    (htables : t.preparedTables = s.preparedTables)
    {chain : List (SequenceStep × PreparedTable)} :
    t.StepChain id chain ↔ s.StepChain id chain := by
  have hentries : t.entries = s.entries := by
    unfold entries
    rw [hsteps, htables]
  constructor
  · exact StepChain.mono fun entry h => hentries ▸ h
  · exact StepChain.mono fun entry h => hentries.symm ▸ h

theorem LineageExact.congr {t : Sequence} (hexact : s.LineageExact)
    (hsteps : t.steps = s.steps) (htables : t.preparedTables = s.preparedTables) :
    t.LineageExact := by
  have hbyId : t.byId = s.byId := by
    funext id
    unfold byId
    rw [htables]
  have hlineage : t.lineageFor = s.lineageFor := by
    have hparent : t.parent = s.parent := by
      funext table
      unfold parent
      rw [hbyId]
    funext fuel id
    unfold lineageFor
    rw [hbyId, hparent]
  intro id hid
  unfold preparedTableIds at hid
  rw [htables] at hid
  obtain ⟨chain, hchain, hreturns⟩ := hexact id hid
  refine ⟨chain, fun other => (stepChain_congr hsteps htables).trans (hchain other), ?_⟩
  unfold ReturnsLineage
  rw [hlineage]
  exact hreturns

/-- **Lineage.**  Along a run of calls that return, the lineage of every prepared table
ends, without an error, on exactly the steps from the raw table to it, if and only if
every step is appended with the parent it read and under an id of its own. -/
theorem lineage_iff_traceable (sequenceId organizationId datasetWorkspaceId : UUID)
    (raw : RawTableReference) (now : Int) (threadId : Option UUID)
    (calls : List SequenceCall) (final : Sequence)
    (hrun : StepTrace.run (returning SequenceCall.method)
      (create sequenceId organizationId datasetWorkspaceId raw now threadId) calls =
        some final) :
    Always (returning SequenceCall.method) LineageExact
        (create sequenceId organizationId datasetWorkspaceId raw now threadId) calls ↔
      Allowed (returning SequenceCall.method) Traceable
        (create sequenceId organizationId datasetWorkspaceId raw now threadId) calls := by
  have hstart : LineageExact
      (create sequenceId organizationId datasetWorkspaceId raw now threadId) := by
    intro id hid
    cases hid
  refine always_iff_allowed (fun s => s.Linked ∧ s.LineageExact) (fun _ h => h.2) ?_ ?_
    calls _ final ⟨linked_create .., hstart⟩ hrun
  · intro s call t h htraceable hstep
    obtain ⟨hlinked, hexact⟩ := h
    have hcall := returning_eq_some.1 hstep
    refine ⟨hlinked.returns hcall, ?_⟩
    rcases SequenceCall.returns_cases hcall with
      ⟨step, table, rfl, hadmits, rfl⟩ | ⟨-, hsteps, htables, -⟩
    · exact hexact.appended hlinked hadmits htraceable
    · exact hexact.congr hsteps htables
  · intro s call t h hstep hafter
    have hcall := returning_eq_some.1 hstep
    cases call with
    | appendStep step table =>
        obtain ⟨hadmits, rfl⟩ := appendStep_returns.1 hcall
        exact hafter.traceable h.1 hadmits
    | recordRun run => trivial
    | markFinal preparedTableId => trivial
    | unmarkFinal preparedTableId => trivial

def preparedReference (referenceId : UUID) : SequenceTableReference where
  organizationId := 20
  referenceId := referenceId
  kind := .prepared

/-- Two steps, the second on the output of the first. -/
theorem lineage_two_steps :
    Always (returning SequenceCall.method) LineageExact orders
      [.appendStep (dropNullsStep 1 2 none) (cleanedTable 2 1 none),
        .appendStep (dropNullsStep 3 4 (some (preparedReference 2)))
          (cleanedTable 4 3 (some (preparedReference 2))),
        .markFinal 4] := by
  refine (lineage_iff_traceable 62 20 63 _ 0 none _ _ rfl).2 ?_
  decide

/-- The second step writes its table under the id of the table it reads. -/
def overwritten : List SequenceCall :=
  [.appendStep (dropNullsStep 1 2 none) (cleanedTable 2 1 none),
    .appendStep (dropNullsStep 3 2 (some (preparedReference 2)))
      (cleanedTable 2 3 (some (preparedReference 2)))]

/-- The table of a step that read the raw table names a parent that does not exist. -/
def dangling : List SequenceCall :=
  [.appendStep (dropNullsStep 1 2 none) (cleanedTable 2 1 (some (preparedReference 9)))]

/-- **Neither is refused**: the walk goes on for ever, or ends with a `KeyError`. -/
theorem lineage_unchecked :
    (∃ s, StepTrace.run (returning SequenceCall.method) orders overwritten = some s ∧
        ∀ fuel, s.lineageFor fuel 2 = none) ∧
      ∃ s, StepTrace.run (returning SequenceCall.method) orders dangling = some s ∧
        ∀ fuel, s.lineageFor (fuel + 1) 2 = some (.error (.keyError 9)) := by
  refine ⟨⟨_, rfl, fun fuel => ?_⟩, ⟨_, rfl, fun fuel => rfl⟩⟩
  exact congrArg (Option.map (Except.map List.reverse)) (walk_of_loop rfl fuel [])

end Sequence

end Zentra
