import Mathlib.Data.List.Pairwise
import Mathlib.Data.List.Sort

/-!
# Tables as lists of rows

A table that is read and updated by conditions on its rows.

* `select_update` — reading the rows that an update has changed;
* `map_update` — a column that an update does not write;
* `forall_update` — a property of all rows, kept by an update;
* `ordered_map` — ordering rows that were changed in other columns;
* `orderedBy_eq_of_perm` — ordering by a key without ties;
* `orderedBy_congr` — ordering a table that is scanned in another order;
* `head?_orderedBy_append`, `orderedBy_concat` — the first and the last row after an insertion;
* `SameBut.map_select` — what is read of tables that differ in hidden rows;
* `AddsTo` — a mapping built up by a loop: its keys, and where its values come from.
-/

namespace TableRows

variable {α β : Type} {p q : α → Prop} [DecidablePred p] [DecidablePred q]
  {f : α → α} {rows : List α}

/-- `SELECT … WHERE p`. -/
def select (p : α → Prop) [DecidablePred p] (rows : List α) : List α :=
  rows.filter fun row => decide (p row)

/-- `UPDATE … SET f WHERE p`. -/
def update (p : α → Prop) [DecidablePred p] (f : α → α) (rows : List α) : List α :=
  rows.map fun row => if p row then f row else row

@[simp] theorem mem_select {row : α} : row ∈ select p rows ↔ row ∈ rows ∧ p row := by
  simp [select]

/-- Rows that are all updated, and are selected as before, are read updated. -/
theorem select_update (hupdated : ∀ row, q row → p row)
    (hselected : ∀ row, q (f row) ↔ q row) :
    select q (update p f rows) = (select q rows).map f := by
  unfold select update
  induction rows with
  | nil => rfl
  | cons row rows ih =>
      by_cases hq : q row
      · have hp := hupdated row hq
        have hafter := (hselected row).2 hq
        rw [List.map_cons, if_pos hp, List.filter_cons_of_pos (by simpa using hafter),
          List.filter_cons_of_pos (by simpa using hq), List.map_cons, ih]
      · have hnot : ¬ q (if p row then f row else row) := by
          by_cases hp : p row
          · rw [if_pos hp, hselected]
            exact hq
          · rw [if_neg hp]
            exact hq
        rw [List.map_cons, List.filter_cons_of_neg (by simpa using hnot),
          List.filter_cons_of_neg (by simpa using hq), ih]

theorem map_update {key : α → β} (hkey : ∀ row, key (f row) = key row) :
    (update p f rows).map key = rows.map key := by
  unfold update
  rw [List.map_map]
  refine List.map_congr_left ?_
  intro row _
  show key (if p row then f row else row) = key row
  by_cases hp : p row
  · rw [if_pos hp, hkey]
  · rw [if_neg hp]

theorem forall_update {property : α → Prop}
    (hkeep : ∀ row, p row → property row → property (f row))
    (h : ∀ row ∈ rows, property row) : ∀ row ∈ update p f rows, property row := by
  unfold update
  intro after hafter
  obtain ⟨row, hrow, rfl⟩ := List.mem_map.1 hafter
  by_cases hp : p row
  · rw [if_pos hp]
    exact hkeep row hp (h row hrow)
  · rw [if_neg hp]
    exact h row hrow

/-- `ORDER BY column`. -/
def ordered (column : α → Int) (rows : List α) : List α :=
  rows.insertionSort fun a b => column a ≤ column b

theorem ordered_map {column : α → Int} (hkeep : ∀ row, column (f row) = column row) :
    ordered column (rows.map f) = (ordered column rows).map f := by
  refine (List.map_insertionSort (fun a b => column a ≤ column b)
    (fun a b => column a ≤ column b) f rows ?_).symm
  intro a _ b _
  rw [hkeep a, hkeep b]

theorem mem_ordered {column : α → Int} {row : α} :
    row ∈ ordered column rows ↔ row ∈ rows :=
  List.mem_insertionSort _

section OrderedBy

variable [LinearOrder β] {key : α → β} {table : List α}

/-- `ORDER BY key`, with a key of any number of columns. -/
def orderedBy (key : α → β) (rows : List α) : List α :=
  rows.insertionSort fun a b => key a ≤ key b

theorem orderedBy_perm : (orderedBy key rows).Perm rows := List.perm_insertionSort _ _

theorem mem_orderedBy {row : α} : row ∈ orderedBy key rows ↔ row ∈ rows :=
  List.mem_insertionSort _

theorem orderedBy_pairwise :
    (orderedBy key rows).Pairwise fun a b => key a ≤ key b := by
  have htotal : Std.Total fun a b : α => key a ≤ key b :=
    ⟨fun a b => le_total (key a) (key b)⟩
  have htrans : IsTrans α fun a b => key a ≤ key b := ⟨fun _ _ _ => le_trans⟩
  exact List.pairwise_insertionSort _ _

/-- **An order without ties.**  However the table is scanned, ordering by a key
that strictly increases along a list gives that list. -/
theorem orderedBy_eq_of_perm (hperm : table.Perm rows)
    (hsorted : rows.Pairwise fun a b => key a < key b) : orderedBy key table = rows := by
  have hle : rows.Pairwise fun a b => key a ≤ key b := hsorted.imp le_of_lt
  have hscan : (orderedBy key table).Perm rows := orderedBy_perm.trans hperm
  apply hscan.eq_of_pairwise _ orderedBy_pairwise hle
  intro a b ha hb hab hba
  have hkey : key a = key b := le_antisymm hab hba
  have hinj : rows.Pairwise fun a b => key a ≠ key b := hsorted.imp ne_of_lt
  have hsymm : Std.Symm fun a b : α => key a ≠ key b := ⟨fun _ _ h => h.symm⟩
  by_contra hne
  exact absurd hkey (hinj.forall (hscan.subset ha) hb hne)

theorem orderedBy_strict (hkeys : (rows.map key).Nodup) :
    (orderedBy key rows).Pairwise fun a b => key a < key b := by
  have hne : (orderedBy key rows).Pairwise fun a b => key a ≠ key b :=
    List.pairwise_map.1 ((orderedBy_perm.map key).nodup_iff.2 hkeys)
  exact (orderedBy_pairwise.and hne).imp fun h => lt_of_le_of_ne h.1 h.2

theorem orderedBy_congr (hperm : table.Perm rows) (hkeys : (rows.map key).Nodup) :
    orderedBy key table = orderedBy key rows :=
  orderedBy_eq_of_perm (hperm.trans orderedBy_perm.symm) (orderedBy_strict hkeys)

theorem orderedBy_filter {p : α → Bool} (hkeys : (rows.map key).Nodup) :
    orderedBy key (rows.filter p) = (orderedBy key rows).filter p :=
  orderedBy_eq_of_perm (orderedBy_perm.symm.filter p) ((orderedBy_strict hkeys).filter p)

/-- **The rows behind a row** in a descending list are those with a smaller key. -/
theorem filter_lt_of_descending {front rest : List α} {last : α}
    (h : (front ++ last :: rest).Pairwise fun a b => key b < key a) :
    (front ++ last :: rest).filter (fun row => decide (key row < key last)) = rest := by
  obtain ⟨-, hrest, hfront⟩ := List.pairwise_append.1 h
  rw [List.filter_append, List.filter_cons_of_neg (by simp),
    List.filter_eq_nil_iff.2 fun row hrow => ?_, List.nil_append,
    List.filter_eq_self.2 fun row hrow => ?_]
  · simpa using (List.pairwise_cons.1 hrest).1 row hrow
  · simpa using (hfront row hrow last List.mem_cons_self).le

theorem orderedBy_id_congr {values others : List β} (hperm : values.Perm others) :
    orderedBy id values = orderedBy id others := by
  have hordered : (orderedBy id values).Perm (orderedBy id others) :=
    (orderedBy_perm.trans hperm).trans orderedBy_perm.symm
  apply hordered.eq_of_pairwise _ orderedBy_pairwise orderedBy_pairwise
  intro a b _ _ hab hba
  exact le_antisymm hab hba

theorem head?_orderedBy_cons (row : α) (rows : List α) :
    (orderedBy key (row :: rows)).head? =
      match (orderedBy key rows).head? with
      | some first => if key row ≤ key first then some row else some first
      | none => some row := by
  unfold orderedBy
  rw [List.insertionSort_cons]
  cases rows.insertionSort fun a b => key a ≤ key b with
  | nil => rfl
  | cons first rest =>
      rw [List.orderedInsert_cons]
      by_cases hfirst : key row ≤ key first
      · simp [hfirst]
      · simp [hfirst]

/-- **The first row after an insertion**: the new row is first if its key is less than that
of the row that was first. -/
theorem head?_orderedBy_append (rows : List α) (row : α) :
    (orderedBy key (rows ++ [row])).head? =
      match (orderedBy key rows).head? with
      | some first => if key first ≤ key row then some first else some row
      | none => some row := by
  induction rows with
  | nil => rfl
  | cons other rows ih =>
      rw [List.cons_append, head?_orderedBy_cons, ih, head?_orderedBy_cons]
      cases (orderedBy key rows).head? with
      | none => rfl
      | some first =>
          by_cases hrow : key first ≤ key row
          · by_cases hother : key other ≤ key first
            · simp [hrow, hother, hother.trans hrow]
            · simp [hrow, hother]
          · by_cases hother : key other ≤ key first
            · simp [hrow, hother]
            · have hnot : ¬ key other ≤ key row := fun h =>
                hother (h.trans (le_of_not_ge hrow))
              simp [hrow, hother, hnot]

theorem orderedInsert_concat {row last : α} {rows : List α} (h : key row ≤ key last) :
    (rows ++ [last]).orderedInsert (fun a b => key a ≤ key b) row =
      rows.orderedInsert (fun a b => key a ≤ key b) row ++ [last] := by
  induction rows with
  | nil => simp [h]
  | cons first rows ih =>
      by_cases hfirst : key row ≤ key first
      · simp [hfirst]
      · simp [hfirst, ih]

/-- **A row that no key exceeds** comes last. -/
theorem orderedBy_concat {last : α} {rows : List α} (h : ∀ row ∈ rows, key row ≤ key last) :
    orderedBy key (rows ++ [last]) = orderedBy key rows ++ [last] := by
  induction rows with
  | nil => rfl
  | cons row rows ih =>
      have hrest := ih fun other hother => h other (List.mem_cons_of_mem _ hother)
      unfold orderedBy at hrest ⊢
      rw [List.cons_append, List.insertionSort_cons, hrest, List.insertionSort_cons,
        orderedInsert_concat (h row List.mem_cons_self)]

theorem le_of_getLast? {last row : α} {rows : List α}
    (hlast : (orderedBy key rows).getLast? = some last) (hrow : row ∈ rows) :
    key row ≤ key last := by
  obtain ⟨front, hfront⟩ := List.getLast?_eq_some_iff.1 hlast
  have hsorted : (orderedBy key rows).Pairwise fun a b => key a ≤ key b := orderedBy_pairwise
  rw [hfront, List.pairwise_append] at hsorted
  have hmem : row ∈ orderedBy key rows := mem_orderedBy.2 hrow
  rw [hfront, List.mem_append, List.mem_singleton] at hmem
  obtain hbefore | rfl := hmem
  · exact hsorted.2.2 row hbefore last List.mem_cons_self
  · exact le_rfl

theorem forall₂_orderedBy {related : α → α → Prop}
    (hkey : ∀ row other, related row other → key row = key other) {rows others : List α}
    (h : List.Forall₂ related rows others) :
    List.Forall₂ related (orderedBy key rows) (orderedBy key others) := by
  have hinsert : ∀ {row other : α} {rows others : List α}, related row other →
      List.Forall₂ related rows others →
      List.Forall₂ related (rows.orderedInsert (fun a b => key a ≤ key b) row)
        (others.orderedInsert (fun a b => key a ≤ key b) other) := by
    intro row other rows others hrow hrows
    induction hrows with
    | nil => exact .cons hrow .nil
    | cons hfirst hrest ih =>
        rw [List.orderedInsert_cons, List.orderedInsert_cons, hkey _ _ hrow, hkey _ _ hfirst]
        split
        · exact .cons hrow (.cons hfirst hrest)
        · exact .cons hfirst ih
  induction h with
  | nil => exact .nil
  | cons hrow _ ih => exact hinsert hrow ih

end OrderedBy

theorem forall₂_select {related : α → α → Prop}
    (hp : ∀ row other, related row other → (p row ↔ p other)) {rows others : List α}
    (h : List.Forall₂ related rows others) :
    List.Forall₂ related (select p rows) (select p others) := by
  refine List.rel_filter ?_ h
  intro row other hrow
  simpa using hp row other hrow

theorem forall₂_head? {related : α → α → Prop} {rows others : List α}
    (h : List.Forall₂ related rows others) :
    Option.Rel related rows.head? others.head? := by
  cases h with
  | nil => exact .none
  | cons hrow _ => exact .some hrow

/-- Tables with the same rows in the same order, but for rows that are hidden. -/
inductive SameBut (hidden : α → Prop) (same : α → α → Prop) : List α → List α → Prop
  | nil : SameBut hidden same [] []
  | both {row other : α} {rows others : List α} :
      same row other → SameBut hidden same rows others →
        SameBut hidden same (row :: rows) (other :: others)
  | left {row : α} {rows others : List α} :
      hidden row → SameBut hidden same rows others →
        SameBut hidden same (row :: rows) others
  | right {other : α} {rows others : List α} :
      hidden other → SameBut hidden same rows others →
        SameBut hidden same rows (other :: others)

/-- **What is read of the rows that are not hidden** does not depend on those that are. -/
theorem SameBut.map_select {hidden : α → Prop} {same : α → α → Prop} {view : α → β}
    {rows others : List α} (h : SameBut hidden same rows others)
    (hhidden : ∀ row, hidden row → ¬ p row)
    (hsame : ∀ row other, same row other → (p row ↔ p other) ∧ view row = view other) :
    (select p rows).map view = (select p others).map view := by
  unfold select
  induction h with
  | nil => rfl
  | @both row other _ _ hrow _ ih =>
      obtain ⟨hp, hview⟩ := hsame row other hrow
      by_cases hrow : p row
      · rw [List.filter_cons_of_pos (by simpa using hrow),
          List.filter_cons_of_pos (by simpa using hp.1 hrow), List.map_cons, List.map_cons,
          hview, ih]
      · rw [List.filter_cons_of_neg (by simpa using hrow),
          List.filter_cons_of_neg (by simpa using mt hp.2 hrow), ih]
  | left hrow _ ih =>
      rw [List.filter_cons_of_neg (by simpa using hhidden _ hrow), ih]
  | right hother _ ih =>
      rw [List.filter_cons_of_neg (by simpa using hhidden _ hother), ih]

section Mapping

variable [DecidableEq β] {key : α → β} {values added : List α} {k : β} {value : α}

/-- `values.setdefault(key(value), value)`. -/
def setDefault (key : α → β) (values : List α) (value : α) : List α :=
  if key value ∈ values.map key then values else values ++ [value]

/-- `values[key(value)] = value`. -/
def setItem (key : α → β) (values : List α) (value : α) : List α :=
  if key value ∈ values.map key then
    values.map fun old => if key old = key value then value else old
  else values ++ [value]

/-- An operation that adds one value to a mapping. -/
structure AddsTo (key : α → β) (add : List α → α → List α) : Prop where
  keys : ∀ values value, (add values value).map key =
    if key value ∈ values.map key then values.map key else values.map key ++ [key value]
  mem : ∀ values value added, added ∈ add values value → added ∈ values ∨ added = value

theorem addsTo_setDefault : AddsTo key (setDefault key) := by
  constructor
  · intro values value
    unfold setDefault
    split
    · rfl
    · exact List.map_append
  · intro values value added hadded
    unfold setDefault at hadded
    split at hadded
    · exact .inl hadded
    · simpa using hadded

theorem addsTo_setItem : AddsTo key (setItem key) := by
  constructor
  · intro values value
    unfold setItem
    split
    · rw [List.map_map]
      apply List.map_congr_left
      intro old _
      by_cases hold : key old = key value
      · simp [hold]
      · simp [hold]
    · exact List.map_append
  · intro values value added hadded
    unfold setItem at hadded
    split at hadded
    · obtain ⟨old, hold, rfl⟩ := List.mem_map.1 hadded
      by_cases hkey : key old = key value
      · exact .inr (if_pos hkey)
      · rw [if_neg hkey]
        exact .inl hold
    · simpa using hadded

section Lookup

variable {γ : Type} {entries : List (β × γ)}

/-- `entries.get(k)`. -/
def getItem (entries : List (β × γ)) (k : β) : Option γ := entries.lookup k

theorem getItem_cons (entry : β × γ) (found : β) :
    getItem (entry :: entries) found =
      if found = entry.1 then some entry.2 else getItem entries found := by
  unfold getItem
  rw [List.lookup_cons]
  by_cases hfound : found = entry.1
  · simp [hfound]
  · have hne : (found == entry.1) = false := by simpa using hfound
    simp [hfound, hne]

theorem getItem_of_notMem {found : β} (h : found ∉ entries.map Prod.fst) :
    getItem entries found = none := by
  apply List.lookup_eq_none_iff.2
  intro entry hentry
  have hne : found ≠ entry.1 := fun hfound => h (hfound ▸ List.mem_map_of_mem hentry)
  simpa using hne

theorem getItem_filter (p : β → Prop) [DecidablePred p] {found : β} (h : p found)
    (entries : List (β × γ)) :
    getItem (entries.filter fun entry => p entry.1) found = getItem entries found := by
  induction entries with
  | nil => rfl
  | cons entry entries ih =>
      by_cases hfound : found = entry.1
      · subst hfound
        simp [getItem_cons, h]
      · rw [getItem_cons, if_neg hfound, ← ih, List.filter_cons]
        split
        next => rw [getItem_cons, if_neg hfound]
        next => rfl

theorem mem_of_getItem {found : β} {value : γ} (h : getItem entries found = some value) :
    (found, value) ∈ entries := by
  induction entries with
  | nil => cases h
  | cons entry entries ih =>
      rw [getItem_cons] at h
      split at h
      next hfound =>
          cases h
          rw [hfound]
          exact List.mem_cons_self
      next => exact List.mem_cons_of_mem _ (ih h)

/-- What is found in a mapping after a value is replaced. -/
theorem getItem_replaced (k found : β) (value : γ) :
    getItem (entries.map fun old => if old.1 = k then (k, value) else old) found =
      if found = k ∧ k ∈ entries.map Prod.fst then some value
      else getItem entries found := by
  induction entries with
  | nil => simp [getItem]
  | cons entry entries ih =>
      rw [List.map_cons, getItem_cons, getItem_cons, ih]
      by_cases hentry : entry.1 = k
      · by_cases hfound : found = k
        · simp [hentry, hfound]
        · simp [hentry, hfound]
      · by_cases hfound : found = k
        · subst hfound
          have hne : ¬ found = entry.1 := fun h => hentry h.symm
          simp only [hentry, hne, if_false, List.map_cons, List.mem_cons, false_or]
        · simp [hentry, hfound]

/-- **What is found in a mapping after an assignment.** -/
theorem getItem_setItem (entries : List (β × γ)) (k found : β) (value : γ) :
    getItem (setItem Prod.fst entries (k, value)) found =
      if found = k then some value else getItem entries found := by
  unfold setItem
  split
  next hmem =>
      rw [getItem_replaced]
      simp [show k ∈ entries.map Prod.fst from hmem]
  next hnew =>
      have happend : getItem (entries ++ [(k, value)]) found =
          (getItem entries found).or (getItem [(k, value)] found) := List.lookup_append
      rw [happend, getItem_cons]
      by_cases hfound : found = k
      · subst hfound
        simp [getItem_of_notMem hnew]
      · simp [hfound, getItem]

theorem getItem_of_mem {found : β} {value : γ} (hnodup : (entries.map Prod.fst).Nodup)
    (h : (found, value) ∈ entries) : getItem entries found = some value := by
  induction entries with
  | nil => cases h
  | cons entry entries ih =>
      obtain ⟨hnew, hrest⟩ := List.nodup_cons.1 hnodup
      rw [getItem_cons]
      rcases List.mem_cons.1 h with rfl | hmem
      · rw [if_pos rfl]
      · have hne : found ≠ entry.1 := by
          intro hfound
          exact hnew (hfound ▸ List.mem_map_of_mem hmem)
        rw [if_neg hne]
        exact ih hrest hmem

theorem getItem_map (keyOf : α → β) (valueOf : α → γ) (rows : List α) (found : β) :
    getItem (rows.map fun row => (keyOf row, valueOf row)) found =
      (rows.find? fun row => keyOf row = found).map valueOf := by
  induction rows with
  | nil => rfl
  | cons row rows ih =>
      rw [List.map_cons, getItem_cons, List.find?_cons, ih]
      by_cases hfound : keyOf row = found
      · simp [hfound]
      · simp [hfound, Ne.symm hfound]

/-- **After a loop of assignments** the last value of a key is found. -/
theorem getItem_foldl_setItem (added : List (β × γ)) (found : β) :
    getItem (added.foldl (setItem Prod.fst) entries) found =
      (getItem added.reverse found).or (getItem entries found) := by
  induction added generalizing entries with
  | nil => rfl
  | cons entry added ih =>
      have happend : getItem (added.reverse ++ [entry]) found =
          (getItem added.reverse found).or (getItem [entry] found) := List.lookup_append
      rw [List.foldl_cons, ih, getItem_setItem, List.reverse_cons, happend, Option.or_assoc]
      congr 1
      rw [getItem_cons]
      by_cases hfound : found = entry.1
      · simp [hfound]
      · simp [hfound, getItem]

theorem getItem_comprehension (keyOf : α → β) (valueOf : α → γ) (rows : List α) (found : β) :
    getItem ((rows.map fun row => (keyOf row, valueOf row)).foldl (setItem Prod.fst) []) found =
      (rows.reverse.find? fun row => keyOf row = found).map valueOf := by
  rw [getItem_foldl_setItem, ← List.map_reverse, getItem_map]
  exact Option.or_none

end Lookup

theorem foldl_setItem_of_nodup (h : ((values ++ added).map key).Nodup) :
    added.foldl (setItem key) values = values ++ added := by
  induction added generalizing values with
  | nil => rw [List.append_nil, List.foldl_nil]
  | cons value added ih =>
      have hsplit : values ++ value :: added = (values ++ [value]) ++ added := by simp
      rw [hsplit] at h ⊢
      have hnew : key value ∉ values.map key := by
        intro hmem
        rw [List.map_append, List.map_append] at h
        exact List.disjoint_of_nodup_append (List.nodup_append.1 h).1 hmem (by simp)
      rw [List.foldl_cons, setItem, if_neg hnew]
      exact ih h

theorem filter_foldl_setItem (p : β → Prop) [DecidablePred p] (added values : List α) :
    ((added.foldl (setItem key) values).filter fun value => p (key value)) =
      (added.filter fun value => p (key value)).foldl (setItem key)
        (values.filter fun value => p (key value)) := by
  induction added generalizing values with
  | nil => rfl
  | cons value added ih =>
      rw [List.foldl_cons, ih, List.filter_cons]
      have hkeys : ∀ old, key (if key old = key value then value else old) = key old := by
        intro old
        split
        next hold => exact hold.symm
        next => rfl
      have hmap : ((values.map fun old => if key old = key value then value else old).filter
          fun old => p (key old)) = (values.filter fun old => p (key old)).map fun old =>
            if key old = key value then value else old := by
        rw [List.filter_map]
        simp only [Function.comp_def, hkeys]
      by_cases hp : p (key value)
      · have hmem : key value ∈ (values.filter fun old => p (key old)).map key ↔
            key value ∈ values.map key := by
          simp only [List.mem_map, List.mem_filter, decide_eq_true_eq]
          exact exists_congr fun old => ⟨fun h => ⟨h.1.1, h.2⟩, fun h => ⟨⟨h.1, h.2 ▸ hp⟩, h.2⟩⟩
        simp only [hp, decide_true, if_true, List.foldl_cons, setItem, hmem]
        split
        next => rw [hmap]
        next => simp [List.filter_append, hp]
      · simp only [hp, decide_false, Bool.false_eq_true, if_false, setItem]
        split
        next =>
            rw [hmap, List.map_congr_left, List.map_id]
            intro old hold
            have hkept : p (key old) := of_decide_eq_true (List.mem_filter.1 hold).2
            have hne : key old ≠ key value := fun hkey => hp (hkey ▸ hkept)
            rw [if_neg hne, id]
        next => simp [List.filter_append, hp]

variable {add : List α → α → List α}

theorem AddsTo.mem_keys_foldl (h : AddsTo key add) :
    k ∈ (added.foldl add values).map key ↔ k ∈ values.map key ∨ k ∈ added.map key := by
  induction added generalizing values with
  | nil => simp
  | cons value added ih =>
      rw [List.foldl_cons, ih, h.keys]
      split
      next hmem =>
          have hk : k = key value → k ∈ values.map key := fun hk => hk ▸ hmem
          rw [List.map_cons, List.mem_cons]
          tauto
      next =>
          rw [List.mem_append, List.mem_singleton, List.map_cons, List.mem_cons]
          tauto

theorem AddsTo.nodup_foldl (h : AddsTo key add) (hnodup : (values.map key).Nodup) :
    ((added.foldl add values).map key).Nodup := by
  induction added generalizing values with
  | nil => exact hnodup
  | cons value added ih =>
      apply ih
      rw [h.keys]
      split
      next => exact hnodup
      next hnew =>
          apply List.Nodup.append hnodup (List.nodup_singleton _)
          intro k hk hvalue
          rw [List.mem_singleton.1 hvalue] at hk
          exact hnew hk

theorem AddsTo.mem_foldl (h : AddsTo key add) (hvalue : value ∈ added.foldl add values) :
    value ∈ values ∨ value ∈ added := by
  induction added generalizing values with
  | nil => exact .inl hvalue
  | cons first added ih =>
      rcases ih hvalue with hmem | hmem
      · rcases h.mem values first value hmem with hold | rfl
        · exact .inl hold
        · exact .inr List.mem_cons_self
      · exact .inr (List.mem_cons_of_mem _ hmem)

theorem filter_key_eq_singleton (hnodup : (values.map key).Nodup)
    (hk : k ∈ values.map key) :
    ∃ value ∈ values, key value = k ∧
      (values.filter fun value => key value = k) = [value] := by
  induction values with
  | nil => cases hk
  | cons first values ih =>
      obtain ⟨hnew, hrest⟩ := List.nodup_cons.1 hnodup
      by_cases hfirst : key first = k
      · subst hfirst
        have hnone : (values.filter fun value => key value = key first) = [] := by
          apply List.filter_eq_nil_iff.2
          intro value hvalue hsame
          exact hnew (of_decide_eq_true hsame ▸ List.mem_map_of_mem hvalue)
        refine ⟨first, List.mem_cons_self, rfl, ?_⟩
        rw [List.filter_cons_of_pos (by simp), hnone]
      · have hk' : k ∈ values.map key := by
          rcases List.mem_cons.1 hk with hk | hk
          · exact absurd hk.symm hfirst
          · exact hk
        obtain ⟨value, hvalue, hkey, hfilter⟩ := ih hrest hk'
        refine ⟨value, List.mem_cons_of_mem _ hvalue, hkey, ?_⟩
        rw [List.filter_cons_of_neg (by simpa using hfirst), hfilter]

end Mapping

end TableRows
