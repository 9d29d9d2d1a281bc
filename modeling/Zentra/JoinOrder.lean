import Mathlib.Data.List.Nodup
import Mathlib.Logic.Relation
import Zentra.SqlCompiler

/-!
# The order of joins

A JOIN clause introduces one table, and its condition may refer to that table and to the tables
before it.  The compiler takes the joins in the order in which they are listed.

* `Orderly` — every join brings one new table, and meets the tables before it;
* `introducesInOrder_iff` — the clauses are in order exactly if the joins are.
-/

namespace Zentra

namespace QueryEngine

def JoinClause.members (clause : JoinClause) : List String :=
  clause.left :: clause.right ::
    (clause.additionalConditions.getD []).flatMap fun condition => [condition.left, condition.right]

/-- The ON condition refers to a table. -/
def JoinClause.RefersTo (clause : JoinClause) (table : String) : Prop :=
  ∃ member ∈ clause.members, tableOf member = some table

def JoinSpec.tables (join : JoinSpec) : Option (String × String) :=
  match tableOf join.left, tableOf join.right with
  | some left, some right => some (left, right)
  | _, _ => none

def Joins (joins : List JoinSpec) (table : String) : Prop :=
  ∃ join ∈ joins, ∃ left right, join.tables = some (left, right) ∧ (table = left ∨ table = right)

/-- Each joined table is introduced once, and no condition refers to a table that is introduced
later, or never. -/
structure IntroducesInOrder (primaryTable : String) (joins : List JoinSpec)
    (clauses : List JoinClause) : Prop where
  once : ∀ table, Joins joins table → table ≠ primaryTable →
    (clauses.map JoinClause.table).count table = 1
  not_again : primaryTable ∉ clauses.map JoinClause.table
  meets : ∀ before clause after, clauses = before ++ clause :: after →
    ∀ table, clause.RefersTo table →
      table = primaryTable ∨ table ∈ before.map JoinClause.table ∨ table = clause.table

/-- Each clause introduces a new table, and refers to what is known then. -/
def Introduces (known : List String) : List JoinClause → Prop
  | [] => True
  | clause :: rest =>
      clause.table ∉ known ∧ (∀ table, clause.RefersTo table → table ∈ clause.table :: known) ∧
        Introduces (clause.table :: known) rest

/-- The additional conditions of a join refer to known tables. -/
def JoinSpec.AddsWithin (join : JoinSpec) (known : List String) : Prop :=
  ∀ condition ∈ join.additionalConditions.getD [], ∀ member ∈ [condition.left, condition.right],
    ∀ table ∈ tableOf member, table ∈ known

/-- A join of two tables, one of which is known: the other is new.  (A new table may also be
joined to itself.) -/
def BringsOne (known : List String) (left right : String) : Prop :=
  (left ∈ known ∧ right ∉ known) ∨ (left ∉ known ∧ (right ∈ known ∨ right = left))

/-- **The joins in order**: each brings one new table. -/
def Orderly (known : List String) : List JoinSpec → Prop
  | [] => True
  | join :: rest =>
      match join.tables with
      | none => Orderly known rest
      | some (left, right) =>
          BringsOne known left right ∧ join.AddsWithin (left :: right :: known) ∧
            Orderly (left :: right :: known) rest

section Clauses

variable {known joinedTables : List String} {clauses : List JoinClause} {joins : List JoinSpec}
  {join : JoinSpec} {left right table : String}

theorem Introduces.apart (h : Introduces known clauses) :
    (clauses.map JoinClause.table).Nodup ∧
      ∀ table ∈ clauses.map JoinClause.table, table ∉ known := by
  induction clauses generalizing known with
  | nil => exact ⟨List.nodup_nil, fun table hin => absurd hin List.not_mem_nil⟩
  | cons clause rest ih =>
      obtain ⟨hnew, -, hrest⟩ := h
      obtain ⟨hnodup, hapart⟩ := ih hrest
      refine ⟨List.nodup_cons.2 ⟨fun hin => ?_, hnodup⟩, ?_⟩
      · exact hapart _ hin List.mem_cons_self
      · intro table hin
        obtain rfl | hlater := List.mem_cons.1 hin
        · exact hnew
        · exact fun hknown => hapart table hlater (List.mem_cons_of_mem _ hknown)

theorem Introduces.meets (h : Introduces known clauses) {before after : List JoinClause}
    {clause : JoinClause} (hsplit : clauses = before ++ clause :: after)
    (hrefers : clause.RefersTo table) :
    table ∈ known ∨ table ∈ before.map JoinClause.table ∨ table = clause.table := by
  induction before generalizing known clauses with
  | nil =>
      subst hsplit
      obtain rfl | hknown := List.mem_cons.1 (h.2.1 table hrefers)
      · exact .inr (.inr rfl)
      · exact .inl hknown
  | cons first before ih =>
      subst hsplit
      obtain hknown | hbefore | hself := ih h.2.2 rfl
      · obtain rfl | hknown := List.mem_cons.1 hknown
        · exact .inr (.inl List.mem_cons_self)
        · exact .inl hknown
      · exact .inr (.inl (List.mem_cons_of_mem _ hbefore))
      · exact .inr (.inr hself)

theorem introduces_of_apart (hnodup : (clauses.map JoinClause.table).Nodup)
    (hapart : ∀ table ∈ clauses.map JoinClause.table, table ∉ known)
    (hmeets : ∀ before clause after, clauses = before ++ clause :: after →
      ∀ table, clause.RefersTo table →
        table ∈ known ∨ table ∈ before.map JoinClause.table ∨ table = clause.table) :
    Introduces known clauses := by
  induction clauses generalizing known with
  | nil => trivial
  | cons clause rest ih =>
      obtain ⟨hnew, hrest⟩ := List.nodup_cons.1 hnodup
      refine ⟨hapart _ List.mem_cons_self, fun table hrefers => ?_, ih hrest ?_ ?_⟩
      · obtain hknown | hnone | rfl := hmeets [] clause rest rfl table hrefers
        · exact List.mem_cons_of_mem _ hknown
        · exact absurd hnone List.not_mem_nil
        · exact List.mem_cons_self
      · intro table hin hknown
        obtain rfl | hknown := List.mem_cons.1 hknown
        · exact hnew hin
        · exact hapart table (List.mem_cons_of_mem _ hin) hknown
      · intro before later after hsplit table hrefers
        obtain hknown | hbefore | hself :=
          hmeets (clause :: before) later after (by rw [hsplit]; rfl) table hrefers
        · exact .inl (List.mem_cons_of_mem _ hknown)
        · obtain rfl | hbefore := List.mem_cons.1 hbefore
          · exact .inl List.mem_cons_self
          · exact .inr (.inl hbefore)
        · exact .inr (.inr hself)

theorem compileJoinClauses_skip (h : join.tables = none) :
    compileJoinClauses (join :: joins) joinedTables = compileJoinClauses joins joinedTables := by
  unfold JoinSpec.tables tableOf at h
  rw [compileJoinClauses]
  cases hleft : parseMemberRef join.left with
  | none => rfl
  | some leftParsed =>
      cases hright : parseMemberRef join.right with
      | none => rfl
      | some rightParsed =>
          rw [hleft, hright] at h
          cases h

/-- The clause of a join, and the table that it introduces. -/
theorem compileJoinClauses_cons (h : join.tables = some (left, right)) :
    ∃ clause, compileJoinClauses (join :: joins) joinedTables =
        clause :: compileJoinClauses joins (clause.table :: joinedTables) ∧
      clause.table = (if left ∈ joinedTables then right else left) ∧
      clause.members = join.left :: join.right ::
        (join.additionalConditions.getD []).flatMap fun condition =>
          [condition.left, condition.right] := by
  unfold JoinSpec.tables tableOf at h
  rw [compileJoinClauses]
  cases hleft : parseMemberRef join.left with
  | none =>
      rw [hleft] at h
      cases h
  | some leftParsed =>
      cases hright : parseMemberRef join.right with
      | none =>
          rw [hleft, hright] at h
          cases h
      | some rightParsed =>
          rw [hleft, hright] at h
          obtain ⟨rfl, rfl⟩ := Prod.mk.inj (Option.some.inj h)
          refine ⟨_, rfl, rfl, ?_⟩
          rfl

theorem tableOf_of_tables (h : join.tables = some (left, right)) :
    tableOf join.left = some left ∧ tableOf join.right = some right := by
  unfold JoinSpec.tables at h
  cases hleft : tableOf join.left with
  | none =>
      rw [hleft] at h
      cases h
  | some l =>
      cases hright : tableOf join.right with
      | none =>
          rw [hleft, hright] at h
          cases h
      | some r =>
          rw [hleft, hright] at h
          obtain ⟨rfl, rfl⟩ := Prod.mk.inj (Option.some.inj h)
          exact ⟨rfl, rfl⟩

theorem refersWithin_iff {clause : JoinClause} (htables : join.tables = some (left, right))
    (hmembers : clause.members = join.left :: join.right ::
      (join.additionalConditions.getD []).flatMap fun condition =>
        [condition.left, condition.right]) (within : List String) :
    (∀ table, clause.RefersTo table → table ∈ within) ↔
      left ∈ within ∧ right ∈ within ∧ join.AddsWithin within := by
  obtain ⟨hleft, hright⟩ := tableOf_of_tables htables
  unfold JoinClause.RefersTo JoinSpec.AddsWithin
  rw [hmembers]
  constructor
  · intro h
    refine ⟨h left ⟨_, List.mem_cons_self, hleft⟩,
      h right ⟨_, List.mem_cons_of_mem _ List.mem_cons_self, hright⟩, ?_⟩
    intro condition hcondition member hmember table htable
    refine h table ⟨member, ?_, htable⟩
    exact List.mem_cons_of_mem _ (List.mem_cons_of_mem _
      (List.mem_flatMap.2 ⟨condition, hcondition, hmember⟩))
  · intro ⟨hin, hin', hadds⟩ table ⟨member, hmember, htable⟩
    obtain rfl | hmember := List.mem_cons.1 hmember
    · obtain rfl : left = table := Option.some.inj (hleft.symm.trans htable)
      exact hin
    · obtain rfl | hmember := List.mem_cons.1 hmember
      · obtain rfl : right = table := Option.some.inj (hright.symm.trans htable)
        exact hin'
      · obtain ⟨condition, hcondition, hmember⟩ := List.mem_flatMap.1 hmember
        exact hadds condition hcondition member hmember table htable

section Step

variable (hsame : ∀ table, table ∈ known ↔ table ∈ joinedTables)
include hsame

theorem bringsOne_iff (htable : table = if left ∈ joinedTables then right else left) :
    BringsOne known left right ↔
      table ∉ joinedTables ∧ left ∈ table :: joinedTables ∧ right ∈ table :: joinedTables := by
  unfold BringsOne
  rw [hsame, hsame]
  by_cases hleft : left ∈ joinedTables
  · rw [if_pos hleft] at htable
    simp [htable, hleft]
  · rw [if_neg hleft] at htable
    simp [htable, hleft, or_comm]

theorem mem_known_iff (htable : table = if left ∈ joinedTables then right else left)
    (hleft : left ∈ table :: joinedTables) (hright : right ∈ table :: joinedTables)
    (other : String) : other ∈ left :: right :: known ↔ other ∈ table :: joinedTables := by
  constructor
  · intro h
    obtain rfl | h := List.mem_cons.1 h
    · exact hleft
    · obtain rfl | h := List.mem_cons.1 h
      · exact hright
      · exact List.mem_cons_of_mem _ ((hsame other).1 h)
  · intro h
    obtain rfl | h := List.mem_cons.1 h
    · rw [htable]
      split
      · exact List.mem_cons_of_mem _ List.mem_cons_self
      · exact List.mem_cons_self
    · exact List.mem_cons_of_mem _ (List.mem_cons_of_mem _ ((hsame other).2 h))

end Step

theorem addsWithin_congr {within others : List String}
    (h : ∀ table, table ∈ within ↔ table ∈ others) :
    join.AddsWithin within ↔ join.AddsWithin others := by
  unfold JoinSpec.AddsWithin
  simp only [h]

/-- **The clauses introduce** the tables in order exactly if the joins bring them in order. -/
theorem introduces_iff (hsame : ∀ table, table ∈ known ↔ table ∈ joinedTables) :
    Introduces joinedTables (compileJoinClauses joins joinedTables) ↔ Orderly known joins := by
  induction joins generalizing known joinedTables with
  | nil => exact iff_of_true trivial trivial
  | cons join rest ih =>
      unfold Orderly
      cases htables : join.tables with
      | none =>
          rw [compileJoinClauses_skip htables]
          exact ih hsame
      | some tables =>
          obtain ⟨left, right⟩ := tables
          obtain ⟨clause, hclauses, htable, hmembers⟩ :=
            @compileJoinClauses_cons joinedTables rest join left right htables
          rw [hclauses]
          unfold Introduces
          dsimp only
          rw [refersWithin_iff htables hmembers, bringsOne_iff hsame htable]
          constructor
          · intro ⟨hnew, ⟨hleft, hright, hadds⟩, hrest⟩
            have hknown := mem_known_iff hsame htable hleft hright
            exact ⟨⟨hnew, hleft, hright⟩, (addsWithin_congr hknown).2 hadds, (ih hknown).1 hrest⟩
          · intro ⟨⟨hnew, hleft, hright⟩, hadds, hrest⟩
            have hknown := mem_known_iff hsame htable hleft hright
            exact ⟨hnew, ⟨hleft, hright, (addsWithin_congr hknown).1 hadds⟩, (ih hknown).2 hrest⟩

theorem introduced_of_orderly (hsame : ∀ table, table ∈ known ↔ table ∈ joinedTables)
    (h : Orderly known joins) (hjoins : Joins joins table) (hnew : table ∉ known) :
    table ∈ (compileJoinClauses joins joinedTables).map JoinClause.table := by
  induction joins generalizing known joinedTables with
  | nil =>
      obtain ⟨join, hjoin, -⟩ := hjoins
      exact absurd hjoin List.not_mem_nil
  | cons join rest ih =>
      obtain ⟨other, hother, left, right, htables, htable⟩ := hjoins
      unfold Orderly at h
      cases hhead : join.tables with
      | none =>
          rw [hhead] at h
          rw [compileJoinClauses_skip hhead]
          obtain rfl | hother := List.mem_cons.1 hother
          · rw [hhead] at htables
            cases htables
          · exact ih hsame h ⟨other, hother, left, right, htables, htable⟩ hnew
      | some tables =>
          obtain ⟨first, second⟩ := tables
          rw [hhead] at h
          obtain ⟨hbrings, -, hrest⟩ := h
          obtain ⟨clause, hclauses, hclause, -⟩ :=
            @compileJoinClauses_cons joinedTables rest join first second hhead
          obtain ⟨-, hfirst, hsecond⟩ := (bringsOne_iff hsame hclause).1 hbrings
          have hknown := mem_known_iff hsame hclause hfirst hsecond
          rw [hclauses]
          by_cases hin : table ∈ first :: second :: known
          · -- it is the table of this clause, since it was not known before
            obtain rfl | hold := List.mem_cons.1 ((hknown table).1 hin)
            · exact List.mem_cons_self
            · exact absurd ((hsame table).2 hold) hnew
          · refine List.mem_cons_of_mem _ (ih hknown hrest ?_ hin)
            obtain rfl | hother := List.mem_cons.1 hother
            · obtain ⟨rfl, rfl⟩ := Prod.mk.inj (Option.some.inj (hhead.symm.trans htables))
              obtain rfl | rfl := htable
              · exact absurd List.mem_cons_self hin
              · exact absurd (List.mem_cons_of_mem _ List.mem_cons_self) hin
            · exact ⟨other, hother, left, right, htables, htable⟩

theorem joins_of_introduced
    (h : table ∈ (compileJoinClauses joins joinedTables).map JoinClause.table) :
    Joins joins table := by
  induction joins generalizing joinedTables with
  | nil => exact absurd h List.not_mem_nil
  | cons join rest ih =>
      have hlater : Joins rest table → Joins (join :: rest) table :=
        fun ⟨other, hother, htables⟩ => ⟨other, List.mem_cons_of_mem _ hother, htables⟩
      cases hhead : join.tables with
      | none =>
          rw [compileJoinClauses_skip hhead] at h
          exact hlater (ih h)
      | some tables =>
          obtain ⟨left, right⟩ := tables
          obtain ⟨clause, hclauses, hclause, -⟩ :=
            @compileJoinClauses_cons joinedTables rest join left right hhead
          rw [hclauses] at h
          obtain rfl | hin := List.mem_cons.1 h
          · refine ⟨join, List.mem_cons_self, left, right, hhead, ?_⟩
            rw [hclause]
            split
            · exact .inr rfl
            · exact .inl rfl
          · exact hlater (ih hin)

end Clauses

/-- **The JOIN clauses are in order** exactly if the joins are listed in an order in which each
brings one new table. -/
theorem introducesInOrder_iff (joins : List JoinSpec) (primaryTable : String) :
    IntroducesInOrder primaryTable joins (compileJoinClauses joins [primaryTable]) ↔
      Orderly [primaryTable] joins := by
  have hsame : ∀ table, table ∈ [primaryTable] ↔ table ∈ [primaryTable] := fun _ => Iff.rfl
  constructor
  · intro h
    refine (introduces_iff hsame).1 (introduces_of_apart ?_ ?_ ?_)
    · refine List.nodup_iff_count_eq_one.2 fun table hin => ?_
      have hdiffers : table ≠ primaryTable := fun hprimary => h.not_again (hprimary ▸ hin)
      exact h.once table (joins_of_introduced hin) hdiffers
    · intro table hin hknown
      exact h.not_again (List.mem_singleton.1 hknown ▸ hin)
    · intro before clause after hsplit table hrefers
      exact (h.meets before clause after hsplit table hrefers).imp_left List.mem_singleton.2
  · intro horderly
    have hintroduces := (introduces_iff hsame).2 horderly
    obtain ⟨hnodup, hapart⟩ := hintroduces.apart
    refine ⟨fun table hjoins hdiffers => ?_, fun hin => ?_, ?_⟩
    · have hnew : table ∉ [primaryTable] := fun hin => hdiffers (List.mem_singleton.1 hin)
      exact List.count_eq_one_of_mem hnodup (introduced_of_orderly hsame horderly hjoins hnew)
    · exact hapart primaryTable hin (List.mem_singleton.2 rfl)
    · intro before clause after hsplit table hrefers
      exact (hintroduces.meets hsplit hrefers).imp_left List.mem_singleton.1

/-- The joins connect all their tables to the primary one. -/
def Connects (joins : List JoinSpec) (primaryTable : String) : Prop :=
  ∀ table, Joins joins table → Relation.ReflTransGen (fun known new =>
    ∃ join ∈ joins, join.tables = some (known, new) ∨ join.tables = some (new, known))
      primaryTable table

def ordersCustomers : JoinSpec where
  left := "orders.customer_id"
  right := "customers.id"
  type := .inner

def customersRegions : JoinSpec where
  left := "customers.region_id"
  right := "regions.id"
  type := .inner

theorem tables_ordersCustomers : ordersCustomers.tables = some ("orders", "customers") := by
  decide

theorem tables_customersRegions : customersRegions.tables = some ("customers", "regions") := by
  decide

/-- Listed the other way round, the customers are introduced by a condition on the regions, and
then once more. -/
theorem regions_first : Connects [customersRegions, ordersCustomers] "orders" ∧
    ¬ IntroducesInOrder "orders" [customersRegions, ordersCustomers]
      (compileJoinClauses [customersRegions, ordersCustomers] ["orders"]) := by
  constructor
  · have hcustomers : Relation.ReflTransGen (fun known new =>
        ∃ join ∈ [customersRegions, ordersCustomers],
          join.tables = some (known, new) ∨ join.tables = some (new, known))
        "orders" "customers" :=
      .single ⟨ordersCustomers, by simp, .inl tables_ordersCustomers⟩
    intro table ⟨join, hjoin, left, right, htables, htable⟩
    obtain rfl | rfl : join = customersRegions ∨ join = ordersCustomers := by simpa using hjoin
    · rw [tables_customersRegions] at htables
      obtain ⟨rfl, rfl⟩ := Prod.mk.inj (Option.some.inj htables)
      obtain rfl | rfl := htable
      · exact hcustomers
      · exact hcustomers.tail ⟨customersRegions, by simp, .inl tables_customersRegions⟩
    · rw [tables_ordersCustomers] at htables
      obtain ⟨rfl, rfl⟩ := Prod.mk.inj (Option.some.inj htables)
      obtain rfl | rfl := htable
      · exact .refl
      · exact hcustomers
  · intro h
    have honce := h.once "customers"
      ⟨ordersCustomers, by simp, _, _, tables_ordersCustomers, .inr rfl⟩ (by decide)
    exact absurd honce (by decide)

end QueryEngine

end Zentra
