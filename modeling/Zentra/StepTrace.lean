/-!
# Executions of a partial step function

A system is given by a step function `step : σ → α → Option σ`: from a state, an
action either is not enabled (`none`) or leads to the next state.  Any number of
parties may take the actions; an execution is one interleaving of them, written
as the list of actions in the order in which they happened.

* `Exec step s as t` — the actions `as`, taken from `s`, end in `t`;
* `Exec.invariant` — what the start satisfies and every step keeps holds at the
  end of every execution;
* `Exec.history` — the same for a relation between the past actions and the
  state, for properties that speak of what was done;
* `always_iff_allowed` — when a step breaks a property exactly if it violates a
  condition, the property holds along a whole execution exactly if all of its
  steps meet the condition;
* `stays_iff_allowed` — the same for a relation between the ends of every stretch of an
  execution: what holds once holds from then on;
* `respects_iff_allowed` — the same for a relation between the ends of every step.
-/

namespace StepTrace

variable {σ α : Type} {step : σ → α → Option σ}

/-- `Exec step s as t`: taking the actions `as` one after the other from `s`
ends in `t`. -/
inductive Exec (step : σ → α → Option σ) (s : σ) : List α → σ → Prop
  | nil : Exec step s [] s
  | snoc {as : List α} {a : α} {t u : σ} :
      Exec step s as t → step t a = some u → Exec step s (as ++ [a]) u

/-- Run a list of actions, stopping with `none` at one that is not enabled. -/
def run (step : σ → α → Option σ) : σ → List α → Option σ
  | s, [] => some s
  | s, a :: as =>
      match step s a with
      | some t => run step t as
      | none => none

theorem Exec.cons {s t u : σ} {a : α} {as : List α}
    (hstep : step s a = some t) (hrest : Exec step t as u) :
    Exec step s (a :: as) u := by
  induction hrest with
  | nil => simpa using Exec.snoc Exec.nil hstep
  | snoc _ hlast ih => simpa using Exec.snoc ih hlast

theorem Exec.append {s t u : σ} {as bs : List α} (h : Exec step s as t)
    (hrest : Exec step t bs u) : Exec step s (as ++ bs) u := by
  induction hrest with
  | nil => simpa using h
  | snoc _ hlast ih => simpa using Exec.snoc ih hlast

theorem exec_of_run {as : List α} {s t : σ} (h : run step s as = some t) :
    Exec step s as t := by
  induction as generalizing s with
  | nil =>
      cases h
      exact Exec.nil
  | cons a as ih =>
      cases hs : step s a with
      | none => simp [run, hs] at h
      | some u =>
          have hrest : run step u as = some t := by simpa [run, hs] using h
          exact Exec.cons hs (ih hrest)

/-- What `run` computes is an execution to a state with a property. -/
theorem exists_exec {p : σ → Prop} [DecidablePred p] {as : List α} {s : σ}
    (h : (run step s as).any (fun t => decide (p t)) = true) :
    ∃ t, Exec step s as t ∧ p t := by
  cases hrun : run step s as with
  | none => simp [hrun] at h
  | some t => exact ⟨t, exec_of_run hrun, by simpa [hrun] using h⟩

theorem run_snoc {as : List α} {a : α} {s t u : σ} (h : run step s as = some t)
    (hlast : step t a = some u) : run step s (as ++ [a]) = some u := by
  induction as generalizing s with
  | nil =>
      cases h
      simp [run, hlast]
  | cons b as ih =>
      cases hs : step s b with
      | none => simp [run, hs] at h
      | some v =>
          have hrest : run step v as = some t := by simpa [run, hs] using h
          simpa [run, hs] using ih hrest

theorem Exec.run_eq {as : List α} {s t : σ} (h : Exec step s as t) :
    run step s as = some t := by
  induction h with
  | nil => rfl
  | snoc _ hlast ih => exact run_snoc ih hlast

/-- **Invariant rule.**  A property of the start that every enabled step keeps
holds at the end of every execution. -/
theorem Exec.invariant {s t : σ} {as : List α} (inv : σ → Prop)
    (hstart : inv s)
    (hkeep : ∀ t a u, inv t → step t a = some u → inv u)
    (h : Exec step s as t) : inv t := by
  induction h with
  | nil => exact hstart
  | snoc _ hlast ih => exact hkeep _ _ _ ih hlast

/-- **History rule.**  The invariant may also speak of the actions taken so
far. -/
theorem Exec.history {s t : σ} {as : List α} (inv : List α → σ → Prop)
    (hstart : inv [] s)
    (hkeep : ∀ past t a u, Exec step s past t → inv past t →
      step t a = some u → inv (past ++ [a]) u)
    (h : Exec step s as t) : inv as t := by
  induction h with
  | nil => exact hstart
  | snoc hbefore hlast ih => exact hkeep _ _ _ _ hbefore ih hlast

/-- Somewhere along the actions, one is taken in a state where `p` holds of
both. -/
def Happened (step : σ → α → Option σ) (p : σ → α → Prop) (s : σ)
    (as : List α) : Prop :=
  ∃ before a after t, as = before ++ a :: after ∧ Exec step s before t ∧ p t a

theorem not_happened_nil {p : σ → α → Prop} {s : σ} : ¬ Happened step p s [] := by
  rintro ⟨before, a, after, t, has, -, -⟩
  simp at has

/-- What happened along an execution and one more action happened before, or
with that action. -/
theorem happened_snoc {p : σ → α → Prop} {s t : σ} {as : List α} {a : α}
    (h : Exec step s as t) :
    Happened step p s (as ++ [a]) ↔ Happened step p s as ∨ p t a := by
  constructor
  · rintro ⟨before, b, after, u, has, hbefore, hp⟩
    rcases List.eq_nil_or_concat after with rfl | ⟨after, c, rfl⟩
    · obtain ⟨rfl, hab⟩ := List.append_inj' has rfl
      obtain rfl := List.cons.inj hab |>.1
      have hut : u = t :=
        Option.some.inj (hbefore.run_eq.symm.trans h.run_eq)
      exact .inr (hut ▸ hp)
    · have hsplit : as ++ [a] = (before ++ b :: after) ++ [c] := by
        simpa [List.append_assoc] using has
      exact .inl ⟨before, b, after, u, (List.append_inj' hsplit rfl).1, hbefore, hp⟩
  · rintro (⟨before, b, after, u, rfl, hbefore, hp⟩ | hp)
    · exact ⟨before, b, after ++ [a], u, by simp, hbefore, hp⟩
    · exact ⟨as, a, [], t, rfl, h, hp⟩

/-- The property `good` holds in every state that the actions visit. -/
def Always (step : σ → α → Option σ) (good : σ → Prop) : σ → List α → Prop
  | s, [] => good s
  | s, a :: as => good s ∧ ∀ t, step s a = some t → Always step good t as

/-- Every step of the actions is taken in a state where `cond` allows it. -/
def Allowed (step : σ → α → Option σ) (cond : σ → α → Prop) : σ → List α → Prop
  | _, [] => True
  | s, a :: as => cond s a ∧ ∀ t, step s a = some t → Allowed step cond t as

theorem Always.head {good : σ → Prop} {s : σ} {as : List α}
    (h : Always step good s as) : good s := by
  cases as with
  | nil => exact h
  | cons a as => exact h.1

theorem Always.last {good : σ → Prop} {s t : σ} {as : List α}
    (h : Always step good s as) (hexec : Exec step s as t) : good t := by
  have hrun := hexec.run_eq
  clear hexec
  induction as generalizing s with
  | nil =>
      cases hrun
      exact h
  | cons a as ih =>
      cases hs : step s a with
      | none => simp [run, hs] at hrun
      | some u =>
          have hrest : run step u as = some t := by simpa [run, hs] using hrun
          exact ih (h.2 u hs) hrest

theorem allowed_of_forall {cond : σ → α → Prop} {as : List α}
    (h : ∀ a ∈ as, ∀ s, cond s a) (s : σ) : Allowed step cond s as := by
  induction as generalizing s with
  | nil => trivial
  | cons a as ih =>
      refine ⟨h a List.mem_cons_self s, fun t _ => ?_⟩
      exact ih (fun b hb => h b (List.mem_cons_of_mem a hb)) t

/-- One more action is allowed in the state it is taken in. -/
theorem allowed_snoc {cond : σ → α → Prop} {as : List α} {a : α} {s t : σ}
    (h : run step s as = some t) :
    Allowed step cond s (as ++ [a]) ↔ Allowed step cond s as ∧ cond t a := by
  induction as generalizing s with
  | nil =>
      cases h
      simp [Allowed]
  | cons b as ih =>
      cases hs : step s b with
      | none => simp [run, hs] at h
      | some u =>
          have hrest : run step u as = some t := by simpa [run, hs] using h
          simp only [List.cons_append, Allowed, hs, Option.some.injEq, forall_eq',
            ih hrest, and_assoc]

theorem Allowed.at_step {cond : σ → α → Prop} {before rest : List α} {a : α} {s t : σ}
    (h : Allowed step cond s (before ++ a :: rest)) (hexec : Exec step s before t) :
    cond t a := by
  have hrun := hexec.run_eq
  clear hexec
  induction before generalizing s with
  | nil =>
      cases hrun
      exact h.1
  | cons b before ih =>
      cases hs : step s b with
      | none => simp [run, hs] at hrun
      | some u =>
          have hrest : run step u before = some t := by simpa [run, hs] using hrun
          exact ih (h.2 u hs) hrest

/-- Whether all steps are allowed can be computed. -/
instance decidableAllowed {cond : σ → α → Prop} [∀ s a, Decidable (cond s a)] :
    ∀ (as : List α) (s : σ), Decidable (Allowed step cond s as)
  | [], _ => .isTrue trivial
  | a :: as, s =>
      match hs : step s a with
      | none => decidable_of_iff (cond s a) (by simp [Allowed, hs])
      | some u =>
          have : Decidable (Allowed step cond u as) := decidableAllowed as u
          decidable_of_iff (cond s a ∧ Allowed step cond u as) (by simp [Allowed, hs])

/-- Conditions that agree at every step agree along every execution. -/
theorem allowed_congr {p q : σ → α → Prop} (h : ∀ s a, p s a ↔ q s a) {as : List α}
    (s : σ) : Allowed step p s as ↔ Allowed step q s as := by
  induction as generalizing s with
  | nil => exact Iff.rfl
  | cons a as ih => exact and_congr (h s a) (forall₂_congr fun t _ => ih t)

theorem Allowed.and_forall {cond : σ → α → Prop} {p : α → Prop} {s : σ}
    {as : List α} (h : Allowed step cond s as) (hp : ∀ a ∈ as, p a) :
    Allowed step (fun s a => cond s a ∧ p a) s as := by
  induction as generalizing s with
  | nil => trivial
  | cons a as ih =>
      refine ⟨⟨h.1, hp a List.mem_cons_self⟩, fun t hstep => ?_⟩
      exact ih (h.2 t hstep) fun b hb => hp b (List.mem_cons_of_mem a hb)

/-- **Conditional invariant rule.**  If allowed steps keep an invariant that
implies the property, the property holds in every state of every execution
whose steps are all allowed. -/
theorem always_of_allowed (inv : σ → Prop) {good : σ → Prop}
    {cond : σ → α → Prop}
    (hgood : ∀ s, inv s → good s)
    (hkeep : ∀ s a t, inv s → cond s a → step s a = some t → inv t) :
    ∀ (as : List α) (s : σ), inv s → Allowed step cond s as →
      Always step good s as := by
  intro as
  induction as with
  | nil => exact fun s hinv _ => hgood s hinv
  | cons a as ih =>
      intro s hinv hallowed
      refine ⟨hgood s hinv, fun t hstep => ?_⟩
      exact ih t (hkeep s a t hinv hallowed.1 hstep) (hallowed.2 t hstep)

/-- **Exact conditional rule.**  If moreover a step that is not allowed breaks
the property at once, the executions along which the property holds are exactly
those whose steps are all allowed. -/
theorem always_iff_allowed (inv : σ → Prop) {good : σ → Prop}
    {cond : σ → α → Prop}
    (hgood : ∀ s, inv s → good s)
    (hkeep : ∀ s a t, inv s → cond s a → step s a = some t → inv t)
    (hexact : ∀ s a t, inv s → step s a = some t → good t → cond s a) :
    ∀ (as : List α) (s t : σ), inv s → run step s as = some t →
      (Always step good s as ↔ Allowed step cond s as) := by
  intro as
  induction as with
  | nil => exact fun s _ hinv _ => ⟨fun _ => trivial, fun _ => hgood s hinv⟩
  | cons a as ih =>
      intro s t hinv hrun
      refine ⟨fun halways => ?_,
        always_of_allowed inv hgood hkeep (a :: as) s hinv⟩
      cases hs : step s a with
      | none => simp [run, hs] at hrun
      | some u =>
          have hrest : run step u as = some t := by simpa [run, hs] using hrun
          have hafter : Always step good u as := halways.2 u hs
          have hcond : cond s a := hexact s a u hinv hs hafter.head
          refine ⟨hcond, fun v hv => ?_⟩
          have huv : u = v := Option.some.inj (hs.symm.trans hv)
          subst huv
          exact (ih u t (hkeep s a u hinv hcond hs) hrest).1 hafter

/-- The relation `keeps` holds between the ends of every stretch of the actions. -/
def Stays (step : σ → α → Option σ) (keeps : σ → σ → Prop) (s : σ) (as : List α) : Prop :=
  ∀ before middle rest t u, as = before ++ middle ++ rest → Exec step s before t →
    Exec step t middle u → keeps t u

theorem Stays.tail {keeps : σ → σ → Prop} {s t : σ} {a : α} {as : List α}
    (h : Stays step keeps s (a :: as)) (hstep : step s a = some t) :
    Stays step keeps t as := by
  intro before middle rest u v has hbefore hmiddle
  refine h (a :: before) middle rest u v ?_ (hbefore.cons hstep) hmiddle
  rw [has]
  rfl

/-- What the first action of an allowed execution leads to. -/
theorem Allowed.after {cond : σ → α → Prop} {before rest : List α} {s t : σ}
    (h : Allowed step cond s (before ++ rest)) (hexec : Exec step s before t) :
    Allowed step cond t rest := by
  have hrun := hexec.run_eq
  clear hexec
  induction before generalizing s with
  | nil =>
      cases hrun
      exact h
  | cons b before ih =>
      cases hs : step s b with
      | none => simp [run, hs] at hrun
      | some u =>
          have hrest : run step u before = some t := by simpa [run, hs] using hrun
          exact ih (h.2 u hs) hrest

theorem Allowed.before {cond : σ → α → Prop} {before rest : List α} {s : σ}
    (h : Allowed step cond s (before ++ rest)) : Allowed step cond s before := by
  induction before generalizing s with
  | nil => trivial
  | cons b before ih => exact ⟨h.1, fun t hstep => ih (h.2 t hstep)⟩

/-- Allowed steps that keep an invariant, and a reflexive and transitive relation where it
holds, keep both over an allowed execution. -/
theorem Exec.keeps_of_allowed {inv : σ → Prop} {keeps : σ → σ → Prop}
    {cond : σ → α → Prop} (hrefl : ∀ s, keeps s s)
    (htrans : ∀ s t u, keeps s t → keeps t u → keeps s u)
    (hkeep : ∀ s a t, inv s → cond s a → step s a = some t → inv t ∧ keeps s t)
    {s t : σ} {as : List α} (hinv : inv s) (hallowed : Allowed step cond s as)
    (h : Exec step s as t) : inv t ∧ keeps s t := by
  have hrun := h.run_eq
  clear h
  induction as generalizing s with
  | nil =>
      cases hrun
      exact ⟨hinv, hrefl _⟩
  | cons a as ih =>
      cases hs : step s a with
      | none => simp [run, hs] at hrun
      | some u =>
          have hrest : run step u as = some t := by simpa [run, hs] using hrun
          obtain ⟨hinvu, hfirst⟩ := hkeep s a u hinv hallowed.1 hs
          obtain ⟨hinvt, hlast⟩ := ih hinvu (hallowed.2 u hs) hrest
          exact ⟨hinvt, htrans s u t hfirst hlast⟩

/-- **Exact rule for what stays.**  If a step keeps the relation exactly when it is
allowed, the relation holds over every stretch of exactly the executions whose steps are
all allowed. -/
theorem stays_iff_allowed (inv : σ → Prop) {keeps : σ → σ → Prop} {cond : σ → α → Prop}
    (hrefl : ∀ s, keeps s s) (htrans : ∀ s t u, keeps s t → keeps t u → keeps s u)
    (hkeep : ∀ s a t, inv s → cond s a → step s a = some t → inv t ∧ keeps s t)
    (hexact : ∀ s a t, inv s → step s a = some t → keeps s t → cond s a)
    (as : List α) (s t : σ) (hinv : inv s) (hrun : run step s as = some t) :
    Stays step keeps s as ↔ Allowed step cond s as := by
  constructor
  · intro hstays
    induction as generalizing s with
    | nil => trivial
    | cons a as ih =>
        cases hs : step s a with
        | none => simp [run, hs] at hrun
        | some u =>
            have hrest : run step u as = some t := by simpa [run, hs] using hrun
            have hfirst : keeps s u :=
              hstays [] [a] as s u rfl Exec.nil (Exec.cons hs Exec.nil)
            have hcond := hexact s a u hinv hs hfirst
            have hinvu := (hkeep s a u hinv hcond hs).1
            refine ⟨hcond, fun v hv => ?_⟩
            obtain rfl : u = v := Option.some.inj (hs.symm.trans hv)
            exact ih u hinvu hrest (hstays.tail hs)
  · intro hallowed before middle rest u v has hbefore hmiddle
    subst has
    rw [List.append_assoc] at hallowed
    have hinvu := (hbefore.keeps_of_allowed hrefl htrans hkeep hinv hallowed.before).1
    have hafter := hallowed.after hbefore
    exact (hmiddle.keeps_of_allowed hrefl htrans hkeep hinvu hafter.before).2

/-- Every step of the actions does what is asked of it. -/
def Respects (step : σ → α → Option σ) (good : σ → α → σ → Prop) : σ → List α → Prop :=
  Allowed step fun s a => ∀ t, step s a = some t → good s a t

/-- **Rule for steps.**  If a step that is allowed keeps an invariant and does what is asked,
then so do all steps of an execution whose steps are all allowed. -/
theorem respects_of_allowed (inv : σ → Prop) {good : σ → α → σ → Prop} {cond : σ → α → Prop}
    (hkeep : ∀ s a t, inv s → cond s a → step s a = some t → inv t ∧ good s a t)
    (as : List α) (s : σ) (hinv : inv s) (hallowed : Allowed step cond s as) :
    Respects step good s as := by
  induction as generalizing s with
  | nil => trivial
  | cons a as ih =>
      refine ⟨fun t hstep => ?_, fun t hstep => ?_⟩
      · exact (hkeep s a t hinv hallowed.1 hstep).2
      · exact ih t (hkeep s a t hinv hallowed.1 hstep).1 (hallowed.2 t hstep)

/-- **Exact rule for steps.**  If moreover a step that does what is asked is allowed, then the
executions whose steps all do are those whose steps are all allowed. -/
theorem respects_iff_allowed (inv : σ → Prop) {good : σ → α → σ → Prop} {cond : σ → α → Prop}
    (hkeep : ∀ s a t, inv s → cond s a → step s a = some t → inv t ∧ good s a t)
    (hexact : ∀ s a t, inv s → step s a = some t → good s a t → cond s a)
    (as : List α) (s t : σ) (hinv : inv s) (hrun : run step s as = some t) :
    Respects step good s as ↔ Allowed step cond s as := by
  refine ⟨fun hgood => ?_, respects_of_allowed inv hkeep as s hinv⟩
  induction as generalizing s with
  | nil => trivial
  | cons a as ih =>
      cases hs : step s a with
      | none => simp [run, hs] at hrun
      | some u =>
          have hrest : run step u as = some t := by simpa [run, hs] using hrun
          have hcond := hexact s a u hinv hs (hgood.1 u hs)
          have hinvu := (hkeep s a u hinv hcond hs).1
          refine ⟨hcond, fun v hv => ?_⟩
          obtain rfl : u = v := Option.some.inj (hs.symm.trans hv)
          exact ih u hinvu hrest (hgood.2 u hs)

end StepTrace
