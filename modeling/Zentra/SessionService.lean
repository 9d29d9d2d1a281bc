import Mathlib.Logic.Function.Basic
import Zentra.StepTrace

/-!
# The session of a user

A call of the session service asks the server and writes the session when the answer arrives,
whatever has been decided in between.

* `Orderly` — the answers that do not come upon such a decision;
* `follows_of_orderly` — in a run of such steps the session follows the last decision.
-/

open StepTrace

namespace Zentra

namespace SessionService

/-- `SESSION_STATE`. -/
inductive SessionState
  | active
  | refreshing
  | stale
  | expired
  | invalid
  deriving DecidableEq, Repr

/-- `AuthSession`: the session of the server, and its state here. -/
structure AuthSession (ι : Type) where
  session : ι
  state : SessionState

inductive Request
  /-- `toSession` of `checkSession`, which `initialize` may have called -/
  | check (initializing : Bool)
  /-- `toSession` of `refresh` -/
  | refresh
  /-- `createBrowserLogoutFlow` -/
  | logoutFlow
  /-- `updateLogoutFlow` -/
  | logoutToken
  deriving DecidableEq, Repr

/-- A request in flight, and whether a logout or a disposal has completed since it was sent. -/
structure InFlight where
  request : Request
  overtaken : Bool := false
  deriving DecidableEq, Repr

/-- How `toSession` ends: with a session, with one that is not active, with status 401 or 403,
with an error of the network, or with another error. -/
inductive Answer (ι : Type)
  | active (session : ι)
  | inactive
  | unauthorized
  | network
  | failed

/-- How a request of `logout` ends: the window is sent to an address, there is a token, there
is neither, or it fails. -/
inductive LogoutAnswer
  | redirect
  | token
  | done
  | failed
  deriving DecidableEq, Repr

/-- The service, with the requests that are in flight. -/
structure Service (ι : Type) where
  session : Option (AuthSession ι) := none
  disposed : Bool := false
  /-- `refreshInterval` is there, and runs -/
  refreshInterval : Bool := false
  /-- the intervals that run on although another one is kept, or none -/
  strayIntervals : Nat := 0
  requests : Nat → Option InFlight := fun _ => none
  /-- the answer to an overtaken request has made a session where there was none -/
  revived : Bool := false

inductive Event (ι : Type)
  /-- `initialize` -/
  | init (id : Nat)
  | checkSession (id : Nat)
  | refresh (id : Nat)
  /-- an interval calls `refresh` -/
  | timer (id : Nat)
  | logout (id : Nat)
  | dispose
  | answered (id : Nat) (answer : Answer ι)
  | logoutAnswered (id : Nat) (answer : LogoutAnswer)

section Steps

variable {ι : Type} (autoRefreshSession : Bool) (s : Service ι)

def Service.Ticking : Prop := s.refreshInterval = true ∨ 0 < s.strayIntervals

instance : Decidable s.Ticking := inferInstanceAs (Decidable (_ ∨ _))

def send (id : Nat) (request : Request) : Option (Service ι) :=
  if (s.requests id).isNone then
    some { s with requests := Function.update s.requests id (some ⟨request, false⟩) }
  else none

/-- The start of `refresh`. -/
def startRefresh (id : Nat) : Option (Service ι) :=
  send { s with session := s.session.map fun a => { a with state := .refreshing } } id .refresh

/-- `startAutoRefresh`; an interval that is kept already is not stopped. -/
def startAutoRefresh : Service ι :=
  { s with
    refreshInterval := true
    strayIntervals := s.strayIntervals + if s.refreshInterval then 1 else 0 }

/-- The rest of `checkSession`, and of `initialize`. -/
def checked (initializing : Bool) : Answer ι → Service ι
  | .active session =>
      let s := { s with session := some ⟨session, .active⟩ }
      if initializing && autoRefreshSession then startAutoRefresh s else s
  | .inactive | .unauthorized => { s with session := none }
  | .network | .failed => s

/-- The rest of `refresh`. -/
def refreshed : Answer ι → Service ι
  | .active session => { s with session := some ⟨session, .active⟩ }
  | .inactive | .unauthorized => { s with session := none }
  | .network => { s with session := s.session.map fun a => { a with state := .stale } }
  | .failed => s

/-- A logout or a disposal completes. -/
def overtake : Service ι :=
  { s with requests := fun id => (s.requests id).map fun r => { r with overtaken := true } }

/-- The rest of a call that waits for `toSession`. -/
def received (request : Request) (answer : Answer ι) : Option (Service ι) :=
  match request with
  | .check initializing => some (checked autoRefreshSession s initializing answer)
  | .refresh => some (refreshed s answer)
  | _ => none

/-- The answer to a request has come. -/
def answered (id : Nat) (answer : Answer ι) : Option (Service ι) :=
  (s.requests id).bind fun r =>
    (received autoRefreshSession s r.request answer).map fun t =>
      { t with
        requests := Function.update s.requests id none
        revived := s.revived || (r.overtaken && s.session.isNone && t.session.isSome) }

/-- The rest of `logout`. -/
def logoutAnswered (id : Nat) (answer : LogoutAnswer) : Option (Service ι) :=
  let landed := { s with requests := Function.update s.requests id none }
  match s.requests id, answer with
  | some ⟨.logoutFlow, _⟩, .redirect => some (overtake landed)
  | some ⟨.logoutFlow, overtaken⟩, .token =>
      some { s with requests := Function.update s.requests id (some ⟨.logoutToken, overtaken⟩) }
  | some ⟨.logoutFlow, _⟩, _ => some (overtake { landed with session := none })
  | some ⟨.logoutToken, _⟩, .done | some ⟨.logoutToken, _⟩, .failed =>
      some (overtake { landed with session := none })
  | _, _ => none

/-- One step; a call of a disposed service throws. -/
def step : Event ι → Option (Service ι)
  | .init id => if s.disposed then some s else send s id (.check true)
  | .checkSession id => if s.disposed then some s else send s id (.check false)
  | .refresh id => if s.disposed then some s else startRefresh s id
  | .timer id =>
      if ¬ s.Ticking then none else if s.disposed then some s else startRefresh s id
  | .logout id =>
      if s.disposed then some s else send { s with refreshInterval := false } id .logoutFlow
  | .dispose =>
      if s.disposed then some s
      else some (overtake { s with disposed := true, refreshInterval := false, session := none })
  | .answered id answer => answered autoRefreshSession s id answer
  | .logoutAnswered id answer => logoutAnswered s id answer

end Steps

section Decisions

variable {ι : Type} (s : Service ι)

/-- No overtaken request has made a session, and when all is at rest, the session is not being
refreshed and no interval runs without a session. -/
structure Follows : Prop where
  notRevived : s.revived = false
  atRest : (∀ id, s.requests id = none) →
    (∀ a ∈ s.session, a.state ≠ .refreshing) ∧ (s.session = none → ¬ s.Ticking)

/-- The step does not come upon a decision: an overtaken request brings no session where there
is none; what ends a session finds no interval that it does not stop; and an error that
`refresh` does not know leaves another refresh in flight while the session is refreshing. -/
def Orderly : Event ι → Prop
  | .answered id (.active _) => ∀ r ∈ s.requests id, r.overtaken = true → s.session ≠ none
  | .answered _ .inactive | .answered _ .unauthorized => ¬ s.Ticking
  | .answered id .failed => (∃ r ∈ s.requests id, r.request = .refresh) →
      (∃ a ∈ s.session, a.state = .refreshing) →
      ∃ other ≠ id, ∃ r ∈ s.requests other, r.request = .refresh
  | .logoutAnswered _ .done | .logoutAnswered _ .failed => ¬ s.Ticking
  | .dispose => s.disposed = true ∨ s.strayIntervals = 0
  | _ => True

/-- While the session is refreshing, a refresh is in flight, and no interval runs without a
session. -/
structure Inv : Prop where
  notRevived : s.revived = false
  refreshing : (∃ a ∈ s.session, a.state = .refreshing) →
    ∃ id, ∃ r ∈ s.requests id, r.request = .refresh
  quiet : s.session = none → ¬ s.Ticking

variable {s} {t : Service ι} {autoRefreshSession : Bool}

theorem Inv.follows (h : Inv s) : Follows s := by
  refine ⟨h.notRevived, fun hrest => ⟨fun a ha hstate => ?_, h.quiet⟩⟩
  obtain ⟨id, r, hr, -⟩ := h.refreshing ⟨a, ha, hstate⟩
  rw [hrest id] at hr
  cases hr

theorem send_eq_some {id : Nat} {request : Request} (h : send s id request = some t) :
    s.requests id = none ∧
      t = { s with requests := Function.update s.requests id (some ⟨request, false⟩) } := by
  unfold send at h
  split at h
  next hfree => exact ⟨Option.isNone_iff_eq_none.1 hfree, (Option.some.inj h).symm⟩
  · cases h

theorem Inv.send (h : Inv s) {id : Nat} {request : Request}
    (hsend : SessionService.send s id request = some t) : Inv t := by
  obtain ⟨hfree, rfl⟩ := send_eq_some hsend
  refine ⟨h.notRevived, fun hstate => ?_, h.quiet⟩
  obtain ⟨other, r, hr, hrefresh⟩ := h.refreshing hstate
  have hne : other ≠ id := fun heq => by
    rw [heq, hfree] at hr
    cases hr
  exact ⟨other, r, (Function.update_of_ne hne _ _).trans hr, hrefresh⟩

theorem Inv.startRefresh (h : Inv s) {id : Nat}
    (hsend : SessionService.startRefresh s id = some t) : Inv t := by
  obtain ⟨-, rfl⟩ := send_eq_some hsend
  refine ⟨h.notRevived, fun _ => ⟨id, _, Function.update_self .., rfl⟩, fun hnone => ?_⟩
  exact h.quiet (Option.map_eq_none_iff.1 hnone)

/-- A logout or a disposal that clears the session, when no interval goes on. -/
theorem Inv.cleared (h : Inv s) (hsession : t.session = none) (hquiet : ¬ t.Ticking)
    (hrevived : t.revived = s.revived) : Inv t :=
  ⟨hrevived.trans h.notRevived, fun hstate => by simp [hsession] at hstate, fun _ => hquiet⟩

/-- An answer has come: what it leaves of the session needs another refresh in flight if it is
refreshing. -/
theorem Inv.landed (h : Inv s) {u : Service ι} {id : Nat} {r : InFlight}
    (hrevived : r.overtaken = true → s.session = none → u.session = none)
    (hrefreshing : (∃ a ∈ u.session, a.state = .refreshing) →
      ∃ other ≠ id, ∃ r ∈ s.requests other, r.request = .refresh)
    (hquiet : u.session = none → ¬ u.Ticking) :
    Inv { u with
      requests := Function.update s.requests id none
      revived := s.revived || (r.overtaken && s.session.isNone && u.session.isSome) } := by
  refine ⟨?_, fun hstate => ?_, hquiet⟩
  · simpa [h.notRevived, Option.ne_none_iff_isSome] using hrevived
  · obtain ⟨other, hne, r, hr, hrefresh⟩ := hrefreshing hstate
    exact ⟨other, r, (Function.update_of_ne hne _ _).trans hr, hrefresh⟩

theorem Inv.answered (h : Inv s) {id : Nat} {answer : Answer ι}
    (horderly : Orderly s (.answered id answer))
    (hstep : SessionService.answered autoRefreshSession s id answer = some t) : Inv t := by
  obtain ⟨r, hr, hstep⟩ := Option.bind_eq_some_iff.1 hstep
  obtain ⟨u, hreceived, rfl⟩ := Option.map_eq_some_iff.1 hstep
  have hunchanged (hcheck : r.request ≠ .refresh) : Inv { s with
      requests := Function.update s.requests id none
      revived := s.revived || (r.overtaken && s.session.isNone && s.session.isSome) } := by
    refine h.landed (fun _ hnone => hnone) (fun hstate => ?_) h.quiet
    obtain ⟨other, r', hr', hrefresh⟩ := h.refreshing hstate
    refine ⟨other, fun heq => hcheck ?_, r', hr', hrefresh⟩
    rw [heq, hr] at hr'
    cases hr'
    exact hrefresh
  have hended (hquiet : ¬ s.Ticking) : Inv { s with
      session := none
      requests := Function.update s.requests id none
      revived := s.revived || (r.overtaken && s.session.isNone && false) } :=
    h.landed (u := { s with session := none }) (fun _ _ => rfl) (fun hstate => by simp at hstate)
      fun _ => hquiet
  unfold received at hreceived
  cases hrequest : r.request with
  | check initializing =>
      rw [hrequest] at hreceived
      cases hreceived
      cases answer with
      | active session =>
          have hsession : (checked autoRefreshSession s initializing (.active session)).session =
              some ⟨session, .active⟩ := by
            dsimp only [checked]
            split <;> rfl
          refine h.landed (fun hover hnone => (horderly r hr hover hnone).elim) (fun hstate => ?_)
            fun hnone => ?_
          · simp [hsession] at hstate
          · rw [hsession] at hnone
            cases hnone
      | inactive => exact hended horderly
      | unauthorized => exact hended horderly
      | network => exact hunchanged (by simp [hrequest])
      | failed => exact hunchanged (by simp [hrequest])
  | refresh =>
      rw [hrequest] at hreceived
      cases hreceived
      cases answer with
      | active session =>
          refine h.landed (fun hover hnone => (horderly r hr hover hnone).elim) (fun hstate => ?_)
            fun hnone => by cases hnone
          simp [refreshed] at hstate
      | inactive => exact hended horderly
      | unauthorized => exact hended horderly
      | network =>
          refine h.landed (fun _ hnone => by simp [refreshed, hnone]) (fun hstate => ?_)
            fun hnone => h.quiet (Option.map_eq_none_iff.1 hnone)
          simp [refreshed] at hstate
      | failed =>
          exact h.landed (fun _ hnone => hnone) (fun hstate => horderly ⟨r, hr, hrequest⟩ hstate)
            h.quiet
  | logoutFlow | logoutToken =>
      rw [hrequest] at hreceived
      cases hreceived

theorem Inv.logoutAnswered (h : Inv s) {id : Nat} {answer : LogoutAnswer}
    (horderly : Orderly s (.logoutAnswered id answer))
    (hstep : SessionService.logoutAnswered s id answer = some t) : Inv t := by
  have hkept {flow : Option InFlight} (hflow : ∀ r ∈ s.requests id, r.request ≠ .refresh)
      (hstate : ∃ a ∈ s.session, a.state = .refreshing) :
      ∃ other, ∃ r ∈ Function.update s.requests id flow other, r.request = .refresh := by
    obtain ⟨other, r, hr, hrefresh⟩ := h.refreshing hstate
    have hne : other ≠ id := fun heq => hflow r (heq ▸ hr) hrefresh
    exact ⟨other, r, (Function.update_of_ne hne _ _).trans hr, hrefresh⟩
  have hends : answer = .redirect ∨ answer = .token ∨ ¬ s.Ticking := by
    cases answer with
    | redirect => exact .inl rfl
    | token => exact .inr (.inl rfl)
    | done | failed => exact .inr (.inr horderly)
  unfold SessionService.logoutAnswered at hstep
  dsimp only at hstep
  split at hstep
  next overtaken hr =>
    cases hstep
    refine ⟨h.notRevived, fun hstate => ?_, h.quiet⟩
    obtain ⟨other, r, hr', hrefresh⟩ := @hkept none (by simp [hr]) hstate
    exact ⟨other, _, congrArg (Option.map _) hr', hrefresh⟩
  next overtaken hr =>
    cases hstep
    exact ⟨h.notRevived, hkept (by simp [hr]), h.quiet⟩
  next overtaken _ hredirect htoken =>
    cases hstep
    exact h.cleared rfl ((hends.resolve_left hredirect).resolve_left htoken) rfl
  · cases hstep
    exact h.cleared rfl horderly rfl
  · cases hstep
    exact h.cleared rfl horderly rfl
  · cases hstep

theorem Inv.step (h : Inv s) {event : Event ι} (horderly : Orderly s event)
    (hstep : SessionService.step autoRefreshSession s event = some t) : Inv t := by
  have hcall {next : Option (Service ι)} (hnext : ∀ t, next = some t → Inv t)
      (hcase : (if s.disposed then some s else next) = some t) : Inv t := by
    split at hcase
    · cases hcase
      exact h
    · exact hnext t hcase
  cases event with
  | init id => exact hcall (fun _ => h.send) hstep
  | checkSession id => exact hcall (fun _ => h.send) hstep
  | refresh id => exact hcall (fun _ => h.startRefresh) hstep
  | timer id =>
      rw [SessionService.step] at hstep
      split at hstep
      · cases hstep
      · exact hcall (fun _ => h.startRefresh) hstep
  | logout id =>
      have hstopped : Inv { s with refreshInterval := false } :=
        ⟨h.notRevived, h.refreshing, fun hnone hticking => h.quiet hnone (hticking.imp_left nofun)⟩
      exact hcall (fun _ => hstopped.send) hstep
  | dispose =>
      rw [SessionService.step] at hstep
      split at hstep
      · cases hstep
        exact h
      next hdisposed =>
        cases hstep
        have hstray : s.strayIntervals = 0 := horderly.resolve_left hdisposed
        exact h.cleared rfl (by simp [Service.Ticking, overtake, hstray]) rfl
  | answered id answer => exact h.answered horderly hstep
  | logoutAnswered id answer => exact h.logoutAnswered horderly hstep

variable (autoRefreshSession) in
/-- **The session follows the last decision** in a run whose answers come orderly. -/
theorem follows_of_orderly (events : List (Event ι))
    (h : Allowed (SessionService.step autoRefreshSession) Orderly {} events) :
    Always (SessionService.step autoRefreshSession) Follows {} events :=
  always_of_allowed Inv (fun _ => Inv.follows) (fun _ _ _ hinv => hinv.step) events {}
    ⟨rfl, fun hstate => by simp at hstate, fun _ => by simp [Service.Ticking]⟩ h

end Decisions

/-- A session is found, refreshed by the interval, and ended by a logout with a token. -/
def loggedOut : List (Event Nat) :=
  [.init 0, .answered 0 (.active 5), .timer 1, .answered 1 (.active 6), .logout 2,
    .logoutAnswered 2 .token, .logoutAnswered 2 .done]

theorem loggedOut_follows : Always (step true) Follows {} loggedOut := by
  refine follows_of_orderly true loggedOut ?_
  simp [loggedOut, Allowed, step, send, startRefresh, answered, received, checked, refreshed,
    startAutoRefresh, logoutAnswered, overtake, Service.Ticking, Orderly, Function.update_self]

/-- **A logout is overtaken** by the answer to a check that was sent before it. -/
theorem lateAnswer_revives : ∃ s : Service Nat,
    run (step true) {} [.checkSession 0, .logout 1, .logoutAnswered 1 .done,
      .answered 0 (.active 5)] = some s ∧
    s.session = some ⟨5, .active⟩ ∧ s.revived = true ∧ ¬ Follows s :=
  ⟨_, rfl, rfl, rfl, fun h => by cases h.notRevived⟩

end SessionService

end Zentra
