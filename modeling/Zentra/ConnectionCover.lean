import Zentra.ModifiedList
import Zentra.RealtimeConnection

/-!
# A client holds its socket, and keeps connected

What the realtime connection should be at every moment, whatever order the calls, the socket
events, the late fetches and the timers come in: closed while it is closed by hand, with at
most one open or connecting socket, the held one, and on its way back once it has been READY.

* `good_step_iff` — one event keeps the clauses exactly then;
* `alwaysGood_iff` — and so does every run.
-/

namespace Zentra.Realtime

open StepTrace
open ModifiedList

/-- A connection is due when as many connects in a row have failed: the client has been READY,
is not closed by hand, and reconnects. -/
def Connection.due (config : ReconnectConfig) (c : Connection) (failures : Nat) : Bool :=
  c.readyOnce && !c.disconnected && config.isEnabled && config.allows failures

/-- A socket is open or connecting, a connect is in progress or a timer is pending. -/
def Connection.Covered (c : Connection) : Prop :=
  (∃ id, c.isLive id = true) ∨ c.stage ≠ .idle ∨ c.timers ≠ []

def Connection.Connected (config : ReconnectConfig) (c : Connection) : Prop :=
  c.due config c.failures = true → c.Covered

structure Good (config : ReconnectConfig) (c : Connection) : Prop where
  closed : c.disconnected = true → ∀ id, c.isLive id = false
  held : ∀ id, c.isLive id = true → c.socket = some id
  connected : c.Connected config

/-- The held socket is live, and it is not this one. -/
def Connection.holdsOther (c : Connection) (id : Nat) : Bool := c.holdsLive && c.socket ≠ some id

/-- A `close` event: that of a ready socket finds no newer one held, and when it schedules no
reconnect, none is due or one is on its way; any other finds the same. -/
def ToleratesClose (config : ReconnectConfig) (c : Connection) (id : Nat) : Prop :=
  if c.isReady id then
    c.holdsOther id = false ∧
      (c.manuallyClosed = true ∨ config.allows c.reconnectAttempts = false →
        c.due config c.failures = true → c.stage ≠ .idle ∨ c.timers ≠ [])
  else if c.handshakes id then
    c.due config (c.failures + 1) = true → c.holdsOther id = true ∨ c.timers ≠ []
  else c.due config c.failures = true →
    c.holdsOther id = true ∨ c.stage ≠ .idle ∨ c.timers ≠ []

/-- **The condition** on one event. -/
def Tolerated (config : ReconnectConfig) (c : Connection) : ConnectionEvent → Prop
  | .connect | .disconnect | .cursorsLoaded | .socketOpen _ | .helloAck _ | .timerFires _ => True
  | .urlResolved => c.disconnected = false
  | .cursorsFailed | .urlFailed => c.due config (c.failures + 1) = true → c.timers ≠ []
  | .helloDone => c.due config 0 = true → c.holdsLive = true ∨ c.timers ≠ []
  | .helloFailed =>
      c.due config (c.failures + 1) = true → c.holdsLive = true ∨ c.timers ≠ []
  | .malformed id =>
      if c.handshakes id then c.due config (c.failures + 1) = true → c.timers ≠ []
      else c.due config c.failures = true → c.stage ≠ .idle ∨ c.timers ≠ []
  | .heartbeatFails => c.due config c.failures = true → c.stage ≠ .idle ∨ c.timers ≠ []
  | .socketClose id => ToleratesClose config c id

instance (config : ReconnectConfig) (c : Connection) (id : Nat) :
    Decidable (ToleratesClose config c id) :=
  inferInstanceAs (Decidable (if c.isReady id = true then _ ∧ _ else if c.handshakes id = true
    then (_ → _) else (_ → _)))

instance (config : ReconnectConfig) (c : Connection) :
    (event : ConnectionEvent) → Decidable (Tolerated config c event)
  | .connect | .disconnect | .cursorsLoaded | .socketOpen _ | .helloAck _ | .timerFires _ =>
      .isTrue trivial
  | .urlResolved => inferInstanceAs (Decidable (c.disconnected = false))
  | .cursorsFailed | .urlFailed | .helloDone | .helloFailed | .heartbeatFails =>
      inferInstanceAs (Decidable (_ → _))
  | .malformed id => inferInstanceAs (Decidable (if c.handshakes id = true then (_ → _) else _))
  | .socketClose id => inferInstanceAs (Decidable (ToleratesClose config c id))

section Live

variable {config : ReconnectConfig} {c t : Connection} {id other : Nat}

theorem live_close (socket : Socket) : socket.close.live = false := by
  unfold Socket.close
  split
  · rfl
  next hlive =>
    simpa using hlive

theorem isLive_closeHeld :
    c.closeHeld.isLive other = (c.isLive other && c.socket ≠ some other) := by
  simp only [Connection.closeHeld, Connection.isLive]
  cases hsocket : c.socket with
  | none => simp
  | some held =>
      simp only [any_modify]
      by_cases hheld : held = other
      · subst hheld
        cases c.sockets[held]? with
        | none => simp
        | some socket => simp [live_close]
      · simp [hheld]

theorem isLive_setReady :
    Connection.isLive { c with sockets := c.sockets.modify id Socket.setReady } other =
      c.isLive other := by
  have hlive : ∀ socket : Socket, socket.setReady.live = socket.live := fun _ => rfl
  exact any_modify_of_eq c.sockets Socket.setReady hlive id other

theorem isLive_finish :
    Connection.isLive { c with sockets := c.sockets.modify id Socket.finish } other =
      (c.isLive other && other ≠ id) := by
  simp only [Connection.isLive, any_modify]
  by_cases hid : id = other
  · subst hid
    cases c.sockets[id]? with
    | none => simp
    | some socket => simp [Socket.live, Socket.finish]
  · simp [hid, Ne.symm hid]

theorem isLive_setOpen
    (hconnecting : c.sockets[id]?.any (fun socket => socket.readyState = .connecting) = true) :
    Connection.isLive { c with sockets := c.sockets.modify id Socket.setOpen } other =
      c.isLive other := by
  simp only [Connection.isLive, any_modify]
  by_cases hid : id = other
  · subst hid
    obtain ⟨socket, hget, hstate⟩ := (Option.any_eq_true _ _).1 hconnecting
    have hconnects : socket.readyState = .connecting := by simpa using hstate
    have hlive : socket.live = true := by simp [Socket.live, hconnects]
    rw [if_pos rfl, hget, Option.any_some, Option.any_some, hlive]
    simp [Socket.live, Socket.setOpen]
  · rw [if_neg hid]

theorem isLive_of_isOpen (h : c.isOpen id = true) : c.isLive id = true := by
  obtain ⟨socket, hget, hstate⟩ := (Option.any_eq_true _ _).1 h
  refine (Option.any_eq_true _ _).2 ⟨socket, hget, ?_⟩
  have hopen : socket.readyState = .opened := by simpa using hstate
  simp [Socket.live, hopen]

theorem isLive_openSocket :
    c.openSocket.isLive other = (c.isLive other || other = c.sockets.length) := by
  simp only [Connection.openSocket, Connection.isLive]
  obtain hless | heq | hmore := Nat.lt_trichotomy other c.sockets.length
  · rw [List.getElem?_append_left hless]
    simp [Nat.ne_of_lt hless]
  · subst heq
    simp [Socket.live]
  · have hne : other ≠ c.sockets.length := by omega
    have hout : c.sockets.length ≤ other := by omega
    have hout' : (c.sockets ++ [(⟨.connecting, false⟩ : Socket)]).length ≤ other := by
      rw [List.length_append, List.length_singleton]
      omega
    simp [List.getElem?_eq_none hout, List.getElem?_eq_none hout', hne]

theorem isLive_congr (h : t.sockets = c.sockets) : t.isLive id = c.isLive id := by
  rw [Connection.isLive, Connection.isLive, h]

@[simp] theorem sockets_connectCall : c.connectCall.sockets = c.sockets := by
  unfold Connection.connectCall
  split
  · rfl
  · split
    · rfl
    · rfl

@[simp] theorem socket_connectCall : c.connectCall.socket = c.socket := by
  unfold Connection.connectCall
  split
  · rfl
  · split
    · rfl
    · rfl

@[simp] theorem disconnected_connectCall : c.connectCall.disconnected = c.disconnected := by
  unfold Connection.connectCall
  split
  · rfl
  · split
    · rfl
    · rfl

/-- After a call of `connect` a socket is live or a connect is in progress. -/
theorem live_or_stage_connectCall :
    (∃ id, c.connectCall.isLive id = true) ∨ c.connectCall.stage ≠ .idle := by
  unfold Connection.connectCall
  split
  next hholds =>
    obtain ⟨id, -, hlive⟩ := (Option.any_eq_true _ _).1 hholds
    exact .inl ⟨id, hlive⟩
  · split
    next hstage =>
      exact .inr hstage
    · exact .inr (by simp)

theorem stage_connectCall : c.connectCall.stage = c.stage ∨ c.holdsLive = false := by
  unfold Connection.connectCall
  split
  · exact .inl rfl
  next hholds =>
    exact .inr (by simpa using hholds)

theorem scheduleReconnect_frame : (c.scheduleReconnect config).sockets = c.sockets ∧
    (c.scheduleReconnect config).socket = c.socket ∧
    (c.scheduleReconnect config).stage = c.stage ∧
    (c.scheduleReconnect config).disconnected = c.disconnected ∧
    (c.scheduleReconnect config).readyOnce = c.readyOnce ∧
    (c.scheduleReconnect config).failures = c.failures := by
  unfold Connection.scheduleReconnect
  split
  · exact ⟨rfl, rfl, rfl, rfl, rfl, rfl⟩
  · split
    · exact ⟨rfl, rfl, rfl, rfl, rfl, rfl⟩
    · exact ⟨rfl, rfl, rfl, rfl, rfl, rfl⟩

theorem timers_scheduleReconnect : (c.scheduleReconnect config).timers =
    if config.isEnabled = true ∧ config.allows c.reconnectAttempts = true then
      c.nextTimer :: c.timers
    else c.timers := by
  unfold Connection.scheduleReconnect
  cases config.isEnabled with
  | false => simp
  | true =>
      cases config.allows c.reconnectAttempts with
      | false => simp
      | true => simp

end Live

/-- What the runs keep. -/
structure Inv (config : ReconnectConfig) (c : Connection) : Prop where
  good : Good config c
  quiet : c.stage = .loadingCursors ∨ c.stage = .resolvingUrl → ∀ id, c.isLive id = false

section Steps

variable {config : ReconnectConfig} {c t : Connection} {id : Nat}

theorem holdsLive_iff (hheld : ∀ id, c.isLive id = true → c.socket = some id) :
    c.holdsLive = true ↔ ∃ id, c.isLive id = true := by
  constructor
  · intro h
    obtain ⟨id, -, hlive⟩ := (Option.any_eq_true _ _).1 h
    exact ⟨id, hlive⟩
  · intro ⟨id, hlive⟩
    exact (Option.any_eq_true _ _).2 ⟨id, hheld id hlive, hlive⟩

/-- The live socket that is not a given one is the held one. -/
theorem holdsOther_iff (hheld : ∀ id, c.isLive id = true → c.socket = some id) :
    c.holdsOther id = true ↔ ∃ other, other ≠ id ∧ c.isLive other = true := by
  simp only [Connection.holdsOther, Bool.and_eq_true, decide_eq_true_eq]
  rw [holdsLive_iff hheld]
  constructor
  · intro ⟨⟨other, hlive⟩, hne⟩
    refine ⟨other, fun heq => hne ?_, hlive⟩
    rw [← heq]
    exact hheld other hlive
  · intro ⟨other, hne, hlive⟩
    refine ⟨⟨other, hlive⟩, fun heq => hne ?_⟩
    exact Option.some.inj ((hheld other hlive).symm.trans heq)

theorem covered_of_idle (hstage : t.stage = .idle) :
    t.Covered ↔ (∃ id, t.isLive id = true) ∨ t.timers ≠ [] := by
  simp [Connection.Covered, hstage]

theorem Inv.good_iff (hinv : Inv config c) (t : Connection)
    (hlive : ∀ id, t.isLive id = true → c.isLive id = true) (hsocket : t.socket = c.socket)
    (hdisconnected : t.disconnected = true → c.disconnected = true) :
    Good config t ↔ t.Connected config := by
  refine ⟨Good.connected, fun hconnected => ⟨?_, ?_, hconnected⟩⟩
  · intro hclosed other
    have hnone := hinv.good.closed (hdisconnected hclosed) other
    refine Bool.eq_false_iff.2 fun hother => ?_
    rw [hlive other hother] at hnone
    cases hnone
  · intro other hother
    rw [hsocket]
    exact hinv.good.held other (hlive other hother)

theorem good_iff_of_none_live (t : Connection) (hlive : ∀ id, t.isLive id = false) :
    Good config t ↔ t.Connected config := by
  refine ⟨Good.connected, fun hconnected => ⟨fun _ => hlive, ?_, hconnected⟩⟩
  intro other hother
  rw [hlive other] at hother
  cases hother

theorem Inv.quiet_of (hinv : Inv config c)
    (hstage : t.stage = .loadingCursors ∨ t.stage = .resolvingUrl →
      c.stage = .loadingCursors ∨ c.stage = .resolvingUrl)
    (hlive : ∀ id, t.isLive id = true → c.isLive id = true) :
    t.stage = .loadingCursors ∨ t.stage = .resolvingUrl → ∀ id, t.isLive id = false := by
  intro hloading other
  have hnone := hinv.quiet (hstage hloading) other
  refine Bool.eq_false_iff.2 fun hother => ?_
  rw [hlive other hother] at hnone
  cases hnone

theorem none_live_closeHeld (hheld : ∀ id, c.isLive id = true → c.socket = some id)
    (other : Nat) : c.closeHeld.isLive other = false := by
  rw [isLive_closeHeld]
  cases hlive : c.isLive other with
  | false => rfl
  | true => simp [hheld other hlive]

theorem good_connect (hinv : Inv config c) :
    Good config { c.connectCall with disconnected := false } := by
  refine ⟨fun hclosed => ?_, ?_, fun _ => ?_⟩
  · cases hclosed
  · intro other hlive
    have hbefore : c.isLive other = true := by
      rw [← isLive_congr sockets_connectCall]
      exact hlive
    exact socket_connectCall.trans (hinv.good.held other hbefore)
  · obtain hlive | hstage := live_or_stage_connectCall (c := c)
    · exact .inl hlive
    · exact .inr (.inl hstage)

theorem good_timerFires (hinv : Inv config c) : Good config (c.timerFires id) := by
  have hlive (other : Nat) : (c.timerFires id).isLive other = c.isLive other :=
    isLive_congr sockets_connectCall
  refine (hinv.good_iff (c.timerFires id) (fun other h => ?_) socket_connectCall fun h => ?_).2 fun _ => ?_
  · rw [← hlive other]
    exact h
  · rw [Connection.timerFires, disconnected_connectCall] at h
    exact h
  · obtain hthere | hstage := live_or_stage_connectCall
      (c := { c with timers := c.timers.erase id, reconnectTimer := none })
    · exact .inl hthere
    · exact .inr (.inl hstage)

theorem good_disconnect (hinv : Inv config c) : Good config c.disconnect := by
  have hnone (other : Nat) : c.disconnect.isLive other = false :=
    none_live_closeHeld (c := c.clearReconnectTimer) hinv.good.held other
  refine (good_iff_of_none_live c.disconnect hnone).2 fun hdue => ?_
  simp [Connection.due, Connection.disconnect] at hdue

theorem good_openSocket_iff (hinv : Inv config c) (hstage : c.stage = .resolvingUrl) :
    Good config c.openSocket ↔ c.disconnected = false := by
  have hnone := hinv.quiet (.inr hstage)
  have hnew : c.openSocket.isLive c.sockets.length = true := by simp [isLive_openSocket]
  constructor
  · intro hgood
    refine Bool.eq_false_iff.2 fun hclosed => ?_
    rw [hgood.closed hclosed] at hnew
    cases hnew
  · intro hopen
    refine ⟨fun hclosed => ?_, ?_, fun _ => .inl ⟨_, hnew⟩⟩
    · have hclosed : c.disconnected = true := hclosed
      rw [hopen] at hclosed
      cases hclosed
    · intro other hlive
      rw [isLive_openSocket, hnone other] at hlive
      have heq : other = c.sockets.length := by simpa using hlive
      rw [heq]
      rfl

theorem good_handleOpen (hinv : Inv config c)
    (hconnecting : c.sockets[id]?.any (fun socket => socket.readyState = .connecting) = true) :
    Good config (c.handleOpen id) := by
  have hlive (other : Nat) : (c.handleOpen id).isLive other = c.isLive other := by
    rw [← isLive_setOpen hconnecting, Connection.handleOpen]
    split
    · rfl
    · rfl
  have hsocket : (c.handleOpen id).socket = c.socket := by
    rw [Connection.handleOpen]
    split
    · rfl
    · rfl
  have hdisconnected : (c.handleOpen id).disconnected = c.disconnected := by
    rw [Connection.handleOpen]
    split
    · rfl
    · rfl
  have hthis : c.isLive id = true := by
    obtain ⟨socket, hget, hstate⟩ := (Option.any_eq_true _ _).1 hconnecting
    refine (Option.any_eq_true _ _).2 ⟨socket, hget, ?_⟩
    have hconnects : socket.readyState = .connecting := by simpa using hstate
    simp [Socket.live, hconnects]
  refine (hinv.good_iff (c.handleOpen id) (fun other h => ?_) hsocket fun h => ?_).2 fun _ => ?_
  · rw [← hlive other]
    exact h
  · exact hdisconnected.symm.trans h
  · exact .inl ⟨id, (hlive id).trans hthis⟩

theorem good_helloAck (hinv : Inv config c) (hlistens : c.listens id = true) :
    Good config (c.handleHelloAck id) := by
  have hopen : c.isOpen id = true := (Bool.and_eq_true_iff.1 hlistens).1
  refine (hinv.good_iff (c.handleHelloAck id) (fun _ h => h) rfl fun h => h).2 fun _ => ?_
  exact .inl ⟨id, isLive_of_isOpen hopen⟩

/-- **A connect that fails** leaves a socket or a timer, or nothing is due. -/
theorem good_rejectConnect_iff (hinv : Inv config c) :
    Good config c.rejectConnect ↔
      (c.due config (c.failures + 1) = true → c.holdsLive = true ∨ c.timers ≠ []) := by
  rw [hinv.good_iff c.rejectConnect (fun _ h => h) rfl fun h => h, Connection.Connected,
    covered_of_idle rfl, holdsLive_iff hinv.good.held]
  rfl

theorem good_resolveConnect_iff (hinv : Inv config c) :
    Good config (c.resolveConnect id) ↔
      (c.due config 0 = true → c.holdsLive = true ∨ c.timers ≠ []) := by
  have hlive (other : Nat) : (c.resolveConnect id).isLive other = c.isLive other := isLive_setReady
  rw [hinv.good_iff (c.resolveConnect id) (fun other h => (hlive other).symm.trans h) rfl
    fun h => h, Connection.Connected, covered_of_idle rfl, holdsLive_iff hinv.good.held]
  simp only [hlive]
  rfl

theorem good_closeHeld_iff (hinv : Inv config c) :
    Good config c.closeHeld ↔
      (c.due config c.failures = true → c.stage ≠ .idle ∨ c.timers ≠ []) := by
  have hnone := none_live_closeHeld hinv.good.held
  rw [good_iff_of_none_live c.closeHeld hnone, Connection.Connected, Connection.Covered]
  simp only [hnone, Bool.false_eq_true, exists_false, false_or]
  rfl

theorem good_closeHeld_rejectConnect_iff (hinv : Inv config c) :
    Good config c.closeHeld.rejectConnect ↔
      (c.due config (c.failures + 1) = true → c.timers ≠ []) := by
  have hnone (other : Nat) : c.closeHeld.rejectConnect.isLive other = false :=
    none_live_closeHeld hinv.good.held other
  rw [good_iff_of_none_live c.closeHeld.rejectConnect hnone, Connection.Connected,
    covered_of_idle rfl]
  simp only [hnone, Bool.false_eq_true, exists_false, false_or]
  rfl

theorem exists_live_finish (id : Nat)
    (hheld : ∀ id, c.isLive id = true → c.socket = some id) :
    (∃ other, Connection.isLive { c with sockets := c.sockets.modify id Socket.finish } other =
      true) ↔ c.holdsOther id = true := by
  rw [holdsOther_iff hheld]
  refine exists_congr fun other => ?_
  rw [isLive_finish, Bool.and_eq_true, decide_eq_true_eq, and_comm]

theorem handleClose_ready (config : ReconnectConfig) (hready : c.isReady id = true) :
    (c.handleClose id config).sockets = c.sockets.modify id Socket.finish ∧
      (c.handleClose id config).socket = none ∧
      (c.handleClose id config).stage = c.stage ∧
      (c.handleClose id config).disconnected = c.disconnected ∧
      (c.handleClose id config).readyOnce = c.readyOnce ∧
      (c.handleClose id config).failures = c.failures ∧
      (c.handleClose id config).timers =
        if c.manuallyClosed = false ∧ config.isEnabled = true ∧
            config.allows c.reconnectAttempts = true then
          c.nextTimer :: c.timers
        else c.timers := by
  simp only [Connection.handleClose, hready, if_true]
  cases hclosed : c.manuallyClosed with
  | true => simp
  | false =>
      simp only [Bool.false_eq_true, if_false, true_and]
      exact ⟨scheduleReconnect_frame.1, scheduleReconnect_frame.2.1, scheduleReconnect_frame.2.2.1,
        scheduleReconnect_frame.2.2.2.1, scheduleReconnect_frame.2.2.2.2.1,
        scheduleReconnect_frame.2.2.2.2.2, timers_scheduleReconnect⟩

/-- The client is connected after the `close` event of a ready socket when no other was live and
a reconnect is scheduled, or none is due, or one is on its way. -/
theorem connected_handleClose_ready (hready : c.isReady id = true)
    (hnone : ∀ other, (c.handleClose id config).isLive other = false) :
    (c.handleClose id config).Connected config ↔
      (c.manuallyClosed = true ∨ config.allows c.reconnectAttempts = false →
        c.due config c.failures = true → c.stage ≠ .idle ∨ c.timers ≠ []) := by
  obtain ⟨-, -, hstage, hdisconnected, honce, hfailures, htimers⟩ :=
    handleClose_ready config hready
  have hdue : (c.handleClose id config).due config (c.handleClose id config).failures =
      c.due config c.failures := by
    rw [Connection.due, Connection.due, hdisconnected, honce, hfailures]
  unfold Connection.Connected Connection.Covered
  simp only [hnone, Bool.false_eq_true, exists_false, false_or, hdue, hstage, htimers]
  cases hdue : c.due config c.failures with
  | false => simp
  | true =>
      have henabled : config.isEnabled = true := by
        simp only [Connection.due, Bool.and_eq_true] at hdue
        exact hdue.1.2
      cases c.manuallyClosed with
      | true => simp
      | false =>
          cases config.allows c.reconnectAttempts with
          | false => simp
          | true => simp [henabled]

/-- **The `close` event of a socket.** -/
theorem good_handleClose_iff (hinv : Inv config c) :
    Good config (c.handleClose id config) ↔ ToleratesClose config c id := by
  have hlive := exists_live_finish id hinv.good.held
  have hfewer (other : Nat)
      (h : Connection.isLive { c with sockets := c.sockets.modify id Socket.finish } other =
        true) : c.isLive other = true := by
    rw [isLive_finish] at h
    exact (Bool.and_eq_true_iff.1 h).1
  unfold ToleratesClose
  split
  next hready =>
    obtain ⟨hsockets, hsocket, -, hdisconnected, -⟩ :=
      handleClose_ready config hready
    have hsame (other : Nat) : (c.handleClose id config).isLive other =
        Connection.isLive { c with sockets := c.sockets.modify id Socket.finish } other :=
      isLive_congr hsockets
    constructor
    · intro hgood
      have hnone (other : Nat) : (c.handleClose id config).isLive other = false := by
        refine Bool.eq_false_iff.2 fun hother => ?_
        have hheld := hgood.held other hother
        rw [hsocket] at hheld
        cases hheld
      refine ⟨Bool.eq_false_iff.2 fun hholds => ?_, ?_⟩
      · obtain ⟨other, hother⟩ := hlive.2 hholds
        rw [← hsame, hnone other] at hother
        cases hother
      · exact (connected_handleClose_ready hready hnone).1 hgood.connected
    · intro ⟨hholds, hcover⟩
      have hnone (other : Nat) : (c.handleClose id config).isLive other = false := by
        rw [hsame]
        refine Bool.eq_false_iff.2 fun hother => ?_
        rw [hlive.1 ⟨other, hother⟩] at hholds
        cases hholds
      exact (good_iff_of_none_live _ hnone).2 ((connected_handleClose_ready hready hnone).2 hcover)
  next hready =>
    split
    next hhandshakes =>
      have hclose : c.handleClose id config = Connection.rejectConnect
          { c with sockets := c.sockets.modify id Socket.finish } := by
        simp only [Connection.handleClose, hready, hhandshakes, if_true, Bool.false_eq_true,
          if_false]
      rw [hclose, hinv.good_iff (Connection.rejectConnect
          { c with sockets := c.sockets.modify id Socket.finish }) hfewer rfl fun h => h,
        Connection.Connected, covered_of_idle rfl, ← hlive]
      rfl
    next hhandshakes =>
      have hclose : c.handleClose id config =
          { c with sockets := c.sockets.modify id Socket.finish } := by
        simp only [Connection.handleClose, hready, hhandshakes, Bool.false_eq_true, if_false]
      rw [hclose, hinv.good_iff _ hfewer rfl fun h => h, Connection.Connected,
        Connection.Covered, hlive]
      rfl

theorem quiet_connectCall (hheld : ∀ id, c.isLive id = true → c.socket = some id)
    (hquiet : c.stage = .loadingCursors ∨ c.stage = .resolvingUrl → ∀ id, c.isLive id = false)
    (hloading : c.connectCall.stage = .loadingCursors ∨ c.connectCall.stage = .resolvingUrl)
    (other : Nat) : c.connectCall.isLive other = false := by
  rw [isLive_congr sockets_connectCall]
  obtain hstage | hnone := stage_connectCall (c := c)
  · rw [hstage] at hloading
    exact hquiet hloading other
  · refine Bool.eq_false_iff.2 fun hother => ?_
    rw [(holdsLive_iff hheld).2 ⟨other, hother⟩] at hnone
    cases hnone

theorem quiet_handleClose (hinv : Inv config c) :
    (c.handleClose id config).stage = .loadingCursors ∨
      (c.handleClose id config).stage = .resolvingUrl →
      ∀ other, (c.handleClose id config).isLive other = false := by
  have hsockets : (c.handleClose id config).sockets = c.sockets.modify id Socket.finish := by
    by_cases hready : c.isReady id = true
    · exact (handleClose_ready config hready).1
    · rw [Connection.handleClose]
      split
      · contradiction
      · split
        · rfl
        · rfl
  have hstage : (c.handleClose id config).stage = c.stage ∨
      (c.handleClose id config).stage = .idle := by
    by_cases hready : c.isReady id = true
    · exact .inl (handleClose_ready config hready).2.2.1
    · rw [Connection.handleClose]
      split
      · contradiction
      · split
        · exact .inr rfl
        · exact .inl rfl
  refine hinv.quiet_of (fun hloading => ?_) fun other hother => ?_
  · obtain hsame | hidle := hstage
    · rwa [hsame] at hloading
    · simp [hidle] at hloading
  · have hfinish := (isLive_congr (c := { c with sockets := c.sockets.modify id Socket.finish })
      hsockets).symm.trans hother
    rw [isLive_finish] at hfinish
    exact (Bool.and_eq_true_iff.1 hfinish).1

theorem quiet_step (hinv : Inv config c) {event : ConnectionEvent}
    (hstep : connectionStep config c event = some t) :
    t.stage = .loadingCursors ∨ t.stage = .resolvingUrl → ∀ id, t.isLive id = false := by
  cases event with
  | connect =>
      obtain rfl := Option.some.inj hstep
      exact quiet_connectCall hinv.good.held hinv.quiet
  | disconnect =>
      obtain rfl := Option.some.inj hstep
      intro _
      exact none_live_closeHeld (c := c.clearReconnectTimer) hinv.good.held
  | cursorsLoaded =>
      obtain ⟨hstage, rfl⟩ := by simpa [connectionStep] using hstep
      exact fun _ => hinv.quiet (.inl hstage)
  | cursorsFailed | urlFailed =>
      obtain ⟨-, rfl⟩ := by simpa [connectionStep] using hstep
      simp [Connection.rejectConnect]
  | urlResolved =>
      obtain ⟨-, rfl⟩ := by simpa [connectionStep] using hstep
      simp [Connection.openSocket]
  | socketOpen id =>
      unfold connectionStep at hstep
      dsimp only at hstep
      split at hstep
      next hconnecting =>
        obtain rfl := Option.some.inj hstep
        refine hinv.quiet_of (fun hloading => ?_) fun other hother => ?_
        · unfold Connection.handleOpen at hloading
          split at hloading
          · simp at hloading
          · exact hloading
        · rw [← isLive_setOpen hconnecting, ← hother]
          unfold Connection.handleOpen
          split
          · rfl
          · rfl
      · cases hstep
  | helloAck id =>
      obtain ⟨-, rfl⟩ := by simpa [connectionStep] using hstep
      refine hinv.quiet_of (fun hloading => ?_) fun _ h => h
      unfold Connection.handleHelloAck at hloading
      dsimp only at hloading
      split at hloading
      · simp at hloading
      · exact hloading
  | helloDone | helloFailed =>
      unfold connectionStep at hstep
      dsimp only at hstep
      split at hstep
      all_goals cases hstep
      all_goals simp [Connection.resolveConnect, Connection.rejectConnect]
  | malformed id =>
      obtain ⟨-, rfl⟩ := by simpa [connectionStep] using hstep
      unfold Connection.handleMalformed
      split
      · simp [Connection.rejectConnect]
      · exact fun _ => none_live_closeHeld hinv.good.held
  | heartbeatFails =>
      obtain ⟨-, rfl⟩ := by simpa [connectionStep] using hstep
      exact fun _ => none_live_closeHeld hinv.good.held
  | socketClose id =>
      unfold connectionStep at hstep
      dsimp only at hstep
      split at hstep
      · obtain rfl := Option.some.inj hstep
        exact quiet_handleClose hinv
      · cases hstep
  | timerFires timer =>
      obtain ⟨-, rfl⟩ := by simpa [connectionStep] using hstep
      exact quiet_connectCall
        (c := { c with timers := c.timers.erase timer, reconnectTimer := none })
        hinv.good.held hinv.quiet

/-- **One event** keeps the three clauses exactly when it is tolerated. -/
theorem good_step_iff (hinv : Inv config c) {event : ConnectionEvent}
    (hstep : connectionStep config c event = some t) :
    Good config t ↔ Tolerated config c event := by
  cases event with
  | connect =>
      obtain rfl := Option.some.inj hstep
      exact iff_of_true (good_connect hinv) trivial
  | disconnect =>
      obtain rfl := Option.some.inj hstep
      exact iff_of_true (good_disconnect hinv) trivial
  | cursorsLoaded =>
      obtain ⟨hstage, rfl⟩ := by simpa [connectionStep] using hstep
      refine iff_of_true ?_ trivial
      refine (hinv.good_iff { c with stage := .resolvingUrl } (fun _ h => h) rfl
        fun h => h).2 fun _ => ?_
      exact .inr (.inl (by simp))
  | cursorsFailed | urlFailed =>
      obtain ⟨hstage, rfl⟩ := by simpa [connectionStep] using hstep
      have hnone := hinv.quiet (by simp [hstage])
      have hholds : c.holdsLive = false := by
        refine Bool.eq_false_iff.2 fun hholds => ?_
        obtain ⟨other, hother⟩ := (holdsLive_iff hinv.good.held).1 hholds
        rw [hnone other] at hother
        cases hother
      rw [good_rejectConnect_iff hinv, hholds]
      simp [Tolerated]
  | urlResolved =>
      obtain ⟨hstage, rfl⟩ := by simpa [connectionStep] using hstep
      exact good_openSocket_iff hinv hstage
  | socketOpen id =>
      unfold connectionStep at hstep
      dsimp only at hstep
      split at hstep
      next hconnecting =>
        obtain rfl := Option.some.inj hstep
        exact iff_of_true (good_handleOpen hinv hconnecting) trivial
      · cases hstep
  | helloAck id =>
      obtain ⟨hlistens, rfl⟩ := by simpa [connectionStep] using hstep
      exact iff_of_true (good_helloAck hinv hlistens) trivial
  | helloDone =>
      unfold connectionStep at hstep
      dsimp only at hstep
      split at hstep
      · obtain rfl := Option.some.inj hstep
        exact good_resolveConnect_iff hinv
      · cases hstep
  | helloFailed =>
      unfold connectionStep at hstep
      dsimp only at hstep
      split at hstep
      · obtain rfl := Option.some.inj hstep
        exact good_rejectConnect_iff hinv
      · obtain rfl := Option.some.inj hstep
        exact good_rejectConnect_iff hinv
      · cases hstep
  | malformed id =>
      obtain ⟨-, rfl⟩ := by simpa [connectionStep] using hstep
      unfold Tolerated Connection.handleMalformed
      dsimp only
      split
      · exact good_closeHeld_rejectConnect_iff hinv
      · exact good_closeHeld_iff hinv
  | heartbeatFails =>
      obtain ⟨-, rfl⟩ := by simpa [connectionStep] using hstep
      exact good_closeHeld_iff hinv
  | socketClose id =>
      unfold connectionStep at hstep
      dsimp only at hstep
      split at hstep
      · obtain rfl := Option.some.inj hstep
        exact good_handleClose_iff hinv
      · cases hstep
  | timerFires timer =>
      obtain ⟨-, rfl⟩ := by simpa [connectionStep] using hstep
      exact iff_of_true (good_timerFires hinv) trivial

end Steps

theorem inv_start (config : ReconnectConfig) : Inv config .start := by
  have hnone (id : Nat) : Connection.start.isLive id = false := rfl
  refine ⟨⟨fun _ => hnone, ?_, ?_⟩, fun _ => hnone⟩
  · intro id hlive
    rw [hnone id] at hlive
    cases hlive
  · intro hdue
    cases hdue

/-- **Connectedness.**  In every run, the client is closed while it is closed by hand, has at
most the held socket open or connecting, and is connected or on its way back when it is due, at
every moment, exactly if every event is tolerated in the state it comes in. -/
theorem alwaysGood_iff (config : ReconnectConfig) (events : List ConnectionEvent)
    (t : Connection) (hrun : run (connectionStep config) .start events = some t) :
    Always (connectionStep config) (Good config) .start events ↔
      Allowed (connectionStep config) (Tolerated config) .start events := by
  refine always_iff_allowed (Inv config) (fun _ hinv => hinv.good) ?_ ?_ events .start t
    (inv_start config) hrun
  · intro s event u hinv htolerated hstep
    exact ⟨(good_step_iff hinv hstep).2 htolerated, quiet_step hinv hstep⟩
  · intro s event u hinv hstep hgood
    exact (good_step_iff hinv hstep).1 hgood

def defaultReconnect : ReconnectConfig := ⟨none, none⟩

def lostAndMade : List ConnectionEvent :=
  [.connect, .cursorsLoaded, .urlResolved, .socketOpen 0, .helloAck 0, .helloDone, .socketClose 0,
    .timerFires 0, .cursorsLoaded, .urlResolved]

theorem lostAndMade_good :
    Always (connectionStep defaultReconnect) (Good defaultReconnect) .start lostAndMade := by
  refine (alwaysGood_iff defaultReconnect lostAndMade _ (Option.some_get (by decide :
    (run (connectionStep defaultReconnect) .start lostAndMade).isSome = true)).symm).2 ?_
  decide +kernel

/-- The ticket comes after `disconnect`. -/
def lateTicket : List ConnectionEvent := [.connect, .cursorsLoaded, .disconnect, .urlResolved]

/-- A socket is opened for a client that is closed by hand. -/
theorem lateTicket_opens :
    ¬ Always (connectionStep defaultReconnect) (Good defaultReconnect) .start lateTicket := by
  intro halways
  obtain ⟨t, hexec, hclosed, hlive⟩ : ∃ t, Exec (connectionStep defaultReconnect) .start
      lateTicket t ∧ t.disconnected = true ∧ t.isLive 0 = true := exists_exec (by decide +kernel)
  have hdead := (halways.last hexec).closed hclosed 0
  rw [hlive] at hdead
  cases hdead

end Zentra.Realtime
