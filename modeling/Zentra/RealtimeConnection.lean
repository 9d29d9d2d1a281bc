import Zentra.StepTrace

/-!
# The realtime connection of a client

How `RealtimeSocketClient` opens, watches and reopens its WebSocket
(`libs/foundation/data-layer/src/realtime/socket-client.ts`).  One event is one turn of the
event loop: a call of `connect` or `disconnect`, an awaited fetch that comes back, an event of
one of the sockets, or a timer that fires.

* `connectCall`, `disconnect`, `scheduleReconnect`, `handleProtocolError` — the methods;
* `step` — one event, in any order in which they can come.

A promise that settles runs what waits for it in the same step, so that a connect that ends
clears `activeConnectPromise` at once.  A browser fires `error` and `close` of a failed
connection in one task, one step here.
-/

namespace Zentra.Realtime

/-- `closing`: CLOSING, or CLOSED with the `close` event still to come; `closed`: it has
come. -/
inductive ReadyState
  | connecting
  | opened
  | closing
  | closed
  deriving DecidableEq, Repr

/-- A socket, with `ready` from `attachReadySocketListeners` on. -/
structure Socket where
  readyState : ReadyState
  ready : Bool
  deriving DecidableEq, Repr

def Socket.live (socket : Socket) : Bool :=
  socket.readyState = .connecting ∨ socket.readyState = .opened

/-- `close()` -/
def Socket.close (socket : Socket) : Socket :=
  if socket.live then { socket with readyState := .closing } else socket

/-- The `close` event has been fired. -/
def Socket.finish (socket : Socket) : Socket := { socket with readyState := .closed }

def Socket.setOpen (socket : Socket) : Socket := { socket with readyState := .opened }

def Socket.setReady (socket : Socket) : Socket := { socket with ready := true }

/-- What the handshake of a socket waits for: its `open` event, the answer to the hello, or
what comes after a HELLO_ACK. -/
inductive Phase
  | opening
  | greeting
  | greeted
  deriving DecidableEq, Repr

/-- How far `doConnect` has come: `idle` is `activeConnectPromise = null`. -/
inductive Stage
  | idle
  | loadingCursors
  | resolvingUrl
  | handshaking (id : Nat) (phase : Phase)
  deriving DecidableEq, Repr

/-- `RealtimeSocketReconnectConfig`, without the delays -/
structure ReconnectConfig where
  enabled : Option Bool
  maxAttempts : Option Nat
  deriving DecidableEq, Repr

def ReconnectConfig.isEnabled (config : ReconnectConfig) : Bool := config.enabled ≠ some false

/-- Fewer than `maxAttempts ?? Infinity`. -/
def ReconnectConfig.allows (config : ReconnectConfig) (attempts : Nat) : Bool :=
  config.maxAttempts.all fun maxAttempts => attempts < maxAttempts

/-- The fields of the client, the timers that are pending, and three things that it does not
keep: whether it is closed by hand (`disconnect`, and no `connect` of the application since),
whether it has ever been READY, and how many connects in a row have failed. -/
structure Connection where
  sockets : List Socket
  socket : Option Nat
  manuallyClosed : Bool
  stage : Stage
  reconnectAttempts : Nat
  reconnectTimer : Option Nat
  timers : List Nat
  nextTimer : Nat
  disconnected : Bool
  readyOnce : Bool
  failures : Nat
  deriving DecidableEq, Repr

def Connection.start : Connection where
  sockets := []
  socket := none
  manuallyClosed := false
  stage := .idle
  reconnectAttempts := 0
  reconnectTimer := none
  timers := []
  nextTimer := 0
  disconnected := false
  readyOnce := false
  failures := 0

namespace Connection

variable (c : Connection) (id : Nat)

/-- The socket is open or connecting. -/
def isLive : Bool := c.sockets[id]?.any Socket.live

def isOpen : Bool := c.sockets[id]?.any fun socket => socket.readyState = .opened

def isReady : Bool := c.sockets[id]?.any Socket.ready

/-- The held socket is open: `sendWithAck` and `sendFireAndForget` do not throw. -/
def holdsOpen : Bool := c.socket.any c.isOpen

def holdsLive : Bool := c.socket.any c.isLive

/-- The handshake listeners are attached to the socket. -/
def handshakes : Bool :=
  match c.stage with
  | .handshaking other _ => other = id
  | _ => false

/-- Some listener gets the messages of the socket. -/
def listens : Bool := c.isOpen id && (c.isReady id || c.handshakes id)

/-- `connect()`, whoever calls it. -/
def connectCall : Connection :=
  if c.holdsLive then c
  else if c.stage ≠ .idle then c
  else { c with manuallyClosed := false, stage := .loadingCursors }

/-- `this.socket?.close()` -/
def closeHeld : Connection :=
  { c with
    sockets := match c.socket with
      | none => c.sockets
      | some id => c.sockets.modify id Socket.close }

def clearReconnectTimer : Connection :=
  { c with
    timers := match c.reconnectTimer with
      | none => c.timers
      | some timer => c.timers.erase timer
    reconnectTimer := none }

def disconnect : Connection :=
  { c.clearReconnectTimer.closeHeld with
    manuallyClosed := true
    socket := none
    disconnected := true }

/-- An earlier timer is neither disposed nor remembered. -/
def scheduleReconnect (config : ReconnectConfig) : Connection :=
  if !config.isEnabled then c
  else if !config.allows c.reconnectAttempts then c
  else
    { c with
      reconnectAttempts := c.reconnectAttempts + 1
      reconnectTimer := some c.nextTimer
      timers := c.nextTimer :: c.timers
      nextTimer := c.nextTimer + 1 }

/-- What `doConnect` throws rejects the connect; nothing is scheduled. -/
def rejectConnect : Connection := { c with stage := .idle, failures := c.failures + 1 }

/-- `handleProtocolError` -/
def handleProtocolError : Connection := c.closeHeld

/-- `new WebSocket(url, protocols)`, with the handshake listeners. -/
def openSocket : Connection :=
  { c with
    sockets := c.sockets ++ [⟨.connecting, false⟩]
    socket := some c.sockets.length
    stage := .handshaking c.sockets.length .opening }

/-- `handleOpen` of the handshake; without listeners the socket opens unnoticed. -/
def handleOpen : Connection :=
  let opened := { c with sockets := c.sockets.modify id Socket.setOpen }
  if c.stage = .handshaking id .opening then
    { opened with reconnectAttempts := 0, stage := .handshaking id .greeting }
  else opened

/-- A HELLO_ACK makes the client READY, and answers the hello when one waits. -/
def handleHelloAck : Connection :=
  { c with
    readyOnce := true
    stage := if c.stage = .handshaking id .greeting then .handshaking id .greeted else c.stage }

/-- `attachReadySocketListeners`, and the connect is resolved. -/
def resolveConnect : Connection :=
  { c with sockets := c.sockets.modify id Socket.setReady, stage := .idle, failures := 0 }

/-- The `close` event of a socket, and the `error` event with it. -/
def handleClose (config : ReconnectConfig) : Connection :=
  let closed := { c with sockets := c.sockets.modify id Socket.finish }
  if c.isReady id then
    let released := { closed with socket := none }
    if released.manuallyClosed then released else released.scheduleReconnect config
  else if c.handshakes id then closed.rejectConnect
  else closed

/-- A message that cannot be parsed comes in over the socket. -/
def handleMalformed : Connection :=
  if c.handshakes id then c.handleProtocolError.rejectConnect else c.handleProtocolError

def timerFires : Connection :=
  connectCall { c with timers := c.timers.erase id, reconnectTimer := none }

end Connection

/-- `cursorsFailed` and `urlFailed`: the storage, the ticket or the URL; `helloFailed`: the
hello or a subscription is refused, times out or cannot be sent; `heartbeatFails`: a PING or
the server's silence times out. -/
inductive ConnectionEvent
  | connect
  | disconnect
  | cursorsLoaded
  | cursorsFailed
  | urlResolved
  | urlFailed
  | socketOpen (id : Nat)
  | helloAck (id : Nat)
  | helloDone
  | helloFailed
  | malformed (id : Nat)
  | heartbeatFails
  | socketClose (id : Nat)
  | timerFires (timer : Nat)
  deriving DecidableEq, Repr

/-- One event, `none` when it cannot come. -/
def connectionStep (config : ReconnectConfig) (c : Connection) :
    ConnectionEvent → Option Connection
  | .connect => some { c.connectCall with disconnected := false }
  | .disconnect => some c.disconnect
  | .cursorsLoaded =>
      if c.stage = .loadingCursors then some { c with stage := .resolvingUrl } else none
  | .cursorsFailed => if c.stage = .loadingCursors then some c.rejectConnect else none
  | .urlResolved => if c.stage = .resolvingUrl then some c.openSocket else none
  | .urlFailed => if c.stage = .resolvingUrl then some c.rejectConnect else none
  | .socketOpen id =>
      if c.sockets[id]?.any fun socket => socket.readyState = .connecting then
        some (c.handleOpen id)
      else none
  | .helloAck id => if c.listens id then some (c.handleHelloAck id) else none
  | .helloDone =>
      match c.stage with
      | .handshaking id .greeted => some (c.resolveConnect id)
      | _ => none
  | .helloFailed =>
      match c.stage with
      | .handshaking _ .greeting | .handshaking _ .greeted => some c.rejectConnect
      | _ => none
  | .malformed id => if c.listens id then some (c.handleMalformed id) else none
  | .heartbeatFails => if c.readyOnce then some c.handleProtocolError else none
  | .socketClose id =>
      if c.sockets[id]?.any fun socket => socket.readyState ≠ .closed then
        some (c.handleClose id config)
      else none
  | .timerFires timer => if timer ∈ c.timers then some (c.timerFires timer) else none

end Zentra.Realtime
