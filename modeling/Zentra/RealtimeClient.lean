import Zentra.RealtimeConnection
import Zentra.RealtimeStream

/-!
# The realtime client

`RealtimeSocketClient` as one system: its connection, and the stream that it passes on.  A
connect reads the cursors of the storage over those in memory, and whether a message can be
acknowledged depends on the socket that the client holds when it comes in.

What the storage gives is part of the event: cursors are persisted without waiting, by this
client and by other tabs, so that any of them may be late or lost.
-/

namespace Zentra.Realtime

structure Client where
  connection : Connection
  stream : Stream
  deriving DecidableEq

def Client.start : Client := ⟨.start, .start⟩

/-- `message`: over a socket, or from another tab (`ingestServerMessage`). -/
inductive ClientEvent
  | connection (event : ConnectionEvent)
  | cursorsLoaded (store : CursorStore)
  | message (socket : Option Nat) (now : Int) (uuid : String) (message : ServerMessage)
  | registerTopics (now : Int) (topics : List (String × String))
  | ingestSubscription (snapshot : SubscriptionSnapshot)

def Client.arrival (client : Client) (socket : Option Nat) (now : Int) (uuid : String) :
    Arrival :=
  ⟨socket.isSome, client.connection.holdsOpen, now, uuid⟩

/-- A HELLO_ACK over a socket concerns the connection too. -/
def Client.acknowledged (client : Client) (socket : Option Nat) : ServerMessage → Connection
  | .helloAck .. => socket.elim client.connection client.connection.handleHelloAck
  | _ => client.connection

/-- A message over a socket needs a listener. -/
def Client.hears (client : Client) (socket : Option Nat) : Bool :=
  socket.all client.connection.listens

/-- One event, `none` when it cannot come.  What the storage reads and the HELLO_ACK are not
events of the connection alone. -/
def clientStep (config : ReconnectConfig) (client : Client) : ClientEvent → Option Client
  | .connection event =>
      match event with
      | .cursorsLoaded | .helloAck _ => none
      | _ => (connectionStep config client.connection event).map fun connection =>
          { client with connection }
  | .cursorsLoaded store =>
      (connectionStep config client.connection .cursorsLoaded).map fun connection =>
        { connection, stream := { client.stream with cursorStore := store } }
  | .message socket now uuid message =>
      if client.hears socket then
        some
          { connection := client.acknowledged socket message
            stream := handleIncomingMessage (client.arrival socket now uuid) message
              client.stream }
      else none
  | .registerTopics now topics =>
      some { client with stream := registerTopics now topics client.stream }
  | .ingestSubscription snapshot =>
      some { client with stream := ingestSubscriptionSnapshot snapshot client.stream }

section

variable {config : ReconnectConfig} {s t : Client}

/-- Nothing but messages and reads of the storage concerns what the listeners get. -/
theorem stream_connection {event : ConnectionEvent}
    (h : clientStep config s (.connection event) = some t) : t.stream = s.stream := by
  unfold clientStep at h
  dsimp only at h
  split at h
  · cases h
  · cases h
  · obtain ⟨connection, -, rfl⟩ := Option.map_eq_some_iff.1 h
    rfl

theorem stream_message {socket : Option Nat} {now : Int} {uuid : String}
    {message : ServerMessage}
    (h : clientStep config s (.message socket now uuid message) = some t) :
    t.stream = handleIncomingMessage (s.arrival socket now uuid) message s.stream := by
  unfold clientStep at h
  dsimp only at h
  split at h
  · obtain rfl := Option.some.inj h
    rfl
  · cases h

end

end Zentra.Realtime
