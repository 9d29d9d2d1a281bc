import Zentra.JsMap

/-!
# The realtime stream of a client

What `RealtimeSocketClient` does with the messages of the server
(`libs/foundation/data-layer/src/realtime/socket-client.ts`, messages of
`data-model/src/types/realtime.ts`).  Each message is handled to its end before the next.

* `handleDataMessageOrdering`, `recordCursor` — the ordering check, and the cursor of an
  accepted message;
* `handleIncomingMessage` — one message: what the listeners get, and what is kept.

The promises of the requests that a message answers and the connection snapshot are not part
of the stream.  Numbers that are only passed on (versions, times) are integers, a payload is
its JSON text, and a `messageId` of the client's own is an argument.
-/

namespace Zentra.Realtime

structure TopicCursor where
  topic : String
  table : String
  seq : Nat
  version : Option Int
  occurredAt : Int
  updatedAt : Int
  deriving DecidableEq, Repr

/-- `REALTIME_DATA_KIND`.  A SNAPSHOT has the kind `snapshot`, an EVENT any other. -/
inductive DataKind
  | created
  | updated
  | deleted
  | snapshot
  deriving DecidableEq, Repr

structure DataMessage where
  messageId : String
  topic : String
  table : String
  entityId : Option String
  seq : Nat
  occurredAt : Int
  version : Option Int
  kind : DataKind
  payload : String
  deriving DecidableEq, Repr

structure ResyncMessage where
  messageId : String
  topic : String
  table : String
  expectedSeq : Option Nat
  actualSeq : Option Nat
  reason : String
  deriving DecidableEq, Repr

inductive ServerMessage
  | helloAck (messageId connectionId negotiatedProtocolVersion : String)
  | subscribed (messageId topic table : String) (cursor : Option TopicCursor)
  | unsubscribed (messageId topic table : String)
  | data (message : DataMessage)
  | resyncRequired (message : ResyncMessage)
  | error (messageId code message : String) (topic table : Option String)
  | ping (messageId : String)
  | pong (messageId : String)
  deriving DecidableEq, Repr

/-- `REALTIME_SUBSCRIPTION_STATE` -/
inductive SubscriptionState
  | pending
  | subscribed
  | unsubscribed
  | error
  | resyncRequired
  deriving DecidableEq, Repr

structure SubscriptionSnapshot where
  topic : String
  table : String
  state : SubscriptionState
  lastSeq : Option Nat
  lastVersion : Option Int
  updatedAt : Int
  errorCode : Option String
  errorMessage : Option String
  deriving DecidableEq, Repr

abbrev CursorStore := JsMap String TopicCursor

abbrev SubscriptionMap := JsMap String SubscriptionSnapshot

/-- What the client keeps of the stream, and what its message listeners were given: the last
message is the first of `delivered`. -/
structure Stream where
  cursorStore : CursorStore
  subscriptionMap : SubscriptionMap
  lastMessage : Option ServerMessage
  delivered : List ServerMessage
  deriving DecidableEq

def Stream.start : Stream := ⟨.empty, .empty, none, []⟩

/-- How a message comes in: over a socket or from another tab (`ingestServerMessage`), with the
socket that the client holds open or not, when, and with what the next `crypto.randomUUID`
gives. -/
structure Arrival where
  fromSocket : Bool
  socketOpen : Bool
  now : Int
  uuid : String
  deriving DecidableEq, Repr

/-- `sendFireAndForget` of the answer that a message from a socket gets throws when the socket
that the client holds is not open. -/
def Arrival.canAnswer (arrival : Arrival) : Bool := !arrival.fromSocket || arrival.socketOpen

def resolveTopicKey (topic table : String) : String := table ++ "::" ++ topic

def buildCursorFromMessage (now : Int) (message : DataMessage) : TopicCursor where
  topic := message.topic
  table := message.table
  seq := message.seq
  version := message.version
  occurredAt := message.occurredAt
  updatedAt := now

def handleListeners (message : ServerMessage) (stream : Stream) : Stream :=
  { stream with delivered := message :: stream.delivered }

def setSubscription (key : String) (snapshot : SubscriptionSnapshot) (stream : Stream) : Stream :=
  { stream with subscriptionMap := stream.subscriptionMap.set key snapshot }

/-- `registerTopics`: topics that were never subscribed get a snapshot. -/
def registerTopics (now : Int) (topics : List (String × String)) (stream : Stream) : Stream :=
  topics.foldl (fun stream topic =>
    match stream.subscriptionMap.get (resolveTopicKey topic.1 topic.2) with
    | some _ => stream
    | none => setSubscription (resolveTopicKey topic.1 topic.2)
        ⟨topic.1, topic.2, .unsubscribed, none, none, now, none, none⟩ stream) stream

/-- `ingestSubscriptionSnapshot` -/
def ingestSubscriptionSnapshot (snapshot : SubscriptionSnapshot) (stream : Stream) : Stream :=
  setSubscription (resolveTopicKey snapshot.topic snapshot.table) snapshot stream

/-- The message that a gap before a message is reported with. -/
def gapMessage (uuid : String) (previous : TopicCursor) (message : DataMessage) :
    ResyncMessage where
  messageId := "gap-" ++ uuid
  topic := message.topic
  table := message.table
  expectedSeq := some (previous.seq + 1)
  actualSeq := some message.seq
  reason := "Gap detected in realtime stream at sequence " ++ toString message.seq

/-- The ordering check ends the handling of a message that is not the next one: `none` when it
lets it through. -/
def handleDataMessageOrdering (arrival : Arrival) (message : DataMessage) (stream : Stream) :
    Option Stream :=
  match stream.cursorStore.get (resolveTopicKey message.topic message.table) with
  | none => none
  | some previous =>
      if message.seq ≤ previous.seq then some stream
      else if previous.seq + 1 < message.seq then
        let resync := gapMessage arrival.uuid previous message
        let stream := setSubscription (resolveTopicKey message.topic message.table)
          ⟨message.topic, message.table, .resyncRequired, some previous.seq, previous.version,
            arrival.now, some "REALTIME_RESYNC_REQUIRED", some resync.reason⟩ stream
        some (handleListeners (.resyncRequired resync)
          { stream with lastMessage := some (.resyncRequired resync) })
      else none

/-- A cursor that is not behind the message stays.  The new one is persisted without waiting:
what is stored later is read by `doConnect`, and is a matter of the storage. -/
def recordCursor (now : Int) (message : DataMessage) (stream : Stream) : Stream :=
  let key := resolveTopicKey message.topic message.table
  if (stream.cursorStore.get key).any fun previous => message.seq ≤ previous.seq then stream
  else
    let cursor := buildCursorFromMessage now message
    let stream := { stream with cursorStore := stream.cursorStore.set key cursor }
    match stream.subscriptionMap.get key with
    | none => stream
    | some current => setSubscription key
        { current with lastSeq := some cursor.seq, lastVersion := cursor.version, updatedAt := now }
        stream

/-- The subscription that a message sets: its own fields, and the position of the old one. -/
def answeredSubscription (now : Int) (topic table : String) (state : SubscriptionState)
    (errorCode errorMessage : Option String) (stream : Stream) : Stream :=
  let current := stream.subscriptionMap.get (resolveTopicKey topic table)
  setSubscription (resolveTopicKey topic table)
    ⟨topic, table, state, current.bind (·.lastSeq), current.bind (·.lastVersion), now, errorCode,
      errorMessage⟩ stream

/-- `applyErrorMessage`, as far as it concerns a topic -/
def applyErrorMessage (now : Int) (code message : String) (topic table : Option String)
    (stream : Stream) : Stream :=
  match topic, table with
  | some topic, some table =>
      answeredSubscription now topic table .error (some code) (some message) stream
  | _, _ => stream

/-- `handleIncomingMessage` after `lastMessage` is set.  An answer that cannot be sent throws:
the listeners are not reached. -/
def handleIncomingMessage (arrival : Arrival) (message : ServerMessage) (stream : Stream) :
    Stream :=
  let stream := { stream with lastMessage := some message }
  match message with
  | .helloAck .. | .pong .. => handleListeners message stream
  | .subscribed _ topic table cursor =>
      let current := stream.subscriptionMap.get (resolveTopicKey topic table)
      handleListeners message (setSubscription (resolveTopicKey topic table)
        ⟨topic, table, .subscribed, (cursor.map (·.seq)).or (current.bind (·.lastSeq)),
          (cursor.bind (·.version)).or (current.bind (·.lastVersion)), arrival.now, none, none⟩
        stream)
  | .unsubscribed _ topic table =>
      handleListeners message
        (answeredSubscription arrival.now topic table .unsubscribed none none stream)
  | .data data =>
      match handleDataMessageOrdering arrival data stream with
      | some stream => stream
      | none =>
          let stream := recordCursor arrival.now data stream
          if arrival.canAnswer then handleListeners message stream else stream
  | .resyncRequired resync =>
      handleListeners message (answeredSubscription arrival.now resync.topic resync.table
        .resyncRequired (some "REALTIME_RESYNC_REQUIRED") (some resync.reason) stream)
  | .error _ code text topic table =>
      handleListeners message (applyErrorMessage arrival.now code text topic table stream)
  | .ping _ => if arrival.canAnswer then handleListeners message stream else stream

def DataMessage.key (message : DataMessage) : String :=
  resolveTopicKey message.topic message.table

/-- The message is the next one: the first for its key, or numbered right after the cursor. -/
def Stream.Expects (stream : Stream) (message : DataMessage) : Prop :=
  ∀ previous ∈ stream.cursorStore.get message.key, message.seq = previous.seq + 1

instance (stream : Stream) (message : DataMessage) : Decidable (stream.Expects message) :=
  inferInstanceAs (Decidable (∀ previous ∈ stream.cursorStore.get message.key, _))

section DataMessages

variable {arrival : Arrival} {message : DataMessage} {stream : Stream} {previous : TopicCursor}
  {now : Int}

@[simp] theorem handleListeners_cursorStore (message : ServerMessage) (stream : Stream) :
    (handleListeners message stream).cursorStore = stream.cursorStore := rfl

@[simp] theorem handleListeners_subscriptionMap (message : ServerMessage) (stream : Stream) :
    (handleListeners message stream).subscriptionMap = stream.subscriptionMap := rfl

@[simp] theorem handleListeners_delivered (message : ServerMessage) (stream : Stream) :
    (handleListeners message stream).delivered = message :: stream.delivered := rfl

@[simp] theorem setSubscription_cursorStore (key : String) (snapshot : SubscriptionSnapshot)
    (stream : Stream) : (setSubscription key snapshot stream).cursorStore = stream.cursorStore :=
  rfl

@[simp] theorem setSubscription_delivered (key : String) (snapshot : SubscriptionSnapshot)
    (stream : Stream) : (setSubscription key snapshot stream).delivered = stream.delivered := rfl

@[simp] theorem answeredSubscription_cursorStore (topic table : String)
    (state : SubscriptionState) (code text : Option String) :
    (answeredSubscription now topic table state code text stream).cursorStore =
      stream.cursorStore := rfl

@[simp] theorem answeredSubscription_delivered (topic table : String)
    (state : SubscriptionState) (code text : Option String) :
    (answeredSubscription now topic table state code text stream).delivered =
      stream.delivered := rfl

theorem handle_stale (hget : stream.cursorStore.get message.key = some previous)
    (hstale : message.seq ≤ previous.seq) :
    handleIncomingMessage arrival (.data message) stream =
      { stream with lastMessage := some (.data message) } := by
  unfold DataMessage.key at hget
  simp only [handleIncomingMessage, handleDataMessageOrdering, hget, hstale, if_true]

/-- **A gap** moves no cursor: the listeners get a RESYNC_REQUIRED in place of the message. -/
theorem handle_gap (arrival : Arrival) (hget : stream.cursorStore.get message.key = some previous)
    (hgap : previous.seq + 1 < message.seq) :
    (handleIncomingMessage arrival (.data message) stream).cursorStore = stream.cursorStore ∧
      (handleIncomingMessage arrival (.data message) stream).delivered =
        .resyncRequired (gapMessage arrival.uuid previous message) :: stream.delivered := by
  unfold DataMessage.key at hget
  have hnew : ¬ message.seq ≤ previous.seq := by omega
  simp only [handleIncomingMessage, handleDataMessageOrdering, hget, hnew, if_false, hgap,
    if_true, handleListeners_cursorStore, handleListeners_delivered, setSubscription_cursorStore,
    setSubscription_delivered, and_self]

@[simp] theorem recordCursor_delivered :
    (recordCursor now message stream).delivered = stream.delivered := by
  simp only [recordCursor]
  split
  · rfl
  · split
    · rfl
    · rfl

theorem recordCursor_cursorStore (now : Int) (hnext : stream.Expects message) :
    (recordCursor now message stream).cursorStore =
      stream.cursorStore.set message.key (buildCursorFromMessage now message) := by
  have hnew : ((stream.cursorStore.get (resolveTopicKey message.topic message.table)).any
      fun previous => message.seq ≤ previous.seq) = false := by
    rw [Option.any_eq_false]
    intro previous hprevious
    have hseq := hnext previous hprevious
    simp only [decide_eq_false_iff_not]
    omega
  simp only [recordCursor, hnew, Bool.false_eq_true, if_false]
  split
  · rfl
  · rfl

theorem recordCursor_state (now : Int) (message : DataMessage) (stream : Stream) :
    ((recordCursor now message stream).subscriptionMap.get message.key).map
        SubscriptionSnapshot.state =
      (stream.subscriptionMap.get message.key).map SubscriptionSnapshot.state := by
  simp only [recordCursor]
  split
  · rfl
  · split
    next hget =>
      rfl
    next current hget =>
      unfold DataMessage.key
      simp only [setSubscription, JsMap.get_set_self, hget, Option.map_some]

/-- **An expected message** is recorded, and delivered when it can be answered. -/
theorem handle_expected (hnext : stream.Expects message) :
    handleIncomingMessage arrival (.data message) stream =
      (if arrival.canAnswer then handleListeners (.data message) else id)
        (recordCursor arrival.now message
          { stream with lastMessage := some (.data message) }) := by
  have hordering : handleDataMessageOrdering arrival message
      { stream with lastMessage := some (.data message) } = none := by
    simp only [handleDataMessageOrdering]
    cases hget : stream.cursorStore.get (resolveTopicKey message.topic message.table) with
    | none => rfl
    | some previous =>
        have hseq := hnext previous hget
        have hnew : ¬ message.seq ≤ previous.seq := by omega
        have hgap : ¬ previous.seq + 1 < message.seq := by omega
        simp only [hnew, hgap, if_false]
  simp only [handleIncomingMessage, hordering]
  split
  · rfl
  · rfl

theorem handle_answered (hanswer : arrival.canAnswer = true) (hnext : stream.Expects message) :
    (handleIncomingMessage arrival (.data message) stream).delivered =
        .data message :: stream.delivered ∧
      (handleIncomingMessage arrival (.data message) stream).cursorStore =
        stream.cursorStore.set message.key (buildCursorFromMessage arrival.now message) := by
  have hrecord : (recordCursor arrival.now message
      { stream with lastMessage := some (.data message) }).cursorStore =
      stream.cursorStore.set message.key (buildCursorFromMessage arrival.now message) :=
    recordCursor_cursorStore arrival.now hnext
  rw [handle_expected hnext, if_pos hanswer]
  refine ⟨?_, ?_⟩
  · rw [handleListeners_delivered, recordCursor_delivered]
  · rw [handleListeners_cursorStore, hrecord]

/-- A message that carries no data moves no cursor; the listeners get it, unless it is a PING
that cannot be answered. -/
theorem handle_other (arrival : Arrival) (stream : Stream) {message : ServerMessage}
    (hother : ∀ data, message ≠ .data data) :
    (handleIncomingMessage arrival message stream).cursorStore = stream.cursorStore ∧
      ((handleIncomingMessage arrival message stream).delivered = message :: stream.delivered ∨
        (handleIncomingMessage arrival message stream).delivered = stream.delivered) := by
  cases message with
  | data data => exact absurd rfl (hother data)
  | helloAck | pong => exact ⟨rfl, .inl rfl⟩
  | subscribed | unsubscribed | resyncRequired => exact ⟨rfl, .inl rfl⟩
  | error messageId code text topic table =>
      cases topic with
      | none => exact ⟨rfl, .inl rfl⟩
      | some topic =>
          cases table with
          | none => exact ⟨rfl, .inl rfl⟩
          | some table => exact ⟨rfl, .inl rfl⟩
  | ping messageId =>
      unfold handleIncomingMessage
      dsimp only
      split
      · exact ⟨rfl, .inl rfl⟩
      · exact ⟨rfl, .inr rfl⟩

@[simp] theorem registerTopics_cursorStore (now : Int) (topics : List (String × String))
    (stream : Stream) :
    (registerTopics now topics stream).cursorStore = stream.cursorStore := by
  induction topics generalizing stream with
  | nil => rfl
  | cons topic rest ih =>
      rw [registerTopics, List.foldl_cons, ← registerTopics, ih]
      split
      · rfl
      · rfl

@[simp] theorem registerTopics_delivered (now : Int) (topics : List (String × String))
    (stream : Stream) :
    (registerTopics now topics stream).delivered = stream.delivered := by
  induction topics generalizing stream with
  | nil => rfl
  | cons topic rest ih =>
      rw [registerTopics, List.foldl_cons, ← registerTopics, ih]
      split
      · rfl
      · rfl

theorem stale_or_gap_or_expected (stream : Stream) (message : DataMessage) :
    (∃ previous, stream.cursorStore.get message.key = some previous ∧
        message.seq ≤ previous.seq) ∨
      (∃ previous, stream.cursorStore.get message.key = some previous ∧
        previous.seq + 1 < message.seq) ∨
      stream.Expects message := by
  cases hget : stream.cursorStore.get message.key with
  | none =>
      refine .inr (.inr fun previous hprevious => ?_)
      rw [hget] at hprevious
      cases hprevious
  | some previous =>
      obtain hstale | hseq | hgap : message.seq ≤ previous.seq ∨ message.seq = previous.seq + 1 ∨
          previous.seq + 1 < message.seq := by omega
      · exact .inl ⟨previous, rfl, hstale⟩
      · refine .inr (.inr fun other hother => ?_)
        rw [hget] at hother
        cases hother
        exact hseq
      · exact .inr (.inl ⟨previous, rfl, hgap⟩)

end DataMessages

end Zentra.Realtime
