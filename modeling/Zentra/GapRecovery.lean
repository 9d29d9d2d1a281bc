import Zentra.RealtimeStream

/-!
# Recovery from a gap

When a client reports a gap (RESYNC_REQUIRED), the next snapshot should end it: the listeners
get it, the cursor moves to its number, the subscription is no longer marked, and the events
that follow it come through.  `handleIncomingMessage` sends snapshots through the ordering
check of the events, whose cursor a gap does not move, and `recordCursor` keeps the mark.

* `Recovers` — when it does;
* `endsGap_iff` — exactly then, in every state, whatever messages led to it.
-/

namespace Zentra.Realtime

/-- Messages with their arrivals, one after the other. -/
def handleAll (messages : List (Arrival × DataMessage)) (stream : Stream) : Stream :=
  messages.foldl (fun stream message =>
    handleIncomingMessage message.1 (.data message.2) stream) stream

/-- The messages are of a topic of a table, and numbered one after the other after `seq`. -/
def Consecutive (topic table : String) : Nat → List (Arrival × DataMessage) → Prop
  | _, [] => True
  | seq, message :: rest =>
      message.2.topic = topic ∧ message.2.table = table ∧ message.2.seq = seq + 1 ∧
        Consecutive topic table (seq + 1) rest

/-- What a snapshot should do: it is delivered, the cursor moves to its number, the
subscription is not marked any more, and all that is consecutive to it is delivered. -/
structure EndsGap (arrival : Arrival) (snapshot : DataMessage) (stream : Stream) : Prop where
  delivered : (handleIncomingMessage arrival (.data snapshot) stream).delivered =
    .data snapshot :: stream.delivered
  cursor : ∃ cursor, (handleIncomingMessage arrival (.data snapshot) stream).cursorStore.get
    snapshot.key = some cursor ∧ cursor.seq = snapshot.seq
  unmarked : ((handleIncomingMessage arrival (.data snapshot) stream).subscriptionMap.get
    snapshot.key).map SubscriptionSnapshot.state ≠ some .resyncRequired
  resumes : ∀ events, Consecutive snapshot.topic snapshot.table snapshot.seq events →
    (∀ event ∈ events, event.1.canAnswer = true) →
    (handleAll events (handleIncomingMessage arrival (.data snapshot) stream)).delivered =
      (events.map fun event => ServerMessage.data event.2).reverse ++
        .data snapshot :: stream.delivered

/-- **The condition.**  The snapshot can be answered, the subscription is not marked, and
nothing is missing before the snapshot: no cursor is kept, or the one right before it. -/
def Recovers (arrival : Arrival) (snapshot : DataMessage) (stream : Stream) : Prop :=
  arrival.canAnswer = true ∧
    (stream.subscriptionMap.get snapshot.key).map SubscriptionSnapshot.state ≠
      some .resyncRequired ∧
    stream.Expects snapshot

instance (arrival : Arrival) (snapshot : DataMessage) (stream : Stream) :
    Decidable (Recovers arrival snapshot stream) := inferInstanceAs (Decidable (_ ∧ _ ∧ _))

section

variable {arrival : Arrival} {snapshot : DataMessage} {stream : Stream}

/-- **Consecutive messages** after the cursor are all delivered. -/
theorem handleAll_consecutive {topic table : String} {seq : Nat} {cursor : TopicCursor}
    {events : List (Arrival × DataMessage)}
    (hget : stream.cursorStore.get (resolveTopicKey topic table) = some cursor)
    (hseq : cursor.seq = seq) (hconsecutive : Consecutive topic table seq events)
    (hanswer : ∀ event ∈ events, event.1.canAnswer = true) :
    (handleAll events stream).delivered =
      (events.map fun event => ServerMessage.data event.2).reverse ++ stream.delivered := by
  induction events generalizing stream seq cursor with
  | nil => rfl
  | cons event rest ih =>
      obtain ⟨htopic, htable, hnumber, hrest⟩ := hconsecutive
      have hkey : event.2.key = resolveTopicKey topic table := by
        rw [DataMessage.key, htopic, htable]
      have hnext : stream.Expects event.2 := by
        intro other hother
        rw [hkey, hget] at hother
        cases hother
        omega
      obtain ⟨hdelivered, hstore⟩ :=
        handle_answered (hanswer event List.mem_cons_self) hnext
      have hcursor : (handleIncomingMessage event.1 (.data event.2) stream).cursorStore.get
          (resolveTopicKey topic table) = some (buildCursorFromMessage event.1.now event.2) := by
        rw [hstore, hkey, JsMap.get_set_self]
      have hall := ih hcursor hnumber hrest fun other hother =>
        hanswer other (List.mem_cons_of_mem _ hother)
      rw [handleAll, List.foldl_cons, ← handleAll, hall, hdelivered]
      simp

theorem endsGap_of_recovers (h : Recovers arrival snapshot stream) :
    EndsGap arrival snapshot stream := by
  obtain ⟨hanswer, hmark, hnext⟩ := h
  obtain ⟨hdelivered, hstore⟩ := handle_answered hanswer hnext
  have hcursor : (handleIncomingMessage arrival (.data snapshot) stream).cursorStore.get
      snapshot.key = some (buildCursorFromMessage arrival.now snapshot) := by
    rw [hstore, JsMap.get_set_self]
  refine ⟨hdelivered, ⟨_, hcursor, rfl⟩, ?_, ?_⟩
  · have hstate := recordCursor_state arrival.now snapshot
      { stream with lastMessage := some (.data snapshot) }
    rw [handle_expected hnext, if_pos hanswer, handleListeners_subscriptionMap, hstate]
    exact hmark
  · intro events hconsecutive hanswers
    rw [handleAll_consecutive hcursor rfl hconsecutive hanswers, hdelivered]

theorem recovers_of_endsGap
    (hnew : ∀ previous ∈ stream.cursorStore.get snapshot.key, previous.seq < snapshot.seq)
    (h : EndsGap arrival snapshot stream) : Recovers arrival snapshot stream := by
  obtain ⟨previous, hget, hstale⟩ | ⟨previous, hget, hgap⟩ | hnext :=
    stale_or_gap_or_expected stream snapshot
  · have hless := hnew previous hget
    omega
  · -- the listeners get a report of the gap, not the snapshot
    have hdelivered := h.delivered
    rw [(handle_gap arrival hget hgap).2] at hdelivered
    have hhead := (List.cons.inj hdelivered).1
    cases hhead
  · have hanswer : arrival.canAnswer = true := by
      by_contra hno
      have hdelivered := h.delivered
      rw [handle_expected hnext, if_neg hno, id, recordCursor_delivered] at hdelivered
      exact List.cons_ne_self _ _ hdelivered.symm
    refine ⟨hanswer, ?_, hnext⟩
    have hstate := recordCursor_state arrival.now snapshot
      { stream with lastMessage := some (.data snapshot) }
    have hunmarked := h.unmarked
    rw [handle_expected hnext, if_pos hanswer, handleListeners_subscriptionMap, hstate]
      at hunmarked
    exact hunmarked

end

/-- **Recovery.**  In every state, a snapshot numbered above the cursor ends the gap exactly
when it can be answered, nothing is missing before it and the subscription is not marked. -/
theorem endsGap_iff (stream : Stream) (arrival : Arrival) (snapshot : DataMessage)
    (hnew : ∀ previous ∈ stream.cursorStore.get snapshot.key, previous.seq < snapshot.seq) :
    EndsGap arrival snapshot stream ↔ Recovers arrival snapshot stream :=
  ⟨recovers_of_endsGap hnew, endsGap_of_recovers⟩

def feedMessage (seq : Nat) (kind : DataKind) : DataMessage :=
  ⟨"m", "orders", "sales", none, seq, 0, none, kind, "{}"⟩

def fromServer : Arrival := ⟨true, true, 0, "u"⟩

/-- Event 2 is lost: event 3 is a gap. -/
def gapStream : Stream :=
  handleAll [(fromServer, feedMessage 1 .created), (fromServer, feedMessage 3 .updated)]
    (registerTopics 0 [("orders", "sales")] .start)

/-- A recovery: event 2 was not lost, and a snapshot comes in its place. -/
theorem nextSnapshot_endsGap :
    EndsGap fromServer (feedMessage 2 .snapshot)
      (handleAll [(fromServer, feedMessage 1 .created)] .start) := by
  refine (endsGap_iff _ fromServer (feedMessage 2 .snapshot) ?_).2 (by decide +kernel)
  decide +kernel

/-- The gap is reported, and the snapshot that follows it is numbered above the cursor, but it
does not end the gap. -/
theorem snapshotAfterGap_dropped :
    gapStream.delivered.head? = some (.resyncRequired (gapMessage "u"
        (buildCursorFromMessage 0 (feedMessage 1 .created)) (feedMessage 3 .updated))) ∧
      (∀ previous ∈ gapStream.cursorStore.get (feedMessage 4 .snapshot).key,
        previous.seq < (feedMessage 4 .snapshot).seq) ∧
      ¬ EndsGap fromServer (feedMessage 4 .snapshot) gapStream := by
  refine ⟨by decide +kernel, by decide +kernel, fun h => ?_⟩
  have hdelivered := h.delivered
  revert hdelivered
  decide +kernel

end Zentra.Realtime
