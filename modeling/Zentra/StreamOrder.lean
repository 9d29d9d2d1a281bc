import Zentra.RealtimeClient

/-!
# Every message once, and in order

What the listeners of a realtime client should get, over every run of messages, gaps, repeats,
disconnections and reconnections: of each topic of a table, data messages with increasing
numbers, none twice, and none left out without a RESYNC_REQUIRED in between; with cursors that
never go back and that no two topics share.

* `Steady` — the condition on one event: what the storage reads is not behind the cursors in
  memory, nor ahead of what the listeners have; the cursor kept under the key of a message is
  its own; and a message that is accepted over a socket can be acknowledged;
* `deliversAll_of_steady` — then every event of the run does.
-/

namespace Zentra.Realtime

open StepTrace

/-- The number of the last data message of a topic that the listeners were given, and whether a
RESYNC_REQUIRED for it came since.  The log has the last message first. -/
def progress (topic table : String) : List ServerMessage → Option (Nat × Bool)
  | [] => none
  | .data message :: earlier =>
      if message.topic = topic ∧ message.table = table then some (message.seq, false)
      else progress topic table earlier
  | .resyncRequired message :: earlier =>
      if message.topic = topic ∧ message.table = table then
        (progress topic table earlier).map fun last => (last.1, true)
      else progress topic table earlier
  | _ :: earlier => progress topic table earlier

/-- A message numbered so may come next: after the last, and right after it unless a
RESYNC_REQUIRED came since. -/
def Continues (last : Option (Nat × Bool)) (seq : Nat) : Prop :=
  ∀ number ∈ last, number.1 < seq ∧ (number.2 = true ∨ seq = number.1 + 1)

instance (last : Option (Nat × Bool)) (seq : Nat) : Decidable (Continues last seq) :=
  inferInstanceAs (Decidable (∀ number ∈ last, _))

/-- Each data message could come next. -/
def InOrder : List ServerMessage → Prop
  | [] => True
  | .data message :: earlier =>
      Continues (progress message.topic message.table earlier) message.seq ∧ InOrder earlier
  | _ :: earlier => InOrder earlier

/-- The numbers of the data messages of a topic, the last first. -/
def numbers (topic table : String) : List ServerMessage → List Nat
  | [] => []
  | .data message :: earlier =>
      if message.topic = topic ∧ message.table = table then
        message.seq :: numbers topic table earlier
      else numbers topic table earlier
  | _ :: earlier => numbers topic table earlier

/-- The cursor of a topic of a table: the one kept under its key, if it is its own. -/
def cursorIn (store : CursorStore) (topic table : String) : Option TopicCursor :=
  (store.get (resolveTopicKey topic table)).filter fun cursor =>
    cursor.topic = topic ∧ cursor.table = table

def Stream.cursorOf (stream : Stream) (topic table : String) : Option TopicCursor :=
  cursorIn stream.cursorStore topic table

/-- A data message leaves the cursors of the other topics as they are, and a topic without a
cursor gets one. -/
def KeepsOwnCursor (before after : Stream) (message : DataMessage) : Prop :=
  (∀ topic table, ¬ (message.topic = topic ∧ message.table = table) →
      after.cursorOf topic table = before.cursorOf topic table) ∧
    (before.cursorOf message.topic message.table = none →
      (after.cursorOf message.topic message.table).map TopicCursor.seq = some message.seq)

structure Delivers (s : Client) (event : ClientEvent) (t : Client) : Prop where
  inOrder : InOrder t.stream.delivered
  increasing : ∀ topic table, (numbers topic table t.stream.delivered).Pairwise (· > ·)
  grows : ∀ topic table, ∀ cursor ∈ s.stream.cursorOf topic table,
    ∃ later ∈ t.stream.cursorOf topic table, cursor.seq ≤ later.seq
  own : ∀ socket now uuid message, event = .message socket now uuid (.data message) →
    KeepsOwnCursor s.stream t.stream message

/-- What is read has each cursor in memory, not behind it, and where it is ahead the listeners
may go on from there. -/
def Resumes (stream : Stream) (store : CursorStore) : Prop :=
  ∀ entry ∈ stream.cursorStore.entries,
    entry.1 = resolveTopicKey entry.2.topic entry.2.table →
      (cursorIn store entry.2.topic entry.2.table).any fun later =>
        entry.2.seq ≤ later.seq ∧
          Continues (progress entry.2.topic entry.2.table stream.delivered) (later.seq + 1)

/-- **The condition** on one event. -/
def Steady (s : Client) : ClientEvent → Prop
  | .cursorsLoaded store => Resumes s.stream store
  | .message socket now uuid (.data message) =>
      (∀ cursor ∈ s.stream.cursorStore.get message.key,
          cursor.topic = message.topic ∧ cursor.table = message.table) ∧
        (s.stream.Expects message → (s.arrival socket now uuid).canAnswer = true)
  | _ => True

instance (stream : Stream) (store : CursorStore) : Decidable (Resumes stream store) :=
  inferInstanceAs (Decidable (∀ entry ∈ stream.cursorStore.entries, _ → _))

instance (s : Client) : (event : ClientEvent) → Decidable (Steady s event)
  | .cursorsLoaded store => inferInstanceAs (Decidable (Resumes s.stream store))
  | .message _ _ _ (.data _) => inferInstanceAs (Decidable (_ ∧ (_ → _)))
  | .message _ _ _ (.helloAck ..) | .message _ _ _ (.subscribed ..)
  | .message _ _ _ (.unsubscribed ..) | .message _ _ _ (.resyncRequired _)
  | .message _ _ _ (.error ..) | .message _ _ _ (.ping _) | .message _ _ _ (.pong _) =>
      .isTrue trivial
  | .connection _ | .registerTopics .. | .ingestSubscription _ => .isTrue trivial

section Logs

variable {topic table : String} {log : List ServerMessage} {message : ServerMessage}
  {data : DataMessage}

theorem numbers_cons_other (hother : ∀ data, message ≠ .data data) :
    numbers topic table (message :: log) = numbers topic table log := by
  cases message with
  | data data => exact absurd rfl (hother data)
  | _ => rfl

theorem inOrder_cons_other (hother : ∀ data, message ≠ .data data) :
    InOrder (message :: log) ↔ InOrder log := by
  cases message with
  | data data => exact absurd rfl (hother data)
  | _ => exact Iff.rfl

/-- A message without data leaves the listeners where they are, or marks it. -/
theorem progress_cons_other (topic table : String) (log : List ServerMessage)
    (hother : ∀ data, message ≠ .data data) :
    progress topic table (message :: log) = progress topic table log ∨
      progress topic table (message :: log) =
        (progress topic table log).map fun last => (last.1, true) := by
  cases message with
  | data data => exact absurd rfl (hother data)
  | resyncRequired resync =>
      rw [progress]
      split
      · exact .inr rfl
      · exact .inl rfl
  | _ => exact .inl rfl

theorem continues_marked {last : Option (Nat × Bool)} {seq : Nat} (h : Continues last seq) :
    Continues (last.map fun last => (last.1, true)) seq := by
  intro number hnumber
  obtain ⟨earlier, hearlier, rfl⟩ := Option.map_eq_some_iff.1 hnumber
  exact ⟨(h earlier hearlier).1, .inl rfl⟩

theorem head_numbers (topic table : String) (log : List ServerMessage) :
    (numbers topic table log).head? = (progress topic table log).map Prod.fst := by
  induction log with
  | nil => rfl
  | cons message earlier ih =>
      cases message with
      | data data =>
          unfold numbers progress
          split
          · rfl
          · exact ih
      | resyncRequired resync =>
          unfold numbers progress
          split
          · rw [ih, Option.map_map]
            rfl
          · exact ih
      | _ => exact ih

/-- **The numbers of a topic increase** in a log in order. -/
theorem InOrder.increasing (h : InOrder log) :
    (numbers topic table log).Pairwise (· > ·) := by
  induction log with
  | nil => exact List.Pairwise.nil
  | cons message earlier ih =>
      by_cases hdata : ∃ data, message = .data data
      · obtain ⟨data, rfl⟩ := hdata
        obtain ⟨hcontinues, hearlier⟩ := h
        unfold numbers
        split
        next hown =>
          obtain ⟨rfl, rfl⟩ := hown
          refine List.pairwise_cons.2 ⟨fun number hnumber => ?_, ih hearlier⟩
          have hhead := head_numbers data.topic data.table earlier
          cases hnumbers : numbers data.topic data.table earlier with
          | nil =>
              rw [hnumbers] at hnumber
              cases hnumber
          | cons first rest =>
              have hpairwise := ih hearlier
              rw [hnumbers] at hnumber hhead hpairwise
              obtain ⟨last, hlast, hfirst⟩ := Option.map_eq_some_iff.1 hhead.symm
              have hless := (hcontinues last hlast).1
              obtain rfl | hrest := List.mem_cons.1 hnumber
              · omega
              · have hbelow := List.rel_of_pairwise_cons hpairwise hrest
                omega
        · exact ih hearlier
      · have hother : ∀ data, message ≠ .data data := fun data heq => hdata ⟨data, heq⟩
        rw [numbers_cons_other hother]
        exact ih ((inOrder_cons_other hother).1 h)

end Logs

/-- What the runs keep: a topic whose messages the listeners have has a cursor, and the number
after it continues the log. -/
structure Ordered (stream : Stream) : Prop where
  inOrder : InOrder stream.delivered
  unheard : ∀ topic table, stream.cursorOf topic table = none →
    progress topic table stream.delivered = none
  next : ∀ topic table, ∀ cursor ∈ stream.cursorOf topic table,
    Continues (progress topic table stream.delivered) (cursor.seq + 1)

section Steps

variable {stream after : Stream} {arrival : Arrival} {message : DataMessage} {topic table : String}

theorem mem_cursorIn {store : CursorStore} {cursor : TopicCursor} :
    cursor ∈ cursorIn store topic table ↔
      store.get (resolveTopicKey topic table) = some cursor ∧ cursor.topic = topic ∧
        cursor.table = table := by
  simp [cursorIn, Option.filter_eq_some_iff]

theorem cursorOf_congr (h : after.cursorStore = stream.cursorStore) :
    after.cursorOf topic table = stream.cursorOf topic table := by
  rw [Stream.cursorOf, Stream.cursorOf, h]

/-- The listeners get a message without data, or nothing. -/
theorem Ordered.of_other (hordered : Ordered stream) {message : ServerMessage}
    (hother : ∀ data, message ≠ .data data) (hstore : after.cursorStore = stream.cursorStore)
    (hdelivered : after.delivered = message :: stream.delivered ∨
      after.delivered = stream.delivered) : Ordered after := by
  obtain hlog | hlog := hdelivered
  · refine ⟨?_, ?_, ?_⟩
    · rw [hlog, inOrder_cons_other hother]
      exact hordered.inOrder
    · intro topic table hnone
      rw [cursorOf_congr hstore] at hnone
      have hunheard := hordered.unheard topic table hnone
      rw [hlog]
      obtain hsame | hmarked := progress_cons_other topic table stream.delivered hother
      · rw [hsame, hunheard]
      · rw [hmarked, hunheard]
        rfl
    · intro topic table cursor hcursor
      rw [cursorOf_congr hstore] at hcursor
      have hnext := hordered.next topic table cursor hcursor
      rw [hlog]
      obtain hsame | hmarked := progress_cons_other topic table stream.delivered hother
      · rw [hsame]
        exact hnext
      · rw [hmarked]
        exact continues_marked hnext
  · refine ⟨?_, ?_, ?_⟩
    · rw [hlog]
      exact hordered.inOrder
    · intro topic table hnone
      rw [cursorOf_congr hstore] at hnone
      rw [hlog]
      exact hordered.unheard topic table hnone
    · intro topic table cursor hcursor
      rw [cursorOf_congr hstore] at hcursor
      rw [hlog]
      exact hordered.next topic table cursor hcursor

theorem cursorOf_shared
    (hown : ∀ cursor ∈ stream.cursorStore.get message.key,
      cursor.topic = message.topic ∧ cursor.table = message.table)
    (hkey : resolveTopicKey topic table = message.key)
    (hother : ¬ (message.topic = topic ∧ message.table = table)) :
    stream.cursorOf topic table = none := by
  refine Option.eq_none_iff_forall_not_mem.2 fun cursor hcursor => ?_
  obtain ⟨hget, htopic, htable⟩ := mem_cursorIn.1 hcursor
  rw [hkey] at hget
  obtain ⟨htopic', htable'⟩ := hown cursor hget
  exact hother ⟨htopic'.symm.trans htopic, htable'.symm.trans htable⟩

theorem cursorOf_recorded {now : Int}
    (hstore : after.cursorStore =
      stream.cursorStore.set message.key (buildCursorFromMessage now message)) :
    after.cursorOf topic table =
      if message.topic = topic ∧ message.table = table then
        some (buildCursorFromMessage now message)
      else if resolveTopicKey topic table = message.key then none
      else stream.cursorOf topic table := by
  unfold Stream.cursorOf cursorIn
  rw [hstore, JsMap.get_set]
  by_cases hown : message.topic = topic ∧ message.table = table
  · obtain ⟨rfl, rfl⟩ := hown
    simp [DataMessage.key, buildCursorFromMessage]
  · by_cases hkey : resolveTopicKey topic table = message.key
    · rw [if_pos hkey, if_neg hown, if_pos hkey, Option.filter_some, if_neg]
      rw [decide_eq_true_eq]
      exact hown
    · rw [if_neg hkey, if_neg hown, if_neg hkey]

/-- **An expected message** that is recorded and delivered keeps the order. -/
theorem Ordered.of_expected (hordered : Ordered stream) {now : Int}
    (hnext : stream.Expects message)
    (hown : ∀ cursor ∈ stream.cursorStore.get message.key,
      cursor.topic = message.topic ∧ cursor.table = message.table)
    (hstore : after.cursorStore =
      stream.cursorStore.set message.key (buildCursorFromMessage now message))
    (hdelivered : after.delivered = .data message :: stream.delivered) : Ordered after := by
  have hcontinues : Continues (progress message.topic message.table stream.delivered)
      message.seq := by
    cases hcursor : stream.cursorOf message.topic message.table with
    | none =>
        rw [hordered.unheard _ _ hcursor]
        intro number hnumber
        cases hnumber
    | some cursor =>
        have hget := (mem_cursorIn.1 hcursor).1
        rw [hnext cursor hget]
        exact hordered.next _ _ cursor hcursor
  refine ⟨?_, ?_, ?_⟩
  · rw [hdelivered]
    exact ⟨hcontinues, hordered.inOrder⟩
  · intro topic table hnone
    rw [cursorOf_recorded hstore] at hnone
    rw [hdelivered, progress]
    by_cases hpair : message.topic = topic ∧ message.table = table
    · rw [if_pos hpair] at hnone
      cases hnone
    · rw [if_neg hpair] at hnone ⊢
      refine hordered.unheard topic table ?_
      by_cases hkey : resolveTopicKey topic table = message.key
      · exact cursorOf_shared hown hkey hpair
      · rwa [if_neg hkey] at hnone
  · intro topic table cursor hcursor
    rw [cursorOf_recorded hstore] at hcursor
    rw [hdelivered, progress]
    by_cases hpair : message.topic = topic ∧ message.table = table
    · rw [if_pos hpair] at hcursor ⊢
      obtain rfl := Option.some.inj hcursor
      intro number hnumber
      obtain rfl := Option.some.inj hnumber
      exact ⟨Nat.lt_succ_self _, .inr rfl⟩
    · rw [if_neg hpair] at hcursor ⊢
      by_cases hkey : resolveTopicKey topic table = message.key
      · rw [if_pos hkey] at hcursor
        cases hcursor
      · rw [if_neg hkey] at hcursor
        exact hordered.next topic table cursor hcursor

theorem Ordered.of_loaded (hordered : Ordered stream) {store : CursorStore}
    (hresumes : Resumes stream store) : Ordered { stream with cursorStore := store } ∧
      ∀ topic table, ∀ cursor ∈ stream.cursorOf topic table,
        ∃ later ∈ cursorIn store topic table, cursor.seq ≤ later.seq := by
  have hread (topic table : String) (cursor : TopicCursor)
      (hcursor : cursor ∈ stream.cursorOf topic table) :
      ∃ later ∈ cursorIn store topic table, cursor.seq ≤ later.seq ∧
        Continues (progress topic table stream.delivered) (later.seq + 1) := by
    obtain ⟨hget, rfl, rfl⟩ := mem_cursorIn.1 hcursor
    have hentry := hresumes _ (JsMap.get_eq_some.1 hget) rfl
    obtain ⟨later, hlater, hgood⟩ := (Option.any_eq_true _ _).1 hentry
    exact ⟨later, hlater, by simpa using hgood⟩
  refine ⟨⟨hordered.inOrder, ?_, ?_⟩, ?_⟩
  · intro topic table hnone
    refine hordered.unheard topic table ?_
    cases hcursor : stream.cursorOf topic table with
    | none => rfl
    | some cursor =>
        obtain ⟨later, hlater, -⟩ := hread topic table cursor hcursor
        rw [Stream.cursorOf] at hnone
        rw [hnone] at hlater
        cases hlater
  · intro topic table later hlater
    cases hcursor : stream.cursorOf topic table with
    | none =>
        have hunheard := hordered.unheard topic table hcursor
        dsimp only
        rw [hunheard]
        intro number hnumber
        cases hnumber
    | some cursor =>
        obtain ⟨other, hother, -, hcontinues⟩ := hread topic table cursor hcursor
        obtain rfl := Option.some.inj (hlater.symm.trans hother)
        exact hcontinues
  · intro topic table cursor hcursor
    obtain ⟨later, hlater, hless, -⟩ := hread topic table cursor hcursor
    exact ⟨later, hlater, hless⟩

theorem keepsOwnCursor_of_same (hstore : after.cursorStore = stream.cursorStore)
    {previous : TopicCursor} (hget : stream.cursorStore.get message.key = some previous)
    (hown : ∀ cursor ∈ stream.cursorStore.get message.key,
      cursor.topic = message.topic ∧ cursor.table = message.table) :
    KeepsOwnCursor stream after message := by
  refine ⟨fun topic table _ => cursorOf_congr hstore, fun hnone => ?_⟩
  have hcursor : previous ∈ stream.cursorOf message.topic message.table :=
    mem_cursorIn.2 ⟨hget, hown previous hget⟩
  rw [hnone] at hcursor
  cases hcursor

theorem keepsOwnCursor_of_recorded {now : Int}
    (hown : ∀ cursor ∈ stream.cursorStore.get message.key,
      cursor.topic = message.topic ∧ cursor.table = message.table)
    (hstore : after.cursorStore =
      stream.cursorStore.set message.key (buildCursorFromMessage now message)) :
    KeepsOwnCursor stream after message := by
  refine ⟨fun topic table hpair => ?_, fun _ => ?_⟩
  · rw [cursorOf_recorded hstore, if_neg hpair]
    by_cases hkey : resolveTopicKey topic table = message.key
    · rw [if_pos hkey, cursorOf_shared hown hkey hpair]
    · rw [if_neg hkey]
  · rw [cursorOf_recorded hstore, if_pos ⟨rfl, rfl⟩]
    rfl

theorem grows_of_recorded {now : Int} (hnext : stream.Expects message)
    (hown : ∀ cursor ∈ stream.cursorStore.get message.key,
      cursor.topic = message.topic ∧ cursor.table = message.table)
    (hstore : after.cursorStore =
      stream.cursorStore.set message.key (buildCursorFromMessage now message))
    (topic table : String) : ∀ cursor ∈ stream.cursorOf topic table,
      ∃ later ∈ after.cursorOf topic table, cursor.seq ≤ later.seq := by
  intro cursor hcursor
  rw [cursorOf_recorded hstore]
  by_cases hpair : message.topic = topic ∧ message.table = table
  · rw [if_pos hpair]
    refine ⟨_, rfl, ?_⟩
    obtain ⟨rfl, rfl⟩ := hpair
    have hseq := hnext cursor (mem_cursorIn.1 hcursor).1
    show cursor.seq ≤ message.seq
    omega
  · rw [if_neg hpair]
    by_cases hkey : resolveTopicKey topic table = message.key
    · rw [cursorOf_shared hown hkey hpair] at hcursor
      cases hcursor
    · rw [if_neg hkey]
      exact ⟨cursor, hcursor, Nat.le_refl _⟩

/-- **A data message** keeps the order, and the cursors of the other topics. -/
theorem Ordered.data (hordered : Ordered stream)
    (hown : ∀ cursor ∈ stream.cursorStore.get message.key,
      cursor.topic = message.topic ∧ cursor.table = message.table)
    (hanswer : stream.Expects message → arrival.canAnswer = true) :
    Ordered (handleIncomingMessage arrival (.data message) stream) ∧
      KeepsOwnCursor stream (handleIncomingMessage arrival (.data message) stream) message ∧
      ∀ topic table, ∀ cursor ∈ stream.cursorOf topic table,
        ∃ later ∈ (handleIncomingMessage arrival (.data message) stream).cursorOf topic table,
          cursor.seq ≤ later.seq := by
  obtain ⟨previous, hget, hstale⟩ | ⟨previous, hget, hgap⟩ | hnext :=
    stale_or_gap_or_expected stream message
  · rw [handle_stale hget hstale]
    refine ⟨⟨hordered.inOrder, hordered.unheard, hordered.next⟩,
      keepsOwnCursor_of_same rfl hget hown, ?_⟩
    intro topic table cursor hcursor
    exact ⟨cursor, hcursor, Nat.le_refl _⟩
  · obtain ⟨hstore, hdelivered⟩ := handle_gap arrival hget hgap
    refine ⟨hordered.of_other (fun _ heq => by cases heq) hstore (.inl hdelivered),
      keepsOwnCursor_of_same hstore hget hown, ?_⟩
    intro topic table cursor hcursor
    refine ⟨cursor, ?_, Nat.le_refl _⟩
    rw [cursorOf_congr hstore]
    exact hcursor
  · obtain ⟨hdelivered, hstore⟩ := handle_answered (hanswer hnext) hnext
    exact ⟨hordered.of_expected hnext hown hstore hdelivered,
      keepsOwnCursor_of_recorded hown hstore, grows_of_recorded hnext hown hstore⟩

end Steps

theorem ordered_start : Ordered .start := by
  refine ⟨trivial, fun _ _ _ => rfl, ?_⟩
  intro topic table cursor hcursor
  cases hcursor

theorem grows_of_same {stream after : Stream} (hstore : after.cursorStore = stream.cursorStore)
    (topic table : String) : ∀ cursor ∈ stream.cursorOf topic table,
      ∃ later ∈ after.cursorOf topic table, cursor.seq ≤ later.seq := by
  intro cursor hcursor
  refine ⟨cursor, ?_, Nat.le_refl _⟩
  rw [cursorOf_congr hstore]
  exact hcursor

theorem Ordered.of_same {stream after : Stream} (hordered : Ordered stream)
    (hstore : after.cursorStore = stream.cursorStore)
    (hdelivered : after.delivered = stream.delivered) : Ordered after :=
  have hother : ∀ data, ServerMessage.pong "" ≠ .data data := fun _ heq => by cases heq
  hordered.of_other hother hstore (.inr hdelivered)

/-- **One event** that is steady keeps the order, and the cursors do not go back. -/
theorem ordered_step {config : ReconnectConfig} {s t : Client} {event : ClientEvent}
    (hordered : Ordered s.stream) (hsteady : Steady s event)
    (hstep : clientStep config s event = some t) :
    Ordered t.stream ∧ ∀ topic table, ∀ cursor ∈ s.stream.cursorOf topic table,
      ∃ later ∈ t.stream.cursorOf topic table, cursor.seq ≤ later.seq := by
  cases event with
  | connection event =>
      rw [stream_connection hstep]
      exact ⟨hordered, grows_of_same rfl⟩
  | cursorsLoaded store =>
      obtain ⟨connection, -, rfl⟩ := Option.map_eq_some_iff.1 hstep
      exact hordered.of_loaded hsteady
  | message socket now uuid message =>
      rw [stream_message hstep]
      by_cases hdata : ∃ data, message = .data data
      · obtain ⟨data, rfl⟩ := hdata
        obtain ⟨hafter, -, hgrows⟩ := hordered.data hsteady.1 hsteady.2
        exact ⟨hafter, hgrows⟩
      · have hother : ∀ data, message ≠ .data data := fun data heq => hdata ⟨data, heq⟩
        obtain ⟨hstore, hdelivered⟩ :=
          handle_other (s.arrival socket now uuid) s.stream hother
        exact ⟨hordered.of_other hother hstore hdelivered, grows_of_same hstore⟩
  | registerTopics now topics =>
      obtain rfl := Option.some.inj hstep
      have hstore := registerTopics_cursorStore now topics s.stream
      have hdelivered := registerTopics_delivered now topics s.stream
      exact ⟨hordered.of_same hstore hdelivered, grows_of_same hstore⟩
  | ingestSubscription snapshot =>
      obtain rfl := Option.some.inj hstep
      exact ⟨hordered.of_same rfl rfl, grows_of_same rfl⟩

/-- **One event** that is steady delivers what it should. -/
theorem delivers_of_steady {config : ReconnectConfig} {s t : Client} {event : ClientEvent}
    (hordered : Ordered s.stream) (hsteady : Steady s event)
    (hstep : clientStep config s event = some t) : Delivers s event t := by
  obtain ⟨hafter, hgrows⟩ := ordered_step hordered hsteady hstep
  refine ⟨hafter.inOrder, fun _ _ => hafter.inOrder.increasing, hgrows, ?_⟩
  rintro socket now uuid message rfl
  rw [stream_message hstep]
  exact (hordered.data hsteady.1 hsteady.2).2.1

/-- **In order, once each.**  In every run whose events are all steady, every event delivers
what it should. -/
theorem deliversAll_of_steady (config : ReconnectConfig) (events : List ClientEvent)
    (hsteady : Allowed (clientStep config) Steady .start events) :
    Respects (clientStep config) Delivers .start events := by
  refine respects_of_allowed (fun s : Client => Ordered s.stream) ?_ events Client.start
    ordered_start hsteady
  intro s event t hordered hcond hstep
  exact ⟨(ordered_step hordered hcond hstep).1, delivers_of_steady hordered hcond hstep⟩

/-- A connect to the end, with what the storage reads. -/
def connectEvents (id : Nat) (store : CursorStore) : List ClientEvent :=
  [.cursorsLoaded store, .connection .urlResolved, .connection (.socketOpen id),
    .message (some id) 0 "u" (.helloAck "h" "c" "1.0"), .connection .helloDone]

def orderEvent (id : Nat) (seq : Nat) : ClientEvent :=
  .message (some id) 0 "u" (.data ⟨"m", "orders", "sales", none, seq, 0, none, .created, "{}"⟩)

def firstCursor : CursorStore :=
  JsMap.empty.set (resolveTopicKey "orders" "sales") ⟨"orders", "sales", 1, none, 0, 0⟩

/-- A connection that is lost and made again, with what the storage reads then. -/
def lostAndResumed (store : CursorStore) : List ClientEvent :=
  .connection .connect :: connectEvents 0 .empty ++
    [orderEvent 0 1, .connection (.socketClose 0), .connection (.timerFires 0)] ++
    connectEvents 1 store ++ [orderEvent 1 1]

/-- The storage has the cursor: what the server sends again is dropped. -/
theorem lostAndResumed_delivers :
    Respects (clientStep ⟨none, none⟩) Delivers .start (lostAndResumed firstCursor) :=
  deliversAll_of_steady _ _ (by decide +kernel)

/-- Nothing was stored, or the storage lost it: the same message is delivered twice. -/
theorem lostCursor_repeats :
    ¬ Respects (clientStep ⟨none, none⟩) Delivers .start (lostAndResumed .empty) := by
  intro h
  obtain ⟨s, hexec, hrepeats⟩ : ∃ s, Exec (clientStep ⟨none, none⟩) .start
      (lostAndResumed .empty).dropLast s ∧ ((clientStep ⟨none, none⟩ s (orderEvent 1 1)).map
        fun t => numbers "orders" "sales" t.stream.delivered) = some [1, 1] :=
    exists_exec (by decide +kernel)
  obtain ⟨t, hstep, hnumbers⟩ := Option.map_eq_some_iff.1 hrepeats
  have hsplit : lostAndResumed .empty =
      (lostAndResumed .empty).dropLast ++ orderEvent 1 1 :: [] := rfl
  rw [hsplit] at h
  have hdelivers : ∀ t, clientStep ⟨none, none⟩ s (orderEvent 1 1) = some t →
      Delivers s (orderEvent 1 1) t := Allowed.at_step h hexec
  have hincreasing := (hdelivers t hstep).increasing "orders" "sales"
  rw [hnumbers] at hincreasing
  revert hincreasing
  decide

end Zentra.Realtime
