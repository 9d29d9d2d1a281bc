import Zentra.TableLocks

/-!
# Readers and writers exclude each other

* `Inv.step` — what a call keeps of all tables;
* `exclusion` — in every state that calls can lead to, a table has one writer or readers, and
  every request is granted once or waits.
-/

open StepTrace

namespace Zentra

namespace TableLocking

namespace TableLock

/-- The lock of a table that a number of readers and of writers hold. -/
structure Sound (table : String) (readers writers : Nat) (lock : TableLock) : Prop where
  readersCount : lock.readersCount = readers
  writer : writers = if lock.writer = true then 1 else 0
  exclusive : lock.writer = true → readers = 0
  readersQueue : ∀ ticket ∈ lock.readersQueue, ticket.table = table ∧ ticket.mode = .read
  writersQueue : ∀ ticket ∈ lock.writersQueue, ticket.table = table ∧ ticket.mode = .write
  readersWait : lock.readersQueue ≠ [] → lock.writer = true ∨ lock.writersQueue ≠ []
  writersWait : lock.writersQueue ≠ [] → lock.writer = true ∨ readers ≠ 0

variable {table : String} {readers writers : Nat} {lock : TableLock} {ticket : Ticket}

theorem sound_new : Sound table 0 0 {} := by
  constructor <;> simp

/-- **Acquiring.** A free lock gets one more holder in the mode of the request. -/
theorem Sound.acquire_free (h : Sound table readers writers lock)
    (hfree : lock.Free ticket.mode) :
    Sound table (if ticket.mode = .read then readers + 1 else readers)
      (if ticket.mode = .write then writers + 1 else writers) (lock.acquire ticket) := by
  unfold TableLock.acquire
  rw [if_pos hfree]
  cases hmode : ticket.mode with
  | read =>
      rw [hmode] at hfree
      obtain ⟨hwriter, hqueue⟩ := hfree
      obtain ⟨hcount, hone, hexclusive, hreaders, hwriters, hrwait, hwwait⟩ := h
      constructor
      · show lock.readersCount + 1 = _
        simp [hcount]
      · exact hone
      · intro hnot
        exact absurd hnot (by simp [hold, hwriter])
      · exact hreaders
      · exact hwriters
      · exact hrwait
      · intro hne
        exact absurd hqueue hne
  | write =>
      rw [hmode] at hfree
      obtain ⟨hzero, hwriter⟩ := hfree
      obtain ⟨hcount, hone, hexclusive, hreaders, hwriters, hrwait, hwwait⟩ := h
      have hnone : readers = 0 := by omega
      constructor
      · exact hcount
      · simp [hold, hone, hwriter]
      · exact fun _ => hnone
      · exact hreaders
      · exact hwriters
      · exact fun _ => .inl rfl
      · exact fun _ => .inl rfl

theorem Sound.acquire_busy (h : Sound table readers writers lock)
    (htable : ticket.table = table) (hbusy : ¬ lock.Free ticket.mode) :
    Sound table readers writers (lock.acquire ticket) := by
  unfold TableLock.acquire
  rw [if_neg hbusy]
  unfold enqueue
  obtain ⟨hcount, hone, hexclusive, hreaders, hwriters, hrwait, hwwait⟩ := h
  cases hmode : ticket.mode with
  | read =>
      rw [hmode] at hbusy
      refine ⟨hcount, hone, hexclusive, ?_, hwriters, ?_, hwwait⟩
      · intro other hother
        rcases List.mem_append.1 hother with hold | hnew
        · exact hreaders other hold
        · rw [List.mem_singleton.1 hnew]
          exact ⟨htable, hmode⟩
      · intro _
        by_cases hwriter : lock.writer = true
        · exact .inl hwriter
        · exact .inr fun hqueue => hbusy ⟨by simpa using hwriter, hqueue⟩
  | write =>
      rw [hmode] at hbusy
      refine ⟨hcount, hone, hexclusive, hreaders, ?_, ?_, ?_⟩
      · intro other hother
        rcases List.mem_append.1 hother with hold | hnew
        · exact hwriters other hold
        · rw [List.mem_singleton.1 hnew]
          exact ⟨htable, hmode⟩
      · exact fun _ => .inr (by simp)
      · intro _
        by_cases hwriter : lock.writer = true
        · exact .inl hwriter
        · refine .inr fun hzero => hbusy ⟨?_, by simpa using hwriter⟩
          rw [hcount, hzero]
          rfl

theorem Sound.promoteWriter (h : lock.readersCount = 0) (hwriter : lock.writer = false)
    (hreaders : lock.readersQueue = [] ∨ lock.writersQueue ≠ [])
    (hrqueue : ∀ ticket ∈ lock.readersQueue, ticket.table = table ∧ ticket.mode = .read)
    (hwqueue : ∀ ticket ∈ lock.writersQueue, ticket.table = table ∧ ticket.mode = .write) :
    Sound table 0 lock.promoteWriter.2.length lock.promoteWriter.1 := by
  unfold TableLock.promoteWriter
  cases hqueue : lock.writersQueue with
  | nil =>
      have hnone : lock.readersQueue = [] := hreaders.resolve_right fun hne => hne hqueue
      exact ⟨h, by simp [hwriter], by simp [hwriter], hrqueue, by simp [hqueue],
        by simp [hnone], by simp [hqueue]⟩
  | cons next rest =>
      rw [hqueue] at hwqueue
      exact ⟨h, by simp, fun _ => rfl, hrqueue,
        fun ticket hmem => hwqueue ticket (List.mem_cons_of_mem next hmem),
        fun _ => .inl rfl, fun _ => .inl rfl⟩

theorem mem_promoteWriter (h : ∀ ticket ∈ lock.writersQueue, ticket.mode = .write) :
    ∀ ticket ∈ lock.promoteWriter.2, ticket.mode = .write := by
  unfold TableLock.promoteWriter
  cases hqueue : lock.writersQueue with
  | nil => simp
  | cons next rest =>
      intro ticket hmem
      rw [List.mem_singleton.1 hmem]
      exact h next (hqueue ▸ List.mem_cons_self)

/-- **Releasing a read lock.** The next writer is promoted once no reader is left. -/
theorem Sound.releaseRead (h : Sound table (readers + 1) writers lock) :
    Sound table readers (writers + (lock.release .read).2.length) (lock.release .read).1 := by
  obtain ⟨hcount, hone, hexclusive, hreaders, hwriters, hrwait, hwwait⟩ := h
  have hwriter : lock.writer = false := by
    cases hw : lock.writer with
    | false => rfl
    | true => exact absurd (hexclusive hw) (by omega)
  have hnone : writers = 0 := by simpa [hwriter] using hone
  have hleft : lock.readersCount - 1 = readers := by
    rw [hcount]
    push_cast
    omega
  have hqueues : lock.readersQueue ≠ [] → lock.writersQueue ≠ [] := by
    intro hne
    exact (hrwait hne).resolve_left (by simp [hwriter])
  unfold release
  by_cases hlast : lock.readersCount - 1 = 0
  · have hzero : readers = 0 := by omega
    simp only [if_pos hlast, hzero, hnone, Nat.zero_add]
    refine Sound.promoteWriter hlast hwriter ?_ hreaders hwriters
    by_cases hempty : lock.readersQueue = []
    · exact .inl hempty
    · exact .inr (hqueues hempty)
  · simp only [if_neg hlast]
    have hsome : readers ≠ 0 := by omega
    refine ⟨hleft, hone, ?_, hreaders, hwriters, fun hne => .inr (hqueues hne),
      fun _ => .inr hsome⟩
    intro hw
    rw [hwriter] at hw
    cases hw

/-- **Releasing a write lock.** All waiting readers are promoted; if there are none, the
next writer. -/
theorem Sound.releaseWrite (h : Sound table readers (writers + 1) lock) :
    Sound table ((lock.release .write).2.countP fun ticket => ticket.mode = .read)
      ((lock.release .write).2.countP fun ticket => ticket.mode = .write)
      (lock.release .write).1 ∧ readers = 0 ∧ writers = 0 := by
  obtain ⟨hcount, hone, hexclusive, hreaders, hwriters, hrwait, hwwait⟩ := h
  have hwriter : lock.writer = true := by
    cases hw : lock.writer with
    | true => rfl
    | false => simp [hw] at hone
  have hzero : readers = 0 := hexclusive hwriter
  have hnone : writers = 0 := by simpa [hwriter] using hone
  refine ⟨?_, hzero, hnone⟩
  unfold release
  by_cases hwaiting : lock.readersQueue ≠ []
  · simp only [if_pos hwaiting, TableLock.promoteReaders]
    have hall : lock.readersQueue.countP (fun ticket => ticket.mode = .read) =
        lock.readersQueue.length :=
      List.countP_eq_length.2 fun ticket hmem => by simp [(hreaders ticket hmem).2]
    have hno : lock.readersQueue.countP (fun ticket => ticket.mode = .write) = 0 :=
      List.countP_eq_zero.2 fun ticket hmem => by simp [(hreaders ticket hmem).2]
    rw [hall, hno]
    refine ⟨?_, by simp, by simp, by simp, hwriters, by simp, fun _ => .inr ?_⟩
    · show lock.readersCount + _ = _
      rw [hcount, hzero]
      simp
    · simpa using hwaiting
  · simp only [if_neg hwaiting]
    have hempty : lock.readersQueue = [] := by simpa using hwaiting
    have hsound := @Sound.promoteWriter table { lock with writer := false }
      (by simp [hcount, hzero]) rfl (.inl hempty) hreaders hwriters
    have hno := @mem_promoteWriter { lock with writer := false } fun ticket hmem =>
      (hwriters ticket hmem).2
    rw [List.countP_eq_zero.2 fun ticket hmem => by simp [hno ticket hmem],
      List.countP_eq_length.2 fun ticket hmem => by simp [hno ticket hmem]]
    exact hsound

theorem Sound.release_read_mode (h : Sound table readers writers lock) :
    ∀ ticket ∈ (lock.release .read).2, ticket.mode = .write := by
  unfold release
  by_cases hlast : lock.readersCount - 1 = 0
  · simp only [if_pos hlast]
    exact mem_promoteWriter fun ticket hmem => (h.writersQueue ticket hmem).2
  · simp only [if_neg hlast]
    simp

/-- **Releasing.** The lock has one holder less in the mode that is released, and the
promoted requests as new holders. -/
theorem Sound.release {mode : QueryMode}
    (h : Sound table (if mode = .read then readers + 1 else readers)
      (if mode = .write then writers + 1 else writers) lock) :
    Sound table
      (readers + (lock.release mode).2.countP fun ticket => ticket.mode = .read)
      (writers + (lock.release mode).2.countP fun ticket => ticket.mode = .write)
      (lock.release mode).1 := by
  cases mode with
  | read =>
      have hmode := h.release_read_mode
      rw [List.countP_eq_zero.2 fun ticket hmem => by simp [hmode ticket hmem],
        List.countP_eq_length.2 fun ticket hmem => by simp [hmode ticket hmem]]
      exact Sound.releaseRead h
  | write =>
      obtain ⟨hsound, hreaders, hwriters⟩ := Sound.releaseWrite h
      have hzero : readers = 0 := hreaders
      rw [hzero, hwriters, Nat.zero_add, Nat.zero_add]
      exact hsound

theorem count_release (mode : QueryMode) (ticket : Ticket) :
    (lock.release mode).2.count ticket + (lock.release mode).1.waiting.count ticket =
      lock.waiting.count ticket := by
  have hwriter : ∀ lock : TableLock, lock.promoteWriter.2.count ticket +
      lock.promoteWriter.1.waiting.count ticket = lock.waiting.count ticket := by
    intro lock
    unfold TableLock.promoteWriter
    cases hqueue : lock.writersQueue with
    | nil => simp
    | cons next rest =>
        simp only [waiting, hqueue, List.count_append, List.count_cons, List.count_nil]
        omega
  cases mode with
  | read =>
      unfold release
      by_cases hlast : lock.readersCount - 1 = 0
      · simp only [if_pos hlast]
        exact hwriter { lock with readersCount := lock.readersCount - 1 }
      · simp only [if_neg hlast]
        simp [waiting]
  | write =>
      unfold release
      by_cases hwaiting : lock.readersQueue ≠ []
      · simp only [if_pos hwaiting, TableLock.promoteReaders, waiting]
        simp
      · simp only [if_neg hwaiting]
        exact hwriter { lock with writer := false }

theorem count_acquire (hmode : ¬ lock.Free ticket.mode) (other : Ticket) :
    (lock.acquire ticket).waiting.count other =
      lock.waiting.count other + [ticket].count other := by
  unfold TableLock.acquire
  rw [if_neg hmode]
  unfold enqueue waiting
  cases ticket.mode with
  | read =>
      simp only [List.count_append]
      omega
  | write =>
      simp only [List.count_append]
      omega

theorem waiting_acquire_free (hmode : lock.Free ticket.mode) :
    (lock.acquire ticket).waiting = lock.waiting := by
  unfold TableLock.acquire
  rw [if_pos hmode]
  cases ticket.mode with
  | read => rfl
  | write => rfl

theorem idle_iff : lock.Idle ↔ lock = {} := by
  cases lock
  simp [Idle]

end TableLock

/-- The locks of all tables are sound, and every request is granted or waits. -/
structure Inv (s : LockState) : Prop where
  sound : ∀ table, (s.lock table).Sound table (s.holders table .read).length
    (s.holders table .write).length
  conserved : ∀ ticket, s.granted.count ticket +
    (s.lock ticket.table).waiting.count ticket = s.issued.count ticket
  issued : s.issued.Nodup

section Steps

variable {s : LockState} {ticket other : Ticket} {table : String} {mode : QueryMode}

theorem length_holders : (s.holders table mode).length =
    s.held.countP fun ticket => ticket.table = table ∧ ticket.mode = mode :=
  List.countP_eq_length_filter.symm

theorem lock_acquireOne : (s.acquireOne ticket).lock table =
    if table = ticket.table then (s.lock table).acquire ticket else s.lock table := by
  unfold LockState.acquireOne
  by_cases htable : table = ticket.table
  · subst htable
    simp [LockState.lock]
  · simp [LockState.lock, htable]

theorem Inv.acquireOne (h : Inv s) (hnew : ticket ∉ s.issued) : Inv (s.acquireOne ticket) := by
  obtain ⟨hsound, hconserved, hissued⟩ := h
  have hcounts : ∀ table mode, ((s.acquireOne ticket).holders table mode).length =
      (s.holders table mode).length + if (s.lock ticket.table).Free ticket.mode ∧
        ticket.table = table ∧ ticket.mode = mode then 1 else 0 := by
    intro table mode
    rw [length_holders, length_holders]
    by_cases hfree : (s.lock ticket.table).Free ticket.mode
    · have hheld : (s.acquireOne ticket).held = s.held ++ [ticket] := if_pos hfree
      rw [hheld, List.countP_append, List.countP_singleton]
      simp [hfree]
    · have hheld : (s.acquireOne ticket).held = s.held := if_neg hfree
      rw [hheld]
      simp [hfree]
  refine ⟨?_, ?_, ?_⟩
  · intro table
    rw [lock_acquireOne, hcounts, hcounts]
    by_cases htable : table = ticket.table
    · subst htable
      by_cases hfree : (s.lock ticket.table).Free ticket.mode
      · have hafter := (hsound ticket.table).acquire_free hfree
        cases hmode : ticket.mode with
        | read => simpa [hmode, hmode ▸ hfree] using hafter
        | write => simpa [hmode, hmode ▸ hfree] using hafter
      · simpa [hfree] using (hsound ticket.table).acquire_busy rfl hfree
    · have hne : ticket.table ≠ table := fun heq => htable heq.symm
      simpa [htable, hne] using hsound table
  · intro other
    have hbefore := hconserved other
    rw [lock_acquireOne]
    by_cases hfree : (s.lock ticket.table).Free ticket.mode
    · have hwaiting : (if other.table = ticket.table then
          (s.lock other.table).acquire ticket else s.lock other.table).waiting =
          (s.lock other.table).waiting := by
        by_cases htable : other.table = ticket.table
        · rw [if_pos htable, htable, TableLock.waiting_acquire_free hfree]
        · rw [if_neg htable]
      rw [hwaiting]
      simp only [LockState.acquireOne, if_pos hfree, List.count_append]
      omega
    · simp only [LockState.acquireOne, if_neg hfree, List.count_append]
      by_cases htable : other.table = ticket.table
      · rw [if_pos htable, htable, TableLock.count_acquire hfree]
        rw [htable] at hbefore
        omega
      · have hne : ticket ≠ other := fun heq => htable (heq ▸ rfl)
        rw [if_neg htable, List.count_singleton]
        simp [hne]
        omega
  · exact List.nodup_append.2 ⟨hissued, List.nodup_singleton _, by
      intro a ha b hb
      rw [List.mem_singleton.1 hb]
      intro heq
      exact hnew (heq ▸ ha)⟩

theorem issued_acquireEach {tickets : List Ticket} :
    (tickets.foldl LockState.acquireOne s).issued = s.issued ++ tickets := by
  induction tickets generalizing s with
  | nil => exact (List.append_nil _).symm
  | cons ticket tickets ih =>
      rw [List.foldl_cons, ih]
      exact List.append_assoc _ [ticket] tickets

theorem Inv.acquireEach {tickets : List Ticket} (h : Inv s) (hnodup : tickets.Nodup)
    (hnew : ∀ ticket ∈ tickets, ticket ∉ s.issued) :
    Inv (tickets.foldl LockState.acquireOne s) := by
  induction tickets generalizing s with
  | nil => exact h
  | cons ticket tickets ih =>
      obtain ⟨hfirst, hrest⟩ := List.nodup_cons.1 hnodup
      apply ih (h.acquireOne (hnew ticket List.mem_cons_self)) hrest
      intro other hother hissued
      rcases List.mem_append.1 hissued with hold | hsame
      · exact hnew other (List.mem_cons_of_mem ticket hother) hold
      · exact hfirst (List.mem_singleton.1 hsame ▸ hother)

/-- The requests of a call are told apart by their places. -/
theorem nodup_ticketsOf (names : List String) : (s.ticketsOf names mode).Nodup := by
  apply List.Nodup.of_map Ticket.place
  have hplaces : (s.ticketsOf names mode).map Ticket.place =
      List.range' 0 (sortNames names).length := by
    unfold LockState.ticketsOf
    rw [List.map_map]
    exact List.zipIdx_map_snd 0 _
  rw [hplaces]
  exact List.nodup_range'

theorem call_of_mem_ticketsOf {names : List String} (h : ticket ∈ s.ticketsOf names mode) :
    ticket.call = s.calls := by
  obtain ⟨entry, -, rfl⟩ := List.mem_map.1 h
  rfl

theorem Inv.registered (h : Inv s) (hheld : ticket ∈ s.held) :
    s.tableLockRegistry ticket.table = some (s.lock ticket.table) := by
  cases hlock : s.tableLockRegistry ticket.table with
  | some lock => simp [LockState.lock, hlock]
  | none =>
      exfalso
      have hnew : s.lock ticket.table = {} := by simp [LockState.lock, hlock]
      obtain ⟨hreaders, hwriters, -⟩ := h.sound ticket.table
      rw [hnew] at hreaders hwriters
      have hmem : ticket ∈ s.holders ticket.table ticket.mode :=
        List.mem_filter.2 ⟨hheld, by simp⟩
      have hpos := List.length_pos_of_mem hmem
      cases hmode : ticket.mode with
      | read =>
          rw [hmode] at hpos
          have hzero : ((s.holders ticket.table .read).length : Int) = 0 := hreaders.symm
          omega
      | write =>
          rw [hmode] at hpos
          have hzero : (s.holders ticket.table .write).length = 0 := hwriters
          omega

theorem Inv.releaseOne_eq (h : Inv s) (hheld : ticket ∈ s.held) : s.releaseOne ticket =
    { s with
      tableLockRegistry := Function.update s.tableLockRegistry ticket.table
        (if ((s.lock ticket.table).release ticket.mode).1.Idle then none
          else some ((s.lock ticket.table).release ticket.mode).1)
      granted := s.granted ++ ((s.lock ticket.table).release ticket.mode).2
      held := s.held.erase ticket ++ ((s.lock ticket.table).release ticket.mode).2 } := by
  unfold LockState.releaseOne
  rw [h.registered hheld]

theorem Inv.lock_releaseOne (h : Inv s) (hheld : ticket ∈ s.held) :
    (s.releaseOne ticket).lock table =
      if table = ticket.table then ((s.lock table).release ticket.mode).1
      else s.lock table := by
  rw [h.releaseOne_eq hheld]
  by_cases htable : table = ticket.table
  · subst htable
    rw [if_pos rfl]
    show (Function.update s.tableLockRegistry ticket.table _ ticket.table).getD {} = _
    rw [Function.update_self]
    by_cases hidle : ((s.lock ticket.table).release ticket.mode).1.Idle
    · rw [if_pos hidle]
      exact (TableLock.idle_iff.1 hidle).symm
    · rw [if_neg hidle]
      rfl
  · simp [LockState.lock, htable]

theorem TableLock.mem_release {lock : TableLock} (h : other ∈ (lock.release mode).2) :
    other ∈ lock.waiting := by
  have hcount := lock.count_release mode other
  have hpos := List.count_pos_iff.2 h
  apply List.count_pos_iff.1
  omega

theorem TableLock.Sound.table_of_waiting {lock : TableLock} {readers writers : Nat}
    (h : lock.Sound table readers writers) (hmem : other ∈ lock.waiting) :
    other.table = table := by
  rcases List.mem_append.1 hmem with hreader | hwriter
  · exact (h.readersQueue other hreader).1
  · exact (h.writersQueue other hwriter).1

theorem Inv.releaseOne (h : Inv s) (hheld : ticket ∈ s.held) : Inv (s.releaseOne ticket) := by
  have hafter := h.releaseOne_eq hheld
  have hpromoted : ∀ other ∈ ((s.lock ticket.table).release ticket.mode).2,
      other.table = ticket.table := fun other hmem =>
    (h.sound ticket.table).table_of_waiting (TableLock.mem_release hmem)
  have hcounts : ∀ table mode, ((s.releaseOne ticket).holders table mode).length =
      (s.held.erase ticket).countP (fun other => other.table = table ∧ other.mode = mode) +
        if table = ticket.table then
          ((s.lock ticket.table).release ticket.mode).2.countP fun other => other.mode = mode
        else 0 := by
    intro table mode
    rw [length_holders, hafter, List.countP_append, Nat.add_left_cancel_iff]
    by_cases htable : table = ticket.table
    · rw [if_pos htable]
      apply List.countP_congr
      intro other hmem
      simp [htable, hpromoted other hmem]
    · rw [if_neg htable]
      apply List.countP_eq_zero.2
      intro other hmem
      have hne : ticket.table ≠ table := fun heq => htable heq.symm
      simp [hpromoted other hmem, hne]
  have hbefore : ∀ table mode, (s.holders table mode).length =
      (s.held.erase ticket).countP (fun other => other.table = table ∧ other.mode = mode) +
        if ticket.table = table ∧ ticket.mode = mode then 1 else 0 := by
    intro table mode
    have hperm := (List.perm_cons_erase hheld).countP_eq
      fun other => decide (other.table = table ∧ other.mode = mode)
    rw [length_holders, hperm, List.countP_cons]
    simp
  obtain ⟨hsound, hconserved, hissued⟩ := h
  refine ⟨?_, ?_, ?_⟩
  · intro table
    rw [Inv.lock_releaseOne ⟨hsound, hconserved, hissued⟩ hheld, hcounts, hcounts]
    have hold := hsound table
    rw [hbefore, hbefore] at hold
    by_cases htable : table = ticket.table
    · subst htable
      simp only [if_true]
      apply TableLock.Sound.release
      cases hmode : ticket.mode with
      | read => simpa [hmode] using hold
      | write => simpa [hmode] using hold
    · have hne : ticket.table ≠ table := fun heq => htable heq.symm
      simpa [htable, hne] using hold
  · intro other
    rw [Inv.lock_releaseOne ⟨hsound, hconserved, hissued⟩ hheld]
    have hold := hconserved other
    rw [hafter]
    show (s.granted ++ _).count other + _ = s.issued.count other
    rw [List.count_append]
    by_cases htable : other.table = ticket.table
    · rw [if_pos htable, htable]
      have hcount := (s.lock ticket.table).count_release ticket.mode other
      rw [htable] at hold
      omega
    · have hnone : ((s.lock ticket.table).release ticket.mode).2.count other = 0 :=
        List.count_eq_zero.2 fun hmem => htable (hpromoted other hmem)
      rw [if_neg htable, hnone]
      omega
  · rw [hafter]
    exact hissued

theorem issued_releaseOne : (s.releaseOne ticket).issued = s.issued := by
  unfold LockState.releaseOne
  cases s.tableLockRegistry ticket.table with
  | none => rfl
  | some lock => rfl

theorem calls_releaseOne : (s.releaseOne ticket).calls = s.calls := by
  unfold LockState.releaseOne
  cases s.tableLockRegistry ticket.table with
  | none => rfl
  | some lock => rfl

theorem issued_releaseLocks {tickets : List Ticket} :
    (s.releaseLocks tickets).issued = s.issued := by
  induction tickets generalizing s with
  | nil => rfl
  | cons ticket tickets ih => exact ih.trans issued_releaseOne

theorem calls_releaseLocks {tickets : List Ticket} :
    (s.releaseLocks tickets).calls = s.calls := by
  induction tickets generalizing s with
  | nil => rfl
  | cons ticket tickets ih => exact ih.trans calls_releaseOne

theorem Inv.held_releaseOne (h : Inv s) (hheld : ticket ∈ s.held) (hother : other ∈ s.held)
    (hne : other ≠ ticket) : other ∈ (s.releaseOne ticket).held := by
  rw [h.releaseOne_eq hheld]
  exact List.mem_append_left _ ((List.mem_erase_of_ne hne).2 hother)

theorem Inv.releaseLocks {tickets : List Ticket} (h : Inv s) (hnodup : tickets.Nodup)
    (hheld : ∀ ticket ∈ tickets, ticket ∈ s.held) : Inv (s.releaseLocks tickets) := by
  induction tickets generalizing s with
  | nil => exact h
  | cons ticket tickets ih =>
      obtain ⟨hfirst, hrest⟩ := List.nodup_cons.1 hnodup
      have hmem := hheld ticket List.mem_cons_self
      apply ih (h.releaseOne hmem) hrest
      intro other hother
      have hne : other ≠ ticket := fun heq => hfirst (heq ▸ hother)
      exact h.held_releaseOne hmem (hheld other (List.mem_cons_of_mem ticket hother)) hne

theorem Inv.step {s t : LockState} {action : Action} (h : Inv s)
    (hcalls : ∀ ticket ∈ s.issued, ticket.call < s.calls)
    (hstep : step s action = some t) :
    Inv t ∧ ∀ ticket ∈ t.issued, ticket.call < t.calls := by
  cases action with
  | acquire names mode =>
      obtain rfl := Option.some.inj hstep
      have hfresh : ∀ ticket ∈ s.ticketsOf names mode, ticket ∉ s.issued := by
        intro ticket hmem hissued
        have hlt := hcalls ticket hissued
        rw [call_of_mem_ticketsOf hmem] at hlt
        exact lt_irrefl _ hlt
      obtain ⟨hsound, hconserved, hissued⟩ := h.acquireEach (nodup_ticketsOf names) hfresh
      refine ⟨⟨hsound, hconserved, hissued⟩, ?_⟩
      intro ticket hmem
      have hall : ticket ∈ s.issued ++ s.ticketsOf names mode := by
        rw [← issued_acquireEach]
        exact hmem
      show ticket.call < s.calls + 1
      rcases List.mem_append.1 hall with hold | hnew
      · exact Nat.lt_succ_of_lt (hcalls ticket hold)
      · rw [call_of_mem_ticketsOf hnew]
        exact Nat.lt_succ_self _
  | release tickets =>
      by_cases hok : Releasable s tickets
      · simp only [TableLocking.step, if_pos hok, Option.some.injEq] at hstep
        subst hstep
        refine ⟨h.releaseLocks hok.1 hok.2.1, ?_⟩
        rw [issued_releaseLocks, calls_releaseLocks]
        exact hcalls
      · simp [TableLocking.step, hok] at hstep

theorem inv_of_exec {as : List Action} {s : LockState} (h : Exec step {} as s) : Inv s := by
  refine (h.invariant (fun s => Inv s ∧ ∀ ticket ∈ s.issued, ticket.call < s.calls)
    ⟨⟨fun _ => TableLock.sound_new, fun _ => rfl, List.nodup_nil⟩, by simp⟩ ?_).1
  intro s action t hinv hstep
  exact hinv.1.step hinv.2 hstep

end Steps

/-- Nobody holds a table that another writes, the counter of each registered lock is right,
every request is granted once or waits, and a table that is not registered is free. -/
structure Excludes (s : LockState) : Prop where
  oneWriter : ∀ table, (s.holders table .write).length ≤ 1
  noReaders : ∀ table, s.holders table .write ≠ [] → s.holders table .read = []
  readersCount : ∀ table lock, s.tableLockRegistry table = some lock →
    lock.readersCount = (s.holders table .read).length
  once : ∀ ticket, s.granted.count ticket + (s.lock ticket.table).waiting.count ticket =
    if ticket ∈ s.issued then 1 else 0
  dropped : ∀ table, s.tableLockRegistry table = none →
    (∀ mode, s.holders table mode = []) ∧
      ∀ ticket ∈ s.issued, ticket.table = table → ticket ∈ s.granted

theorem Inv.excludes {s : LockState} (h : Inv s) : Excludes s := by
  have hwriters : ∀ table, (s.holders table .write).length =
      if (s.lock table).writer = true then 1 else 0 := fun table => (h.sound table).writer
  have honce : ∀ ticket, s.granted.count ticket +
      (s.lock ticket.table).waiting.count ticket = if ticket ∈ s.issued then 1 else 0 := by
    intro ticket
    rw [h.conserved, h.issued.count]
  refine ⟨?_, ?_, ?_, honce, ?_⟩
  · intro table
    have hone := hwriters table
    split at hone <;> omega
  · intro table hheld
    have hone := hwriters table
    have hpos := List.length_pos_iff.2 hheld
    have hwriter : (s.lock table).writer = true := by
      by_contra hnot
      rw [if_neg hnot] at hone
      omega
    exact List.eq_nil_of_length_eq_zero ((h.sound table).exclusive hwriter)
  · intro table lock hlock
    have hcount := (h.sound table).readersCount
    rw [LockState.lock, hlock] at hcount
    exact hcount
  · intro table hnone
    have hnew : s.lock table = {} := by rw [LockState.lock, hnone]; rfl
    refine ⟨?_, ?_⟩
    · intro mode
      apply List.eq_nil_iff_forall_not_mem.2
      intro ticket hmem
      obtain ⟨hheld, hof⟩ := List.mem_filter.1 hmem
      have htable : ticket.table = table := (of_decide_eq_true hof).1
      have hregistered := h.registered hheld
      rw [htable, hnone] at hregistered
      cases hregistered
    · intro ticket hissued htable
      have hcount := honce ticket
      rw [htable, hnew, if_pos hissued] at hcount
      apply List.count_pos_iff.1
      have hnowait : (({} : TableLock).waiting).count ticket = 0 := rfl
      omega

/-- **Exclusion.** Whatever calls come in whatever order, as long as each releases what it
holds, every table has one writer or readers, and no request is lost or granted twice. -/
theorem exclusion {as : List Action} {s : LockState} (h : Exec step {} as s) : Excludes s :=
  (inv_of_exec h).excludes

/-- A writer of two tables releases them to a reader and to another writer. -/
def handOver : List Action :=
  [.acquire ["orders", "items"] .write, .acquire ["orders"] .read,
    .acquire ["items"] .write,
    .release [⟨0, 1, "orders", .write⟩, ⟨0, 0, "items", .write⟩]]

theorem exclusion_handOver : ∃ s, Exec step {} handOver s ∧ Excludes s ∧
    s.holders "orders" .read = [⟨1, 0, "orders", .read⟩] ∧
    s.holders "items" .write = [⟨2, 0, "items", .write⟩] := by
  obtain ⟨s, hexec, hheld⟩ := @exists_exec _ _ step (fun s =>
    s.holders "orders" .read = [⟨1, 0, "orders", .read⟩] ∧
      s.holders "items" .write = [⟨2, 0, "items", .write⟩]) _ handOver {} (by decide)
  exact ⟨s, hexec, exclusion hexec, hheld⟩

end TableLocking

end Zentra
