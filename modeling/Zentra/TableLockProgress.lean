import Zentra.TableLockExclusion

/-!
# When those who wait for tables get them

A call takes the free ones among its tables at once and waits for the others, which it may
do without a deadlock as long as nobody overtakes it: the tables of a call are asked for in
one go, so the waits point from later calls to earlier ones.  A writer that releases a table
promotes all waiting readers, also those that are behind another writer.

* `progress_of_inOrder` — as long as each reader that overtakes a writer gets all its tables
  by that release, somebody who has all its tables can always go on;
* `overtaken_stuck` — a reader that overtakes a writer on one table and waits behind it on
  another.
-/

open StepTrace

namespace Zentra

namespace TableLocking

/-- A call asks for different tables, and releases exactly what it asked for. -/
def Disciplined (s : LockState) : Action → Prop
  | .acquire names _ => names.Nodup
  | .release tickets => ∀ ticket ∈ tickets,
      tickets.Perm (s.issued.filter fun other => other.call = ticket.call)

instance (s : LockState) : ∀ action, Decidable (Disciplined s action)
  | .acquire names _ => inferInstanceAs (Decidable names.Nodup)
  | .release tickets => inferInstanceAs (Decidable (∀ ticket ∈ tickets, _))

def disciplinedStep (s : LockState) (action : Action) : Option LockState :=
  if Disciplined s action then step s action else none

/-- If a request waits, somebody holds a table and waits for none. -/
def Progress (s : LockState) : Prop :=
  (∃ ticket ∈ s.issued, s.Waits ticket) →
    ∃ ticket ∈ s.held, ∀ other ∈ s.issued, other.call = ticket.call → ¬ s.Waits other

instance (s : LockState) : Decidable (Progress s) := inferInstanceAs (Decidable (_ → _))

/-- A reader that overtakes an earlier writer waits for tables that are released with it
only. -/
def InOrder (s : LockState) : Action → Prop
  | .acquire _ _ => True
  | .release tickets => ∀ ticket ∈ tickets, ticket.mode = .write →
      ∀ reader ∈ (s.lock ticket.table).readersQueue,
        ∀ writer ∈ (s.lock ticket.table).writersQueue, writer.call < reader.call →
          ∀ other ∈ s.issued, s.Waits other → other.call = reader.call →
            ∃ released ∈ tickets, released.table = other.table

instance (s : LockState) : ∀ action, Decidable (InOrder s action)
  | .acquire _ _ => .isTrue trivial
  | .release tickets => inferInstanceAs (Decidable (∀ ticket ∈ tickets, _))

namespace TableLock

variable {lock : TableLock} {ticket other : Ticket} {table : String} {readers writers : Nat}
  {mode : QueryMode}

/-- Writers wait in the order of their calls, and a reader waits behind an earlier writer. -/
structure InLine (lock : TableLock) : Prop where
  sorted : lock.writersQueue.Pairwise fun first second => first.call < second.call
  behind : lock.writer = false →
    ∀ reader ∈ lock.readersQueue, ∃ writer ∈ lock.writersQueue, writer.call < reader.call

theorem inLine_new : InLine {} := ⟨List.Pairwise.nil, by simp⟩

theorem Sound.waiting_of_free (h : Sound table readers writers lock)
    (hfree : lock.Free mode) : lock.waiting = [] := by
  have hwriters : lock.writersQueue = [] ∧ lock.writer = false := by
    cases mode with
    | read => exact ⟨hfree.2, hfree.1⟩
    | write =>
        refine ⟨?_, hfree.2⟩
        by_contra hne
        rcases h.writersWait hne with hwriter | hreaders
        · rw [hfree.2] at hwriter
          cases hwriter
        · have hcount := h.readersCount
          have hzero : lock.readersCount = 0 := hfree.1
          omega
  have hreaders : lock.readersQueue = [] := by
    by_contra hne
    rcases h.readersWait hne with hwriter | hqueue
    · rw [hwriters.2] at hwriter
      cases hwriter
    · exact hqueue hwriters.1
  rw [waiting, hreaders, hwriters.1]
  rfl

/-- A request of a later call goes to the end of the line. -/
theorem InLine.acquire (h : InLine lock)
    (hlast : ∀ other ∈ lock.waiting, other.call < ticket.call) :
    InLine (lock.acquire ticket) := by
  have hwriters : ∀ writer ∈ lock.writersQueue, writer.call < ticket.call :=
    fun writer hmem => hlast writer (List.mem_append_right _ hmem)
  unfold TableLock.acquire
  by_cases hfree : lock.Free ticket.mode
  · rw [if_pos hfree]
    cases ticket.mode with
    | read => exact ⟨h.sorted, h.behind⟩
    | write => exact ⟨h.sorted, fun hnot => by simp [hold] at hnot⟩
  · rw [if_neg hfree]
    unfold enqueue
    cases hmode : ticket.mode with
    | read =>
        rw [hmode] at hfree
        refine ⟨h.sorted, ?_⟩
        intro hwriter reader hmem
        rcases List.mem_append.1 hmem with hold | hnew
        · exact h.behind hwriter reader hold
        · have hsome : lock.writersQueue ≠ [] := fun hnone => hfree ⟨hwriter, hnone⟩
          obtain ⟨writer, hwaits⟩ := List.exists_mem_of_ne_nil _ hsome
          rw [List.mem_singleton.1 hnew]
          exact ⟨writer, hwaits, hwriters writer hwaits⟩
    | write =>
        refine ⟨?_, ?_⟩
        · apply List.pairwise_append.2
          refine ⟨h.sorted, List.pairwise_singleton _ _, ?_⟩
          intro writer hwaits last hmem
          rw [List.mem_singleton.1 hmem]
          exact hwriters writer hwaits
        · intro hwriter reader hmem
          obtain ⟨writer, hwaits, hlt⟩ := h.behind hwriter reader hmem
          exact ⟨writer, List.mem_append_left _ hwaits, hlt⟩

theorem promoteWriter_cases (lock : TableLock) :
    (lock.writersQueue = [] ∧ lock.promoteWriter = (lock, [])) ∨
      ∃ next rest, lock.writersQueue = next :: rest ∧ lock.promoteWriter =
        ({ lock with writer := true, writersQueue := rest }, [next]) := by
  unfold TableLock.promoteWriter
  cases hqueue : lock.writersQueue with
  | nil => exact .inl ⟨rfl, rfl⟩
  | cons next rest => exact .inr ⟨next, rest, rfl, rfl⟩

theorem release_cases (lock : TableLock) (mode : QueryMode) :
    ((lock.release mode).2 = [] ∧
        (lock.release mode).1.readersQueue = lock.readersQueue ∧
        (lock.release mode).1.writersQueue = lock.writersQueue ∧
        (mode = .write → lock.readersQueue = []) ∧
        (mode = .read → (lock.release mode).1.writer = lock.writer)) ∨
      (∃ next rest, lock.writersQueue = next :: rest ∧ (lock.release mode).2 = [next] ∧
        (lock.release mode).1.readersQueue = lock.readersQueue ∧
        (lock.release mode).1.writersQueue = rest ∧ (lock.release mode).1.writer = true ∧
        (mode = .write → lock.readersQueue = [])) ∨
      (mode = .write ∧ (lock.release mode).2 = lock.readersQueue ∧
        (lock.release mode).1.readersQueue = [] ∧
        (lock.release mode).1.writersQueue = lock.writersQueue) := by
  cases mode with
  | read =>
      unfold release
      by_cases hlast : lock.readersCount - 1 = 0
      · rcases promoteWriter_cases { lock with readersCount := lock.readersCount - 1 } with
          ⟨hqueue, heq⟩ | ⟨next, rest, hqueue, heq⟩
        · left
          simp only [if_pos hlast, heq]
          simp
        · right; left
          refine ⟨next, rest, hqueue, ?_⟩
          simp only [if_pos hlast, heq]
          simp
      · left
        simp only [if_neg hlast]
        simp
  | write =>
      unfold release
      by_cases hwaiting : lock.readersQueue ≠ []
      · right; right
        simp only [if_pos hwaiting, TableLock.promoteReaders]
        simp
      · have hempty : lock.readersQueue = [] := not_not.1 hwaiting
        rcases promoteWriter_cases { lock with writer := false } with
          ⟨hqueue, heq⟩ | ⟨next, rest, hqueue, heq⟩
        · left
          simp only [if_neg hwaiting, heq]
          simp [hempty]
        · right; left
          refine ⟨next, rest, hqueue, ?_⟩
          simp only [if_neg hwaiting, heq]
          simp [hempty]

theorem readersQueue_releaseWrite : (lock.release .write).1.readersQueue = [] := by
  rcases lock.release_cases .write with ⟨-, hsame, -, hnone, -⟩ |
    ⟨next, rest, -, -, hsame, -, -, hnone⟩ | ⟨-, -, hnone, -⟩
  · rw [hsame, hnone rfl]
  · rw [hsame, hnone rfl]
  · exact hnone

theorem InLine.release (h : InLine lock) (hsound : mode = .read → lock.writer = false) :
    InLine (lock.release mode).1 := by
  rcases lock.release_cases mode with ⟨-, hreaders, hwriters, hnone, hwriter⟩ |
    ⟨next, rest, hqueue, -, -, hrest, hwriter, -⟩ | ⟨-, -, hnone, hsame⟩
  · refine ⟨hwriters ▸ h.sorted, ?_⟩
    rw [hreaders, hwriters]
    intro hfree reader hmem
    cases mode with
    | read => exact h.behind (hsound rfl) reader hmem
    | write =>
        rw [hnone rfl] at hmem
        cases hmem
  · refine ⟨?_, ?_⟩
    · have hsorted := h.sorted
      rw [hqueue] at hsorted
      exact hrest ▸ (List.pairwise_cons.1 hsorted).2
    · rw [hwriter]
      intro hfree
      cases hfree
  · refine ⟨hsame ▸ h.sorted, ?_⟩
    rw [hnone]
    intro _ reader hmem
    cases hmem

/-- **Overtaking.** Who is promoted before an earlier request is a reader that overtakes a
writer, as another writer releases the table. -/
theorem InLine.overtakes (h : InLine lock) (hsound : mode = .read → lock.writer = false)
    (hpromoted : ticket ∈ (lock.release mode).2) (hwaits : other ∈ (lock.release mode).1.waiting)
    (hlt : other.call < ticket.call) :
    mode = .write ∧ ticket ∈ lock.readersQueue ∧ other ∈ lock.writersQueue := by
  rcases lock.release_cases mode with ⟨hnone, -⟩ |
    ⟨next, rest, hqueue, hnext, hreaders, hrest, -, hempty⟩ | ⟨hmode, hall, hnone, hsame⟩
  · rw [hnone] at hpromoted
    cases hpromoted
  · exfalso
    rw [hnext] at hpromoted
    obtain rfl := List.mem_singleton.1 hpromoted
    have hsorted := h.sorted
    rw [hqueue] at hsorted
    have hfirst := (List.pairwise_cons.1 hsorted).1
    rw [waiting, hreaders, hrest] at hwaits
    rcases List.mem_append.1 hwaits with hreader | hwriter
    · cases mode with
      | read =>
          obtain ⟨writer, hmem, hbefore⟩ := h.behind (hsound rfl) other hreader
          rw [hqueue] at hmem
          rcases List.mem_cons.1 hmem with hsame | hlater
          · rw [hsame] at hbefore
            omega
          · have hafter := hfirst writer hlater
            omega
      | write =>
          rw [hempty rfl] at hreader
          cases hreader
    · have hafter := hfirst other hwriter
      omega
  · refine ⟨hmode, hall ▸ hpromoted, ?_⟩
    rw [waiting, hnone, hsame] at hwaits
    exact hwaits

theorem mem_waiting_of_release (h : other ∈ (lock.release mode).1.waiting) :
    other ∈ lock.waiting := by
  have hcount := lock.count_release mode other
  have hpos := List.count_pos_iff.2 h
  apply List.count_pos_iff.1
  omega

end TableLock

/-- Every request of the call that waits is a reader of a table to be released next. -/
def FreedBy (tickets : List Ticket) (s : LockState) (call : Nat) : Prop :=
  ∀ other, s.Waits other → other.call = call →
    other.mode = .read ∧ ∃ released ∈ tickets, released.table = other.table ∧
      released.mode = .write

/-- Requests wait in line for every table; who holds a table that an earlier call waits for
gets the rest of its tables by the releases to come. -/
structure Orderly (tickets : List Ticket) (s : LockState) : Prop extends Inv s where
  granted : ∀ ticket ∈ s.held, ticket ∈ s.granted
  distinct : ∀ first ∈ s.issued, ∀ second ∈ s.issued, first.call = second.call →
    first.table = second.table → first = second
  mode : ∀ first ∈ s.issued, ∀ second ∈ s.issued, first.call = second.call →
    first.mode = second.mode
  inLine : ∀ table, (s.lock table).InLine
  overtaken : ∀ holder ∈ s.held, ∀ other, s.Waits other → other.table = holder.table →
    other.call < holder.call → FreedBy tickets s holder.call

section Steps

variable {s : LockState} {ticket other : Ticket} {tickets : List Ticket}

theorem Inv.issued_of_waits (h : Inv s) (hwaits : s.Waits other) : other ∈ s.issued := by
  have hcount := h.conserved other
  have hpos := List.count_pos_iff.2 hwaits
  apply List.count_pos_iff.1
  omega

theorem Inv.issued_of_granted (h : Inv s) (hgranted : other ∈ s.granted) :
    other ∈ s.issued := by
  have hcount := h.conserved other
  have hpos := List.count_pos_iff.2 hgranted
  apply List.count_pos_iff.1
  omega

theorem Inv.not_waits_of_granted (h : Inv s) (hgranted : other ∈ s.granted) :
    ¬ s.Waits other := by
  intro hwaits
  have hcount := h.conserved other
  rw [h.issued.count] at hcount
  have hpos := List.count_pos_iff.2 hwaits
  have hone := List.count_pos_iff.2 hgranted
  split at hcount <;> omega

theorem waits_acquireOne (hwaits : (s.acquireOne ticket).Waits other) :
    s.Waits other ∨ (other = ticket ∧ ¬ (s.lock ticket.table).Free ticket.mode) := by
  unfold LockState.Waits at hwaits
  rw [lock_acquireOne] at hwaits
  by_cases htable : other.table = ticket.table
  · rw [if_pos htable, htable] at hwaits
    by_cases hfree : (s.lock ticket.table).Free ticket.mode
    · rw [TableLock.waiting_acquire_free hfree, ← htable] at hwaits
      exact .inl hwaits
    · have hcount := TableLock.count_acquire hfree other
      have hpos := List.count_pos_iff.2 hwaits
      by_cases hsame : other = ticket
      · exact .inr ⟨hsame, hfree⟩
      · have hnone : [ticket].count other = 0 := by
          apply List.count_eq_zero.2
          simpa using hsame
        left
        unfold LockState.Waits
        rw [htable]
        apply List.count_pos_iff.1
        omega
  · rw [if_neg htable] at hwaits
    exact .inl hwaits

/-- No request of the call has got a table that anybody waits for. -/
def Quiet (call : Nat) (s : LockState) : Prop :=
  ∀ holder ∈ s.held, holder.call = call → ∀ other, s.Waits other → other.table ≠ holder.table

/-- **Acquiring.** The tables that the last call gets are those nobody waits for. -/
theorem Orderly.acquireOne (h : Orderly [] s) (hquiet : Quiet ticket.call s)
    (hcall : ∀ other ∈ s.issued, other.call ≤ ticket.call)
    (hsame : ∀ other ∈ s.issued, other.call = ticket.call →
      other.table ≠ ticket.table ∧ other.mode = ticket.mode) :
    Orderly [] (s.acquireOne ticket) ∧ Quiet ticket.call (s.acquireOne ticket) := by
  have hnew : ticket ∉ s.issued := fun hmem => (hsame ticket hmem rfl).1 rfl
  have hissued : (s.acquireOne ticket).issued = s.issued ++ [ticket] := rfl
  have hsound := h.sound ticket.table
  have hwaiting : ∀ other, s.Waits other → other.table = ticket.table →
      other.call < ticket.call := by
    intro other hwaits htable
    have hmem := h.toInv.issued_of_waits hwaits
    have hle := hcall other hmem
    have hne : other.call ≠ ticket.call := fun heq => (hsame other hmem heq).1 htable
    omega
  have hlocal : ∀ other ∈ (s.lock ticket.table).waiting, other.call < ticket.call := by
    intro other hmem
    have htable := hsound.table_of_waiting hmem
    exact hwaiting other (by rw [LockState.Waits, htable]; exact hmem) htable
  -- who gets the table finds nobody in line
  have hfree : (s.lock ticket.table).Free ticket.mode →
      ∀ other, s.Waits other → other.table ≠ ticket.table := by
    intro hfree other hwaits htable
    rw [LockState.Waits, htable, hsound.waiting_of_free hfree] at hwaits
    cases hwaits
  have hheld : ∀ holder ∈ (s.acquireOne ticket).held, holder ∈ s.held ∨
      (holder = ticket ∧ (s.lock ticket.table).Free ticket.mode) := by
    intro holder hmem
    unfold LockState.acquireOne at hmem
    by_cases hgets : (s.lock ticket.table).Free ticket.mode
    · simp only [if_pos hgets] at hmem
      rcases List.mem_append.1 hmem with hold | hlast
      · exact .inl hold
      · exact .inr ⟨List.mem_singleton.1 hlast, hgets⟩
    · simp only [if_neg hgets] at hmem
      exact .inl hmem
  refine ⟨⟨h.toInv.acquireOne hnew, ?_, ?_, ?_, ?_, ?_⟩, ?_⟩
  · intro holder hmem
    unfold LockState.acquireOne at hmem ⊢
    by_cases hgets : (s.lock ticket.table).Free ticket.mode
    · simp only [if_pos hgets] at hmem ⊢
      rcases List.mem_append.1 hmem with hold | hlast
      · exact List.mem_append_left _ (h.granted holder hold)
      · exact List.mem_append_right _ hlast
    · simp only [if_neg hgets] at hmem ⊢
      exact h.granted holder hmem
  · rw [hissued]
    intro first hfirst second hsecond hcalls htables
    rcases List.mem_append.1 hfirst with hfold | hflast <;>
      rcases List.mem_append.1 hsecond with hsold | hslast
    · exact h.distinct first hfold second hsold hcalls htables
    · obtain rfl := List.mem_singleton.1 hslast
      exact absurd htables (hsame first hfold hcalls).1
    · obtain rfl := List.mem_singleton.1 hflast
      exact absurd htables.symm (hsame second hsold hcalls.symm).1
    · rw [List.mem_singleton.1 hflast, List.mem_singleton.1 hslast]
  · rw [hissued]
    intro first hfirst second hsecond hcalls
    rcases List.mem_append.1 hfirst with hfold | hflast <;>
      rcases List.mem_append.1 hsecond with hsold | hslast
    · exact h.mode first hfold second hsold hcalls
    · obtain rfl := List.mem_singleton.1 hslast
      exact (hsame first hfold hcalls).2
    · obtain rfl := List.mem_singleton.1 hflast
      exact (hsame second hsold hcalls.symm).2.symm
    · rw [List.mem_singleton.1 hflast, List.mem_singleton.1 hslast]
  · intro table
    rw [lock_acquireOne]
    by_cases htable : table = ticket.table
    · rw [if_pos htable, htable]
      exact (h.inLine ticket.table).acquire hlocal
    · rw [if_neg htable]
      exact h.inLine table
  · intro holder hmem other hwaits htable hlt
    rcases waits_acquireOne hwaits with hbefore | ⟨rfl, hbusy⟩
    · rcases hheld holder hmem with hold | ⟨rfl, hgets⟩
      · by_cases hcalls : holder.call = ticket.call
        · exact absurd htable (hquiet holder hold hcalls other hbefore)
        · intro last hlast hlastcall
          rcases waits_acquireOne hlast with hbefore' | ⟨rfl, -⟩
          · exact h.overtaken holder hold other hbefore htable hlt last hbefore' hlastcall
          · exact absurd hlastcall.symm hcalls
      · exact absurd htable (hfree hgets other hbefore)
    · exfalso
      rcases hheld holder hmem with hold | ⟨rfl, hgets⟩
      · have hle := hcall holder (h.toInv.issued_of_granted (h.granted holder hold))
        omega
      · omega
  · intro holder hmem hcalls other hwaits htable
    rcases waits_acquireOne hwaits with hbefore | ⟨rfl, hbusy⟩
    · rcases hheld holder hmem with hold | ⟨rfl, hgets⟩
      · exact hquiet holder hold hcalls other hbefore htable
      · exact hfree hgets other hbefore htable
    · rcases hheld holder hmem with hold | ⟨rfl, hgets⟩
      · have hissue := h.toInv.issued_of_granted (h.granted holder hold)
        exact (hsame holder hissue hcalls).1 htable.symm
      · exact hbusy hgets

theorem Orderly.acquireEach {call : Nat} {mode : QueryMode} (h : Orderly [] s)
    (hquiet : Quiet call s) (hcall : ∀ other ∈ s.issued, other.call ≤ call)
    (hnodup : (tickets.map Ticket.table).Nodup)
    (htickets : ∀ ticket ∈ tickets, ticket.call = call ∧ ticket.mode = mode)
    (hsame : ∀ other ∈ s.issued, other.call = call → other.mode = mode ∧
      ∀ ticket ∈ tickets, other.table ≠ ticket.table) :
    Orderly [] (tickets.foldl LockState.acquireOne s) := by
  induction tickets generalizing s with
  | nil => exact h
  | cons ticket tickets ih =>
      obtain ⟨hfirst, hrest⟩ := List.nodup_cons.1 hnodup
      obtain ⟨hofcall, hofmode⟩ := htickets ticket List.mem_cons_self
      obtain ⟨hafter, hquietafter⟩ := @Orderly.acquireOne s ticket h (by rwa [hofcall])
        (by rwa [hofcall]) (by
          intro other hmem heq
          obtain ⟨hmode, htables⟩ := hsame other hmem (heq.trans hofcall)
          exact ⟨htables ticket List.mem_cons_self, hmode.trans hofmode.symm⟩)
      rw [hofcall] at hquietafter
      have hissued : (s.acquireOne ticket).issued = s.issued ++ [ticket] := rfl
      refine ih hafter hquietafter ?_ hrest
        (fun other hmem => htickets other (List.mem_cons_of_mem ticket hmem)) ?_
      · rw [hissued]
        intro other hmem
        rcases List.mem_append.1 hmem with hold | hlast
        · exact hcall other hold
        · rw [List.mem_singleton.1 hlast, hofcall]
      · rw [hissued]
        intro other hmem heq
        rcases List.mem_append.1 hmem with hold | hlast
        · obtain ⟨hmode, htables⟩ := hsame other hold heq
          exact ⟨hmode, fun next hnext => htables next (List.mem_cons_of_mem ticket hnext)⟩
        · obtain rfl := List.mem_singleton.1 hlast
          refine ⟨hofmode, ?_⟩
          intro next hnext htable
          exact hfirst (htable ▸ List.mem_map_of_mem hnext)

theorem Inv.waits_releaseOne (h : Inv s) (hheld : ticket ∈ s.held)
    (hwaits : (s.releaseOne ticket).Waits other) : s.Waits other := by
  unfold LockState.Waits at hwaits ⊢
  rw [h.lock_releaseOne hheld] at hwaits
  by_cases htable : other.table = ticket.table
  · rw [if_pos htable] at hwaits
    exact TableLock.mem_waiting_of_release hwaits
  · rw [if_neg htable] at hwaits
    exact hwaits

theorem Inv.table_of_waits_releaseWrite (h : Inv s) (hheld : ticket ∈ s.held)
    (hwrite : ticket.mode = .write) (hwaits : (s.releaseOne ticket).Waits other)
    (hread : other.mode = .read) : other.table ≠ ticket.table := by
  intro htable
  unfold LockState.Waits at hwaits
  rw [h.lock_releaseOne hheld, if_pos htable, htable, hwrite, TableLock.waiting,
    TableLock.readersQueue_releaseWrite, List.nil_append] at hwaits
  have hafter := (h.releaseOne hheld).sound ticket.table
  rw [h.lock_releaseOne hheld, if_pos rfl, hwrite] at hafter
  have hmode := (hafter.writersQueue other hwaits).2
  rw [hread] at hmode
  cases hmode

/-- The readers that overtake an earlier writer wait for tables to be released only. -/
def InOrderOf (tickets : List Ticket) (s : LockState) : Prop :=
  ∀ ticket ∈ tickets, ticket.mode = .write →
    ∀ reader ∈ (s.lock ticket.table).readersQueue,
      ∀ writer ∈ (s.lock ticket.table).writersQueue, writer.call < reader.call →
        ∀ other ∈ s.issued, s.Waits other → other.call = reader.call →
          ∃ released ∈ tickets, released.table = other.table

/-- What is to be freed by some releases is to be freed by those that are left. -/
theorem Orderly.freedBy_releaseOne (h : Orderly (ticket :: tickets) s)
    (hheld : ticket ∈ s.held) {call : Nat} (hfreed : FreedBy (ticket :: tickets) s call) :
    FreedBy tickets (s.releaseOne ticket) call := by
  intro other hwaits hcall
  obtain ⟨hread, released, hmem, htable, hwrite⟩ :=
    hfreed other (h.toInv.waits_releaseOne hheld hwaits) hcall
  refine ⟨hread, released, ?_, htable, hwrite⟩
  rcases List.mem_cons.1 hmem with hfirst | hlater
  · rw [hfirst] at htable hwrite
    exact absurd htable.symm
      (h.toInv.table_of_waits_releaseWrite hheld hwrite hwaits hread)
  · exact hlater

/-- **Releasing.** Readers that overtake an earlier writer get the rest of their tables by
the releases that are left. -/
theorem Orderly.releaseOne (h : Orderly (ticket :: tickets) s) (hheld : ticket ∈ s.held)
    (hmodes : ∀ other ∈ tickets, other.mode = ticket.mode)
    (horder : InOrderOf (ticket :: tickets) s) :
    Orderly tickets (s.releaseOne ticket) ∧ InOrderOf tickets (s.releaseOne ticket) := by
  have hinv := h.toInv
  have heq := hinv.releaseOne_eq hheld
  have hissued : (s.releaseOne ticket).issued = s.issued := issued_releaseOne
  have hwriter : ticket.mode = .read → (s.lock ticket.table).writer = false := by
    intro hread
    have hmem : ticket ∈ s.holders ticket.table .read :=
      List.mem_filter.2 ⟨hheld, by simp [hread]⟩
    have hpos := List.length_pos_of_mem hmem
    by_contra hnot
    have hzero := (hinv.sound ticket.table).exclusive (by simpa using hnot)
    omega
  -- a reader in front of which an earlier writer waits
  have hovertakes : ticket.mode = .write →
      ∀ reader ∈ (s.lock ticket.table).readersQueue,
        ∀ writer ∈ (s.lock ticket.table).writersQueue, writer.call < reader.call →
          FreedBy (ticket :: tickets) s reader.call := by
    intro hwrite reader hreader writer hwriter hlt other hwaits hcall
    have hwaitsreader : s.Waits reader := by
      rw [LockState.Waits, ((hinv.sound ticket.table).readersQueue reader hreader).1]
      exact List.mem_append_left _ hreader
    have hother := hinv.issued_of_waits hwaits
    have hmode := h.mode other hother reader (hinv.issued_of_waits hwaitsreader) hcall
    obtain ⟨released, hmem, htable⟩ := horder ticket List.mem_cons_self hwrite reader hreader
      writer hwriter hlt other hother hwaits hcall
    refine ⟨hmode.trans ((hinv.sound ticket.table).readersQueue reader hreader).2,
      released, hmem, htable, ?_⟩
    rcases List.mem_cons.1 hmem with hfirst | hlater
    · exact hfirst ▸ hwrite
    · exact (hmodes released hlater).trans hwrite
  refine ⟨⟨hinv.releaseOne hheld, ?_, ?_, ?_, ?_, ?_⟩, ?_⟩
  · rw [heq]
    intro holder hmem
    rcases List.mem_append.1 hmem with hold | hpromoted
    · exact List.mem_append_left _ (h.granted holder (List.mem_of_mem_erase hold))
    · exact List.mem_append_right _ hpromoted
  · rw [hissued]
    exact h.distinct
  · rw [hissued]
    exact h.mode
  · intro table
    rw [hinv.lock_releaseOne hheld]
    by_cases htable : table = ticket.table
    · rw [if_pos htable, htable]
      exact (h.inLine ticket.table).release hwriter
    · rw [if_neg htable]
      exact h.inLine table
  · intro holder hmem other hwaits htable hlt
    apply h.freedBy_releaseOne hheld
    rw [heq] at hmem
    rcases List.mem_append.1 hmem with hold | hpromoted
    · exact h.overtaken holder (List.mem_of_mem_erase hold) other
        (hinv.waits_releaseOne hheld hwaits) htable hlt
    · have hof := (hinv.sound ticket.table).table_of_waiting
        (TableLock.mem_release hpromoted)
      have hotable : other.table = ticket.table := htable.trans hof
      rw [LockState.Waits, hinv.lock_releaseOne hheld, if_pos hotable, hotable] at hwaits
      obtain ⟨hwrite, hreader, hwriterwaits⟩ :=
        (h.inLine ticket.table).overtakes hwriter hpromoted hwaits hlt
      exact hovertakes hwrite holder hreader other hwriterwaits hlt
  · intro next hnext hwrite reader hreader writer hwriterwaits hlt other hother hwaits hcall
    have hwrites : ticket.mode = .write := (hmodes next hnext).symm.trans hwrite
    have helse : next.table ≠ ticket.table := by
      intro htable
      rw [hinv.lock_releaseOne hheld, if_pos htable, htable, hwrites,
        TableLock.readersQueue_releaseWrite] at hreader
      cases hreader
    rw [hinv.lock_releaseOne hheld, if_neg helse] at hreader hwriterwaits
    rw [hissued] at hother
    have hbefore := hinv.waits_releaseOne hheld hwaits
    have hreads := (hinv.sound next.table).readersQueue reader hreader
    have hwaitsreader : s.Waits reader := by
      rw [LockState.Waits, hreads.1]
      exact List.mem_append_left _ hreader
    have hmode := h.mode other hother reader (hinv.issued_of_waits hwaitsreader) hcall
    obtain ⟨released, hmem, htable⟩ := horder next (List.mem_cons_of_mem ticket hnext) hwrite
      reader hreader writer hwriterwaits hlt other hother hbefore hcall
    refine ⟨released, ?_, htable⟩
    rcases List.mem_cons.1 hmem with hfirst | hlater
    · rw [hfirst] at htable
      exact absurd htable.symm (hinv.table_of_waits_releaseWrite hheld hwrites hwaits
        (hmode.trans hreads.2))
    · exact hlater

theorem Orderly.releaseEach (h : Orderly tickets s) (hnodup : tickets.Nodup)
    (hheld : ∀ ticket ∈ tickets, ticket ∈ s.held)
    (hmodes : ∀ ticket ∈ tickets, ∀ other ∈ tickets, ticket.mode = other.mode)
    (horder : InOrderOf tickets s) : Orderly [] (s.releaseLocks tickets) := by
  induction tickets generalizing s with
  | nil => exact h
  | cons ticket tickets ih =>
      obtain ⟨hfirst, hrest⟩ := List.nodup_cons.1 hnodup
      have hmem := hheld ticket List.mem_cons_self
      obtain ⟨hafter, horderafter⟩ := h.releaseOne hmem
        (fun other hother => hmodes other (List.mem_cons_of_mem ticket hother) ticket
          List.mem_cons_self) horder
      refine ih hafter hrest ?_ ?_ horderafter
      · intro other hother
        have hne : other ≠ ticket := fun heq => hfirst (heq ▸ hother)
        exact h.toInv.held_releaseOne hmem (hheld other (List.mem_cons_of_mem ticket hother)) hne
      · intro first hf second hs
        exact hmodes first (List.mem_cons_of_mem ticket hf) second
          (List.mem_cons_of_mem ticket hs)

theorem Orderly.weaken (h : Orderly [] s) (tickets : List Ticket) : Orderly tickets s := by
  refine ⟨h.toInv, h.granted, h.distinct, h.mode, h.inLine, ?_⟩
  intro holder hmem other hwaits htable hlt last hlast hcall
  obtain ⟨-, released, hnone, -⟩ := h.overtaken holder hmem other hwaits htable hlt last hlast hcall
  cases hnone

theorem Inv.blocked (h : Inv s) (hwaits : s.Waits other) :
    (∃ holder ∈ s.held, holder.table = other.table) ∨
      ((s.lock other.table).writer = false ∧ other ∈ (s.lock other.table).readersQueue) := by
  have hsound := h.sound other.table
  have hholder : ∀ mode, (s.holders other.table mode).length ≠ 0 →
      ∃ holder ∈ s.held, holder.table = other.table := by
    intro mode hsome
    obtain ⟨holder, hmem⟩ := List.exists_mem_of_length_pos (Nat.pos_of_ne_zero hsome)
    obtain ⟨hheld, hof⟩ := List.mem_filter.1 hmem
    exact ⟨holder, hheld, (of_decide_eq_true hof).1⟩
  have hwriterholds : (s.lock other.table).writer = true →
      ∃ holder ∈ s.held, holder.table = other.table := by
    intro hwriter
    apply hholder .write
    rw [hsound.writer, if_pos hwriter]
    exact Nat.one_ne_zero
  rcases List.mem_append.1 hwaits with hreader | hwriter
  · cases hfree : (s.lock other.table).writer with
    | true => exact .inl (hwriterholds hfree)
    | false => exact .inr ⟨rfl, hreader⟩
  · left
    rcases hsound.writersWait (List.ne_nil_of_mem hwriter) with hheld | hreaders
    · exact hwriterholds hheld
    · exact hholder .read hreaders

/-- **Progress.** The request of the earliest call that waits is behind a call that waits
for nothing. -/
theorem Orderly.progress (h : Orderly [] s) : Progress s := by
  intro hsome
  have hex : ∃ call, ∃ other, s.Waits other ∧ other.call = call := by
    obtain ⟨other, -, hwaits⟩ := hsome
    exact ⟨other.call, other, hwaits, rfl⟩
  classical
  obtain ⟨first, hwaits, hcall⟩ := Nat.find_spec hex
  have hmin : ∀ other, s.Waits other → first.call ≤ other.call := by
    intro other hother
    rw [hcall]
    exact Nat.find_min' hex ⟨other, hother, rfl⟩
  have hinv := h.toInv
  rcases hinv.blocked hwaits with ⟨holder, hheld, htable⟩ | ⟨hfree, hreader⟩
  · refine ⟨holder, hheld, ?_⟩
    intro other _ hsame hother
    rcases Nat.lt_trichotomy holder.call first.call with hlt | heq | hlt
    · have hle := hmin other hother
      omega
    · have hissued := hinv.issued_of_granted (h.granted holder hheld)
      have hself := h.distinct holder hissued first (hinv.issued_of_waits hwaits) heq htable
      exact hinv.not_waits_of_granted (h.granted holder hheld) (hself ▸ hwaits)
    · obtain ⟨-, released, hnone, -⟩ :=
        h.overtaken holder hheld first hwaits htable.symm hlt other hother hsame
      cases hnone
  · exfalso
    obtain ⟨writer, hmem, hlt⟩ := (h.inLine first.table).behind hfree first hreader
    have hwriterwaits : s.Waits writer := by
      rw [LockState.Waits, ((hinv.sound first.table).writersQueue writer hmem).1]
      exact List.mem_append_right _ hmem
    have hle := hmin writer hwriterwaits
    omega

end Steps

theorem Orderly.step {s t : LockState} {action : Action}
    (h : Orderly [] s ∧ ∀ ticket ∈ s.issued, ticket.call < s.calls)
    (horder : InOrder s action) (hstep : disciplinedStep s action = some t) :
    Orderly [] t ∧ ∀ ticket ∈ t.issued, ticket.call < t.calls := by
  obtain ⟨horderly, hcalls⟩ := h
  by_cases hdisciplined : Disciplined s action
  · simp only [disciplinedStep, if_pos hdisciplined] at hstep
    refine ⟨?_, (horderly.toInv.step hcalls hstep).2⟩
    cases action with
    | acquire names mode =>
        obtain rfl := Option.some.inj hstep
        have hnew : ∀ other ∈ s.issued, other.call ≠ s.calls :=
          fun other hmem => (hcalls other hmem).ne
        have htables : (s.ticketsOf names mode).map Ticket.table = sortNames names := by
          unfold LockState.ticketsOf
          rw [List.map_map]
          exact List.zipIdx_map_fst 0 _
        have hafter : Orderly [] ((s.ticketsOf names mode).foldl LockState.acquireOne s) := by
          refine @Orderly.acquireEach s _ s.calls mode horderly ?_ ?_ ?_ ?_ ?_
          · intro holder hmem hcall
            have hissued := horderly.toInv.issued_of_granted (horderly.granted holder hmem)
            exact absurd hcall (hnew holder hissued)
          · exact fun other hmem => (hcalls other hmem).le
          · rw [htables]
            exact (perm_sortNames names).nodup_iff.2 hdisciplined
          · intro ticket hmem
            obtain ⟨entry, -, rfl⟩ := List.mem_map.1 hmem
            exact ⟨rfl, rfl⟩
          · exact fun other hmem hcall => absurd hcall (hnew other hmem)
        exact ⟨⟨hafter.sound, hafter.conserved, hafter.issued⟩, hafter.granted,
          hafter.distinct, hafter.mode, hafter.inLine, hafter.overtaken⟩
    | release tickets =>
        by_cases hok : Releasable s tickets
        · simp only [TableLocking.step, if_pos hok, Option.some.injEq] at hstep
          subst hstep
          exact (horderly.weaken tickets).releaseEach hok.1 hok.2.1 hok.2.2 horder
        · simp [TableLocking.step, hok] at hstep
  · simp [disciplinedStep, hdisciplined] at hstep

/-- **Progress of all runs.** If every reader that overtakes an earlier writer gets all its
tables by the release, then as long as anybody waits somebody who has all its tables holds
one. -/
theorem progress_of_inOrder (as : List Action)
    (h : Allowed disciplinedStep InOrder {} as) :
    Always disciplinedStep Progress {} as := by
  apply always_of_allowed
    (fun s => Orderly [] s ∧ ∀ ticket ∈ s.issued, ticket.call < s.calls)
    (fun s hinv => hinv.1.progress)
    (fun s action t hinv horder hstep => Orderly.step hinv horder hstep) as {} _ h
  refine ⟨⟨inv_of_exec .nil, ?_, ?_, ?_, fun _ => TableLock.inLine_new, ?_⟩, ?_⟩
  · exact fun holder hmem => absurd hmem List.not_mem_nil
  · exact fun first hmem => absurd hmem List.not_mem_nil
  · exact fun first hmem => absurd hmem List.not_mem_nil
  · exact fun holder hmem => absurd hmem List.not_mem_nil
  · exact fun ticket hmem => absurd hmem List.not_mem_nil

/-- A reader overtakes a writer of its only table. -/
def harmless : List Action :=
  [.acquire ["orders"] .write, .acquire ["orders"] .write, .acquire ["orders"] .read,
    .release [⟨0, 0, "orders", .write⟩]]

theorem progress_harmless : Allowed disciplinedStep InOrder {} harmless ∧
    Always disciplinedStep Progress {} harmless :=
  ⟨by decide, progress_of_inOrder harmless (by decide)⟩

/-- The second call holds `items` and waits for `orders`; the third overtakes it on `orders`
and waits for `items`. -/
def overtaking : List Action :=
  [.acquire ["orders"] .write, .acquire ["items", "orders"] .write,
    .acquire ["items", "orders"] .read, .release [⟨0, 0, "orders", .write⟩]]

theorem overtaken_stuck : ∃ s, Exec disciplinedStep {} overtaking s ∧ ¬ Progress s :=
  exists_exec (by decide)

end TableLocking

end Zentra
