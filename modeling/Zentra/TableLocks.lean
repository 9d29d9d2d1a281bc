import Mathlib.Data.List.Count
import Mathlib.Data.List.Nodup
import Mathlib.Data.List.Sort
import Mathlib.Logic.Function.Basic
import Zentra.StepTrace

/-!
# Locks on tables

The workers of a pool share files, and coordinate by read and write locks on tables.  A
call asks for all of its tables at once: it is granted the free ones and queues for the
others.  A release hands the table over to those who wait.

* `LockState`, `acquireLocks`, `releaseLocks` — the registry, with a record of what has
  been asked for, granted and held;
* `step` — calls in any order, each of which releases what it holds.
-/

open StepTrace

namespace Zentra

namespace TableLocking

/-- `QUERY_MODE`. -/
inductive QueryMode
  | read
  | write
  deriving DecidableEq, Repr

/-- The request of a call for one of its tables; `place` is the position of the table among
those of the call. -/
structure Ticket where
  call : Nat
  place : Nat
  table : String
  mode : QueryMode
  deriving DecidableEq, Repr

/-- `TableLock`; what waits in its queues are requests. -/
structure TableLock where
  readersCount : Int := 0
  writer : Bool := false
  readersQueue : List Ticket := []
  writersQueue : List Ticket := []
  deriving DecidableEq, Repr

namespace TableLock

variable (lock : TableLock)

/-- Nobody holds the lock or waits for it. -/
def Idle : Prop :=
  lock.readersCount = 0 ∧ lock.writer = false ∧ lock.readersQueue = [] ∧ lock.writersQueue = []

instance : Decidable lock.Idle := inferInstanceAs (Decidable (_ ∧ _ ∧ _ ∧ _))

def waiting : List Ticket := lock.readersQueue ++ lock.writersQueue

def Free : QueryMode → Prop
  | .read => lock.writer = false ∧ lock.writersQueue = []
  | .write => lock.readersCount = 0 ∧ lock.writer = false

instance : ∀ mode, Decidable (lock.Free mode)
  | .read => inferInstanceAs (Decidable (_ ∧ _))
  | .write => inferInstanceAs (Decidable (_ ∧ _))

def hold : QueryMode → TableLock
  | .read => { lock with readersCount := lock.readersCount + 1 }
  | .write => { lock with writer := true }

/-- The lock with one more request in its queue. -/
def enqueue (ticket : Ticket) : TableLock :=
  match ticket.mode with
  | .read => { lock with readersQueue := lock.readersQueue ++ [ticket] }
  | .write => { lock with writersQueue := lock.writersQueue ++ [ticket] }

/-- The loop body of `acquireLocks`. -/
def acquire (ticket : Ticket) : TableLock :=
  if lock.Free ticket.mode then lock.hold ticket.mode else lock.enqueue ticket

def promoteWriter : TableLock × List Ticket :=
  match lock.writersQueue with
  | [] => (lock, [])
  | next :: rest => ({ lock with writer := true, writersQueue := rest }, [next])

def promoteReaders : TableLock × List Ticket :=
  ({ lock with
      readersCount := lock.readersCount + lock.readersQueue.length
      readersQueue := [] }, lock.readersQueue)

/-- The loop body of `releaseLocks`, with the requests that it promotes. -/
def release : QueryMode → TableLock × List Ticket
  | .read =>
      let left := { lock with readersCount := lock.readersCount - 1 }
      if left.readersCount = 0 then left.promoteWriter else (left, [])
  | .write =>
      let left := { lock with writer := false }
      if left.readersQueue ≠ [] then left.promoteReaders else left.promoteWriter

end TableLock

def codeUnits (c : Char) : List Nat :=
  if c.toNat < 0x10000 then [c.toNat]
  else [0xD800 + (c.toNat - 0x10000) / 0x400, 0xDC00 + (c.toNat - 0x10000) % 0x400]

/-- The order of strings by their code units. -/
def unitsLe : List Nat → List Nat → Bool
  | [], _ => true
  | _ :: _, [] => false
  | a :: as, b :: bs => if a = b then unitsLe as bs else a < b

/-- `[...names].sort()`. -/
def sortNames (names : List String) : List String :=
  names.insertionSort fun a b =>
    unitsLe (a.toList.flatMap codeUnits) (b.toList.flatMap codeUnits) = true

theorem perm_sortNames (names : List String) : (sortNames names).Perm names :=
  List.perm_insertionSort _ _

/-- The registry of the manager, and beside it the number of calls so far, what they have
asked for, what they have been granted, and what they hold. -/
structure LockState where
  tableLockRegistry : String → Option TableLock := fun _ => none
  calls : Nat := 0
  issued : List Ticket := []
  granted : List Ticket := []
  held : List Ticket := []

namespace LockState

variable (s : LockState)

/-- `getOrCreateLock`. -/
def lock (table : String) : TableLock := (s.tableLockRegistry table).getD {}

/-- The requests that hold the table in a mode. -/
def holders (table : String) (mode : QueryMode) : List Ticket :=
  s.held.filter fun ticket => ticket.table = table ∧ ticket.mode = mode

def Waits (ticket : Ticket) : Prop := ticket ∈ (s.lock ticket.table).waiting

instance (ticket : Ticket) : Decidable (s.Waits ticket) :=
  inferInstanceAs (Decidable (_ ∈ _))

/-- The loop body of `acquireLocks`. -/
def acquireOne (ticket : Ticket) : LockState :=
  { s with
    tableLockRegistry := Function.update s.tableLockRegistry ticket.table
      (some ((s.lock ticket.table).acquire ticket))
    issued := s.issued ++ [ticket]
    granted := if (s.lock ticket.table).Free ticket.mode then s.granted ++ [ticket]
      else s.granted
    held := if (s.lock ticket.table).Free ticket.mode then s.held ++ [ticket] else s.held }

def ticketsOf (names : List String) (mode : QueryMode) : List Ticket :=
  (sortNames names).zipIdx.map fun entry => ⟨s.calls, entry.2, entry.1, mode⟩

/-- `acquireLocks`, up to the point where it waits. -/
def acquireLocks (names : List String) (mode : QueryMode) : LockState :=
  { (s.ticketsOf names mode).foldl acquireOne s with calls := s.calls + 1 }

/-- The loop body of `releaseLocks`. -/
def releaseOne (ticket : Ticket) : LockState :=
  match s.tableLockRegistry ticket.table with
  | none => { s with held := s.held.erase ticket }
  | some lock =>
      let left := lock.release ticket.mode
      { s with
        tableLockRegistry := Function.update s.tableLockRegistry ticket.table
          (if left.1.Idle then none else some left.1)
        granted := s.granted ++ left.2
        held := s.held.erase ticket ++ left.2 }

/-- `releaseLocks`, of the tables of some requests. -/
def releaseLocks (tickets : List Ticket) : LockState := tickets.foldl releaseOne s

end LockState

inductive Action
  | acquire (names : List String) (mode : QueryMode)
  | release (tickets : List Ticket)
  deriving DecidableEq, Repr

/-- What is released is held, each request once, and all in one mode. -/
def Releasable (s : LockState) (tickets : List Ticket) : Prop :=
  tickets.Nodup ∧ (∀ ticket ∈ tickets, ticket ∈ s.held) ∧
    ∀ ticket ∈ tickets, ∀ other ∈ tickets, ticket.mode = other.mode

instance (s : LockState) (tickets : List Ticket) : Decidable (Releasable s tickets) :=
  inferInstanceAs (Decidable (_ ∧ _ ∧ _))

def step (s : LockState) : Action → Option LockState
  | .acquire names mode => some (s.acquireLocks names mode)
  | .release tickets => if Releasable s tickets then some (s.releaseLocks tickets) else none

end TableLocking

end Zentra
