import Zentra.JsMap
import Zentra.StepTrace

/-!
# The router of DuckDB calls

`DuckDBRouter` (`libs/foundation/bridge/src/duckdb/router.ts`) over bridges like
`WasmDuckDBBridge` (`wasm/wasm-bridge.ts`): calls get the bridge of the router, made when there
is none, and an idle timer shuts it down.

* `runOn`, `ensured`, `startShutdown` — what a call does once it has a bridge, and what a
  shutdown does before it waits;
* `step` — one event: a call, an answer of a bridge, or the timer at any moment.

What waits for a promise that settles runs in the same step.  The statements of a view are not
interpreted: a bridge creates and drops views by name, or fails.
-/

namespace Zentra.DuckDB

structure ViewDefinition where
  name : String
  sql : String
  dependencies : List String
  createdAt : Int
  deriving DecidableEq, Repr

abbrev ViewDefinitions := JsMap String ViewDefinition

/-- `initialized` is set by `initialize`, and cleared when `shutdown` has gone through. -/
structure Bridge where
  initialized : Bool
  inTransaction : Bool
  views : ViewDefinitions
  deriving DecidableEq

def Bridge.new : Bridge := ⟨false, false, .empty⟩

/-- `query` and `execute` are statements. -/
inductive CallKind
  | statement
  | createView (view : ViewDefinition)
  | dropView (name : String)
  | beginTransaction
  | commit
  | rollback
  deriving DecidableEq, Repr

/-- The call that holds the mutex of the initialization, with the bridge it waits for: for its
`initialize`, or for the views that are still to be restored. -/
structure Initialization where
  kind : CallKind
  bridge : Nat
  restoring : Option (List ViewDefinition)
  deriving DecidableEq, Repr

/-- `saving`: `handleIdleTimeout` waits for `getViews`; `closing`: `shutdown` waits for that of
the bridge. -/
inductive Shutdown
  | saving (bridge : Nat)
  | closing (bridge : Nat)
  deriving DecidableEq, Repr

/-- The last two fields are not kept by the code: the views created and not dropped, and the
bridge on which the open transaction began, with whether a statement ran on another since. -/
structure Router where
  bridges : List Bridge
  bridge : Option Nat
  idleTimer : Bool
  viewDefinitions : ViewDefinitions
  waiting : List CallKind
  initializing : Option Initialization
  running : List (CallKind × Nat)
  shutdowns : List Shutdown
  wanted : ViewDefinitions
  transaction : Option (Nat × Bool)
  deriving DecidableEq

def Router.start : Router where
  bridges := []
  bridge := none
  idleTimer := false
  viewDefinitions := .empty
  waiting := []
  initializing := none
  running := []
  shutdowns := []
  wanted := .empty
  transaction := none

namespace Router

variable (s : Router)

def isInitialized (b : Nat) : Bool := s.bridges[b]?.any Bridge.initialized

def inTransaction (b : Nat) : Bool := s.bridges[b]?.any Bridge.inTransaction

def viewsOf (b : Nat) : ViewDefinitions := (s.bridges[b]?.map Bridge.views).getD .empty

def isClosing (b : Nat) : Bool := .closing b ∈ s.shutdowns

/-- `this.bridge?.isInitialized()` -/
def ready : Option Nat := s.bridge.filter s.isInitialized

def setBridge (b : Nat) (f : Bridge → Bridge) : Router :=
  { s with bridges := s.bridges.modify b f }

end Router

/-- The definition that a call stores or removes before the bridge does. -/
def noteView (kind : CallKind) (definitions : ViewDefinitions) : ViewDefinitions :=
  match kind with
  | .createView view => definitions.set view.name view
  | .dropView name => definitions.delete name
  | _ => definitions

/-- A call has a bridge, and runs on it. -/
def runOn (kind : CallKind) (b : Nat) (s : Router) : Router :=
  { s with
    viewDefinitions := noteView kind s.viewDefinitions
    running := s.running ++ [(kind, b)] }

/-- The timer is armed when a call starts. -/
def resetIdleTimer (s : Router) : Router := { s with idleTimer := true }

/-- The end of `ensureBridge` under the mutex: it throws when the router holds no bridge. -/
def ensured (kind : CallKind) (s : Router) : Router :=
  let released := { s with initializing := none }
  match s.bridge with
  | none => released
  | some b => runOn kind b released

/-- A bridge is made and held, and `initialize` of it begun. -/
def initializeBridge (kind : CallKind) (s : Router) : Router :=
  { s with
    bridges := s.bridges ++ [.new]
    bridge := some s.bridges.length
    initializing := some ⟨kind, s.bridges.length, none⟩ }

/-- `rehydrateViewsParallel` begins, or there is nothing to restore. -/
def rehydrate (kind : CallKind) (s : Router) : Router :=
  match s.bridge with
  | none => ensured kind s
  | some b =>
      if s.viewDefinitions.size = 0 then ensured kind s
      else
        { s with
          initializing := some ⟨kind, b, some (s.viewDefinitions.entries.map Prod.snd)⟩ }

/-- `shutdown` up to its wait: a bridge that is not initialized is let go at once. -/
def startShutdown (s : Router) : Router :=
  let stopped := { s with idleTimer := false }
  match s.bridge with
  | none => stopped
  | some b =>
      if s.isInitialized b then { stopped with shutdowns := .closing b :: s.shutdowns }
      else { stopped with bridge := none }

/-- What a call that has gone through did to its bridge. -/
def applyCall : CallKind → Bridge → Bridge
  | .statement, bridge => bridge
  | .createView view, bridge => { bridge with views := bridge.views.set view.name view }
  | .dropView name, bridge => { bridge with views := bridge.views.delete name }
  | .beginTransaction, bridge => { bridge with inTransaction := true }
  | .commit, bridge | .rollback, bridge => { bridge with inTransaction := false }

/-- The transaction that the caller has open, after a call that ran on a bridge. -/
def noteCall (kind : CallKind) (b : Nat) (ok : Bool) (transaction : Option (Nat × Bool)) :
    Option (Nat × Bool) :=
  match kind, ok with
  | .beginTransaction, true => transaction.or (some (b, false))
  | .beginTransaction, false => transaction
  | .commit, true | .rollback, true => none
  | .commit, false | .rollback, false => transaction
  | _, _ => transaction.map fun begun => (begun.1, begun.2 || begun.1 ≠ b)

/-- A call ends: it has gone through, or the bridge threw. -/
def finishCall (kind : CallKind) (b : Nat) (ok : Bool) (s : Router) : Router :=
  let ended := { s with
    running := s.running.eraseP fun call => call.2 = b
    transaction := noteCall kind b ok s.transaction }
  if ok then
    { ended with
      bridges := s.bridges.modify b (applyCall kind)
      wanted := noteView kind s.wanted }
  else ended

/-- `bridgeInitialized` to `restored` concern the call that holds the mutex; `finish`: the call
that has run longest on the bridge; `viewsSaved`, `closed`: a shutdown of the bridge. -/
inductive RouterEvent
  | call (kind : CallKind)
  | acquire (i : Nat)
  | bridgeInitialized
  | bridgeFails
  | restored (name : String) (ok : Bool)
  | finish (b : Nat) (ok : Bool)
  | timerFires
  | viewsSaved (b : Nat) (ok : Bool)
  | shutdown
  | closed (b : Nat)
  deriving DecidableEq, Repr

/-- One event, `none` when it cannot come. -/
def step (s : Router) : RouterEvent → Option Router
  | .call kind =>
      let s := resetIdleTimer s
      match s.ready with
      | some b => some (runOn kind b s)
      | none => some { s with waiting := s.waiting ++ [kind] }
  | .acquire i =>
      match s.waiting[i]?, s.initializing with
      | some kind, none =>
          let s := { s with waiting := s.waiting.eraseIdx i }
          match s.ready with
          | some b => some (runOn kind b s)
          | none => some (initializeBridge kind s)
      | _, _ => none
  | .bridgeInitialized =>
      match s.initializing with
      | some ⟨kind, b, none⟩ =>
          some (rehydrate kind (s.setBridge b fun bridge => { bridge with initialized := true }))
      | _ => none
  | .bridgeFails =>
      match s.initializing with
      | some ⟨_, _, none⟩ => some { s with initializing := none }
      | _ => none
  | .restored name ok =>
      match s.initializing with
      | some ⟨kind, b, some views⟩ =>
          match views.find? fun view => view.name = name with
          | none => none
          | some view =>
              let s := if ok then s.setBridge b (applyCall (.createView view)) else s
              let views := views.eraseP fun view => view.name = name
              if views = [] then some (ensured kind s)
              else some { s with initializing := some ⟨kind, b, some views⟩ }
      | _ => none
  | .finish b ok =>
      match s.running.find? fun call => call.2 = b with
      | none => none
      | some call => some (finishCall call.1 b ok s)
  | .timerFires =>
      if s.idleTimer then
        let s := { s with idleTimer := false }
        match s.ready with
        | some b => some { s with shutdowns := .saving b :: s.shutdowns }
        | none => some (startShutdown s)
      else none
  | .viewsSaved b ok =>
      if .saving b ∈ s.shutdowns then
        let saved := { s with shutdowns := s.shutdowns.erase (.saving b) }
        some (startShutdown
          (if ok then
            { saved with
              viewDefinitions := (s.viewsOf b).entries.foldl
                (fun definitions entry => definitions.set entry.2.name entry.2)
                s.viewDefinitions }
          else saved))
      else none
  | .shutdown => some (startShutdown s)
  | .closed b =>
      if .closing b ∈ s.shutdowns then
        some
          { s.setBridge b fun bridge => { bridge with initialized := false, inTransaction := false }
            with
            bridge := none
            shutdowns := s.shutdowns.erase (.closing b) }
      else none

end Zentra.DuckDB
