import Zentra.LruCache
import Zentra.StepTrace
import Zentra.TableLoading

/-!
# The cache of compiled queries

The compiler keeps what it has compiled under a hash of the query and its options.  The
text of a query with a preset or a relative date range also depends on the day.

* `transparent_of_sameBounds` — so it is if the date ranges of a query resolve to the
  same bounds at all the times at which it is compiled;
* `compile_again` — a query that is compiled again at once gets the first answer.
-/

open StepTrace JsDate

namespace Zentra

namespace QueryEngine

/-- What a compilation is asked for: the query, with the option `primaryTable`. -/
structure CompileRequest where
  query : Query
  primaryTable : Option String := none

/-- What `compile` throws. -/
inductive CompileError
  /-- `DisposedError` -/
  | disposed
  | compilation (error : QueryCompilationError)
  deriving DecidableEq, Repr

/-- `SqlCompiler`, with the keys that the hash gives. -/
structure SqlCompiler (K : Type) where
  cache : LruCache K CompilationResult
  isDisposed : Bool

/-- `DEFAULT_CACHE_SIZE`. -/
def defaultCacheSize : Nat := 100

/-- The compilation without the cache. -/
def uncached (zone : Zone) (now : Int) (request : CompileRequest) :
    Except CompileError CompilationResult :=
  (compileInternal zone now request.query request.primaryTable).mapError .compilation

/-- What happens to a compiler: a query is compiled at a time, the cache is cleared, or
the compiler is disposed of. -/
inductive CompilerEvent
  | compile (request : CompileRequest) (now : Int)
  | clearCache
  | dispose

section Compiling

variable {K : Type} [DecidableEq K] (hashPayload : CompileRequest → K) (zone : Zone)

def SqlCompiler.create (cacheSize : Nat) : SqlCompiler K where
  cache := .empty cacheSize
  isDisposed := false

/-- `compile`: the answer, and the compiler afterwards. -/
def SqlCompiler.compile (compiler : SqlCompiler K) (request : CompileRequest) (now : Int) :
    Except CompileError CompilationResult × SqlCompiler K :=
  if compiler.isDisposed then (.error .disposed, compiler)
  else
    let looked := compiler.cache.get (hashPayload request)
    match looked.1 with
    | some cached => (.ok cached, { compiler with cache := looked.2 })
    | none =>
        match uncached zone now request with
        | .error error => (.error error, { compiler with cache := looked.2 })
        | .ok result =>
            (.ok result, { compiler with cache := looked.2.set (hashPayload request) result })

def SqlCompiler.step (compiler : SqlCompiler K) : CompilerEvent → Option (SqlCompiler K)
  | .compile request now => some (compiler.compile hashPayload zone request now).2
  | .clearCache => some { compiler with cache := compiler.cache.clear }
  | .dispose => some { cache := compiler.cache.clear, isDisposed := true }

/-- In the history, every call of a compiler that is not disposed answers what an
uncached compilation of the query at that time does. -/
def Transparent (cacheSize : Nat) (events : List CompilerEvent) : Prop :=
  ∀ before request now after compiler, events = before ++ .compile request now :: after →
    Exec (SqlCompiler.step hashPayload zone) (SqlCompiler.create cacheSize) before compiler →
    compiler.isDisposed = false →
    (compiler.compile hashPayload zone request now).1 = uncached zone now request

def requests : List CompilerEvent → List CompileRequest
  | [] => []
  | .compile request _ :: rest => request :: requests rest
  | _ :: rest => requests rest

/-- No two queries of the history have the same hash. -/
def CollisionFree (events : List CompilerEvent) : Prop :=
  ∀ request ∈ requests events, ∀ other ∈ requests events,
    hashPayload request = hashPayload other → request = other

/-- The date ranges of the query resolve to the same bounds at both times. -/
def SameBounds (request : CompileRequest) (now later : Int) : Prop :=
  ∀ timeDim ∈ request.query.timeDimensions, ∀ dateRange ∈ timeDim.dateRange,
    resolveDateRange zone now dateRange = resolveDateRange zone later dateRange

/-- If both events compile the same query, its date ranges resolve to the same bounds. -/
def SameDay : CompilerEvent → CompilerEvent → Prop
  | .compile request now, .compile other later =>
      request = other → SameBounds zone request now later
  | _, _ => True

variable {hashPayload zone} {compiler : SqlCompiler K} {request : CompileRequest} {now : Int}

theorem compile_hit (hdisposed : compiler.isDisposed = false) {cached : CompilationResult}
    (hget : (compiler.cache.get (hashPayload request)).1 = some cached) :
    compiler.compile hashPayload zone request now =
      (.ok cached, { compiler with cache := (compiler.cache.get (hashPayload request)).2 }) := by
  simp [SqlCompiler.compile, hdisposed, hget]

theorem compile_miss (hdisposed : compiler.isDisposed = false)
    (hget : (compiler.cache.get (hashPayload request)).1 = none) :
    (compiler.compile hashPayload zone request now).1 = uncached zone now request := by
  cases hcompiled : uncached zone now request with
  | error error => simp [SqlCompiler.compile, hdisposed, hget, hcompiled]
  | ok result => simp [SqlCompiler.compile, hdisposed, hget, hcompiled]

theorem compile_miss_ok (hdisposed : compiler.isDisposed = false)
    (hget : (compiler.cache.get (hashPayload request)).1 = none) {result : CompilationResult}
    (hcompiled : uncached zone now request = .ok result) :
    compiler.compile hashPayload zone request now =
      (.ok result, { compiler with
        cache := (compiler.cache.get (hashPayload request)).2.set (hashPayload request) result }) := by
  simp [SqlCompiler.compile, hdisposed, hget, hcompiled]

/-- A query that is compiled again at once gets the first answer again, at any time. -/
theorem compile_again (hdisposed : compiler.isDisposed = false) {result : CompilationResult}
    (hfirst : (compiler.compile hashPayload zone request now).1 = .ok result) (later : Int) :
    ((compiler.compile hashPayload zone request now).2.compile hashPayload zone request
      later).1 = .ok result := by
  cases hget : (compiler.cache.get (hashPayload request)).1 with
  | some cached =>
      rw [compile_hit hdisposed hget] at hfirst ⊢
      cases hfirst
      refine congrArg Prod.fst (compile_hit ?_ ?_)
      · exact hdisposed
      · exact LruCache.get_get hget
  | none =>
      have hcompiled := (compile_miss hdisposed hget).symm.trans hfirst
      rw [compile_miss_ok hdisposed hget hcompiled]
      refine congrArg Prod.fst (compile_hit ?_ ?_)
      · exact hdisposed
      · exact LruCache.get_set

/-- The value was compiled in the past, for a query with that key. -/
def CompiledBefore (hashPayload : CompileRequest → K) (zone : Zone)
    (past : List CompilerEvent) (key : K) (result : CompilationResult) : Prop :=
  ∃ request now, .compile request now ∈ past ∧ hashPayload request = key ∧
    uncached zone now request = .ok result

theorem sound_of_step {past : List CompilerEvent} {event : CompilerEvent}
    {next : SqlCompiler K} (hstep : compiler.step hashPayload zone event = some next)
    (h : compiler.cache.Sound (CompiledBefore hashPayload zone past)) :
    next.cache.Sound (CompiledBefore hashPayload zone (past ++ [event])) := by
  have hlater : compiler.cache.Sound (CompiledBefore hashPayload zone (past ++ [event])) := by
    refine h.mono fun key result hcompiled => ?_
    obtain ⟨request, now, hmem, hrest⟩ := hcompiled
    exact ⟨request, now, List.mem_append_left _ hmem, hrest⟩
  cases event with
  | clearCache =>
      cases hstep
      exact LruCache.sound_clear _
  | dispose =>
      cases hstep
      exact LruCache.sound_clear _
  | compile request now =>
      cases hstep
      cases hdisposed : compiler.isDisposed with
      | true => simpa [SqlCompiler.compile, hdisposed] using hlater
      | false =>
          cases hget : (compiler.cache.get (hashPayload request)).1 with
          | some cached =>
              rw [compile_hit hdisposed hget]
              exact hlater.get
          | none =>
              cases hcompiled : uncached zone now request with
              | error error =>
                  simpa [SqlCompiler.compile, hdisposed, hget, hcompiled] using hlater.get
              | ok result =>
                  rw [compile_miss_ok hdisposed hget hcompiled]
                  refine hlater.get.set ⟨request, now, ?_, rfl, hcompiled⟩
                  exact List.mem_append_right _ (List.mem_singleton.2 rfl)

theorem sound_of_exec {cacheSize : Nat} {past : List CompilerEvent}
    (h : Exec (SqlCompiler.step hashPayload zone) (SqlCompiler.create cacheSize) past compiler) :
    compiler.cache.Sound (CompiledBefore hashPayload zone past) :=
  Exec.history (fun past compiler =>
      LruCache.Sound (CompiledBefore hashPayload zone past) compiler.cache)
    (LruCache.sound_empty cacheSize)
    (fun _ _ _ _ _ hsound hstep => sound_of_step hstep hsound) h

theorem mem_requests {events : List CompilerEvent} (h : .compile request now ∈ events) :
    request ∈ requests events := by
  induction events with
  | nil => exact absurd h List.not_mem_nil
  | cons event rest ih =>
      obtain rfl | hrest := List.mem_cons.1 h
      · exact List.mem_cons_self
      · cases event with
        | compile first time => exact List.mem_cons_of_mem _ (ih hrest)
        | clearCache => exact ih hrest
        | dispose => exact ih hrest

/-- The compilation depends on the time through the bounds of the date ranges only. -/
theorem uncached_congr {later : Int} (h : SameBounds zone request now later) :
    uncached zone now request = uncached zone later request := by
  have hranges : timeRanges zone now request.query.timeDimensions =
      timeRanges zone later request.query.timeDimensions := by
    refine List.filterMap_congr fun timeDim htimeDim => ?_
    cases hrange : timeDim.dateRange with
    | none => rfl
    | some dateRange =>
        have hbounds := h timeDim htimeDim dateRange (by rw [hrange]; rfl)
        simp only [Option.map_some, hbounds]
  unfold uncached compileInternal
  rw [hranges]

/-- **Every history.**  If no two queries of a history have the same hash, and the date
ranges of a query resolve to the same bounds whenever it is compiled, every answer is
that of an uncached compilation. -/
theorem transparent_of_sameBounds (hashPayload : CompileRequest → K) (zone : Zone)
    (cacheSize : Nat) (events : List CompilerEvent)
    (hcollision : CollisionFree hashPayload events) (hsame : events.Pairwise (SameDay zone)) :
    Transparent hashPayload zone cacheSize events := by
  intro before request now after compiler hevents hexec hdisposed
  cases hget : (compiler.cache.get (hashPayload request)).1 with
  | none => exact compile_miss hdisposed hget
  | some cached =>
      rw [compile_hit hdisposed hget]
      obtain ⟨first, time, hmem, hkey, hcompiled⟩ := (sound_of_exec hexec).of_get hget
      have hfirst : first ∈ requests events :=
        mem_requests (hevents ▸ List.mem_append_left _ hmem)
      have hevent : .compile request now ∈ events :=
        hevents ▸ List.mem_append_right _ List.mem_cons_self
      have hrequest := mem_requests hevent
      obtain rfl := hcollision first hfirst request hrequest hkey
      have hpair : SameDay zone (.compile first time) (.compile first now) := by
        rw [hevents, List.pairwise_append] at hsame
        exact hsame.2.2 _ hmem _ List.mem_cons_self
      exact hcompiled.symm.trans (uncached_congr (hpair rfl))

end Compiling

def ordersOfToday : CompileRequest where
  query :=
    { dimensions := [{ member := "orders.id" }]
      timeDimensions :=
        [{ dimension := "orders.created_at", dateRange := some (.preset .today) }] }

def allOrders : CompileRequest where
  query := { dimensions := [{ member := "orders.id" }] }

/-- A hash that keeps the two apart. -/
def rangesHash (request : CompileRequest) : Nat := request.query.timeDimensions.length

theorem transparent_today :
    Transparent rangesHash utc defaultCacheSize
      [.compile ordersOfToday 0, .compile allOrders 1000, .compile ordersOfToday 2000] := by
  refine transparent_of_sameBounds rangesHash utc defaultCacheSize _ ?_ ?_
  · intro request hrequest other hother hhash
    simp only [requests, List.mem_cons, List.not_mem_nil, or_false] at hrequest hother
    obtain rfl | rfl | rfl := hrequest <;> obtain rfl | rfl | rfl := hother
    all_goals first
      | rfl
      | exact absurd hhash (by decide)
  · have hsame : SameBounds utc ordersOfToday 0 2000 := by
      intro timeDim htimeDim dateRange hrange
      obtain rfl := List.mem_singleton.1 htimeDim
      cases hrange
      decide
    have hother : ordersOfToday ≠ allOrders := fun h => by
      have hlength := congrArg rangesHash h
      exact absurd hlength (by decide)
    simp [SameDay, hsame, hother, hother.symm]

/-- The next day the query about today is answered with the bounds of the day before. -/
theorem not_transparent_tomorrow :
    ¬ Transparent rangesHash utc defaultCacheSize
      [.compile ordersOfToday 0, .compile ordersOfToday msPerDay] := by
  intro h
  have hanswer := h [.compile ordersOfToday 0] ordersOfToday msPerDay [] _ rfl
    (exec_of_run rfl) rfl
  have hcached : (((SqlCompiler.create defaultCacheSize).compile rangesHash utc ordersOfToday
      0).2.compile rangesHash utc ordersOfToday msPerDay).1 = uncached utc 0 ordersOfToday :=
    compile_again rfl rfl msPerDay
  have hbounds := congrArg
    (fun answer => answer.toOption.map fun result => result.statement.sql)
    (hcached.symm.trans hanswer)
  exact absurd hbounds (by decide)

end QueryEngine

end Zentra
