import Zentra.ViewNames
import Zentra.ModifiedList

/-!
# The idle shutdown is transparent

The timer may shut a bridge down at any moment.  No call should be left on a bridge that is
shut down, one initialized bridge at most should exist, a transaction should be committed on
the bridge it began on, and the views should be those that were created and not dropped.

* `Orderly` — the condition on one event: a shutdown finds neither a call nor a transaction
  nor an initialization, no call gets a bridge that is being shut down, and no statement of a
  view fails;
* `transparent_of_orderly` — every run whose events are orderly is transparent.
-/

namespace Zentra.DuckDB

open StepTrace ModifiedList

/-- Calls in progress have a bridge that is neither shut down nor being shut down; one
initialized bridge at most exists, the held one; and it has the views that are wanted. -/
structure Safe (s : Router) : Prop where
  live : ∀ call ∈ s.running, s.isInitialized call.2 = true ∧ s.isClosing call.2 = false
  starting : ∀ call ∈ s.initializing, s.isClosing call.bridge = false
  held : ∀ b, s.isInitialized b = true → s.bridge = some b
  views : ∀ b, s.isInitialized b = true → s.initializing = none →
    ∀ name, (s.viewsOf b).get name = s.wanted.get name

/-- A commit resolves only on the bridge on which the transaction began, when all statements
since ran on it, and it is live. -/
def CommitsWhole (s : Router) (event : RouterEvent) (_ : Router) : Prop :=
  ∀ b, event = .finish b true →
    (s.running.find? fun call => call.2 = b).map Prod.fst = some .commit →
      ∀ begun ∈ s.transaction, begun = (b, false) ∧ s.isInitialized b = true

namespace Router

variable (s : Router)

def restoringViews : List ViewDefinition :=
  (s.initializing.bind Initialization.restoring).getD []

/-- A shutdown that starts here interrupts nothing. -/
def Quiet : Prop :=
  ∀ b ∈ s.bridge, s.initializing = none ∧
    (s.isInitialized b = true → s.running = [] ∧ s.inTransaction b = false)

instance : Decidable s.Quiet := inferInstanceAs (Decidable (∀ b ∈ s.bridge, _ ∧ (_ → _ ∧ _)))

end Router

/-- **The condition** on one event. -/
def Orderly (s : Router) : RouterEvent → Prop
  | .call kind => ∀ b ∈ s.ready, s.isClosing b = false ∧
      ∀ name ∈ kind.viewName, s.restoringViews.find? (fun view => view.name = name) = none
  | .acquire _ => ∀ b ∈ s.ready, s.isClosing b = false
  | .restored _ ok => ok = true
  | .finish b ok => ∀ call ∈ s.running.find? (fun call => call.2 = b),
      call.1.viewName = none ∨ ok = true
  | .timerFires => s.ready = none → s.Quiet
  | .viewsSaved b ok => (ok = true → s.ready = some b) ∧ s.Quiet
  | .shutdown => s.Quiet
  | .closed b => ∀ held ∈ s.bridge, held = b
  | .bridgeInitialized | .bridgeFails => True

instance (s : Router) : (event : RouterEvent) → Decidable (Orderly s event)
  | .call _ => inferInstanceAs (Decidable (∀ b ∈ s.ready, _ ∧ ∀ name ∈ _, _))
  | .acquire _ => inferInstanceAs (Decidable (∀ b ∈ s.ready, _))
  | .restored _ ok => inferInstanceAs (Decidable (ok = true))
  | .finish b ok => inferInstanceAs (Decidable (∀ call ∈ s.running.find? (fun call => call.2 = b),
      call.1.viewName = none ∨ ok = true))
  | .timerFires => inferInstanceAs (Decidable (_ → s.Quiet))
  | .viewsSaved .. => inferInstanceAs (Decidable ((_ → _) ∧ s.Quiet))
  | .shutdown => inferInstanceAs (Decidable s.Quiet)
  | .closed _ => inferInstanceAs (Decidable (∀ held ∈ s.bridge, _))
  | .bridgeInitialized | .bridgeFails => .isTrue trivial

structure Inv (s : Router) : Prop where
  live : ∀ call ∈ s.running, s.isInitialized call.2 = true ∧ s.isClosing call.2 = false
  held : ∀ b, s.isInitialized b = true → s.bridge = some b
  starting : ∀ call ∈ s.initializing,
    s.bridge = some call.bridge ∧ s.isClosing call.bridge = false
  fresh : ∀ call ∈ s.initializing, call.restoring = none → s.bridges[call.bridge]? = some .new
  restoring : ∀ call ∈ s.initializing, ∀ views ∈ call.restoring,
    s.isInitialized call.bridge = true ∧ (views.map ViewDefinition.name).Nodup
  closing : ∀ b, s.isClosing b = true → b < s.bridges.length ∧ (s.isInitialized b = true →
    s.initializing = none ∧ s.running = [] ∧ s.inTransaction b = false)
  keyed : Keyed s.viewDefinitions ∧ ∀ b, Keyed (s.viewsOf b)
  queue : ∀ name, s.viewDefinitions.get name =
    (s.running.foldl (fun definitions call => noteView call.1 definitions) s.wanted).get name
  apart : ∀ call ∈ s.running, ∀ name ∈ call.1.viewName,
    s.restoringViews.find? (fun view => view.name = name) = none
  settled : ∀ b, s.isInitialized b = true → ∀ name, s.wanted.get name =
    (s.restoringViews.find? fun view => view.name = name).or ((s.viewsOf b).get name)
  transaction : ∀ b, s.isInitialized b = true →
    s.transaction = if s.inTransaction b then some (b, false) else none
  begun : ∀ begun ∈ s.transaction, s.isInitialized begun.1 = true

/-- Without an initialized bridge there are no calls and no transaction. -/
theorem inv_of_uninitialized {t : Router} (hnone : ∀ b, t.isInitialized b = false)
    (hidle : t.running = []) (htransaction : t.transaction = none)
    (hstarting : ∀ call ∈ t.initializing, t.bridge = some call.bridge ∧
      t.isClosing call.bridge = false ∧ call.restoring = none ∧ t.bridges[call.bridge]? = some .new)
    (hclosing : ∀ b, t.isClosing b = true → b < t.bridges.length)
    (hkeyed : Keyed t.viewDefinitions ∧ ∀ b, Keyed (t.viewsOf b))
    (hqueue : ∀ name, t.viewDefinitions.get name = t.wanted.get name) : Inv t := by
  have hno : ∀ {p : Prop} {b}, t.isInitialized b = true → p := fun h =>
    absurd ((hnone _).symm.trans h) (by simp)
  refine ⟨?_, fun b hb => hno hb, ?_, ?_, ?_, ?_, hkeyed, ?_, ?_, fun b hb => hno hb,
    fun b hb => hno hb, ?_⟩
  · intro call hcall
    rw [hidle] at hcall
    cases hcall
  · exact fun call hcall => ⟨(hstarting call hcall).1, (hstarting call hcall).2.1⟩
  · exact fun call hcall _ => (hstarting call hcall).2.2.2
  · intro call hcall views hviews
    rw [(hstarting call hcall).2.2.1] at hviews
    cases hviews
  · exact fun b hb => ⟨hclosing b hb, fun hinit => hno hinit⟩
  · rw [hidle]
    exact hqueue
  · intro call hcall
    rw [hidle] at hcall
    cases hcall
  · intro begun hbegun
    rw [htransaction] at hbegun
    cases hbegun

theorem inv_start : Inv .start := by
  refine inv_of_uninitialized (fun _ => rfl) rfl rfl ?_ ?_ ⟨?_, fun b => ?_⟩ fun _ => rfl
  · intro call hcall
    cases hcall
  · intro b hb
    cases hb
  · intro entry hentry
    cases hentry
  · intro entry hentry
    cases hentry

section Steps

variable {s t : Router} {kind : CallKind} {b c : Nat} {f : Bridge → Bridge}

theorem ready_eq_some : s.ready = some b ↔ s.bridge = some b ∧ s.isInitialized b = true := by
  rw [Router.ready, Option.filter_eq_some_iff]

theorem ready_eq_none :
    s.ready = none ↔ ∀ b, s.bridge = some b → s.isInitialized b = false := by
  simp [Router.ready, Option.filter_eq_none_iff]

theorem Inv.safe (hinv : Inv s) : Safe s := by
  refine ⟨hinv.live, fun call hcall => (hinv.starting call hcall).2, hinv.held, ?_⟩
  intro b hb hnone name
  have hsettled := hinv.settled b hb name
  simp only [Router.restoringViews, hnone, Option.bind_none, Option.getD_none, List.find?_nil,
    Option.none_or] at hsettled
  exact hsettled.symm

theorem isInitialized_setBridge : (s.setBridge b f).isInitialized c =
    if b = c then s.bridges[c]?.any (Bridge.initialized ∘ f) else s.isInitialized c :=
  any_modify s.bridges f Bridge.initialized b c

theorem inTransaction_setBridge : (s.setBridge b f).inTransaction c =
    if b = c then s.bridges[c]?.any (Bridge.inTransaction ∘ f) else s.inTransaction c :=
  any_modify s.bridges f Bridge.inTransaction b c

theorem viewsOf_setBridge : (s.setBridge b f).viewsOf c =
    if b = c then (s.bridges[c]?.map (Bridge.views ∘ f)).getD .empty else s.viewsOf c := by
  have hmap := map_modify s.bridges f Bridge.views b c
  unfold Router.viewsOf
  unfold Router.setBridge
  rw [hmap]
  split <;> rfl

theorem viewsOf_applied (hinit : s.isInitialized b = true)
    (hviews : ∀ bridge, (f bridge).views = noteView kind bridge.views) (c : Nat) :
    (s.setBridge b f).viewsOf c =
      if b = c then noteView kind (s.viewsOf c) else s.viewsOf c := by
  rw [viewsOf_setBridge]
  by_cases hc : b = c
  · subst hc
    cases hbridge : s.bridges[b]? with
    | none => simp [Router.isInitialized, hbridge] at hinit
    | some bridge => simp [Router.viewsOf, hbridge, hviews]
  · rw [if_neg hc, if_neg hc]

theorem Inv.unique (hinv : Inv s) (hb : s.isInitialized b = true) (hc : s.isInitialized c = true) :
    b = c :=
  Option.some.inj ((hinv.held b hb).symm.trans (hinv.held c hc))

theorem Inv.idle (hinv : Inv s) (hnone : ∀ c, s.isInitialized c = false) :
    s.running = [] ∧ s.transaction = none := by
  constructor
  · refine List.eq_nil_iff_forall_not_mem.2 fun call hcall => ?_
    exact absurd ((hnone _).symm.trans (hinv.live call hcall).1) (by simp)
  · cases hbegun : s.transaction with
    | none => rfl
    | some begun => exact absurd ((hnone _).symm.trans (hinv.begun begun hbegun)) (by simp)

theorem Inv.frame (hinv : Inv s) (idleTimer : Bool) (waiting : List CallKind)
    {shutdowns : List Shutdown}
    (h : ∀ b, Shutdown.closing b ∈ shutdowns ↔ .closing b ∈ s.shutdowns) :
    Inv { s with idleTimer, waiting, shutdowns } := by
  have hclosing : ∀ b, Router.isClosing { s with idleTimer, waiting, shutdowns } b =
      s.isClosing b := fun b => decide_eq_decide.2 (h b)
  refine ⟨?_, hinv.held, ?_, hinv.fresh, hinv.restoring, ?_, hinv.keyed, hinv.queue, hinv.apart,
    hinv.settled, hinv.transaction, hinv.begun⟩
  · intro call hcall
    rw [hclosing]
    exact hinv.live call hcall
  · intro call hcall
    rw [hclosing]
    exact hinv.starting call hcall
  · intro b hb
    rw [hclosing] at hb
    exact hinv.closing b hb

/-- **A call runs** on the held bridge. -/
theorem Inv.runOn (hinv : Inv s) (hready : s.ready = some b) (hopen : s.isClosing b = false)
    (hview : ∀ name ∈ kind.viewName,
      s.restoringViews.find? (fun view => view.name = name) = none) :
    Inv (runOn kind b s) := by
  obtain ⟨hbridge, hinit⟩ := ready_eq_some.1 hready
  refine ⟨?_, hinv.held, hinv.starting, hinv.fresh, hinv.restoring, ?_,
    ⟨hinv.keyed.1.noteView kind, hinv.keyed.2⟩, ?_, ?_, hinv.settled, hinv.transaction, hinv.begun⟩
  · intro call hcall
    obtain hold | hnew := List.mem_append.1 hcall
    · exact hinv.live call hold
    · obtain rfl := List.mem_singleton.1 hnew
      exact ⟨hinit, hopen⟩
  · intro c hc
    refine ⟨(hinv.closing c hc).1, fun hinitc => ?_⟩
    have hsame := hinv.held c hinitc
    rw [hbridge] at hsame
    rw [← Option.some.inj hsame] at hc
    exact absurd (hopen.symm.trans hc) (by simp)
  · intro name
    dsimp only [DuckDB.runOn]
    rw [List.foldl_append]
    exact get_noteView_congr (hinv.queue name)
  · intro call hcall
    obtain hold | hnew := List.mem_append.1 hcall
    · exact hinv.apart call hold
    · obtain rfl := List.mem_singleton.1 hnew
      exact hview

theorem Inv.first (hinv : Inv s) {call : CallKind × Nat}
    (hfind : s.running.find? (fun call => call.2 = b) = some call) :
    ∃ rest, s.running = call :: rest ∧ (s.running.eraseP fun call => call.2 = b) = rest ∧
      call.2 = b := by
  have hon : call.2 = b := by simpa using List.find?_some hfind
  have hmem := List.mem_of_find?_eq_some hfind
  cases hrunning : s.running with
  | nil => simp [hrunning] at hfind
  | cons first rest =>
      have hfirst := hinv.held _ (hinv.live first (by simp [hrunning])).1
      have hheld := hinv.held _ (hinv.live call hmem).1
      have heq : first.2 = b := by
        rw [hheld, hon] at hfirst
        exact (Option.some.inj hfirst).symm
      rw [hrunning, List.find?_cons_of_pos (by simpa using heq)] at hfind
      obtain rfl := Option.some.inj hfind
      exact ⟨rest, rfl, List.eraseP_cons_of_pos (by simpa using heq), heq⟩

theorem noteCall_agrees (kind : CallKind) (b : Nat) (ok : Bool) (bridge : Bridge) :
    noteCall kind b ok (if bridge.inTransaction then some (b, false) else none) =
      if (if ok then applyCall kind bridge else bridge).inTransaction then some (b, false)
      else none := by
  cases hopen : bridge.inTransaction with
  | false => cases kind <;> cases ok <;> simp [noteCall, applyCall, hopen]
  | true => cases kind <;> cases ok <;> simp [noteCall, applyCall, hopen]

theorem Inv.ended (hinv : Inv s) {call : CallKind × Nat} {rest : List (CallKind × Nat)}
    (hrunning : s.running = call :: rest) {transaction : Option (Nat × Bool)}
    (hinitialized : ∀ bridge, (f bridge).initialized = bridge.initialized)
    (hviews : ∀ bridge, (f bridge).views = noteView call.1 bridge.views)
    (htransaction : ∀ bridge ∈ s.bridges[call.2]?, transaction =
      if (f bridge).inTransaction then some (call.2, false) else none) :
    Inv { s.setBridge call.2 f with
      running := rest
      transaction
      wanted := noteView call.1 s.wanted } := by
  obtain ⟨hinit, hopen⟩ := hinv.live call (by simp [hrunning])
  have hrest : ∀ other ∈ rest, other ∈ s.running := by
    intro other hother
    rw [hrunning]
    exact List.mem_cons_of_mem _ hother
  have hon := fun c => hinv.unique (c := c) hinit
  obtain ⟨bridge, hbridge⟩ : ∃ bridge, s.bridges[call.2]? = some bridge := by
    cases hget : s.bridges[call.2]? with
    | none => simp [Router.isInitialized, hget] at hinit
    | some bridge => exact ⟨bridge, rfl⟩
  have hinits : ∀ c, (s.setBridge call.2 f).isInitialized c = s.isInitialized c :=
    any_modify_of_eq s.bridges f hinitialized call.2
  have hview := viewsOf_applied hinit hviews
  have htrans : (s.setBridge call.2 f).inTransaction call.2 = (f bridge).inTransaction := by
    rw [inTransaction_setBridge, if_pos rfl, hbridge]
    rfl
  have hnew := htransaction bridge hbridge
  refine ⟨?_, fun c hc => hinv.held c ((hinits c).symm.trans hc), hinv.starting, ?_, ?_, ?_, ?_, ?_,
    fun other hmem => hinv.apart other (hrest other hmem), ?_, ?_, ?_⟩
  · intro other hmem
    obtain ⟨hinitOther, hopenOther⟩ := hinv.live other (hrest other hmem)
    exact ⟨(hinits _).trans hinitOther, hopenOther⟩
  · intro starting hstarting hnone
    -- a bridge that is not initialized yet runs no call
    have hfresh := hinv.fresh starting hstarting hnone
    have hne : call.2 ≠ starting.bridge := by
      intro heq
      rw [← heq, hbridge] at hfresh
      obtain rfl := Option.some.inj hfresh
      simp [Router.isInitialized, hbridge, Bridge.new] at hinit
    exact (List.getElem?_modify_ne f s.bridges hne).trans hfresh
  · intro starting hstarting views hmem
    obtain ⟨hinitStarting, hnodup⟩ := hinv.restoring starting hstarting views hmem
    exact ⟨(hinits _).trans hinitStarting, hnodup⟩
  · intro c hc
    obtain ⟨hbound, -⟩ := hinv.closing c hc
    refine ⟨?_, fun hinitc => ?_⟩
    · show c < (s.bridges.modify call.2 f).length
      rw [List.length_modify]
      exact hbound
    · obtain rfl := hon c ((hinits c).symm.trans hinitc)
      exact absurd (hopen.symm.trans hc) (by simp)
  · refine ⟨hinv.keyed.1, fun c => ?_⟩
    show Keyed ((s.setBridge call.2 f).viewsOf c)
    rw [hview]
    split
    · exact (hinv.keyed.2 c).noteView call.1
    · exact hinv.keyed.2 c
  · intro name
    have hqueue := hinv.queue name
    rw [hrunning] at hqueue
    exact hqueue
  · intro c hc name
    obtain rfl := hon c ((hinits c).symm.trans hc)
    have hsettled := hinv.settled _ hinit name
    show (noteView call.1 s.wanted).get name =
      (s.restoringViews.find? fun view => view.name = name).or
        (((s.setBridge call.2 f).viewsOf call.2).get name)
    rw [hview, if_pos rfl]
    by_cases hname : call.1.viewName = some name
    · rw [hinv.apart call (by simp [hrunning]) name hname, Option.none_or] at hsettled ⊢
      exact get_noteView_congr hsettled
    · rw [get_noteView_of_ne hname, get_noteView_of_ne hname]
      exact hsettled
  · intro c hc
    obtain rfl := hon c ((hinits c).symm.trans hc)
    exact hnew.trans (by rw [← htrans]; rfl)
  · intro begun hbegun
    dsimp only at hbegun
    rw [hnew] at hbegun
    split at hbegun
    · obtain rfl := Option.some.inj hbegun
      exact (hinits _).trans hinit
    · cases hbegun

/-- **A call ends**; a call on a view has gone through. -/
theorem Inv.finish (hinv : Inv s) {call : CallKind × Nat} {ok : Bool}
    (hfind : s.running.find? (fun call => call.2 = b) = some call)
    (hok : call.1.viewName = none ∨ ok = true) : Inv (finishCall call.1 b ok s) := by
  obtain ⟨rest, hrunning, herase, rfl⟩ := hinv.first hfind
  obtain ⟨hinit, -⟩ := hinv.live call (by simp [hrunning])
  have htransaction : ∀ bridge ∈ s.bridges[call.2]?, noteCall call.1 call.2 ok s.transaction =
      if (if ok then applyCall call.1 bridge else bridge).inTransaction then some (call.2, false)
      else none := by
    intro bridge hbridge
    have hagree := hinv.transaction _ hinit
    rw [Router.inTransaction, hbridge, Option.any_some] at hagree
    rw [hagree, noteCall_agrees]
  unfold finishCall
  dsimp only
  rw [herase]
  cases ok with
  | true =>
      exact hinv.ended hrunning initialized_applyCall views_applyCall htransaction
  | false =>
      have hnone : call.1.viewName = none := by simpa using hok
      have hended := hinv.ended (f := id) hrunning (fun _ => rfl)
        (fun bridge => (noteView_eq_self hnone).symm) htransaction
      rw [Router.setBridge, List.modify_id, noteView_eq_self hnone] at hended
      exact hended

theorem ensured_of_bridge (hbridge : s.bridge = some b) :
    ensured kind s = DuckDB.runOn kind b { s with initializing := none } := by
  simp only [ensured, hbridge]

theorem rehydrate_of_bridge (hbridge : s.bridge = some b) : rehydrate kind s =
    if s.viewDefinitions.size = 0 then ensured kind s
    else { s with
      initializing := some ⟨kind, b, some (s.viewDefinitions.entries.map Prod.snd)⟩ } := by
  simp only [rehydrate, hbridge]

theorem Inv.ensured (hinv : Inv { s with initializing := none }) (hready : s.ready = some b)
    (hopen : s.isClosing b = false) : Inv (ensured kind s) := by
  rw [ensured_of_bridge (ready_eq_some.1 hready).1]
  exact hinv.runOn (s := { s with initializing := none }) hready hopen fun _ _ => rfl

/-- **A bridge is initialized**: it has no view yet, and what is stored is to be restored. -/
theorem Inv.initialized (hinv : Inv s) (hstarting : s.initializing = some ⟨kind, b, none⟩)
    {restoring : Option Initialization}
    (hrestoring : ∀ call ∈ restoring, call.bridge = b ∧ ∃ views, call.restoring = some views ∧
      (views.map ViewDefinition.name).Nodup)
    (hviews : ∀ name, s.viewDefinitions.get name =
      ((restoring.bind Initialization.restoring).getD []).find? fun view => view.name = name) :
    Inv { s.setBridge b (fun bridge => { bridge with initialized := true }) with
      initializing := restoring } := by
  obtain ⟨hheld, hopen⟩ := hinv.starting _ hstarting
  have hnew := hinv.fresh _ hstarting rfl
  dsimp only at hheld hopen hnew
  have hnone : ∀ c, s.isInitialized c = false := by
    intro c
    by_contra hno
    have hc : s.isInitialized c = true := by simpa using hno
    have hsame := hinv.held c hc
    rw [hheld] at hsame
    obtain rfl := Option.some.inj hsame
    simp [Router.isInitialized, hnew, Bridge.new] at hc
  obtain ⟨hidle, htrans⟩ := hinv.idle hnone
  have hinits : ∀ c, Router.isInitialized
      (s.setBridge b fun bridge => { bridge with initialized := true }) c = decide (b = c) := by
    intro c
    rw [isInitialized_setBridge]
    by_cases hc : b = c
    · subst hc
      simp [hnew]
    · simp [hc, hnone]
  have hview : ∀ c, Router.viewsOf
      (s.setBridge b fun bridge => { bridge with initialized := true }) c = s.viewsOf c := by
    intro c
    rw [viewsOf_setBridge]
    split
    · rfl
    · rfl
  refine ⟨?_, ?_, ?_, ?_, ?_, ?_, ⟨hinv.keyed.1, ?_⟩, hinv.queue, ?_, ?_, ?_, ?_⟩
  · intro call hcall
    exact absurd (hidle ▸ hcall : call ∈ []) List.not_mem_nil
  · intro c hc
    obtain rfl : b = c := of_decide_eq_true ((hinits c).symm.trans hc)
    exact hheld
  · intro call hcall
    rw [(hrestoring call hcall).1]
    exact ⟨hheld, hopen⟩
  · intro call hcall hno
    obtain ⟨-, views, hsome, -⟩ := hrestoring call hcall
    rw [hsome] at hno
    cases hno
  · intro call hcall views hmem
    obtain ⟨hon, others, hsome, hnodup⟩ := hrestoring call hcall
    rw [hsome] at hmem
    obtain rfl := Option.some.inj hmem
    rw [hon]
    exact ⟨(hinits b).trans (by simp), hnodup⟩
  · intro c hc
    refine ⟨?_, fun hinitc => ?_⟩
    · show c < (s.bridges.modify b _).length
      rw [List.length_modify]
      exact (hinv.closing c hc).1
    · obtain rfl : b = c := of_decide_eq_true ((hinits c).symm.trans hinitc)
      exact absurd (hopen.symm.trans hc) (by simp)
  · intro c
    exact (hview c).symm ▸ hinv.keyed.2 c
  · intro call hcall
    exact absurd (hidle ▸ hcall : call ∈ []) List.not_mem_nil
  · intro c hc name
    obtain rfl : b = c := of_decide_eq_true ((hinits c).symm.trans hc)
    have hqueue := hinv.queue name
    rw [hidle, List.foldl_nil, hviews name] at hqueue
    have hempty : (s.viewsOf b).get name = none := by
      simp [Router.viewsOf, hnew, Bridge.new]
    show s.wanted.get name = Option.or _ (((s.setBridge b _).viewsOf b).get name)
    rw [hview, hempty, Option.or_none, ← hqueue]
    rfl
  · intro c hc
    obtain rfl : b = c := of_decide_eq_true ((hinits c).symm.trans hc)
    have hfalse : Router.inTransaction
        (s.setBridge b fun bridge => { bridge with initialized := true }) b = false := by
      rw [inTransaction_setBridge, if_pos rfl, hnew]
      rfl
    exact htrans.trans (if_neg fun hopen => absurd (hfalse.symm.trans hopen) (by simp)).symm
  · intro begun hbegun
    dsimp only [Router.setBridge] at hbegun
    rw [htrans] at hbegun
    cases hbegun

/-- **A view is restored**: one less is to be. -/
theorem Inv.restored (hinv : Inv s) {views : List ViewDefinition} {view : ViewDefinition}
    (hstarting : s.initializing = some ⟨kind, b, some views⟩) (hview : view ∈ views)
    {restoring : Option Initialization}
    (hrestoring : ∀ call ∈ restoring, call.bridge = b ∧
      call.restoring = some (views.eraseP fun other => other.name = view.name))
    (hviews : (restoring.bind Initialization.restoring).getD [] =
      views.eraseP fun other => other.name = view.name) :
    Inv { s.setBridge b (applyCall (.createView view)) with initializing := restoring } := by
  obtain ⟨hheld, hopen⟩ := hinv.starting _ hstarting
  obtain ⟨hinit, hnodup⟩ := hinv.restoring _ hstarting views rfl
  dsimp only at hheld hopen hinit
  have hall : s.restoringViews = views := by simp [Router.restoringViews, hstarting]
  have hon := fun c => hinv.unique (c := c) hinit
  have hinits : ∀ c, (s.setBridge b (applyCall (.createView view))).isInitialized c =
      s.isInitialized c :=
    any_modify_of_eq s.bridges _ initialized_applyCall b
  have htrans : ∀ c, (s.setBridge b (applyCall (.createView view))).inTransaction c =
      s.inTransaction c :=
    any_modify_of_eq s.bridges (applyCall (.createView view)) (fun _ => rfl) b
  have hnoted : ∀ bridge, (applyCall (.createView view) bridge).views =
      noteView (.createView view) bridge.views := views_applyCall
  have hviewsOf := viewsOf_applied hinit hnoted
  have hless : ∀ name, (views.eraseP fun other => other.name = view.name).find?
      (fun other => other.name = name) =
      if name = view.name then none else views.find? fun other => other.name = name :=
    find?_eraseP hnodup view.name
  refine ⟨?_, fun c hc => hinv.held c ((hinits c).symm.trans hc), ?_, ?_, ?_, ?_,
    ⟨hinv.keyed.1, ?_⟩, hinv.queue, ?_, ?_, ?_, ?_⟩
  · intro call hcall
    obtain ⟨hinitCall, hopenCall⟩ := hinv.live call hcall
    exact ⟨(hinits _).trans hinitCall, hopenCall⟩
  · intro call hcall
    rw [(hrestoring call hcall).1]
    exact ⟨hheld, hopen⟩
  · intro call hcall hno
    rw [(hrestoring call hcall).2] at hno
    cases hno
  · intro call hcall others hmem
    obtain ⟨hsame, hsome⟩ := hrestoring call hcall
    rw [hsome] at hmem
    obtain rfl := Option.some.inj hmem
    rw [hsame]
    exact ⟨(hinits b).trans hinit, (List.eraseP_sublist.map _).nodup hnodup⟩
  · intro c hc
    refine ⟨?_, fun hinitc => ?_⟩
    · show c < (s.bridges.modify b _).length
      rw [List.length_modify]
      exact (hinv.closing c hc).1
    · obtain rfl := hon c ((hinits c).symm.trans hinitc)
      exact absurd (hopen.symm.trans hc) (by simp)
  · intro c
    show Keyed ((s.setBridge b (applyCall (.createView view))).viewsOf c)
    rw [hviewsOf]
    split
    · exact (hinv.keyed.2 c).noteView _
    · exact hinv.keyed.2 c
  · intro call hcall name hname
    have hbefore := hinv.apart call hcall name hname
    rw [hall] at hbefore
    show ((restoring.bind Initialization.restoring).getD []).find? _ = none
    rw [hviews, hless]
    split
    · rfl
    · exact hbefore
  · intro c hc name
    obtain rfl := hon c ((hinits c).symm.trans hc)
    have hsettled := hinv.settled b hinit name
    rw [hall] at hsettled
    show s.wanted.get name = (((restoring.bind Initialization.restoring).getD []).find? _).or
      (((s.setBridge b (applyCall (.createView view))).viewsOf b).get name)
    rw [hviews, hless, hviewsOf, if_pos rfl]
    by_cases hname : name = view.name
    · subst hname
      rw [find?_of_nodup hnodup hview] at hsettled
      rw [if_pos rfl, Option.none_or, hsettled]
      exact JsMap.get_set_self.symm
    · have hne : (CallKind.createView view).viewName ≠ some name := fun heq =>
        hname (Option.some.inj heq).symm
      rw [if_neg hname, get_noteView_of_ne hne]
      exact hsettled
  · intro c hc
    have hbefore := hinv.transaction c ((hinits c).symm.trans hc)
    rw [← htrans] at hbefore
    exact hbefore
  · intro begun hbegun
    exact (hinits _).trans (hinv.begun begun hbegun)

theorem Inv.closes (hinv : Inv s) (hinit : s.isInitialized b = true)
    (hstarting : s.initializing = none) (hidle : s.running = [])
    (htransaction : s.inTransaction b = false) :
    Inv { s with idleTimer := false, shutdowns := .closing b :: s.shutdowns } := by
  refine ⟨?_, hinv.held, ?_, hinv.fresh, hinv.restoring, ?_, hinv.keyed, hinv.queue, hinv.apart,
    hinv.settled, hinv.transaction, hinv.begun⟩
  · intro call hcall
    exact absurd (hidle ▸ hcall : call ∈ []) List.not_mem_nil
  · intro call hcall
    exact absurd (hstarting.symm.trans hcall) (by simp)
  · intro c hc
    have hmem : Shutdown.closing c ∈ Shutdown.closing b :: s.shutdowns := of_decide_eq_true hc
    obtain heq | hold := List.mem_cons.1 hmem
    · cases heq
      refine ⟨?_, fun _ => ⟨hstarting, hidle, htransaction⟩⟩
      obtain ⟨bridge, hbridge, -⟩ := Option.any_eq_true _ _ |>.1 hinit
      exact (List.getElem?_eq_some_iff.1 hbridge).1
    · exact hinv.closing c (decide_eq_true hold)

theorem Inv.letGo (hinv : Inv s) (hstarting : s.initializing = none)
    (hnone : ∀ b, s.isInitialized b = false) :
    Inv { s with idleTimer := false, bridge := none } := by
  refine ⟨hinv.live, ?_, ?_, hinv.fresh, hinv.restoring, hinv.closing, hinv.keyed, hinv.queue,
    hinv.apart, hinv.settled, hinv.transaction, hinv.begun⟩
  · intro b hb
    exact absurd ((hnone b).symm.trans hb) (by simp)
  · intro call hcall
    exact absurd (hstarting.symm.trans hcall) (by simp)

/-- **A shutdown starts** where it interrupts nothing. -/
theorem Inv.startShutdown (hinv : Inv s) (hquiet : s.Quiet) : Inv (startShutdown s) := by
  unfold DuckDB.startShutdown
  dsimp only
  cases hbridge : s.bridge with
  | none =>
      have hframe := hinv.frame false s.waiting fun _ => Iff.rfl
      rw [hbridge] at hframe
      exact hframe
  | some b =>
      obtain ⟨hstarting, hidle⟩ := hquiet b hbridge
      dsimp only
      split
      next hinit =>
        have hcloses := hinv.closes hinit hstarting (hidle hinit).1 (hidle hinit).2
        rw [hbridge] at hcloses
        exact hcloses
      next hinit =>
        refine hinv.letGo hstarting fun c => ?_
        by_contra hno
        have hc : s.isInitialized c = true := by simpa using hno
        have hsame := hinv.held c hc
        rw [hbridge] at hsame
        obtain rfl := Option.some.inj hsame
        exact hinit hc

theorem Inv.definitions (hinv : Inv s) {definitions : ViewDefinitions} (hkeyed : Keyed definitions)
    (hsame : ∀ name, definitions.get name = s.viewDefinitions.get name) :
    Inv { s with viewDefinitions := definitions } := by
  refine ⟨hinv.live, hinv.held, hinv.starting, hinv.fresh, hinv.restoring, hinv.closing,
    ⟨hkeyed, hinv.keyed.2⟩, fun name => (hsame name).trans (hinv.queue name), hinv.apart,
    hinv.settled, hinv.transaction, hinv.begun⟩

/-- **The views are saved** from a bridge on which no call runs: they are the stored ones. -/
theorem Inv.saved (hinv : Inv s) (hready : s.ready = some b) (hquiet : s.Quiet) :
    Inv { s with
      viewDefinitions := (s.viewsOf b).entries.foldl
        (fun definitions entry => definitions.set entry.2.name entry.2) s.viewDefinitions } := by
  obtain ⟨hbridge, hinit⟩ := ready_eq_some.1 hready
  obtain ⟨hstarting, hidle⟩ := hquiet b hbridge
  refine hinv.definitions (hinv.keyed.1.restore _) (get_restore _ _ fun entry hentry => ?_)
  have hviews := hinv.safe.views b hinit hstarting entry.2.name
  have hqueue := hinv.queue entry.2.name
  rw [(hidle hinit).1, List.foldl_nil, ← hviews, ← hinv.keyed.2 b entry hentry] at hqueue
  rw [← hinv.keyed.2 b entry hentry, hqueue]
  exact ((s.viewsOf b).mem_entries_iff).1 hentry

/-- **A shutdown has gone through**: no initialized bridge is left. -/
theorem Inv.closed (hinv : Inv s) (hclosing : s.isClosing b = true)
    (hon : ∀ held ∈ s.bridge, held = b) :
    Inv { s.setBridge b (fun bridge => { bridge with initialized := false, inTransaction := false })
      with
      bridge := none
      shutdowns := s.shutdowns.erase (.closing b) } := by
  have hb : ∀ c, s.isInitialized c = true → c = b := fun c hc => hon c (hinv.held c hc)
  have hidle : s.running = [] := by
    refine List.eq_nil_iff_forall_not_mem.2 fun call hcall => ?_
    obtain ⟨hinit, hopen⟩ := hinv.live call hcall
    rw [hb _ hinit] at hopen
    exact absurd (hopen.symm.trans hclosing) (by simp)
  have hstarting : s.initializing = none := by
    cases hinitializing : s.initializing with
    | none => rfl
    | some call =>
        obtain ⟨hheld, hopen⟩ := hinv.starting call hinitializing
        rw [hon _ hheld] at hopen
        exact absurd (hopen.symm.trans hclosing) (by simp)
  have hinits : ∀ c, (s.setBridge b fun bridge =>
      { bridge with initialized := false, inTransaction := false }).isInitialized c = false := by
    intro c
    rw [isInitialized_setBridge]
    by_cases hc : b = c
    · subst hc
      cases s.bridges[b]? <;> simp
    · rw [if_neg hc]
      by_contra hno
      exact hc (hb c (by simpa using hno)).symm
  have hviews : ∀ c, (s.setBridge b fun bridge =>
      { bridge with initialized := false, inTransaction := false }).viewsOf c = s.viewsOf c := by
    intro c
    rw [viewsOf_setBridge]
    split
    · rfl
    · rfl
  have htransaction : s.transaction = none := by
    cases hbegun : s.transaction with
    | none => rfl
    | some begun =>
        have hinit := hinv.begun begun hbegun
        obtain rfl := hb _ hinit
        have hagree := hinv.transaction _ hinit
        rw [((hinv.closing _ hclosing).2 hinit).2.2, hbegun] at hagree
        cases hagree
  refine inv_of_uninitialized hinits hidle htransaction ?_ ?_
    ⟨hinv.keyed.1, fun c => (hviews c).symm ▸ hinv.keyed.2 c⟩ fun name => ?_
  · intro call hcall
    exact absurd (hstarting.symm.trans hcall) (by simp)
  · intro c hc
    have hmem : Shutdown.closing c ∈ s.shutdowns.erase (.closing b) := of_decide_eq_true hc
    show c < (s.bridges.modify b _).length
    rw [List.length_modify]
    exact (hinv.closing c (decide_eq_true (List.mem_of_mem_erase hmem))).1
  · have hqueue := hinv.queue name
    rw [hidle] at hqueue
    exact hqueue

/-- **A bridge is made**, when none is ready. -/
theorem Inv.initializeBridge (hinv : Inv s) (hready : s.ready = none) :
    Inv (initializeBridge kind s) := by
  have hnone : ∀ c, s.isInitialized c = false := by
    intro c
    by_contra hno
    have hc : s.isInitialized c = true := by simpa using hno
    exact absurd ((ready_eq_none.1 hready c (hinv.held c hc)).symm.trans hc) (by simp)
  obtain ⟨hidle, htransaction⟩ := hinv.idle hnone
  have hget : ∀ c, (s.bridges ++ [Bridge.new])[c]? =
      if c = s.bridges.length then some .new else s.bridges[c]? := by
    intro c
    by_cases hc : c = s.bridges.length
    · simp [hc]
    · rw [if_neg hc, List.getElem?_append]
      split
      · rfl
      · rw [List.getElem?_eq_none (by simp; omega), List.getElem?_eq_none (by omega)]
  have hopen : s.isClosing s.bridges.length = false := by
    by_contra hno
    exact absurd (hinv.closing _ (by simpa using hno)).1 (by simp)
  refine inv_of_uninitialized (fun c => ?_) hidle htransaction ?_ ?_ ⟨hinv.keyed.1, fun c => ?_⟩
    fun name => ?_
  · show ((s.bridges ++ [Bridge.new])[c]?).any Bridge.initialized = false
    rw [hget]
    split
    · rfl
    · exact hnone c
  · intro call hcall
    obtain rfl := Option.some.inj hcall
    refine ⟨rfl, hopen, rfl, ?_⟩
    show (s.bridges ++ [Bridge.new])[s.bridges.length]? = some .new
    rw [hget, if_pos rfl]
  · intro c hc
    have hbound := (hinv.closing c hc).1
    show c < (s.bridges ++ [Bridge.new]).length
    rw [List.length_append]
    omega
  · show Keyed (((s.bridges ++ [Bridge.new])[c]?.map Bridge.views).getD .empty)
    rw [hget]
    split
    · intro entry hentry
      cases hentry
    · exact hinv.keyed.2 c
  · have hqueue := hinv.queue name
    rw [hidle] at hqueue
    exact hqueue

/-- **The views are restored** to a bridge that is initialized, or there are none. -/
theorem Inv.rehydrate (hinv : Inv s) (hstarting : s.initializing = some ⟨kind, b, none⟩) :
    Inv (rehydrate kind (s.setBridge b fun bridge => { bridge with initialized := true })) := by
  obtain ⟨hheld, hopen⟩ := hinv.starting _ hstarting
  have hnew := hinv.fresh _ hstarting rfl
  dsimp only at hheld hopen hnew
  have hbridge : (s.setBridge b fun bridge => { bridge with initialized := true }).bridge =
      some b := hheld
  rw [rehydrate_of_bridge hbridge]
  split
  next hsize =>
    have hempty : s.viewDefinitions.entries = [] := List.length_eq_zero_iff.1 hsize
    refine Inv.ensured (hinv.initialized hstarting (by simp) fun name => ?_)
      (ready_eq_some.2 ⟨hbridge, ?_⟩) hopen
    · simp [JsMap.get, hempty]
    · rw [isInitialized_setBridge, if_pos rfl, hnew]
      rfl
  next =>
    refine hinv.initialized hstarting (fun call hcall => ?_) fun name => ?_
    · obtain rfl := Option.some.inj hcall
      exact ⟨rfl, _, rfl, hinv.keyed.1.nodup⟩
    · exact (hinv.keyed.1.find? name).symm

theorem Inv.failed (hinv : Inv s) (hstarting : s.initializing = some ⟨kind, b, none⟩) :
    Inv { s with initializing := none } := by
  have hall : s.restoringViews = [] := by simp [Router.restoringViews, hstarting]
  refine ⟨hinv.live, hinv.held, by simp, by simp, by simp, ?_, hinv.keyed, hinv.queue,
    fun _ _ _ _ => rfl, ?_, hinv.transaction, hinv.begun⟩
  · intro c hc
    refine ⟨(hinv.closing c hc).1, fun hinit => ?_⟩
    exact ⟨rfl, ((hinv.closing c hc).2 hinit).2⟩
  · intro c hc name
    have hsettled := hinv.settled c hc name
    rw [hall] at hsettled
    exact hsettled

/-- **One event** that is orderly keeps the invariant. -/
theorem inv_step {event : RouterEvent} (hinv : Inv s) (horderly : Orderly s event)
    (hstep : step s event = some t) : Inv t := by
  have hframe : ∀ idleTimer waiting, Inv { s with idleTimer, waiting } :=
    fun idleTimer waiting => hinv.frame idleTimer waiting fun _ => Iff.rfl
  cases event with
  | call kind =>
      have hreset := hframe true s.waiting
      have hready : (resetIdleTimer s).ready = s.ready := rfl
      unfold step at hstep
      dsimp only at hstep
      rw [hready] at hstep
      cases hthis : s.ready with
      | some b =>
          rw [hthis] at hstep
          obtain rfl := Option.some.inj hstep
          obtain ⟨hopen, hview⟩ := horderly b hthis
          exact hreset.runOn hthis hopen hview
      | none =>
          rw [hthis] at hstep
          obtain rfl := Option.some.inj hstep
          exact hframe true (s.waiting ++ [kind])
  | acquire i =>
      unfold step at hstep
      dsimp only at hstep
      split at hstep
      next kind hwaiting hstarting =>
        have hrest := hframe s.idleTimer (s.waiting.eraseIdx i)
        split at hstep
        next b hthis =>
          obtain rfl := Option.some.inj hstep
          refine hrest.runOn hthis (horderly b hthis) fun name _ => ?_
          simp [Router.restoringViews, hstarting]
        next hthis =>
          obtain rfl := Option.some.inj hstep
          exact hrest.initializeBridge hthis
      · cases hstep
  | bridgeInitialized =>
      unfold step at hstep
      dsimp only at hstep
      split at hstep
      next kind b hstarting =>
        obtain rfl := Option.some.inj hstep
        exact hinv.rehydrate hstarting
      · cases hstep
  | bridgeFails =>
      unfold step at hstep
      dsimp only at hstep
      split at hstep
      next kind b hstarting =>
        obtain rfl := Option.some.inj hstep
        exact hinv.failed hstarting
      · cases hstep
  | restored name ok =>
      obtain rfl : ok = true := horderly
      unfold step at hstep
      dsimp only at hstep
      split at hstep
      next kind b views hstarting =>
        split at hstep
        · cases hstep
        next view hfind =>
          have hmem := List.mem_of_find?_eq_some hfind
          obtain rfl : view.name = name := by simpa using List.find?_some hfind
          rw [if_pos rfl] at hstep
          split at hstep
          next hlast =>
            obtain rfl := Option.some.inj hstep
            obtain ⟨hheld, hopen⟩ := hinv.starting _ hstarting
            obtain ⟨hinit, -⟩ := hinv.restoring _ hstarting views rfl
            refine Inv.ensured (hinv.restored hstarting hmem (by simp) hlast.symm)
              (ready_eq_some.2 ⟨hheld, ?_⟩) hopen
            exact (any_modify_of_eq s.bridges _ initialized_applyCall b b).trans hinit
          next =>
            obtain rfl := Option.some.inj hstep
            exact hinv.restored hstarting hmem (by simp) rfl
      · cases hstep
  | finish b ok =>
      unfold step at hstep
      dsimp only at hstep
      split at hstep
      · cases hstep
      next call hfind =>
        obtain rfl := Option.some.inj hstep
        exact hinv.finish hfind (horderly call hfind)
  | timerFires =>
      unfold step at hstep
      dsimp only at hstep
      split at hstep
      · have hready : Router.ready { s with idleTimer := false } = s.ready := rfl
        rw [hready] at hstep
        cases hthis : s.ready with
        | some b =>
            rw [hthis] at hstep
            obtain rfl := Option.some.inj hstep
            exact hinv.frame _ _ fun c => by simp
        | none =>
            rw [hthis] at hstep
            obtain rfl := Option.some.inj hstep
            exact (hframe false s.waiting).startShutdown (horderly hthis)
      · cases hstep
  | viewsSaved b ok =>
      obtain ⟨hready, hquiet⟩ := horderly
      have herase : Inv { s with shutdowns := s.shutdowns.erase (.saving b) } :=
        hinv.frame _ _ fun c => List.mem_erase_of_ne (by simp)
      unfold step at hstep
      dsimp only at hstep
      split at hstep
      · obtain rfl := Option.some.inj hstep
        cases ok with
        | true => exact (herase.saved (hready rfl) hquiet).startShutdown hquiet
        | false => exact herase.startShutdown hquiet
      · cases hstep
  | shutdown =>
      obtain rfl := Option.some.inj hstep
      exact hinv.startShutdown horderly
  | closed b =>
      unfold step at hstep
      dsimp only at hstep
      split at hstep
      next hclosing =>
        obtain rfl := Option.some.inj hstep
        exact hinv.closed (decide_eq_true hclosing) horderly
      · cases hstep

end Steps

theorem Inv.commitsWhole {s : Router} (hinv : Inv s) (event : RouterEvent) (t : Router) :
    CommitsWhole s event t := by
  intro b _ hcommit begun hbegun
  obtain ⟨call, hfind, -⟩ := Option.map_eq_some_iff.1 hcommit
  have hon : call.2 = b := by simpa using List.find?_some hfind
  obtain ⟨hinit, -⟩ := hinv.live call (List.mem_of_find?_eq_some hfind)
  rw [hon] at hinit
  have hagree := hinv.transaction b hinit
  rw [hagree] at hbegun
  refine ⟨?_, hinit⟩
  split at hbegun
  · exact (Option.some.inj hbegun).symm
  · cases hbegun

/-- **Transparency.**  Along every run whose events are orderly, every state is safe and every
commit whole, wherever the timer fires. -/
theorem transparent_of_orderly (events : List RouterEvent)
    (horderly : Allowed step Orderly .start events) :
    Always step Safe .start events ∧ Respects step CommitsWhole .start events := by
  constructor
  · exact always_of_allowed Inv (fun _ hinv => hinv.safe)
      (fun _ _ _ hinv hcond hstep => inv_step hinv hcond hstep) events _ inv_start horderly
  · exact respects_of_allowed Inv (fun _ _ _ hinv hcond hstep =>
      ⟨inv_step hinv hcond hstep, hinv.commitsWhole _ _⟩) events _ inv_start horderly

def salesView : ViewDefinition := ⟨"sales", "SELECT 1", [], 0⟩

/-- A view is created, the bridge is shut down when idle, and the next call restores the view
and runs a transaction. -/
def idleRun : List RouterEvent :=
  [.call (.createView salesView), .acquire 0, .bridgeInitialized, .finish 0 true, .timerFires,
    .viewsSaved 0 true, .closed 0, .call .beginTransaction, .acquire 0, .bridgeInitialized,
    .restored "sales" true, .finish 1 true, .call .statement, .finish 1 true, .call .commit,
    .finish 1 true]

theorem idleRun_transparent :
    Always step Safe .start idleRun ∧ Respects step CommitsWhole .start idleRun :=
  transparent_of_orderly idleRun (by decide +kernel)

/-- The timer fires between the statements of a transaction. -/
def interruptedTransaction : List RouterEvent :=
  [.call .beginTransaction, .acquire 0, .bridgeInitialized, .finish 0 true, .call .statement,
    .finish 0 true, .timerFires, .viewsSaved 0 true, .closed 0, .call .commit, .acquire 0,
    .bridgeInitialized, .finish 1 true]

/-- The commit resolves on a bridge on which no transaction was begun. -/
theorem interruptedTransaction_commits :
    ¬ (Always step Safe .start interruptedTransaction ∧
      Respects step CommitsWhole .start interruptedTransaction) := by
  intro h
  obtain ⟨s, hexec, hbegun, hcall⟩ : ∃ s, Exec step .start interruptedTransaction.dropLast s ∧
      s.transaction = some (0, false) ∧
      (s.running.find? fun call => call.2 = 1).map Prod.fst = some .commit ∧
      (step s (.finish 1 true)).isSome = true := exists_exec (by decide +kernel)
  obtain ⟨t, hstep⟩ := Option.isSome_iff_exists.1 hcall.2
  have hsplit : interruptedTransaction =
      interruptedTransaction.dropLast ++ .finish 1 true :: [] := rfl
  have hrespects := h.2
  rw [hsplit] at hrespects
  have hwhole : ∀ t, step s (.finish 1 true) = some t → CommitsWhole s (.finish 1 true) t :=
    Allowed.at_step hrespects hexec
  have hsame := (hwhole t hstep 1 rfl hcall.1 (0, false) hbegun).1
  revert hsame
  decide

end Zentra.DuckDB
