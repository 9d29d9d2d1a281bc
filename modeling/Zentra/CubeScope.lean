import Mathlib.Algebra.Order.Ring.Rat
import Zentra.SemanticLayer
import Zentra.StepTrace
import Zentra.TableRows

/-!
# Routing a query to the layer of its source

A plain layer sends what it is given to Cube.  The composed layer qualifies the members of
its catalogs, and takes the qualification off the members of a query before it hands the
query to one of its layers.  `ScopedCubeSemanticLayers` keeps one layer for each tenant and
connection for as long as its token and its Relations last.

* `ScopedCubeSemanticLayers.resolveAll_eq` — the layers that a tuple of ids is resolved to;
* `ScopedCubeSemanticLayers.Reachable.minted` — the client of every layer is of its key.

A catalog is read once for each layer: it is a part of the layer here, `none` where Cube does
not answer.
-/

open JsonDocument PythonText StepTrace TableRows

namespace Zentra

namespace AgentData

/-- What `mint_cube_token` signs, less the times. -/
structure CubeToken where
  tenantId : Option String
  dataConnectionId : Option String
  relationFingerprint : Option String
  secret : String
  deriving DecidableEq, Repr

structure CubeClient where
  baseUrl : String
  token : Option CubeToken
  deriving DecidableEq, Repr

inductive SemanticError
  | invalidSemanticQuery (message : String)
  /-- an error of the transport -/
  | unavailable
  deriving DecidableEq, Repr

/-- A cube of an answer to `/meta`, less what is not read of it. -/
structure CubeDescription where
  measures : List SemanticMeasure
  dimensions : List SemanticDimension

/-- What Cube answers to the queries that it is sent. -/
structure Cube (Row : Type) where
  load : CubeClient → Object → Except SemanticError (List Row)

def catalogFromMeta (cubes : List CubeDescription) : SemanticCatalog where
  measures := cubes.flatMap (·.measures)
  dimensions := cubes.flatMap (·.dimensions)

def strings (texts : List String) : Json := .array (texts.map .string)

/-- A member of the query for Cube, left out where it is empty. -/
def listMember {α : Type} (name : String) (encode : α → Json) : List α → Object
  | [] => []
  | items => [(name, .array (items.map encode))]

def toCubeQuery (request : SemanticQuery) : Object :=
  listMember "measures" .string request.measures ++
    listMember "dimensions" .string request.dimensions ++
    listMember "timeDimensions" (fun item => .object
      (("dimension", .string item.dimension) ::
        (item.granularity.toList.map fun granularity =>
          ("granularity", .string granularity)) ++
        (item.dateRange.toList.map fun range =>
          ("dateRange", strings [range.1, range.2])))) request.timeDimensions ++
    listMember "filters" (fun item => .object
      [("member", .string item.member), ("operator", .string item.operator),
        ("values", strings item.values)]) request.filters ++
    (request.limit.toList.map fun limit => ("limit", .number (limit : ℕ)))

/-- `CubeSemanticLayer`, with the catalog that it reads and keeps. -/
structure CubeSemanticLayer where
  client : CubeClient
  catalog : Option SemanticCatalog
  deriving DecidableEq

/-- A query that a layer has received. -/
structure Received where
  client : CubeClient
  query : SemanticQuery
  deriving DecidableEq

/-- What `query_raw` leads to: the queries that layers receive, and the answer. -/
structure RawQuery (Row : Type) where
  received : List Received
  answer : Except SemanticError (List Row)

namespace CubeSemanticLayer

variable {Row : Type} (cube : Cube Row) (layer : CubeSemanticLayer)

def queryRaw (request : SemanticQuery) : RawQuery Row where
  received := [⟨layer.client, request⟩]
  answer := cube.load layer.client (toCubeQuery request)

end CubeSemanticLayer

def withSource (description : Option String) (sourceLabel : String) : String :=
  match description.filter (· ≠ "") with
  | some text => "Source " ++ sourceLabel ++ ". " ++ text
  | none => "Source " ++ sourceLabel ++ "."

def SemanticCatalog.ofSource (sourceId : UUID) (catalog : SemanticCatalog) : SemanticCatalog where
  measures := catalog.measures.map fun measure =>
    { measure with
      name := qualified sourceId measure.name
      description := some (withSource measure.description (uuidText sourceId)) }
  dimensions := catalog.dimensions.map fun dimension =>
    { dimension with
      name := qualified sourceId dimension.name
      description := some (withSource dimension.description (uuidText sourceId)) }

theorem SemanticCatalog.names_ofSource (sourceId : UUID) (catalog : SemanticCatalog) :
    (catalog.ofSource sourceId).names = catalog.names.map (qualified sourceId) := by
  unfold SemanticCatalog.names SemanticCatalog.ofSource
  simp [List.map_map, Function.comp_def]

def localMember (sourceId : UUID) (member : String) : Except SemanticError String :=
  if StartsWith (sourceFront sourceId) member then
    .ok (removeFront (sourceFront sourceId) member)
  else .error (.invalidSemanticQuery ("All query members must belong to the selected " ++
    "source_id; cross-source joins are not supported."))

def localRequest (layers : List (UUID × CubeSemanticLayer)) (request : SemanticQuery) :
    Except SemanticError (CubeSemanticLayer × SemanticQuery) :=
  match request.sourceId with
  | none => .error (.invalidSemanticQuery
      "Choose a source_id. A multi-source Chat cannot infer one.")
  | some sourceId =>
      match layers.lookup sourceId with
      | none => .error (.invalidSemanticQuery "The requested source is not in this Chat.")
      | some layer => do
          let measures ← request.measures.mapM (localMember sourceId)
          let dimensions ← request.dimensions.mapM (localMember sourceId)
          let timeDimensions ← request.timeDimensions.mapM fun item => do
            return { item with dimension := ← localMember sourceId item.dimension }
          let filters ← request.filters.mapM fun item => do
            return { item with member := ← localMember sourceId item.member }
          return (layer, { request with measures, dimensions, timeDimensions, filters })

inductive SemanticLayer
  | cube (layer : CubeSemanticLayer)
  | sourceScoped (layers : List (UUID × CubeSemanticLayer))
  deriving DecidableEq

namespace SemanticLayer

def catalog : SemanticLayer → Option SemanticCatalog
  | cube layer => layer.catalog
  | sourceScoped layers => do
      let catalogs ← layers.mapM fun entry => entry.2.catalog.map (·.ofSource entry.1)
      return { measures := catalogs.flatMap (·.measures)
               dimensions := catalogs.flatMap (·.dimensions) }

def queryRaw {Row : Type} (cube : Cube Row) (request : SemanticQuery) :
    SemanticLayer → RawQuery Row
  | .cube layer => layer.queryRaw cube request
  | .sourceScoped layers =>
      match localRequest layers request with
      | .error error => ⟨[], .error error⟩
      | .ok (layer, localQuery) => layer.queryRaw cube localQuery

theorem queryRaw_cube {Row : Type} (cube : Cube Row) (request : SemanticQuery)
    (layer : CubeSemanticLayer) :
    (SemanticLayer.cube layer).queryRaw cube request = layer.queryRaw cube request := rfl

end SemanticLayer

theorem mapM_eq_pure {m : Type → Type} [Monad m] [LawfulMonad m] {α β : Type}
    {f : α → m β} {g : α → β} {items : List α} (h : ∀ item ∈ items, f item = pure (g item)) :
    items.mapM f = pure (items.map g) := by
  induction items with
  | nil => rfl
  | cons item items ih =>
      have hrest := ih fun other hother => h other (List.mem_cons_of_mem _ hother)
      rw [List.mapM_cons, h item List.mem_cons_self, hrest]
      simp

theorem localMember_eq_ok {sourceId : UUID} {member : String}
    (h : StartsWith (sourceFront sourceId) member) :
    localMember sourceId member = .ok (removeFront (sourceFront sourceId) member) :=
  if_pos h

/-- **The local query.** A query whose members all carry the prefix of its source is handed
to the layer of the source, and each member loses the prefix. -/
theorem localRequest_eq_ok {layers : List (UUID × CubeSemanticLayer)}
    {request : SemanticQuery} {sourceId : UUID} {layer : CubeSemanticLayer}
    (hsource : request.sourceId = some sourceId) (hlayer : layers.lookup sourceId = some layer)
    (hmembers : ∀ member ∈ request.members, StartsWith (sourceFront sourceId) member) :
    localRequest layers request = .ok (layer, request.within sourceId) := by
  unfold SemanticQuery.members at hmembers
  simp only [List.mem_append, List.mem_map] at hmembers
  have hmeasures : request.measures.mapM (localMember sourceId) =
      .ok (request.measures.map (removeFront (sourceFront sourceId))) :=
    mapM_eq_pure fun member hmem =>
      localMember_eq_ok (hmembers member (.inl (.inl (.inl hmem))))
  have hdimensions : request.dimensions.mapM (localMember sourceId) =
      .ok (request.dimensions.map (removeFront (sourceFront sourceId))) :=
    mapM_eq_pure fun member hmem =>
      localMember_eq_ok (hmembers member (.inl (.inl (.inr hmem))))
  have htimes : (request.timeDimensions.mapM fun item => do
        return { item with dimension := ← localMember sourceId item.dimension }) =
      (.ok (request.timeDimensions.map fun item =>
        { item with dimension := removeFront (sourceFront sourceId) item.dimension }) :
        Except SemanticError _) := by
    apply mapM_eq_pure
    intro item hitem
    rw [localMember_eq_ok (hmembers item.dimension (.inl (.inr ⟨item, hitem, rfl⟩)))]
    rfl
  have hfilters : (request.filters.mapM fun item => do
        return { item with member := ← localMember sourceId item.member }) =
      (.ok (request.filters.map fun item =>
        { item with member := removeFront (sourceFront sourceId) item.member }) :
        Except SemanticError _) := by
    apply mapM_eq_pure
    intro item hitem
    rw [localMember_eq_ok (hmembers item.member (.inr ⟨item, hitem, rfl⟩))]
    rfl
  unfold localRequest
  simp only [hsource, hlayer, hmeasures, hdimensions, htimes, hfilters]
  rw [← hsource]
  rfl

theorem SemanticLayer.queryRaw_sourceScoped {Row : Type} (cube : Cube Row)
    {layers : List (UUID × CubeSemanticLayer)} {request : SemanticQuery} {sourceId : UUID}
    {layer : CubeSemanticLayer} (hsource : request.sourceId = some sourceId)
    (hlayer : layers.lookup sourceId = some layer)
    (hmembers : ∀ member ∈ request.members, StartsWith (sourceFront sourceId) member) :
    (SemanticLayer.sourceScoped layers).queryRaw cube request =
      layer.queryRaw cube (request.within sourceId) := by
  simp only [SemanticLayer.queryRaw, localRequest_eq_ok hsource hlayer hmembers]

/-- `str(source_id) in known_sources`. -/
def SemanticCatalog.Knows (catalog : SemanticCatalog) (sourceId : UUID) : Prop :=
  ∃ name ∈ catalog.names, Occurs "::" name ∧ splitFirst "::" name = uuidText sourceId

instance (catalog : SemanticCatalog) (sourceId : UUID) :
    Decidable (catalog.Knows sourceId) :=
  inferInstanceAs (Decidable (∃ _ ∈ _, _))

/-- The catalogs of the sources, put one after the other. -/
def SemanticCatalog.concat (catalogs : List SemanticCatalog) : SemanticCatalog where
  measures := catalogs.flatMap (·.measures)
  dimensions := catalogs.flatMap (·.dimensions)

theorem SemanticCatalog.mem_names_concat {catalogs : List SemanticCatalog} {name : String} :
    name ∈ (SemanticCatalog.concat catalogs).names ↔
      ∃ catalog ∈ catalogs, name ∈ catalog.names := by
  unfold SemanticCatalog.concat SemanticCatalog.names
  simp only [List.mem_append, List.mem_map, List.mem_flatMap]
  constructor
  · intro h
    rcases h with ⟨item, ⟨catalog, hcatalog, hitem⟩, rfl⟩ | ⟨item, ⟨catalog, hcatalog, hitem⟩, rfl⟩
    · exact ⟨catalog, hcatalog, .inl ⟨item, hitem, rfl⟩⟩
    · exact ⟨catalog, hcatalog, .inr ⟨item, hitem, rfl⟩⟩
  · intro h
    obtain ⟨catalog, hcatalog, ⟨item, hitem, rfl⟩ | ⟨item, hitem, rfl⟩⟩ := h
    · exact .inl ⟨item, ⟨catalog, hcatalog, hitem⟩, rfl⟩
    · exact .inr ⟨item, ⟨catalog, hcatalog, hitem⟩, rfl⟩

/-- A layer whose catalog cannot be read leaves the composed layer without one. -/
theorem SemanticLayer.catalog_eq_none {layers : List (UUID × CubeSemanticLayer)}
    {entry : UUID × CubeSemanticLayer} (hentry : entry ∈ layers)
    (hnone : entry.2.catalog = none) : (SemanticLayer.sourceScoped layers).catalog = none := by
  have hmap : (layers.mapM fun entry => entry.2.catalog.map (·.ofSource entry.1)) = none := by
    induction layers with
    | nil => cases hentry
    | cons first layers ih =>
        rw [List.mapM_cons]
        rcases List.mem_cons.1 hentry with rfl | hrest
        · rw [hnone]
          rfl
        · rw [ih hrest]
          cases first.2.catalog <;> rfl
  simp only [SemanticLayer.catalog, hmap]
  rfl

theorem SemanticLayer.catalog_eq_some {layers : List (UUID × CubeSemanticLayer)}
    {served : CubeSemanticLayer → SemanticCatalog}
    (h : ∀ entry ∈ layers, entry.2.catalog = some (served entry.2)) :
    (SemanticLayer.sourceScoped layers).catalog = some (SemanticCatalog.concat
      (layers.map fun entry => (served entry.2).ofSource entry.1)) := by
  have hmap : (layers.mapM fun entry => entry.2.catalog.map (·.ofSource entry.1)) =
      some (layers.map fun entry => (served entry.2).ofSource entry.1) := by
    apply mapM_eq_pure
    intro entry hentry
    rw [h entry hentry]
    rfl
  simp only [SemanticLayer.catalog, hmap]
  rfl

/-- What a run may query, the demo warehouse apart. -/
inductive Scope
  | one (dataConnectionId : UUID)
  | tuple (dataConnectionIds : List UUID) (distinct : dataConnectionIds.Nodup)

def Scope.Has : Scope → UUID → Prop
  | .one connectionId, sourceId => sourceId = connectionId
  | .tuple connectionIds _, sourceId => sourceId ∈ connectionIds

structure CacheEntry where
  semanticLayer : CubeSemanticLayer
  relationFingerprint : Option String
  expiresAt : ℚ

/-- `_entries`. -/
abbrev Entries : Type := List ((UUID × Option UUID) × CacheEntry)

/-- What is read while a connection is resolved. -/
structure Reading where
  checkedAt : ℚ
  storedAt : ℚ
  fingerprint : String
  /-- Cube's answer to `/meta`; `none` where it fails -/
  describe : CubeClient → Option (List CubeDescription)

/-- `_CACHE_TTL_SECONDS`. -/
def cacheTtlSeconds : ℚ := 300

/-- `ScopedCubeSemanticLayers`, less its entries. -/
structure ScopedCubeSemanticLayers where
  cubeUrl : String
  cubeApiSecret : Option String
  deriving DecidableEq

namespace ScopedCubeSemanticLayers

variable (self : ScopedCubeSemanticLayers)

def newClient (organizationId : UUID) (dataConnectionId : Option UUID)
    (fingerprint : Option String) : CubeClient where
  baseUrl := self.cubeUrl
  token := (self.cubeApiSecret.filter (· ≠ "")).map fun secret =>
    { tenantId := dataConnectionId.map fun _ => uuidText organizationId
      dataConnectionId := dataConnectionId.map uuidText
      relationFingerprint := fingerprint
      secret := secret }

/-- The entry that is served for a key, if it is still good. -/
def fresh (reading : Reading) (key : UUID × Option UUID) (entries : Entries) :
    Option CubeSemanticLayer :=
  (getItem entries key).bind fun cached =>
    if reading.checkedAt < cached.expiresAt ∧
        cached.relationFingerprint = key.2.map (fun _ => reading.fingerprint) then
      some cached.semanticLayer
    else none

def newLayer (reading : Reading) (key : UUID × Option UUID) : CubeSemanticLayer :=
  let client := self.newClient key.1 key.2 (key.2.map fun _ => reading.fingerprint)
  { client := client
    catalog := (reading.describe client).map catalogFromMeta }

/-- `resolve`, for an id or for the demo warehouse. -/
def resolveOne (reading : Reading) (key : UUID × Option UUID) (entries : Entries) :
    CubeSemanticLayer × Entries :=
  match fresh reading key entries with
  | some layer => (layer, entries)
  | none =>
      let layer := self.newLayer reading key
      (layer, setItem Prod.fst entries (key,
        { semanticLayer := layer
          relationFingerprint := key.2.map fun _ => reading.fingerprint
          expiresAt := reading.storedAt + cacheTtlSeconds }))

/-- The layers of a tuple, one after the other. -/
def resolveAll (readings : UUID → Reading) (organizationId : UUID) :
    List UUID → Entries → List (UUID × CubeSemanticLayer) × Entries
  | [], entries => ([], entries)
  | sourceId :: rest, entries =>
      let first := self.resolveOne (readings sourceId) (organizationId, some sourceId) entries
      let others := resolveAll readings organizationId rest first.2
      ((sourceId, first.1) :: others.1, others.2)

def resolve (readings : UUID → Reading) (organizationId : UUID) (scope : Scope)
    (entries : Entries) : SemanticLayer × Entries :=
  match scope with
  | .one sourceId =>
      let one := self.resolveOne (readings sourceId) (organizationId, some sourceId) entries
      (.cube one.1, one.2)
  | .tuple sourceIds _ =>
      let all := self.resolveAll readings organizationId sourceIds entries
      (.sourceScoped all.1, all.2)

variable {readings : UUID → Reading} {reading : Reading} {organizationId : UUID}
  {entries : Entries} {key other : UUID × Option UUID}

/-- Resolving a connection leaves the entries of the others. -/
theorem getItem_resolveOne (hother : other ≠ key) :
    getItem (self.resolveOne reading key entries).2 other = getItem entries other := by
  unfold resolveOne
  cases fresh reading key entries with
  | some layer => rfl
  | none =>
      show getItem (setItem Prod.fst entries (key, _)) other = _
      rw [getItem_setItem, if_neg hother]

theorem resolveOne_congr {entries' : Entries}
    (h : getItem entries' key = getItem entries key) :
    (self.resolveOne reading key entries').1 = (self.resolveOne reading key entries).1 := by
  have hfresh : fresh reading key entries' = fresh reading key entries := by
    unfold fresh
    rw [h]
  unfold resolveOne
  rw [hfresh]
  cases fresh reading key entries with
  | some layer => rfl
  | none => rfl

/-- **The layers of a tuple.** Each is the one that its id alone would be resolved to. -/
theorem resolveAll_eq {sourceIds : List UUID} (hdistinct : sourceIds.Nodup) :
    (self.resolveAll readings organizationId sourceIds entries).1 =
      sourceIds.map fun sourceId => (sourceId, (self.resolveOne (readings sourceId)
        (organizationId, some sourceId) entries).1) := by
  induction sourceIds generalizing entries with
  | nil => rfl
  | cons first rest ih =>
      obtain ⟨hfirst, hrest⟩ := List.nodup_cons.1 hdistinct
      unfold resolveAll
      rw [List.map_cons, List.cons.injEq]
      refine ⟨rfl, ?_⟩
      rw [ih hrest]
      apply List.map_congr_left
      intro sourceId hmem
      have hne : (organizationId, some sourceId) ≠ (organizationId, some first) := by
        intro heq
        cases heq
        exact hfirst hmem
      rw [self.resolveOne_congr (self.getItem_resolveOne hne)]

/-- Every layer that is kept has a client of its own key. -/
def Minted (entries : Entries) : Prop :=
  ∀ key cached, getItem entries key = some cached →
    ∃ fingerprint, cached.semanticLayer.client = self.newClient key.1 key.2 fingerprint

theorem client_resolveOne (h : self.Minted entries) :
    ∃ fingerprint, (self.resolveOne reading key entries).1.client =
      self.newClient key.1 key.2 fingerprint := by
  unfold resolveOne
  cases hfresh : fresh reading key entries with
  | none => exact ⟨_, rfl⟩
  | some layer =>
      unfold fresh at hfresh
      obtain ⟨cached, hcached, hserved⟩ := Option.bind_eq_some_iff.1 hfresh
      split at hserved
      · cases hserved
        exact h key cached hcached
      · cases hserved

theorem Minted.resolveOne {self : ScopedCubeSemanticLayers} (h : self.Minted entries) :
    self.Minted (self.resolveOne reading key entries).2 := by
  unfold ScopedCubeSemanticLayers.resolveOne
  cases fresh reading key entries with
  | some layer => exact h
  | none =>
      intro found cached hcached
      change getItem (setItem Prod.fst entries (key, _)) found = some cached at hcached
      rw [getItem_setItem] at hcached
      split at hcached
      next hfound =>
          cases hcached
          rw [hfound]
          exact ⟨_, rfl⟩
      next => exact h found cached hcached

theorem Minted.resolveAll {self : ScopedCubeSemanticLayers} (h : self.Minted entries)
    (sourceIds : List UUID) :
    self.Minted (self.resolveAll readings organizationId sourceIds entries).2 := by
  induction sourceIds generalizing entries with
  | nil => exact h
  | cons first rest ih => exact ih h.resolveOne

/-- A call of `resolve`, with what it reads. -/
inductive Call
  | demo (organizationId : UUID) (reading : Reading)
  | ofScope (organizationId : UUID) (readings : UUID → Reading) (scope : Scope)

/-- What a call leaves of the entries. -/
def step (entries : Entries) : Call → Option Entries
  | .demo organizationId reading => (self.resolveOne reading (organizationId, none) entries).2
  | .ofScope organizationId readings scope =>
      (self.resolve readings organizationId scope entries).2

def Reachable (entries : Entries) : Prop := ∃ calls, Exec self.step [] calls entries

/-- **Tokens.** After any calls, every layer that is kept has a client of its own key. -/
theorem Reachable.minted {self : ScopedCubeSemanticLayers} (h : self.Reachable entries) :
    self.Minted entries := by
  obtain ⟨calls, hcalls⟩ := h
  refine hcalls.invariant self.Minted ?_ ?_
  · intro key cached hcached
    cases hcached
  · intro before call after hbefore hstep
    cases call with
    | demo organizationId reading =>
        cases hstep
        exact hbefore.resolveOne
    | ofScope organizationId readings scope =>
        cases scope with
        | one sourceId =>
            cases hstep
            exact hbefore.resolveOne
        | tuple sourceIds distinct =>
            cases hstep
            exact hbefore.resolveAll sourceIds

end ScopedCubeSemanticLayers

end AgentData

end Zentra
