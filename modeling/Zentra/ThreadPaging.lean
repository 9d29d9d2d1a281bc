import Mathlib.Data.List.DropRight
import Zentra.PythonJson
import Zentra.ThreadAffordances

/-!
# Pages of threads and their cursors

A listing ends in a cursor when there is more of it, and goes on from the cursor that a client
sends back.  A cursor is a text that anybody can write.

* `decode_encode` — a cursor is read back;
* `Escapes` — the texts on which `decode` raises something else than it means to.
-/

open PythonJson Raising Raising.Method TableRows

namespace Zentra

/-- The exceptions that come up while a cursor is read. -/
inductive CursorFault
  | keyError
  | typeError
  | valueError
  | attributeError
  | overflowError
  | recursionError
  deriving DecidableEq, Repr

/-- `except (KeyError, TypeError, ValueError, …)`. -/
def CursorFault.Handled (fault : CursorFault) : Prop :=
  fault ∈ [keyError, typeError, valueError]

instance (fault : CursorFault) : Decidable fault.Handled := inferInstanceAs (Decidable (_ ∈ _))

/-- What `decode` raises: `ThreadCursorError`, or what its handler does not name. -/
inductive CursorError
  | threadCursorError
  | unhandled (fault : CursorFault)
  deriving DecidableEq, Repr

/-- A `datetime`: the time on its clock, in microseconds, and how far the clock is ahead. -/
structure Timestamp where
  clock : Int
  utcoffset : Option Int
  deriving DecidableEq, Repr

/-- The time is one of the years 1 to 9999. -/
def IsDatetime (time : Int) : Prop := -62135596800000000 ≤ time ∧ time < 253402300800000000

instance (time : Int) : Decidable (IsDatetime time) := inferInstanceAs (Decidable (_ ∧ _))

/-- What the standard library makes of texts. -/
structure CursorTexts where
  /-- `base64.urlsafe_b64encode(text.encode())` -/
  b64encode : String → String
  /-- `base64.urlsafe_b64decode(text).decode()`, if it does not raise a `ValueError` -/
  b64decode : String → Option String
  /-- `json.dumps` -/
  dumps : Object → String
  /-- `json.loads` -/
  loads : String → Except CursorFault Json
  /-- `isoformat()` of a time in UTC -/
  isoformat : Int → String
  /-- `datetime.fromisoformat`, if it does not raise a `ValueError` -/
  fromisoformat : String → Option Timestamp
  /-- `str(thread_id)` -/
  str : UUID → String
  /-- `UUID(text)`, if it does not raise a `ValueError` -/
  uuid : String → Option UUID

namespace ThreadCursor

variable (texts : CursorTexts)

def payload (cursor : ThreadCursor) : Object :=
  [("activity_at", .string (texts.isoformat cursor.activityAt)),
    ("thread_id", .string (texts.str cursor.threadId))]

def encode (cursor : ThreadCursor) : String :=
  String.ofList ((texts.b64encode (texts.dumps (cursor.payload texts))).toList.rdropWhile (· = '='))

/-- `value + "=" * (-len(value) % 4)`. -/
def padded (value : String) : String :=
  value ++ String.ofList (List.replicate (-(value.length : Int) % 4).toNat '=')

/-- `payload[key]`. -/
def subscript (key : String) : Json → Except CursorFault Json
  | .object members => (Object.get members key).elim (.error .keyError) .ok
  | _ => .error .typeError

/-- `datetime.fromisoformat(value)`. -/
def timestampOf : Json → Except CursorFault Timestamp
  | .string text => (texts.fromisoformat text).elim (.error .valueError) .ok
  | _ => .error .typeError

/-- `activity_at.astimezone(UTC)`, of a timestamp that has an offset. -/
def astimezone (timestamp : Timestamp) : Except CursorFault Int :=
  match timestamp.utcoffset with
  | none => .error .valueError
  | some ahead =>
      if IsDatetime (timestamp.clock - ahead) then .ok (timestamp.clock - ahead)
      else .error .overflowError

/-- `UUID(value)`: no value is a `TypeError`, and what is not a text has no `replace`. -/
def uuidOf : Json → Except CursorFault UUID
  | .null => .error .typeError
  | .string text => (texts.uuid text).elim (.error .valueError) .ok
  | _ => .error .attributeError

/-- What the `try` of `decode` makes of the payload. -/
def readPayload (payload : Json) : Except CursorFault ThreadCursor := do
  let written ← subscript "activity_at" payload
  let timestamp ← timestampOf texts written
  let activityAt ← astimezone timestamp
  let written ← subscript "thread_id" payload
  let threadId ← uuidOf texts written
  pure ⟨activityAt, threadId⟩

/-- The `try` of `decode`. -/
def parse (value : String) : Except CursorFault ThreadCursor := do
  let text ← (texts.b64decode (padded value)).elim (.error .valueError) .ok
  let payload ← texts.loads text
  readPayload texts payload

def decode (value : String) : Except CursorError ThreadCursor :=
  match parse texts value with
  | .ok cursor => .ok cursor
  | .error fault =>
      if fault.Handled then .error .threadCursorError else .error (.unhandled fault)

/-- What the standard library does with a cursor: base64 writes four characters at a time, the
last of which may be `=`, and every other text is read back as it has been written. -/
structure Reads (cursor : ThreadCursor) : Prop where
  quartets : ∃ body count, texts.b64encode (texts.dumps (cursor.payload texts)) =
    String.ofList (body ++ List.replicate count '=') ∧
      body ≠ [] ∧ '=' ∉ body ∧ count < 4 ∧ (body.length + count) % 4 = 0
  decoded : texts.b64decode (texts.b64encode (texts.dumps (cursor.payload texts))) =
    some (texts.dumps (cursor.payload texts))
  loaded : texts.loads (texts.dumps (cursor.payload texts)) = .ok (.object (cursor.payload texts))
  timestamp : texts.fromisoformat (texts.isoformat cursor.activityAt) =
    some ⟨cursor.activityAt, some 0⟩
  uuid : texts.uuid (texts.str cursor.threadId) = some cursor.threadId

variable {texts} {cursor : ThreadCursor}

/-- The padding that `encode` takes away is the padding that `decode` adds. -/
theorem padded_encode (h : Reads texts cursor) :
    cursor.encode texts ≠ "" ∧ padded (cursor.encode texts) =
      texts.b64encode (texts.dumps (cursor.payload texts)) := by
  obtain ⟨body, count, hencoded, hbody, hequals, hcount, hlength⟩ := h.quartets
  have hstripped : cursor.encode texts = String.ofList body := by
    rw [encode, hencoded, String.toList_ofList, List.rdropWhile, List.reverse_append,
      List.reverse_replicate, List.dropWhile_append_of_pos (by simp [List.mem_replicate])]
    congr 1
    rw [List.reverse_eq_iff]
    cases hreverse : body.reverse with
    | nil => rfl
    | cons last front =>
        refine List.dropWhile_cons_of_neg ?_
        have hlast : last ∈ body := List.mem_reverse.1 (hreverse ▸ List.mem_cons_self)
        simpa using fun heq : last = '=' => hequals (heq ▸ hlast)
  have hcount' : (-(body.length : Int) % 4).toNat = count := by omega
  rw [hstripped]
  refine ⟨fun hempty => hbody ?_, ?_⟩
  · simpa using congrArg String.toList hempty
  · rw [padded, hencoded, String.length_ofList, hcount', ← String.ofList_append]

/-- **A cursor is read back.** -/
theorem decode_encode (h : Reads texts cursor) (hutc : IsDatetime cursor.activityAt) :
    decode texts (cursor.encode texts) = .ok cursor := by
  have hzone : astimezone ⟨cursor.activityAt, some 0⟩ = .ok cursor.activityAt := by
    simp [astimezone, hutc]
  have hread : readPayload texts (.object (cursor.payload texts)) = .ok cursor := by
    simp [readPayload, subscript, Object.get, payload, List.lookup, timestampOf, h.timestamp,
      hzone, uuidOf, h.uuid, bind, Except.bind, pure, Except.pure]
  have hparse : parse texts (cursor.encode texts) = .ok cursor := by
    rw [parse, (padded_encode h).2, h.decoded, Option.elim_some]
    dsimp only [bind, Except.bind]
    rw [h.loaded]
    exact hread
  rw [decode, hparse]

variable (texts)

/-- The text is a cursor, or `decode` says that it is none. -/
def Answers (value : String) : Prop :=
  (∃ cursor, decode texts value = .ok cursor) ∨ decode texts value = .error .threadCursorError

/-- JSON that nests too deep to be loaded; or a timestamp with an offset that lies outside the
years in UTC, or that stands beside an identifier which is neither a text nor missing. -/
def Escapes (value : String) : Prop :=
  ∃ text, texts.b64decode (padded value) = some text ∧
    ((∃ fault, texts.loads text = .error fault ∧ ¬ fault.Handled) ∨
      ∃ members written clock ahead, texts.loads text = .ok (.object members) ∧
        Object.get members "activity_at" = some (.string written) ∧
        texts.fromisoformat written = some ⟨clock, some ahead⟩ ∧
        (¬ IsDatetime (clock - ahead) ∨ ∃ id, Object.get members "thread_id" = some id ∧
          id ≠ .null ∧ ∀ text, id ≠ .string text))

theorem uuidOf_unhandled (id : Json) :
    (∃ fault, uuidOf texts id = .error fault ∧ ¬ fault.Handled) ↔
      id ≠ .null ∧ ∀ text, id ≠ .string text := by
  cases id with
  | string text => cases h : texts.uuid text <;> simp [uuidOf, h, CursorFault.Handled]
  | _ => simp [uuidOf, CursorFault.Handled]

theorem readPayload_unhandled (payload : Json) :
    (∃ fault, readPayload texts payload = .error fault ∧ ¬ fault.Handled) ↔
      ∃ members written clock ahead, payload = .object members ∧
        Object.get members "activity_at" = some (.string written) ∧
        texts.fromisoformat written = some ⟨clock, some ahead⟩ ∧
        (¬ IsDatetime (clock - ahead) ∨ ∃ id, Object.get members "thread_id" = some id ∧
          id ≠ .null ∧ ∀ text, id ≠ .string text) := by
  cases payload with
  | object members =>
      simp only [readPayload, subscript, bind, Except.bind]
      cases hwritten : Object.get members "activity_at" with
      | none => simp [CursorFault.Handled, hwritten]
      | some written =>
          cases written with
          | string written =>
              rcases htimestamp : texts.fromisoformat written with _ | ⟨clock, _ | ahead⟩
              · simp [timestampOf, CursorFault.Handled, htimestamp, hwritten]
              · simp [timestampOf, astimezone, CursorFault.Handled, htimestamp, hwritten]
              · by_cases hyear : IsDatetime (clock - ahead)
                · cases hid : Object.get members "thread_id" with
                  | none =>
                      simp [timestampOf, astimezone, CursorFault.Handled, htimestamp, hyear, hid,
                        hwritten]
                  | some id =>
                      have hkind := uuidOf_unhandled texts id
                      cases huuid : uuidOf texts id with
                      | error fault | ok threadId =>
                          rw [huuid] at hkind
                          simp [timestampOf, astimezone, htimestamp, hyear, hid, huuid, hwritten,
                            ← hkind, pure, Except.pure]
                · simp [timestampOf, astimezone, CursorFault.Handled, htimestamp, hyear, hwritten]
          | _ => simp [timestampOf, CursorFault.Handled, hwritten]
  | _ => simp [readPayload, subscript, bind, Except.bind, CursorFault.Handled]

theorem parse_unhandled (value : String) :
    (∃ fault, parse texts value = .error fault ∧ ¬ fault.Handled) ↔ Escapes texts value := by
  unfold parse Escapes
  cases hdecoded : texts.b64decode (padded value) with
  | none => simp [bind, Except.bind, CursorFault.Handled]
  | some text =>
      cases hloaded : texts.loads text with
      | error fault => simp [bind, Except.bind, hloaded]
      | ok payload => simpa [bind, Except.bind, hloaded] using readPayload_unhandled texts payload

theorem answers_iff (value : String) : Answers texts value ↔ ¬ Escapes texts value := by
  rw [← parse_unhandled, Answers, decode]
  cases parse texts value with
  | ok cursor => simp
  | error fault => by_cases hhandled : fault.Handled <;> simp [hhandled]

end ThreadCursor

namespace ThreadService

section Paging

variable (texts : CursorTexts) (actor : AuthenticatedActor) (tables : ThreadTables)
  (projectId : UUID) (includeArchived : Bool) (limit : Int)

/-- `ThreadCursor.decode(cursor) if cursor else None`. -/
def cursorGiven : Option String → Except CursorError (Option ThreadCursor)
  | none => .ok none
  | some text => if text = "" then .ok none else (ThreadCursor.decode texts text).map some

/-- The threads of at most so many pages: the one asked for, and each next one with the
cursor of the page before. -/
def follow : Nat → Option String → Option (List ThreadSummary)
  | 0, _ => none
  | pages + 1, cursor =>
      match cursorGiven texts cursor with
      | .error _ => none
      | .ok after =>
          match ((list actor projectId includeArchived limit after).call tables).1 with
          | .error _ => none
          | .ok page =>
              match page.nextCursor with
              | none => some page.items
              | some next => (follow pages (some (next.encode texts))).map (page.items ++ ·)

def threadKey (summary : ThreadSummary) : Int ×ₗ UUID :=
  toLex (summary.latestActivityAt, summary.threadId)

def cursorOf (summary : ThreadSummary) : ThreadCursor :=
  ⟨summary.latestActivityAt, summary.threadId⟩

/-- The threads behind a cursor, as a listing has them. -/
def behind (after : Option ThreadCursor) : List ThreadSummary :=
  (orderedBy threadKey (tables.threadIds.filterMap
    ((listingOf actor projectId includeArchived limit after).read tables))).reverse

variable {texts actor tables projectId includeArchived limit}

theorem read_after (cursor : ThreadCursor) (threadId : UUID) :
    (listingOf actor projectId includeArchived limit (some cursor)).read tables threadId =
      ((listingOf actor projectId includeArchived limit none).read tables threadId).filter
        fun summary => decide (threadKey summary < toLex (cursor.activityAt, cursor.threadId)) := by
  unfold ThreadListing.read
  cases tables.sessions threadId with
  | none => rfl
  | some s =>
      have hadmits : (listingOf actor projectId includeArchived limit (some cursor)).Admits threadId s
          ↔ (listingOf actor projectId includeArchived limit none).Admits threadId s ∧
            threadKey (ThreadListing.summary threadId s) <
              toLex (cursor.activityAt, cursor.threadId) := by
        simp [ThreadListing.Admits, ThreadListing.Shows, listingOf, threadKey,
          ThreadListing.summary, and_assoc]
      by_cases hshown : (listingOf actor projectId includeArchived limit none).Admits threadId s
      · simp [Option.filter, hadmits, hshown, apply_ite]
      · simp [Option.filter, hadmits, hshown]

theorem keys_nodup (hkeys : tables.threadIds.Nodup) (after : Option ThreadCursor) :
    ((tables.threadIds.filterMap
      ((listingOf actor projectId includeArchived limit after).read tables)).map
        threadKey).Nodup := by
  rw [List.map_filterMap]
  refine hkeys.filterMap fun threadId other key hkey hother => ?_
  obtain ⟨summary, hread, rfl⟩ := Option.mem_map.1 hkey
  obtain ⟨same, hsame, heq⟩ := Option.mem_map.1 hother
  obtain ⟨s, -, rfl⟩ := Option.map_eq_some_iff.1 hread
  obtain ⟨t, -, rfl⟩ := Option.map_eq_some_iff.1 hsame
  exact (Prod.ext_iff.1 (toLex.injective heq)).2.symm

theorem behind_descending (hkeys : tables.threadIds.Nodup) (after : Option ThreadCursor) :
    (behind actor tables projectId includeArchived limit after).Pairwise
      fun a b => threadKey b < threadKey a := by
  exact List.pairwise_reverse.2 (orderedBy_strict (keys_nodup hkeys after))

theorem behind_after (hkeys : tables.threadIds.Nodup) {front rest : List ThreadSummary}
    {last : ThreadSummary}
    (h : behind actor tables projectId includeArchived limit none = front ++ last :: rest) :
    behind actor tables projectId includeArchived limit (some (cursorOf last)) = rest := by
  have hread : (listingOf actor projectId includeArchived limit (some (cursorOf last))).read tables =
      fun threadId => ((listingOf actor projectId includeArchived limit none).read tables
        threadId).filter fun summary => decide (threadKey summary < threadKey last) :=
    funext fun threadId => read_after (cursorOf last) threadId
  have hdescending : (behind actor tables projectId includeArchived limit none).Pairwise
      fun a b => threadKey b < threadKey a := behind_descending hkeys none
  rw [behind, hread, ← List.filter_filterMap, orderedBy_filter (keys_nodup hkeys none),
    ← List.filter_reverse]
  change (behind actor tables projectId includeArchived limit none).filter _ = rest
  rw [h] at hdescending ⊢
  exact filter_lt_of_descending hdescending

theorem call_list_after (hlimit : 1 ≤ limit ∧ limit ≤ 100)
    (hgroup : (tables.getGroup projectId actor.organizationId).isSome)
    (after : Option ThreadCursor) :
    let rest := behind actor tables projectId includeArchived limit after
    ((list actor projectId includeArchived limit after).call tables).1 =
      .ok (if rest.length ≤ limit.toNat then ⟨rest, none⟩
        else ⟨rest.take limit.toNat, (rest.take limit.toNat).getLast?.map cursorOf⟩) := by
  intro rest
  rw [call_list, if_neg (by omega), if_neg (by simpa using Option.isSome_iff_ne_none.1 hgroup)]
  refine congrArg Except.ok ?_
  have hrest : (orderedBy (fun summary : ThreadSummary =>
      toLex (summary.latestActivityAt, summary.threadId)) (tables.threadIds.filterMap
        ((listingOf actor projectId includeArchived limit after).read tables))).reverse = rest := rfl
  have hlength : (rest.take (limit.toNat + 1)).length ≤ limit.toNat ↔
      rest.length ≤ limit.toNat := by
    rw [List.length_take]
    omega
  rw [listThreads, hrest, show (listingOf actor projectId includeArchived limit after).limit =
    limit.toNat from rfl]
  by_cases hlast : rest.length ≤ limit.toNat
  · rw [if_pos (hlength.2 hlast), if_pos hlast]
    exact congrArg (ThreadPage.mk · none) (List.take_of_length_le (by omega))
  · rw [if_neg (mt hlength.1 hlast), if_neg hlast]
    dsimp only
    rw [List.take_take, min_eq_left (by omega)]
    rfl

/-- **Following the cursors** collects the threads that lie behind. -/
theorem follow_collects (hlimit : 1 ≤ limit ∧ limit ≤ 100)
    (hgroup : (tables.getGroup projectId actor.organizationId).isSome)
    (hkeys : tables.threadIds.Nodup)
    (hreads : ∀ summary ∈ behind actor tables projectId includeArchived limit none,
      (cursorOf summary).Reads texts ∧ IsDatetime summary.latestActivityAt)
    (pages : Nat) {front rest : List ThreadSummary} (hpages : rest.length < pages)
    (hsplit : behind actor tables projectId includeArchived limit none = front ++ rest) :
    follow texts actor tables projectId includeArchived limit pages
      (front.getLast?.map fun last => (cursorOf last).encode texts) = some rest := by
  induction pages generalizing front rest with
  | zero => omega
  | succ pages ih =>
      have hafter : ∃ after, cursorGiven texts
            (front.getLast?.map fun last => (cursorOf last).encode texts) = .ok after ∧
          behind actor tables projectId includeArchived limit after = rest := by
        rcases List.eq_nil_or_concat front with rfl | ⟨before, last, rfl⟩
        · exact ⟨none, rfl, hsplit⟩
        · rw [List.concat_eq_append] at hsplit ⊢
          obtain ⟨hread, hutc⟩ := hreads last (by simp [hsplit])
          refine ⟨some (cursorOf last), ?_, behind_after hkeys (by simpa using hsplit)⟩
          rw [List.getLast?_concat, Option.map_some, cursorGiven,
            if_neg (ThreadCursor.padded_encode hread).1, ThreadCursor.decode_encode hread hutc]
          rfl
      obtain ⟨after, hgiven, hbehind⟩ := hafter
      have hcall := @call_list_after actor tables projectId includeArchived limit hlimit hgroup after
      rw [hbehind] at hcall
      rw [follow, hgiven]
      dsimp only
      rw [hcall]
      by_cases hlast : rest.length ≤ limit.toNat
      · simp only [if_pos hlast]
      · have hpage : rest.take limit.toNat ≠ [] := by
          simp only [ne_eq, List.take_eq_nil_iff, not_or]
          exact ⟨by omega, fun hempty => hlast (by simp [hempty])⟩
        obtain ⟨last, hlastOf⟩ := Option.ne_none_iff_exists'.1 (mt List.getLast?_eq_none_iff.1 hpage)
        have hnext := @ih (front ++ rest.take limit.toNat) (rest.drop limit.toNat)
          (by rw [List.length_drop]; omega) (by rw [List.append_assoc, List.take_append_drop, hsplit])
        rw [List.getLast?_append, hlastOf, Option.some_or, Option.map_some] at hnext
        simp only [if_neg hlast, hlastOf, Option.map_some, hnext, List.take_append_drop]

end Paging

/-- The cursor of a thread with activity at the epoch, and the same text with a number for its
identifier. -/
def epochTexts : CursorTexts where
  b64encode := fun _ => "eyJhY3Rpdml0eV9hdCI6IjE5NzAtMDEtMDFUMDA6MDA6MDArMDA6MDAiLCJ0aHJlYWRfaWQi" ++
    "OiIwMDAwMDAwMC0wMDAwLTAwMDAtMDAwMC0wMDAwMDAwMDAwMDcifQ=="
  b64decode := fun text => some (if text.length = 76 then
    "\x7b\"activity_at\":\"1970-01-01T00:00:00+00:00\",\"thread_id\":5\x7d"
  else "\x7b\"activity_at\":\"1970-01-01T00:00:00+00:00\"," ++
    "\"thread_id\":\"00000000-0000-0000-0000-000000000007\"\x7d")
  dumps := fun _ => "\x7b\"activity_at\":\"1970-01-01T00:00:00+00:00\"," ++
    "\"thread_id\":\"00000000-0000-0000-0000-000000000007\"\x7d"
  loads := fun text => .ok (.object [("activity_at", .string "1970-01-01T00:00:00+00:00"),
    ("thread_id", if text.length = 57 then .int 5
      else .string "00000000-0000-0000-0000-000000000007")])
  isoformat := fun _ => "1970-01-01T00:00:00+00:00"
  fromisoformat := fun _ => some ⟨0, some 0⟩
  str := fun _ => "00000000-0000-0000-0000-000000000007"
  uuid := fun _ => some 7

theorem epochTexts_reads : ThreadCursor.Reads epochTexts ⟨0, 7⟩ where
  quartets := ⟨("eyJhY3Rpdml0eV9hdCI6IjE5NzAtMDEtMDFUMDA6MDA6MDArMDA6MDAiLCJ0aHJlYWRfaWQi" ++
    "OiIwMDAwMDAwMC0wMDAwLTAwMDAtMDAwMC0wMDAwMDAwMDAwMDcifQ").toList, 2, by decide +kernel,
    by decide +kernel, by decide +kernel, by decide, by decide +kernel⟩
  decoded := by decide +kernel
  loaded := rfl
  timestamp := rfl
  uuid := rfl

theorem read_failedThread {threadId : UUID} {summary : ThreadSummary}
    (h : (listingOf colleague 3 false 50 none).read (failedThread .active) threadId =
      some summary) : cursorOf summary = ⟨0, 7⟩ := by
  obtain ⟨s, hs, rfl⟩ := Option.map_eq_some_iff.1 h
  obtain ⟨hs, -⟩ := Option.filter_eq_some_iff.1 hs
  by_cases hid : threadId = 7
  · subst hid
    cases hs
    rfl
  · simp [failedThread, hid] at hs

end ThreadService

end Zentra
