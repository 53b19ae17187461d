import Valqeron.Engine.AdminService

/-!
# Walks over the lists of the engine

A client walks the issuers or the background tasks page by page while others
write.  A request of a walk may find any database; the results are about the rows
that all requests of the walk find.
-/

namespace Valqeron
namespace Engine

open Foundation
open Domain
open Sqlite

section Walks

variable (text : UuidText) (texts : LibraryTexts)

def lastIssuer (r : ListIssuersResponseProto) : Option String :=
  r.issuers.getLast?.map IssuerProto.id

def issuerIds (r : ListIssuersResponseProto) : List String :=
  r.issuers.map IssuerProto.id

/-- Every page asks with the last identifier of the page before it. -/
def IssuerWalk (calls : List (Db × Nat))
    (answers : List ListIssuersResponseProto) : Prop :=
  PagedWalk
    (fun d after limit =>
      (list text d { after := after, limit := limit }).toOption)
    lastIssuer none calls answers

def taskIds (r : ListBackgroundTasksResponseProto) : List Blob :=
  r.tasks.map BackgroundTaskDetailProto.id

/-- Every page asks with the cursor that came with the page before it. -/
def TaskWalk (calls : List (BackgroundTaskTable × Nat))
    (answers : List ListBackgroundTasksResponseProto) : Prop :=
  PagedWalk
    (fun t after limit =>
      (listBackgroundTasks text texts t
        { cursor := some { after := after, limit := limit } }).toOption)
    (fun r => r.cursor.bind PaginatedCursor.after) none calls answers

theorem listLimit_pos (limit : Nat) : 0 < listLimit limit := by
  unfold listLimit defaultListLimit maxListLimit
  split <;> omega

theorem eq_ok_of_toOption {error value : Type} {x : Except error value}
    {v : value} (h : x.toOption = some v) : x = .ok v := by
  cases x with
  | error e => cases h
  | ok u =>
      cases h
      rfl

theorem run_listIssuers_lazy (after : Option IssuerId) (limit : Nat)
    (d : Db) :
    (listIssuers sqliteIssuerRepository after limit .lazy).run
        Command.onDb d =
      (d, .ok ((d.issuers.page (after.map IssuerId.uuid) limit).map
        reconstituteLazy)) := by
  show (withGuard .reader _).run Command.onDb d = _
  rw [run_withGuard]
  rfl

theorem ids_of_listProgram {after : Option IssuerId} {limit : Nat} {d : Db}
    {issuers : List IssuerProto}
    (h : ((listProgram text after limit).run Command.onDb d).2 =
      .ok issuers) :
    issuers.map IssuerProto.id =
      (d.issuers.pageKeys (after.map IssuerId.uuid) limit).map text.value := by
  unfold listProgram at h
  rw [Program.run_bind, run_listIssuers_lazy] at h
  simp only at h
  cases hrows : ((d.issuers.page (after.map IssuerId.uuid) limit).map
      reconstituteLazy).mapM StoredIssuer.hydrateLazy with
  | error e =>
      rw [hrows] at h
      cases h
  | ok rows =>
      rw [hrows] at h
      cases h
      have hids := map_of_mapM (fun h => (keeps_of_hydrateLazy h).left) hrows
      have hkeys : rows.map (fun v => v.data.issuer.id.uuid) =
          d.issuers.pageKeys (after.map IssuerId.uuid) limit :=
        hids.trans List.map_map
      rw [← hkeys, List.map_map, List.map_map]
      rfl

def NamesIssuer (c : String) (k : Uuid) : Prop := c = text.value k

/--
The issuers of an answer are a page of the table, and the last of them names the
last key of the page.
-/
theorem page_of_list {d : Db} {c : Option String} {k : Option Uuid}
    {limit : Nat} {r : ListIssuersResponseProto}
    (hcursor : Option.Rel (NamesIssuer text) c k)
    (h : list text d { after := c, limit := limit } = .ok r) :
    issuerIds r =
        (d.issuers.pageKeys k (listLimit limit)).map text.value ∧
      Option.Rel (NamesIssuer text) (lastIssuer r)
        (d.issuers.pageKeys k (listLimit limit)).getLast? := by
  have hafter : exists after : Option IssuerId,
      after.map IssuerId.uuid = k ∧
        c.mapM (parseIssuerIdToDomain text) = .ok after := by
    cases hcursor with
    | none => exact ⟨none, rfl, rfl⟩
    | @some c k hnames =>
        have hid : parseIssuerIdToDomain text c = .ok { uuid := k } := by
          unfold parseIssuerIdToDomain
          rw [hnames, text.parseStr_value]
        refine ⟨some { uuid := k }, rfl, ?_⟩
        rw [Option.mapM_some, hid]
        rfl
  rcases hafter with ⟨after, hkey, hparsed⟩
  unfold list at h
  rcases bind_eq_ok.mp h with ⟨asked, hasked, h⟩
  rw [hparsed] at hasked
  cases hasked
  rcases bind_eq_ok.mp h with ⟨issuers, hissuers, h⟩
  cases h
  have hids : issuers.map IssuerProto.id =
      (d.issuers.pageKeys k (listLimit limit)).map text.value := by
    rw [← hkey]
    cases hr : ((listProgram text after (listLimit limit)).run
        Command.onDb d).2 with
    | error e =>
        rw [hr] at hissuers
        cases hissuers
    | ok answer =>
        rw [hr] at hissuers
        cases hissuers
        exact ids_of_listProgram text hr
  refine ⟨hids, ?_⟩
  unfold lastIssuer
  rw [← List.getLast?_map, hids, List.getLast?_map]
  cases (d.issuers.pageKeys k (listLimit limit)).getLast? with
  | none => exact .none
  | some last => exact .some rfl

/-!
## What a walk returns
-/

theorem issuerWalk_keys {calls : List (Db × Nat)}
    {answers : List ListIssuersResponseProto}
    (hwalk : IssuerWalk text calls answers) :
    exists ids : List Uuid, answers.flatMap issuerIds = ids.map text.value ∧
      WalkKeys (calls.map (fun call => call.1.issuers)) none ids :=
  hwalk.walkKeys Db.issuers (NamesIssuer text) listLimit issuerIds text.value
    listLimit_pos
    (fun hcursor h => page_of_list text hcursor (eq_ok_of_toOption h)) .none

theorem taskWalk_keys {calls : List (BackgroundTaskTable × Nat)}
    {answers : List ListBackgroundTasksResponseProto}
    (hwalk : TaskWalk text texts calls answers) :
    WalkKeys (calls.map (fun call => call.1)) none
      (answers.flatMap taskIds) := by
  rcases hwalk.walkKeys (fun t => t) (NamesTask text) listLimit taskIds
    (fun id => id) listLimit_pos
    (fun hcursor h => by
      rw [List.map_id']
      exact page_of_listBackgroundTasks text texts hcursor
        (eq_ok_of_toOption h))
    .none with ⟨ids, hids, hkeys⟩
  rw [List.map_id'] at hids
  rw [hids]
  exact hkeys

/--
Whatever the others write between the pages, the identifiers of a walk increase
in the order of the stored bytes, none comes twice, and a row that every page
finds is among them.
-/
theorem pages_stable :
    (forall (calls : List (Db × Nat))
        (answers : List ListIssuersResponseProto),
      IssuerWalk text calls answers ->
      exists ids : List Uuid,
        answers.flatMap issuerIds = ids.map text.value ∧
        (ids.map Uuid.asBytes).Pairwise (fun a b => a < b) ∧
        (answers.flatMap issuerIds).Nodup ∧
        forall id, (forall call, call ∈ calls ->
          exists row, call.1.issuers.find? id = some row) ->
            text.value id ∈ answers.flatMap issuerIds) ∧
    (forall (calls : List (BackgroundTaskTable × Nat))
        (answers : List ListBackgroundTasksResponseProto),
      TaskWalk text texts calls answers ->
      (answers.flatMap taskIds).Pairwise (fun a b => a < b) ∧
      (answers.flatMap taskIds).Nodup ∧
      forall id, (forall call, call ∈ calls ->
        exists row, call.1.find? id = some row) ->
          id ∈ answers.flatMap taskIds) := by
  constructor
  · intro calls answers hwalk
    rcases issuerWalk_keys text hwalk with ⟨ids, hids, hkeys⟩
    rw [hids]
    refine ⟨ids, rfl, ?_, ?_, ?_⟩
    · rw [List.pairwise_map]
      exact hkeys.increasing.imp (fun h => Uuid.asBytes_lt_iff.mpr h)
    · exact hkeys.increasing.nodup.map (fun _ _ h => text.value_injective h)
    · intro id hpresent
      apply List.mem_map_of_mem
      apply hkeys.complete id (fun _ hc => by cases hc)
      rw [List.forall_mem_map]
      exact hpresent
  · intro calls answers hwalk
    have hkeys := taskWalk_keys text texts hwalk
    refine ⟨hkeys.increasing, hkeys.increasing.nodup, ?_⟩
    intro id hpresent
    apply hkeys.complete id (fun _ hc => by cases hc)
    rw [List.forall_mem_map]
    exact hpresent

end Walks

/-!
## Walks past a deleted cursor
-/

def newYearsText : String := "2026-01-01T00:00:00.123+00:00"

def listedRow : IssuerRecord where
  name := none
  status := "ACTIVE"
  createdAt := newYearsText
  version := 1
  cnpj := none
  lei := none
  countryCode := none

def dbOfIds (ids : List Uuid) : Db where
  issuers := ids.foldr (fun id t => t.insert id listedRow) .empty
  securities := .empty

/-- The second issuer is deleted and the third inserted behind the first page. -/
def issuerCalls : List (Db × Nat) :=
  [(dbOfIds [1, 2, 4], 2), (dbOfIds [1, 3, 4], 0), (dbOfIds [1, 3, 4], 5000)]

def issuerPage (ids : List Uuid) : ListIssuersResponseProto where
  issuers := ids.map (fun id =>
    { id := UuidText.hyphenated.value id
      status := "ACTIVE"
      createdAt := newYearsText
      version := 1
      name := none
      cnpj := none
      lei := none
      countryCode := none })

theorem issuerWalk_cursorDeleted :
    IssuerWalk .hyphenated issuerCalls
      [issuerPage [1, 2], issuerPage [3, 4], issuerPage []] :=
  .more (by decide +kernel) rfl
    (.more (by decide +kernel) rfl (.last (by decide +kernel) rfl))

def noTexts : LibraryTexts where
  uuid := fun _ => ""
  fault := fun _ => ""

def tableOfIds (ids : List Uuid) : BackgroundTaskTable :=
  ids.foldr (fun id t => t.insert id.asBytes
    { name := "report"
      createdAt := newYearsText
      lastUpdatedAt := newYearsText
      version := 1 }) .empty

/-- The only task of the first page is deleted, and another put before it. -/
def taskCalls : List (BackgroundTaskTable × Nat) :=
  [(tableOfIds [2, 3], 1), (tableOfIds [1, 3], 1), (tableOfIds [1, 3], 0)]

def taskPage (ids : List Uuid) (cursor : Option PaginatedCursor) :
    ListBackgroundTasksResponseProto where
  cursor := cursor
  protocolVersion := 1
  tasks := ids.map (fun id =>
    { id := id.asBytes
      name := "report"
      createdAt := some { seconds := 1767225600, nanos := 123000000 }
      lastUpdatedAt := some { seconds := 1767225600, nanos := 123000000 } })

def taskCursor (id : Uuid) : PaginatedCursor where
  after := some (UuidText.hyphenated.value id)
  limit := 1

theorem taskWalk_cursorDeleted :
    TaskWalk .hyphenated noTexts taskCalls
      [taskPage [2] (some (taskCursor 2)), taskPage [3] (some (taskCursor 3)),
        taskPage [] none] :=
  .more (by decide +kernel) rfl
    (.more (by decide +kernel) rfl (.last (by decide +kernel) rfl))

theorem pages_stable_cursorDeleted :
    UuidText.hyphenated.value 4 ∈
        [issuerPage [1, 2], issuerPage [3, 4], issuerPage []].flatMap
          issuerIds ∧
      Uuid.asBytes 3 ∈
        [taskPage [2] (some (taskCursor 2)),
          taskPage [3] (some (taskCursor 3)), taskPage [] none].flatMap
            taskIds := by
  have hstable := pages_stable .hyphenated noTexts
  rcases hstable.left _ _ issuerWalk_cursorDeleted with ⟨_, _, _, _, hissuers⟩
  rcases hstable.right _ _ taskWalk_cursorDeleted with ⟨_, _, htasks⟩
  constructor
  · apply hissuers
    intro call hcall
    exists listedRow
    revert call
    decide +kernel
  · apply htasks
    intro call hcall
    refine ⟨{ name := "report", createdAt := newYearsText,
              lastUpdatedAt := newYearsText, version := 1 }, ?_⟩
    revert call
    decide +kernel

end Engine
end Valqeron
