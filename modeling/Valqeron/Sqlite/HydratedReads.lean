import Valqeron.Foundation.Decoding
import Valqeron.Sqlite.EagerReads
import Valqeron.Sqlite.IssuerRow
import Valqeron.Sqlite.SecurityGraph

/-!
# Reads of issuers with their rows decoded

The reads of the issuer repository as their callers see them: every row is decoded
when its statement returns it, and one that cannot be decoded fails the read.
Without other writers, every read is the decoding of the stored issuers that it
selects, one by one.
-/

namespace Valqeron
namespace Sqlite

open Foundation
open Domain

def reconstituteRowWith (row : Versioned IssuerSnapshot)
    (securities : List Security) : Versioned HydratedIssuer :=
  reconstituteRow
    { row with data := { row.data with securities := .loaded securities } }

/-- `hydrate_rows`, on decoded rows. -/
def hydrateSnapshots (rows : List (Versioned IssuerSnapshot))
    (securities : List (Versioned Security)) :
    List (Versioned HydratedIssuer) :=
  let grouped := groupBy (fun s => s.issuerId.uuid)
    (securities.map Versioned.data)
  (takeGroups (fun row => row.data.issuer.id.uuid) grouped rows).map
    (fun taken => reconstituteRowWith taken.1 taken.2)

namespace HydratedReads

def decoded {row value : Type} (fromRow : row -> Except SqlError value)
    (r : Except SqlError (List row)) : Except SqlError (List value) :=
  r >>= List.mapM fromRow

def hydrateOne (id : IssuerId) (mode : LoadMode) :
    Option (Versioned IssuerSnapshot) ->
      SqlProgram (Except StorageFault (Option (Versioned HydratedIssuer)))
  | none => pure (.ok none)
  | some row =>
      match mode with
      | .lazy => pure (.ok (some (reconstituteRow row)))
      | .eager => do
          let securities ← query .reader (.securitiesByIssuer id.uuid)
          match decoded SecurityRow.fromRow securities with
          | .error e => pure (.error (backend e))
          | .ok securities =>
              pure (.ok (some (reconstituteRowWith row
                (securities.map Versioned.data))))

def findById (id : IssuerId) (mode : LoadMode) :
    SqlProgram (Except StorageFault (Option (Versioned HydratedIssuer))) :=
  withGuard .reader (do
    let row ← query .reader (.issuerById id.uuid)
    match row >>= Option.mapM IssuerRow.fromRow with
    | .error e => pure (.error (backend e))
    | .ok row => hydrateOne id mode row)

def hydrateMany
    (securitiesQuery : SqlProgram (Except SqlError (List SecurityEntry)))
    (rows : List (Versioned IssuerSnapshot)) :
    LoadMode ->
      SqlProgram (Except StorageFault (List (Versioned HydratedIssuer)))
  | .lazy => pure (.ok (rows.map reconstituteRow))
  | .eager => do
      let securities ← securitiesQuery
      match decoded SecurityRow.fromRow securities with
      | .error e => pure (.error (backend e))
      | .ok securities => pure (.ok (hydrateSnapshots rows securities))

def listWith (rowsQuery : SqlProgram (Except SqlError (List IssuerEntry)))
    (securitiesQuery : SqlProgram (Except SqlError (List SecurityEntry)))
    (mode : LoadMode) :
    SqlProgram (Except StorageFault (List (Versioned HydratedIssuer))) :=
  withGuard .reader (do
    let rows ← rowsQuery
    match decoded IssuerRow.fromRow rows with
    | .error e => pure (.error (backend e))
    | .ok rows => hydrateMany securitiesQuery rows mode)

def listAll (mode : LoadMode) :
    SqlProgram (Except StorageFault (List (Versioned HydratedIssuer))) :=
  listWith (query .reader .issuers) (query .reader .securitiesForAllIssuers)
    mode

def listPaged (after : Option IssuerId) (limit : Nat) (mode : LoadMode) :
    SqlProgram (Except StorageFault (List (Versioned HydratedIssuer))) :=
  let cursor := after.map IssuerId.uuid
  listWith (query .reader (.issuerPage cursor limit))
    (query .reader (.securitiesForIssuerPage cursor limit)) mode

end HydratedReads

/-!
## Stored issuers decoded
-/

/-- The issuer and the securities that came with it, decoded. -/
def StoredIssuer.hydrate (stored : StoredIssuer) :
    Except SqlError (Versioned HydratedIssuer) := do
  let row ← IssuerRow.fromRow (stored.id, stored.columns)
  match stored.securities with
  | .notLoaded => return reconstituteRow row
  | .loaded securities =>
      let securities ← securities.mapM SecurityRow.fromRow
      return reconstituteRowWith row (securities.map Versioned.data)

/-- What a read in this mode takes out of the database for a row. -/
def Db.stored (d : Db) : LoadMode -> IssuerEntry -> StoredIssuer
  | .lazy, row => reconstituteLazy row
  | .eager, row => reconstituteWith row (d.securitiesOf row.1)

theorem hydrate_loaded_eq_ok {row : IssuerEntry}
    {securities : List SecurityEntry} {v : Versioned HydratedIssuer} :
    (reconstituteWith row securities).hydrate = .ok v <->
      exists snapshot decoded, IssuerRow.fromRow row = .ok snapshot ∧
        securities.mapM SecurityRow.fromRow = .ok decoded ∧
        v = reconstituteRowWith snapshot (decoded.map Versioned.data) := by
  unfold StoredIssuer.hydrate reconstituteWith
  constructor
  · intro h
    rcases bind_eq_ok.mp h with ⟨snapshot, hsnapshot, h⟩
    rcases bind_eq_ok.mp h with ⟨decoded, hdecoded, h⟩
    cases h
    exact ⟨snapshot, decoded, hsnapshot, hdecoded, rfl⟩
  · intro h
    rcases h with ⟨snapshot, decoded, hsnapshot, hdecoded, rfl⟩
    refine bind_eq_ok.mpr ⟨snapshot, hsnapshot, ?_⟩
    exact bind_eq_ok.mpr ⟨decoded, hdecoded, rfl⟩

theorem hydrate_lazy (row : IssuerEntry) :
    (reconstituteLazy row).hydrate =
      (IssuerRow.fromRow row).map reconstituteRow := by
  unfold StoredIssuer.hydrate reconstituteLazy
  cases IssuerRow.fromRow row with
  | error e => rfl
  | ok v => rfl

theorem hydrate_stored (d : Db) (mode : LoadMode) (row : IssuerEntry) :
    (d.stored mode row).hydrate =
      (IssuerRow.fromRow row >>= fun snapshot =>
        match mode with
        | .lazy => .ok (reconstituteRow snapshot)
        | .eager =>
            (d.securitiesOf row.1).mapM SecurityRow.fromRow >>= fun decoded =>
              .ok (reconstituteRowWith snapshot
                (decoded.map Versioned.data))) := by
  cases mode with
  | lazy => rfl
  | eager => rfl

theorem keeps_of_securityRow {row : SecurityEntry} {v : Versioned Security}
    (h : SecurityRow.fromRow row = .ok v) :
    v.data.id.uuid = row.1 ∧ v.data.issuerId.uuid = row.2.issuerId := by
  unfold SecurityRow.fromRow at h
  rcases bind_eq_ok.mp h with ⟨kind, _, h⟩
  rcases bind_eq_ok.mp h with ⟨status, _, h⟩
  rcases bind_eq_ok.mp h with ⟨createdAt, _, h⟩
  rcases bind_eq_ok.mp h with ⟨name, _, h⟩
  rcases bind_eq_ok.mp h with ⟨isin, _, h⟩
  rcases bind_eq_ok.mp h with ⟨cfi, _, h⟩
  rcases bind_eq_ok.mp h with ⟨drRatio, _, h⟩
  rcases bind_eq_ok.mp h with ⟨version, _, h⟩
  cases h
  exact ⟨rfl, rfl⟩

/-!
## One decoding for all rows, or one for each row
-/

section Batches

variable {rows : List IssuerEntry} {securities : List SecurityEntry}

def ownedBy (securities : List SecurityEntry) (issuer : Uuid) :
    List SecurityEntry :=
  securities.filter (fun s => s.2.issuerId == issuer)

theorem groupBy_decoded {decoded : List (Versioned Security)}
    (h : securities.mapM SecurityRow.fromRow = .ok decoded) (issuer : Uuid) :
    exists own, (ownedBy securities issuer).mapM SecurityRow.fromRow =
        .ok own ∧
      groupBy (fun s => s.issuerId.uuid) (decoded.map Versioned.data) issuer =
        own.map Versioned.data := by
  refine ⟨decoded.filter (fun v => v.data.issuerId.uuid == issuer), ?_, ?_⟩
  · apply mapM_filter _ h
    intro r v hv
    rw [(keeps_of_securityRow hv).right]
  · rw [groupBy_apply, List.filter_map]
    rfl

theorem hydrateSnapshots_each (hsorted : KeysSorted rows)
    {snapshots : List (Versioned IssuerSnapshot)}
    {decoded : List (Versioned Security)}
    (hrows : rows.mapM IssuerRow.fromRow = .ok snapshots)
    (hsecurities : securities.mapM SecurityRow.fromRow = .ok decoded) :
    rows.mapM (fun row =>
        (reconstituteWith row (ownedBy securities row.1)).hydrate) =
      .ok (hydrateSnapshots snapshots decoded) := by
  have hkeys : snapshots.map (fun v => v.data.issuer.id.uuid) =
      rows.map Prod.fst :=
    map_of_mapM (fun h => (keeps_of_fromRow h).left) hrows
  have hnodup := keys_nodup hsorted
  rw [← hkeys] at hnodup
  unfold hydrateSnapshots
  simp only
  rw [takeGroups_eq_map _ _ hnodup, List.map_map, mapM_eq_ok_iff,
    List.forall₂_map_right_iff]
  apply (mapM_eq_ok_iff.mp hrows).imp
  intro row snapshot hsnapshot
  rcases groupBy_decoded hsecurities row.1 with ⟨own, hown, hgroup⟩
  refine hydrate_loaded_eq_ok.mpr ⟨snapshot, own, hsnapshot, hown, ?_⟩
  rw [Function.comp_apply, (keeps_of_fromRow hsnapshot).left, hgroup]

/-- No security is left over, so the batch fails when one of the issuers does. -/
theorem hydrateSnapshots_iff (hsorted : KeysSorted rows)
    (howned : forall s, s ∈ securities -> s.2.issuerId ∈ rows.map Prod.fst)
    {issuers : List (Versioned HydratedIssuer)} :
    (exists snapshots decoded, rows.mapM IssuerRow.fromRow = .ok snapshots ∧
        securities.mapM SecurityRow.fromRow = .ok decoded ∧
        issuers = hydrateSnapshots snapshots decoded) <->
      rows.mapM (fun row =>
        (reconstituteWith row (ownedBy securities row.1)).hydrate) =
          .ok issuers := by
  constructor
  · intro hgiven
    rcases hgiven with ⟨snapshots, decoded, hrows, hsecurities, rfl⟩
    exact hydrateSnapshots_each hsorted hrows hsecurities
  · intro h
    have hall := exists_mapM_iff.mp ⟨issuers, h⟩
    have hrows : exists snapshots,
        rows.mapM IssuerRow.fromRow = .ok snapshots := by
      apply exists_mapM_iff.mpr
      intro row hrow
      rcases hall row hrow with ⟨v, hv⟩
      rcases hydrate_loaded_eq_ok.mp hv with ⟨snapshot, _, hsnapshot, _⟩
      exact ⟨snapshot, hsnapshot⟩
    have hsecurities : exists decoded,
        securities.mapM SecurityRow.fromRow = .ok decoded := by
      apply exists_mapM_iff.mpr
      intro s hs
      rcases List.mem_map.mp (howned s hs) with ⟨row, hrow, hkey⟩
      rcases hall row hrow with ⟨v, hv⟩
      rcases hydrate_loaded_eq_ok.mp hv with ⟨_, own, _, hown, _⟩
      apply exists_mapM_iff.mp ⟨own, hown⟩
      exact List.mem_filter.mpr ⟨hs, beq_iff_eq.mpr hkey.symm⟩
    rcases hrows with ⟨snapshots, hrows⟩
    rcases hsecurities with ⟨decoded, hsecurities⟩
    refine ⟨snapshots, decoded, hrows, hsecurities, ?_⟩
    rw [hydrateSnapshots_each hsorted hrows hsecurities] at h
    exact (Except.ok.inj h).symm

end Batches

/-!
## The reads on a database that nobody else writes
-/

namespace Db

theorem ownedBy_all (d : Db) (issuer : Uuid) :
    ownedBy d.securitiesForAllIssuers issuer = d.securitiesOf issuer :=
  (groupBy_apply _ _ _).symm.trans (groupBy_securitiesForAllIssuers d issuer)

theorem ownedBy_page (d : Db) {cursor : Option Uuid} {limit : Nat}
    {row : IssuerEntry} (h : row ∈ d.issuers.page cursor limit) :
    ownedBy (d.securitiesForIssuerPage cursor limit) row.1 =
      d.securitiesOf row.1 := by
  have hgroup := groupBy_securitiesForIssuerPage d cursor limit row.1
  rw [if_pos (List.mem_map_of_mem h)] at hgroup
  exact (groupBy_apply _ _ _).symm.trans hgroup

/-- The foreign key of the securities: every one has its issuer. -/
def IssuersExist (d : Db) : Prop :=
  forall id r, d.securities.find? id = some r ->
    (d.issuers.find? r.issuerId).isSome = true

theorem issuerId_mem_keys {d : Db} (h : d.IssuersExist) {s : SecurityEntry}
    (hs : s ∈ d.securitiesForAllIssuers) :
    s.2.issuerId ∈ d.issuers.rows.map Prod.fst := by
  have hrow := List.mem_mergeSort.mp hs
  have hissuer := h s.1 s.2
    ((d.securities.find?_eq_some_iff s.1 s.2).mpr hrow)
  rcases Option.isSome_iff_exists.mp hissuer with ⟨r, hr⟩
  exact List.mem_map.mpr
    ⟨(s.2.issuerId, r), (d.issuers.find?_eq_some_iff _ r).mp hr, rfl⟩

theorem issuerId_mem_page {d : Db} {cursor : Option Uuid} {limit : Nat}
    {s : SecurityEntry} (hs : s ∈ d.securitiesForIssuerPage cursor limit) :
    s.2.issuerId ∈ (d.issuers.page cursor limit).map Prod.fst := by
  unfold securitiesForIssuerPage at hs
  have hpage := (List.mem_filter.mp (List.mem_mergeSort.mp hs)).right
  exact List.contains_iff_mem.mp hpage

end Db

namespace HydratedReads

def returned {value : Type} (d : Db)
    (read : SqlProgram (Except StorageFault value)) :
    Except StorageFault value :=
  (read.run Command.onDb d).2

@[simp] theorem decoded_ok {row value : Type}
    (fromRow : row -> Except SqlError value) (rows : List row) :
    decoded fromRow (.ok rows) = rows.mapM fromRow := rfl

theorem returned_withSecurities {value : Type} {d : Db}
    {ask : SqlProgram (Except SqlError (List SecurityEntry))}
    {rows : List SecurityEntry}
    (h : ask.run Command.onDb d = (d, .ok rows))
    (f : List (Versioned Security) -> value) :
    returned d (do
        let securities ← ask
        match decoded SecurityRow.fromRow securities with
        | .error e => pure (.error (backend e))
        | .ok securities => pure (.ok (f securities))) =
      ((rows.mapM SecurityRow.fromRow).map f).mapError backend := by
  unfold returned
  rw [Program.run_bind, h, decoded_ok]
  cases rows.mapM SecurityRow.fromRow with
  | error e => rfl
  | ok decoded => rfl

theorem returned_listWith {d : Db}
    {rows : List IssuerEntry} {securities : List SecurityEntry}
    {askRows : SqlProgram (Except SqlError (List IssuerEntry))}
    {askSecurities : SqlProgram (Except SqlError (List SecurityEntry))}
    (hrows : askRows.run Command.onDb d = (d, .ok rows))
    (hsecurities : askSecurities.run Command.onDb d = (d, .ok securities))
    {mode : LoadMode} {issuers : List (Versioned HydratedIssuer)} :
    returned d (listWith askRows askSecurities mode) = .ok issuers <->
      match mode with
      | .lazy => exists snapshots,
          rows.mapM IssuerRow.fromRow = .ok snapshots ∧
            issuers = snapshots.map reconstituteRow
      | .eager => exists snapshots decoded,
          rows.mapM IssuerRow.fromRow = .ok snapshots ∧
            securities.mapM SecurityRow.fromRow = .ok decoded ∧
            issuers = hydrateSnapshots snapshots decoded := by
  unfold returned listWith
  rw [run_withGuard, Program.run_bind, hrows, decoded_ok]
  cases rows.mapM IssuerRow.fromRow with
  | error e =>
      cases mode with
      | lazy => simp
      | eager => simp
  | ok snapshots =>
      cases mode with
      | lazy =>
          unfold hydrateMany
          simp [eq_comm]
      | eager =>
          have hread : returned d (hydrateMany askSecurities snapshots .eager) =
              ((securities.mapM SecurityRow.fromRow).map
                (hydrateSnapshots snapshots)).mapError backend :=
            returned_withSecurities hsecurities (hydrateSnapshots snapshots)
          change returned d (hydrateMany askSecurities snapshots .eager) =
            _ <-> _
          rw [hread, mapError_eq_ok]
          cases securities.mapM SecurityRow.fromRow with
          | error e => simp [Except.map]
          | ok decoded => simp [Except.map, eq_comm]

/-- A list read decodes the stored issuers, each with its own securities. -/
theorem returned_listWith_iff {d : Db} {rows : List IssuerEntry}
    {securities : List SecurityEntry}
    {askRows : SqlProgram (Except SqlError (List IssuerEntry))}
    {askSecurities : SqlProgram (Except SqlError (List SecurityEntry))}
    (hrows : askRows.run Command.onDb d = (d, .ok rows))
    (hsecurities : askSecurities.run Command.onDb d = (d, .ok securities))
    (hsorted : KeysSorted rows)
    (howned : forall s, s ∈ securities -> s.2.issuerId ∈ rows.map Prod.fst)
    (hown : forall row, row ∈ rows ->
      ownedBy securities row.1 = d.securitiesOf row.1)
    {mode : LoadMode} {issuers : List (Versioned HydratedIssuer)} :
    returned d (listWith askRows askSecurities mode) = .ok issuers <->
      rows.mapM (fun row => (d.stored mode row).hydrate) = .ok issuers := by
  rw [returned_listWith hrows hsecurities]
  cases mode with
  | lazy =>
      unfold Db.stored
      simp only [hydrate_lazy]
      exact mapM_map_eq_ok.symm
  | eager =>
      have hsame : rows.mapM (fun row => (d.stored .eager row).hydrate) =
          rows.mapM (fun row =>
            (reconstituteWith row (ownedBy securities row.1)).hydrate) := by
        apply mapM_congr
        intro row hrow
        rw [hown row hrow]
        rfl
      rw [hsame]
      exact hydrateSnapshots_iff hsorted howned

theorem returned_listAll {d : Db} (h : d.IssuersExist) {mode : LoadMode}
    {issuers : List (Versioned HydratedIssuer)} :
    returned d (listAll mode) = .ok issuers <->
      d.issuers.rows.mapM (fun row => (d.stored mode row).hydrate) =
        .ok issuers :=
  returned_listWith_iff rfl rfl d.issuers.sorted
    (fun _ hs => Db.issuerId_mem_keys h hs)
    (fun row _ => d.ownedBy_all row.1)

theorem returned_listPaged {d : Db} {after : Option IssuerId} {limit : Nat}
    {mode : LoadMode} {issuers : List (Versioned HydratedIssuer)} :
    returned d (listPaged after limit mode) = .ok issuers <->
      (d.issuers.page (after.map IssuerId.uuid) limit).mapM
        (fun row => (d.stored mode row).hydrate) = .ok issuers :=
  returned_listWith_iff rfl rfl (d.issuers.after_sorted _).take
    (fun _ hs => Db.issuerId_mem_page hs)
    (fun _ hrow => d.ownedBy_page hrow)

theorem returned_findById {d : Db} {id : IssuerId} {mode : LoadMode} :
    returned d (findById id mode) =
      match d.issuers.find? id.uuid with
      | none => .ok none
      | some r =>
          ((d.stored mode (id.uuid, r)).hydrate.map some).mapError
            backend := by
  unfold returned findById
  rw [run_withGuard]
  change (Program.run Command.onDb d
    (match ((d.issuers.find? id.uuid).map (fun r => (id.uuid, r))).mapM
        IssuerRow.fromRow with
      | .error e => pure (.error (backend e))
      | .ok row => hydrateOne id mode row)).2 = _
  cases d.issuers.find? id.uuid with
  | none => rfl
  | some r =>
      simp only [Option.map_some, Option.mapM_some, hydrate_stored]
      cases IssuerRow.fromRow (id.uuid, r) with
      | error e => rfl
      | ok snapshot =>
          cases mode with
          | lazy => rfl
          | eager =>
              have hsecurities :
                  returned d (hydrateOne id .eager (some snapshot)) =
                    (((d.securitiesOf id.uuid).mapM SecurityRow.fromRow).map
                      (fun securities => some (reconstituteRowWith snapshot
                        (securities.map Versioned.data)))).mapError backend :=
                returned_withSecurities rfl _
              refine Eq.trans hsecurities ?_
              cases (d.securitiesOf id.uuid).mapM SecurityRow.fromRow with
              | error e => rfl
              | ok decoded => rfl

end HydratedReads

end Sqlite
end Valqeron
