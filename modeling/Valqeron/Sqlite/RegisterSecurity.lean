import Valqeron.Domain.RegisterSecurity
import Valqeron.Foundation.Service
import Valqeron.Sqlite.SecurityGraph
import Valqeron.Sqlite.SecurityRules

/-!
# Registration of a security over SQLite

The two repositories share one database.  Between any two commands of a
registration other clients may write, and any statement may fail; what the
registration answers is then about the moment at which it looked, and what it
stores about the moment of its insertion.  A ledger tells its own changes from those
of the others.
-/

namespace Valqeron
namespace Sqlite

open Foundation
open Domain
open Identifiers

abbrev StoreCommand := Command ⊕ SecurityCommand

abbrev StoreResponse : StoreCommand -> Type :=
  Sum.elim Response SecurityResponse

abbrev StoreProgram := Program StoreCommand StoreResponse

def sqliteIssuers : IssuerRepository StoreProgram StorageFault StoredIssuer :=
  sqliteIssuerRepository.lift Program.onLeft

def sqliteSecurities : SecurityRegister StoreProgram StorageFault where
  exists_ := fun id => (SqliteSecurityRepository.exists_ id).onRight
  existsByIsin := fun isin => (SqliteSecurityRepository.existsByIsin isin).onRight
  insert := fun security => (SqliteSecurityRepository.insert security).onRight

def StoreCommand.onDb (d : Db) : (c : StoreCommand) -> Db × StoreResponse c
  | .inl c => Command.onDb d c
  | .inr c => SecurityCommand.onDb d c

def SecurityCommand.failWith (e : SqlError) :
    (c : SecurityCommand) -> SecurityResponse c
  | .takeGuard _ => ()
  | .dropGuard _ => ()
  | .query _ _ => .error e
  | .execute _ => .error e

def StoreCommand.failWith (e : SqlError) : (c : StoreCommand) -> StoreResponse c
  | .inl c => Command.failWith e c
  | .inr c => SecurityCommand.failWith e c

/-- A database that many clients write, with the ledger of one of them. -/
structure SharedDb where
  db : Db
  /-- What the client's own commands have changed, from what to what. -/
  own : List (Db × Db)

def SharedDb.write (s : SharedDb) (d : Db) : SharedDb :=
  if d = s.db then s else { db := d, own := s.own ++ [(s.db, d)] }

def SharedDb.serve (s : SharedDb) (c : StoreCommand) :
    SharedDb × StoreResponse c :=
  (s.write (StoreCommand.onDb s.db c).1, (StoreCommand.onDb s.db c).2)

def OthersWrite (d d' : Db) : Prop := exists calls, runCalls d calls = d'

structure Others (s s' : SharedDb) : Prop where
  writes : OthersWrite s.db s'.db
  own : s'.own = s.own

theorem OthersWrite.trans {d d₁ d' : Db} (h : OthersWrite d d₁)
    (h' : OthersWrite d₁ d') : OthersWrite d d' := by
  rcases h with ⟨calls, hcalls⟩
  rcases h' with ⟨calls', hcalls'⟩
  refine ⟨calls ++ calls', ?_⟩
  unfold runCalls at hcalls hcalls' ⊢
  rw [List.foldl_append, hcalls, hcalls']

theorem Others.refl (s : SharedDb) : Others s s := ⟨⟨[], rfl⟩, rfl⟩

theorem Others.trans {s s₁ s' : SharedDb} (h : Others s s₁)
    (h' : Others s₁ s') : Others s s' :=
  ⟨h.writes.trans h'.writes, h'.own.trans h.own⟩

theorem SharedDb.write_self (s : SharedDb) : s.write s.db = s := if_pos rfl

theorem SharedDb.write_of_ne {s : SharedDb} {d : Db} (h : d ≠ s.db) :
    s.write d = { db := d, own := s.own ++ [(s.db, d)] } :=
  if_neg h

/-- Others write, and then the command is carried out or fails. -/
def sharedStore : Service SharedDb StoreCommand StoreResponse :=
  fun s c s' r => exists s₁, Others s s₁ ∧
    ((s', r) = s₁.serve c ∨
      s' = s₁ ∧ exists e, r = StoreCommand.failWith e c)

/-!
## What an insertion needs
-/

/-- The database has what the security refers to, and neither its id nor its ISIN. -/
structure Admits (d : Db) (security : Security) : Prop where
  issuer : (d.issuers.find? security.issuerId.uuid).isSome = true
  isin : forall isin, security.isin = some isin ->
    forall id r, d.securities.find? id = some r -> r.isin ≠ some isin.asStr
  underlying : forall id, security.underlyingSecurityId = some id ->
    (d.securities.find? id.uuid).isSome = true
  fresh : d.securities.find? security.id.uuid = none

def Db.withSecurity (d : Db) (security : Security) : Db :=
  d.storeSecurity security.id.uuid (recordOf security 1)

theorem cfi_length (cfi : Cfi) : cfi.asStr.length = 6 := by
  unfold Cfi.asStr
  rw [← String.length_toList, toList_asciiText, List.length_map]
  exact cfi.bytes.2

theorem pos_of_ne_zero {n : UInt32} (h : n ≠ 0) : (0 : Int) < n.toNat := by
  have hne : n.toNat ≠ 0 := by
    intro hzero
    exact h (UInt32.toNat_inj.mp hzero)
  omega

/-- The builder's rules are all that the checks of the table ask for. -/
theorem checksPass_of_accepted {security : Security} (h : security.Accepted)
    (version : Nat) :
    (recordOf security version).ChecksPass security.id.uuid := by
  rcases Security.accepted_iff.mp h with ⟨hreceipt, hself⟩
  have hkind : (recordOf security version).kind = security.kind.asStr := rfl
  constructor
  case kind =>
    rw [hkind]
    cases security.kind <;> simp [SecurityKind.asStr]
  case status =>
    show security.status.asStr ∈ ["ACTIVE", "RETIRED"]
    cases security.status <;> simp [SecurityStatus.asStr]
  case cfi =>
    intro cfi hcfi
    rcases Option.map_eq_some_iff.mp hcfi with ⟨c, _, hc⟩
    rw [← hc]
    exact cfi_length c
  case receipts =>
    intro n hn
    rcases Option.map_eq_some_iff.mp hn with ⟨ratio, _, hratio⟩
    rw [← hratio]
    exact pos_of_ne_zero ratio.receipts_ne
  case underlying =>
    intro n hn
    rcases Option.map_eq_some_iff.mp hn with ⟨ratio, _, hratio⟩
    rw [← hratio]
    exact pos_of_ne_zero ratio.underlying_ne
  case pair =>
    simp [recordOf]
  case receiptOnly =>
    intro hne
    have hnot : security.kind ≠ .depositaryReceipt := by
      intro heq
      apply hne
      rw [hkind, heq]
      rfl
    rcases hreceipt hnot with ⟨hunderlying, hratio⟩
    simp [recordOf, hunderlying, hratio]
  case notSelf =>
    intro heq
    rcases Option.map_eq_some_iff.mp heq with ⟨id, hid, huuid⟩
    apply hself
    rw [hid]
    congr 1
    rcases id with ⟨uuid⟩
    have hsame : uuid = security.id.uuid := huuid
    rw [hsame]

def isinKnown (d : Db) (security : Security) : Bool :=
  match security.isin with
  | none => false
  | some isin => SecurityQuery.eval d (.securityExistsByIsin isin.asStr)

def underlyingKnown (d : Db) (security : Security) : Bool :=
  match security.underlyingSecurityId with
  | none => true
  | some id => (d.securities.find? id.uuid).isSome

theorem isinKnown_eq_false_iff {d : Db} {security : Security} :
    isinKnown d security = false <->
      forall isin, security.isin = some isin ->
        forall id r, d.securities.find? id = some r ->
          r.isin ≠ some isin.asStr := by
  unfold isinKnown
  cases hisin : security.isin with
  | none => simp
  | some isin =>
      simp only [SecurityQuery.eval, List.any_eq_false, Option.some.injEq,
        forall_eq']
      constructor
      · intro h id r hrow
        have hmem := (SortedTable.find?_eq_some_iff _ _ _).mp hrow
        simpa using h (id, r) hmem
      · intro h entry hmem
        have hrow := (SortedTable.find?_eq_some_iff _ entry.1 entry.2).mpr hmem
        simpa using h entry.1 entry.2 hrow

theorem used_eq_isinKnown (d : Db) (security : Security) :
    used d.securities SecurityRecord.isin (security.isin.map Isin.asStr) =
      isinKnown d security := by
  unfold isinKnown
  cases security.isin with
  | none => rfl
  | some isin => rfl

theorem isinTaken_eq_isinKnown {d : Db} {security : Security}
    (hfresh : d.securities.find? security.id.uuid = none) :
    isinTaken d.securities security.id.uuid
      (security.isin.map Isin.asStr) = isinKnown d security := by
  rw [← used_eq_isinKnown, isinTaken_eq_taken, used_eq_taken hfresh]

/-- The foreign keys of an accepted security do not see its own row. -/
theorem referencesExist_withSecurity {d : Db} {security : Security}
    (h : security.Accepted) :
    (d.withSecurity security).referencesExist (recordOf security 1) =
      ((d.issuers.find? security.issuerId.uuid).isSome &&
        underlyingKnown d security) := by
  have hself := (Security.accepted_iff.mp h).right
  unfold Db.referencesExist underlyingKnown Db.withSecurity Db.storeSecurity
  cases hunderlying : security.underlyingSecurityId with
  | none => simp [recordOf, hunderlying]
  | some id =>
      have hne : id.uuid ≠ security.id.uuid := by
        intro heq
        apply hself
        rw [hunderlying]
        rcases id with ⟨uuid⟩
        have hsame : uuid = security.id.uuid := heq
        rw [hsame]
      simp [recordOf, hunderlying, SortedTable.find?_insert_of_ne _ hne]

theorem exec_insertSecurity {security : Security} (h : security.Accepted)
    (d : Db) :
    (insertSecurityStatement security).exec d =
      if isinKnown d security then
        .error (.unique "security.isin")
      else if (d.securities.find? security.id.uuid).isSome then
        .error (.primaryKey "security")
      else if (d.issuers.find? security.issuerId.uuid).isSome &&
          underlyingKnown d security then
        .ok (d.withSecurity security, 1)
      else
        .error .foreignKey := by
  have hchecks : (recordOf security 1).failedCheck security.id.uuid = none :=
    SecurityRecord.failedCheck_eq_none.mpr (checksPass_of_accepted h 1)
  have hreferences := referencesExist_withSecurity (d := d) h
  have hused := used_eq_isinKnown d security
  unfold Db.withSecurity at hreferences ⊢
  unfold recordOf at hchecks hreferences ⊢
  unfold insertSecurityStatement SecurityStatement.exec securityInsertConflict
  simp only [hchecks, hreferences, hused]
  cases isinKnown d security with
  | true => rfl
  | false =>
      cases (d.securities.find? security.id.uuid).isSome <;> rfl

theorem admits_iff {d : Db} {security : Security} :
    Admits d security <->
      (d.securities.find? security.id.uuid).isSome = false ∧
        isinKnown d security = false ∧
        (d.issuers.find? security.issuerId.uuid).isSome = true ∧
        underlyingKnown d security = true := by
  have hunderlying : underlyingKnown d security = true <->
      forall id, security.underlyingSecurityId = some id ->
        (d.securities.find? id.uuid).isSome = true := by
    unfold underlyingKnown
    cases security.underlyingSecurityId <;> simp
  rw [isinKnown_eq_false_iff, hunderlying]
  constructor
  · intro h
    refine ⟨?_, h.isin, h.issuer, h.underlying⟩
    rw [h.fresh]
    rfl
  · intro h
    refine ⟨h.right.right.left, h.right.left, h.right.right.right, ?_⟩
    simpa using h.left

theorem exec_insertSecurity_ok {security : Security} (h : security.Accepted)
    {d d' : Db} {n : Nat}
    (hexec : (insertSecurityStatement security).exec d = .ok (d', n)) :
    Admits d security ∧ d' = d.withSecurity security := by
  rw [exec_insertSecurity h] at hexec
  split at hexec
  · cases hexec
  · rename_i hisin
    split at hexec
    · cases hexec
    · rename_i hid
      split at hexec
      · rename_i hreferences
        rw [Bool.and_eq_true] at hreferences
        cases hexec
        refine ⟨admits_iff.mpr ⟨?_, ?_, hreferences⟩, rfl⟩
        · simpa using hid
        · simpa using hisin
      · cases hexec

/-!
## A registration that has the database to itself
-/

/-- What a registration makes of a database, and its answer. -/
def registration (d : Db) (security : Security) :
    Db × Except (RegisterSecurityError StorageFault) Unit :=
  if !(d.issuers.find? security.issuerId.uuid).isSome then
    (d, .error .unknownIssuer)
  else if isinKnown d security then
    (d, .error .duplicateIsin)
  else if !underlyingKnown d security then
    (d, .error .unknownUnderlyingSecurity)
  else if (d.securities.find? security.id.uuid).isSome then
    (d, .error (.storage (backend (.primaryKey "security"))))
  else
    (d.withSecurity security, .ok ())

theorem run_issuerExists (id : IssuerId) (d : Db) :
    (sqliteIssuers.exists_ id).run StoreCommand.onDb d =
      (d, .ok (d.issuers.find? id.uuid).isSome) := by
  show ((SqliteIssuerRepository.exists_ id).onLeft).run StoreCommand.onDb d = _
  rw [Program.run_onLeft]
  exact run_withGuard d .reader _

theorem run_isinTaken (security : Security) (d : Db) :
    (isTaken sqliteSecurities.existsByIsin security.isin).run
      StoreCommand.onDb d = (d, .ok (isinKnown d security)) := by
  unfold isinKnown
  cases security.isin with
  | none => rfl
  | some isin =>
      show ((SqliteSecurityRepository.existsByIsin isin).onRight).run
        StoreCommand.onDb d = _
      rw [Program.run_onRight]
      exact SqliteSecurityRepository.run_readWith
        (.securityExistsByIsin isin.asStr) .ok d

theorem run_underlyingMissing (security : Security) (d : Db) :
    (isMissing sqliteSecurities.exists_ security.underlyingSecurityId).run
      StoreCommand.onDb d = (d, .ok (!underlyingKnown d security)) := by
  unfold underlyingKnown
  cases security.underlyingSecurityId with
  | none => rfl
  | some id =>
      unfold isMissing
      simp only
      rw [Program.run_bind]
      have hread : (sqliteSecurities.exists_ id).run StoreCommand.onDb d =
          (d, .ok (d.securities.find? id.uuid).isSome) := by
        show ((SqliteSecurityRepository.exists_ id).onRight).run
          StoreCommand.onDb d = _
        rw [Program.run_onRight]
        exact SqliteSecurityRepository.run_readWith
          (.securityExists id.uuid) .ok d
      rw [hread]
      rfl

theorem run_insertSecurity (security : Security) (d : Db) :
    (sqliteSecurities.insert security).run StoreCommand.onDb d =
      (((insertSecurityStatement security).apply d).1,
        ((((insertSecurityStatement security).apply d).2).map
          (fun _ => ())).mapError backend) := by
  show ((SqliteSecurityRepository.insert security).onRight).run
    StoreCommand.onDb d = _
  rw [Program.run_onRight]
  exact SqliteSecurityRepository.run_insert security d

/--
Alone on the database, the registration of a security that the builder accepts
fails by the first of its questions that is answered the wrong way, by nothing but
a taken id behind them, and stores the security otherwise.
-/
theorem registerSecurity_alone {security : Security} (h : security.Accepted)
    (d : Db) :
    (registerSecurity sqliteSecurities sqliteIssuers security).run
      StoreCommand.onDb d = registration d security := by
  unfold registerSecurity registration
  rw [Program.run_bind, run_issuerExists]
  cases hissuer : (d.issuers.find? security.issuerId.uuid).isSome with
  | false => rfl
  | true =>
      simp only
      rw [Program.run_bind, run_isinTaken]
      cases hisin : isinKnown d security with
      | true => rfl
      | false =>
          simp only
          rw [Program.run_bind, run_underlyingMissing]
          cases hunderlying : underlyingKnown d security with
          | false => rfl
          | true =>
              simp only [Bool.not_true]
              rw [Program.run_bind, run_insertSecurity]
              have hexec := exec_insertSecurity h d
              rw [hisin, hissuer, hunderlying] at hexec
              unfold SecurityStatement.apply
              rw [hexec]
              cases hid : (d.securities.find? security.id.uuid).isSome <;> rfl

def firstShare : Security where
  id := { uuid := 2 }
  issuerId := { uuid := 1 }
  kind := .commonShare
  status := .active
  createdAt := { seconds := 0, nanos := 0 }
  name := none
  isin := none
  cfi := none
  underlyingSecurityId := none
  drRatio := none

theorem firstShare_accepted : firstShare.Accepted :=
  Security.accepted_iff.mpr ⟨fun _ => ⟨rfl, rfl⟩, by decide⟩

def oneIssuerDb : Db := runCalls .empty [.insertIssuer plainRecordIssuer]

theorem registerSecurity_alone_firstShare :
    (registerSecurity sqliteSecurities sqliteIssuers firstShare).run
      StoreCommand.onDb oneIssuerDb =
        (oneIssuerDb.withSecurity firstShare, .ok ()) := by
  rw [registerSecurity_alone firstShare_accepted]
  have hissuer : (oneIssuerDb.issuers.find? firstShare.issuerId.uuid).isSome =
      true := by decide +kernel
  unfold registration
  rw [hissuer]
  rfl

/-!
## A registration among other clients
-/

/--
What the answer of a registration says about the databases that it saw, and what
the registration itself has changed.
-/
inductive Registration (security : Security) (s s' : SharedDb) :
    Except (RegisterSecurityError StorageFault) Unit -> Prop where
  /-- Everything was in order at the moment of the insertion. -/
  | registered (d : Db) (before : OthersWrite s.db d)
      (admits : Admits d security)
      (after : OthersWrite (d.withSecurity security) s'.db)
      (own : s'.own = s.own ++ [(d, d.withSecurity security)]) :
      Registration security s s' (.ok ())
  | unknownIssuer (d : Db) (before : OthersWrite s.db d)
      (after : OthersWrite d s'.db) (own : s'.own = s.own)
      (missing : d.issuers.find? security.issuerId.uuid = none) :
      Registration security s s' (.error .unknownIssuer)
  | duplicateIsin (d : Db) (before : OthersWrite s.db d)
      (after : OthersWrite d s'.db) (own : s'.own = s.own)
      (taken : isinKnown d security = true) :
      Registration security s s' (.error .duplicateIsin)
  | unknownUnderlying (d : Db) (before : OthersWrite s.db d)
      (after : OthersWrite d s'.db) (own : s'.own = s.own)
      (missing : underlyingKnown d security = false) :
      Registration security s s' (.error .unknownUnderlyingSecurity)
  | failed (e : StorageFault) (nothing : Others s s') :
      Registration security s s' (.error (.storage e))

theorem Registration.after_others {security : Security} {s s₁ s' : SharedDb}
    {result : Except (RegisterSecurityError StorageFault) Unit}
    (hothers : Others s s₁) (h : Registration security s₁ s' result) :
    Registration security s s' result := by
  have hown := hothers.own
  cases h with
  | registered d before admits after own =>
      exact .registered d (hothers.writes.trans before) admits after
        (by rw [own, hown])
  | unknownIssuer d before after own missing =>
      exact .unknownIssuer d (hothers.writes.trans before) after
        (own.trans hown) missing
  | duplicateIsin d before after own taken =>
      exact .duplicateIsin d (hothers.writes.trans before) after
        (own.trans hown) taken
  | unknownUnderlying d before after own missing =>
      exact .unknownUnderlying d (hothers.writes.trans before) after
        (own.trans hown) missing
  | failed e nothing => exact .failed e (hothers.trans nothing)

theorem idle_others {c : StoreCommand} {s s' : SharedDb} {r : StoreResponse c}
    (hidle : forall d, (StoreCommand.onDb d c).1 = d)
    (h : sharedStore s c s' r) :
    Others s s' ∧
      (r = (StoreCommand.onDb s'.db c).2 ∨
        exists e, r = StoreCommand.failWith e c) := by
  rcases h with ⟨s₁, hothers, hdone | ⟨hsame, hfailed⟩⟩
  · have hworld : s' = s₁.write (StoreCommand.onDb s₁.db c).1 :=
      congrArg Prod.fst hdone
    rw [hidle, SharedDb.write_self] at hworld
    rw [hworld]
    exact ⟨hothers, Or.inl (congrArg Prod.snd hdone)⟩
  · rw [hsame]
    exact ⟨hothers, Or.inr hfailed⟩

theorem runsOn_guarded {value : Type} {role : ConnectionRole}
    {body : SecurityProgram value} {s s' : SharedDb} {v : value}
    (h : (Program.bracket (.takeGuard role) (.dropGuard role) body).RunsOn
      (fun s c s' r => sharedStore s (.inr c) s' r) s s' v) :
    exists s₁ s₂, Others s s₁ ∧
      body.RunsOn (fun s c s' r => sharedStore s (.inr c) s' r) s₁ s₂ v ∧
        Others s₂ s' := by
  have hguard : forall (c : SecurityCommand) {s s' : SharedDb}
      {r : SecurityResponse c},
      (forall d, (StoreCommand.onDb d (.inr c)).1 = d) ->
        sharedStore s (.inr c) s' r -> Others s s' :=
    fun _ _ _ _ hidle hserve => (idle_others hidle hserve).left
  exact Program.runsOn_bracket
    (fun hserve => hguard (.takeGuard role) (fun _ => rfl) hserve)
    (fun hserve => hguard (.dropGuard role) (fun _ => rfl) hserve) h

/-- The answer to a question is about one moment, or the question failed. -/
def Looked {value : Type} (fact : Db -> value) (s s' : SharedDb)
    (v : Except StorageFault value) : Prop :=
  (exists s₁, Others s s₁ ∧ Others s₁ s' ∧ v = .ok (fact s₁.db)) ∨
    exists e, Others s s' ∧ v = .error e

theorem issuerExists_looked {id : IssuerId} {s s' : SharedDb}
    {v : Except StorageFault Bool}
    (h : (sqliteIssuers.exists_ id).RunsOn sharedStore s s' v) :
    Looked (fun d => (d.issuers.find? id.uuid).isSome) s s' v := by
  have hleft : ((SqliteIssuerRepository.exists_ id).onLeft).RunsOn sharedStore
      s s' v := h
  rcases Program.runsOn_onLeft.mp hleft with ⟨s₁, _, htake, s₂, r, hquery,
    s₃, _, hdrop, hworld, hvalue⟩
  have hbefore := (idle_others (fun _ => rfl) htake).left
  have hafter := (idle_others (fun _ => rfl) hdrop).left
  rcases idle_others (fun _ => rfl) hquery with ⟨hothers, hr⟩
  rw [hworld, hvalue]
  rcases hr with hanswered | ⟨e, hfailed⟩
  · rw [hanswered]
    exact Or.inl ⟨s₂, hbefore.trans hothers, hafter, rfl⟩
  · rw [hfailed]
    exact Or.inr ⟨backend e, (hbefore.trans hothers).trans hafter, rfl⟩

theorem readWith_looked {q : SecurityQuery} {s s' : SharedDb}
    {v : Except StorageFault q.Answer}
    (h : ((SqliteSecurityRepository.readWith q .ok).onRight).RunsOn sharedStore
      s s' v) : Looked (fun d => q.eval d) s s' v := by
  rcases runsOn_guarded (Program.runsOn_onRight.mp h) with
    ⟨s₁, s₂, hbefore, hbody, hafter⟩
  rcases hbody with ⟨s₃, r, hquery, hrest⟩
  rcases idle_others (fun _ => rfl) hquery with ⟨hothers, hr⟩
  rcases hr with hanswered | ⟨e, hfailed⟩
  · rw [hanswered] at hrest
    rcases hrest with ⟨hworld, hvalue⟩
    rw [hvalue]
    rw [hworld] at hafter
    exact Or.inl ⟨s₃, hbefore.trans hothers, hafter, rfl⟩
  · rw [hfailed] at hrest
    rcases hrest with ⟨hworld, hvalue⟩
    rw [hvalue]
    rw [hworld] at hafter
    exact Or.inr ⟨backend e, (hbefore.trans hothers).trans hafter, rfl⟩

theorem Looked.congr {value : Type} {fact fact' : Db -> value}
    {s s' : SharedDb}
    {v : Except StorageFault value} (hfact : forall d, fact d = fact' d)
    (h : Looked fact s s' v) : Looked fact' s s' v := by
  rcases h with ⟨s₁, hbefore, hafter, hv⟩ | hfailed
  · exact Or.inl ⟨s₁, hbefore, hafter, by rw [hv, hfact]⟩
  · exact Or.inr hfailed

theorem looked_known {value : Type} {fact : Db -> value} {v : value}
    (h : forall d, fact d = v) (s : SharedDb) :
    Looked fact s s (.ok v) :=
  Or.inl ⟨s, .refl s, .refl s, by rw [h]⟩

theorem isinTaken_looked {security : Security} {s s' : SharedDb}
    {v : Except StorageFault Bool}
    (h : (isTaken sqliteSecurities.existsByIsin security.isin).RunsOn
      sharedStore s s' v) : Looked (fun d => isinKnown d security) s s' v := by
  cases hisin : security.isin with
  | none =>
      rw [hisin] at h
      rcases h with ⟨hworld, hvalue⟩
      rw [hworld, hvalue]
      exact looked_known (fun d => by simp [isinKnown, hisin]) s
  | some isin =>
      rw [hisin] at h
      refine Looked.congr ?_ (readWith_looked h)
      intro d
      unfold isinKnown
      rw [hisin]

theorem underlyingMissing_looked {security : Security} {s s' : SharedDb}
    {v : Except StorageFault Bool}
    (h : (isMissing sqliteSecurities.exists_
      security.underlyingSecurityId).RunsOn sharedStore s s' v) :
    Looked (fun d => !underlyingKnown d security) s s' v := by
  cases hunderlying : security.underlyingSecurityId with
  | none =>
      rw [hunderlying] at h
      rcases h with ⟨hworld, hvalue⟩
      rw [hworld, hvalue]
      exact looked_known (fun d => by simp [underlyingKnown, hunderlying]) s
  | some id =>
      rw [hunderlying] at h
      rcases Program.runsOn_bind.mp h with ⟨s₁, found, hread, hworld, hvalue⟩
      have hlooked : Looked (fun d =>
          SecurityQuery.eval d (.securityExists id.uuid)) s s₁ found :=
        readWith_looked hread
      rw [hworld, hvalue]
      rcases hlooked with ⟨s₂, hbefore, hafter, hfound⟩ | ⟨e, hothers, hfound⟩
      · rw [hfound]
        refine Or.inl ⟨s₂, hbefore, hafter, ?_⟩
        simp only [underlyingKnown, hunderlying]
        rfl
      · rw [hfound]
        exact Or.inr ⟨e, hothers, rfl⟩

/-- A failed attempt has written nothing, a good one the security at its moment. -/
def Inserted (security : Security) (s s' : SharedDb) :
    Except SqlError Unit -> Prop
  | .ok _ => exists s₁, Others s s₁ ∧ Admits s₁.db security ∧
      Others (s₁.write (s₁.db.withSecurity security)) s'
  | .error _ => Others s s'

theorem insertAttempt_inserted {security : Security} (h : security.Accepted)
    {s s' : SharedDb} {v : Except SqlError Unit}
    (hrun : (Program.bracket (.takeGuard .writer) (.dropGuard .writer) (do
        let affected ← Program.perform
          (SecurityCommand.execute (insertSecurityStatement security))
        pure (Except.map (fun _ => ()) affected))).RunsOn
      (fun s c s' r => sharedStore s (.inr c) s' r) s s' v) :
    Inserted security s s' v := by
  rcases runsOn_guarded hrun with ⟨s₁, s₂, hbefore, hbody, hafter⟩
  rcases hbody with ⟨s₃, r, ⟨s₄, hothers, hserved⟩, hworld, hvalue⟩
  rw [hworld] at hafter
  rw [hvalue]
  rcases hserved with hdone | ⟨hsame, e, hfailed⟩
  · have hpair : s₃ = s₄.write ((insertSecurityStatement security).apply s₄.db).1 ∧
        r = ((insertSecurityStatement security).apply s₄.db).2 :=
      Prod.mk.inj hdone
    unfold SecurityStatement.apply at hpair
    cases hexec : (insertSecurityStatement security).exec s₄.db with
    | error e =>
        rw [hexec] at hpair
        rw [hpair.left, SharedDb.write_self] at hafter
        rw [hpair.right]
        exact (hbefore.trans hothers).trans hafter
    | ok result =>
        rcases result with ⟨d, n⟩
        rw [hexec] at hpair
        rcases exec_insertSecurity_ok h hexec with ⟨hadmits, hstored⟩
        rw [hpair.left, hstored] at hafter
        rw [hpair.right]
        exact ⟨s₄, hbefore.trans hothers, hadmits, hafter⟩
  · rw [hsame] at hafter
    rw [hfailed]
    exact (hbefore.trans hothers).trans hafter

/-- The retries write at most once. -/
theorem insertSecurity_inserted {security : Security} (h : security.Accepted)
    {s s' : SharedDb} {v : Except StorageFault Unit}
    (hrun : (sqliteSecurities.insert security).RunsOn sharedStore s s' v) :
    exists r, v = r.mapError backend ∧ Inserted security s s' r := by
  have hright : ((SqliteSecurityRepository.insert security).onRight).RunsOn
      sharedStore s s' v := hrun
  rcases Program.runsOn_bind.mp (Program.runsOn_onRight.mp hright) with
    ⟨s₁, r, hretries, hworld, hvalue⟩
  refine ⟨r, hvalue, ?_⟩
  rw [hworld]
  refine Program.runsOn_retryWhile (Q := Inserted security)
    (insertAttempt_inserted h) ?_ hretries
  intro s s₁ s₂ u v hasked hfirst hlater
  rcases u with e | _
  · have hothers : Others s s₁ := hfirst
    rcases v with e' | _
    · exact hothers.trans hlater
    · rcases hlater with ⟨s₃, hbefore, hrest⟩
      exact ⟨s₃, hothers.trans hbefore, hrest⟩
  · cases hasked

/-- A question of a registration stops it, or it goes on. -/
theorem registration_asked (stops : Bool) {security : Security}
    {s s₁ s' : SharedDb} {fact : Db -> Bool} {v : Except StorageFault Bool}
    {refusal : RegisterSecurityError StorageFault}
    {result : Except (RegisterSecurityError StorageFault) Unit}
    (hlooked : Looked fact s s₁ v)
    (hfailed : forall e, v = .error e ->
      s' = s₁ ∧ result = .error (.storage e))
    (hstopped : v = .ok stops -> s' = s₁ ∧ result = .error refusal)
    (hrefused : forall d, OthersWrite s.db d -> OthersWrite d s₁.db ->
      s₁.own = s.own -> fact d = stops ->
        Registration security s s₁ (.error refusal))
    (hnext : v = .ok (!stops) -> Registration security s₁ s' result) :
    Registration security s s' result := by
  rcases hlooked with ⟨s₀, hbefore, hafter, hv⟩ | ⟨e, hothers, hv⟩
  · by_cases hfact : fact s₀.db = stops
    · rw [hfact] at hv
      rcases hstopped hv with ⟨hworld, hresult⟩
      rw [hworld, hresult]
      exact hrefused s₀.db hbefore.writes hafter.writes
        (hbefore.trans hafter).own hfact
    · rw [Bool.eq_not.mpr hfact] at hv
      exact (hnext hv).after_others (hbefore.trans hafter)
  · rcases hfailed e hv with ⟨hworld, hresult⟩
    rw [hworld, hresult]
    exact .failed e hothers

theorem registration_inserted {security : Security} {s s' : SharedDb}
    {r : Except SqlError Unit} (h : Inserted security s s' r) :
    Registration security s s' ((r.mapError backend).mapError .storage) := by
  rcases r with e | _
  · exact .failed (backend e) h
  · rcases h with ⟨s₁, hbefore, hadmits, hafter⟩
    have hchange : s₁.db.withSecurity security ≠ s₁.db := by
      intro hsame
      have hstored : (s₁.db.withSecurity security).securities.find?
          security.id.uuid = some (recordOf security 1) :=
        SortedTable.find?_insert_self _ _ _
      rw [hsame, hadmits.fresh] at hstored
      cases hstored
    rw [SharedDb.write_of_ne hchange] at hafter
    refine .registered s₁.db hbefore.writes hadmits hafter.writes ?_
    rw [hafter.own, hbefore.own]

/--
Among any writes by other clients and any failures, the registration of a security
that the builder accepts makes one change, the insertion at a moment at which
everything that it refers to is there and its id and its ISIN are free, or it makes
none and names something that was so while it ran.
-/
theorem registerSecurity_amongOthers {security : Security}
    (h : security.Accepted) {s s' : SharedDb}
    {result : Except (RegisterSecurityError StorageFault) Unit}
    (hrun : (registerSecurity sqliteSecurities sqliteIssuers security).RunsOn
      sharedStore s s' result) : Registration security s s' result := by
  unfold registerSecurity at hrun
  rcases Program.runsOn_bind.mp hrun with ⟨s₁, known, hissuer, hrun⟩
  refine registration_asked false (issuerExists_looked hissuer) ?_ ?_
    (fun d hbefore hafter hown hfact =>
      .unknownIssuer d hbefore hafter hown (by simpa using hfact)) ?_
  · intro e he
    rw [he] at hrun
    exact hrun
  · intro hno
    rw [hno] at hrun
    exact hrun
  intro hyes
  rw [hyes] at hrun
  rcases Program.runsOn_bind.mp hrun with ⟨s₂, taken, hisin, hrun⟩
  refine registration_asked true (isinTaken_looked hisin) ?_ ?_
    (fun d hbefore hafter hown hfact =>
      .duplicateIsin d hbefore hafter hown hfact) ?_
  · intro e he
    rw [he] at hrun
    exact hrun
  · intro hno
    rw [hno] at hrun
    exact hrun
  intro hfree
  rw [hfree] at hrun
  rcases Program.runsOn_bind.mp hrun with ⟨s₃, missing, hunderlying, hrun⟩
  refine registration_asked true
    (underlyingMissing_looked hunderlying) ?_ ?_
    (fun d hbefore hafter hown hfact =>
      .unknownUnderlying d hbefore hafter hown (by simpa using hfact)) ?_
  · intro e he
    rw [he] at hrun
    exact hrun
  · intro hno
    rw [hno] at hrun
    exact hrun
  intro hthere
  rw [hthere] at hrun
  rcases Program.runsOn_bind.mp hrun with ⟨s₄, inserted, hinsert, hrun⟩
  rcases insertSecurity_inserted h hinsert with ⟨r, hr, hinserted⟩
  rcases hrun with ⟨hworld, hvalue⟩
  rw [hworld, hvalue, hr]
  exact registration_inserted hinserted

/-- What happens at one command: the writes of others, and perhaps a failure. -/
structure SharedTurn where
  others : List RepositoryCall
  failure : Option SqlError

def SharedTurn.play (m : SharedTurn) (s : SharedDb) (c : StoreCommand) :
    SharedDb × StoreResponse c :=
  let s₁ : SharedDb := { s with db := runCalls s.db m.others }
  match m.failure with
  | none => s₁.serve c
  | some e => (s₁, StoreCommand.failWith e c)

theorem SharedTurn.play_shared (m : SharedTurn) (s : SharedDb) (c : StoreCommand) :
    sharedStore s c (m.play s c).1 (m.play s c).2 := by
  refine ⟨{ s with db := runCalls s.db m.others }, ⟨⟨m.others, rfl⟩, rfl⟩, ?_⟩
  unfold SharedTurn.play
  cases m.failure with
  | none => exact Or.inl rfl
  | some e => exact Or.inr ⟨rfl, e, rfl⟩

def foreignShare : Security := { firstShare with id := { uuid := 9 } }

/-- The issuer comes in time, and the first attempt to insert finds a busy writer. -/
def busyRegistration : List SharedTurn :=
  let quiet : SharedTurn := { others := [], failure := none }
  let busy : SharedTurn := { others := [], failure := some .busy }
  let issuer : SharedTurn :=
    { others := [.insertIssuer plainRecordIssuer], failure := none }
  let foreign : SharedTurn :=
    { others := [.insertSecurity foreignShare], failure := none }
  [issuer, quiet, quiet, quiet, busy, quiet, foreign, quiet, quiet]

theorem registerSecurity_amongOthers_busy :
    exists s', s'.own = [(oneIssuerDb.withSecurity foreignShare,
        (oneIssuerDb.withSecurity foreignShare).withSecurity firstShare)] ∧
      Registration firstShare { db := .empty, own := [] } s' (.ok ()) := by
  have hplayed : (Program.playOn SharedTurn.play busyRegistration
      (registerSecurity sqliteSecurities sqliteIssuers firstShare)
      { db := .empty, own := [] }).map (fun out => (out.1.own, out.2)) =
        some ([(oneIssuerDb.withSecurity foreignShare,
          (oneIssuerDb.withSecurity foreignShare).withSecurity firstShare)],
          .ok ()) := by
    decide +kernel
  rcases Option.map_eq_some_iff.mp hplayed with ⟨⟨s', result⟩, hplay, hout⟩
  rcases Prod.mk.inj hout with ⟨hown, hresult⟩
  have hrun := Program.runsOn_of_playOn SharedTurn.play_shared hplay
  have hend := registerSecurity_amongOthers firstShare_accepted hrun
  simp only at hown hresult
  rw [hresult] at hend
  exact ⟨s', hown, hend⟩

end Sqlite
end Valqeron
