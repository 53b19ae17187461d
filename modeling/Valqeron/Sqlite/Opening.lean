import Valqeron.Engine.Config
import Valqeron.Foundation.Dialogue
import Valqeron.Sqlite.IssuerRepository
import Valqeron.Sqlite.Openers

/-!
# Opening the database

Opening a database file makes one connection that may write and a pool of readers.
Each is configured before it is used, the migrations run before there is a reader,
and what was opened is closed again when a later step fails.
-/

namespace Valqeron
namespace Sqlite

open Foundation
open Engine

def asPragma : Synchronous -> String
  | .normal => "NORMAL"
  | .full => "FULL"

structure DatabaseConfig where
  readerPoolSize : Nat
  synchronous : Synchronous
  busyTimeoutMillis : Nat
deriving DecidableEq, Repr

/-- `default_reader_pool_size`; the parallelism is not zero where it is known. -/
def defaultReaderPoolSize (availableParallelism : Option Nat) : Nat :=
  match availableParallelism with
  | some n => min n 6
  | none => 2

/-- The configuration that the engine opens its database with. -/
def engineDatabaseConfig (config : EngineConfig)
    (availableParallelism : Option Nat) : DatabaseConfig where
  readerPoolSize := defaultReaderPoolSize availableParallelism
  synchronous := config.synchronous
  busyTimeoutMillis := 5000

/-!
## What opening asks for
-/

/-- A fallible call of `configure`. -/
inductive Setting where
  | pragmaUpdate (name value : String)
  | pragmaQuery (name : String)
  | busyTimeout (millis : Nat)
deriving DecidableEq, Repr

/-- The connections of one opening are numbered as they are opened. -/
inductive OpenCommand (script : Type) where
  | openConnection (c : Nat) (role : ConnectionRole)
  | configure (c : Nat) (setting : Setting)
  | statementCache (c capacity : Nat)
  | migrate (c : Nat) (step : MigrationCommand script)
  | close (c : Nat)

variable {script : Type}

def OpenResponse : OpenCommand script -> Type
  | .openConnection _ _ => Except SqlError Unit
  | .configure _ _ => Except SqlError Unit
  | .statementCache _ _ => Unit
  | .migrate _ step => MigrationResponse step
  | .close _ => Unit

abbrev OpenProgram (script : Type) :=
  Program (OpenCommand script) OpenResponse

inductive OpenError where
  | connection (source : SqlError)
  | pragma (source : SqlError)
  | migration (e : SqliteError)
  | invalidPoolSize
deriving DecidableEq, Repr

structure Database where
  writer : Nat
  readers : List Nat
  readerPoolSize : Nat
deriving DecidableEq, Repr

abbrev Opens (script : Type) := OpenProgram script (Except OpenError Database)

def abandonOpening (e : OpenError) : List Nat -> Opens script
  | [] => .done (.error e)
  | c :: rest => .call (.close c) (fun _ => abandonOpening e rest)

/-!
## Configuring a connection
-/

/-- `configure` up to the statement cache. -/
def settingsBefore (config : DatabaseConfig) (role : ConnectionRole) :
    List Setting :=
  (match role with
    | .writer => .pragmaUpdate "journal_mode" "WAL"
    | .reader => .pragmaQuery "journal_mode") ::
  [.pragmaUpdate "synchronous" (asPragma config.synchronous),
    .pragmaUpdate "foreign_keys" "ON", .busyTimeout config.busyTimeoutMillis,
    .pragmaUpdate "cache_size" "-64000", .pragmaUpdate "temp_store" "MEMORY",
    .pragmaUpdate "mmap_size" "268435456",
    .pragmaUpdate "wal_autocheckpoint" "1000"]

/-- `configure` behind the statement cache. -/
def settingsBehind : ConnectionRole -> List Setting
  | .writer => []
  | .reader => [.pragmaUpdate "query_only" "ON"]

def statementCacheCapacity : Nat := 64

def applySettings (c : Nat) (fail : SqlError -> Opens script)
    (next : Opens script) : List Setting -> Opens script
  | [] => next
  | setting :: rest =>
      .call (.configure c setting) (fun
        | .error e => fail e
        | .ok _ => applySettings c fail next rest)

/-- `open_connection` and `configure`; `held` is dropped when one of them fails. -/
def openConfigured (config : DatabaseConfig) (c : Nat) (role : ConnectionRole)
    (held : List Nat) (next : Opens script) : Opens script :=
  let fail := fun e => abandonOpening (.pragma e) (c :: held)
  .call (.openConnection c role) (fun
    | .error e => abandonOpening (.connection e) held
    | .ok _ =>
        applySettings c fail
          (.call (.statementCache c statementCacheCapacity) (fun _ =>
            applySettings c fail next (settingsBehind role)))
          (settingsBefore config role))

/-!
## `Database::open_with_config`
-/

/-- The loop over the pool; the pool is dropped before the writer. -/
def openReaders (config : DatabaseConfig) :
    (pool : List Nat) -> (remaining : Nat) -> Opens script
  | pool, 0 => .done (.ok
      { writer := 0
        readers := pool
        readerPoolSize := config.readerPoolSize })
  | pool, remaining + 1 =>
      openConfigured config (pool.length + 1) .reader (pool ++ [0])
        (openReaders config (pool ++ [pool.length + 1]) remaining)

def onWriter (step : MigrationCommand script) :
    OpenProgram script (MigrationResponse step) :=
  .perform (OpenCommand.migrate 0 step)

def openWithConfig (m : Migrations script) (config : DatabaseConfig) :
    Opens script :=
  if config.readerPoolSize < 1 then
    .done (.error .invalidPoolSize)
  else
    openConfigured config 0 .writer []
      ((m.run.via onWriter).bind (fun
        | .error e => abandonOpening (.migration e) [0]
        | .ok _ => openReaders config [] config.readerPoolSize))

/-!
## What the opening has come to
-/

structure Connection where
  number : Nat
  role : ConnectionRole
  settings : List Setting
  statementCache : Option Nat
deriving DecidableEq, Repr

/--
SQLite has accepted what the statements of the repositories rely on; the journal
mode that it then reports is not read.
-/
structure Connection.Serviceable (config : DatabaseConfig)
    (conn : Connection) : Prop where
  foreignKeys : .pragmaUpdate "foreign_keys" "ON" ∈ conn.settings
  waits : .busyTimeout config.busyTimeoutMillis ∈ conn.settings
  durable : .pragmaUpdate "synchronous" (asPragma config.synchronous) ∈
    conn.settings
  wal : conn.role = .writer -> .pragmaUpdate "journal_mode" "WAL" ∈ conn.settings
  readsOnly : conn.role = .reader ->
    .pragmaUpdate "query_only" "ON" ∈ conn.settings

structure OpenStanding where
  /-- The open connections, the latest first. -/
  connections : List Connection
  phase : MigrationPhase

namespace OpenStanding

def fresh : OpenStanding where
  connections := []
  phase := .unread

def numbers (g : OpenStanding) : List Nat :=
  g.connections.map Connection.number

def Latest (g : OpenStanding) (c : Nat) : Prop :=
  g.numbers.head? = some c

def Allows (m : Migrations script) (config : DatabaseConfig)
    (g : OpenStanding) : OpenCommand script -> Prop
  | .openConnection c .writer => c ∉ g.numbers ∧ g.connections = []
  | .openConnection c .reader => c ∉ g.numbers ∧
      g.phase = .ready m.scripts.length ∧
      forall conn, conn ∈ g.connections -> conn.Serviceable config
  | .configure c _ => g.Latest c
  | .statementCache c _ => g.Latest c
  | .migrate c step => exists conn, g.connections = [conn] ∧
      conn.number = c ∧ conn.role = .writer ∧ conn.Serviceable config ∧
      m.allowed g.phase step
  | .close c => c ∈ g.numbers

def mapLatest (g : OpenStanding) (f : Connection -> Connection) :
    OpenStanding :=
  match g.connections with
  | [] => g
  | conn :: rest => { g with connections := f conn :: rest }

def advance (m : Migrations script) (g : OpenStanding) :
    (c : OpenCommand script) -> OpenResponse c -> OpenStanding
  | .openConnection c role, .ok _ =>
      { g with
        connections :=
          { number := c
            role := role
            settings := []
            statementCache := none } :: g.connections }
  | .configure _ setting, .ok _ =>
      g.mapLatest (fun conn =>
        { conn with settings := conn.settings ++ [setting] })
  | .statementCache _ capacity, _ =>
      g.mapLatest (fun conn => { conn with statementCache := some capacity })
  | .migrate _ step, r => { g with phase := m.advance g.phase step r }
  | .close c, _ =>
      { g with
        connections := g.connections.filter (fun conn => conn.number ≠ c) }
  | _, _ => g

end OpenStanding

def openingOrder (m : Migrations script) (config : DatabaseConfig) :
    Protocol (OpenCommand script) OpenResponse OpenStanding where
  allowed := OpenStanding.Allows m config
  possible := fun _ _ => True
  advance := OpenStanding.advance m

structure Opened (m : Migrations script) (config : DatabaseConfig)
    (g : OpenStanding) (db : Database) : Prop where
  phase : g.phase = .ready m.scripts.length
  numbers : g.numbers = db.readers.reverse ++ [db.writer]
  nodup : g.numbers.Nodup
  pool : db.readers.length = config.readerPoolSize ∧
    db.readerPoolSize = config.readerPoolSize ∧ 0 < config.readerPoolSize
  serviceable : forall conn, conn ∈ g.connections ->
    conn.Serviceable config ∧ (conn.role = .writer <-> conn.number = db.writer)

def OpenEnds (m : Migrations script) (config : DatabaseConfig)
    (g : OpenStanding) : Except OpenError Database -> Prop
  | .ok db => Opened m config g db
  | .error e => g.connections = [] ∧
      (e = .invalidPoolSize <-> config.readerPoolSize = 0)

section Order

variable {m : Migrations script} {config : DatabaseConfig}

theorem OpenStanding.mem_numbers_close {g : OpenStanding} {c n : Nat}
    (r : OpenResponse (.close c : OpenCommand script)) :
    n ∈ (g.advance m (.close c) r).numbers <-> n ∈ g.numbers ∧ n ≠ c := by
  simp only [advance, numbers, List.mem_map, List.mem_filter,
    decide_eq_true_eq]
  constructor
  · intro h
    rcases h with ⟨conn, ⟨hconn, hne⟩, hn⟩
    subst hn
    exact ⟨⟨conn, hconn, rfl⟩, hne⟩
  · intro h
    rcases h with ⟨⟨conn, hconn, hn⟩, hne⟩
    subst hn
    exact ⟨conn, ⟨hconn, hne⟩, rfl⟩

theorem abandonOpening_follows {e : OpenError} {held : List Nat}
    {g : OpenStanding} (hpos : 0 < config.readerPoolSize)
    (he : e ≠ .invalidPoolSize) (hnodup : held.Nodup)
    (hmem : forall n, n ∈ held <-> n ∈ g.numbers) :
    (abandonOpening e held).Follows (openingOrder m config)
      (OpenEnds m config) g := by
  induction held generalizing g with
  | nil =>
      have hnone : g.numbers = [] := by
        rw [List.eq_nil_iff_forall_not_mem]
        intro n hn
        exact absurd ((hmem n).mpr hn) List.not_mem_nil
      exact ⟨List.map_eq_nil_iff.mp hnone, iff_of_false he (by omega)⟩
  | cons c rest ih =>
      rw [List.nodup_cons] at hnodup
      refine ⟨(hmem c).mp List.mem_cons_self, fun r _ => ih hnodup.right ?_⟩
      intro n
      refine Iff.trans ?_ (OpenStanding.mem_numbers_close (m := m) r).symm
      rw [← hmem, List.mem_cons]
      constructor
      · intro hn
        refine ⟨Or.inr hn, ?_⟩
        intro heq
        subst heq
        exact hnodup.left hn
      · intro hn
        rcases hn with ⟨heq | hrest, hne⟩
        · exact absurd heq hne
        · exact hrest

theorem applySettings_follows {c : Nat} {fail : SqlError -> Opens script}
    {next : Opens script} {settings : List Setting} {conn : Connection}
    {rest : List Connection} {phase : MigrationPhase}
    (hnumber : conn.number = c)
    (hfail : forall e conn', conn'.number = c ->
      (fail e).Follows (openingOrder m config) (OpenEnds m config)
        { connections := conn' :: rest, phase := phase })
    (hnext : next.Follows (openingOrder m config) (OpenEnds m config)
      { connections :=
          { conn with settings := conn.settings ++ settings } :: rest
        phase := phase }) :
    (applySettings c fail next settings).Follows (openingOrder m config)
      (OpenEnds m config) { connections := conn :: rest, phase := phase } := by
  induction settings generalizing conn with
  | nil =>
      rw [List.append_nil] at hnext
      exact hnext
  | cons setting settings ih =>
      refine ⟨congrArg some hnumber, ?_⟩
      intro r _
      rcases r with e | _
      · exact hfail e conn hnumber
      · have hlatest : ({ conn with
            settings := conn.settings ++ [setting] } : Connection).number = c :=
          hnumber
        apply ih hlatest
        simp only [List.append_assoc, List.singleton_append]
        exact hnext

def Connection.configured (config : DatabaseConfig) (c : Nat)
    (role : ConnectionRole) : Connection where
  number := c
  role := role
  settings := settingsBefore config role ++ settingsBehind role
  statementCache := some statementCacheCapacity

theorem Connection.configured_serviceable (config : DatabaseConfig) (c : Nat)
    (role : ConnectionRole) :
    (Connection.configured config c role).Serviceable config := by
  cases role <;> constructor <;>
    simp [configured, settingsBefore, settingsBehind]

theorem openConfigured_follows {c : Nat} {role : ConnectionRole}
    {held : List Nat} {next : Opens script} {g : OpenStanding}
    (hpos : 0 < config.readerPoolSize)
    (hallowed : g.Allows m config (.openConnection c role))
    (hfree : c ∉ g.numbers) (hnodup : held.Nodup)
    (hmem : forall n, n ∈ held <-> n ∈ g.numbers)
    (hnext : next.Follows (openingOrder m config) (OpenEnds m config)
      { g with
        connections := .configured config c role :: g.connections }) :
    (openConfigured config c role held next).Follows (openingOrder m config)
      (OpenEnds m config) g := by
  have hfail : forall e conn', conn'.number = c ->
      (abandonOpening (.pragma e) (c :: held) : Opens script).Follows
        (openingOrder m config) (OpenEnds m config)
        { connections := conn' :: g.connections, phase := g.phase } := by
    intro e conn' hnumber
    apply abandonOpening_follows hpos OpenError.noConfusion
    · rw [List.nodup_cons, hmem]
      exact ⟨hfree, hnodup⟩
    · intro n
      show _ <-> n ∈ conn'.number :: g.numbers
      rw [List.mem_cons, List.mem_cons, hmem, hnumber]
  refine ⟨hallowed, ?_⟩
  intro r _
  rcases r with e | _
  · exact abandonOpening_follows hpos OpenError.noConfusion hnodup hmem
  refine applySettings_follows rfl hfail ⟨rfl, fun _ _ => ?_⟩
  exact applySettings_follows rfl hfail hnext

structure PoolOpen (m : Migrations script) (config : DatabaseConfig)
    (g : OpenStanding) (pool : List Nat) : Prop where
  phase : g.phase = .ready m.scripts.length
  numbers : g.numbers = pool.reverse ++ [0]
  nodup : pool.Nodup
  bounds : forall c, c ∈ pool -> 0 < c ∧ c <= pool.length
  serviceable : forall conn, conn ∈ g.connections ->
    conn.Serviceable config ∧ (conn.role = .writer <-> conn.number = 0)

namespace PoolOpen

variable {g : OpenStanding} {pool : List Nat}

theorem mem_iff (h : PoolOpen m config g pool) (n : Nat) :
    n ∈ pool ++ [0] <-> n ∈ g.numbers := by
  rw [h.numbers, List.mem_append, List.mem_append, List.mem_reverse]

theorem nodup_held (h : PoolOpen m config g pool) : (pool ++ [0]).Nodup := by
  rw [List.nodup_append]
  refine ⟨h.nodup, List.nodup_singleton 0, ?_⟩
  intro a ha b hb
  have hpos := (h.bounds a ha).left
  have hzero := List.mem_singleton.mp hb
  omega

theorem next_free (h : PoolOpen m config g pool) :
    pool.length + 1 ∉ pool ++ [0] := by
  intro hmem
  rcases List.mem_append.mp hmem with hpool | hzero
  · have hle := (h.bounds _ hpool).right
    omega
  · have hzero := List.mem_singleton.mp hzero
    omega

theorem grow (h : PoolOpen m config g pool) :
    PoolOpen m config
      { g with
        connections :=
          .configured config (pool.length + 1) .reader :: g.connections }
      (pool ++ [pool.length + 1]) := by
  have hfree : pool.length + 1 ∉ pool := by
    intro hmem
    exact h.next_free (List.mem_append_left _ hmem)
  constructor
  · exact h.phase
  · show List.cons (pool.length + 1) g.numbers = _
    rw [h.numbers, List.reverse_append]
    rfl
  · rw [List.nodup_append]
    refine ⟨h.nodup, List.nodup_singleton _, ?_⟩
    intro a ha b hb heq
    rw [List.mem_singleton.mp hb] at heq
    rw [heq] at ha
    exact hfree ha
  · intro c hc
    rw [List.length_append, List.length_singleton]
    rcases List.mem_append.mp hc with hpool | hlast
    · have hbounds := h.bounds c hpool
      omega
    · have hlast := List.mem_singleton.mp hlast
      omega
  · intro conn hconn
    rcases List.mem_cons.mp hconn with hnew | hold
    · subst hnew
      refine ⟨Connection.configured_serviceable config _ _, ?_⟩
      constructor
      · intro hrole
        cases hrole
      · intro hnumber
        exact absurd hnumber (Nat.succ_ne_zero _)
    · exact h.serviceable conn hold

theorem opened (h : PoolOpen m config g pool)
    (hlength : pool.length = config.readerPoolSize)
    (hpos : 0 < config.readerPoolSize) :
    Opened m config g
      { writer := 0
        readers := pool
        readerPoolSize := config.readerPoolSize } where
  phase := h.phase
  numbers := h.numbers
  nodup := by
    rw [h.numbers, ← List.nodup_reverse, List.reverse_append,
      List.reverse_reverse, List.reverse_singleton]
    exact List.nodup_append_comm.mp h.nodup_held
  pool := ⟨hlength, rfl, hpos⟩
  serviceable := h.serviceable

end PoolOpen

theorem openReaders_follows {pool : List Nat} {remaining : Nat}
    {g : OpenStanding} (h : PoolOpen m config g pool)
    (hlength : pool.length + remaining = config.readerPoolSize)
    (hpos : 0 < config.readerPoolSize) :
    (openReaders config pool remaining).Follows (openingOrder m config)
      (OpenEnds m config) g := by
  induction remaining generalizing pool g with
  | zero => exact h.opened hlength hpos
  | succ remaining ih =>
      have hfree : pool.length + 1 ∉ g.numbers := by
        rw [← h.mem_iff]
        exact h.next_free
      apply openConfigured_follows hpos _ hfree h.nodup_held h.mem_iff
      · apply ih h.grow
        rw [List.length_append, List.length_singleton]
        omega
      · exact ⟨hfree, h.phase, fun conn hconn => (h.serviceable conn hconn).left⟩

/-- The migrations see the configured writer and nothing else. -/
def WriterIn (config : DatabaseConfig) (phase : MigrationPhase)
    (g : OpenStanding) : Prop :=
  g = { connections := [.configured config 0 .writer], phase := phase }

theorem migrations_follow :
    (m.run.via onWriter).Follows (openingOrder m config)
      (fun g v => exists phase, WriterIn config phase g ∧ m.Returns phase v)
      { connections := [.configured config 0 .writer], phase := .unread } := by
  refine Program.follows_via (P := m.protocol) (R := WriterIn config) ?_ rfl
    m.run_follows
  intro phase g step hg hallowed
  subst hg
  refine ⟨⟨_, rfl, rfl, rfl, Connection.configured_serviceable _ _ _,
    hallowed⟩, ?_⟩
  intro r _
  exact ⟨trivial, rfl⟩

theorem openWithConfig_follows :
    (openWithConfig m config).Follows (openingOrder m config)
      (OpenEnds m config) .fresh := by
  unfold openWithConfig
  split
  · rename_i hsize
    exact ⟨rfl, iff_of_true rfl (by omega)⟩
  · rename_i hsize
    have hpos : 0 < config.readerPoolSize := by omega
    have hallowed : OpenStanding.fresh.Allows m config
        (.openConnection 0 .writer) := ⟨List.not_mem_nil, rfl⟩
    apply openConfigured_follows hpos hallowed List.not_mem_nil List.nodup_nil
      (fun _ => Iff.rfl)
    refine Program.follows_bind migrations_follow ?_
    intro g v hv
    rcases hv with ⟨phase, hg, hreturns⟩
    subst hg
    rcases v with e | _
    · exact abandonOpening_follows hpos OpenError.noConfusion
        (List.nodup_singleton 0) (fun _ => Iff.rfl)
    · apply openReaders_follows _ (Nat.zero_add _) hpos
      constructor
      · exact hreturns
      · rfl
      · exact List.nodup_nil
      · intro c hc
        cases hc
      · intro conn hconn
        rw [List.mem_singleton.mp hconn]
        exact ⟨Connection.configured_serviceable _ _ _, by
          simp [Connection.configured]⟩

end Order

/-- An SQLite that does everything, on a file that has had its one script. -/
def calmSqlite (_ : Unit) :
    (c : OpenCommand Nat) -> Unit × OpenResponse c
  | .openConnection _ _ => ((), .ok ())
  | .configure _ _ => ((), .ok ())
  | .statementCache _ _ => ((), ())
  | .migrate _ .userVersion => ((), .ok 1)
  | .migrate _ .beginExclusive => ((), .ok ())
  | .migrate _ (.executeBatch _) => ((), .ok ())
  | .migrate _ (.setUserVersion _) => ((), .ok ())
  | .migrate _ .commit => ((), .ok ())
  | .migrate _ .rollback => ((), ())
  | .close _ => ((), ())

/-- The engine's own configuration where three threads can run. -/
def threeReaders : DatabaseConfig :=
  engineDatabaseConfig
    { dbPath := "/data/valqeron.db"
      socketPath := "/data/valqeron.sock"
      logFile := none
      durable := false }
    (some 3)

end Sqlite
end Valqeron
