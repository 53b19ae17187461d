import Valqeron.Foundation.Program
import Valqeron.Sqlite.Schema

/-!
# Schema migrations

A binary comes with a list of scripts, and the `user_version` of a database file
says how many of them the file has had.  Opening the file executes the others,
each in an exclusive transaction of its own that also sets the new version.

A script is whatever it does to the content of a database.  It neither opens nor
ends a transaction; when it fails it may have done a part of its work.
-/

namespace Valqeron
namespace Sqlite

open Foundation

inductive SqliteError where
  | migration (source : SqlError)
  | unknownSchemaVersion (found : Int) (known : Nat)
deriving DecidableEq, Repr

/--
The scripts of a binary, in order.  They are static data of it, far fewer than the
32-bit `user_version` of a file can number.
-/
structure Migrations (script : Type) where
  scripts : List script
  fits : scripts.length < 2 ^ 31

structure DatabaseFile (content : Type) where
  userVersion : Int
  content : content
deriving DecidableEq, Repr

inductive MigrationCommand (script : Type) where
  | userVersion
  | beginExclusive
  | executeBatch (sql : script)
  | setUserVersion (v : Int)
  | commit
  /-- A transaction goes out of scope that was not committed. -/
  | rollback

section Programs

variable {script : Type}

def MigrationResponse : MigrationCommand script -> Type
  | .userVersion => Except SqlError Int
  | .beginExclusive => Except SqlError Unit
  | .executeBatch _ => Except SqlError Unit
  | .setUserVersion _ => Except SqlError Unit
  | .commit => Except SqlError Unit
  | .rollback => Unit

abbrev MigrationProgram (script : Type) :=
  Program (MigrationCommand script) MigrationResponse
    (Except SqliteError Unit)

/-- `usize::try_from(v).unwrap_or(usize::MAX)` -/
def usizeOrMax (v : Int) : Nat :=
  if 0 <= v then v.toNat else 2 ^ 64 - 1

/-- `i64::try_from(index.saturating_add(1)).unwrap_or(i64::MAX)` -/
def migrationVersion (index : Nat) : Int :=
  if min (index + 1) (2 ^ 64 - 1) < 2 ^ 63 then
    (min (index + 1) (2 ^ 64 - 1) : Nat)
  else
    2 ^ 63 - 1

/-- A fallible call inside the transaction has failed. -/
def abandonMigration (e : SqlError) : MigrationProgram script :=
  .call .rollback (fun _ => .done (.error (.migration e)))

/-- One script in its transaction, and what comes after it. -/
def migrate (sql : script) (version : Int) (rest : MigrationProgram script) :
    MigrationProgram script :=
  .call .beginExclusive (fun
    | .error e => .done (.error (.migration e))
    | .ok _ => .call (.executeBatch sql) (fun
      | .error e => abandonMigration e
      | .ok _ => .call (.setUserVersion version) (fun
        | .error e => abandonMigration e
        | .ok _ => .call .commit (fun
          | .error e => abandonMigration e
          | .ok _ => rest))))

/-- The loop over the scripts from an index on. -/
def runScripts (currentVersion : Int) :
    Nat -> List script -> MigrationProgram script
  | _, [] => .done (.ok ())
  | index, sql :: rest =>
      if migrationVersion index <= currentVersion then
        runScripts currentVersion (index + 1) rest
      else
        migrate sql (migrationVersion index)
          (runScripts currentVersion (index + 1) rest)

def Migrations.run (m : Migrations script) : MigrationProgram script :=
  .call .userVersion (fun
    | .error e => .done (.error (.migration e))
    | .ok currentVersion =>
        if m.scripts.length < usizeOrMax currentVersion then
          .done (.error
            (.unknownSchemaVersion currentVersion m.scripts.length))
        else
          runScripts currentVersion 0 m.scripts)

/-!
## What a run asks for

The phase of a run says which command comes next, and from the phase `ready n` on
the next script is the one with index `n`.
-/

inductive MigrationPhase where
  | unread
  | ready (n : Nat)
  | begun (n : Nat)
  | executed (n : Nat)
  | numbered (n : Nat)
  | failing
  | ended
deriving DecidableEq, Repr

def MigrationPhase.position : MigrationPhase -> Option Nat
  | ready n => some n
  | begun n => some n
  | executed n => some n
  | numbered n => some n
  | _ => none

namespace Migrations

def allowed (m : Migrations script) :
    MigrationPhase -> MigrationCommand script -> Prop
  | .unread, .userVersion => True
  | .ready n, .beginExclusive => n < m.scripts.length
  | .begun n, .executeBatch sql => m.scripts[n]? = some sql
  | .executed n, .setUserVersion v => v = n + 1
  | .numbered _, .commit => True
  | .failing, .rollback => True
  | _, _ => False

def advance (m : Migrations script) :
    MigrationPhase -> (c : MigrationCommand script) -> MigrationResponse c ->
      MigrationPhase
  | .unread, .userVersion, .ok v =>
      if 0 <= v ∧ v <= m.scripts.length then .ready v.toNat else .ended
  | .ready n, .beginExclusive, .ok _ => .begun n
  | .begun n, .executeBatch _, .ok _ => .executed n
  | .executed n, .setUserVersion _, .ok _ => .numbered n
  | .numbered n, .commit, .ok _ => .ready (n + 1)
  | .begun _, .executeBatch _, .error _ => .failing
  | .executed _, .setUserVersion _, .error _ => .failing
  | .numbered _, .commit, .error _ => .failing
  | _, _, _ => .ended

def protocol (m : Migrations script) :
    Protocol (MigrationCommand script) MigrationResponse MigrationPhase where
  allowed := m.allowed
  possible := fun _ _ => True
  advance := m.advance

/-- A run that returns `Ok` has come past the last script. -/
def Returns (m : Migrations script) (g : MigrationPhase) :
    Except SqliteError Unit -> Prop
  | .ok _ => g = .ready m.scripts.length
  | .error _ => g = .ended

theorem version_of_lt (m : Migrations script) {index : Nat}
    (h : index < m.scripts.length) : migrationVersion index = index + 1 := by
  have hfits := m.fits
  unfold migrationVersion
  have hmin : min (index + 1) (2 ^ 64 - 1) = index + 1 := by omega
  rw [hmin, if_pos (by omega)]
  rfl

theorem usizeOrMax_le_iff (m : Migrations script) (v : Int) :
    ¬ m.scripts.length < usizeOrMax v <->
      0 <= v ∧ v <= m.scripts.length := by
  have hfits := m.fits
  unfold usizeOrMax
  split <;> omega

theorem abandonMigration_follows (m : Migrations script) (e : SqlError) :
    (abandonMigration e).Follows m.protocol m.Returns .failing :=
  ⟨trivial, fun _ _ => rfl⟩

theorem migrate_follows (m : Migrations script) {n : Nat} {sql : script}
    {version : Int} {rest : MigrationProgram script}
    (hsql : m.scripts[n]? = some sql) (hversion : version = n + 1)
    (hrest : rest.Follows m.protocol m.Returns (.ready (n + 1))) :
    (migrate sql version rest).Follows m.protocol m.Returns (.ready n) := by
  rcases List.getElem?_eq_some_iff.mp hsql with ⟨hlt, _⟩
  refine ⟨hlt, ?_⟩
  intro h _
  rcases h with e | _
  · rfl
  refine ⟨hsql, ?_⟩
  intro h _
  rcases h with e | _
  · exact m.abandonMigration_follows e
  refine ⟨hversion, ?_⟩
  intro h _
  rcases h with e | _
  · exact m.abandonMigration_follows e
  refine ⟨trivial, ?_⟩
  intro h _
  rcases h with e | _
  · exact m.abandonMigration_follows e
  · exact hrest

theorem runScripts_follows (m : Migrations script) {v : Nat}
    (hv : v <= m.scripts.length) (rest : List script) {index : Nat}
    (hindex : index <= m.scripts.length)
    (hrest : m.scripts.drop index = rest) :
    (runScripts v index rest).Follows m.protocol m.Returns
      (.ready (max index v)) := by
  induction rest generalizing index with
  | nil =>
      have hlen : m.scripts.length <= index := List.drop_eq_nil_iff.mp hrest
      have hmax : max index v = m.scripts.length := by omega
      rw [hmax]
      rfl
  | cons sql rest ih =>
      have hlt : index < m.scripts.length := by
        rw [← List.drop_eq_nil_iff.not.trans Nat.not_le, hrest]
        simp
      have hsql : m.scripts[index]? = some sql := by
        rw [← List.head?_drop, hrest]
        rfl
      have hnext := ih (Nat.succ_le_of_lt hlt) (by
        rw [← List.tail_drop, hrest]
        rfl)
      have hversion := m.version_of_lt hlt
      unfold runScripts
      split
      · rename_i hskip
        have hmax : max index v = max (index + 1) v := by omega
        rw [hmax]
        exact hnext
      · rename_i hdue
        have hmax : max index v = index := by omega
        have hmax' : max (index + 1) v = index + 1 := by omega
        rw [hmax]
        rw [hmax'] at hnext
        exact m.migrate_follows hsql hversion hnext

theorem run_follows (m : Migrations script) :
    m.run.Follows m.protocol m.Returns .unread := by
  refine ⟨trivial, ?_⟩
  intro h _
  rcases h with e | v
  · rfl
  · change Program.Follows m.protocol m.Returns
      (if 0 <= v ∧ v <= m.scripts.length then .ready v.toNat else .ended)
      (if m.scripts.length < usizeOrMax v then _ else _)
    have hiff := m.usizeOrMax_le_iff v
    split
    · rename_i hknown
      rw [if_neg (hiff.mpr hknown)]
      have hv : (v.toNat : Int) = v := Int.toNat_of_nonneg hknown.left
      have hscripts := m.runScripts_follows (v := v.toNat) (by omega)
        m.scripts (Nat.zero_le _) rfl
      rw [hv, Nat.zero_max] at hscripts
      exact hscripts
    · rename_i hunknown
      have hgt : m.scripts.length < usizeOrMax v := by
        by_contra hle
        exact hunknown (hiff.mp hle)
      rw [if_pos hgt]
      rfl

end Migrations

end Programs

/-!
## The connection

What a command does to the committed file and to the image of the transaction, if
one is open.  A command may fail, and then it has done nothing, apart from a
script, which may have changed the image.
-/

section Connections

variable {script content : Type}

abbrev Batch (script content : Type) :=
  script -> content -> content × Except SqlError Unit

/-- The content is the list of the scripts that were executed. -/
def logBatch {script : Type} : Batch script (List script) :=
  fun sql log => (log ++ [sql], .ok ())

structure MigrationFault (content : Type) where
  error : SqlError
  /-- What a script that fails so has made of the content. -/
  left : content

def MigrationCommand.serve (exec : Batch script content)
    (file : DatabaseFile content) (image : Option (DatabaseFile content)) :
    (c : MigrationCommand script) -> DatabaseFile content ×
      Option (DatabaseFile content) × MigrationResponse c
  | .userVersion => (file, image, .ok (image.getD file).userVersion)
  | .beginExclusive => (file, some file, .ok ())
  | .executeBatch sql =>
      match image with
      | none =>
          ({ file with content := (exec sql file.content).1 }, none,
            (exec sql file.content).2)
      | some image =>
          (file, some { image with content := (exec sql image.content).1 },
            (exec sql image.content).2)
  | .setUserVersion v =>
      match image with
      | none => ({ file with userVersion := v }, none, .ok ())
      | some image => (file, some { image with userVersion := v }, .ok ())
  | .commit => (image.getD file, none, .ok ())
  | .rollback => (file, none, ())

def MigrationCommand.refuse (fault : MigrationFault content)
    (file : DatabaseFile content) (image : Option (DatabaseFile content)) :
    (c : MigrationCommand script) -> DatabaseFile content ×
      Option (DatabaseFile content) × MigrationResponse c
  | .userVersion => (file, image, .error fault.error)
  | .beginExclusive => (file, image, .error fault.error)
  | .executeBatch _ =>
      (file, image.map (fun image => { image with content := fault.left }),
        .error fault.error)
  | .setUserVersion _ => (file, image, .error fault.error)
  | .commit => (file, image, .error fault.error)
  | .rollback => (file, none, ())

def MigrationCommand.answer (exec : Batch script content)
    (file : DatabaseFile content) (image : Option (DatabaseFile content))
    (c : MigrationCommand script) : Option (MigrationFault content) ->
      DatabaseFile content × Option (DatabaseFile content) ×
        MigrationResponse c
  | none => c.serve exec file image
  | some fault => c.refuse fault file image

/-- The image that a run in a phase has, given the committed file. -/
inductive InPhase (m : Migrations script) (exec : Batch script content)
    (file : DatabaseFile content) :
    MigrationPhase -> Option (DatabaseFile content) -> Prop where
  | unread : InPhase m exec file .unread none
  | ready (n : Nat) : InPhase m exec file (.ready n) none
  | begun (n : Nat) : InPhase m exec file (.begun n) (some file)
  | executed {n : Nat} {sql : script} {content' : content}
      (hsql : m.scripts[n]? = some sql)
      (hexec : exec sql file.content = (content', .ok ())) :
      InPhase m exec file (.executed n)
        (some { file with content := content' })
  | numbered {n : Nat} {sql : script} {content' : content}
      (hsql : m.scripts[n]? = some sql)
      (hexec : exec sql file.content = (content', .ok ())) :
      InPhase m exec file (.numbered n)
        (some { userVersion := n + 1, content := content' })
  | failing (image : DatabaseFile content) :
      InPhase m exec file .failing (some image)
  | ended : InPhase m exec file .ended none

def Migrations.Knows (m : Migrations script) (file : DatabaseFile content) :
    Prop :=
  0 <= file.userVersion ∧ file.userVersion <= m.scripts.length

/--
Only a commit changes the file, and it stores the next script's work together with
its number.
-/
inductive Answered (m : Migrations script) (exec : Batch script content)
    (file : DatabaseFile content) (g : MigrationPhase) :
    DatabaseFile content -> Option (DatabaseFile content) ->
      MigrationPhase -> Prop where
  | kept {image : Option (DatabaseFile content)} {g' : MigrationPhase}
      (hphase : InPhase m exec file g' image)
      (hposition : forall n, g'.position = some n ->
        g.position = some n ∨
          (m.Knows file ∧ (n : Int) = file.userVersion)) :
      Answered m exec file g file image g'
  | committed {n : Nat} {sql : script} {content' : content}
      (hg : g = .numbered n) (hsql : m.scripts[n]? = some sql)
      (hexec : exec sql file.content = (content', .ok ())) :
      Answered m exec file g
        { userVersion := n + 1, content := content' } none (.ready (n + 1))

namespace Migrations

variable {m : Migrations script} {exec : Batch script content}
variable {file : DatabaseFile content} {g : MigrationPhase}
variable {image : Option (DatabaseFile content)} {c : MigrationCommand script}

theorem answered_of_position {g' : MigrationPhase}
    {image' : Option (DatabaseFile content)}
    (hphase : InPhase m exec file g' image')
    (hposition : g'.position = none ∨ g'.position = g.position) :
    Answered m exec file g file image' g' := by
  apply Answered.kept hphase
  intro n hn
  left
  rcases hposition with hnone | hsame
  · rw [hnone] at hn
    cases hn
  · rw [← hsame]
    exact hn

theorem refuse_inPhase (fault : MigrationFault content)
    (hphase : InPhase m exec file g image) (hallowed : m.allowed g c) :
    (c.refuse fault file image).1 = file ∧
      InPhase m exec file (m.advance g c (c.refuse fault file image).2.2)
        (c.refuse fault file image).2.1 ∧
      (m.advance g c (c.refuse fault file image).2.2).position = none := by
  cases hphase with
  | unread =>
      cases c with
      | userVersion => exact ⟨rfl, .ended, rfl⟩
      | _ => exact hallowed.elim
  | ready n =>
      cases c with
      | beginExclusive => exact ⟨rfl, .ended, rfl⟩
      | _ => exact hallowed.elim
  | begun n =>
      cases c with
      | executeBatch sql => exact ⟨rfl, .failing _, rfl⟩
      | _ => exact hallowed.elim
  | executed hsql hexec =>
      cases c with
      | setUserVersion v => exact ⟨rfl, .failing _, rfl⟩
      | _ => exact hallowed.elim
  | numbered hsql hexec =>
      cases c with
      | commit => exact ⟨rfl, .failing _, rfl⟩
      | _ => exact hallowed.elim
  | failing image =>
      cases c with
      | rollback => exact ⟨rfl, .ended, rfl⟩
      | _ => exact hallowed.elim
  | ended => cases c <;> exact hallowed.elim

theorem userVersion_answered (m : Migrations script)
    (exec : Batch script content) (file : DatabaseFile content) :
    Answered m exec file .unread file none
      (m.advance .unread .userVersion (.ok file.userVersion)) := by
  change Answered m exec file .unread file none
    (if 0 <= file.userVersion ∧ file.userVersion <= m.scripts.length then
      .ready file.userVersion.toNat else .ended)
  split
  · rename_i hknown
    apply Answered.kept (.ready _)
    intro n hn
    cases hn
    exact Or.inr ⟨hknown, Int.toNat_of_nonneg hknown.left⟩
  · exact answered_of_position .ended (Or.inl rfl)

theorem serve_answered (hphase : InPhase m exec file g image)
    (hallowed : m.allowed g c) :
    Answered m exec file g (c.serve exec file image).1
      (c.serve exec file image).2.1
      (m.advance g c (c.serve exec file image).2.2) := by
  cases hphase with
  | unread =>
      cases c with
      | userVersion => exact m.userVersion_answered exec file
      | _ => exact hallowed.elim
  | ready n =>
      cases c with
      | beginExclusive => exact answered_of_position (.begun n) (Or.inr rfl)
      | _ => exact hallowed.elim
  | begun n =>
      cases c with
      | executeBatch sql =>
          unfold MigrationCommand.serve
          simp only
          cases hexec : exec sql file.content with
          | mk content' result =>
              cases result with
              | error e => exact answered_of_position (.failing _) (Or.inl rfl)
              | ok _ =>
                  exact answered_of_position (.executed hallowed hexec)
                    (Or.inr rfl)
      | _ => exact hallowed.elim
  | executed hsql hexec =>
      cases c with
      | setUserVersion v =>
          cases hallowed
          exact answered_of_position (.numbered hsql hexec) (Or.inr rfl)
      | _ => exact hallowed.elim
  | numbered hsql hexec =>
      cases c with
      | commit => exact .committed rfl hsql hexec
      | _ => exact hallowed.elim
  | failing image =>
      cases c with
      | rollback => exact answered_of_position .ended (Or.inl rfl)
      | _ => exact hallowed.elim
  | ended => cases c <;> exact hallowed.elim

theorem answer_answered (fault : Option (MigrationFault content))
    (hphase : InPhase m exec file g image) (hallowed : m.allowed g c) :
    Answered m exec file g (c.answer exec file image fault).1
      (c.answer exec file image fault).2.1
      (m.advance g c (c.answer exec file image fault).2.2) := by
  cases fault with
  | none => exact serve_answered hphase hallowed
  | some fault =>
      rcases refuse_inPhase fault hphase hallowed with ⟨hfile, hphase', hnone⟩
      change Answered m exec file g (c.refuse fault file image).1 _ _
      rw [hfile]
      exact answered_of_position hphase' (Or.inl hnone)

end Migrations

/-!
## What a file has had
-/

/-- Execute the scripts one after another; `none` when one of them fails. -/
def executeAll (exec : Batch script content) :
    List script -> content -> Option content
  | [], d => some d
  | sql :: rest, d =>
      match exec sql d with
      | (d', .ok _) => executeAll exec rest d'
      | (_, .error _) => none

theorem executeAll_cons_of_ok {exec : Batch script content} {sql : script}
    {d d' : content} (rest : List script) (h : exec sql d = (d', .ok ())) :
    executeAll exec (sql :: rest) d = executeAll exec rest d' := by
  rw [executeAll, h]

theorem executeAll_cons_some {exec : Batch script content} {sql : script}
    {rest : List script} {d last : content}
    (h : executeAll exec (sql :: rest) d = some last) :
    exists d', exec sql d = (d', .ok ()) ∧
      executeAll exec rest d' = some last := by
  rw [executeAll] at h
  split at h
  · rename_i d' _ hexec
    exact ⟨d', hexec, h⟩
  · cases h

theorem executeAll_append {exec : Batch script content}
    {first : List script} (second : List script) {d d' : content}
    (h : executeAll exec first d = some d') :
    executeAll exec (first ++ second) d = executeAll exec second d' := by
  induction first generalizing d with
  | nil =>
      cases h
      rfl
  | cons sql rest ih =>
      rcases executeAll_cons_some h with ⟨next, hexec, hrest⟩
      rw [List.cons_append, executeAll_cons_of_ok _ hexec]
      exact ih hrest

/--
The file is a former one on which the scripts between the two versions were
executed, each once and in order.  Where the former version is 0 these are the
first `user_version` scripts.
-/
def MigratedFrom (m : Migrations script) (exec : Batch script content)
    (start file : DatabaseFile content) : Prop :=
  exists v n : Nat, v <= n ∧ n <= m.scripts.length ∧
    start.userVersion = v ∧ file.userVersion = n ∧
    executeAll exec ((m.scripts.take n).drop v) start.content =
      some file.content

/-- The next script is executed, and the version says so. -/
def Commits (m : Migrations script) (exec : Batch script content)
    (file file' : DatabaseFile content) : Prop :=
  exists (n : Nat) (sql : script) (content' : content),
    file.userVersion = n ∧ m.scripts[n]? = some sql ∧
      exec sql file.content = (content', .ok ()) ∧
      file' = { userVersion := n + 1, content := content' }

theorem Commits.version_lt {m : Migrations script} {exec : Batch script content}
    {file file' : DatabaseFile content} (h : Commits m exec file file') :
    m.Knows file ∧ file.userVersion < m.scripts.length := by
  rcases h with ⟨n, sql, _, hn, hsql, _, _⟩
  rcases List.getElem?_eq_some_iff.mp hsql with ⟨hlt, _⟩
  refine ⟨⟨?_, ?_⟩, ?_⟩ <;> omega

namespace MigratedFrom

variable {m : Migrations script} {exec : Batch script content}
variable {start file : DatabaseFile content}

theorem refl (exec : Batch script content) (h : m.Knows file) :
    MigratedFrom m exec file file := by
  have hversion : file.userVersion = file.userVersion.toNat :=
    (Int.toNat_of_nonneg h.left).symm
  have hle := h.right
  refine ⟨_, _, Nat.le_refl _, by omega, hversion, hversion, ?_⟩
  rw [List.drop_eq_nil_of_le (List.length_take_le _ _)]
  rfl

theorem knows (h : MigratedFrom m exec start file) : m.Knows file := by
  rcases h with ⟨v, n, _, hn, _, hversion, _⟩
  constructor <;> omega

theorem executeAll_drop (h : MigratedFrom m exec start file) :
    executeAll exec (m.scripts.drop start.userVersion.toNat) start.content =
      executeAll exec (m.scripts.drop file.userVersion.toNat)
        file.content := by
  rcases h with ⟨v, n, hvn, hn, hstart, hversion, hcontent⟩
  have hsplit : m.scripts.drop v =
      (m.scripts.take n).drop v ++ m.scripts.drop n := by
    conv => lhs; rw [← List.take_append_drop n m.scripts]
    apply List.drop_append_of_le_length
    rw [List.length_take]
    omega
  rw [hstart, hversion, Int.toNat_natCast, Int.toNat_natCast, hsplit]
  exact executeAll_append _ hcontent

theorem next {file' : DatabaseFile content}
    (h : MigratedFrom m exec start file) (hnext : Commits m exec file file') :
    MigratedFrom m exec start file' := by
  rcases h with ⟨v, k, hvk, hk, hstart, hversion, hcontent⟩
  rcases hnext with ⟨n, sql, content', hn, hsql, hexec, hfile⟩
  have hkn : k = n := by omega
  subst hkn
  subst hfile
  rcases List.getElem?_eq_some_iff.mp hsql with ⟨hlt, _⟩
  refine ⟨v, k + 1, by omega, hlt, hstart, by simp, ?_⟩
  have hlength : v <= (m.scripts.take k).length := by
    rw [List.length_take]
    omega
  rw [List.take_add_one, hsql, List.drop_append_of_le_length hlength,
    executeAll_append _ hcontent]
  exact executeAll_cons_of_ok [] hexec

end MigratedFrom

/-!
## One process that opens the file

The plan of an attempt says how each of its commands fares; commands behind the
end of the plan work.  What the process had not committed when it crashes is gone.
-/

inductive Fate (content : Type) where
  | served
  | refused (fault : MigrationFault content)
  | crashed

structure Process (content : Type) where
  file : DatabaseFile content
  image : Option (DatabaseFile content)
  running : Bool
  plan : List (Fate content)

/-- A process that is gone hears nothing; the error stands for that. -/
def Process.deaf (p : Process content) (c : MigrationCommand script) :
    Process content × MigrationResponse c :=
  (p, (c.refuse { error := .other "", left := p.file.content } p.file none).2.2)

def Process.hear (exec : Batch script content) (p : Process content)
    (c : MigrationCommand script) (fault : Option (MigrationFault content)) :
    Process content × MigrationResponse c :=
  let r := c.answer exec p.file p.image fault
  ({ p with file := r.1, image := r.2.1, plan := p.plan.tail }, r.2.2)

def Process.command (exec : Batch script content) (p : Process content)
    (c : MigrationCommand script) : Process content × MigrationResponse c :=
  if p.running then
    match p.plan.head? with
    | none => p.hear exec c none
    | some .served => p.hear exec c none
    | some (.refused fault) => p.hear exec c (some fault)
    | some .crashed =>
        { p with image := none, running := false }.deaf c
  else
    p.deaf c

/-- The file after an attempt, and what `run` returned unless it crashed. -/
def runAttempt (m : Migrations script) (exec : Batch script content)
    (plan : List (Fate content)) (file : DatabaseFile content) :
    DatabaseFile content × Option (Except SqliteError Unit) :=
  let r := m.run.run (Process.command exec)
    { file := file, image := none, running := true, plan := plan }
  (r.1.file, if r.1.running then some r.2 else none)

/-- Attempts one after another, each on the file that the last one left. -/
def runAttempts (m : Migrations script) (exec : Batch script content)
    (plans : List (List (Fate content))) (file : DatabaseFile content) :
    DatabaseFile content :=
  plans.foldl (fun file plan => (runAttempt m exec plan file).1) file

section Attempts

variable {m : Migrations script} {exec : Batch script content}

theorem Process.command_cases (exec : Batch script content)
    (p : Process content) (c : MigrationCommand script) :
    (p.running = true ∧ exists fault, p.command exec c = p.hear exec c fault) ∨
      ((p.command exec c).1.running = false ∧
        (p.command exec c).1.file = p.file) := by
  unfold Process.command
  split
  · rename_i hrunning
    split
    · exact Or.inl ⟨hrunning, none, rfl⟩
    · exact Or.inl ⟨hrunning, none, rfl⟩
    · exact Or.inl ⟨hrunning, some _, rfl⟩
    · exact Or.inr ⟨rfl, rfl⟩
  · rename_i hgone
    exact Or.inr ⟨Bool.eq_false_iff.mpr hgone, rfl⟩

/-- The only process on a file knows its version exactly. -/
def Process.AtPhase (m : Migrations script) (exec : Batch script content)
    (g : MigrationPhase) (p : Process content) : Prop :=
  p.running = true ->
    InPhase m exec p.file g p.image ∧
      forall n, g.position = some n ->
        m.Knows p.file ∧ (n : Int) = p.file.userVersion

theorem Process.hear_atPhase {g : MigrationPhase} {p : Process content}
    {c : MigrationCommand script} (fault : Option (MigrationFault content))
    (hrunning : p.running = true) (hp : p.AtPhase m exec g)
    (hallowed : m.allowed g c) :
    (p.hear exec c fault).1.AtPhase m exec
      (m.advance g c (p.hear exec c fault).2) ∧
    ((p.hear exec c fault).1.file = p.file ∨
      Commits m exec p.file (p.hear exec c fault).1.file) := by
  rcases hp hrunning with ⟨hphase, hposition⟩
  have hanswered := Migrations.answer_answered fault hphase hallowed
  unfold Process.hear
  generalize c.answer exec p.file p.image fault = r at *
  rcases r with ⟨file, image, response⟩
  simp only at hanswered ⊢
  generalize m.advance g c response = g' at *
  cases hanswered with
  | kept hphase' hposition' =>
      refine ⟨fun _ => ⟨hphase', ?_⟩, Or.inl rfl⟩
      intro n hn
      rcases hposition' n hn with hbefore | hread
      · exact hposition n hbefore
      · exact hread
  | @committed n sql content' hg hsql hexec =>
      have hn : (n : Int) = p.file.userVersion :=
        (hposition n (by rw [hg]; rfl)).right
      refine ⟨fun _ => ⟨.ready _, ?_⟩,
        Or.inr ⟨n, sql, content', hn.symm, hsql, hexec, rfl⟩⟩
      intro k hk
      cases hk
      rcases List.getElem?_eq_some_iff.mp hsql with ⟨hlt, _⟩
      refine ⟨⟨?_, ?_⟩, by simp⟩ <;> simp only <;> omega

theorem Process.start_atPhase (m : Migrations script)
    (exec : Batch script content) (file : DatabaseFile content)
    (plan : List (Fate content)) :
    Process.AtPhase m exec .unread
      { file := file, image := none, running := true, plan := plan } := by
  intro _
  refine ⟨.unread, ?_⟩
  intro n hn
  cases hn

/--
An attempt that has not crashed ends in a phase that its result tells, and its file
has what every commit of a next script keeps.
-/
theorem runAttempt_ends (Inv : DatabaseFile content -> Prop)
    (hnext : forall file file', Inv file -> Commits m exec file file' ->
      Inv file')
    {file : DatabaseFile content} (hfile : Inv file)
    (plan : List (Fate content)) :
    Inv (runAttempt m exec plan file).1 ∧
      forall r, (runAttempt m exec plan file).2 = some r ->
        exists g, m.Returns g r ∧ forall n, g.position = some n ->
          m.Knows (runAttempt m exec plan file).1 ∧
            (n : Int) = (runAttempt m exec plan file).1.userVersion := by
  have hrun := Program.run_follows (Process.command exec)
    (fun g p => Inv p.file ∧ p.AtPhase m exec g) (by
      intro g p c hp hallowed
      refine ⟨trivial, ?_⟩
      rcases p.command_cases exec c with
        ⟨hrunning, fault, hcommand⟩ | ⟨hgone, hsame⟩
      · rw [hcommand]
        have hafter := p.hear_atPhase fault hrunning hp.right hallowed
        refine ⟨?_, hafter.left⟩
        rcases hafter.right with hsame | hcommits
        · rw [hsame]
          exact hp.left
        · exact hnext _ _ hp.left hcommits
      · rw [hsame]
        refine ⟨hp.left, ?_⟩
        intro hrunning
        rw [hgone] at hrunning
        cases hrunning)
    ⟨hfile, Process.start_atPhase m exec file plan⟩ m.run_follows
  rcases hrun with ⟨g, hreturns, hinv, hatPhase⟩
  refine ⟨hinv, ?_⟩
  intro r hr
  unfold runAttempt at hr ⊢
  simp only at hr ⊢
  split at hr
  · rename_i hrunning
    cases hr
    exact ⟨g, hreturns, (hatPhase hrunning).right⟩
  · cases hr

theorem runAttempt_migrated {start file : DatabaseFile content}
    (h : MigratedFrom m exec start file) (plan : List (Fate content)) :
    MigratedFrom m exec start (runAttempt m exec plan file).1 :=
  (runAttempt_ends _ (fun _ _ => MigratedFrom.next) h plan).left

theorem runAttempts_migrated {start file : DatabaseFile content}
    (h : MigratedFrom m exec start file)
    (plans : List (List (Fate content))) :
    MigratedFrom m exec start (runAttempts m exec plans file) := by
  induction plans generalizing file with
  | nil => exact h
  | cons plan rest ih => exact ih (runAttempt_migrated h plan)

theorem runAttempt_unchanged (exec : Batch script content)
    {file : DatabaseFile content} (h : m.Knows file -> file.userVersion = m.scripts.length)
    (plan : List (Fate content)) : (runAttempt m exec plan file).1 = file := by
  refine (runAttempt_ends (fun f => f = file) ?_ rfl plan).left
  intro f f' hf hcommits
  subst hf
  rcases hcommits.version_lt with ⟨hknows, hlt⟩
  have := h hknows
  omega

theorem runAttempt_unknown (exec : Batch script content)
    {file : DatabaseFile content} (h : ¬ m.Knows file) (plan : List (Fate content)) :
    (runAttempt m exec plan file).1 = file ∧
      (runAttempt m exec plan file).2 ≠ some (.ok ()) := by
  have hsame := runAttempt_unchanged exec (fun hknows => (h hknows).elim) plan
  refine ⟨hsame, ?_⟩
  intro hok
  have hends :=
    (runAttempt_ends (fun _ => True) (fun _ _ _ _ => trivial) trivial
      plan).right _ hok
  rcases hends with ⟨g, hreturns, hposition⟩
  rw [hreturns, hsame] at hposition
  exact h (hposition _ rfl).left

def MigrationPhase.healthy : MigrationPhase -> Bool
  | failing => false
  | ended => false
  | _ => true

theorem Migrations.serve_healthy {file : DatabaseFile content}
    {g : MigrationPhase} {image : Option (DatabaseFile content)}
    {c : MigrationCommand script} (hknows : m.Knows file)
    (hworks : forall n sql, g.position = some n -> m.scripts[n]? = some sql ->
      exists content', exec sql file.content = (content', .ok ()))
    (hphase : InPhase m exec file g image) (hallowed : m.allowed g c)
    (hhealthy : g.healthy = true) :
    (m.advance g c (c.serve exec file image).2.2).healthy = true := by
  cases hphase with
  | unread =>
      cases c with
      | userVersion =>
          have hready : m.advance .unread .userVersion
              (.ok file.userVersion) = .ready file.userVersion.toNat :=
            if_pos hknows
          exact congrArg MigrationPhase.healthy hready
      | _ => exact hallowed.elim
  | ready n =>
      cases c with
      | beginExclusive => rfl
      | _ => exact hallowed.elim
  | begun n =>
      cases c with
      | executeBatch sql =>
          rcases hworks n sql rfl hallowed with ⟨content', hexec⟩
          unfold MigrationCommand.serve
          simp only [hexec]
          rfl
      | _ => exact hallowed.elim
  | executed hsql hexec =>
      cases c with
      | setUserVersion v => rfl
      | _ => exact hallowed.elim
  | numbered hsql hexec =>
      cases c with
      | commit => rfl
      | _ => exact hallowed.elim
  | failing image => cases hhealthy
  | ended => cases hhealthy

theorem MigratedFrom.script_works {start file : DatabaseFile content}
    {last : content} (h : MigratedFrom m exec start file)
    (hlast : executeAll exec (m.scripts.drop start.userVersion.toNat)
      start.content = some last) {n : Nat} {sql : script}
    (hn : (n : Int) = file.userVersion) (hsql : m.scripts[n]? = some sql) :
    exists content', exec sql file.content = (content', .ok ()) := by
  rcases List.getElem?_eq_some_iff.mp hsql with ⟨hlt, hget⟩
  rw [h.executeAll_drop, ← hn, Int.toNat_natCast,
    List.drop_eq_getElem_cons hlt, hget] at hlast
  rcases executeAll_cons_some hlast with ⟨content', hexec, _⟩
  exact ⟨content', hexec⟩

theorem runAttempt_works {file : DatabaseFile content} {last : content}
    (hknows : m.Knows file)
    (hlast : executeAll exec (m.scripts.drop file.userVersion.toNat)
      file.content = some last) :
    runAttempt m exec [] file =
      ({ userVersion := m.scripts.length, content := last },
        some (.ok ())) := by
  have hrun := Program.run_follows (Process.command exec)
    (fun g p => p.running = true ∧ p.plan = [] ∧ g.healthy = true ∧
      MigratedFrom m exec file p.file ∧ p.AtPhase m exec g) (by
      intro g p c h hallowed
      rcases h with ⟨hrunning, hplan, hhealthy, hmigrated, hatPhase⟩
      have hserved : p.command exec c = p.hear exec c none := by
        unfold Process.command
        rw [if_pos hrunning, hplan]
        rfl
      have hafter := p.hear_atPhase none hrunning hatPhase hallowed
      refine ⟨trivial, ?_⟩
      rw [hserved]
      refine ⟨hrunning, ?_, ?_, ?_, hafter.left⟩
      · change p.plan.tail = []
        rw [hplan]
        rfl
      · rcases hatPhase hrunning with ⟨hphase, hposition⟩
        refine Migrations.serve_healthy hmigrated.knows ?_ hphase hallowed
          hhealthy
        intro n sql hn hsql
        exact hmigrated.script_works hlast (hposition n hn).right hsql
      · rcases hafter.right with hsame | hcommits
        · rw [hsame]
          exact hmigrated
        · exact hmigrated.next hcommits)
    ⟨rfl, rfl, rfl, MigratedFrom.refl exec hknows,
      Process.start_atPhase m exec file []⟩ m.run_follows
  rcases hrun with
    ⟨g, hreturns, hrunning, _, hhealthy, hmigrated, hatPhase⟩
  unfold runAttempt
  simp only
  rw [if_pos hrunning]
  generalize m.run.run (Process.command exec) _ = r at *
  rcases r with ⟨p, result⟩
  cases result with
  | error e =>
      rw [hreturns] at hhealthy
      cases hhealthy
  | ok _ =>
      rw [hreturns] at hatPhase
      have hversion := ((hatPhase hrunning).right _ rfl).right
      rw [hmigrated.executeAll_drop, ← hversion, Int.toNat_natCast,
        List.drop_length] at hlast
      rcases p with ⟨⟨v, content'⟩, image, running, plan⟩
      cases hlast
      simp only at hversion ⊢
      rw [hversion]

/-- An unknown version is reported before anything else is done. -/
theorem runAttempt_unknown_error {file : DatabaseFile content}
    (h : ¬ m.Knows file) :
    (runAttempt m exec [] file).2 =
      some (.error
        (.unknownSchemaVersion file.userVersion m.scripts.length)) := by
  have hgt : m.scripts.length < usizeOrMax file.userVersion := by
    by_contra hle
    exact h ((m.usizeOrMax_le_iff _).mp hle)
  unfold runAttempt Migrations.run
  simp [Process.command, Process.hear, MigrationCommand.answer,
    MigrationCommand.serve, if_pos hgt]

end Attempts

/--
Whatever the scripts and the content are, and however often an attempt fails or
crashes, a file has had the scripts up to its version, and a last attempt whose
scripts work brings it to the end of the list.
-/
theorem run_atomicAndResumable (m : Migrations script)
    (exec : Batch script content) :
    (forall (file : DatabaseFile content) plans, m.Knows file ->
      MigratedFrom m exec file (runAttempts m exec plans file) ∧
        forall start, MigratedFrom m exec start file ->
          MigratedFrom m exec start (runAttempts m exec plans file)) ∧
    (forall (file : DatabaseFile content) plans last, m.Knows file ->
      executeAll exec (m.scripts.drop file.userVersion.toNat)
          file.content = some last ->
        runAttempt m exec [] (runAttempts m exec plans file) =
          ({ userVersion := m.scripts.length, content := last },
            some (.ok ()))) ∧
    (forall (file : DatabaseFile content) plan,
      file.userVersion = m.scripts.length ->
        (runAttempt m exec plan file).1 = file) ∧
    (forall (file : DatabaseFile content) plan, ¬ m.Knows file ->
      (runAttempt m exec plan file).1 = file ∧
        (runAttempt m exec plan file).2 ≠ some (.ok ()) ∧
        (runAttempt m exec [] file).2 =
          some (.error
            (.unknownSchemaVersion file.userVersion m.scripts.length))) := by
  refine ⟨?_, ?_, ?_, ?_⟩
  · intro file plans hknows
    constructor
    · exact runAttempts_migrated (MigratedFrom.refl exec hknows) plans
    · intro start hstart
      exact runAttempts_migrated hstart plans
  · intro file plans last hknows hlast
    have hmigrated := runAttempts_migrated (MigratedFrom.refl exec hknows) plans
    rw [hmigrated.executeAll_drop] at hlast
    exact runAttempt_works hmigrated.knows hlast
  · intro file plan hlast
    exact runAttempt_unchanged exec (fun _ => hlast) plan
  · intro file plan hunknown
    rcases runAttempt_unknown exec hunknown plan with ⟨hsame, herror⟩
    exact ⟨hsame, herror, runAttempt_unknown_error hunknown⟩

def threeScripts : Migrations Nat where
  scripts := [1, 2, 3]
  fits := by decide

/-- One attempt crashes in its second transaction, the next one fails in its own. -/
def failingPlans : List (List (Fate (List Nat))) :=
  [[.served, .served, .served, .served, .served, .served, .served, .crashed],
    [.served, .served, .refused { error := .busy, left := [7] }]]

theorem run_atomicAndResumable_failingPlans :
    runAttempts threeScripts logBatch failingPlans
        { userVersion := 0, content := [] } =
      { userVersion := 1, content := [1] } ∧
    runAttempt threeScripts logBatch []
        (runAttempts threeScripts logBatch failingPlans
          { userVersion := 0, content := [] }) =
      ({ userVersion := 3, content := [1, 2, 3] }, some (.ok ())) := by
  constructor
  · decide +kernel
  · exact (run_atomicAndResumable threeScripts logBatch).2.1 _ _ _
      ⟨by decide, by decide⟩ rfl

end Connections

end Sqlite
end Valqeron
