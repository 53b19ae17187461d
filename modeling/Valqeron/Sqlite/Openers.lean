import Valqeron.Foundation.Transition
import Valqeron.Sqlite.Migrations

/-!
# Processes that open one file

Any number of processes run the migrations of one database file, command by
command in any order.  While one of them has its exclusive transaction open the
others cannot begin theirs; they wait, or give up with an error.
-/

namespace Valqeron
namespace Sqlite

open Foundation

section Openers

variable {script content : Type}

structure Opener (script content : Type) where
  /-- What is left of `run`; a process that has crashed has nothing left. -/
  rest : Option (MigrationProgram script)
  /-- The image of its exclusive transaction, while that is open. -/
  image : Option (DatabaseFile content)

def Opener.inTransaction (o : Opener script content) : Bool :=
  o.image.isSome

def Opener.returned (o : Opener script content) :
    Option (Except SqliteError Unit) :=
  match o.rest with
  | some (.done r) => some r
  | _ => none

/-- The image that the next command of the process commits. -/
def Opener.committing (o : Opener script content) :
    Option (DatabaseFile content) :=
  match o.rest with
  | some (.call .commit _) => o.image
  | _ => none

structure Openers (script content : Type) where
  file : DatabaseFile content
  openers : List (Opener script content)

def Openers.start (file : DatabaseFile content) : Openers script content where
  file := file
  openers := []

inductive OpenerAction (content : Type) where
  /-- Another process opens the file. -/
  | enter
  | next (i : Nat) (fault : Option (MigrationFault content))
  | crash (i : Nat)

/-- An exclusive transaction has to wait for the one that is open. -/
def Openers.blocks (s : Openers script content) :
    MigrationCommand script -> Option (MigrationFault content) -> Bool
  | .beginExclusive, none => s.openers.any Opener.inTransaction
  | _, _ => false

def openerStep (m : Migrations script) (exec : Batch script content)
    (s : Openers script content) :
    OpenerAction content -> Option (Openers script content)
  | .enter =>
      some
        { s with
          openers := s.openers ++ [{ rest := some m.run, image := none }] }
  | .next i fault =>
      match s.openers[i]? with
      | none => none
      | some o =>
          match o.rest with
          | none => none
          | some (.done _) => none
          | some (.call c next) =>
              if s.blocks c fault then
                none
              else
                let r := c.answer exec s.file o.image fault
                some
                  { file := r.1
                    openers := s.openers.set i
                      { rest := some (next r.2.2), image := r.2.1 } }
  | .crash i =>
      match s.openers[i]? with
      | none => none
      | some _ =>
          some
            { s with
              openers := s.openers.set i { rest := none, image := none } }

def Openers.committedBy (s : Openers script content) :
    OpenerAction content -> Option (DatabaseFile content)
  | .next i none => (s.openers[i]?).bind Opener.committing
  | _ => none

/-- What is committed next follows the version that is stored. -/
def Openers.CommitsNext (s : Openers script content)
    (a : OpenerAction content) : Prop :=
  forall image, image ∈ s.committedBy a ->
    image.userVersion = s.file.userVersion + 1

instance (s : Openers script content) (a : OpenerAction content) :
    Decidable (s.CommitsNext a) :=
  inferInstanceAs (Decidable (forall image, image ∈ s.committedBy a -> _))

/--
In every state of the run each script up to the version was executed once and in
order, no earlier state has a higher version, and where some process has returned
`Ok` the version is that of the last script.
-/
def MigratesOnce (m : Migrations script) (exec : Batch script content)
    (start : DatabaseFile content) (acts : List (OpenerAction content)) : Prop :=
  forall past t, past <+: acts ->
    runFrom (openerStep m exec) (Openers.start start) past = some t ->
      MigratedFrom m exec start t.file ∧
      (forall earlier u, earlier <+: past ->
        runFrom (openerStep m exec) (Openers.start start) earlier = some u ->
          u.file.userVersion <= t.file.userVersion) ∧
      (forall o, o ∈ t.openers -> o.returned = some (.ok ()) ->
        t.file.userVersion = m.scripts.length)

/-!
## What a step does

The invariant keeps the phase of every process, with a property of its position
that a caller chooses.
-/

def Opener.InRun (m : Migrations script) (exec : Batch script content)
    (file : DatabaseFile content) (known : Nat -> Prop)
    (o : Opener script content) : Prop :=
  match o.rest with
  | none => o.image = none
  | some p => exists g, p.Follows m.protocol m.Returns g ∧
      InPhase m exec file g o.image ∧
        forall n, g.position = some n -> known n

structure Openers.Phased (m : Migrations script) (exec : Batch script content)
    (known : Nat -> Prop) (s : Openers script content) : Prop where
  opener : forall o, o ∈ s.openers -> o.InRun m exec s.file known
  alone : s.openers.countP Opener.inTransaction <= 1

variable {m : Migrations script} {exec : Batch script content}
variable {file : DatabaseFile content}

/-- Without a transaction of its own a process does not depend on the file. -/
theorem InPhase.of_none {g : MigrationPhase} (h : InPhase m exec file g none)
    (file' : DatabaseFile content) : InPhase m exec file' g none := by
  cases h with
  | unread => exact .unread
  | ready n => exact .ready n
  | ended => exact .ended

theorem Opener.InRun.of_outside {known known' : Nat -> Prop}
    {o : Opener script content} (h : o.InRun m exec file known)
    (hknown : forall n, known n -> known' n)
    (houtside : o.inTransaction = false) (file' : DatabaseFile content) :
    o.InRun m exec file' known' := by
  have hnone : o.image = none := by simpa [inTransaction] using houtside
  unfold InRun at h ⊢
  cases hrest : o.rest with
  | none => exact hnone
  | some p =>
      rw [hrest] at h
      rcases h with ⟨g, hfollows, hphase, hposition⟩
      rw [hnone] at hphase ⊢
      exact ⟨g, hfollows, hphase.of_none file',
        fun n hn => hknown n (hposition n hn)⟩

theorem answer_image {image : Option (DatabaseFile content)}
    {c : MigrationCommand script} {fault : Option (MigrationFault content)}
    (h : (c.answer exec file image fault).2.1.isSome = true) :
    image.isSome = true ∨ (c = .beginExclusive ∧ fault = none) := by
  cases fault with
  | none =>
      cases c with
      | beginExclusive => exact Or.inr ⟨rfl, rfl⟩
      | userVersion => exact Or.inl h
      | executeBatch sql =>
          cases image with
          | none => exact Or.inl h
          | some image => exact Or.inl rfl
      | setUserVersion v =>
          cases image with
          | none => exact Or.inl h
          | some image => exact Or.inl rfl
      | commit => cases h
      | rollback => cases h
  | some fault =>
      cases c with
      | executeBatch sql =>
          cases image with
          | none => exact Or.inl h
          | some image => exact Or.inl rfl
      | rollback => cases h
      | _ => exact Or.inl h

theorem Openers.alone_set {s : Openers script content} {i : Nat}
    {o o' : Opener script content} (hi : s.openers[i]? = some o)
    (halone : s.openers.countP Opener.inTransaction <= 1)
    (ho' : o'.inTransaction = true ->
      o.inTransaction = true ∨
        s.openers.any Opener.inTransaction = false) :
    (s.openers.set i o').countP Opener.inTransaction <= 1 := by
  have hcount := countP_set_of_getElem? (p := Opener.inTransaction) o' hi
  cases hin : o'.inTransaction with
  | false =>
      rw [hin, Bool.toNat_false] at hcount
      omega
  | true =>
      rw [hin, Bool.toNat_true] at hcount
      rcases ho' hin with hbefore | hfree
      · rw [hbefore, Bool.toNat_true] at hcount
        omega
      · have hzero : s.openers.countP Opener.inTransaction = 0 := by
          rw [List.countP_eq_zero]
          intro x hx
          exact List.any_eq_false.mp hfree x hx
        omega

theorem Openers.others_outside {s : Openers script content} {i j : Nat}
    {o x : Opener script content} (hi : s.openers[i]? = some o)
    (halone : s.openers.countP Opener.inTransaction <= 1)
    (hin : o.inTransaction = true) (hj : s.openers[j]? = some x)
    (hij : j ≠ i) : x.inTransaction = false := by
  cases hx : x.inTransaction with
  | false => rfl
  | true => exact (hij (index_unique_of_countP halone hj hi hx hin)).elim

/-- The process commits the script behind its position, with its number. -/
structure Opener.CommitsScript (m : Migrations script)
    (exec : Batch script content) (file file' : DatabaseFile content)
    (o : Opener script content) (n : Nat) : Prop where
  committing : o.committing = some file'
  version : file'.userVersion = n + 1
  script : exists sql, m.scripts[n]? = some sql ∧
    exec sql file.content = (file'.content, .ok ())

theorem Opener.CommitsScript.inTransaction {o : Opener script content}
    {file' : DatabaseFile content} {n : Nat}
    (h : o.CommitsScript m exec file file' n) : o.inTransaction = true := by
  have hcommitting := h.committing
  unfold Opener.committing at hcommitting
  unfold Opener.inTransaction
  split at hcommitting
  · rw [hcommitting]
    rfl
  · cases hcommitting

theorem Opener.commitsScript_of_answered {o : Opener script content}
    {c : MigrationCommand script} {n : Nat}
    {next : MigrationResponse c -> MigrationProgram script}
    (hrest : o.rest = some (.call c next))
    (hphase : InPhase m exec file (.numbered n) o.image)
    (hallowed : m.allowed (.numbered n) c) :
    o.CommitsScript m exec file (c.serve exec file o.image).1 n := by
  cases c with
  | commit =>
      have hcommitting : o.committing = o.image := by
        unfold Opener.committing
        rw [hrest]
      cases himage : o.image with
      | none =>
          rw [himage] at hphase
          cases hphase
      | some image =>
          rw [himage] at hphase hcommitting
          cases hphase with
          | numbered hsql hexec =>
              exact ⟨hcommitting, rfl, _, hsql, hexec⟩
  | _ => exact hallowed.elim

theorem Opener.inRun_next {known : Nat -> Prop} {g : MigrationPhase}
    {c : MigrationCommand script}
    {next : MigrationResponse c -> MigrationProgram script}
    {image : Option (DatabaseFile content)} {r : MigrationResponse c}
    (hfollows : (Program.call c next).Follows m.protocol m.Returns g)
    (hphase : InPhase m exec file (m.advance g c r) image)
    (hposition : forall n, (m.advance g c r).position = some n -> known n) :
    Opener.InRun m exec file known
      { rest := some (next r), image := image } :=
  ⟨_, hfollows.right r trivial, hphase, hposition⟩

theorem Openers.Phased.set {known : Nat -> Prop}
    {s : Openers script content} (hs : s.Phased m exec known) {i : Nat}
    {o' : Opener script content} (ho' : o'.InRun m exec s.file known)
    (halone : (s.openers.set i o').countP Opener.inTransaction <= 1) :
    Openers.Phased m exec known
      { file := s.file, openers := s.openers.set i o' } := by
  refine ⟨?_, halone⟩
  intro x hx
  rcases List.mem_or_eq_of_mem_set hx with hold | hnew
  · exact hs.opener x hold
  · rw [hnew]
    exact ho'

theorem Openers.Phased.set_file {known known' : Nat -> Prop}
    {s : Openers script content} (hs : s.Phased m exec known) {i : Nat}
    {o o' : Opener script content} {file' : DatabaseFile content}
    (hi : s.openers[i]? = some o) (hin : o.inTransaction = true)
    (ho' : o'.InRun m exec file' known')
    (halone : (s.openers.set i o').countP Opener.inTransaction <= 1)
    (hknown : forall n, known n -> known' n) :
    Openers.Phased m exec known'
      { file := file', openers := s.openers.set i o' } := by
  refine ⟨?_, halone⟩
  intro x hx
  rcases List.mem_iff_getElem?.mp hx with ⟨j, hj⟩
  rcases getElem?_set_cases hj with ⟨_, hnew⟩ | ⟨hij, hold⟩
  · rw [hnew]
    exact ho'
  · have houtside := Openers.others_outside hi hs.alone hin hold hij
    exact (hs.opener x (List.mem_of_getElem? hold)).of_outside hknown
      houtside file'

theorem Openers.Phased.enter {known : Nat -> Prop}
    {s : Openers script content} (hs : s.Phased m exec known) :
    Openers.Phased m exec known
      { file := s.file
        openers := s.openers ++ [{ rest := some m.run, image := none }] } := by
  constructor
  · intro o ho
    rcases List.mem_append.mp ho with hold | hnew
    · exact hs.opener o hold
    · rw [List.mem_singleton] at hnew
      subst hnew
      refine ⟨.unread, m.run_follows, .unread, ?_⟩
      intro n hn
      cases hn
  · have hone : [({ rest := some m.run, image := none } :
        Opener script content)].countP Opener.inTransaction = 0 := rfl
    rw [List.countP_append, hone]
    exact hs.alone

theorem Openers.Phased.crash {known : Nat -> Prop}
    {s : Openers script content} (hs : s.Phased m exec known) {i : Nat}
    {o : Opener script content} (hi : s.openers[i]? = some o) :
    Openers.Phased m exec known
      { file := s.file
        openers := s.openers.set i { rest := none, image := none } } :=
  hs.set rfl (Openers.alone_set hi hs.alone (fun h => by cases h))

theorem Openers.alone_answer {s : Openers script content} {i : Nat}
    {o o' : Opener script content} {c : MigrationCommand script}
    {fault : Option (MigrationFault content)}
    (hi : s.openers[i]? = some o)
    (halone : s.openers.countP Opener.inTransaction <= 1)
    (hfree : ¬ s.blocks c fault = true)
    (ho' : o'.image = (c.answer exec s.file o.image fault).2.1) :
    (s.openers.set i o').countP Opener.inTransaction <= 1 := by
  apply Openers.alone_set hi halone
  intro hin
  unfold Opener.inTransaction at hin
  rw [ho'] at hin
  rcases answer_image hin with hbefore | ⟨hc, hfault⟩
  · exact Or.inl hbefore
  · subst hc
    subst hfault
    exact Or.inr (by simpa [Openers.blocks] using hfree)

theorem Openers.Phased.refused {known : Nat -> Prop}
    {s : Openers script content} (hs : s.Phased m exec known) {i : Nat}
    {g : MigrationPhase} {c : MigrationCommand script}
    {next : MigrationResponse c -> MigrationProgram script}
    {image : Option (DatabaseFile content)} (fault : MigrationFault content)
    (hfollows : (Program.call c next).Follows m.protocol m.Returns g)
    (hphase : InPhase m exec s.file g image)
    (halone : forall o' : Opener script content,
      o'.image = (c.refuse fault s.file image).2.1 ->
      (s.openers.set i o').countP Opener.inTransaction <= 1) :
    (c.refuse fault s.file image).1 = s.file ∧
      Openers.Phased m exec known
        { file := (c.refuse fault s.file image).1
          openers := s.openers.set i
            { rest := some (next (c.refuse fault s.file image).2.2)
              image := (c.refuse fault s.file image).2.1 } } := by
  rcases Migrations.refuse_inPhase fault hphase hfollows.left with
    ⟨hfile, hphase', hnone⟩
  rw [hfile]
  refine ⟨rfl, hs.set ?_ (halone _ rfl)⟩
  apply Opener.inRun_next hfollows hphase'
  intro n hn
  rw [hnone] at hn
  cases hn

/--
A step leaves the file alone, or it is the commit of a script.  In both cases the
processes stay in their phases.
-/
theorem openerStep_phased {known : Nat -> Prop}
    {s s' : Openers script content} {a : OpenerAction content}
    (hs : s.Phased m exec known)
    (hread : forall n : Nat, m.Knows s.file -> n = s.file.userVersion ->
      known n)
    (hstep : openerStep m exec s a = some s') :
    (s'.file = s.file ∧ s'.Phased m exec known) ∨
      exists (o : Opener script content) (n : Nat),
        s.committedBy a = some s'.file ∧
        o.CommitsScript m exec s.file s'.file n ∧
        forall known' : Nat -> Prop, (forall k, known k -> known' k) ->
          known' (n + 1) -> s'.Phased m exec known' := by
  cases a with
  | enter =>
      cases hstep
      exact Or.inl ⟨rfl, hs.enter⟩
  | crash i =>
      unfold openerStep at hstep
      simp only at hstep
      split at hstep
      · cases hstep
      · rename_i o hi
        cases hstep
        exact Or.inl ⟨rfl, hs.crash hi⟩
  | next i fault =>
      unfold openerStep at hstep
      simp only at hstep
      split at hstep
      · cases hstep
      rename_i o hi
      split at hstep
      · cases hstep
      · cases hstep
      rename_i c next hrest
      split at hstep
      · cases hstep
      rename_i hfree
      cases hstep
      have ho := hs.opener o (List.mem_of_getElem? hi)
      unfold Opener.InRun at ho
      rw [hrest] at ho
      rcases ho with ⟨g, hfollows, hphase, hposition⟩
      have halone : forall o' : Opener script content,
          o'.image = (c.answer exec s.file o.image fault).2.1 ->
          (s.openers.set i o').countP Opener.inTransaction <= 1 :=
        fun _ ho' => Openers.alone_answer hi hs.alone hfree ho'
      cases fault with
      | some fault =>
          exact Or.inl (hs.refused fault hfollows hphase halone)
      | none =>
          have hanswered := Migrations.serve_answered hphase hfollows.left
          have hserved : forall n, g = .numbered n ->
              o.CommitsScript m exec s.file
                (c.serve exec s.file o.image).1 n := by
            intro n hg
            subst hg
            exact Opener.commitsScript_of_answered hrest hphase hfollows.left
          simp only [MigrationCommand.answer] at halone ⊢
          generalize c.serve exec s.file o.image = r at *
          rcases r with ⟨file', image', response⟩
          simp only at hanswered hserved halone ⊢
          generalize hafter : m.advance g c response = g' at hanswered
          cases hanswered with
          | kept hphase' hposition' =>
              refine Or.inl ⟨rfl, hs.set ?_ (halone _ rfl)⟩
              apply Opener.inRun_next hfollows
              · rw [hafter]
                exact hphase'
              · intro n hn
                rw [hafter] at hn
                rcases hposition' n hn with hbefore | ⟨hknows, hn'⟩
                · exact hposition n hbefore
                · exact hread n hknows hn'
          | @committed n sql content' hg hsql hexec =>
              right
              refine ⟨o, n, ?_, hserved n hg, ?_⟩
              · change (s.openers[i]?).bind Opener.committing = _
                rw [hi]
                exact (hserved n hg).committing
              intro known' hknown hnext
              apply hs.set_file hi (hserved n hg).inTransaction _
                (halone _ rfl) hknown
              apply Opener.inRun_next hfollows
              · rw [hafter]
                exact .ready (n + 1)
              · intro k hk
                rw [hafter] at hk
                cases hk
                exact hnext

/-!
## Runs that commit in order
-/

def Openers.InOrder (m : Migrations script) (exec : Batch script content)
    (start : DatabaseFile content) (s : Openers script content) : Prop :=
  MigratedFrom m exec start s.file ∧
    s.Phased m exec (fun n => (n : Int) <= s.file.userVersion)

theorem Openers.start_phased (m : Migrations script)
    (exec : Batch script content) (known : Nat -> Prop)
    (file : DatabaseFile content) :
    Openers.Phased m exec known (Openers.start file) := by
  refine ⟨?_, Nat.zero_le 1⟩
  intro o ho
  cases ho

theorem Opener.CommitsScript.commits {o : Opener script content}
    {file' : DatabaseFile content} {n : Nat}
    (h : o.CommitsScript m exec file file' n) (hn : file.userVersion = n) :
    Commits m exec file file' := by
  rcases h.script with ⟨sql, hsql, hexec⟩
  refine ⟨n, sql, file'.content, hn, hsql, hexec, ?_⟩
  rw [← h.version]

theorem Openers.InOrder.step {start : DatabaseFile content}
    {s s' : Openers script content} {a : OpenerAction content}
    (hs : s.InOrder m exec start) (hnext : s.CommitsNext a)
    (hstep : openerStep m exec s a = some s') :
    s'.InOrder m exec start ∧ s.file.userVersion <= s'.file.userVersion := by
  rcases openerStep_phased hs.right (fun n _ hn => hn.le) hstep with
    ⟨hfile, hphased⟩ | ⟨o, n, ha, hcommit, hphased⟩
  · unfold InOrder
    rw [hfile]
    exact ⟨⟨hs.left, hphased⟩, le_refl _⟩
  · have hversion := hcommit.version
    have hn : s.file.userVersion = n := by
      have := hnext _ ha
      omega
    refine ⟨⟨hs.left.next (hcommit.commits hn), ?_⟩, by omega⟩
    apply hphased
    · intro k hk
      omega
    · rw [hversion]
      simp

theorem migratesOnce_of_commitsNext {start : DatabaseFile content}
    (hknows : m.Knows start) {acts : List (OpenerAction content)}
    (hmeet : StepsMeet (openerStep m exec) Openers.CommitsNext
      (Openers.start start) acts) : MigratesOnce m exec start acts := by
  have hstart : Openers.InOrder m exec start (Openers.start start) :=
    ⟨MigratedFrom.refl exec hknows, Openers.start_phased m exec _ start⟩
  intro past t hpast hrun
  rcases hpast with ⟨future, hacts⟩
  rw [← hacts] at hmeet
  have hmeet' := (stepsMeet_append hmeet hrun).left
  have hin : t.InOrder m exec start :=
    runFrom_invariant_of_stepsMeet _ (fun hs hc hstep => (hs.step hc hstep).left)
      hstart hmeet' hrun
  refine ⟨hin.left, ?_, ?_⟩
  · intro earlier u h hu
    rcases h with ⟨rest, hrest⟩
    subst hrest
    rcases runFrom_append_some hrun with ⟨u', hfirst, hlast⟩
    rw [hu] at hfirst
    cases hfirst
    have hsplit := stepsMeet_append hmeet' hu
    have hmid : u.InOrder m exec start :=
      runFrom_invariant_of_stepsMeet _
        (fun hs hc hstep => (hs.step hc hstep).left) hstart hsplit.left hu
    have hlate := runFrom_invariant_of_stepsMeet
      (fun w => w.InOrder m exec start ∧
        u.file.userVersion <= w.file.userVersion)
      (fun hs hc hstep =>
        ⟨(hs.left.step hc hstep).left,
          hs.right.trans (hs.left.step hc hstep).right⟩)
      ⟨hmid, le_refl _⟩ hsplit.right hlast
    exact hlate.right
  · intro o ho hreturned
    have hrun := hin.right.opener o ho
    unfold Opener.InRun at hrun
    unfold Opener.returned at hreturned
    split at hreturned
    · rename_i r hrest
      cases hreturned
      rw [hrest] at hrun
      rcases hrun with ⟨g, hfollows, _, hposition⟩
      have hg : g = .ready m.scripts.length := hfollows
      have hle := hposition _ (by rw [hg]; rfl)
      have hge := hin.left.knows.right
      omega
    · cases hreturned

end Openers

/-!
## The scripts that were executed

Where the content is the list of the scripts that were executed, a commit out of
order shows in it.
-/

section Log

variable {script : Type} {m : Migrations script}

theorem executeAll_logBatch (scripts log : List script) :
    executeAll logBatch scripts log = some (log ++ scripts) := by
  induction scripts generalizing log with
  | nil => simp [executeAll]
  | cons sql rest ih =>
      rw [executeAll_cons_of_ok rest rfl, ih]
      simp

theorem MigratedFrom.log_length {start file : DatabaseFile (List script)}
    (h : MigratedFrom m logBatch start file) :
    (file.content.length : Int) - file.userVersion =
      start.content.length - start.userVersion := by
  rcases h with ⟨v, n, hvn, hn, hstart, hversion, hcontent⟩
  rw [executeAll_logBatch] at hcontent
  have hlength := congrArg List.length (Option.some.inj hcontent)
  rw [List.length_append, List.length_drop, List.length_take] at hlength
  omega

theorem Opener.InRun.commitsScript {content : Type}
    {exec : Batch script content} {file image : DatabaseFile content}
    {known : Nat -> Prop} {o : Opener script content}
    (h : o.InRun m exec file known) (hcommitting : o.committing = some image) :
    exists n, o.CommitsScript m exec file image n := by
  unfold Opener.InRun at h
  have hkeep := hcommitting
  unfold Opener.committing at hcommitting
  split at hcommitting
  · rename_i next hrest
    rw [hrest] at h
    rcases h with ⟨g, hfollows, hphase, _⟩
    rw [hcommitting] at hphase
    cases hphase with
    | numbered hsql hexec => exact ⟨_, hkeep, rfl, _, hsql, hexec⟩
    | begun n => exact hfollows.left.elim
    | executed hsql hexec => exact hfollows.left.elim
    | failing image => exact hfollows.left.elim
  · cases hcommitting

theorem openerStep_commit {content : Type} (m : Migrations script)
    (exec : Batch script content) {s : Openers script content}
    {a : OpenerAction content} {image : DatabaseFile content}
    (h : s.committedBy a = some image) :
    exists o, o ∈ s.openers ∧ o.committing = some image ∧
      exists s', openerStep m exec s a = some s' ∧ s'.file = image := by
  unfold Openers.committedBy at h
  split at h
  · rename_i i
    rcases Option.bind_eq_some_iff.mp h with ⟨o, hi, hcommitting⟩
    refine ⟨o, List.mem_of_getElem? hi, hcommitting, ?_⟩
    unfold Opener.committing at hcommitting
    split at hcommitting
    · rename_i next hrest
      refine ⟨⟨image, s.openers.set i ⟨some (next (.ok ())), none⟩⟩, ?_, rfl⟩
      unfold openerStep
      simp [hi, hrest, hcommitting, Openers.blocks, MigrationCommand.answer,
        MigrationCommand.serve]
    · cases hcommitting
  · cases h

theorem commitsNext_iff {start : DatabaseFile (List script)}
    {s : Openers script (List script)}
    {a : OpenerAction (List script)}
    (hs : s.Phased m logBatch (fun _ => True))
    (hmigrated : MigratedFrom m logBatch start s.file) :
    s.CommitsNext a <->
      forall s', openerStep m logBatch s a = some s' ->
        MigratedFrom m logBatch start s'.file := by
  constructor
  · intro hnext s' hstep
    rcases openerStep_phased hs (fun _ _ _ => trivial) hstep with
      ⟨hfile, _⟩ | ⟨o, n, ha, hcommit, _⟩
    · rw [hfile]
      exact hmigrated
    · have hversion := hcommit.version
      have := hnext _ ha
      exact hmigrated.next (hcommit.commits (by omega))
  · intro hall image himage
    rcases openerStep_commit m logBatch himage with
      ⟨o, ho, hcommitting, s', hstep, hfile⟩
    have hafter := (hall s' hstep).log_length
    have hbefore := hmigrated.log_length
    rcases (hs.opener o ho).commitsScript hcommitting with ⟨n, hcommit⟩
    rcases hcommit.script with ⟨sql, _, hexec⟩
    have hlog : image.content = s.file.content ++ [sql] :=
      (Prod.mk.inj hexec).left.symm
    rw [hfile, hlog, List.length_append] at hafter
    simp only [List.length_singleton] at hafter
    omega

/--
Openers migrate a file once exactly when each of their commits is of the script that
follows the version stored at that moment.
-/
theorem migratesOnce_iff {start : DatabaseFile (List script)}
    (hknows : m.Knows start) (acts : List (OpenerAction (List script))) :
    MigratesOnce m logBatch start acts <->
      StepsMeet (openerStep m logBatch) Openers.CommitsNext
        (Openers.start start) acts := by
  constructor
  · intro honce
    apply (invariant_along_iff_stepsMeet
      (fun s => s.Phased m logBatch (fun _ => True))
      (fun s => MigratedFrom m logBatch start s.file) ?_ commitsNext_iff
      (Openers.start_phased m logBatch _ start)
      (MigratedFrom.refl logBatch hknows) acts).mp
    · intro past t hpast hrun
      exact (honce past t hpast hrun).left
    · intro s a s' hs hstep
      rcases openerStep_phased hs (fun _ _ _ => trivial) hstep with
        ⟨_, hphased⟩ | ⟨_, _, _, _, hphased⟩
      · exact hphased
      · exact hphased _ (fun _ _ => trivial) trivial
  · exact migratesOnce_of_commitsNext hknows

/-- Two processes read version 0, and the second one begins when the first is done. -/
def staleOpeners (steps : Nat) : List (OpenerAction (List Nat)) :=
  [.enter, .enter, .next 0 none, .next 1 none] ++
    List.replicate steps (.next 0 none) ++ List.replicate 4 (.next 1 none)

def oneScript : Migrations Nat where
  scripts := [1]
  fits := by decide

def twoScripts : Migrations Nat where
  scripts := [1, 2]
  fits := by decide

def blankFile : DatabaseFile (List Nat) := { userVersion := 0, content := [] }

def migratedFile (m : Migrations Nat) (acts : List (OpenerAction (List Nat))) :
    Option (DatabaseFile (List Nat)) :=
  (runFrom (openerStep m logBatch) (Openers.start blankFile) acts).map
    Openers.file

theorem staleOpener_migrates_again :
    migratedFile oneScript (staleOpeners 4) =
      some { userVersion := 1, content := [1, 1] } ∧
    migratedFile twoScripts ((staleOpeners 8).take 12) =
      some { userVersion := 2, content := [1, 2] } ∧
    migratedFile twoScripts (staleOpeners 8) =
      some { userVersion := 1, content := [1, 2, 1] } ∧
    ¬ MigratesOnce twoScripts logBatch blankFile (staleOpeners 8) := by
  have hearly : migratedFile twoScripts ((staleOpeners 8).take 12) =
      some { userVersion := 2, content := [1, 2] } := by decide +kernel
  have hlate : migratedFile twoScripts (staleOpeners 8) =
      some { userVersion := 1, content := [1, 2, 1] } := by decide +kernel
  refine ⟨by decide +kernel, hearly, hlate, ?_⟩
  intro honce
  rcases Option.map_eq_some_iff.mp hearly with ⟨u, hu, hufile⟩
  rcases Option.map_eq_some_iff.mp hlate with ⟨t, ht, htfile⟩
  have hle := (honce _ t List.prefix_rfl ht).2.1 _ u (List.take_prefix _ _) hu
  rw [hufile, htfile] at hle
  exact absurd hle (by decide)

/-- Here the second process finds the file busy and gives up. -/
def busyOpeners : List (OpenerAction (List Nat)) :=
  [.enter, .enter, .next 0 none, .next 1 none, .next 0 none,
    .next 1 (some { error := .busy, left := [] })] ++
    List.replicate 7 (.next 0 none)

theorem migratesOnce_iff_busyOpeners :
    MigratesOnce twoScripts logBatch blankFile busyOpeners ∧
      migratedFile twoScripts busyOpeners =
        some { userVersion := 2, content := [1, 2] } :=
  ⟨(migratesOnce_iff ⟨by decide, by decide⟩ busyOpeners).mpr
      (by decide +kernel),
    by decide +kernel⟩

end Log

end Sqlite
end Valqeron
