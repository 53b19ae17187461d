import Valqeron.Sqlite.Clients

/-!
# No lost update

A row is seen where it is stored, where a call has read it and where a write has
replaced it.  Rows of one issuer that are seen under the same version are equal,
and a version that has been replaced never comes back: the guard of a write
compares the stored version with the one its client has seen, and every write that
passes the guard leaves the version behind.
-/

namespace Valqeron
namespace Sqlite

open Foundation
open Domain

namespace Clients

inductive Seen (s : Clients) (id : Uuid) (r : IssuerRecord) : Prop where
  | stored (h : s.db.issuers.find? id = some r)
  | read (c : ClientCall) (hc : c ∈ s.calls)
      (h : c.heard.row = some (id, r))
  | replaced (c : ClientCall) (hc : c ∈ s.calls) (v : Nat)
      (happlied : c.Applied id v) (h : c.before = some r)

/-- The rows that have been seen of one issuer differ in their versions. -/
structure Agreement (s : Clients) : Prop where
  born : forall id r, s.Seen id r -> exists c, c ∈ s.calls ∧
    c.op.insertedId = some id ∧ c.heard.applied = true
  agree : forall id r r', s.Seen id r -> s.Seen id r' ->
    r.version = r'.version -> r = r'
  latest : forall id r r', s.Seen id r -> s.db.issuers.find? id = some r' ->
    r.version <= r'.version

structure Ledger (s : Clients) : Prop where
  version : forall id r, s.db.issuers.find? id = some r ->
    r.version = 1 + s.appliedWrites id
  replaced : forall c, c ∈ s.calls -> forall id v, c.Applied id v ->
    exists r, c.before = some r ∧ r.version = v
  spent : forall c, c ∈ s.calls -> forall id v r, c.Applied id v ->
    s.db.issuers.find? id = some r -> v < r.version
  once : forall (i j : Nat) (c c' : ClientCall) id v, s.calls[i]? = some c ->
    s.calls[j]? = some c' -> c.Applied id v -> c'.Applied id v -> i = j
  kept : forall c, c ∈ s.calls -> forall id, c.op.insertedId = some id ->
    c.heard.applied = true -> s.appliedWrites id = 0 ->
    s.db.issuers.find? id ≠ none

structure Lineage (s : Clients) : Prop where
  follows : forall c, c ∈ s.calls ->
    c.rest.Follows (ClientOp.protocol c.op.statement) c.op.Reports c.heard
  fresh : forall (i j : Nat) (c c' : ClientCall) id, s.calls[i]? = some c ->
    s.calls[j]? = some c' -> c.op.insertedId = some id ->
    c'.op.insertedId = some id -> i = j
  agreement : s.Agreement
  ledger : s.Ledger

theorem start_lineage : start.Lineage where
  follows := by
    intro c hc
    cases hc
  fresh := by
    intro i j c c' id hc
    cases hc
  agreement :=
    { born := by
        intro id r h
        cases h with
        | stored h => cases h
        | read c hc h => cases hc
        | replaced c hc v happlied h => cases hc
      agree := by
        intro id r r' h
        cases h with
        | stored h => cases h
        | read c hc h => cases hc
        | replaced c hc v happlied h => cases hc
      latest := by
        intro id r r' _ h
        cases h }
  ledger :=
    { version := by
        intro id r h
        cases h
      replaced := by
        intro c hc
        cases hc
      spent := by
        intro c hc
        cases hc
      once := by
        intro i j c c' id v hc
        cases hc
      kept := by
        intro c hc
        cases hc }

/-!
## The rows that are seen

A step shows nobody a row that was not seen before, except the row that it
stores.
-/

section Step

variable {s : Clients} {i : Nat} {c c' : ClientCall} {d : Db}

def afterCall (s : Clients) (i : Nat) (c' : ClientCall) (d : Db) : Clients where
  db := d
  calls := s.calls.set i c'

theorem seen_afterCall {New : Uuid -> IssuerRecord -> Prop}
    (hdb : forall id r, d.issuers.find? id = some r ->
      s.Seen id r ∨ New id r)
    (hrow : forall id r, c'.heard.row = some (id, r) -> s.Seen id r)
    (hbefore : forall id v r, c'.Applied id v -> c'.before = some r ->
      s.Seen id r) {id : Uuid} {r : IssuerRecord}
    (h : (s.afterCall i c' d).Seen id r) : s.Seen id r ∨ New id r := by
  cases h with
  | stored h => exact hdb id r h
  | read x hx h =>
      left
      rcases List.mem_or_eq_of_mem_set hx with hold | hnew
      · exact .read x hold h
      · exact hrow id r (hnew ▸ h)
  | replaced x hx v happlied h =>
      left
      rcases List.mem_or_eq_of_mem_set hx with hold | hnew
      · exact .replaced x hold v happlied h
      · exact hbefore id v r (hnew ▸ happlied) (hnew ▸ h)

theorem agreement_afterCall (New : Uuid -> IssuerRecord -> Prop)
    (h : s.Agreement) (hc : s.calls[i]? = some c) (hop : c'.op = c.op)
    (happlied : c.heard.applied = true -> c'.heard.applied = true)
    (hdb : forall id r, d.issuers.find? id = some r ->
      s.db.issuers.find? id = some r ∨ New id r)
    (hrow : forall id r, c'.heard.row = some (id, r) -> s.Seen id r)
    (hbefore : forall id v r, c'.Applied id v -> c'.before = some r ->
      s.Seen id r)
    (hstored : forall id r, New id r -> d.issuers.find? id = some r)
    (hborn : forall id r, New id r ->
      (exists x, x ∈ s.calls ∧ x.op.insertedId = some id ∧
        x.heard.applied = true) ∨
      (c'.op.insertedId = some id ∧ c'.heard.applied = true))
    (hlater : forall id r r', New id r -> s.Seen id r' ->
      r'.version < r.version) :
    (s.afterCall i c' d).Agreement := by
  have hseen : forall id r, (s.afterCall i c' d).Seen id r ->
      s.Seen id r ∨ New id r := by
    intro id r hr
    apply seen_afterCall _ hrow hbefore hr
    intro id r hfind
    exact (hdb id r hfind).imp_left Seen.stored
  have hunique : forall id r r', New id r -> New id r' -> r = r' := by
    intro id r r' hr hr'
    have hboth := (hstored id r hr).symm.trans (hstored id r' hr')
    exact Option.some.inj hboth
  constructor
  · intro id r hr
    have hcases : (exists x, x ∈ s.calls ∧ x.op.insertedId = some id ∧
        x.heard.applied = true) ∨
        (c'.op.insertedId = some id ∧ c'.heard.applied = true) := by
      rcases hseen id r hr with hold | hnew
      · exact Or.inl (h.born id r hold)
      · exact hborn id r hnew
    rcases hcases with ⟨x, hx, hid, hxapplied⟩ | ⟨hid, happlied⟩
    · rcases mem_set_of_mem c' hc hx with heq | hkept
      · subst heq
        exact ⟨c', self_mem_set c' hc, hop ▸ hid, happlied hxapplied⟩
      · exact ⟨x, hkept, hid, hxapplied⟩
    · exact ⟨c', self_mem_set c' hc, hid, happlied⟩
  · intro id r r' hr hr' hversion
    rcases hseen id r hr with hold | hnew
    · rcases hseen id r' hr' with hold' | hnew'
      · exact h.agree id r r' hold hold' hversion
      · have hlt := hlater id r' r hnew' hold
        omega
    · rcases hseen id r' hr' with hold' | hnew'
      · have hlt := hlater id r r' hnew hold'
        omega
      · exact hunique id r r' hnew hnew'
  · intro id r r' hr hfind
    rcases hseen id r hr with hold | hnew
    · rcases hdb id r' hfind with hbefore' | hnew'
      · exact h.latest id r r' hold hbefore'
      · exact Nat.le_of_lt (hlater id r' r hnew' hold)
    · have hsame := (hstored id r hnew).symm.trans hfind
      rw [Option.some.inj hsame]

/-!
## The versions

A step that applies no write leaves the ledger alone; a write moves the version of
its row by one, and an insertion starts at one.
-/

theorem appliedWrites_afterCall (c' : ClientCall) (d : Db)
    (hc : s.calls[i]? = some c) (id : Uuid) :
    (s.afterCall i c' d).appliedWrites id + (c.appliedTo id).toNat =
      s.appliedWrites id + (c'.appliedTo id).toNat :=
  countP_set_of_getElem? c' hc

theorem ledger_quiet (h : s.Ledger) (hc : s.calls[i]? = some c)
    (hop : c'.op = c.op) (happlied : c'.heard.applied = c.heard.applied)
    (hbefore : c'.before = c.before) (hissuers : d.issuers = s.db.issuers) :
    (s.afterCall i c' d).Ledger := by
  have hold : forall (j : Nat) (x : ClientCall),
      (s.calls.set i c')[j]? = some x ->
      exists y, s.calls[j]? = some y ∧ y.op = x.op ∧
        y.heard.applied = x.heard.applied ∧ y.before = x.before := by
    intro j x hx
    rcases getElem?_set_cases hx with ⟨hj, heq⟩ | ⟨_, hsame⟩
    · subst hj heq
      exact ⟨c, hc, hop.symm, happlied.symm, hbefore.symm⟩
    · exact ⟨x, hsame, rfl, rfl, rfl⟩
  have hmem : forall x, x ∈ s.calls.set i c' ->
      exists y, y ∈ s.calls ∧ y.op = x.op ∧
        y.heard.applied = x.heard.applied ∧ y.before = x.before := by
    intro x hx
    rcases List.mem_iff_getElem?.mp hx with ⟨j, hj⟩
    rcases hold j x hj with ⟨y, hy, hrest⟩
    exact ⟨y, List.mem_iff_getElem?.mpr ⟨j, hy⟩, hrest⟩
  have hcount : forall id,
      (s.afterCall i c' d).appliedWrites id = s.appliedWrites id := by
    intro id
    have hsum := appliedWrites_afterCall c' d hc id
    unfold ClientCall.appliedTo at hsum
    rw [hop, happlied] at hsum
    omega
  have hApplied : forall (x y : ClientCall) id v, y.op = x.op ->
      y.heard.applied = x.heard.applied -> x.Applied id v ->
      y.Applied id v := by
    intro x y id v hyop hyapplied hx
    exact ⟨hyapplied.trans hx.left, (congrArg _ hyop).trans hx.right⟩
  constructor
  · intro id r hfind
    change d.issuers.find? id = some r at hfind
    rw [hissuers] at hfind
    rw [hcount]
    exact h.version id r hfind
  · intro x hx id v hxapplied
    rcases hmem x hx with ⟨y, hy, hyop, hyapplied, hybefore⟩
    rw [← hybefore]
    exact h.replaced y hy id v (hApplied x y id v hyop hyapplied hxapplied)
  · intro x hx id v r hxapplied hfind
    change d.issuers.find? id = some r at hfind
    rw [hissuers] at hfind
    rcases hmem x hx with ⟨y, hy, hyop, hyapplied, _⟩
    exact h.spent y hy id v r (hApplied x y id v hyop hyapplied hxapplied)
      hfind
  · intro j k x x' id v hx hx' hxapplied hxapplied'
    rcases hold j x hx with ⟨y, hy, hyop, hyapplied, _⟩
    rcases hold k x' hx' with ⟨y', hy', hyop', hyapplied', _⟩
    exact h.once j k y y' id v hy hy'
      (hApplied x y id v hyop hyapplied hxapplied)
      (hApplied x' y' id v hyop' hyapplied' hxapplied')
  · intro x hx id hid hxapplied hzero
    show d.issuers.find? id ≠ none
    rw [hissuers]
    rw [hcount] at hzero
    rcases hmem x hx with ⟨y, hy, hyop, hyapplied, _⟩
    exact h.kept y hy id ((congrArg _ hyop).trans hid)
      (hyapplied.trans hxapplied) hzero

theorem not_appliedTo {x : ClientCall} {id : Uuid}
    (h : forall v, ¬ x.Applied id v) : x.appliedTo id = false := by
  unfold ClientCall.appliedTo
  cases happlied : x.heard.applied with
  | false => rfl
  | true =>
      rw [Bool.true_and, decide_eq_false_iff_not]
      intro hguard
      rw [Option.map_eq_some_iff] at hguard
      rcases hguard with ⟨⟨k, v⟩, hkv, hk⟩
      exact h v ⟨happlied, hk ▸ hkv⟩

theorem ledger_insert (h : s.Ledger) (hc : s.calls[i]? = some c)
    (hop : c'.op = c.op) (hguard : c.op.guardedBy = none) {id : Uuid}
    {r : IssuerRecord} (hid : c.op.insertedId = some id)
    (hnone : forall x, x ∈ s.calls -> forall v, ¬ x.Applied id v)
    (hfind : d.issuers.find? id = some r) (hversion : r.version = 1)
    (hother : forall k, k ≠ id ->
      d.issuers.find? k = s.db.issuers.find? k) :
    (s.afterCall i c' d).Ledger := by
  have hnew : forall k v, ¬ c'.Applied k v := by
    intro k v happlied
    have hguarded := happlied.right
    rw [hop, hguard] at hguarded
    cases hguarded
  have hold : forall k v, ¬ c.Applied k v := by
    intro k v happlied
    have hguarded := happlied.right
    rw [hguard] at hguarded
    cases hguarded
  have hcount : forall k,
      (s.afterCall i c' d).appliedWrites k = s.appliedWrites k := by
    intro k
    have hsum := appliedWrites_afterCall c' d hc k
    rw [not_appliedTo (hold k), not_appliedTo (hnew k)] at hsum
    exact hsum
  have hmem : forall x, x ∈ s.calls.set i c' -> forall k v, x.Applied k v ->
      x ∈ s.calls := by
    intro x hx k v happlied
    rcases List.mem_or_eq_of_mem_set hx with hkept | heq
    · exact hkept
    · exact absurd (heq ▸ happlied) (hnew k v)
  constructor
  · intro k r' hfind'
    change d.issuers.find? k = some r' at hfind'
    rw [hcount]
    rcases eq_or_ne k id with hk | hk
    · subst hk
      rw [hfind] at hfind'
      cases hfind'
      have hzero : s.appliedWrites k = 0 := by
        apply List.countP_eq_zero.mpr
        intro x hx
        rw [not_appliedTo (hnone x hx)]
        exact Bool.false_ne_true
      rw [hversion, hzero]
    · rw [hother k hk] at hfind'
      exact h.version k r' hfind'
  · intro x hx k v happlied
    exact h.replaced x (hmem x hx k v happlied) k v happlied
  · intro x hx k v r' happlied hfind'
    change d.issuers.find? k = some r' at hfind'
    have hxold := hmem x hx k v happlied
    have hk : k ≠ id := by
      intro heq
      exact hnone x hxold v (heq ▸ happlied)
    rw [hother k hk] at hfind'
    exact h.spent x hxold k v r' happlied hfind'
  · intro j j' x x' k v hx hx' happlied happlied'
    rcases getElem?_set_cases hx with ⟨_, heq⟩ | ⟨_, hxold⟩
    · exact absurd (heq ▸ happlied) (hnew k v)
    · rcases getElem?_set_cases hx' with ⟨_, heq⟩ | ⟨_, hxold'⟩
      · exact absurd (heq ▸ happlied') (hnew k v)
      · exact h.once j j' x x' k v hxold hxold' happlied happlied'
  · intro x hx k hxid hxapplied hzero
    show d.issuers.find? k ≠ none
    rcases eq_or_ne k id with hk | hk
    · subst hk
      rw [hfind]
      exact Option.some_ne_none r
    · rw [hother k hk]
      rw [hcount] at hzero
      rcases List.mem_or_eq_of_mem_set hx with hkept | heq
      · exact h.kept x hkept k hxid hxapplied hzero
      · subst heq
        rw [hop, hid] at hxid
        exact absurd (Option.some.inj hxid).symm hk

/-- The call `i` replaces the row `r` by its next version, or by none. -/
structure Overwrites (s : Clients) (i : Nat) (c c' : ClientCall) (d : Db)
    (id : Uuid) (r : IssuerRecord) : Prop where
  call : s.calls[i]? = some c
  op : c'.op = c.op
  guard : c.op.guardedBy = some (id, r.version)
  inserts : c.op.insertedId = none
  idle : c.heard.applied = false
  applied : c'.heard.applied = true
  before : c'.before = some r
  stored : s.db.issuers.find? id = some r
  next : forall r', d.issuers.find? id = some r' ->
    r'.version = r.version + 1
  others : forall k, k ≠ id -> d.issuers.find? k = s.db.issuers.find? k

namespace Overwrites

variable {id : Uuid} {r : IssuerRecord}

theorem applied_iff (h : Overwrites s i c c' d id r) (k : Uuid) (v : Nat) :
    c'.Applied k v <-> k = id ∧ v = r.version := by
  constructor
  · intro hk
    have hguarded := hk.right
    rw [h.op, h.guard] at hguarded
    cases hguarded
    exact ⟨rfl, rfl⟩
  · intro hk
    rcases hk with ⟨rfl, rfl⟩
    exact ⟨h.applied, h.op ▸ h.guard⟩

theorem appliedTo_before (h : Overwrites s i c c' d id r) (k : Uuid) :
    c.appliedTo k = false := by
  unfold ClientCall.appliedTo
  rw [h.idle]
  rfl

theorem appliedWrites_self (h : Overwrites s i c c' d id r) :
    (s.afterCall i c' d).appliedWrites id = s.appliedWrites id + 1 := by
  have hsum := appliedWrites_afterCall c' d h.call id
  have hafter : c'.appliedTo id = true := by
    unfold ClientCall.appliedTo
    rw [h.applied, h.op, h.guard]
    simp
  rw [h.appliedTo_before id, hafter] at hsum
  exact hsum

theorem appliedWrites_other (h : Overwrites s i c c' d id r) {k : Uuid}
    (hk : k ≠ id) :
    (s.afterCall i c' d).appliedWrites k = s.appliedWrites k := by
  have hsum := appliedWrites_afterCall c' d h.call k
  have hafter : c'.appliedTo k = false := by
    apply not_appliedTo
    intro v hv
    exact hk ((h.applied_iff k v).mp hv).left
  rw [h.appliedTo_before k, hafter] at hsum
  exact hsum

theorem unspent (h : Overwrites s i c c' d id r) (hledger : s.Ledger)
    {x : ClientCall} (hx : x ∈ s.calls) : ¬ x.Applied id r.version := by
  intro hxapplied
  exact Nat.lt_irrefl _ (hledger.spent x hx id r.version r hxapplied h.stored)

theorem spent (h : Overwrites s i c c' d id r) (hledger : s.Ledger)
    {x : ClientCall} (hx : x ∈ s.calls.set i c') {k : Uuid} {v : Nat}
    {r' : IssuerRecord} (hxapplied : x.Applied k v)
    (hfind : d.issuers.find? k = some r') : v < r'.version := by
  rcases List.mem_or_eq_of_mem_set hx with hkept | heq
  · rcases eq_or_ne k id with hk | hk
    · subst hk
      have hlt := hledger.spent x hkept k v r hxapplied h.stored
      rw [h.next r' hfind]
      omega
    · rw [h.others k hk] at hfind
      exact hledger.spent x hkept k v r' hxapplied hfind
  · subst heq
    rcases (h.applied_iff k v).mp hxapplied with ⟨hk, hv⟩
    subst hk hv
    rw [h.next r' hfind]
    exact Nat.lt_succ_self r.version

theorem once (h : Overwrites s i c c' d id r) (hledger : s.Ledger)
    {j j' : Nat} {x x' : ClientCall} {k : Uuid} {v : Nat}
    (hx : (s.calls.set i c')[j]? = some x)
    (hx' : (s.calls.set i c')[j']? = some x')
    (hxapplied : x.Applied k v) (hxapplied' : x'.Applied k v) : j = j' := by
  rcases getElem?_set_cases hx with ⟨hj, heq⟩ | ⟨hj, hxold⟩
  · subst heq
    rcases (h.applied_iff k v).mp hxapplied with ⟨hk, hv⟩
    subst hk hv
    rcases getElem?_set_cases hx' with ⟨hj', _⟩ | ⟨_, hxold'⟩
    · rw [hj, hj']
    · exact absurd hxapplied'
        (h.unspent hledger (List.mem_of_getElem? hxold'))
  · rcases getElem?_set_cases hx' with ⟨_, heq⟩ | ⟨_, hxold'⟩
    · subst heq
      rcases (h.applied_iff k v).mp hxapplied' with ⟨hk, hv⟩
      subst hk hv
      exact absurd hxapplied (h.unspent hledger (List.mem_of_getElem? hxold))
    · exact hledger.once j j' x x' k v hxold hxold' hxapplied hxapplied'

theorem ledger (h : Overwrites s i c c' d id r) (hledger : s.Ledger) :
    (s.afterCall i c' d).Ledger where
  version := by
    intro k r' hfind
    change d.issuers.find? k = some r' at hfind
    rcases eq_or_ne k id with hk | hk
    · subst hk
      rw [h.appliedWrites_self, h.next r' hfind,
        hledger.version k r h.stored]
      omega
    · rw [h.appliedWrites_other hk]
      rw [h.others k hk] at hfind
      exact hledger.version k r' hfind
  replaced := by
    intro x hx k v hxapplied
    rcases List.mem_or_eq_of_mem_set hx with hkept | heq
    · exact hledger.replaced x hkept k v hxapplied
    · subst heq
      exact ⟨r, h.before, ((h.applied_iff k v).mp hxapplied).right.symm⟩
  spent := fun _ hx _ _ _ hxapplied hfind =>
    h.spent hledger hx hxapplied hfind
  once := fun _ _ _ _ _ _ hx hx' hxapplied hxapplied' =>
    h.once hledger hx hx' hxapplied hxapplied'
  kept := by
    intro x hx k hxid hxapplied hzero
    show d.issuers.find? k ≠ none
    rcases eq_or_ne k id with hk | hk
    · subst hk
      rw [h.appliedWrites_self] at hzero
      cases hzero
    · rw [h.others k hk]
      rw [h.appliedWrites_other hk] at hzero
      rcases List.mem_or_eq_of_mem_set hx with hkept | heq
      · exact hledger.kept x hkept k hxid hxapplied hzero
      · subst heq
        rw [h.op, h.inserts] at hxid
        cases hxid

end Overwrites

theorem fresh_afterCall (h : s.Lineage) (hc : s.calls[i]? = some c)
    (hop : c'.op = c.op) (j k : Nat) (x y : ClientCall) (id : Uuid)
    (hx : (s.calls.set i c')[j]? = some x)
    (hy : (s.calls.set i c')[k]? = some y)
    (hxid : x.op.insertedId = some id) (hyid : y.op.insertedId = some id) :
    j = k := by
  have hold : forall (j : Nat) (x : ClientCall),
      (s.calls.set i c')[j]? = some x ->
      exists x', s.calls[j]? = some x' ∧ x'.op = x.op := by
    intro j x hx
    rcases getElem?_set_cases hx with ⟨hj, heq⟩ | ⟨_, hsame⟩
    · subst hj heq
      exact ⟨c, hc, hop.symm⟩
    · exact ⟨x, hsame, rfl⟩
  rcases hold j x hx with ⟨x', hx', hxop⟩
  rcases hold k y hy with ⟨y', hy', hyop⟩
  exact h.fresh j k x' y' id hx' hy' ((congrArg _ hxop).trans hxid)
    ((congrArg _ hyop).trans hyid)

theorem follows_afterCall (h : s.Lineage)
    (hfollows : c'.rest.Follows (ClientOp.protocol c'.op.statement)
      c'.op.Reports c'.heard) (x : ClientCall)
    (hx : x ∈ s.calls.set i c') :
    x.rest.Follows (ClientOp.protocol x.op.statement) x.op.Reports
      x.heard := by
  rcases List.mem_or_eq_of_mem_set hx with hkept | heq
  · exact h.follows x hkept
  · subst heq
    exact hfollows

theorem lineage_quiet (h : s.Lineage) (hc : s.calls[i]? = some c)
    (hop : c'.op = c.op) (happlied : c'.heard.applied = c.heard.applied)
    (hbefore : c'.before = c.before) (hissuers : d.issuers = s.db.issuers)
    (hrow : forall id r, c'.heard.row = some (id, r) ->
      c.heard.row = some (id, r) ∨ s.db.issuers.find? id = some r)
    (hfollows : c'.rest.Follows (ClientOp.protocol c'.op.statement)
      c'.op.Reports c'.heard) : (s.afterCall i c' d).Lineage where
  follows := follows_afterCall h hfollows
  fresh := fresh_afterCall h hc hop
  agreement := by
    have hmem := List.mem_of_getElem? hc
    apply agreement_afterCall (fun _ _ => False) h.agreement hc hop
      happlied.trans
    · intro id r hfind
      left
      rw [hissuers] at hfind
      exact hfind
    · intro id r hread
      rcases hrow id r hread with hbefore' | hstored
      · exact .read c hmem hbefore'
      · exact .stored hstored
    · intro id v r hnew hreplaced
      apply Seen.replaced c hmem v
      · exact ⟨happlied.symm.trans hnew.left,
          (congrArg _ hop.symm).trans hnew.right⟩
      · exact hbefore.symm.trans hreplaced
    · intro id r hnone
      exact hnone.elim
    · intro id r hnone
      exact hnone.elim
    · intro id r r' hnone
      exact hnone.elim
  ledger := ledger_quiet h.ledger hc hop happlied hbefore hissuers

theorem not_seen_of_inserting (h : s.Lineage) (hc : s.calls[i]? = some c)
    (hidle : c.heard.applied = false) {id : Uuid}
    (hid : c.op.insertedId = some id) (r : IssuerRecord) :
    ¬ s.Seen id r := by
  intro hseen
  rcases h.agreement.born id r hseen with ⟨x, hx, hxid, hxapplied⟩
  rcases List.mem_iff_getElem?.mp hx with ⟨j, hj⟩
  have hij := h.fresh j i x c id hj hc hxid hid
  subst hij
  rw [hj] at hc
  cases hc
  rw [hidle] at hxapplied
  cases hxapplied

theorem lineage_insert (h : s.Lineage) (hc : s.calls[i]? = some c)
    (hop : c'.op = c.op) (hidle : c.heard.applied = false)
    (happlied : c'.heard.applied = true) (hguard : c.op.guardedBy = none)
    {id : Uuid} {r : IssuerRecord} (hid : c.op.insertedId = some id)
    (hversion : r.version = 1) (hrow : c'.heard.row = c.heard.row)
    (hfollows : c'.rest.Follows (ClientOp.protocol c'.op.statement)
      c'.op.Reports c'.heard) :
    (s.afterCall i c' (s.db.storeIssuer id r)).Lineage where
  follows := follows_afterCall h hfollows
  fresh := fresh_afterCall h hc hop
  agreement := by
    apply agreement_afterCall (fun k x => k = id ∧ x = r) h.agreement hc hop
      (fun _ => happlied)
    · intro k x hfind
      exact (Db.find?_storeIssuer hfind).symm
    · intro k x hread
      exact .read c (List.mem_of_getElem? hc) (hrow ▸ hread)
    · intro k v x hnew
      have hguarded := hnew.right
      rw [hop, hguard] at hguarded
      cases hguarded
    · intro k x hgiven
      rcases hgiven with ⟨hk, hx⟩
      subst hk hx
      exact SortedTable.find?_insert_self _ _ _
    · intro k x hgiven
      rcases hgiven with ⟨hk, _⟩
      right
      exact ⟨hk ▸ hop ▸ hid, happlied⟩
    · intro k x y hgiven hseen
      rcases hgiven with ⟨hk, _⟩
      exact absurd (hk ▸ hseen) (not_seen_of_inserting h hc hidle hid y)
  ledger := by
    apply ledger_insert h.ledger hc hop hguard hid _
      (SortedTable.find?_insert_self _ _ _) hversion
    · intro k hk
      exact SortedTable.find?_insert_of_ne _ hk _
    · intro x hx v hxapplied
      rcases h.ledger.replaced x hx id v hxapplied with ⟨y, hy, _⟩
      exact not_seen_of_inserting h hc hidle hid y
        (.replaced x hx v hxapplied hy)

theorem lineage_overwrite {id : Uuid} {r : IssuerRecord} (h : s.Lineage)
    (hwrite : Overwrites s i c c' d id r)
    (hrow : c'.heard.row = c.heard.row)
    (hfollows : c'.rest.Follows (ClientOp.protocol c'.op.statement)
      c'.op.Reports c'.heard) : (s.afterCall i c' d).Lineage where
  follows := follows_afterCall h hfollows
  fresh := fresh_afterCall h hwrite.call hwrite.op
  agreement := by
    apply agreement_afterCall
      (fun k x => k = id ∧ d.issuers.find? id = some x) h.agreement
      hwrite.call hwrite.op (fun _ => hwrite.applied)
    · intro k x hfind
      rcases eq_or_ne k id with hk | hk
      · subst hk
        exact Or.inr ⟨rfl, hfind⟩
      · rw [hwrite.others k hk] at hfind
        exact Or.inl hfind
    · intro k x hread
      exact .read c (List.mem_of_getElem? hwrite.call) (hrow ▸ hread)
    · intro k v x hnew hreplaced
      rcases (hwrite.applied_iff k v).mp hnew with ⟨hk, _⟩
      rw [hwrite.before] at hreplaced
      cases hreplaced
      exact hk ▸ .stored hwrite.stored
    · intro k x hgiven
      rcases hgiven with ⟨hk, hfind⟩
      exact hk ▸ hfind
    · intro k x hgiven
      rcases hgiven with ⟨hk, _⟩
      left
      exact hk ▸ h.agreement.born id r (.stored hwrite.stored)
    · intro k x y hgiven hseen
      rcases hgiven with ⟨hk, hfind⟩
      rw [hwrite.next x hfind]
      have hle := h.agreement.latest id y r (hk ▸ hseen) hwrite.stored
      omega
  ledger := hwrite.ledger h.ledger

end Step

/-!
## The commands of a call
-/

theorem statement_expectedVersion {op : ClientOp} {st : Statement} {v : Nat}
    (hst : op.statement = some st) (hv : st.expectedVersion = some v) :
    op.guardedBy = some (st.target, v) ∧ op.insertedId = none := by
  cases op with
  | findById id mode => cases hst
  | insert issuer =>
      cases hst
      cases hv
  | applyPatch id expectedVersion patch =>
      cases hst
      cases hv
      exact ⟨rfl, rfl⟩
  | update issuer expectedVersion =>
      cases hst
      cases hv
      exact ⟨rfl, rfl⟩
  | delete id expectedVersion =>
      cases hst
      cases hv
      exact ⟨rfl, rfl⟩

theorem statement_inserted {op : ClientOp} {st : Statement}
    {r : IssuerRecord} (hst : op.statement = some st)
    (hr : st.inserted = some r) :
    op.insertedId = some st.target ∧ op.guardedBy = none ∧ r.version = 1 := by
  cases op with
  | findById id mode => cases hst
  | insert issuer =>
      cases hst
      cases hr
      exact ⟨rfl, rfl, rfl⟩
  | applyPatch id expectedVersion patch =>
      cases hst
      cases hr
  | update issuer expectedVersion =>
      cases hst
      cases hr
  | delete id expectedVersion =>
      cases hst
      cases hr

/-- Reading an issuer shows the row that is stored, and nothing else shows one. -/
theorem rowAfter_stored {h : Heard} {d : Db} {role : ConnectionRole}
    {q : Query} {id : Uuid} {r : IssuerRecord}
    (hrow : h.rowAfter (.query role q) (.ok (q.eval d)) = some (id, r)) :
    h.row = some (id, r) ∨ d.issuers.find? id = some r := by
  cases q with
  | issuerById k =>
      change h.rowAfter (.query role (.issuerById k))
        (.ok ((d.issuers.find? k).map (fun r => (k, r)))) = _ at hrow
      cases hfind : d.issuers.find? k with
      | none =>
          rw [hfind] at hrow
          exact Or.inl hrow
      | some r' =>
          rw [hfind] at hrow
          cases hrow
          exact Or.inr hfind
  | issuers => exact Or.inl hrow
  | issuerPage after limit => exact Or.inl hrow
  | issuerExists k => exact Or.inl hrow
  | issuerExistsByCnpj cnpj => exact Or.inl hrow
  | issuerExistsByLei lei => exact Or.inl hrow
  | issuerVersion k => exact Or.inl hrow
  | securitiesByIssuer k => exact Or.inl hrow
  | securitiesForAllIssuers => exact Or.inl hrow
  | securitiesForIssuerPage after limit => exact Or.inl hrow

theorem execute_lineage {s : Clients} {i : Nat} {call : ClientCall}
    {st : Statement} {next : Response (.execute st) -> SqlProgram Report}
    (h : s.Lineage) (hc : s.calls[i]? = some call)
    (hst : call.op.statement = some st) (hidle : call.heard.applied = false)
    (hfollows : forall r,
      (exists d fault, (answerCommand d (.execute st) fault).2 = r) ->
      (next r).Follows (ClientOp.protocol call.op.statement) call.op.Reports
        (call.heard.advance (.execute st) r)) :
    (s.afterCall i (call.hear s.db (.execute st) next (st.apply s.db).2)
      (st.apply s.db).1).Lineage := by
  have hrest := hfollows (st.apply s.db).2 ⟨s.db, none, rfl⟩
  have heffect := st.exec_effect s.db
  cases hexec : st.exec s.db with
  | error e =>
      rw [Statement.apply_error hexec] at hrest ⊢
      exact lineage_quiet h hc rfl (Bool.or_false call.heard.applied) rfl rfl
        (fun id r hrow => Or.inl hrow) hrest
  | ok result =>
      rw [hexec] at heffect
      rw [Statement.apply_ok hexec] at hrest ⊢
      cases heffect with
      | missed v hversion hnone =>
          exact lineage_quiet h hc rfl (Bool.or_false call.heard.applied) rfl
            rfl (fun id r hrow => Or.inl hrow) hrest
      | inserted r hrow hfree hok =>
          rcases statement_inserted hst hrow with ⟨hid, hguard, hversion⟩
          refine lineage_insert h hc ?_ hidle ?_ hguard hid hversion ?_ hrest
          · rfl
          · exact Bool.or_true call.heard.applied
          · rfl
      | updated v set r hversion hset hrow hok =>
          rcases statement_expectedVersion hst hversion with ⟨hguard, hid⟩
          rcases Db.issuerAt_eq_some.mp hrow with ⟨hstored, hv⟩
          subst hv
          refine lineage_overwrite h
            { call := hc
              op := rfl
              guard := hguard
              inserts := hid
              idle := hidle
              applied := Bool.or_true call.heard.applied
              before := hstored
              stored := hstored
              next := ?_
              others := ?_ } rfl hrest
          · intro r' hfind
            have hself := SortedTable.find?_insert_self s.db.issuers st.target
              { set r with version := r.version + 1 }
            rw [← Option.some.inj (hself.symm.trans hfind)]
          · intro k hk
            exact SortedTable.find?_insert_of_ne _ hk _
      | erased v r hversion hrow =>
          rcases statement_expectedVersion hst hversion with ⟨hguard, hid⟩
          rcases Db.issuerAt_eq_some.mp hrow with ⟨hstored, hv⟩
          subst hv
          refine lineage_overwrite h
            { call := hc
              op := rfl
              guard := hguard
              inserts := hid
              idle := hidle
              applied := Bool.or_true call.heard.applied
              before := hstored
              stored := hstored
              next := ?_
              others := ?_ } rfl hrest
          · intro r' hfind
            have hnone := SortedTable.find?_erase_self s.db.issuers st.target
            cases hnone.symm.trans hfind
          · intro k hk
            exact SortedTable.find?_erase_of_ne _ hk

theorem hear_lineage {s : Clients} {i : Nat} {call : ClientCall}
    {c : Command} {next : Response c -> SqlProgram Report} {r : Response c}
    (h : s.Lineage) (hc : s.calls[i]? = some call)
    (hquiet : c.tookEffect r = false)
    (hrow : forall id row, call.heard.rowAfter c r = some (id, row) ->
      call.heard.row = some (id, row) ∨ s.db.issuers.find? id = some row)
    (hrest : (next r).Follows (ClientOp.protocol call.op.statement)
      call.op.Reports (call.heard.advance c r)) :
    (s.afterCall i (call.hear s.db c next r) s.db).Lineage := by
  refine lineage_quiet h hc ?_ ?_ ?_ rfl hrow hrest
  · rfl
  · show (call.heard.applied || c.tookEffect r) = call.heard.applied
    rw [hquiet, Bool.or_false]
  · show (if c.tookEffect r then c.targetRow s.db else call.before) = _
    rw [hquiet]
    rfl

theorem next_lineage {s : Clients} {i : Nat} {call : ClientCall}
    {c : Command} {next : Response c -> SqlProgram Report}
    (h : s.Lineage) (hc : s.calls[i]? = some call)
    (hcall : call.rest = .call c next) (fault : Option SqlError) :
    let answer := answerCommand s.db c fault
    (s.afterCall i (call.hear s.db c next answer.2) answer.1).Lineage := by
  have hfollows := h.follows call (List.mem_of_getElem? hc)
  rw [hcall] at hfollows
  rcases hfollows with ⟨hallowed, hnext⟩
  have hrest := hnext (answerCommand s.db c fault).2 ⟨s.db, fault, rfl⟩
  cases c with
  | takeGuard role =>
      cases fault with
      | none => exact hear_lineage h hc rfl (fun _ _ => Or.inl) hrest
      | some e => exact hear_lineage h hc rfl (fun _ _ => Or.inl) hrest
  | dropGuard role =>
      cases fault with
      | none => exact hear_lineage h hc rfl (fun _ _ => Or.inl) hrest
      | some e => exact hear_lineage h hc rfl (fun _ _ => Or.inl) hrest
  | query role q =>
      cases fault with
      | none => exact hear_lineage h hc rfl (fun _ _ => rowAfter_stored) hrest
      | some e =>
          apply hear_lineage h hc rfl _ hrest
          intro id row hrow
          left
          cases q with
          | _ => exact hrow
  | execute st =>
      rcases hallowed st rfl with ⟨hst, hidle⟩
      cases fault with
      | none => exact execute_lineage h hc hst hidle hnext
      | some e => exact hear_lineage h hc rfl (fun _ _ => Or.inl) hrest

theorem submit_lineage {s : Clients} (h : s.Lineage) {op : ClientOp}
    (hfresh : s.FreshFor op) :
    Lineage { s with calls := s.calls ++ [ClientCall.start op] } := by
  have hstart : forall id v, ¬ (ClientCall.start op).Applied id v := by
    intro id v happlied
    cases happlied.left
  have hseen : forall id r,
      Seen { s with calls := s.calls ++ [ClientCall.start op] } id r ->
      s.Seen id r := by
    intro id r hr
    cases hr with
    | stored hfind => exact .stored hfind
    | read c hc hrow =>
        rcases List.mem_append.mp hc with hold | hnew
        · exact .read c hold hrow
        · rw [List.mem_singleton.mp hnew] at hrow
          cases hrow
    | replaced c hc v happlied hbefore =>
        rcases List.mem_append.mp hc with hold | hnew
        · exact .replaced c hold v happlied hbefore
        · rw [List.mem_singleton.mp hnew] at hbefore
          cases hbefore
  have hother : forall c, c ∈ s.calls -> forall id,
      op.insertedId = some id -> c.op.insertedId ≠ some id := by
    intro c hc id hid
    rcases hfresh c hc with hnone | hne
    · rw [hnone] at hid
      cases hid
    · rw [← hid]
      exact hne
  have hmem : forall c, c ∈ s.calls ++ [ClientCall.start op] ->
      forall id v, c.Applied id v -> c ∈ s.calls := by
    intro c hc id v happlied
    rcases List.mem_append.mp hc with hold | hnew
    · exact hold
    · exact absurd (List.mem_singleton.mp hnew ▸ happlied) (hstart id v)
  have hcount : forall id,
      appliedWrites { s with calls := s.calls ++ [ClientCall.start op] } id =
        s.appliedWrites id := by
    intro id
    unfold appliedWrites
    rw [List.countP_append, List.countP_singleton, not_appliedTo (hstart id)]
    rfl
  constructor
  · intro c hc
    rcases List.mem_append.mp hc with hold | hnew
    · exact h.follows c hold
    · rw [List.mem_singleton.mp hnew]
      exact op.program_follows
  · intro i j c c' id hc hc' hid hid'
    rcases getElem?_append_cases hc with ⟨hi, heq⟩ | hold
    · rcases getElem?_append_cases hc' with ⟨hj, _⟩ | hold'
      · rw [hi, hj]
      · subst heq
        exact absurd hid'
          (hother c' (List.mem_of_getElem? hold') id hid)
    · rcases getElem?_append_cases hc' with ⟨_, heq⟩ | hold'
      · subst heq
        exact absurd hid (hother c (List.mem_of_getElem? hold) id hid')
      · exact h.fresh i j c c' id hold hold' hid hid'
  · constructor
    · intro id r hr
      rcases h.agreement.born id r (hseen id r hr) with ⟨c, hc, hrest⟩
      exact ⟨c, List.mem_append_left _ hc, hrest⟩
    · intro id r r' hr hr'
      exact h.agreement.agree id r r' (hseen id r hr) (hseen id r' hr')
    · intro id r r' hr
      exact h.agreement.latest id r r' (hseen id r hr)
  · constructor
    · intro id r hfind
      rw [hcount]
      exact h.ledger.version id r hfind
    · intro c hc id v happlied
      exact h.ledger.replaced c (hmem c hc id v happlied) id v happlied
    · intro c hc id v r happlied
      exact h.ledger.spent c (hmem c hc id v happlied) id v r happlied
    · intro i j c c' id v hc hc' happlied happlied'
      rcases getElem?_append_cases hc with ⟨_, heq⟩ | hold
      · exact absurd (heq ▸ happlied) (hstart id v)
      · rcases getElem?_append_cases hc' with ⟨_, heq⟩ | hold'
        · exact absurd (heq ▸ happlied') (hstart id v)
        · exact h.ledger.once i j c c' id v hold hold' happlied happlied'
    · intro c hc id hid happlied hzero
      rw [hcount] at hzero
      rcases List.mem_append.mp hc with hold | hnew
      · exact h.ledger.kept c hold id hid happlied hzero
      · rw [List.mem_singleton.mp hnew] at happlied
        cases happlied

theorem setSecurities_lineage {s : Clients} (h : s.Lineage)
    (t : SortedTable Uuid SecurityRecord) :
    Lineage { s with db := { s.db with securities := t } } := by
  have hseen : forall id r,
      Seen { s with db := { s.db with securities := t } } id r ->
      s.Seen id r := by
    intro id r hr
    cases hr with
    | stored hfind => exact .stored hfind
    | read c hc hrow => exact .read c hc hrow
    | replaced c hc v happlied hbefore =>
        exact .replaced c hc v happlied hbefore
  constructor
  · exact h.follows
  · exact h.fresh
  · constructor
    · intro id r hr
      exact h.agreement.born id r (hseen id r hr)
    · intro id r r' hr hr'
      exact h.agreement.agree id r r' (hseen id r hr) (hseen id r' hr')
    · intro id r r' hr
      exact h.agreement.latest id r r' (hseen id r hr)
  · constructor
    · exact h.ledger.version
    · exact h.ledger.replaced
    · exact h.ledger.spent
    · exact h.ledger.once
    · exact h.ledger.kept

theorem clientStep_lineage {s s' : Clients} {a : ClientAction}
    (h : s.Lineage) (hstep : clientStep s a = some s') : s'.Lineage := by
  cases a with
  | submit op =>
      simp only [clientStep] at hstep
      split at hstep
      · rename_i hfresh
        cases hstep
        exact submit_lineage h hfresh
      · cases hstep
  | next i fault =>
      simp only [clientStep] at hstep
      split at hstep
      · cases hstep
      · rename_i call hc
        split at hstep
        · cases hstep
        · rename_i c next hcall
          cases hstep
          exact next_lineage h hc hcall fault
  | setSecurities t =>
      cases hstep
      exact setSecurities_lineage h t

/-!
## What the clients can rely on
-/

def Reported (s : Clients) (c : ClientCall) (r : Report) : Prop :=
  c ∈ s.calls ∧ c.report = some r

structure NoLostUpdate (s : Clients) : Prop where
  /-- A write that reports success is one that has taken effect. -/
  applied : forall c r, s.Reported c (.written r) ->
    (r = .ok .applied <-> c.heard.applied = true)
  /-- The version of a row is 1 more than the writes it has seen. -/
  version : forall id r, s.db.issuers.find? id = some r ->
    r.version = 1 + s.appliedWrites id
  /-- A new row that nobody has written to is there with version 1. -/
  inserted : forall c issuer, c.op = .insert issuer ->
    s.Reported c (.inserted (.ok ())) ->
    s.appliedWrites issuer.id.uuid = 0 ->
    exists r, s.db.issuers.find? issuer.id.uuid = some r ∧ r.version = 1
  /-- Two writes with the same expected version do not both report success. -/
  once : forall (i j : Nat) (c c' : ClientCall) id v,
    s.calls[i]? = some c -> s.calls[j]? = some c' ->
    c.op.guardedBy = some (id, v) -> c'.op.guardedBy = some (id, v) ->
    c.report = some (.written (.ok .applied)) ->
    c'.report = some (.written (.ok .applied)) -> i = j
  /-- A write has replaced what the readers of its version have been given. -/
  values : forall c id v, c.op.guardedBy = some (id, v) ->
    s.Reported c (.written (.ok .applied)) ->
    exists r, c.before = some r ∧ r.version = v ∧
      forall c' i, s.Reported c' (.found (.ok (some i))) -> i.id = id ->
        i.columns.version = v -> i.columns = r

theorem Lineage.reports {s : Clients} (h : s.Lineage) {c : ClientCall}
    {r : Report} (hr : s.Reported c r) : c.op.Reports c.heard r := by
  have hfollows := h.follows c hr.left
  have hreport := hr.right
  unfold ClientCall.report at hreport
  split at hreport
  · rename_i r' hrest
    cases hreport
    rw [hrest] at hfollows
    exact hfollows
  · cases hreport

theorem Lineage.written {s : Clients} (h : s.Lineage) {c : ClientCall}
    {r : Except StorageFault WriteOutcome}
    (hr : s.Reported c (.written r)) :
    r = .ok .applied <-> c.heard.applied = true := by
  have hreports := h.reports hr
  unfold ClientOp.Reports at hreports
  split at hreports
  · rename_i heq
    cases heq
  · rename_i heq
    cases heq
  · rename_i heq
    cases heq
    exact hreports
  · rename_i heq
    cases heq
    exact hreports
  · rename_i heq
    cases heq
    exact hreports
  · exact hreports.elim

theorem Lineage.found {s : Clients} (h : s.Lineage) {c : ClientCall}
    {i : StoredIssuer} (hr : s.Reported c (.found (.ok (some i)))) :
    s.Seen i.id i.columns := by
  have hreports := h.reports hr
  have hrow : c.heard.row = some (i.id, i.columns) := by
    unfold ClientOp.Reports at hreports
    split at hreports
    · rename_i heq
      cases heq
    · rename_i heq
      cases heq
      exact hreports i rfl
    · rename_i heq
      cases heq
    · rename_i heq
      cases heq
    · rename_i heq
      cases heq
    · exact hreports.elim
  exact .read c hr.left hrow

theorem Lineage.noLostUpdate {s : Clients} (h : s.Lineage) :
    s.NoLostUpdate where
  applied := by
    intro c r hr
    exact h.written hr
  version := h.ledger.version
  inserted := by
    intro c issuer hop hr hzero
    have hreports := h.reports hr
    rw [hop] at hreports
    have hid : c.op.insertedId = some issuer.id.uuid := by
      rw [hop]
      rfl
    have hkept := h.ledger.kept c hr.left issuer.id.uuid hid
      (hreports.mp rfl) hzero
    rcases Option.ne_none_iff_exists'.mp hkept with ⟨r, hfind⟩
    refine ⟨r, hfind, ?_⟩
    rw [h.ledger.version _ r hfind, hzero]
  once := by
    intro i j c c' id v hc hc' hguard hguard' hr hr'
    have happlied := (h.written ⟨List.mem_of_getElem? hc, hr⟩).mp rfl
    have happlied' := (h.written ⟨List.mem_of_getElem? hc', hr'⟩).mp rfl
    exact h.ledger.once i j c c' id v hc hc' ⟨happlied, hguard⟩
      ⟨happlied', hguard'⟩
  values := by
    intro c id v hguard hr
    have happlied : c.Applied id v := ⟨(h.written hr).mp rfl, hguard⟩
    rcases h.ledger.replaced c hr.left id v happlied with
      ⟨r, hbefore, hversion⟩
    refine ⟨r, hbefore, hversion, ?_⟩
    intro c' i hi hid hiv
    have hseen := h.found hi
    rw [hid] at hseen
    exact h.agreement.agree id i.columns r hseen
      (.replaced c hr.left v happlied hbefore) (hiv.trans hversion.symm)

/-- Whatever the clients do and in whatever order their commands arrive. -/
theorem noLostUpdate_of_run {acts : List ClientAction} {s : Clients}
    (hrun : runFrom clientStep start acts = some s) : s.NoLostUpdate := by
  have hlineage : s.Lineage :=
    runFrom_invariant Lineage clientStep_lineage start_lineage hrun
  exact hlineage.noLostUpdate

def firstIssuer : Issuer where
  id := { uuid := 1 }
  status := .active
  createdAt := { seconds := 0, nanos := 0 }
  name := none
  cnpj := none
  lei := none
  countryCode := none

/-- Two clients have read version 1 and patch it; one finds the table busy. -/
def racingRun : List ClientAction :=
  [.submit (.insert firstIssuer), .next 0 none, .next 0 none, .next 0 none,
    .submit (.findById firstIssuer.id .lazy), .next 1 none, .next 1 none,
    .next 1 none,
    .submit (.applyPatch firstIssuer.id 1
      { IssuerPatch.empty with status := some .retired }),
    .submit (.applyPatch firstIssuer.id 1 IssuerPatch.empty),
    .next 2 none, .next 3 none, .next 3 (some .busy), .next 2 none,
    .next 3 none, .next 2 none,
    .next 3 none, .next 3 none, .next 3 none, .next 3 none]

theorem noLostUpdate_racingRun :
    exists s i, runFrom clientStep start racingRun = some s ∧
      s.calls.map ClientCall.report =
        [some (.inserted (.ok ())), some (.found (.ok (some i))),
          some (.written (.ok .applied)),
          some (.written (.ok (.versionMismatch 1 2)))] ∧
      s.NoLostUpdate := by
  let row : IssuerRecord :=
    { name := none
      status := "ACTIVE"
      createdAt := canonicalTimestamp firstIssuer.createdAt
      version := 1
      cnpj := none
      lei := none
      countryCode := none }
  have hreports : (runFrom clientStep start racingRun).map
      (fun s => s.calls.map ClientCall.report) =
        some [some (.inserted (.ok ())),
          some (.found (.ok (some (reconstituteLazy (1, row))))),
          some (.written (.ok .applied)),
          some (.written (.ok (.versionMismatch 1 2)))] := by
    decide +kernel
  rw [Option.map_eq_some_iff] at hreports
  rcases hreports with ⟨s, hrun, hreports⟩
  exact ⟨s, _, hrun, hreports, noLostUpdate_of_run hrun⟩

end Clients

end Sqlite
end Valqeron
