import Valqeron.Foundation.SortedTable

/-!
# Writes of the row that has an expected version

The rows of a table carry a version, and a write names the key and the version of
its row.  It finds no such row and changes nothing, or a constraint refuses what it
would store, or it stores that.
-/

namespace Valqeron
namespace Foundation

namespace SortedTable

variable {key row : Type} [LinearOrder key]

def rowAt (t : SortedTable key row) (version : row -> Nat) (k : key)
    (expected : Nat) : Option row :=
  (t.find? k).filter (fun r => version r == expected)

theorem rowAt_eq_some {t : SortedTable key row} {version : row -> Nat}
    {k : key} {expected : Nat} {r : row} :
    t.rowAt version k expected = some r <->
      t.find? k = some r ∧ version r = expected := by
  unfold rowAt
  rw [Option.filter_eq_some_iff]
  simp

theorem rowAt_eq_none {t : SortedTable key row} {version : row -> Nat}
    {k : key} {expected : Nat} :
    t.rowAt version k expected = none <->
      (t.find? k).map version ≠ some expected := by
  unfold rowAt
  cases t.find? k with
  | none => simp
  | some r => simp [Option.filter]

theorem map_version_of_rowAt {t : SortedTable key row} {version : row -> Nat}
    {k : key} {expected : Nat} {r : row}
    (h : t.rowAt version k expected = some r) :
    (t.find? k).map version = some expected := by
  rcases rowAt_eq_some.mp h with ⟨hfind, hversion⟩
  rw [hfind, Option.map_some, hversion]

end SortedTable

section Writes

variable {row db error : Type}

/-- What is left of the database and how many rows were written, or the error. -/
def writeRow (d : db) (found : Option row) (conflict : row -> Option error)
    (store : row -> db) : Except error (db × Nat) :=
  match found with
  | none => .ok (d, 0)
  | some r =>
      match conflict r with
      | some e => .error e
      | none => .ok (store r, 1)

variable {d : db} {found : Option row} {conflict : row -> Option error}
variable {store : row -> db}

theorem writeRow_of_none (h : found = none) :
    writeRow d found conflict store = .ok (d, 0) := by
  rw [h]
  rfl

theorem writeRow_of_free {r : row} (hfound : found = some r)
    (hfree : conflict r = none) :
    writeRow d found conflict store = .ok (store r, 1) := by
  unfold writeRow
  rw [hfound]
  simp only [hfree]

theorem writeRow_of_conflict {r : row} {e : error} (hfound : found = some r)
    (hconflict : conflict r = some e) :
    writeRow d found conflict store = .error e := by
  unfold writeRow
  rw [hfound]
  simp only [hconflict]

theorem writeRow_eq_ok {d' : db} {n : Nat}
    (h : writeRow d found conflict store = .ok (d', n)) :
    (found = none ∧ d' = d ∧ n = 0) ∨
      exists r, found = some r ∧ conflict r = none ∧ d' = store r ∧ n = 1 := by
  cases found with
  | none =>
      cases h
      exact Or.inl ⟨rfl, rfl, rfl⟩
  | some r =>
      cases hconflict : conflict r with
      | some e =>
          rw [writeRow_of_conflict rfl hconflict] at h
          cases h
      | none =>
          rw [writeRow_of_free rfl hconflict] at h
          cases h
          exact Or.inr ⟨r, rfl, hconflict, rfl, rfl⟩

theorem writeRow_eq_error {e : error}
    (h : writeRow d found conflict store = .error e) :
    exists r, found = some r ∧ conflict r = some e := by
  cases found with
  | none => cases h
  | some r =>
      cases hconflict : conflict r with
      | some e' =>
          rw [writeRow_of_conflict rfl hconflict] at h
          cases h
          exact ⟨r, rfl, hconflict⟩
      | none =>
          rw [writeRow_of_free rfl hconflict] at h
          cases h

theorem writeRow_congr {conflict' : row -> Option error} {store' : row -> db}
    (h : forall r, found = some r ->
      conflict r = conflict' r ∧ store r = store' r) :
    writeRow d found conflict store = writeRow d found conflict' store' := by
  cases found with
  | none => rfl
  | some r =>
      rcases h r rfl with ⟨hconflict, hstore⟩
      unfold writeRow
      simp only [hconflict, hstore]

end Writes

end Foundation
end Valqeron
