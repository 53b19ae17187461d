/-!
# Three-valued logic

The truth values of SQL: a comparison with `NULL` is unknown, and a constraint
rejects a row only when its expression is false.
-/

namespace Valqeron
namespace Foundation

/-- `none` is unknown. -/
abbrev Truth := Option Bool

namespace Truth

variable {a : Type}

def isNull (x : Option a) : Truth := some x.isNone

def or : Truth -> Truth -> Truth
  | some true, _ => some true
  | _, some true => some true
  | some false, some false => some false
  | _, _ => none

def eq [BEq a] (x y : Option a) : Truth :=
  match x, y with
  | some u, some v => some (u == v)
  | _, _ => none

def isIn [BEq a] (x : Option a) (values : List a) : Truth :=
  x.map (fun u => values.contains u)

def not (t : Truth) : Truth := t.map (fun b => !b)

def and (s t : Truth) : Truth := (s.not.or t.not).not

def lt [LT a] [DecidableLT a] (x y : Option a) : Truth :=
  match x, y with
  | some u, some v => some (decide (u < v))
  | _, _ => none

/-- A constraint passes when it is not false. -/
def passes (t : Truth) : Bool := t != some false

theorem passes_or (s t : Truth) :
    (s.or t).passes = true <-> s.passes = true ∨ t.passes = true := by
  cases s with
  | none =>
      cases t with
      | none => simp [or, passes]
      | some y => cases y <;> simp [or, passes]
  | some x =>
      cases t with
      | none => cases x <;> simp [or, passes]
      | some y => cases x <;> cases y <;> simp [or, passes]

@[simp] theorem passes_isNull (x : Option a) :
    (isNull x).passes = true <-> x = none := by
  cases x with
  | none => simp [isNull, passes]
  | some u => simp [isNull, passes]

/-- A comparison with a value also passes when there is nothing to compare. -/
@[simp] theorem passes_eq_some [BEq a] [LawfulBEq a] (x : Option a) (v : a) :
    (eq x (some v)).passes = true <-> x = none ∨ x = some v := by
  cases x with
  | none => simp [eq, passes]
  | some u => simp [eq, passes]

theorem passes_and (s t : Truth) :
    (s.and t).passes = true <-> s.passes = true ∧ t.passes = true := by
  cases s with
  | none =>
      cases t with
      | none => simp [and, not, or, passes]
      | some y => cases y <;> simp [and, not, or, passes]
  | some x =>
      cases t with
      | none => cases x <;> simp [and, not, or, passes]
      | some y => cases x <;> cases y <;> simp [and, not, or, passes]

@[simp] theorem passes_not_eq_some [BEq a] [LawfulBEq a] (x : Option a)
    (v : a) : ((eq x (some v)).not).passes = true <-> x ≠ some v := by
  cases x with
  | none => simp [eq, not, passes]
  | some u => simp [eq, not, passes]

@[simp] theorem passes_lt_some [LT a] [DecidableLT a] (v : a)
    (x : Option a) :
    (lt (some v) x).passes = true <-> forall u, x = some u -> v < u := by
  cases x with
  | none => simp [lt, passes]
  | some u => simp [lt, passes]

@[simp] theorem passes_isNull_eq {b : Type} (x : Option a) (y : Option b) :
    (eq (isNull x) (isNull y)).passes = true <-> x.isSome = y.isSome := by
  cases x with
  | none => cases y <;> simp [isNull, eq, passes]
  | some u => cases y <;> simp [isNull, eq, passes]

@[simp] theorem passes_isIn_some [BEq a] [LawfulBEq a] (u : a)
    (values : List a) :
    (isIn (some u) values).passes = true <-> u ∈ values := by
  simp [isIn, passes]

end Truth

end Foundation
end Valqeron
