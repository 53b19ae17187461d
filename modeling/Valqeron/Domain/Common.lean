import Mathlib.Algebra.Order.Ring.Int
import Mathlib.Data.Fin.Basic

/-!
# Values shared by the domain types
-/

namespace Valqeron
namespace Domain

/-- Sixteen bytes; their lexicographic order is the order of the number. -/
abbrev Uuid := Fin (2 ^ 128)

instance uuidBoundNeZero : NeZero (2 ^ 128) := ⟨by decide⟩

instance nanosBoundNeZero : NeZero 2000000000 := ⟨by decide⟩

/-- A point in time, in UTC; leap seconds have `nanos` of 10^9 and more. -/
structure DateTime where
  seconds : Int
  nanos : Fin 2000000000
deriving DecidableEq, Repr

/-- A stored value with the version of its row. -/
structure Versioned (a : Type) where
  data : a
  version : Nat
deriving DecidableEq, Repr

inductive WriteOutcome where
  | applied
  | versionMismatch (expected actual : Nat)
  | missing
deriving DecidableEq, Repr

inductive LoadMode where
  | lazy
  | eager
deriving DecidableEq, Repr

inductive Loading (a : Type) where
  | notLoaded
  | loaded (value : a)
deriving DecidableEq, Repr

end Domain
end Valqeron
