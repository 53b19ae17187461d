import Mathlib.Algebra.Order.Ring.Int
import Mathlib.Data.List.Basic
import Mathlib.Tactic.Common
import Valqeron.Foundation.Checked

/-!
# Bitmaps

A set of indices kept in words of a fixed width. The bit of an index lies in
the word of its quotient, at the place of its remainder.
-/

namespace Valqeron
namespace Foundation
namespace Bitmap

variable {w : Nat}

def testBit (bits : List (BitVec w)) (index : Nat) : Bool :=
  (bits.getD (index / w) 0#w >>> (index % w)) &&& 1#w == 1#w

/-- The test of a build that stops at an index out of range. -/
def checkedTestBit (bits : List (BitVec w)) (index : Nat) : Option Bool := do
  let word ← bits[index / w]?
  let shifted ← checkedShiftRight word (index % w)
  pure (shifted &&& 1#w == 1#w)

def setBit (bits : List (BitVec w)) (index : Nat) : List (BitVec w) :=
  bits.modify (index / w) (fun word => word ||| 1#w <<< (index % w))

def setBits (bits : List (BitVec w)) (indices : List Nat) : List (BitVec w) :=
  indices.foldl setBit bits

def Holds (bits : List (BitVec w)) (index : Nat) : Prop :=
  index / w < bits.length

theorem testBit_eq_getLsbD (hw : 0 < w) (bits : List (BitVec w)) (index : Nat) :
    testBit bits index =
      (bits.getD (index / w) 0#w).getLsbD (index % w) := by
  have hone : (1#w == 0#w) = false := by
    rw [beq_eq_false_iff_ne]
    intro h
    have hbit := congrArg (BitVec.getLsbD · 0) h
    simp [hw] at hbit
  unfold testBit
  rw [BitVec.and_one_eq_setWidth_ofBool_getLsbD, BitVec.getLsbD_ushiftRight,
    Nat.add_zero]
  cases (bits.getD (index / w) 0#w).getLsbD (index % w) with
  | false =>
      simpa [BEq.comm] using hone
  | true =>
      show (BitVec.setWidth w 1#1 == 1#w) = true
      rw [BitVec.setWidth_ofNat_one_eq_ofNat_one_of_lt Nat.one_pos]
      exact beq_self_eq_true _

theorem checkedTestBit_of_holds (hw : 0 < w) {bits : List (BitVec w)}
    {index : Nat} (h : Holds bits index) :
    checkedTestBit bits index = some (testBit bits index) := by
  unfold Holds at h
  unfold checkedTestBit testBit
  rw [List.getD_eq_getElem?_getD, List.getElem?_eq_getElem h]
  show (checkedShiftRight bits[index / w] (index % w)).bind _ = _
  rw [checkedShiftRight_of_lt (Nat.mod_lt _ hw)]
  rfl

theorem length_setBit (bits : List (BitVec w)) (index : Nat) :
    (setBit bits index).length = bits.length :=
  List.length_modify ..

theorem testBit_replicate (hw : 0 < w) (n index : Nat) :
    testBit (List.replicate n 0#w) index = false := by
  rw [testBit_eq_getLsbD hw, List.getD_eq_getElem?_getD]
  by_cases h : index / w < n
  · simp [h]
  · simp [h]

theorem testBit_setBit (hw : 0 < w) {bits : List (BitVec w)} {index : Nat}
    (hindex : Holds bits index) (tested : Nat) :
    testBit (setBit bits index) tested =
      (decide (tested = index) || testBit bits tested) := by
  rw [testBit_eq_getLsbD hw, testBit_eq_getLsbD hw]
  unfold setBit
  rw [List.getD_eq_getElem?_getD, List.getD_eq_getElem?_getD,
    List.getElem?_modify]
  by_cases hword : index / w = tested / w
  · have hsame : index % w = tested % w <-> tested = index := by
      constructor
      · intro hrest
        rw [← Nat.div_add_mod tested w, ← Nat.div_add_mod index w, hword, hrest]
      · intro heq
        rw [heq]
    have hplace : index % w < w := Nat.mod_lt _ hw
    have hstored : tested / w < bits.length := hword ▸ hindex
    simp only [if_pos hword, List.getElem?_eq_getElem hstored]
    show (bits[tested / w] ||| 1#w <<< (index % w)).getLsbD (tested % w) =
      (decide (tested = index) || bits[tested / w].getLsbD (tested % w))
    rw [BitVec.getLsbD_or, ← BitVec.twoPow_eq, BitVec.getLsbD_twoPow,
      Bool.or_comm]
    simp [hplace, hsame]
  · have hne : tested ≠ index := by
      intro heq
      exact hword (by rw [heq])
    simp [hword, hne]

theorem length_setBits (bits : List (BitVec w)) (indices : List Nat) :
    (setBits bits indices).length = bits.length := by
  unfold setBits
  induction indices generalizing bits with
  | nil =>
      rfl
  | cons index rest ih =>
      rw [List.foldl_cons, ih, length_setBit]

theorem testBit_setBits (hw : 0 < w) {bits : List (BitVec w)}
    {indices : List Nat} (hindices : forall index, index ∈ indices -> Holds bits index)
    (tested : Nat) :
    testBit (setBits bits indices) tested = true <->
      tested ∈ indices ∨ testBit bits tested = true := by
  unfold setBits
  induction indices generalizing bits with
  | nil =>
      simp
  | cons index rest ih =>
      have hkept : forall other, other ∈ rest -> Holds (setBit bits index) other := by
        intro other hother
        unfold Holds
        rw [length_setBit]
        exact hindices other (List.mem_cons_of_mem _ hother)
      rw [List.foldl_cons, ih hkept, testBit_setBit hw (hindices index List.mem_cons_self),
        Bool.or_eq_true, decide_eq_true_eq, List.mem_cons]
      constructor
      · intro h
        rcases h with h | h | h
        · exact Or.inl (Or.inr h)
        · exact Or.inl (Or.inl h)
        · exact Or.inr h
      · intro h
        rcases h with (h | h) | h
        · exact Or.inr (Or.inl h)
        · exact Or.inl h
        · exact Or.inr (Or.inr h)

theorem testBit_setBits_replicate (hw : 0 < w) {n : Nat} {indices : List Nat}
    (hindices : forall index, index ∈ indices -> index / w < n) (tested : Nat) :
    testBit (setBits (List.replicate n 0#w) indices) tested = true <->
      tested ∈ indices := by
  have hholds : forall index, index ∈ indices ->
      Holds (List.replicate n 0#w) index := by
    intro index h
    unfold Holds
    rw [List.length_replicate]
    exact hindices index h
  rw [testBit_setBits hw hholds, testBit_replicate hw]
  simp

end Bitmap
end Foundation
end Valqeron
