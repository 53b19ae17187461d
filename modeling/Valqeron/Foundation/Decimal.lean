import Valqeron.Foundation.Digits

/-!
# Unsigned numbers in decimal

The text of a number with leading zeros, and the reading of a number from a text
with an optional plus sign, which fails where the number leaves its type.
-/

namespace Valqeron
namespace Foundation

def decimalText (width n : Nat) : String :=
  String.ofList ((bigEndian 10 width n).map fun d => Nat.digitChar d.val)

/-- The digits after `value`; every intermediate number is below the bound. -/
def readDigits (bound : Nat) (value : Nat) : List Char -> Option Nat
  | [] => some value
  | c :: rest =>
      if c.isDigit && value * 10 + (c.toNat - 48) < bound then
        readDigits bound (value * 10 + (c.toNat - 48)) rest
      else
        none

/-- `str::parse` for an unsigned type whose values are below the bound. -/
def parseUnsigned (bound : Nat) (text : String) : Option Nat :=
  match text.toList with
  | [] => none
  | ['+'] => none
  | '+' :: rest => readDigits bound 0 rest
  | digits => readDigits bound 0 digits

theorem digitChar_of_isDigit {c : Char} (h : c.isDigit = true) :
    c.toNat - 48 < 10 ∧ Nat.digitChar (c.toNat - 48) = c := by
  have hrange : 48 <= c.toNat ∧ c.toNat <= 57 := Char.isDigit_iff_toNat.mp h
  have hlt : c.toNat - 48 < 10 := by omega
  refine ⟨hlt, ?_⟩
  have hvalue : forall d, d < 10 -> (Nat.digitChar d).toNat = d + 48 := by
    decide
  apply Char.toNat_inj.mp
  rw [hvalue _ hlt, Nat.sub_add_cancel hrange.left]

theorem readDigits_eq_some {bound value n : Nat} {cs : List Char}
    (h : readDigits bound value cs = some n) :
    exists ds : List (Fin 10), cs = ds.map (fun d => Nat.digitChar d.val) ∧
      n = value * 10 ^ ds.length + fromBigEndian ds := by
  induction cs generalizing value with
  | nil =>
      cases h
      refine ⟨[], rfl, ?_⟩
      show n = n * 1 + 0
      rw [Nat.mul_one, Nat.add_zero]
  | cons c rest ih =>
      unfold readDigits at h
      split at h
      · rename_i hread
        rw [Bool.and_eq_true] at hread
        rcases digitChar_of_isDigit hread.left with ⟨hlt, hchar⟩
        rcases ih h with ⟨ds, hrest, hn⟩
        refine ⟨⟨c.toNat - 48, hlt⟩ :: ds, ?_, ?_⟩
        · rw [List.map_cons, hrest, hchar]
        · rw [hn, fromBigEndian_cons, List.length_cons, Nat.pow_succ,
            Nat.add_mul, Nat.mul_assoc, Nat.mul_comm 10, Nat.add_assoc]
      · cases h

theorem parseUnsigned_eq_some {bound n : Nat} {text : String}
    (hsign : text.toList.head? ≠ some '+')
    (h : parseUnsigned bound text = some n) :
    n < 10 ^ text.toList.length ∧ decimalText text.toList.length n = text := by
  have hread : readDigits bound 0 text.toList = some n := by
    unfold parseUnsigned at h
    split at h
    · cases h
    · cases h
    · rename_i hplus
      rw [hplus] at hsign
      exact absurd rfl hsign
    · exact h
  rcases readDigits_eq_some hread with ⟨ds, hchars, hn⟩
  rw [Nat.zero_mul, Nat.zero_add] at hn
  rw [hchars, List.length_map, hn]
  refine ⟨fromBigEndian_lt ds, ?_⟩
  unfold decimalText
  rw [bigEndian_fromBigEndian, ← hchars, String.ofList_toList]

end Foundation
end Valqeron
