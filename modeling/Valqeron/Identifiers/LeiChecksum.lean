import Valqeron.Foundation.Checked
import Valqeron.Foundation.Numeral
import Valqeron.Identifiers.Lei

/-!
# The check digits of a LEI

What ISO 7064 MOD 97-10 asks of a code, and that the incremental reduction
decides it.  The same computation is written once more with the widths of its
integers, where no step leaves the width.  An exchange of neighbours and a
replacement of one character are told from the code.
-/

namespace Valqeron
namespace Identifiers

open Foundation

namespace Lei

/-- The decimal digits of one character: a letter has two, from `A` = 10. -/
def expandedDigits (c : UInt8) : List Nat :=
  if isAsciiDigit c then
    [c.toNat - 48]
  else
    [(c.toNat - 65 + 10) / 10, (c.toNat - 65 + 10) % 10]

def expandedNumber (candidate : List UInt8) : Nat :=
  spelledNumber 10 expandedDigits candidate

def checkValue (candidate : List UInt8) : Nat :=
  ((candidate.getD 18 48).toNat - 48) * 10 + ((candidate.getD 19 48).toNat - 48)

def WellFormed (candidate : List UInt8) : Prop :=
  OfClasses expectedClass candidate

theorem letter_range {c : UInt8} (h : isCodeByte c = true)
    (hdigit : isAsciiDigit c = false) : 65 <= c.toNat ∧ c.toNat <= 90 := by
  rcases isCodeByte_iff.mp h with hrange | hrange
  · rw [isAsciiDigit_iff.mpr hrange] at hdigit
    cases hdigit
  · exact hrange

theorem expandedDigits_digit {c : UInt8} (h : isAsciiDigit c = true) :
    expandedDigits c = [c.toNat - 48] := if_pos h

theorem expandedDigits_letter {c : UInt8} (h : isAsciiDigit c = false) :
    expandedDigits c =
      [(c.toNat - 65 + 10) / 10, (c.toNat - 65 + 10) % 10] :=
  if_neg (Bool.eq_false_iff.mp h)

theorem numeral_expandedDigits_digit {c : UInt8} (h : isAsciiDigit c = true) :
    numeral 10 (expandedDigits c) = c.toNat - 48 := by
  rw [expandedDigits_digit h]
  exact Nat.ofDigits_singleton

theorem numeral_expandedDigits_letter {c : UInt8}
    (h : isAsciiDigit c = false) :
    numeral 10 (expandedDigits c) = c.toNat - 65 + 10 := by
  have hsplit := Nat.div_add_mod (c.toNat - 65 + 10) 10
  rw [expandedDigits_letter h]
  simp only [numeral, List.reverse_cons, List.reverse_nil, List.nil_append,
    List.cons_append, Nat.ofDigits_cons, Nat.ofDigits_nil]
  omega

theorem foldMod97_eq_foldResidue (rem : Nat) (bytes : List UInt8) :
    foldMod97 rem bytes = foldResidue 10 expandedDigits 97 rem bytes := by
  induction bytes generalizing rem with
  | nil => rfl
  | cons c rest ih =>
      unfold foldMod97 foldResidue
      cases hdigit : isAsciiDigit c with
      | true =>
          have hlength : (expandedDigits c).length = 1 := by
            simp [expandedDigits, hdigit]
          rw [if_pos rfl, ih, numeral_expandedDigits_digit hdigit, hlength,
            Nat.pow_one]
      | false =>
          have hlength : (expandedDigits c).length = 2 := by
            simp [expandedDigits, hdigit]
          rw [if_neg Bool.false_ne_true, ih,
            numeral_expandedDigits_letter hdigit, hlength]
          rfl

theorem foldMod97_zero (bytes : List UInt8) :
    foldMod97 0 bytes = expandedNumber bytes % 97 := by
  rw [foldMod97_eq_foldResidue]
  exact foldResidue_zero 10 expandedDigits (by decide) bytes

/-!
## Acceptance
-/

theorem checkBytes_eq_ok_iff_wellFormed (candidate : List UInt8) :
    checkBytes checkCharacterClass 0 candidate = .ok () <->
      WellFormed candidate :=
  checkBytes_eq_ok_iff_ofClasses checkCharacterClass_eq_ok_iff candidate

theorem validateCheckDigits_eq_ok_iff (candidate : List UInt8) :
    validateCheckDigits candidate = .ok () <->
      checkValue candidate =
        98 - expandedNumber (candidate.take 18) % 97 * 100 % 97 := by
  unfold validateCheckDigits computeCheckDigits
  rw [foldMod97_zero]
  show (if 98 - expandedNumber (candidate.take 18) % 97 * 100 % 97 ≠
      checkValue candidate then _ else _) = _ <-> _
  split
  · rename_i hne
    exact iff_of_false (fun h => nomatch h) (fun h => hne h.symm)
  · rename_i heq
    exact iff_of_true rfl (not_not.mp heq).symm

theorem toList_eq_take_append (candidate : Bytes 20) :
    candidate.toList =
      candidate.toList.take 18 ++
        [candidate.toList.getD 18 48, candidate.toList.getD 19 48] := by
  have hlength : candidate.toList.length = 20 := candidate.toList_length
  have h18 : 18 < candidate.toList.length := by omega
  have h19 : 19 < candidate.toList.length := by omega
  have hdrop : candidate.toList.drop 20 = [] :=
    List.drop_eq_nil_of_le (by omega)
  have hend :
      candidate.toList.drop 18 =
        [candidate.toList.getD 18 48, candidate.toList.getD 19 48] := by
    rw [List.drop_eq_getElem_cons h18, List.drop_eq_getElem_cons h19, hdrop,
      List.getElem_eq_getD 48, List.getElem_eq_getD 48]
  rw [← hend, List.take_append_drop]

theorem isAsciiDigit_of_wellFormed {candidate : Bytes 20}
    (h : WellFormed candidate.toList) {i : Nat} (hlow : 18 <= i)
    (hhigh : i < 20) :
    isAsciiDigit (candidate.toList.getD i 48) = true := by
  have hlength : i < candidate.toList.length := by
    rw [candidate.toList_length]
    exact hhigh
  have hclass := h i _ (List.getElem?_eq_getElem hlength)
  rw [List.getElem_eq_getD 48] at hclass
  have hdigit : expectedClass i = .digit := if_neg (Nat.not_lt.mpr hlow)
  rw [hdigit] at hclass
  exact hclass

theorem expandedNumber_eq {candidate : Bytes 20}
    (h : WellFormed candidate.toList) :
    expandedNumber candidate.toList =
      expandedNumber (candidate.toList.take 18) * 100 +
        checkValue candidate.toList := by
  have hfirst := isAsciiDigit_of_wellFormed h (i := 18) (by decide) (by decide)
  have hsecond := isAsciiDigit_of_wellFormed h (i := 19) (by decide) (by decide)
  have hdigits :
      [candidate.toList.getD 18 48, candidate.toList.getD 19 48].flatMap
          expandedDigits =
        [(candidate.toList.getD 18 48).toNat - 48,
          (candidate.toList.getD 19 48).toNat - 48] := by
    simp only [List.flatMap_cons, List.flatMap_nil, expandedDigits, hfirst,
      hsecond, if_true, List.append_nil, List.cons_append, List.nil_append]
  conv => lhs; rw [toList_eq_take_append candidate]
  unfold expandedNumber
  rw [spelledNumber_append]
  unfold spelledNumber
  rw [hdigits]
  unfold checkValue numeral
  simp only [List.length_cons, List.length_nil, List.reverse_cons,
    List.reverse_nil, List.nil_append, List.cons_append, Nat.ofDigits_cons,
    Nat.ofDigits_nil]
  omega

/-- Comparing the check digits asks for residue one and no reserved value. -/
theorem checkDigits_iff_residue (base check : Nat) :
    check = 98 - base % 97 * 100 % 97 <->
      (base * 100 + check) % 97 = 1 ∧ 2 <= check ∧ check <= 98 := by
  have hrem : base % 97 * 100 % 97 = base * 100 % 97 :=
    (Nat.mod_modEq base 97).mul_right 100
  have hlt : base * 100 % 97 < 97 := Nat.mod_lt _ (by decide)
  rw [hrem, ← Nat.mod_add_mod]
  generalize base * 100 % 97 = rem at hlt
  constructor
  · intro h
    omega
  · intro h
    rcases h with ⟨hresidue, hlow, hhigh⟩
    omega

theorem validate_eq_ok_iff (candidate : Bytes 20) :
    validate candidate = .ok () <->
      WellFormed candidate.toList ∧ expandedNumber candidate.toList % 97 = 1 ∧
        2 <= checkValue candidate.toList ∧
        checkValue candidate.toList <= 98 := by
  have hdigits := validateCheckDigits_eq_ok_iff candidate.toList
  rw [checkDigits_iff_residue] at hdigits
  unfold validate
  rw [bind_eq_ok]
  constructor
  · intro h
    rcases h with ⟨_, hclasses, hcheck⟩
    have hform := (checkBytes_eq_ok_iff_wellFormed _).mp hclasses
    rw [expandedNumber_eq hform]
    exact ⟨hform, hdigits.mp hcheck⟩
  · intro h
    rcases h with ⟨hform, hresidue⟩
    rw [expandedNumber_eq hform] at hresidue
    exact ⟨(), (checkBytes_eq_ok_iff_wellFormed _).mpr hform,
      hdigits.mpr hresidue⟩

theorem fromBytes_isOk_iff (candidate : Bytes 20) :
    (exists lei, fromBytes candidate = .ok lei) <->
      validate candidate = .ok () :=
  validated_isOk_iff

/-!
## Integer widths

The computation with `u32` remainders and `u8` characters and check digits;
`none` where a debug build stops at an overflow.
-/

/-- `fold_mod_97`; a byte below `A` that is no digit leaves the width. -/
def foldMod97Checked (rem : Nat) : List UInt8 -> Option Nat
  | [] => some rem
  | c :: rest =>
      if isAsciiDigit c then do
        let digit ← checkedSub c.toNat 48
        let shifted ← checkedMul 32 rem 10
        let sum ← checkedAdd 32 shifted digit
        foldMod97Checked (sum % 97) rest
      else do
        let offset ← checkedSub c.toNat 65
        let value ← checkedAdd 8 offset 10
        let shifted ← checkedMul 32 rem 100
        let sum ← checkedAdd 32 shifted value
        foldMod97Checked (sum % 97) rest

def computeCheckDigitsChecked (base : List UInt8) : Option Nat := do
  let rem ← foldMod97Checked 0 base
  let shifted ← checkedMul 32 rem 100
  let digits ← checkedSub 98 (shifted % 97)
  -- `as u8`
  pure (digits % 2 ^ 8)

def validateCheckDigitsChecked (candidate : List UInt8) :
    Option (Except LeiError Unit) := do
  let expected ← computeCheckDigitsChecked (candidate.take baseLen)
  let first ← checkedSub (candidate.getD 18 48).toNat 48
  let tens ← checkedMul 8 first 10
  let second ← checkedSub (candidate.getD 19 48).toNat 48
  let found ← checkedAdd 8 tens second
  if expected ≠ found then
    pure (.error (.invalidCheckDigits expected found))
  else
    pure (.ok ())

def validateChecked (candidate : Bytes 20) : Option (Except LeiError Unit) :=
  match checkBytes checkCharacterClass 0 candidate.toList with
  | .error e => some (.error e)
  | .ok () => validateCheckDigitsChecked candidate.toList

theorem foldMod97_lt {rem : Nat} (h : rem < 97) (bytes : List UInt8) :
    foldMod97 rem bytes < 97 := by
  rw [foldMod97_eq_foldResidue]
  exact foldResidue_lt 10 expandedDigits h bytes

/-- A remainder below 97 and a digit or an upper-case letter fit the widths. -/
theorem foldMod97Checked_eq {rem : Nat} (h : rem < 97) {bytes : List UInt8}
    (hbytes : forall b, b ∈ bytes -> isCodeByte b = true) :
    foldMod97Checked rem bytes = some (foldMod97 rem bytes) := by
  induction bytes generalizing rem with
  | nil => rfl
  | cons c rest ih =>
      have hrest : forall b, b ∈ rest -> isCodeByte b = true :=
        fun b hb => hbytes b (List.mem_cons_of_mem c hb)
      have hcode := hbytes c List.mem_cons_self
      have hnext : forall n, foldMod97Checked (n % 97) rest =
          some (foldMod97 (n % 97) rest) :=
        fun n => ih (Nat.mod_lt n (by decide)) hrest
      unfold foldMod97Checked foldMod97
      cases hdigit : isAsciiDigit c with
      | true =>
          have hrange := isAsciiDigit_iff.mp hdigit
          rw [if_pos rfl, if_pos rfl, checkedSub_of_le hrange.left,
            checkedMul_of_lt (by omega)]
          show (checkedAdd 32 (rem * 10) (c.toNat - 48)).bind _ = _
          rw [checkedAdd_of_lt (by omega)]
          exact hnext _
      | false =>
          have hrange := letter_range hcode hdigit
          rw [if_neg Bool.false_ne_true, if_neg Bool.false_ne_true,
            checkedSub_of_le hrange.left]
          show (checkedAdd 8 (c.toNat - 65) 10).bind _ = _
          rw [checkedAdd_of_lt (by omega), checkedMul_of_lt (by omega)]
          show (checkedAdd 32 (rem * 100) (c.toNat - 65 + 10)).bind _ = _
          rw [checkedAdd_of_lt (by omega)]
          exact hnext _

theorem computeCheckDigitsChecked_eq {base : List UInt8}
    (hbase : forall b, b ∈ base -> isCodeByte b = true) :
    computeCheckDigitsChecked base = some (computeCheckDigits base) := by
  have hlt : foldMod97 0 base < 97 := foldMod97_lt (by decide) base
  unfold computeCheckDigitsChecked computeCheckDigits
  rw [foldMod97Checked_eq (by decide) hbase]
  show (checkedMul 32 (foldMod97 0 base) 100).bind _ = _
  rw [checkedMul_of_lt (by omega)]
  show (checkedSub 98 (foldMod97 0 base * 100 % 97)).bind _ = _
  rw [checkedSub_of_le (by omega)]
  show some ((98 - foldMod97 0 base * 100 % 97) % 2 ^ 8) = _
  rw [Nat.mod_eq_of_lt (by omega)]

theorem validateCheckDigitsChecked_eq {candidate : Bytes 20}
    (h : WellFormed candidate.toList) :
    validateCheckDigitsChecked candidate.toList =
      some (validateCheckDigits candidate.toList) := by
  have hbase : forall b, b ∈ candidate.toList.take baseLen ->
      isCodeByte b = true :=
    fun b hb => h.isCodeByte (List.mem_of_mem_take hb)
  have hfirst := isAsciiDigit_iff.mp
    (isAsciiDigit_of_wellFormed h (i := 18) (by decide) (by decide))
  have hsecond := isAsciiDigit_iff.mp
    (isAsciiDigit_of_wellFormed h (i := 19) (by decide) (by decide))
  unfold validateCheckDigitsChecked validateCheckDigits
  rw [computeCheckDigitsChecked_eq hbase, checkedSub_of_le hfirst.left,
    checkedSub_of_le hsecond.left]
  show (checkedMul 8 ((candidate.toList.getD 18 48).toNat - 48) 10).bind _ = _
  rw [checkedMul_of_lt (by omega)]
  show (checkedAdd 8 (((candidate.toList.getD 18 48).toNat - 48) * 10)
    ((candidate.toList.getD 19 48).toNat - 48)).bind _ = _
  rw [checkedAdd_of_lt (by omega)]
  show (if computeCheckDigits (candidate.toList.take baseLen) ≠ _ then
    some (Except.error _) else some (Except.ok ())) = _
  simp only
  split
  · rfl
  · rfl

/-- The bytes are checked first, so no computation leaves its width. -/
theorem validateChecked_eq (candidate : Bytes 20) :
    validateChecked candidate = some (validate candidate) := by
  unfold validateChecked validate
  cases hclasses : checkBytes checkCharacterClass 0 candidate.toList with
  | error e => rfl
  | ok u =>
      have hform := (checkBytes_eq_ok_iff_wellFormed _).mp hclasses
      exact validateCheckDigitsChecked_eq hform

/--
A candidate is accepted exactly when it is well formed, its expanded number is
one modulo 97 and its check digits are none of the reserved 00, 01 and 99; the
fold is the residue of the whole number, also in the widths of the code.
-/
theorem fromBytes_iso7064 :
    (forall candidate : Bytes 20,
      (exists lei, fromBytes candidate = .ok lei) <->
        WellFormed candidate.toList ∧
          expandedNumber candidate.toList % 97 = 1 ∧
          2 <= checkValue candidate.toList ∧
          checkValue candidate.toList <= 98) ∧
    (forall bytes : List UInt8,
      foldMod97 0 bytes = expandedNumber bytes % 97 ∧
        ((forall b, b ∈ bytes -> isCodeByte b = true) ->
          foldMod97Checked 0 bytes = some (expandedNumber bytes % 97))) ∧
    forall candidate : Bytes 20,
      validateChecked candidate = some (validate candidate) := by
  refine ⟨?_, ?_, validateChecked_eq⟩
  · intro candidate
    rw [fromBytes_isOk_iff]
    exact validate_eq_ok_iff candidate
  · intro bytes
    refine ⟨foldMod97_zero bytes, ?_⟩
    intro hbytes
    rw [foldMod97Checked_eq (by decide) hbytes, foldMod97_zero]

/-!
## Exchange of neighbouring characters
-/

/-- A letter of value `11 * d` beside the digit `d`: `B1`, `M2` and `X3`. -/
def Undetected (a b : UInt8) : Prop :=
  (a.toNat = 66 ∧ b.toNat = 49) ∨ (a.toNat = 77 ∧ b.toNat = 50) ∨
    (a.toNat = 88 ∧ b.toNat = 51)

theorem expandedDigits_cases {c : UInt8} (h : isCodeByte c = true) :
    (48 <= c.toNat ∧ c.toNat <= 57 ∧ (expandedDigits c).length = 1 ∧
        numeral 10 (expandedDigits c) = c.toNat - 48) ∨
      (65 <= c.toNat ∧ c.toNat <= 90 ∧ (expandedDigits c).length = 2 ∧
        numeral 10 (expandedDigits c) = c.toNat - 65 + 10) := by
  cases hdigit : isAsciiDigit c with
  | true =>
      have hrange := isAsciiDigit_iff.mp hdigit
      left
      refine ⟨hrange.left, hrange.right, ?_,
        numeral_expandedDigits_digit hdigit⟩
      simp [expandedDigits, hdigit]
  | false =>
      have hrange := letter_range h hdigit
      right
      refine ⟨hrange.left, hrange.right, ?_,
        numeral_expandedDigits_letter hdigit⟩
      simp [expandedDigits, hdigit]

theorem sameClass_modEq {x y ones : Nat} (hones : Nat.Coprime 97 ones)
    (hx : x < 97) (hy : y < 97) (h : y * ones ≡ x * ones [MOD 97]) : y = x := by
  have hcancel : y ≡ x [MOD 97] :=
    Nat.ModEq.cancel_right_of_coprime hones h
  exact hcancel.eq_of_lt_of_lt hy hx

theorem letterDigit_modEq_iff {letter digit : Nat} (hlow : 10 <= letter)
    (hhigh : letter < 36) (hdigit : digit < 10) :
    (letter * (10 ^ 1 - 1) ≡ digit * (10 ^ 2 - 1) [MOD 97]) <->
      letter = digit * 11 := by
  have hnine : digit * (10 ^ 2 - 1) = digit * 11 * (10 ^ 1 - 1) :=
    (Nat.mul_assoc digit 11 9).symm
  rw [hnine]
  constructor
  · intro h
    have hcancel : letter ≡ digit * 11 [MOD 97] :=
      Nat.ModEq.cancel_right_of_coprime (by decide) h
    unfold Nat.ModEq at hcancel
    omega
  · intro h
    rw [h]

/-- Three letters are eleven times a digit. -/
theorem eleventh_iff {letter digit : UInt8}
    (hletter : 65 <= letter.toNat ∧ letter.toNat <= 90)
    (hdigit : 48 <= digit.toNat ∧ digit.toNat <= 57) :
    letter.toNat - 65 + 10 = (digit.toNat - 48) * 11 <->
      Undetected letter digit ∨ Undetected digit letter := by
  unfold Undetected
  constructor
  · intro h
    have hthree : digit.toNat = 49 ∨ digit.toNat = 50 ∨ digit.toNat = 51 := by
      omega
    left
    rcases hthree with hone | htwo | hthree
    · exact Or.inl ⟨by omega, hone⟩
    · exact Or.inr (Or.inl ⟨by omega, htwo⟩)
    · exact Or.inr (Or.inr ⟨by omega, hthree⟩)
  · intro hgiven
    rcases hgiven with ((⟨h, h'⟩ | ⟨h, h'⟩ | ⟨h, h'⟩) | hnone)
    · omega
    · omega
    · omega
    · omega

/-- Of the unequal pairs only a letter beside an eleventh of its value is lost. -/
theorem pair_modEq_iff {a b : UInt8} (ha : isCodeByte a = true)
    (hb : isCodeByte b = true) (hne : a ≠ b) :
    (expandedNumber [b, a] ≡ expandedNumber [a, b] [MOD 97]) <->
      Undetected a b ∨ Undetected b a := by
  have hne' : a.toNat ≠ b.toNat := fun h => hne (UInt8.toNat_inj.mp h)
  have hpair := spelledNumber_pair_modEq_iff (m := 97) expandedDigits
    (show 0 < 10 by decide) a b
  unfold expandedNumber
  rw [hpair]
  rcases expandedDigits_cases ha with ⟨hla, hha, hna, hva⟩ | ⟨hla, hha, hna, hva⟩
  · rcases expandedDigits_cases hb with
      ⟨hlb, hhb, hnb, hvb⟩ | ⟨hlb, hhb, hnb, hvb⟩
    · rw [hna, hva, hnb, hvb]
      apply iff_of_false
      · intro h
        have heq := sameClass_modEq (by decide) (by omega) (by omega) h
        omega
      · unfold Undetected
        omega
    · rw [hna, hva, hnb, hvb,
        letterDigit_modEq_iff (by omega) (by omega) (by omega),
        eleventh_iff ⟨hlb, hhb⟩ ⟨hla, hha⟩, or_comm]
  · rcases expandedDigits_cases hb with
      ⟨hlb, hhb, hnb, hvb⟩ | ⟨hlb, hhb, hnb, hvb⟩
    · rw [hna, hva, hnb, hvb, Nat.ModEq.comm,
        letterDigit_modEq_iff (by omega) (by omega) (by omega),
        eleventh_iff ⟨hla, hha⟩ ⟨hlb, hhb⟩]
    · rw [hna, hva, hnb, hvb]
      apply iff_of_false
      · intro h
        have heq := sameClass_modEq (by decide) (by omega) (by omega) h
        omega
      · unfold Undetected
        omega

theorem Undetected.letter {a b : UInt8} (h : Undetected a b ∨ Undetected b a) :
    isAsciiDigit a = false ∨ isAsciiDigit b = false := by
  unfold Undetected at h
  unfold isAsciiDigit
  simp only [Bool.and_eq_false_iff, decide_eq_false_iff_not]
  omega

/-!
An exchange inside the base keeps the classes and the check digits.
-/

theorem wellFormed_swapped {candidate : Bytes 20}
    (h : WellFormed candidate.toList) {i : Nat} (hi : i + 1 < 18) :
    WellFormed (swapped candidate i).toList := by
  intro j byte hbyte
  have hbyte' : (swapAdjacent i candidate.toList)[j]? = some byte := hbyte
  by_cases hj : j < 18
  · have hmem : byte ∈ candidate.toList :=
      (swapAdjacent_perm i _).mem_iff.mp (List.mem_of_getElem? hbyte')
    have hcode := h.isCodeByte hmem
    have hclass : expectedClass j = .alphanumeric := if_pos hj
    rw [hclass]
    exact Bool.or_eq_true_iff.mp hcode
  · rw [getElem?_swapAdjacent_of_lt (by omega)] at hbyte'
    exact h j byte hbyte'

theorem checkValue_swapped (candidate : Bytes 20) {i : Nat} (hi : i + 1 < 18) :
    checkValue (swapped candidate i).toList = checkValue candidate.toList := by
  have hget : forall j, 18 <= j ->
      (swapped candidate i).toList.getD j 48 = candidate.toList.getD j 48 := by
    intro j hj
    show (swapAdjacent i candidate.toList).getD j 48 = _
    rw [List.getD_eq_getElem?_getD, List.getD_eq_getElem?_getD,
      getElem?_swapAdjacent_of_lt (by omega)]
  unfold checkValue
  rw [hget 18 (by decide), hget 19 (by decide)]

theorem expandedNumber_swapped_modEq_iff {candidate : Bytes 20}
    (h : WellFormed candidate.toList) {i : Nat} {a b : UInt8}
    (ha : candidate.toList[i]? = some a)
    (hb : candidate.toList[i + 1]? = some b) (hne : a ≠ b) :
    (expandedNumber (swapped candidate i).toList ≡
        expandedNumber candidate.toList [MOD 97]) <->
      Undetected a b ∨ Undetected b a := by
  rcases exists_swapped ha hb with ⟨before, after, _, hsplit, hswap⟩
  rw [hswap, hsplit, ← pair_modEq_iff
    (h.isCodeByte (List.mem_of_getElem? ha))
    (h.isCodeByte (List.mem_of_getElem? hb)) hne]
  exact spelledNumber_swap_modEq_iff expandedDigits (by decide) before a b after

theorem isAsciiDigit_of_swapped {candidate : Bytes 20}
    (h : WellFormed candidate.toList) {i : Nat} {a b : UInt8}
    (ha : candidate.toList[i]? = some a)
    (hb : candidate.toList[i + 1]? = some b) (hi : 18 <= i + 1)
    (hswapped : WellFormed (swapped candidate i).toList) :
    isAsciiDigit a = true ∧ isAsciiDigit b = true := by
  have hclass : expectedClass (i + 1) = .digit := if_neg (Nat.not_lt.mpr hi)
  have hmoved : (swapped candidate i).toList[i + 1]? = some a := by
    rcases exists_swapped ha hb with ⟨before, after, rfl, _, hswap⟩
    rw [hswap,
      List.getElem?_append_right (Nat.le_add_right before.length 1),
      Nat.add_sub_cancel_left]
    rfl
  have hfirst := hswapped (i + 1) a hmoved
  have hsecond := h (i + 1) b hb
  rw [hclass] at hfirst hsecond
  exact ⟨hfirst, hsecond⟩

/--
The exchange of two different neighbours of a LEI is rejected, but for a letter
of the base beside the digit that is an eleventh of its value.
-/
theorem fromBytes_swapped_iff (lei : Lei) (i : Nat) (a b : UInt8)
    (ha : lei.bytes.toList[i]? = some a)
    (hb : lei.bytes.toList[i + 1]? = some b) (hne : a ≠ b) :
    (exists other, fromBytes (swapped lei.bytes i) = .ok other) <->
      i + 1 < 18 ∧ (Undetected a b ∨ Undetected b a) := by
  have hvalid := (validate_eq_ok_iff lei.bytes).mp lei.valid
  rcases hvalid with ⟨hform, hresidue, hcheck⟩
  have hiff := expandedNumber_swapped_modEq_iff hform ha hb hne
  rw [fromBytes_isOk_iff, validate_eq_ok_iff]
  constructor
  · intro h
    rcases h with ⟨hswapped, hresidue', _⟩
    have hpair := hiff.mp (hresidue'.trans hresidue.symm)
    refine ⟨?_, hpair⟩
    by_contra hi
    have hdigits := isAsciiDigit_of_swapped hform ha hb (Nat.not_lt.mp hi)
      hswapped
    rcases Undetected.letter hpair with hletter | hletter
    · rw [hdigits.left] at hletter
      cases hletter
    · rw [hdigits.right] at hletter
      cases hletter
  · intro h
    rcases h with ⟨hi, hpair⟩
    refine ⟨wellFormed_swapped hform hi,
      Eq.trans (hiff.mpr hpair) hresidue, ?_⟩
    rw [checkValue_swapped lei.bytes hi]
    exact hcheck

/-- The code `549300B1P32UQZ0KL059`. -/
def b1Code : Lei where
  bytes := ⟨[53, 52, 57, 51, 48, 48, 66, 49, 80, 51, 50, 85, 81, 90, 48, 75, 76,
    48, 53, 57], rfl⟩
  valid := by decide +kernel

theorem swapped_b1Code_accepted :
    Not (forall (lei : Lei) (i : Nat) (a b : UInt8),
      lei.bytes.toList[i]? = some a -> lei.bytes.toList[i + 1]? = some b ->
        a ≠ b ->
        Not (exists other, fromBytes (swapped lei.bytes i) = .ok other)) := by
  intro h
  apply h b1Code 6 66 49 rfl rfl (by decide)
  rw [fromBytes_isOk_iff]
  decide +kernel

theorem fromBytes_swapped_b1Code :
    Not (exists other, fromBytes (swapped b1Code.bytes 0) = .ok other) ∧
      exists other, fromBytes (swapped b1Code.bytes 6) = .ok other := by
  rw [fromBytes_swapped_iff b1Code 0 53 52 rfl rfl (by decide),
    fromBytes_swapped_iff b1Code 6 66 49 rfl rfl (by decide)]
  unfold Undetected
  decide

/-!
## Replacement of one character
-/

def isAsciiAlphabetic (byte : UInt8) : Bool :=
  isAsciiUppercase byte || (97 <= byte.toNat && byte.toNat <= 122)

def SameKind (a b : UInt8) : Prop :=
  (isAsciiDigit a = true ∧ isAsciiDigit b = true) ∨
    (isAsciiAlphabetic a = true ∧ isAsciiAlphabetic b = true)

theorem not_isAsciiDigit_of_isAsciiAlphabetic {c : UInt8}
    (h : isAsciiAlphabetic c = true) : ¬ isAsciiDigit c = true := by
  intro hdigit
  have hrange := isAsciiDigit_iff.mp hdigit
  simp only [isAsciiAlphabetic, isAsciiUppercase, Bool.or_eq_true,
    Bool.and_eq_true, decide_eq_true_eq] at h
  omega

theorem sameKind_numeral {a b : UInt8} (ha : isCodeByte a = true)
    (hb : isCodeByte b = true) (hkind : SameKind a b) (hne : a ≠ b) :
    (expandedDigits b).length = (expandedDigits a).length ∧
      Not (numeral 10 (expandedDigits b) ≡
        numeral 10 (expandedDigits a) [MOD 97]) := by
  have hne' : a.toNat ≠ b.toNat := fun h => hne (UInt8.toNat_inj.mp h)
  rcases hkind with ⟨hda, hdb⟩ | ⟨hla, hlb⟩
  · have hra := isAsciiDigit_iff.mp hda
    have hrb := isAsciiDigit_iff.mp hdb
    rw [numeral_expandedDigits_digit hda, numeral_expandedDigits_digit hdb]
    refine ⟨by simp [expandedDigits, hda, hdb], ?_⟩
    intro hsame
    have heq := hsame.eq_of_lt_of_lt (by omega) (by omega)
    omega
  · have hna := Bool.eq_false_iff.mpr (not_isAsciiDigit_of_isAsciiAlphabetic hla)
    have hnb := Bool.eq_false_iff.mpr (not_isAsciiDigit_of_isAsciiAlphabetic hlb)
    have hra := letter_range ha hna
    have hrb := letter_range hb hnb
    rw [numeral_expandedDigits_letter hna, numeral_expandedDigits_letter hnb]
    refine ⟨by simp [expandedDigits, hna, hnb], ?_⟩
    intro hsame
    have heq := hsame.eq_of_lt_of_lt (by omega) (by omega)
    omega

/--
A LEI in which one character, a check digit too, is replaced by a different one
of its kind is rejected.
-/
theorem fromBytes_replaced_rejected (lei : Lei) (i : Fin 20) (b : UInt8)
    (hkind : SameKind (lei.bytes.get i) b) (hne : lei.bytes.get i ≠ b) :
    Not (exists other, fromBytes (lei.bytes.set i b) = .ok other) := by
  rw [fromBytes_isOk_iff, validate_eq_ok_iff]
  intro h
  rcases h with ⟨hform', hresidue', _⟩
  rcases (validate_eq_ok_iff lei.bytes).mp lei.valid with ⟨hform, hresidue, _⟩
  rcases exists_around lei.bytes i b with ⟨before, after, htext, htext'⟩
  have hcode : isCodeByte (lei.bytes.get i) = true := by
    apply hform.isCodeByte
    rw [htext]
    exact List.mem_append_right before List.mem_cons_self
  have hcode' : isCodeByte b = true := by
    apply hform'.isCodeByte
    rw [htext']
    exact List.mem_append_right before List.mem_cons_self
  rcases sameKind_numeral hcode hcode' hkind hne with ⟨hlength, hdiffer⟩
  have hsame : expandedNumber (lei.bytes.set i b).toList ≡
      expandedNumber lei.bytes.toList [MOD 97] :=
    hresidue'.trans hresidue.symm
  rw [htext', htext] at hsame
  exact hdiffer
    ((spelledNumber_replace_modEq_iff expandedDigits (by decide) before after
      hlength).mp hsame)

theorem fromBytes_replaced_b1Code :
    Not (exists other, fromBytes (b1Code.bytes.set 19 56) = .ok other) :=
  fromBytes_replaced_rejected b1Code 19 56 (Or.inl (by decide)) (by decide)

end Lei

end Identifiers
end Valqeron
