import Valqeron.Foundation.Luhn
import Valqeron.Identifiers.Isin
import Valqeron.Identifiers.LeiChecksum

/-!
# The check digit of an ISIN

The single pass from the right over the characters computes the Luhn sum of the
expanded code, as the plain implementation of the tests does, and what the sum
tells of a code with an error in its digits.
-/

namespace Valqeron
namespace Identifiers

open Foundation

namespace Isin

/-!
## The plain implementation
-/

def referenceStep (fromRight d : Nat) : Nat :=
  if fromRight % 2 = 1 then
    let v := d * 2
    if 9 < v then v - 9 else v
  else
    d

/-- The loop over the expanded digits, which counts from the left. -/
def referenceSum (n : Nat) : Nat -> List Nat -> Nat
  | _, [] => 0
  | i, d :: rest => referenceStep (n - i) d + referenceSum n (i + 1) rest

/-- `reference_check_digit` of the tests: expand first, then add up. -/
def referenceCheckDigit (base : List UInt8) : Nat :=
  let digits := base.flatMap Lei.expandedDigits
  (10 - referenceSum digits.length 0 digits % 10) % 10

theorem referenceStep_eq_weigh (rest : List Nat) (d : Nat) :
    referenceStep (rest.length + 1) d =
      Luhn.weigh (xor true rest.length.bodd) d := by
  have hparity : (rest.length + 1) % 2 = (!rest.length.bodd).toNat := by
    rw [← Nat.bodd_succ]
    exact Nat.mod_two_of_bodd _
  unfold referenceStep Luhn.weigh
  rw [hparity, Bool.true_xor]
  cases rest.length.bodd with
  | false => rfl
  | true => rfl

theorem referenceSum_eq_sum {n i : Nat} {digits : List Nat}
    (h : i + digits.length = n) :
    referenceSum n i digits = Luhn.sum true digits := by
  induction digits generalizing i with
  | nil => rfl
  | cons d rest ih =>
      rw [List.length_cons] at h
      have hposition : n - i = rest.length + 1 := by omega
      unfold referenceSum Luhn.sum
      rw [hposition, referenceStep_eq_weigh, ih (by omega)]

theorem referenceCheckDigit_eq (base : List UInt8) :
    referenceCheckDigit base =
      Luhn.checkDigit (base.flatMap Lei.expandedDigits) := by
  unfold referenceCheckDigit Luhn.checkDigit
  simp only
  rw [referenceSum_eq_sum (Nat.zero_add _)]

/-!
## The single pass
-/

/-- A letter takes two turns, so the parity after it is the one before it. -/
theorem luhnSum_eq_sum (double : Bool) (reversed : List UInt8) :
    luhnSum double reversed =
      Luhn.sum double (reversed.reverse.flatMap Lei.expandedDigits) := by
  induction reversed generalizing double with
  | nil => rfl
  | cons c rest ih =>
      have hexpanded :
          (c :: rest).reverse.flatMap Lei.expandedDigits =
            rest.reverse.flatMap Lei.expandedDigits ++ Lei.expandedDigits c := by
        rw [List.reverse_cons, List.flatMap_append, List.flatMap_singleton]
      rw [hexpanded, Luhn.sum_append]
      unfold luhnSum
      cases hdigit : isAsciiDigit c with
      | true =>
          have hone : [c.toNat - 48].length.bodd = true := Nat.bodd_one
          rw [Lei.expandedDigits_digit hdigit, if_pos rfl, hone, Bool.xor_true,
            Luhn.sum_singleton, ← ih, Nat.add_comm]
          rfl
      | false =>
          rw [Lei.expandedDigits_letter hdigit, if_neg Bool.false_ne_true]
          simp only
          generalize c.toNat - 65 + 10 = value
          have htwo : [value / 10, value % 10].length.bodd = false :=
            Nat.bodd_two
          have hone : [value % 10].length.bodd = true := Nat.bodd_one
          have hpair : Luhn.sum double [value / 10, value % 10] =
              luhnStep (value / 10) (!double) + luhnStep (value % 10) double := by
            unfold Luhn.sum
            rw [hone, Bool.xor_true, Luhn.sum_singleton]
            rfl
          rw [htwo, Bool.xor_false, ← ih, hpair,
            Nat.add_comm (luhnStep _ double), Nat.add_comm]

theorem computeCheckDigit_eq (base : List UInt8) :
    computeCheckDigit base =
      Luhn.checkDigit (base.flatMap Lei.expandedDigits) := by
  unfold computeCheckDigit Luhn.checkDigit
  rw [luhnSum_eq_sum, List.reverse_reverse]

/-!
## Acceptance
-/

def WellFormed (candidate : List UInt8) : Prop :=
  OfClasses expectedClass candidate

def expandedSum (candidate : List UInt8) : Nat :=
  Luhn.sum false (candidate.flatMap Lei.expandedDigits)

theorem checkBytes_eq_ok_iff_wellFormed (candidate : List UInt8) :
    checkBytes checkCharacterClass 0 candidate = .ok () <->
      WellFormed candidate :=
  checkBytes_eq_ok_iff_ofClasses checkCharacterClass_eq_ok_iff candidate

theorem toList_eq_take_append (candidate : Bytes 12) :
    candidate.toList =
      candidate.toList.take baseLen ++ [candidate.toList.getD baseLen 48] := by
  have hlength : candidate.toList.length = 12 := candidate.toList_length
  have h11 : 11 < candidate.toList.length := by omega
  have hend : candidate.toList.drop 11 = [candidate.toList.getD 11 48] := by
    rw [List.drop_eq_getElem_cons h11, List.getElem_eq_getD 48,
      List.drop_eq_nil_of_le (by omega)]
  show _ = candidate.toList.take 11 ++ [candidate.toList.getD 11 48]
  rw [← hend, List.take_append_drop]

theorem isAsciiDigit_last {candidate : Bytes 12}
    (h : WellFormed candidate.toList) :
    isAsciiDigit (candidate.toList.getD baseLen 48) = true := by
  have hlength : 11 < candidate.toList.length := by
    rw [candidate.toList_length]
    decide
  have hclass := h 11 _ (List.getElem?_eq_getElem hlength)
  rw [List.getElem_eq_getD 48] at hclass
  exact hclass

theorem validateCheckDigit_eq_ok_iff {candidate : Bytes 12}
    (h : WellFormed candidate.toList) :
    validateCheckDigit candidate.toList = .ok () <->
      expandedSum candidate.toList % 10 = 0 := by
  have hdigit := isAsciiDigit_last h
  have hrange := isAsciiDigit_iff.mp hdigit
  have hsplit : candidate.toList.flatMap Lei.expandedDigits =
      (candidate.toList.take baseLen).flatMap Lei.expandedDigits ++
        [(candidate.toList.getD baseLen 48).toNat - 48] := by
    conv => lhs; rw [toList_eq_take_append candidate]
    rw [List.flatMap_append, List.flatMap_singleton]
    rw [Lei.expandedDigits_digit hdigit]
  unfold expandedSum validateCheckDigit
  rw [hsplit, ← Luhn.checkDigit_eq_iff _ (by omega), computeCheckDigit_eq]
  simp only
  split
  · rename_i hne
    exact iff_of_false (fun h => nomatch h) hne
  · rename_i heq
    exact iff_of_true rfl (not_not.mp heq)

theorem validate_eq_ok_iff (candidate : Bytes 12) :
    validate candidate = .ok () <->
      WellFormed candidate.toList ∧ expandedSum candidate.toList % 10 = 0 := by
  unfold validate
  rw [bind_eq_ok]
  constructor
  · intro h
    rcases h with ⟨_, hclasses, hdigit⟩
    have hform := (checkBytes_eq_ok_iff_wellFormed _).mp hclasses
    exact ⟨hform, (validateCheckDigit_eq_ok_iff hform).mp hdigit⟩
  · intro h
    rcases h with ⟨hform, hsum⟩
    exact ⟨(), (checkBytes_eq_ok_iff_wellFormed _).mpr hform,
      (validateCheckDigit_eq_ok_iff hform).mpr hsum⟩

theorem fromBytes_isOk_iff (candidate : Bytes 12) :
    (exists isin, fromBytes candidate = .ok isin) <->
      validate candidate = .ok () :=
  validated_isOk_iff

/--
The single pass computes what the plain implementation does, and a candidate is
accepted exactly when it is well formed and the Luhn sum of its expansion is a
multiple of ten.
-/
theorem fromBytes_luhn :
    (forall base : List UInt8,
      computeCheckDigit base = referenceCheckDigit base) ∧
    forall candidate : Bytes 12,
      (exists isin, fromBytes candidate = .ok isin) <->
        WellFormed candidate.toList ∧
          expandedSum candidate.toList % 10 = 0 := by
  constructor
  · intro base
    rw [computeCheckDigit_eq, referenceCheckDigit_eq]
  · intro candidate
    rw [fromBytes_isOk_iff]
    exact validate_eq_ok_iff candidate

/-!
## Errors in the digits
-/

def ZeroNine (a b : UInt8) : Prop :=
  (a.toNat = 48 ∧ b.toNat = 57) ∨ (a.toNat = 57 ∧ b.toNat = 48)

theorem expandedSum_append (l r : List UInt8) (c : UInt8) :
    expandedSum (l ++ c :: r) =
      Luhn.sum false (l.flatMap Lei.expandedDigits ++
        (Lei.expandedDigits c ++ r.flatMap Lei.expandedDigits)) := by
  unfold expandedSum
  rw [List.flatMap_append, List.flatMap_cons]

theorem expandedSum_replaced_digit {before after : List UInt8} {a b : UInt8}
    (ha : isAsciiDigit a = true) (hb : isAsciiDigit b = true)
    (h : expandedSum (before ++ a :: after) ≡
      expandedSum (before ++ b :: after) [MOD 10]) : a = b := by
  have hra := isAsciiDigit_iff.mp ha
  have hrb := isAsciiDigit_iff.mp hb
  rw [expandedSum_append, expandedSum_append, Lei.expandedDigits_digit ha,
    Lei.expandedDigits_digit hb] at h
  have hdigit := Luhn.sum_replace_modEq (by omega) (by omega) h
  apply UInt8.toNat_inj.mp
  omega

theorem expandedSum_swapped_digits_iff {before after : List UInt8}
    {a b : UInt8} (ha : isAsciiDigit a = true) (hb : isAsciiDigit b = true)
    (hne : a ≠ b) :
    (expandedSum (before ++ b :: a :: after) ≡
        expandedSum (before ++ a :: b :: after) [MOD 10]) <->
      ZeroNine a b := by
  have hra := isAsciiDigit_iff.mp ha
  have hrb := isAsciiDigit_iff.mp hb
  have hne' : a.toNat ≠ b.toNat := fun h => hne (UInt8.toNat_inj.mp h)
  rw [expandedSum_append, expandedSum_append, List.flatMap_cons,
    List.flatMap_cons, Lei.expandedDigits_digit ha, Lei.expandedDigits_digit hb]
  show (Luhn.sum false (_ ++ (b.toNat - 48) :: (a.toNat - 48) :: _) ≡
    Luhn.sum false (_ ++ (a.toNat - 48) :: (b.toNat - 48) :: _) [MOD 10]) <-> _
  rw [Luhn.sum_exchange_modEq_iff (by omega) (by omega) (by omega)]
  unfold ZeroNine
  omega

theorem contains_digit {expected : CharacterClass} {a b : UInt8}
    (h : expected.Contains a) (ha : isAsciiDigit a = true)
    (hb : isAsciiDigit b = true) : expected.Contains b := by
  cases expected with
  | digit => exact hb
  | letter =>
      have hrange := isAsciiDigit_iff.mp ha
      have hletter := isAsciiUppercase_iff.mp h
      omega
  | alphanumeric => exact Or.inl hb

theorem wellFormed_swapped_digits {before after : List UInt8} {a b : UInt8}
    (ha : isAsciiDigit a = true) (hb : isAsciiDigit b = true)
    (h : WellFormed (before ++ a :: b :: after)) :
    WellFormed (before ++ b :: a :: after) := by
  intro j byte hbyte
  have hj := h j
  rcases Nat.lt_or_ge j before.length with hlt | hge
  · rw [List.getElem?_append_left hlt] at hbyte hj
    exact hj byte hbyte
  · rw [List.getElem?_append_right hge] at hbyte hj
    generalize j - before.length = k at hbyte hj
    rcases k with _ | _ | k
    · cases hbyte
      exact contains_digit (hj a rfl) ha hb
    · cases hbyte
      exact contains_digit (hj b rfl) hb ha
    · exact hj byte hbyte

/--
A valid ISIN in which one digit is replaced by another is rejected, and one in
which two different neighbouring digits are exchanged is accepted for a zero and
a nine alone.
-/
theorem fromBytes_digit_errors (isin : Isin) :
    (forall (i : Fin 12) (b : UInt8),
      isAsciiDigit (isin.bytes.get i) = true -> isAsciiDigit b = true ->
        isin.bytes.get i ≠ b ->
        Not (exists other, fromBytes (isin.bytes.set i b) = .ok other)) ∧
    forall (i : Nat) (a b : UInt8), isin.bytes.toList[i]? = some a ->
      isin.bytes.toList[i + 1]? = some b -> isAsciiDigit a = true ->
      isAsciiDigit b = true -> a ≠ b ->
        ((exists other, fromBytes (swapped isin.bytes i) = .ok other) <->
          ZeroNine a b) := by
  rcases (validate_eq_ok_iff isin.bytes).mp isin.valid with ⟨hform, hsum⟩
  constructor
  · intro i b ha hb hne
    rw [fromBytes_isOk_iff, validate_eq_ok_iff]
    intro h
    rcases h with ⟨_, hsum'⟩
    rcases exists_around isin.bytes i b with ⟨before, after, htext, htext'⟩
    rw [htext] at hsum
    rw [htext'] at hsum'
    exact hne (expandedSum_replaced_digit ha hb (hsum.trans hsum'.symm))
  · intro i a b ha hb hda hdb hne
    rw [fromBytes_isOk_iff, validate_eq_ok_iff]
    rcases exists_swapped ha hb with ⟨before, after, _, hsplit, hswap⟩
    rw [← expandedSum_swapped_digits_iff hda hdb hne, hswap]
    rw [hsplit] at hsum hform
    constructor
    · intro h
      rcases h with ⟨_, hsum'⟩
      exact hsum'.trans hsum.symm
    · intro hsame
      exact ⟨wellFormed_swapped_digits hda hdb hform, Eq.trans hsame hsum⟩

/-- The code `US0378331005`. -/
def appleCode : Isin where
  bytes := ⟨[85, 83, 48, 51, 55, 56, 51, 51, 49, 48, 48, 53], rfl⟩
  valid := by decide +kernel

/-- The check digit replaced, and exchanged with the zero before it. -/
theorem fromBytes_digit_errors_appleCode :
    Not (exists other, fromBytes (appleCode.bytes.set 11 54) = .ok other) ∧
      Not (exists other, fromBytes (swapped appleCode.bytes 10) = .ok other) := by
  rcases fromBytes_digit_errors appleCode with ⟨hreplaced, hswapped⟩
  constructor
  · exact hreplaced 11 54 (by decide) (by decide) (by decide)
  · rw [hswapped 10 48 53 rfl rfl (by decide) (by decide) (by decide)]
    unfold ZeroNine
    decide

end Isin

end Identifiers
end Valqeron
