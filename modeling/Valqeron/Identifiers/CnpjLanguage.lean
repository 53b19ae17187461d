import Mathlib.Algebra.Order.Ring.Int
import Mathlib.Data.Vector.Mem
import Valqeron.Foundation.Decimal
import Valqeron.Foundation.Utf8
import Valqeron.Identifiers.Cnpj

/-!
# The texts that are a CNPJ

A text is accepted exactly when what remains of it without separators, in upper
case, is a code: fourteen characters of the right classes, not all equal, with
the two modulo-11 check digits.  The parts of a code and its formatted text are
those of the registration number as it is printed.
-/

namespace Valqeron
namespace Identifiers

open Foundation

/-!
## The formatted text and the parts of a code
-/

structure FormattedCnpj where
  bytes : Bytes 18
deriving DecidableEq

namespace FormattedCnpj

def new (cnpj : Cnpj) : FormattedCnpj :=
  let d := cnpj.bytes.get
  -- 46 is `.`, 47 is `/` and 45 is `-`
  { bytes := ⟨[d 0, d 1, 46, d 2, d 3, d 4, 46, d 5, d 6, d 7, 47, d 8, d 9,
      d 10, d 11, 45, d 12, d 13], rfl⟩ }

def asStr (f : FormattedCnpj) : String := asciiText f.bytes.toList

end FormattedCnpj

namespace Cnpj

def formatted (c : Cnpj) : FormattedCnpj := FormattedCnpj.new c

def branchCode (c : Cnpj) : String :=
  asciiText ((c.bytes.toList.drop 8).take 4)

def isRoot (c : Cnpj) : Bool := c.branchCode == "0001"

/-- The branch as a `u16`; a branch with a letter has none. -/
def branchNumber (c : Cnpj) : Option Nat :=
  parseUnsigned (2 ^ 16) c.branchCode

/-!
## What a code is
-/

def codeValue (c : Char) : Nat := c.toNat - 48

/-- The sum with the weights 2 to 9, which repeat from the right. -/
def weightedSum : List Nat -> Nat
  | [] => 0
  | v :: rest => v * (2 + rest.length % 8) + weightedSum rest

/-- The complement of the sum to eleven, where ten is written as zero. -/
def modElevenDigit (values : List Nat) : Nat :=
  (11 - weightedSum values % 11) % 11 % 10

structure IsCode (code : List Char) : Prop where
  length : code.length = 14
  classes : forall i c, code[i]? = some c ->
    if i < 12 then c.isDigit = true ∨ c.isUpper = true else c.isDigit = true
  notRepeated : exists a b, a ∈ code ∧ b ∈ code ∧ a ≠ b
  firstDigit : code[12]?.map codeValue =
    some (modElevenDigit ((code.take 12).map codeValue))
  secondDigit : code[13]?.map codeValue =
    some (modElevenDigit ((code.take 13).map codeValue))

def plainText (input : String) : List Char :=
  (input.toList.filter (fun c => !isFormattingChar c)).map Char.toUpper

/-!
## The check digits
-/

def repeatedWeights : Nat -> List Nat
  | 0 => []
  | n + 1 => (2 + n % 8) :: repeatedWeights n

theorem zip_repeatedWeights_sum (values : List Nat) :
    ((values.zip (repeatedWeights values.length)).map
      (fun vw => vw.1 * vw.2)).sum = weightedSum values := by
  induction values with
  | nil => rfl
  | cons v rest ih =>
      exact congrArg (fun sum => v * (2 + rest.length % 8) + sum) ih

theorem computeCheckDigit_eq {values weights : List Nat}
    (h : weights = repeatedWeights values.length) :
    computeCheckDigit values weights = modElevenDigit values := by
  have hlt : weightedSum values % 11 < 11 := Nat.mod_lt _ (by decide)
  unfold computeCheckDigit modElevenDigit
  rw [h, zip_repeatedWeights_sum]
  simp only
  split
  · omega
  · omega

theorem computeValidCheckDigits_eq {base : List UInt8}
    (hlength : base.length = 12) :
    computeValidCheckDigits base =
      (modElevenDigit (base.map charValue),
        modElevenDigit
          (base.map charValue ++ [modElevenDigit (base.map charValue)])) := by
  have hvalues : (base.map charValue).length = 12 := by
    rw [List.length_map, hlength]
  have hfirst : weightsDv1 =
      repeatedWeights (base.map charValue).length := by
    rw [hvalues]
    rfl
  have hsecond : forall dv1, weightsDv2 =
      repeatedWeights (base.map charValue ++ [dv1]).length := by
    intro dv1
    rw [List.length_append, hvalues]
    rfl
  unfold computeValidCheckDigits
  simp only
  rw [computeCheckDigit_eq hfirst, computeCheckDigit_eq (hsecond _)]

/-- The second digit is computed from the first one, which is the one found. -/
theorem validateCheckDigits_eq_ok_iff {candidate : List UInt8}
    (hlength : candidate.length = 14) :
    validateCheckDigits candidate = .ok () <->
      candidate[12]?.map charValue =
          some (modElevenDigit ((candidate.take 12).map charValue)) ∧
        candidate[13]?.map charValue =
          some (modElevenDigit ((candidate.take 13).map charValue)) := by
  have h12 : 12 < candidate.length := by omega
  have h13 : 13 < candidate.length := by omega
  have hbase : (candidate.take baseLen).length = 12 :=
    List.length_take_of_le h12.le
  have htake : (candidate.take 13).map charValue =
      (candidate.take 12).map charValue ++ [charValue candidate[12]] := by
    rw [List.take_succ_eq_append_getElem h12, List.map_append]
    rfl
  unfold validateCheckDigits
  rw [computeValidCheckDigits_eq hbase, List.getElem?_eq_getElem h12,
    List.getElem?_eq_getElem h13, htake, ← List.getElem_eq_getD (h := h12),
    ← List.getElem_eq_getD (h := h13), Option.map_some, Option.map_some,
    Option.some_inj, Option.some_inj]
  show (if modElevenDigit ((candidate.take 12).map charValue) ≠ _ then _
    else if modElevenDigit ((candidate.take 12).map charValue ++
      [modElevenDigit ((candidate.take 12).map charValue)]) ≠ _ then _
    else _) = _ <-> _
  split
  · rename_i hne
    exact iff_of_false (fun h => nomatch h) (fun h => hne h.left.symm)
  · rename_i heq
    rw [not_not.mp heq]
    split
    · rename_i hne
      exact iff_of_false (fun h => nomatch h) (fun h => hne h.right.symm)
    · rename_i heq'
      exact iff_of_true rfl ⟨rfl, (not_not.mp heq').symm⟩

/-!
## Validation
-/

theorem isDigit_charOfByte (b : UInt8) :
    (charOfByte b).isDigit = isAsciiDigit b := by
  unfold isAsciiDigit
  rw [Bool.eq_iff_iff, Char.isDigit_iff_toNat, charOfByte_toNat,
    Bool.and_eq_true, decide_eq_true_eq, decide_eq_true_eq]
  rfl

theorem isUpper_charOfByte (b : UInt8) :
    (charOfByte b).isUpper = isAsciiUppercase b := by
  have hlow : 'A'.val <= (charOfByte b).val <-> 65 <= b.toNat := by
    rw [← charOfByte_toNat]
    exact UInt32.le_iff_toNat_le
  have hhigh : (charOfByte b).val <= 'Z'.val <-> b.toNat <= 90 := by
    rw [← charOfByte_toNat]
    exact UInt32.le_iff_toNat_le
  unfold isAsciiUppercase
  rw [Bool.eq_iff_iff, Bool.and_eq_true, decide_eq_true_eq, decide_eq_true_eq,
    ← hlow, ← hhigh]
  exact decide_eq_true_iff

theorem codeValue_charOfByte (b : UInt8) :
    codeValue (charOfByte b) = charValue b := by
  unfold codeValue charValue
  rw [charOfByte_toNat]

theorem positionClass_contains_iff (i : Nat) (byte : UInt8) :
    (positionClass i).Contains byte <->
      if i < 12 then
        (charOfByte byte).isDigit = true ∨ (charOfByte byte).isUpper = true
      else
        (charOfByte byte).isDigit = true := by
  rw [isDigit_charOfByte, isUpper_charOfByte]
  unfold positionClass baseLen
  split
  · rfl
  · rfl

theorem checkBytes_eq_ok_iff_classes (candidate : List UInt8) :
    checkBytes checkCharacterClass 0 candidate = .ok () <->
      forall i c, (candidate.map charOfByte)[i]? = some c ->
        if i < 12 then c.isDigit = true ∨ c.isUpper = true
        else c.isDigit = true := by
  simp only [checkBytes_eq_ok_iff, Nat.zero_add, checkCharacterClass_eq_ok_iff,
    positionClass_contains_iff, List.getElem?_map, Option.map_eq_some_iff]
  constructor
  · intro h i c hc
    rcases hc with ⟨byte, hbyte, rfl⟩
    exact h i byte hbyte
  · intro h i byte hbyte
    exact h i _ ⟨byte, hbyte, rfl⟩

theorem validateNotRepeated_eq_ok_iff {first : UInt8} {rest : List UInt8} :
    validateNotRepeated (first :: rest) = .ok () <->
      exists a b, a ∈ first :: rest ∧ b ∈ first :: rest ∧ a ≠ b := by
  unfold validateNotRepeated
  split
  · rename_i hall
    apply iff_of_false (fun h => nomatch h)
    intro h
    rcases h with ⟨a, b, ha, hb, hne⟩
    have hsame : forall x, x ∈ first :: rest -> x = first := by
      intro x hx
      have hx' := List.all_eq_true.mp hall x hx
      exact Option.some_inj.mp (eq_of_beq hx')
    exact hne ((hsame a ha).trans (hsame b hb).symm)
  · rename_i hall
    apply iff_of_true rfl
    by_contra hnone
    apply hall
    rw [List.all_eq_true]
    intro x hx
    by_contra hne
    apply hnone
    refine ⟨x, first, hx, List.mem_cons_self, ?_⟩
    intro h
    cases h
    exact hne BEq.rfl

theorem exists_ne_map_charOfByte (bytes : List UInt8) :
    (exists a b, a ∈ bytes.map charOfByte ∧ b ∈ bytes.map charOfByte ∧
        a ≠ b) <->
      exists a b, a ∈ bytes ∧ b ∈ bytes ∧ a ≠ b := by
  constructor
  · intro h
    rcases h with ⟨a, b, ha, hb, hne⟩
    rcases List.mem_map.mp ha with ⟨x, hx, rfl⟩
    rcases List.mem_map.mp hb with ⟨y, hy, rfl⟩
    exact ⟨x, y, hx, hy, fun h => hne (congrArg charOfByte h)⟩
  · intro h
    rcases h with ⟨a, b, ha, hb, hne⟩
    exact ⟨charOfByte a, charOfByte b, List.mem_map_of_mem ha,
      List.mem_map_of_mem hb, fun h => hne (charOfByte_injective h)⟩

theorem map_codeValue_take (bytes : List UInt8) (n : Nat) :
    ((bytes.map charOfByte).take n).map codeValue =
      (bytes.take n).map charValue := by
  rw [← List.map_take, List.map_map]
  exact List.map_congr_left (fun b _ => codeValue_charOfByte b)

theorem map_codeValue_getElem? (bytes : List UInt8) (i : Nat) :
    (bytes.map charOfByte)[i]?.map codeValue = bytes[i]?.map charValue := by
  rw [List.getElem?_map, Option.map_map]
  exact Option.map_congr (fun b _ => codeValue_charOfByte b)

theorem validate_eq_ok_iff (candidate : Bytes 14) :
    validate candidate = .ok () <->
      IsCode (candidate.toList.map charOfByte) := by
  have hlength : candidate.toList.length = 14 := candidate.toList_length
  have hrepeated : validateNotRepeated candidate.toList = .ok () <->
      exists a b, a ∈ candidate.toList ∧ b ∈ candidate.toList ∧ a ≠ b := by
    cases hlist : candidate.toList with
    | nil =>
        rw [hlist] at hlength
        cases hlength
    | cons first rest => exact validateNotRepeated_eq_ok_iff
  have hclasses := checkBytes_eq_ok_iff_classes candidate.toList
  have hdigits := validateCheckDigits_eq_ok_iff hlength
  simp only [← map_codeValue_take, ← map_codeValue_getElem?] at hdigits
  rw [← exists_ne_map_charOfByte] at hrepeated
  unfold validate
  rw [bind_eq_ok]
  constructor
  · intro h
    rcases h with ⟨_, hclass, h⟩
    rcases bind_eq_ok.mp h with ⟨_, hdiffer, hcheck⟩
    exact
      { length := (List.length_map _).trans hlength
        classes := hclasses.mp hclass
        notRepeated := hrepeated.mp hdiffer
        firstDigit := (hdigits.mp hcheck).left
        secondDigit := (hdigits.mp hcheck).right }
  · intro h
    refine ⟨(), hclasses.mpr h.classes, bind_eq_ok.mpr
      ⟨(), hrepeated.mpr h.notRepeated, hdigits.mpr ⟨?_, ?_⟩⟩⟩
    · exact h.firstDigit
    · exact h.secondDigit

/-!
## Normalisation
-/

theorem normalize_eq_ok_iff {input : String} {v : Bytes 14} :
    normalize input = .ok v <->
      (forall c, c ∈ input.toList.filter (fun c => !isFormattingChar c) ->
        isAscii c = true) ∧
      v.toList =
        (input.toList.filter (fun c => !isFormattingChar c)).map
          asciiUpperByte := by
  have hempty : input.isEmpty = true ->
      (input.toList.filter (fun c => !isFormattingChar c)).length ≠ 14 := by
    intro h
    rw [String.isEmpty_iff.mp h]
    decide
  exact normalizeSelected_eq_ok_iff hempty

theorem normalize_eq_ok_iff_plainText {input : String} {v : Bytes 14}
    (hv : forall b, b ∈ v.toList -> b.toNat < 128) :
    normalize input = .ok v <-> plainText input = v.toList.map charOfByte := by
  have hupper : forall {l : List Char}, (forall c, c ∈ l -> isAscii c = true) ->
      l.map Char.toUpper = (l.map asciiUpperByte).map charOfByte := by
    intro l hascii
    rw [List.map_map]
    exact List.map_congr_left
      (fun c hc => (charOfByte_asciiUpperByte (hascii c hc)).symm)
  rw [normalize_eq_ok_iff]
  unfold plainText
  constructor
  · intro h
    rcases h with ⟨hascii, hlist⟩
    rw [hlist, hupper hascii]
  · intro htext
    have hascii : forall c,
        c ∈ input.toList.filter (fun c => !isFormattingChar c) ->
          isAscii c = true := by
      intro c hc
      have hmem := List.mem_map_of_mem (f := Char.toUpper) hc
      rw [htext] at hmem
      rcases List.mem_map.mp hmem with ⟨b, hb, hcb⟩
      exact isAscii_of_toUpper (hv b hb) hcb.symm
    rw [hupper hascii] at htext
    exact ⟨hascii, (List.map_injective_iff.mpr
      (fun _ _ => charOfByte_injective) htext).symm⟩

/-!
## Acceptance
-/

theorem fromBytes_eq_ok_iff {bytes : Bytes 14} {c : Cnpj} :
    fromBytes bytes = .ok c <-> bytes = c.bytes := by
  constructor
  · intro h
    rcases validated_eq_ok_iff.mp h with ⟨_, rfl⟩
    rfl
  · intro h
    cases h
    exact c.fromBytes_bytes

theorem parse_eq_ok_iff {input : String} {c : Cnpj} :
    parse input = .ok c <-> plainText input = c.asStr.toList := by
  have hcode : forall b, b ∈ c.bytes.toList -> b.toNat < 128 :=
    fun b hb => lt_128_of_isCodeByte (c.isCodeByte_of_mem hb)
  unfold asStr
  rw [toList_asciiText, ← normalize_eq_ok_iff_plainText hcode]
  unfold parse
  rw [bind_eq_ok]
  constructor
  · intro h
    rcases h with ⟨bytes, hnormalize, hbytes⟩
    rw [fromBytes_eq_ok_iff.mp hbytes] at hnormalize
    exact hnormalize
  · intro hnormalize
    exact ⟨c.bytes, hnormalize, c.fromBytes_bytes⟩

theorem exists_bytes {code : List Char} {n : Nat} (hlength : code.length = n)
    (h : forall c, c ∈ code -> c.toNat < 128) :
    exists v : Bytes n, code = v.toList.map charOfByte := by
  refine ⟨⟨code.map (fun c => UInt8.ofNat c.toNat), ?_⟩, ?_⟩
  · rw [List.length_map, hlength]
  · show code = (code.map _).map charOfByte
    rw [List.map_map]
    conv => lhs; rw [← List.map_id code]
    apply List.map_congr_left
    intro c hc
    have hlt := h c hc
    apply Char.toNat_inj.mp
    show c.toNat = (charOfByte (UInt8.ofNat c.toNat)).toNat
    rw [charOfByte_toNat]
    exact (Nat.mod_eq_of_lt (by omega)).symm

theorem IsCode.ascii {code : List Char} (h : IsCode code) {c : Char}
    (hc : c ∈ code) : c.toNat < 128 := by
  have hupper : c.isUpper = true -> c.toNat <= 90 := by
    intro hc
    exact UInt32.le_iff_toNat_le.mp (of_decide_eq_true hc).right
  have hdigit : c.isDigit = true -> c.toNat <= 57 := by
    intro hc
    exact (Char.isDigit_iff_toNat.mp hc).right
  rcases List.getElem?_of_mem hc with ⟨i, hi⟩
  have hclass := h.classes i c hi
  split at hclass
  · rcases hclass with hclass | hclass
    · exact Nat.lt_of_le_of_lt (hdigit hclass) (by decide)
    · exact Nat.lt_of_le_of_lt (hupper hclass) (by decide)
  · exact Nat.lt_of_le_of_lt (hdigit hclass) (by decide)

theorem parse_isOk_iff (input : String) :
    (exists c, parse input = .ok c) <-> IsCode (plainText input) := by
  constructor
  · intro hgiven
    rcases hgiven with ⟨c, h⟩
    rw [parse_eq_ok_iff.mp h]
    unfold asStr
    rw [toList_asciiText]
    exact (validate_eq_ok_iff c.bytes).mp c.valid
  · intro hcode
    rcases exists_bytes hcode.length (fun _ => hcode.ascii) with ⟨v, hv⟩
    rw [hv] at hcode
    refine ⟨⟨v, (validate_eq_ok_iff v).mpr hcode⟩, ?_⟩
    apply parse_eq_ok_iff.mpr
    unfold asStr
    rw [toList_asciiText, hv]

/-!
## The printed texts
-/

theorem toUpper_charOfByte {b : UInt8} (h : isCodeByte b = true) :
    (charOfByte b).toUpper = charOfByte b := by
  rw [← charOfByte_asciiUpperByte (isAscii_charOfByte h),
    asciiUpperByte_charOfByte h]

theorem plainText_formatted (c : Cnpj) :
    plainText c.formatted.asStr = c.asStr.toList := by
  have hcode : forall i, isCodeByte (c.bytes.get i) = true :=
    fun i => c.isCodeByte_of_mem (List.Vector.get_mem i c.bytes)
  have hkeep : forall i, isFormattingChar (charOfByte (c.bytes.get i)) = false :=
    fun i => isFormattingChar_charOfByte (hcode i)
  have hupper : forall i, (charOfByte (c.bytes.get i)).toUpper =
      charOfByte (c.bytes.get i) := fun i => toUpper_charOfByte (hcode i)
  have hdot : isFormattingChar (charOfByte 46) = true := by decide
  have hslash : isFormattingChar (charOfByte 47) = true := by decide
  have hdash : isFormattingChar (charOfByte 45) = true := by decide
  have hlist : c.bytes.toList = List.ofFn c.bytes.get := by
    rw [← List.Vector.toList_ofFn, List.Vector.ofFn_get]
  unfold plainText FormattedCnpj.asStr asStr formatted FormattedCnpj.new
  rw [toList_asciiText, toList_asciiText, hlist]
  generalize c.bytes.get = d at hkeep hupper
  simp [List.ofFn_succ, hkeep, hupper, hdot, hslash, hdash]

theorem branchNumber_text {c : Cnpj} {n : Nat} (h : c.branchNumber = some n) :
    n < 10 ^ 4 ∧ decimalText 4 n = c.branchCode := by
  have hlist : c.branchCode.toList =
      ((c.bytes.toList.drop 8).take 4).map charOfByte := toList_asciiText _
  have hlength : c.branchCode.toList.length = 4 := by
    rw [hlist, List.length_map, List.length_take, List.length_drop,
      c.bytes.toList_length]
    rfl
  have hsign : c.branchCode.toList.head? ≠ some '+' := by
    intro hplus
    have hmem := List.mem_of_mem_head? (Option.mem_def.mpr hplus)
    rw [hlist] at hmem
    rcases List.mem_map.mp hmem with ⟨b, hb, hchar⟩
    have hcode := c.isCodeByte_of_mem
      (List.mem_of_mem_drop (List.mem_of_mem_take hb))
    have hrange := isCodeByte_iff.mp hcode
    have hvalue := congrArg Char.toNat hchar
    have hplusValue : '+'.toNat = 43 := rfl
    rw [charOfByte_toNat] at hvalue
    omega
  have hread := parseUnsigned_eq_some hsign h
  rw [hlength] at hread
  exact hread

/--
A text is a CNPJ exactly when it is a code without its separators and in upper
case, so separators and letter case do not matter; the code as it is stored and
as it is printed is read back; the number of a branch is its text.
-/
theorem parse_language :
    (forall input, (exists c, parse input = .ok c) <->
      IsCode (plainText input)) ∧
    (forall input c, parse input = .ok c <->
      plainText input = c.asStr.toList) ∧
    (forall input input' c, plainText input = plainText input' ->
      (parse input = .ok c <-> parse input' = .ok c)) ∧
    (forall c, parse c.asStr = .ok c ∧ parse c.formatted.asStr = .ok c) ∧
    forall c n, branchNumber c = some n ->
      n < 10 ^ 4 ∧ decimalText 4 n = c.branchCode := by
  refine ⟨parse_isOk_iff, fun _ _ => parse_eq_ok_iff, ?_, ?_,
    fun _ _ => branchNumber_text⟩
  · intro input input' c hsame
    rw [parse_eq_ok_iff, parse_eq_ok_iff, hsame]
  · intro c
    exact ⟨c.parse_asStr, parse_eq_ok_iff.mpr c.plainText_formatted⟩

end Cnpj

end Identifiers
end Valqeron
