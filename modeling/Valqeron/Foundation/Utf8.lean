import Valqeron.Foundation.Text

/-!
# Texts and their UTF-8 bytes

The bytes of a text determine the text, and the text of an ASCII byte array has
exactly the bytes of the array.
-/

namespace Valqeron
namespace Foundation

/-- `str::as_bytes` -/
def utf8Bytes (text : String) : List UInt8 :=
  text.toList.flatMap String.utf8EncodeChar

/-- `String::from_utf8` -/
def fromUtf8 (bytes : List UInt8) : Option String :=
  String.fromUTF8? bytes.toByteArray

/-- `str::trim` -/
def trimText (text : String) : String := String.ofList (trim text.toList)

/-- `str::to_ascii_uppercase`; `Char.toUpper` changes ASCII letters only. -/
def upperText (text : String) : String :=
  String.ofList (text.toList.map Char.toUpper)

theorem toByteArray_eq (text : String) :
    text.toByteArray = (utf8Bytes text).toByteArray := by
  rw [← String.utf8Encode_toList]
  rfl

theorem utf8Bytes_injective {a b : String} (h : utf8Bytes a = utf8Bytes b) :
    a = b := by
  apply String.toByteArray_inj.mp
  rw [toByteArray_eq, toByteArray_eq, h]

theorem utf8Size_charOfByte {b : UInt8} (h : b.toNat < 128) :
    (charOfByte b).utf8Size = 1 := by
  have hvalue : (charOfByte b).val.toNat = b.toNat := charOfByte_toNat b
  rw [Char.utf8Size_eq_one_iff, UInt32.le_iff_toNat_le, hvalue]
  exact Nat.le_of_lt_succ h

theorem utf8EncodeChar_charOfByte {b : UInt8} (h : b.toNat < 128) :
    String.utf8EncodeChar (charOfByte b) = [b] := by
  have hvalue : (charOfByte b).val.toNat = b.toNat := charOfByte_toNat b
  rw [String.utf8EncodeChar_eq_singleton (utf8Size_charOfByte h),
    List.singleton_inj]
  apply UInt8.toNat_inj.mp
  rw [UInt32.toNat_toUInt8, hvalue]
  exact Nat.mod_eq_of_lt b.toNat_lt

theorem utf8Bytes_asciiText {bytes : List UInt8}
    (h : forall b, b ∈ bytes -> b.toNat < 128) :
    utf8Bytes (asciiText bytes) = bytes := by
  unfold utf8Bytes
  rw [toList_asciiText, List.flatMap_map]
  induction bytes with
  | nil => rfl
  | cons b rest ih =>
      rw [List.flatMap_cons, utf8EncodeChar_charOfByte (h b List.mem_cons_self),
        ih (fun c hc => h c (List.mem_cons_of_mem b hc))]
      rfl

theorem fromUtf8_eq_some {bytes : List UInt8}
    (h : forall b, b ∈ bytes -> b.toNat < 128) :
    fromUtf8 bytes = some (asciiText bytes) := by
  have hbytes : bytes.toByteArray = (asciiText bytes).toByteArray := by
    rw [toByteArray_eq, utf8Bytes_asciiText h]
  have hvalid := (asciiText bytes).isValidUTF8
  unfold fromUtf8 String.fromUTF8?
  rw [hbytes, dif_pos hvalid]
  rfl

/-!
## Codes read from a text

The code that a text is normalised to is the trimmed text in upper case.
-/

theorem toNat_toUpper (c : Char) :
    c.toUpper.toNat =
      if 97 <= c.toNat ∧ c.toNat <= 122 then c.toNat - 32 else c.toNat := by
  have hlow : 'a'.val <= c.val <-> 97 <= c.toNat := UInt32.le_iff_toNat_le
  have hhigh : c.val <= 'z'.val <-> c.toNat <= 122 := UInt32.le_iff_toNat_le
  unfold Char.toUpper
  split
  · rename_i hlower
    have hrange : 97 <= c.toNat ∧ c.toNat <= 122 :=
      ⟨hlow.mp hlower.left, hhigh.mp hlower.right⟩
    rw [if_pos hrange]
    -- The difference of the letters is negative, and wraps around.
    show (c.val + ('A'.val - 'a'.val)).toNat = c.val.toNat - 32
    have hdifference : ('A'.val - 'a'.val).toNat = 2 ^ 32 - 32 := rfl
    have hvalue : c.val.toNat = c.toNat := rfl
    rw [UInt32.toNat_add, hdifference, hvalue]
    omega
  · rename_i hlower
    rw [if_neg]
    intro h
    rcases h with ⟨hge, hle⟩
    exact hlower ⟨hlow.mpr hge, hhigh.mpr hle⟩

theorem charOfByte_asciiUpperByte {c : Char} (h : isAscii c = true) :
    charOfByte (asciiUpperByte c) = c.toUpper := by
  have hlt : c.toNat < 128 := of_decide_eq_true h
  apply Char.toNat_inj.mp
  rw [charOfByte_toNat, toNat_toUpper]
  unfold asciiUpperByte
  simp only [Bool.and_eq_true, decide_eq_true_eq]
  split
  · exact Nat.mod_eq_of_lt (by omega)
  · exact Nat.mod_eq_of_lt (by omega)

theorem isAscii_of_toUpper {c : Char} {b : UInt8} (hb : b.toNat < 128)
    (h : c.toUpper = charOfByte b) : isAscii c = true := by
  have hvalue := congrArg Char.toNat h
  rw [toNat_toUpper, charOfByte_toNat] at hvalue
  apply decide_eq_true
  split at hvalue
  · omega
  · omega

theorem upperText_eq_asciiText_iff {input : String} {bytes : List UInt8} :
    upperText (trimText input) = asciiText bytes <->
      (trim input.toList).map Char.toUpper = bytes.map charOfByte := by
  unfold upperText trimText asciiText
  rw [String.ofList_inj, String.toList_ofList]

theorem asciiText_of_normalizeCode {error : Type} {n : Nat} (hn : 0 < n)
    {empty : error} {invalidLength : Nat -> error}
    {notAscii : Nat -> Char -> error} {input : String} {v : Bytes n}
    (h : normalizeCode n empty invalidLength notAscii input = .ok v) :
    upperText (trimText input) = asciiText v.toList := by
  rcases (normalizeCode_eq_ok_iff hn).mp h with ⟨hascii, hlist⟩
  rw [upperText_eq_asciiText_iff, hlist, List.map_map]
  apply List.map_congr_left
  intro c hc
  exact (charOfByte_asciiUpperByte (hascii c hc)).symm

theorem normalizeCode_of_asciiText {error : Type} {n : Nat} (hn : 0 < n)
    (empty : error) (invalidLength : Nat -> error)
    (notAscii : Nat -> Char -> error) {input : String} {v : Bytes n}
    (hv : forall b, b ∈ v.toList -> b.toNat < 128)
    (h : upperText (trimText input) = asciiText v.toList) :
    normalizeCode n empty invalidLength notAscii input = .ok v := by
  rw [upperText_eq_asciiText_iff] at h
  have hascii : forall c, c ∈ trim input.toList -> isAscii c = true := by
    intro c hc
    have hupper := List.mem_map_of_mem (f := Char.toUpper) hc
    rw [h] at hupper
    rcases List.mem_map.mp hupper with ⟨b, hb, hcb⟩
    exact isAscii_of_toUpper (hv b hb) hcb.symm
  apply (normalizeCode_eq_ok_iff hn).mpr
  refine ⟨hascii, ?_⟩
  apply List.map_injective_iff.mpr (fun _ _ => charOfByte_injective)
  rw [← h, List.map_map]
  apply List.map_congr_left
  intro c hc
  exact (charOfByte_asciiUpperByte (hascii c hc)).symm

end Foundation
end Valqeron
