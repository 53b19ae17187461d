import Valqeron.Foundation.Bitmap
import Valqeron.Identifiers.CountryCode

/-!
# The bitmap of country codes

A code of two letters has a bit of its own, so that the bitmap of a list of such
codes tells whether a code is listed.
-/

namespace Valqeron
namespace Identifiers

open Foundation
open Foundation.Bitmap

namespace CountryCode

structure LetterPair where
  first : UInt8
  second : UInt8
  firstUpper : isAsciiUppercase first = true
  secondUpper : isAsciiUppercase second = true
deriving DecidableEq

namespace LetterPair

def code (pair : LetterPair) : UInt8 × UInt8 := (pair.first, pair.second)

def index (pair : LetterPair) : Nat := bitIndex pair.first pair.second

def text (pair : LetterPair) : String := asciiText [pair.first, pair.second]

theorem index_lt_combinations (pair : LetterPair) : pair.index < combinations := by
  have hfirst := isAsciiUppercase_iff.mp pair.firstUpper
  have hsecond := isAsciiUppercase_iff.mp pair.secondUpper
  unfold index bitIndex combinations
  omega

theorem index_div_lt_words (pair : LetterPair) : pair.index / 64 < words := by
  have hlt := pair.index_lt_combinations
  unfold words combinations at *
  omega

theorem index_injective : Function.Injective index := by
  intro a b h
  have hfirstA := isAsciiUppercase_iff.mp a.firstUpper
  have hsecondA := isAsciiUppercase_iff.mp a.secondUpper
  have hfirstB := isAsciiUppercase_iff.mp b.firstUpper
  have hsecondB := isAsciiUppercase_iff.mp b.secondUpper
  unfold index bitIndex at h
  -- The second letter is less than the stride.
  have hfirst : a.first = b.first := UInt8.toNat_inj.mp (by omega)
  have hsecond : a.second = b.second := UInt8.toNat_inj.mp (by omega)
  cases a
  cases b
  cases hfirst
  cases hsecond
  rfl

theorem text_injective : Function.Injective text := by
  intro a b h
  have hbytes := asciiText_injective h
  cases a
  cases b
  simp only [List.cons.injEq, and_true] at hbytes
  rcases hbytes with ⟨hfirst, hsecond⟩
  cases hfirst
  cases hsecond
  rfl

end LetterPair

/-!
## The bits that the loop sets
-/

theorem buildBitmap_eq_setBits (codes : List (UInt8 × UInt8)) :
    buildBitmap codes =
      setBits (List.replicate words 0#64)
        (codes.map (fun code => bitIndex code.1 code.2)) := by
  unfold buildBitmap setBits
  rw [List.foldl_map]
  rfl

theorem isAssigned_eq_testBit (first second : UInt8) :
    isAssigned first second = testBit assigned (bitIndex first second) :=
  rfl

theorem length_buildBitmap (codes : List (UInt8 × UInt8)) :
    (buildBitmap codes).length = words := by
  rw [buildBitmap_eq_setBits, length_setBits, List.length_replicate]

theorem testBit_buildBitmap (codes : List LetterPair) (tested : LetterPair) :
    testBit (buildBitmap (codes.map LetterPair.code)) tested.index = true <->
      tested ∈ codes := by
  have hindices :
      (codes.map LetterPair.code).map (fun code => bitIndex code.1 code.2) =
        codes.map LetterPair.index := by
    rw [List.map_map]
    rfl
  rw [buildBitmap_eq_setBits, hindices, testBit_setBits_replicate (by decide)]
  · exact List.mem_map_of_injective LetterPair.index_injective
  · intro index hindex
    rcases List.mem_map.mp hindex with ⟨pair, _, rfl⟩
    exact pair.index_div_lt_words

/--
The bitmap of a list of two-letter codes represents it: the bit of a code is set
exactly when the code is listed, no two codes share a bit, and every code has
its word in the bitmap.
-/
theorem buildBitmap_represents (codes : List LetterPair) :
    (forall tested : LetterPair,
      testBit (buildBitmap (codes.map LetterPair.code))
          (bitIndex tested.first tested.second) = true <->
        tested ∈ codes) ∧
      (forall a b : LetterPair,
        bitIndex a.first a.second = bitIndex b.first b.second -> a = b) ∧
      forall tested : LetterPair,
        bitIndex tested.first tested.second / 64 <
          (buildBitmap (codes.map LetterPair.code)).length := by
  refine ⟨testBit_buildBitmap codes, ?_, ?_⟩
  · intro a b h
    exact LetterPair.index_injective h
  · intro tested
    rw [length_buildBitmap]
    exact tested.index_div_lt_words

/-!
## The table of assigned codes
-/

/-- What the build asserts of the table, given the entry before. -/
def checkTable : Option (UInt8 × UInt8) -> List (UInt8 × UInt8) -> Bool
  | _, [] => true
  | previous, (a, b) :: rest =>
      isAsciiUppercase a && isAsciiUppercase b &&
        (match previous with
          | none => true
          | some (prevA, prevB) => prevA < a || (prevA == a && prevB < b)) &&
        checkTable (some (a, b)) rest

theorem checkTable_assignedCodes :
    checkTable none (assignedCodes.map codeBytes) = true := by
  decide +kernel

theorem exists_letterPairs {previous : Option (UInt8 × UInt8)}
    {codes : List (UInt8 × UInt8)} (h : checkTable previous codes = true) :
    exists pairs : List LetterPair, pairs.map LetterPair.code = codes := by
  induction codes generalizing previous with
  | nil =>
      exact ⟨[], rfl⟩
  | cons entry rest ih =>
      rcases entry with ⟨a, b⟩
      unfold checkTable at h
      simp only [Bool.and_eq_true] at h
      rcases h with ⟨⟨⟨ha, hb⟩, _⟩, hrest⟩
      rcases ih hrest with ⟨pairs, rfl⟩
      exact ⟨{ first := a, second := b, firstUpper := ha, secondUpper := hb } :: pairs,
        rfl⟩

theorem exists_letterPairs_assigned :
    exists pairs : List LetterPair,
      pairs.map LetterPair.code = assignedCodes.map codeBytes ∧
        pairs.map LetterPair.text = assignedCodes := by
  rcases exists_letterPairs checkTable_assignedCodes with ⟨pairs, hpairs⟩
  have hread :
      (assignedCodes.map codeBytes).map (fun code => asciiText [code.1, code.2]) =
        assignedCodes := by
    decide +kernel
  refine ⟨pairs, hpairs, ?_⟩
  rw [← hread, ← hpairs, List.map_map]
  rfl

theorem isAssigned_iff (pair : LetterPair) :
    isAssigned pair.first pair.second = true <-> pair.text ∈ assignedCodes := by
  rcases exists_letterPairs_assigned with ⟨pairs, hpairs, htexts⟩
  rw [isAssigned_eq_testBit]
  unfold assigned
  rw [← hpairs, ← htexts, List.mem_map_of_injective LetterPair.text_injective]
  exact testBit_buildBitmap pairs pair

def LetterPair.bytes (pair : LetterPair) : Bytes 2 := ⟨[pair.first, pair.second], rfl⟩

theorem checkBytes_eq_ok_iff_letterPair {bytes : Bytes 2} :
    checkBytes checkCharacterClass 0 bytes.toList = .ok () <->
      exists pair : LetterPair, pair.bytes = bytes := by
  rw [checkBytes_eq_ok_iff]
  constructor
  · intro h
    rcases bytes with ⟨l, hl⟩
    rcases List.length_eq_two.mp hl with ⟨a, b, rfl⟩
    have ha := (checkCharacterClass_eq_ok_iff 0 a).mp (h 0 a rfl)
    have hb := (checkCharacterClass_eq_ok_iff 1 b).mp (h 1 b rfl)
    exact ⟨{ first := a, second := b, firstUpper := ha, secondUpper := hb }, rfl⟩
  · intro h
    rcases h with ⟨pair, rfl⟩
    intro i byte hbyte
    apply (checkCharacterClass_eq_ok_iff _ byte).mpr
    have hmem : byte ∈ [pair.first, pair.second] := List.mem_of_getElem? hbyte
    rcases List.mem_pair.mp hmem with rfl | rfl
    · exact pair.firstUpper
    · exact pair.secondUpper

theorem validateMembership_bytes (pair : LetterPair) :
    validateMembership pair.bytes = .ok () <-> pair.text ∈ assignedCodes := by
  rw [← isAssigned_iff]
  unfold validateMembership
  show (if isAssigned pair.first pair.second = true then _ else _) = _ <-> _
  cases isAssigned pair.first pair.second with
  | true => simp
  | false => simp

/-- The codes that are validated are those of the list. -/
theorem validate_eq_ok_iff_listed {bytes : Bytes 2} :
    validate bytes = .ok () <-> asciiText bytes.toList ∈ assignedCodes := by
  unfold validate
  constructor
  · intro h
    rcases bind_eq_ok.mp h with ⟨_, hclasses, hmember⟩
    rcases checkBytes_eq_ok_iff_letterPair.mp hclasses with ⟨pair, rfl⟩
    exact (validateMembership_bytes pair).mp hmember
  · intro h
    rcases exists_letterPairs_assigned with ⟨pairs, _, htexts⟩
    have hlisted := h
    rw [← htexts] at hlisted
    rcases List.mem_map.mp hlisted with ⟨pair, _, htext⟩
    have hbytes : pair.bytes = bytes :=
      List.Vector.toList_injective (asciiText_injective htext)
    subst hbytes
    exact bind_eq_ok.mpr
      ⟨(), checkBytes_eq_ok_iff_letterPair.mpr ⟨pair, rfl⟩,
        (validateMembership_bytes pair).mpr h⟩

theorem fromBytes_eq_ok_iff_listed {bytes : Bytes 2} {country : CountryCode} :
    fromBytes bytes = .ok country <->
      country.bytes = bytes ∧ asciiText bytes.toList ∈ assignedCodes := by
  rw [← validate_eq_ok_iff_listed]
  constructor
  · intro h
    rcases validated_eq_ok_iff.mp h with ⟨hvalid, rfl⟩
    exact ⟨rfl, hvalid⟩
  · intro h
    rcases h with ⟨rfl, _⟩
    exact country.fromBytes_bytes

end CountryCode

end Identifiers
end Valqeron
