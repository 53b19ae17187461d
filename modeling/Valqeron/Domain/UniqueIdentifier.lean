import Valqeron.Domain.Common
import Valqeron.Foundation.Digits

/-!
# Identifiers as bytes and as text

A UUID is stored as its sixteen bytes and sent as text.  What the text looks like
is up to the library that prints and parses it; the development relies on nothing
but that a printed identifier is parsed back.
-/

namespace Valqeron
namespace Domain

open Foundation

/-- The value of a `BLOB` column; SQLite compares it byte by byte. -/
abbrev Blob := List (Fin 256)

/-- `Uuid::as_bytes`. -/
def Uuid.asBytes (id : Uuid) : Blob := bigEndian 256 16 id.val

/-- `Uuid::from_slice`. -/
def Uuid.fromSlice (bytes : Blob) : Option Uuid :=
  if bytes.length = 16 then some (Fin.ofNat _ (fromBigEndian bytes)) else none

namespace Uuid

theorem val_lt (id : Uuid) : id.val < 256 ^ 16 := id.isLt

theorem fromSlice_asBytes (id : Uuid) : fromSlice id.asBytes = some id := by
  have hlength : id.asBytes.length = 16 := length_bigEndian 16 id.val
  unfold fromSlice
  rw [if_pos hlength]
  unfold asBytes
  rw [fromBigEndian_bigEndian id.val_lt, Fin.ofNat_val_eq_self]

theorem asBytes_of_fromSlice {bytes : Blob} {id : Uuid}
    (h : fromSlice bytes = some id) : id.asBytes = bytes := by
  unfold fromSlice at h
  split at h
  · rename_i hlength
    have hlt := fromBigEndian_lt bytes
    rw [hlength] at hlt
    cases h
    have hval : (Fin.ofNat (2 ^ 128) (fromBigEndian bytes)).val =
        fromBigEndian bytes := Nat.mod_eq_of_lt hlt
    unfold asBytes
    rw [hval, ← hlength, bigEndian_fromBigEndian]
  · cases h

theorem asBytes_lt_iff {a b : Uuid} : asBytes a < asBytes b <-> a < b :=
  bigEndian_lt_iff a.val_lt b.val_lt

end Uuid

/-- `Display` and `parse_str` of a UUID. -/
structure UuidText where
  value : Uuid -> String
  parseStr : String -> Option Uuid
  parseStr_value : forall id, parseStr (value id) = some id

namespace UuidText

variable (text : UuidText)

theorem value_injective {a b : Uuid} (h : text.value a = text.value b) :
    a = b := by
  apply Option.some.inj
  rw [← text.parseStr_value a, h, text.parseStr_value b]

end UuidText

/-!
## The hyphenated form
-/

def hexValue (c : Char) : Option (Fin 16) :=
  let n := c.toNat
  if 48 <= n ∧ n <= 57 then some (Fin.ofNat 16 (n - 48))
  else if 97 <= n ∧ n <= 102 then some (Fin.ofNat 16 (n - 87))
  else if 65 <= n ∧ n <= 70 then some (Fin.ofNat 16 (n - 55))
  else none

def hexDigit (d : Fin 16) : Char := Nat.digitChar d.val

theorem hexValue_hexDigit (d : Fin 16) : hexValue (hexDigit d) = some d := by
  revert d
  decide

theorem hexDigit_ne_hyphen (d : Fin 16) : hexDigit d ≠ '-' := by
  revert d
  decide

def parseSimple (s : List Char) : Option Uuid :=
  if s.length = 32 then
    (s.mapM hexValue).map (fun ds => Fin.ofNat _ (fromBigEndian ds))
  else
    none

def hyphenate (s : List Char) : List Char :=
  s.take 8 ++ '-' :: ((s.drop 8).take 4 ++ '-' :: ((s.drop 12).take 4 ++
    '-' :: ((s.drop 16).take 4 ++ '-' :: s.drop 20)))

def parseHyphenated (s : List Char) : Option Uuid :=
  let digits := s.filter (fun c => c != '-')
  if s = hyphenate digits then parseSimple digits else none

/-- `parse_str` takes the simple, hyphenated, braced and URN forms. -/
def parseUuid (s : List Char) : Option Uuid :=
  if s.length = 32 then
    parseSimple s
  else if s.length = 38 ∧ s.head? = some '{' ∧ s.getLast? = some '}' then
    parseHyphenated s.tail.dropLast
  else if s.length = 45 ∧ s.take 9 = "urn:uuid:".toList then
    parseHyphenated (s.drop 9)
  else
    parseHyphenated s

def hexDigits (id : Uuid) : List Char :=
  (bigEndian 16 32 id.val).map hexDigit

theorem length_hexDigits (id : Uuid) : (hexDigits id).length = 32 := by
  unfold hexDigits
  rw [List.length_map, length_bigEndian]

theorem parseSimple_hexDigits (id : Uuid) :
    parseSimple (hexDigits id) = some id := by
  have hvalues : (hexDigits id).mapM hexValue =
      some (bigEndian 16 32 id.val) := by
    unfold hexDigits
    induction bigEndian 16 32 id.val with
    | nil => rfl
    | cons d rest ih => simp [hexValue_hexDigit, ih]
  have hlt : id.val < 16 ^ 32 := id.isLt
  unfold parseSimple
  rw [if_pos (length_hexDigits id), hvalues, Option.map_some,
    fromBigEndian_bigEndian hlt, Fin.ofNat_val_eq_self]

theorem filter_hyphenate {s : List Char} (h : forall c, c ∈ s -> c ≠ '-') :
    (hyphenate s).filter (fun c => c != '-') = s := by
  have hkeep : forall t : List Char, (forall c, c ∈ t -> c ∈ s) ->
      t.filter (fun c => c != '-') = t := by
    intro t ht
    rw [List.filter_eq_self]
    intro c hc
    simpa using h c (ht c hc)
  have hsplit : s = s.take 8 ++ ((s.drop 8).take 4 ++ ((s.drop 12).take 4 ++
      ((s.drop 16).take 4 ++ s.drop 20))) := by
    have hstep : forall k, (s.drop k).take 4 ++ s.drop (k + 4) = s.drop k := by
      intro k
      rw [← List.drop_drop]
      exact List.take_append_drop 4 _
    rw [hstep 16, hstep 12, hstep 8, List.take_append_drop]
  have htake : forall n (t : List Char), (forall c, c ∈ t -> c ∈ s) ->
      forall c, c ∈ t.take n -> c ∈ s := by
    intro n t ht c hc
    exact ht c (List.mem_of_mem_take hc)
  have hdrop : forall k c, c ∈ s.drop k -> c ∈ s :=
    fun k c hc => List.mem_of_mem_drop hc
  unfold hyphenate
  simp only [List.filter_append, List.filter_cons, bne_self_eq_false,
    Bool.false_eq_true, if_false]
  rw [hkeep _ (htake 8 s (fun _ hc => hc)), hkeep _ (htake 4 _ (hdrop 8)),
    hkeep _ (htake 4 _ (hdrop 12)), hkeep _ (htake 4 _ (hdrop 16)),
    hkeep _ (hdrop 20)]
  exact hsplit.symm

theorem length_hyphenate {s : List Char} (h : s.length = 32) :
    (hyphenate s).length = 36 := by
  unfold hyphenate
  simp only [List.length_append, List.length_cons, List.length_take,
    List.length_drop, h]
  rfl

theorem parseUuid_hyphenate (id : Uuid) :
    parseUuid (hyphenate (hexDigits id)) = some id := by
  have hfilter : (hyphenate (hexDigits id)).filter (fun c => c != '-') =
      hexDigits id := by
    apply filter_hyphenate
    intro c hc
    rcases List.mem_map.mp hc with ⟨d, _, hd⟩
    rw [← hd]
    exact hexDigit_ne_hyphen d
  have hlength := length_hyphenate (length_hexDigits id)
  unfold parseUuid
  rw [hlength]
  simp only [Nat.reduceEqDiff, if_false, false_and]
  unfold parseHyphenated
  simp only [hfilter, if_true]
  exact parseSimple_hexDigits id

def UuidText.hyphenated : UuidText where
  value := fun id => String.ofList (hyphenate (hexDigits id))
  parseStr := fun s => parseUuid s.toList
  parseStr_value := by
    intro id
    rw [String.toList_ofList]
    exact parseUuid_hyphenate id

example : UuidText.hyphenated.value 1 =
    "00000000-0000-0000-0000-000000000001" := by decide +kernel

end Domain
end Valqeron
