import Valqeron.Foundation.Checked
import Valqeron.Foundation.Utf8

/-!
# Computations that may panic

A computation stops with a panic, returns an error or finishes. The operations
that can panic are those of a debug build: an index or a slice out of range, a
slice within a character, a failed assertion, an overflow, a shift by the width.
-/

namespace Valqeron
namespace Foundation

/-- A panic is `none`. -/
abbrev Guarded (error result : Type) := ExceptT error Option result

def usizeWidth : Nat := 64

def checkedAssert (p : Prop) [Decidable p] : Option Unit :=
  if p then some () else none

/-- `values[start..stop]` -/
def checkedSlice {value : Type} (values : List value) (start stop : Nat) :
    Option (List value) :=
  if start <= stop ∧ stop <= values.length then
    some ((values.drop start).take (stop - start))
  else
    none

/-- `array[i] = byte` -/
def checkedSet {n : Nat} (array : Bytes n) (i : Nat) (byte : UInt8) :
    Option (Bytes n) :=
  if h : i < n then some (array.set ⟨i, h⟩ byte) else none

/-- The characters before a byte offset and those after it; none within a character. -/
def splitAtByte : List Char -> Nat -> Option (List Char × List Char)
  | chars, 0 => some ([], chars)
  | [], _ + 1 => none
  | c :: rest, offset + 1 =>
      if c.utf8Size <= offset + 1 then
        (splitAtByte rest (offset + 1 - c.utf8Size)).map
          (fun parts => (c :: parts.1, parts.2))
      else
        none

/-- `&text[start..stop]`, whose bounds count bytes. -/
def sliceText (text : String) (start stop : Nat) : Option String := do
  let parts ← splitAtByte text.toList start
  let length ← checkedSub stop start
  let middle ← splitAtByte parts.2 length
  pure (String.ofList middle.1)

example : sliceText "a\u00E9b" 1 3 = some "\u00E9" ∧ sliceText "a\u00E9b" 1 2 = none := by
  decide +kernel

theorem checkedAssert_of {p : Prop} [Decidable p] (h : p) :
    checkedAssert p = some () := if_pos h

theorem checkedSlice_of_le {value : Type} {values : List value}
    {start stop : Nat} (hstart : start <= stop) (hstop : stop <= values.length) :
    checkedSlice values start stop =
      some ((values.drop start).take (stop - start)) :=
  if_pos ⟨hstart, hstop⟩

theorem checkedSlice_take {value : Type} {values : List value} {stop : Nat}
    (h : stop <= values.length) :
    checkedSlice values 0 stop = some (values.take stop) :=
  checkedSlice_of_le (Nat.zero_le stop) h

theorem get_eq_getD {n : Nat} (array : Bytes n) (i : Fin n) (default : UInt8) :
    array.get i = array.toList.getD i default := by
  rw [List.Vector.get_eq_get_toList, List.get_eq_getElem,
    List.getElem_eq_getD default]
  rfl

theorem getElem?_toList {n : Nat} (array : Bytes n) (i : Fin n) :
    array.toList[i.val]? = some (array.get i) := by
  rw [List.Vector.get_eq_get_toList, List.get_eq_getElem,
    ← List.getElem?_eq_getElem]
  rfl

/-!
## Slices of ASCII texts
-/

/-- In an ASCII text every offset is between two characters. -/
theorem splitAtByte_ascii {bytes : List UInt8} {offset : Nat}
    (hascii : forall b, b ∈ bytes -> b.toNat < 128)
    (hoffset : offset <= bytes.length) :
    splitAtByte (bytes.map charOfByte) offset =
      some ((bytes.take offset).map charOfByte,
        (bytes.drop offset).map charOfByte) := by
  induction bytes generalizing offset with
  | nil =>
      rw [Nat.le_zero.mp hoffset]
      rfl
  | cons b rest ih =>
      cases offset with
      | zero => rfl
      | succ offset =>
          have hsize := utf8Size_charOfByte (hascii b List.mem_cons_self)
          have hrest := ih (fun c hc => hascii c (List.mem_cons_of_mem b hc))
            (Nat.le_of_succ_le_succ hoffset)
          rw [List.map_cons, splitAtByte, hsize, if_pos (Nat.le_add_left 1 offset),
            Nat.add_sub_cancel, hrest]
          rfl

theorem sliceText_ascii {bytes : List UInt8} {start stop : Nat}
    (hascii : forall b, b ∈ bytes -> b.toNat < 128) (hstart : start <= stop)
    (hstop : stop <= bytes.length) :
    sliceText (asciiText bytes) start stop =
      some (asciiText ((bytes.drop start).take (stop - start))) := by
  have hdropped : forall b, b ∈ bytes.drop start -> b.toNat < 128 :=
    fun b hb => hascii b (List.mem_of_mem_drop hb)
  have hlength : stop - start <= (bytes.drop start).length := by
    rw [List.length_drop]
    exact Nat.sub_le_sub_right hstop start
  unfold sliceText
  rw [toList_asciiText, splitAtByte_ascii hascii (hstart.trans hstop)]
  show (checkedSub stop start).bind _ = _
  rw [checkedSub_of_le hstart]
  show (splitAtByte ((bytes.drop start).map charOfByte) (stop - start)).bind _ = _
  rw [splitAtByte_ascii hdropped hlength]
  rfl

/-!
## Loops over the characters and the bytes of a code
-/

namespace Guarded

variable {error : Type} {n : Nat}

def ofExcept {result : Type} (r : Except error result) : Guarded error result :=
  ExceptT.mk (some r)

theorem ofExcept_bind {first second : Type} {r : Except error first}
    {guardedNext : first -> Guarded error second}
    {next : first -> Except error second}
    (h : forall x, r = .ok x -> guardedNext x = ofExcept (next x)) :
    (ofExcept r >>= guardedNext) = ofExcept (r >>= next) := by
  cases r with
  | error e => rfl
  | ok x => exact h x rfl

/-- `(i + 1) as u8` -/
def position (i : Nat) : Option Nat := do
  let next ← checkedAdd usizeWidth i 1
  pure (next % 2 ^ 8)

def fill (notAscii : Nat -> Char -> Option error) :
    Nat -> List Char -> Bytes n -> Guarded error (Bytes n)
  | _, [], array => pure array
  | i, c :: rest, array =>
      if isAscii c then do
        let written ← checkedSet array i (asciiUpperByte c)
        fill notAscii (i + 1) rest written
      else do
        let e ← notAscii i c
        throw e

def normalizeSelected (n : Nat) (empty : error) (invalidLength : Nat -> error)
    (notAscii : Nat -> Char -> Option error) (isEmpty : Bool)
    (selected : List Char) : Guarded error (Bytes n) :=
  if isEmpty then
    throw empty
  else if selected.length ≠ n then
    throw (invalidLength selected.length)
  else
    fill notAscii 0 selected (List.Vector.replicate n 0)

/-- The parser of a short code; `report` sees the place and the position from 1 on. -/
def normalizeCode (n : Nat) (empty : error) (invalidLength : Nat -> error)
    (report : Nat -> Char -> Nat -> Option error) (input : String) :
    Guarded error (Bytes n) :=
  normalizeSelected n empty invalidLength
    (fun i c => do
      let position ← position i
      report i c position)
    input.isEmpty (trim input.toList)

def checkClass (valid : Bool) (i : Nat) (report : Nat -> error) :
    Guarded error Unit := do
  if !valid then
    let position ← position i
    throw (report position)

def checkBytes (check : Nat -> UInt8 -> Guarded error Unit) :
    Nat -> List UInt8 -> Guarded error Unit
  | _, [] => pure ()
  | i, b :: rest => do
      check i b
      checkBytes check (i + 1) rest

theorem position_of_lt {i : Nat} (h : i < 255) : position i = some (i + 1) := by
  have hadd : checkedAdd usizeWidth i 1 = some (i + 1) := by
    apply checkedAdd_of_lt
    unfold usizeWidth
    omega
  unfold position
  rw [hadd]
  show some ((i + 1) % 2 ^ 8) = some (i + 1)
  rw [Nat.mod_eq_of_lt (by omega)]

theorem fill_ok (guardedError : Nat -> Char -> Option error) {i : Nat}
    {chars : List Char} (array : Bytes n)
    (hascii : forall c, c ∈ chars -> isAscii c = true)
    (hlength : i + chars.length = n) :
    exists out : Bytes n,
      fill guardedError i chars array = ofExcept (.ok out) ∧
        out.toList = array.toList.take i ++ chars.map asciiUpperByte := by
  induction chars generalizing i array with
  | nil =>
      refine ⟨array, rfl, ?_⟩
      have hall : i = array.toList.length := by
        rw [array.toList_length]
        exact hlength
      rw [hall, List.take_length, List.map_nil, List.append_nil]
  | cons c rest ih =>
      have hi : i < n := by
        rw [← hlength, List.length_cons]
        omega
      have hrest : i + 1 + rest.length = n := by
        rw [← hlength, List.length_cons]
        omega
      have hothers : forall d, d ∈ rest -> isAscii d = true :=
        fun d hd => hascii d (List.mem_cons_of_mem c hd)
      rcases ih (array.set ⟨i, hi⟩ (asciiUpperByte c)) hothers hrest with
        ⟨out, hfill, hout⟩
      refine ⟨out, ?_, ?_⟩
      · unfold fill checkedSet
        rw [if_pos (hascii c List.mem_cons_self), dif_pos hi]
        exact hfill
      · have hplace : i < array.toList.length := by
          rw [array.toList_length]
          exact hi
        rw [hout, List.Vector.toList_set, List.take_add_one,
          List.getElem?_set_self hplace, List.take_set_of_le (Nat.le_refl i),
          List.append_assoc]
        rfl

theorem fill_error {notAscii : Nat -> Char -> error}
    {guardedError : Nat -> Char -> Option error}
    (hguarded : forall i c, i < n -> isAscii c = false ->
      guardedError i c = some (notAscii i c)) {i : Nat}
    {chars : List Char} {array : Bytes n} (hlength : i + chars.length = n)
    {e : error} (h : normalizeChars notAscii i chars = .error e) :
    fill guardedError i chars array = ofExcept (.error e) := by
  induction chars generalizing i array with
  | nil => cases h
  | cons c rest ih =>
      have hi : i < n := by
        rw [← hlength, List.length_cons]
        omega
      have hrest : i + 1 + rest.length = n := by
        rw [← hlength, List.length_cons]
        omega
      unfold normalizeChars at h
      unfold fill checkedSet
      cases hc : isAscii c with
      | true =>
          rw [hc, if_pos rfl] at h
          rw [if_pos rfl, dif_pos hi]
          split at h
          · rename_i e' herror
            cases h
            exact ih hrest herror
          · cases h
      | false =>
          rw [hc, if_neg Bool.false_ne_true] at h
          cases h
          rw [if_neg Bool.false_ne_true, hguarded i c hi hc]
          rfl

theorem normalizeSelected_eq {empty : error} {invalidLength : Nat -> error}
    {notAscii : Nat -> Char -> error}
    {guardedError : Nat -> Char -> Option error}
    (hguarded : forall i c, i < n -> isAscii c = false ->
      guardedError i c = some (notAscii i c)) (isEmpty : Bool)
    (selected : List Char) :
    normalizeSelected n empty invalidLength guardedError isEmpty selected =
      ofExcept
        (Foundation.normalizeSelected n empty invalidLength notAscii isEmpty
          selected) := by
  unfold normalizeSelected Foundation.normalizeSelected
  cases isEmpty with
  | true => rfl
  | false =>
      rw [if_neg Bool.false_ne_true, if_neg Bool.false_ne_true]
      by_cases hlength : selected.length = n
      · subst hlength
        rw [if_neg (not_not.mpr rfl), dif_pos rfl]
        show fill guardedError 0 selected _ =
          ofExcept (normalizeChars notAscii 0 selected)
        cases h : normalizeChars notAscii 0 selected with
        | error e => exact fill_error hguarded (Nat.zero_add _) h
        | ok v =>
            rcases normalizeChars_eq_ok_iff.mp h with ⟨hascii, hlist⟩
            rcases fill_ok guardedError (List.Vector.replicate _ 0) hascii
              (Nat.zero_add _) with ⟨out, hfill, hout⟩
            have heq : out = v := by
              apply List.Vector.toList_injective
              rw [hout, hlist]
              rfl
            rw [hfill, heq]
      · rw [if_pos hlength, dif_neg hlength]
        rfl

theorem normalizeCode_eq {empty : error} {invalidLength : Nat -> error}
    {notAscii : Nat -> Char -> error}
    {report : Nat -> Char -> Nat -> Option error} (hn : n <= 255)
    (hreport : forall i c, i < n -> report i c (i + 1) = some (notAscii i c))
    (input : String) :
    normalizeCode n empty invalidLength report input =
      ofExcept
        (Foundation.normalizeCode n empty invalidLength notAscii input) := by
  apply normalizeSelected_eq
  intro i c hi _
  rw [position_of_lt (by omega)]
  exact hreport i c hi

theorem checkClass_eq {i : Nat} (h : i < 255) (valid : Bool)
    (report : Nat -> error) :
    checkClass valid i report =
      ofExcept (if valid then .ok () else .error (report (i + 1))) := by
  unfold checkClass
  rw [position_of_lt h]
  cases valid with
  | true => rfl
  | false => rfl

theorem checkBytes_eq {guardedCheck : Nat -> UInt8 -> Guarded error Unit}
    {check : Nat -> UInt8 -> Except error Unit} {bound i : Nat}
    {bytes : List UInt8}
    (hcheck : forall j b, j < bound -> b ∈ bytes ->
      guardedCheck j b = ofExcept (check j b))
    (hbound : i + bytes.length <= bound) :
    checkBytes guardedCheck i bytes =
      ofExcept (Foundation.checkBytes check i bytes) := by
  induction bytes generalizing i with
  | nil => rfl
  | cons b rest ih =>
      rw [List.length_cons] at hbound
      have hrest := ih (i := i + 1)
        (fun j d hj hd => hcheck j d hj (List.mem_cons_of_mem b hd)) (by omega)
      unfold checkBytes Foundation.checkBytes
      rw [hcheck i b (by omega) List.mem_cons_self]
      cases check i b with
      | error e => rfl
      | ok _ => exact hrest

theorem checkBytes_array {guardedCheck : Nat -> UInt8 -> Guarded error Unit}
    {check : Nat -> UInt8 -> Except error Unit} (hn : n <= 255)
    (hcheck : forall {i}, i < 255 -> forall b,
      guardedCheck i b = ofExcept (check i b)) (array : Bytes n) :
    checkBytes guardedCheck 0 array.toList =
      ofExcept (Foundation.checkBytes check 0 array.toList) := by
  have hbound : 0 + array.toList.length <= 255 := by
    rw [array.toList_length, Nat.zero_add]
    exact hn
  exact checkBytes_eq (fun _ b hj _ => hcheck hj b) hbound

/-!
## The constructors of a code
-/

def fromBytes (validate : Bytes n -> Guarded error Unit) (bytes : Bytes n) :
    Guarded error (Bytes n) := do
  validate bytes
  pure bytes

def parse (normalize : String -> Guarded error (Bytes n))
    (validate : Bytes n -> Guarded error Unit) (input : String) :
    Guarded error (Bytes n) := do
  let candidate ← normalize input
  fromBytes validate candidate

/-- The constructors do not panic, and give the bytes of what they should give. -/
structure RunsThrough {value : Type} (stored : value -> Bytes n)
    (parse : String -> Except error value)
    (fromBytes : Bytes n -> Except error value)
    (guardedParse : String -> Guarded error (Bytes n))
    (guardedFromBytes : Bytes n -> Guarded error (Bytes n)) : Prop where
  parse :
    forall input, (guardedParse input).run = some ((parse input).map stored)
  fromBytes :
    forall bytes, (guardedFromBytes bytes).run = some ((fromBytes bytes).map stored)

/-- What is stored is ASCII, so that it is the UTF-8 of the text it stands for. -/
structure StoresText (bytes : Bytes n) : Prop where
  ascii : forall b, b ∈ bytes.toList -> b.toNat < 128
  text : fromUtf8 bytes.toList = some (asciiText bytes.toList)

theorem storesText_of_codeBytes {bytes : Bytes n}
    (h : forall b, b ∈ bytes.toList -> isCodeByte b = true) :
    StoresText bytes := by
  have hascii : forall b, b ∈ bytes.toList -> b.toNat < 128 :=
    fun b hb => lt_128_of_isCodeByte (h b hb)
  exact { ascii := hascii, text := fromUtf8_eq_some hascii }

theorem StoresText.slice {bytes : Bytes n} (h : StoresText bytes)
    {start stop : Nat} (hstart : start <= stop) (hstop : stop <= n) :
    (do
      let text ← fromUtf8 bytes.toList
      sliceText text start stop) =
      some (asciiText ((bytes.toList.drop start).take (stop - start))) := by
  have hlength : stop <= bytes.toList.length := by
    rw [bytes.toList_length]
    exact hstop
  rw [h.text]
  exact sliceText_ascii h.ascii hstart hlength

section

variable {value : Type} {stored : value -> Bytes n}
variable {normalize : String -> Except error (Bytes n)}
variable {validate : Bytes n -> Except error Unit}
variable {construct : Bytes n -> Except error value}
variable {guardedNormalize : String -> Guarded error (Bytes n)}
variable {guardedValidate : Bytes n -> Guarded error Unit}

theorem fromBytes_eq
    (hvalidate : forall bytes, guardedValidate bytes = ofExcept (validate bytes))
    (hconstruct : forall bytes,
      (construct bytes).map stored = (validate bytes).map (fun _ => bytes))
    (bytes : Bytes n) :
    fromBytes guardedValidate bytes = ofExcept ((construct bytes).map stored) := by
  unfold fromBytes
  rw [hvalidate, hconstruct]
  cases validate bytes with
  | error e => rfl
  | ok _ => rfl

theorem runsThrough
    (hnormalize : forall input, guardedNormalize input = ofExcept (normalize input))
    (hvalidate : forall bytes, guardedValidate bytes = ofExcept (validate bytes))
    (hconstruct : forall bytes,
      (construct bytes).map stored = (validate bytes).map (fun _ => bytes)) :
    RunsThrough stored (fun input => normalize input >>= construct) construct
      (parse guardedNormalize guardedValidate) (fromBytes guardedValidate) := by
  refine { parse := ?_, fromBytes := ?_ }
  · intro input
    unfold parse
    rw [hnormalize]
    show (ofExcept (normalize input) >>= fromBytes guardedValidate).run =
      some ((normalize input >>= construct).map stored)
    cases normalize input with
    | error e => rfl
    | ok candidate =>
        exact congrArg ExceptT.run (fromBytes_eq hvalidate hconstruct candidate)
  · intro bytes
    exact congrArg ExceptT.run (fromBytes_eq hvalidate hconstruct bytes)

end

end Guarded

end Foundation
end Valqeron
