import Mathlib.Algebra.Order.Ring.Int
import Mathlib.Data.Vector.Basic

/-!
# Text and bytes

The operations on strings, characters and fixed-size byte arrays that parsers of
short codes need, with the conventions of the Rust standard library: white space
is the Unicode property, and letter case is changed in the ASCII range only,
except by `toUppercase`.
-/

namespace Valqeron
namespace Foundation

abbrev Bytes (n : Nat) := List.Vector UInt8 n

/-- The Unicode property `White_Space`. -/
def isWhitespace (c : Char) : Bool :=
  let n := c.toNat
  (9 <= n && n <= 13) || n == 32 || n == 0x85 || n == 0xA0 || n == 0x1680 ||
    (0x2000 <= n && n <= 0x200A) || n == 0x2028 || n == 0x2029 ||
    n == 0x202F || n == 0x205F || n == 0x3000

def trim (s : List Char) : List Char :=
  ((s.dropWhile isWhitespace).reverse.dropWhile isWhitespace).reverse

/-- The characters outside ASCII whose upper-case form is ASCII, with that form. -/
def asciiUppercases : List (Char × List Char) :=
  [
    ('\u00DF', ['S', 'S']), ('\u0131', ['I']), ('\u017F', ['S']),
    ('\uFB00', ['F', 'F']), ('\uFB01', ['F', 'I']), ('\uFB02', ['F', 'L']),
    ('\uFB03', ['F', 'F', 'I']), ('\uFB04', ['F', 'F', 'L']),
    ('\uFB05', ['S', 'T']), ('\uFB06', ['S', 'T'])
  ]

/--
`char::to_uppercase`. A character outside ASCII that is not listed stands for its
form, which has a character outside ASCII too.
-/
def upperChars (c : Char) : List Char :=
  if 97 <= c.toNat && c.toNat <= 122 then
    [Char.ofNat (c.toNat - 32)]
  else
    (asciiUppercases.lookup c).getD [c]

/-- `str::to_uppercase`, as far as a comparison with an ASCII word can tell. -/
def toUppercase (s : String) : String :=
  String.ofList (s.toList.flatMap upperChars)

def isAscii (c : Char) : Bool := c.toNat < 128

/-- The byte of an ASCII character after `to_ascii_uppercase`. -/
def asciiUpperByte (c : Char) : UInt8 :=
  if 97 <= c.toNat && c.toNat <= 122 then
    UInt8.ofNat (c.toNat - 32)
  else
    UInt8.ofNat c.toNat

def isAsciiDigit (b : UInt8) : Bool := 48 <= b.toNat && b.toNat <= 57

def isAsciiUppercase (b : UInt8) : Bool := 65 <= b.toNat && b.toNat <= 90

def charOfByte (b : UInt8) : Char := Char.ofNat b.toNat

/-- The text of a byte array that holds ASCII only. -/
def asciiText (bytes : List UInt8) : String :=
  String.ofList (bytes.map charOfByte)

/--
Check the bytes of a code one after the other; `check` sees the position, which
counts from zero.
-/
def checkBytes {error : Type} (check : Nat -> UInt8 -> Except error Unit) :
    Nat -> List UInt8 -> Except error Unit
  | _, [] => .ok ()
  | i, b :: rest =>
      match check i b with
      | .error e => .error e
      | .ok () => checkBytes check (i + 1) rest

/--
The bytes of `n` characters, upper-cased; the first character outside ASCII is
reported with its position, which counts from zero.
-/
def normalizeChars {error : Type} (notAscii : Nat -> Char -> error) :
    Nat -> (chars : List Char) -> Except error (Bytes chars.length)
  | _, [] => .ok List.Vector.nil
  | i, c :: rest =>
      if isAscii c then
        match normalizeChars notAscii (i + 1) rest with
        | .error e => .error e
        | .ok bytes => .ok (asciiUpperByte c ::ᵥ bytes)
      else
        .error (notAscii i c)

/-- The position-independent part of what the parsers of short codes do. -/
def normalizeCode {error : Type} (n : Nat) (empty : error)
    (invalidLength : Nat -> error) (notAscii : Nat -> Char -> error)
    (input : String) : Except error (Bytes n) :=
  if input.isEmpty then
    .error empty
  else
    let trimmed := trim input.toList
    if h : trimmed.length = n then
      h ▸ normalizeChars notAscii 0 trimmed
    else
      .error (invalidLength trimmed.length)

/-- What a parser does with the characters that it has chosen from its input. -/
def normalizeSelected {error : Type} (n : Nat) (empty : error)
    (invalidLength : Nat -> error) (notAscii : Nat -> Char -> error)
    (isEmpty : Bool) (selected : List Char) : Except error (Bytes n) :=
  if isEmpty then
    .error empty
  else
    if h : selected.length = n then
      h ▸ normalizeChars notAscii 0 selected
    else
      .error (invalidLength selected.length)

theorem charOfByte_toNat (b : UInt8) : (charOfByte b).toNat = b.toNat := by
  have hvalid : b.toNat.isValidChar := by
    have := b.toNat_lt
    exact Or.inl (by omega)
  have hchar : charOfByte b = Char.ofNatAux b.toNat hvalid := dif_pos hvalid
  rw [hchar]
  rfl

theorem charOfByte_injective {a b : UInt8} (h : charOfByte a = charOfByte b) :
    a = b := by
  apply UInt8.toNat_inj.mp
  rw [← charOfByte_toNat a, ← charOfByte_toNat b, h]

theorem toList_asciiText (bytes : List UInt8) :
    (asciiText bytes).toList = bytes.map charOfByte :=
  String.toList_ofList

theorem asciiText_injective {a b : List UInt8}
    (h : asciiText a = asciiText b) : a = b := by
  have hlist : a.map charOfByte = b.map charOfByte := String.ofList_inj.mp h
  exact List.map_injective_iff.mpr (fun _ _ => charOfByte_injective) hlist

/-!
## Codes of digits and upper-case letters

The text of such a code is read back as the code.
-/

def isCodeByte (b : UInt8) : Bool := isAsciiDigit b || isAsciiUppercase b

theorem isAsciiDigit_iff {b : UInt8} :
    isAsciiDigit b = true <-> 48 <= b.toNat ∧ b.toNat <= 57 := by
  simp [isAsciiDigit]

theorem isAsciiUppercase_iff {b : UInt8} :
    isAsciiUppercase b = true <-> 65 <= b.toNat ∧ b.toNat <= 90 := by
  simp [isAsciiUppercase]

theorem isCodeByte_iff {b : UInt8} :
    isCodeByte b = true <->
      (48 <= b.toNat ∧ b.toNat <= 57) ∨ (65 <= b.toNat ∧ b.toNat <= 90) := by
  rw [← isAsciiDigit_iff, ← isAsciiUppercase_iff, ← Bool.or_eq_true]
  rfl

theorem isCodeByte_of_isAsciiUppercase {b : UInt8}
    (h : isAsciiUppercase b = true) : isCodeByte b = true := by
  unfold isCodeByte
  rw [h, Bool.or_true]

theorem lt_128_of_isCodeByte {b : UInt8} (h : isCodeByte b = true) :
    b.toNat < 128 := by
  have hrange := isCodeByte_iff.mp h
  omega

theorem asciiUpperByte_charOfByte {b : UInt8} (h : isCodeByte b = true) :
    asciiUpperByte (charOfByte b) = b := by
  have hrange := isCodeByte_iff.mp h
  unfold asciiUpperByte
  rw [charOfByte_toNat, if_neg, UInt8.ofNat_toNat]
  simp only [Bool.and_eq_true, decide_eq_true_eq]
  omega

theorem isAscii_charOfByte {b : UInt8} (h : isCodeByte b = true) :
    isAscii (charOfByte b) = true := by
  have hrange := isCodeByte_iff.mp h
  unfold isAscii
  rw [charOfByte_toNat, decide_eq_true_eq]
  omega

theorem isWhitespace_charOfByte {b : UInt8} (h : isCodeByte b = true) :
    isWhitespace (charOfByte b) = false := by
  have hrange := isCodeByte_iff.mp h
  unfold isWhitespace
  simp only [charOfByte_toNat]
  simp only [Bool.or_eq_false_iff, Bool.and_eq_false_iff,
    decide_eq_false_iff_not, beq_eq_false_iff_ne]
  omega

theorem trim_eq_self {l : List Char}
    (h : forall c, c ∈ l -> isWhitespace c = false) : trim l = l := by
  have hdrop : forall m : List Char, (forall c, c ∈ m -> c ∈ l) ->
      m.dropWhile isWhitespace = m := by
    intro m hm
    cases m with
    | nil => rfl
    | cons c rest =>
        have hc := h c (hm c List.mem_cons_self)
        rw [List.dropWhile_cons, hc]
        rfl
  unfold trim
  rw [hdrop l (fun _ hc => hc),
    hdrop l.reverse (fun _ hc => List.mem_reverse.mp hc), List.reverse_reverse]

theorem normalizeChars_ok {error : Type} (notAscii : Nat -> Char -> error)
    (i : Nat) {l : List Char} (h : forall c, c ∈ l -> isAscii c = true) :
    exists v, normalizeChars notAscii i l = .ok v ∧
      v.toList = l.map asciiUpperByte := by
  induction l generalizing i with
  | nil => exact ⟨_, rfl, rfl⟩
  | cons c rest ih =>
      rcases ih (i + 1) (fun x hx => h x (List.mem_cons_of_mem c hx)) with
        ⟨v, hv, hlist⟩
      refine ⟨asciiUpperByte c ::ᵥ v, ?_, ?_⟩
      · unfold normalizeChars
        rw [if_pos (h c List.mem_cons_self), hv]
      · rw [List.Vector.toList_cons, hlist, List.map_cons]

theorem normalizeChars_eq_ok_iff {error : Type}
    {notAscii : Nat -> Char -> error} {i : Nat} {l : List Char}
    {v : Bytes l.length} :
    normalizeChars notAscii i l = .ok v <->
      (forall c, c ∈ l -> isAscii c = true) ∧
        v.toList = l.map asciiUpperByte := by
  constructor
  · intro h
    have hascii : forall c, c ∈ l -> isAscii c = true := by
      induction l generalizing i with
      | nil => nofun
      | cons c rest ih =>
          unfold normalizeChars at h
          split at h
          · rename_i hc
            split at h
            · cases h
            · rename_i bytes hrest
              exact List.forall_mem_cons.mpr ⟨hc, ih hrest⟩
          · cases h
    rcases normalizeChars_ok notAscii i hascii with ⟨w, hw, hlist⟩
    rw [h] at hw
    cases hw
    exact ⟨hascii, hlist⟩
  · intro h
    rcases h with ⟨hascii, hlist⟩
    rcases normalizeChars_ok notAscii i hascii with ⟨w, hw, hw'⟩
    rw [hw, List.Vector.toList_injective (hw'.trans hlist.symm)]

theorem cast_normalizeChars_eq_ok_iff {error : Type} {n : Nat}
    {notAscii : Nat -> Char -> error} {i : Nat} {l : List Char}
    (hlength : l.length = n) {v : Bytes n} :
    (hlength ▸ normalizeChars notAscii i l : Except error (Bytes n)) = .ok v <->
      (forall c, c ∈ l -> isAscii c = true) ∧
        v.toList = l.map asciiUpperByte := by
  subst hlength
  exact normalizeChars_eq_ok_iff

section Selected

variable {error : Type} {n : Nat} {empty : error} {invalidLength : Nat -> error}
variable {notAscii : Nat -> Char -> error} {isEmpty : Bool}
variable {selected : List Char}

theorem normalizeSelected_ok {v : Bytes n}
    (h : normalizeSelected n empty invalidLength notAscii isEmpty selected =
      .ok v) :
    (forall c, c ∈ selected -> isAscii c = true) ∧
      v.toList = selected.map asciiUpperByte := by
  unfold normalizeSelected at h
  split at h
  · cases h
  · split at h
    · exact (cast_normalizeChars_eq_ok_iff _).mp h
    · cases h

theorem normalizeSelected_eq_ok_iff
    (hempty : isEmpty = true -> selected.length ≠ n) {v : Bytes n} :
    normalizeSelected n empty invalidLength notAscii isEmpty selected = .ok v <->
      (forall c, c ∈ selected -> isAscii c = true) ∧
        v.toList = selected.map asciiUpperByte := by
  refine ⟨normalizeSelected_ok, ?_⟩
  intro hchars
  have hlength := congrArg List.length hchars.right
  rw [List.Vector.toList_length, List.length_map] at hlength
  unfold normalizeSelected
  rw [if_neg (fun h => hempty h hlength.symm), dif_pos hlength.symm]
  exact (cast_normalizeChars_eq_ok_iff hlength.symm).mpr hchars

end Selected

theorem normalizeCode_eq_ok_iff {error : Type} {n : Nat} (hn : 0 < n)
    {empty : error} {invalidLength : Nat -> error}
    {notAscii : Nat -> Char -> error} {input : String} {v : Bytes n} :
    normalizeCode n empty invalidLength notAscii input = .ok v <->
      (forall c, c ∈ trim input.toList -> isAscii c = true) ∧
        v.toList = (trim input.toList).map asciiUpperByte := by
  have hempty : input.isEmpty = true -> (trim input.toList).length ≠ n := by
    intro h
    rw [String.isEmpty_iff.mp h]
    exact Nat.ne_of_lt hn
  exact normalizeSelected_eq_ok_iff hempty

theorem map_charOfByte_code {bytes : List UInt8}
    (hcode : forall b, b ∈ bytes -> isCodeByte b = true) :
    (forall c, c ∈ bytes.map charOfByte -> isAscii c = true) ∧
      bytes = (bytes.map charOfByte).map asciiUpperByte := by
  constructor
  · intro c hc
    rcases List.mem_map.mp hc with ⟨b, hb, rfl⟩
    exact isAscii_charOfByte (hcode b hb)
  · rw [List.map_map]
    conv => lhs; rw [← List.map_id bytes]
    apply List.map_congr_left
    intro b hb
    exact (asciiUpperByte_charOfByte (hcode b hb)).symm

theorem normalizeChars_code {error : Type} {n : Nat}
    (notAscii : Nat -> Char -> error) (i : Nat) {l : List Char}
    (hlength : l.length = n) {v : Bytes n}
    (hl : l = v.toList.map charOfByte)
    (hcode : forall b, b ∈ v.toList -> isCodeByte b = true) :
    (hlength ▸ normalizeChars notAscii i l : Except error (Bytes n)) =
      .ok v := by
  have hchars := map_charOfByte_code hcode
  rw [← hl] at hchars
  exact (cast_normalizeChars_eq_ok_iff hlength).mpr hchars

theorem normalizeCode_asciiText {error : Type} {n : Nat} (hn : 0 < n)
    (empty : error) (invalidLength : Nat -> error)
    (notAscii : Nat -> Char -> error) {v : Bytes n}
    (hcode : forall b, b ∈ v.toList -> isCodeByte b = true) :
    normalizeCode n empty invalidLength notAscii (asciiText v.toList) =
      .ok v := by
  have htrim : trim (asciiText v.toList).toList = v.toList.map charOfByte := by
    rw [toList_asciiText]
    apply trim_eq_self
    intro c hc
    rcases List.mem_map.mp hc with ⟨b, hb, rfl⟩
    exact isWhitespace_charOfByte (hcode b hb)
  rw [normalizeCode_eq_ok_iff hn, htrim]
  exact map_charOfByte_code hcode

theorem bind_eq_ok {error first second : Type} {x : Except error first}
    {f : first -> Except error second} {v : second} :
    (x >>= f) = .ok v <-> exists u, x = .ok u ∧ f u = .ok v := by
  cases x with
  | error e => simp [bind, Except.bind]
  | ok u => simp [bind, Except.bind]

theorem bind_eq_error {error first second : Type} {x : Except error first}
    {f : first -> Except error second} {e : error} :
    (x >>= f) = .error e <->
      x = .error e ∨ exists u, x = .ok u ∧ f u = .error e := by
  cases x with
  | error e' => simp [bind, Except.bind]
  | ok u => simp [bind, Except.bind]

theorem map_of_mapM {error first second third : Type}
    {f : first -> Except error second} {g : second -> third}
    {e : first -> third} (hf : forall {x y}, f x = .ok y -> g y = e x)
    {xs : List first} {ys : List second} (h : xs.mapM f = .ok ys) :
    ys.map g = xs.map e := by
  induction xs generalizing ys with
  | nil =>
      cases h
      rfl
  | cons x rest ih =>
      rw [List.mapM_cons] at h
      rcases bind_eq_ok.mp h with ⟨y, hy, h⟩
      rcases bind_eq_ok.mp h with ⟨later, hlater, h⟩
      cases h
      rw [List.map_cons, List.map_cons, hf hy, ih hlater]

theorem checkBytes_eq_ok_iff {error : Type}
    {check : Nat -> UInt8 -> Except error Unit} {start : Nat}
    {bytes : List UInt8} :
    checkBytes check start bytes = .ok () <->
      forall i b, bytes[i]? = some b -> check (start + i) b = .ok () := by
  induction bytes generalizing start with
  | nil =>
      constructor
      · intro _ i b hb
        simp at hb
      · intro _
        rfl
  | cons x rest ih =>
      unfold checkBytes
      constructor
      · intro h i b hb
        split at h
        · cases h
        · rename_i hx
          cases i with
          | zero =>
              cases hb
              exact hx
          | succ i =>
              have hrest := ih.mp h i b hb
              rw [Nat.add_right_comm] at hrest
              exact hrest
      · intro h
        have hx : check start x = .ok () := h 0 x rfl
        rw [hx]
        apply ih.mpr
        intro i b hb
        have hrest := h (i + 1) b hb
        rw [Nat.add_right_comm]
        exact hrest

theorem checkBytes_mem {error : Type}
    {check : Nat -> UInt8 -> Except error Unit} {i : Nat}
    {bytes : List UInt8} (h : checkBytes check i bytes = .ok ()) {b : UInt8}
    (hb : b ∈ bytes) : exists j, check j b = .ok () := by
  rcases List.getElem?_of_mem hb with ⟨j, hj⟩
  exact ⟨i + j, checkBytes_eq_ok_iff.mp h j b hj⟩

/-!
## The place of an error

Both passes report the first place that fails, with what stands there.
-/

structure FirstFailure {element : Type} (passes : Nat -> element -> Prop)
    (l : List element) (k : Nat) (x : element) : Prop where
  place : l[k]? = some x
  fails : Not (passes k x)
  earlier : forall j y, j < k -> l[j]? = some y -> passes j y

section FirstFailure

variable {element : Type} {passes : Nat -> element -> Prop}

theorem FirstFailure.head {x : element} {l : List element}
    (h : Not (passes 0 x)) : FirstFailure passes (x :: l) 0 x :=
  { place := rfl
    fails := h
    earlier := fun j _ hj => absurd hj (Nat.not_lt_zero j) }

theorem FirstFailure.cons {x y : element} {l : List element} {k : Nat}
    (hy : passes 0 y) (h : FirstFailure (fun j => passes (j + 1)) l k x) :
    FirstFailure passes (y :: l) (k + 1) x := by
  refine { place := h.place, fails := h.fails, earlier := ?_ }
  intro j z hj hz
  cases j with
  | zero =>
      cases hz
      exact hy
  | succ j => exact h.earlier j z (Nat.lt_of_succ_lt_succ hj) hz

theorem FirstFailure.of_map {source : Type} {f : source -> element}
    {l : List source} {k : Nat} {y : element}
    (h : FirstFailure passes (l.map f) k y) :
    exists x, y = f x ∧ FirstFailure (fun j z => passes j (f z)) l k x := by
  have hplace := h.place
  rw [List.getElem?_map] at hplace
  rcases Option.map_eq_some_iff.mp hplace with ⟨x, hx, rfl⟩
  refine ⟨x, rfl, { place := hx, fails := h.fails, earlier := ?_ }⟩
  intro j z hj hz
  apply h.earlier j (f z) hj
  rw [List.getElem?_map, hz, Option.map_some]

end FirstFailure

theorem checkBytes_eq_error {error : Type}
    {check : Nat -> UInt8 -> Except error Unit} {start : Nat}
    {bytes : List UInt8} {e : error}
    (h : checkBytes check start bytes = .error e) :
    exists k b, check (start + k) b = .error e ∧
      FirstFailure (fun j d => check (start + j) d = .ok ()) bytes k b := by
  induction bytes generalizing start with
  | nil => cases h
  | cons x rest ih =>
      unfold checkBytes at h
      split at h
      · rename_i hx
        cases h
        refine ⟨0, x, hx, .head ?_⟩
        rw [Nat.add_zero, hx]
        exact nofun
      · rename_i hx
        rcases ih h with ⟨k, b, hcheck, hfirst⟩
        simp only [Nat.add_right_comm start 1] at hcheck hfirst
        exact ⟨k + 1, b, hcheck, .cons hx hfirst⟩

theorem normalizeChars_eq_error {error : Type}
    {notAscii : Nat -> Char -> error} {i : Nat} {l : List Char} {e : error}
    (h : normalizeChars notAscii i l = .error e) :
    exists k c, e = notAscii (i + k) c ∧
      FirstFailure (fun _ d => isAscii d = true) l k c := by
  induction l generalizing i with
  | nil => cases h
  | cons x rest ih =>
      unfold normalizeChars at h
      split at h
      · rename_i hx
        split at h
        · rename_i e' hrest
          cases h
          rcases ih hrest with ⟨k, c, herror, hfirst⟩
          rw [Nat.add_right_comm] at herror
          exact ⟨k + 1, c, herror, .cons hx hfirst⟩
        · cases h
      · rename_i hx
        cases h
        exact ⟨0, x, rfl, .head hx⟩

theorem normalizeSelected_error {error : Type} {n : Nat} {empty : error}
    {invalidLength : Nat -> error} {notAscii : Nat -> Char -> error}
    {isEmpty : Bool} {selected : List Char} {e : error}
    (h : normalizeSelected n empty invalidLength notAscii isEmpty selected =
      .error e) :
    e = empty ∨ e = invalidLength selected.length ∨
      exists k c, e = notAscii k c ∧
        FirstFailure (fun _ d => isAscii d = true) selected k c := by
  unfold normalizeSelected at h
  split at h
  · cases h
    exact .inl rfl
  · split at h
    · rename_i hlength
      subst hlength
      rcases normalizeChars_eq_error h with ⟨k, c, herror, hfirst⟩
      rw [Nat.zero_add] at herror
      exact .inr (.inr ⟨k, c, herror, hfirst⟩)
    · cases h
      exact .inr (.inl rfl)

end Foundation
end Valqeron
