import Valqeron.Identifiers.Cfi
import Valqeron.Identifiers.CnpjLanguage
import Valqeron.Identifiers.CountryCode
import Valqeron.Identifiers.IsinChecksum

/-!
# Where the errors of the identifiers point to

A parser looks at the characters of its input twice: they must be ASCII, and
their upper-case forms must belong to the classes of their positions.  Either
pass reports the first character that fails it.
-/

namespace Valqeron
namespace Identifiers

open Foundation

def CharacterClass.Includes (c : Char) : CharacterClass -> Prop
  | digit => c.isDigit = true
  | letter => c.isUpper = true
  | alphanumeric => c.isDigit = true ∨ c.isUpper = true

/-- The upper-case form of a character belongs to the class of its position. -/
def InClass (classAt : Nat -> CharacterClass) (i : Nat) (c : Char) : Prop :=
  (classAt i).Includes c.toUpper

/--
The position, from 1 on, of the first character that does not pass a check.  The
character is the reported one up to its case, and its position excludes it.
-/
def Points (chars : List Char) (classAt : Nat -> CharacterClass)
    (passes : Nat -> Char -> Prop) (character : Char) (position : Nat) : Prop :=
  exists k c, position = k + 1 ∧ c.toUpper = character.toUpper ∧
    Not (InClass classAt k c) ∧ FirstFailure passes chars k c

/-- The pass that made a report, and where the report points to. -/
def Locates {error : Type} {n : Nat} (normalized : Except error (Bytes n))
    (check : Nat -> UInt8 -> Except error Unit) (chars : List Char)
    (classAt : Nat -> CharacterClass) (report : error) (character : Char)
    (position : Nat) : Prop :=
  (normalized = .error report ∧
    Points chars classAt (fun _ c => isAscii c = true) character position) ∨
  exists candidate, normalized = .ok candidate ∧
    checkBytes check 0 candidate.toList = .error report ∧
    Points chars classAt (InClass classAt) character position

/-!
## Characters and bytes
-/

theorem CharacterClass.includes_charOfByte (expected : CharacterClass)
    (b : UInt8) : expected.Includes (charOfByte b) <-> expected.Contains b := by
  have hdigit := congrArg (· = true) (Cnpj.isDigit_charOfByte b)
  have hupper := congrArg (· = true) (Cnpj.isUpper_charOfByte b)
  cases expected with
  | digit => exact iff_of_eq hdigit
  | letter => exact iff_of_eq hupper
  | alphanumeric => exact or_congr (iff_of_eq hdigit) (iff_of_eq hupper)

theorem CharacterClass.isAscii_of_includes {expected : CharacterClass}
    {c : Char} (h : expected.Includes c.toUpper) : isAscii c = true := by
  have hascii : isAscii c.toUpper = true -> isAscii c = true := by
    intro hupper
    have hlt := of_decide_eq_true hupper
    rw [toNat_toUpper] at hlt
    apply decide_eq_true
    split at hlt
    · omega
    · exact hlt
  have hdigit : c.toUpper.isDigit = true -> isAscii c.toUpper = true := by
    intro hc
    have hle : c.toUpper.toNat <= 57 := (Char.isDigit_iff_toNat.mp hc).right
    exact decide_eq_true (Nat.lt_of_le_of_lt hle (by decide))
  have hupper : c.toUpper.isUpper = true -> isAscii c.toUpper = true := by
    intro hc
    have hle : c.toUpper.toNat <= 90 :=
      UInt32.le_iff_toNat_le.mp (of_decide_eq_true hc).right
    exact decide_eq_true (Nat.lt_of_le_of_lt hle (by decide))
  apply hascii
  cases expected with
  | digit => exact hdigit h
  | letter => exact hupper h
  | alphanumeric => exact h.elim hdigit hupper

theorem toUpper_toUpper (c : Char) : c.toUpper.toUpper = c.toUpper := by
  apply Char.toNat_inj.mp
  rw [toNat_toUpper, toNat_toUpper]
  split
  · rw [if_neg]
    omega
  · rfl

/-!
## The two passes
-/

section Parser

variable {error value : Type} {n : Nat} {chars : List Char}
variable {classAt : Nat -> CharacterClass} {character : Char} {position : Nat}

theorem points_of_notAscii {k : Nat}
    (h : FirstFailure (fun _ c => isAscii c = true) chars k character) :
    Points chars classAt (fun _ c => isAscii c = true) character (k + 1) :=
  ⟨k, character, rfl, rfl, mt CharacterClass.isAscii_of_includes h.fails, h⟩

theorem points_of_class {bytes : List UInt8} {k : Nat} {b : UInt8}
    (hascii : forall c, c ∈ chars -> isAscii c = true)
    (hbytes : bytes = chars.map asciiUpperByte)
    (h : FirstFailure (fun j d => (classAt j).Contains d) bytes k b) :
    Points chars classAt (InClass classAt) (charOfByte b) (k + 1) := by
  subst hbytes
  rcases h.of_map with ⟨c, rfl, hfirst⟩
  have hclass : forall j d, chars[j]? = some d ->
      ((classAt j).Contains (asciiUpperByte d) <-> InClass classAt j d) := by
    intro j d hd
    unfold InClass
    rw [← charOfByte_asciiUpperByte (hascii d (List.mem_of_getElem? hd)),
      CharacterClass.includes_charOfByte]
  have hfails := mt (hclass k c hfirst.place).mpr hfirst.fails
  refine ⟨k, c, rfl, ?_, hfails, ?_⟩
  · rw [charOfByte_asciiUpperByte (hascii c (List.mem_of_getElem? hfirst.place)),
      toUpper_toUpper]
  · refine { place := hfirst.place, fails := hfails, earlier := ?_ }
    intro j d hj hd
    exact (hclass j d hd).mp (hfirst.earlier j d hj hd)

variable {empty : error} {invalidLength : Nat -> error}
variable {notAscii : Nat -> Char -> error} {isEmpty : Bool}
variable {check : Nat -> UInt8 -> Except error Unit}
variable {later : Bytes n -> Except error Unit}
variable {accept : Bytes n -> Except error value}

/--
A parser that normalises and checks its characters: of its errors, `blamed`
tells the character and the position of those that blame a character.
-/
theorem locates (blamed : error -> Option (Char × Nat))
    (hempty : blamed empty = none)
    (hlength : forall found, blamed (invalidLength found) = none)
    (hnotAscii : forall i c, blamed (notAscii i c) = some (c, i + 1))
    (hclass : forall i b, check i b = .ok () <-> (classAt i).Contains b)
    (hcheck : forall i b e, check i b = .error e ->
      blamed e = some (charOfByte b, i + 1))
    (hlater : forall v e, later v = .error e -> blamed e = none)
    (haccept : forall v e, accept v = .error e ->
      (checkBytes check 0 v.toList >>= fun _ => later v) = .error e)
    {report : error}
    (h : (normalizeSelected n empty invalidLength notAscii isEmpty chars >>=
      accept) = .error report)
    (hblamed : blamed report = some (character, position)) :
    Locates (normalizeSelected n empty invalidLength notAscii isEmpty chars)
      check chars classAt report character position := by
  rcases bind_eq_error.mp h with hnormalized | ⟨v, hv, hvalidate⟩
  · refine .inl ⟨hnormalized, ?_⟩
    rcases normalizeSelected_error hnormalized with rfl | rfl | ⟨k, c, rfl, hk⟩
    · rw [hempty] at hblamed
      cases hblamed
    · rw [hlength] at hblamed
      cases hblamed
    · rw [hnotAscii] at hblamed
      cases hblamed
      exact points_of_notAscii hk
  · refine .inr ⟨v, hv, ?_⟩
    rcases normalizeSelected_ok hv with ⟨hascii, hbytes⟩
    rcases bind_eq_error.mp (haccept v report hvalidate) with
      hclasses | ⟨_, _, hrest⟩
    · refine ⟨hclasses, ?_⟩
      rcases checkBytes_eq_error hclasses with ⟨k, b, hreport, hfirst⟩
      simp only [Nat.zero_add] at hreport hfirst
      rw [hcheck k b report hreport] at hblamed
      cases hblamed
      simp only [hclass] at hfirst
      exact points_of_class hascii hbytes hfirst
    · rw [hlater v report hrest] at hblamed
      cases hblamed

end Parser

/-!
## The five parsers
-/

theorem eq_of_check_error {error : Type} {valid : Bool} {report e : error}
    (h : (if valid = true then Except.ok () else Except.error report) =
      .error e) : e = report := by
  cases valid with
  | false =>
      cases h
      rfl
  | true => cases h

namespace Isin

def blamed : IsinError -> Option (Char × Nat)
  | .invalidCharacter character position _ => some (character, position)
  | _ => none

theorem validateCheckDigit_blamed {candidate : List UInt8} {e : IsinError}
    (h : validateCheckDigit candidate = .error e) : blamed e = none := by
  unfold validateCheckDigit at h
  simp only at h
  split at h
  · cases h
    rfl
  · cases h

theorem parse_locates {input : String} {character : Char} {position : Nat}
    {expected : CharacterClass}
    (h : parse input =
      .error (.invalidCharacter character position expected)) :
    Locates (normalize input) checkCharacterClass (trim input.toList)
      expectedClass (.invalidCharacter character position expected) character
      position :=
  locates blamed rfl (fun _ => rfl) (fun _ _ => rfl)
    checkCharacterClass_eq_ok_iff
    (fun i b e he => by
      rw [eq_of_check_error he]
      rfl)
    (fun _ _ => validateCheckDigit_blamed) (fun _ _ => validated_eq_error_iff.mp)
    h rfl

end Isin

namespace Lei

def blamed : LeiError -> Option (Char × Nat)
  | .invalidCharacter character position _ => some (character, position)
  | _ => none

theorem validateCheckDigits_blamed {candidate : List UInt8} {e : LeiError}
    (h : validateCheckDigits candidate = .error e) : blamed e = none := by
  unfold validateCheckDigits at h
  simp only at h
  split at h
  · cases h
    rfl
  · cases h

theorem parse_locates {input : String} {character : Char} {position : Nat}
    {expected : CharacterClass}
    (h : parse input =
      .error (.invalidCharacter character position expected)) :
    Locates (normalize input) checkCharacterClass (trim input.toList)
      expectedClass (.invalidCharacter character position expected) character
      position :=
  locates blamed rfl (fun _ => rfl) (fun _ _ => rfl)
    checkCharacterClass_eq_ok_iff
    (fun i b e he => by
      rw [eq_of_check_error he]
      rfl)
    (fun _ _ => validateCheckDigits_blamed) (fun _ _ => validated_eq_error_iff.mp)
    h rfl

end Lei

namespace Cnpj

def meaningful (input : String) : List Char :=
  input.toList.filter (fun c => !isFormattingChar c)

def blamed : CnpjError -> Option (Char × Nat)
  | .invalidCharacter character position _ => some (character, position)
  | _ => none

theorem validateRest_blamed {candidate : List UInt8} {e : CnpjError}
    (h : (validateNotRepeated candidate >>= fun _ =>
      validateCheckDigits candidate) = .error e) : blamed e = none := by
  rcases bind_eq_error.mp h with hrepeated | ⟨_, _, hdigits⟩
  · unfold validateNotRepeated at hrepeated
    split at hrepeated
    · cases hrepeated
      rfl
    · cases hrepeated
  · unfold validateCheckDigits at hdigits
    simp only at hdigits
    split at hdigits
    · cases hdigits
      rfl
    · split at hdigits
      · cases hdigits
        rfl
      · cases hdigits

theorem parse_locates {input : String} {character : Char} {position : Nat}
    {expected : CharacterClass}
    (h : parse input =
      .error (.invalidCharacter character position expected)) :
    Locates (normalize input) checkCharacterClass (meaningful input)
      positionClass (.invalidCharacter character position expected) character
      position :=
  locates blamed rfl (fun _ => rfl) (fun _ _ => rfl)
    checkCharacterClass_eq_ok_iff
    (fun i b e he => by
      rw [eq_of_check_error he]
      rfl)
    (fun _ _ => validateRest_blamed) (fun _ _ => validated_eq_error_iff.mp)
    h rfl

end Cnpj

namespace CountryCode

def blamed : CountryCodeError -> Option (Char × Nat)
  | .invalidCharacter character position => some (character, position)
  | _ => none

theorem validateMembership_blamed {candidate : Bytes 2} {e : CountryCodeError}
    (h : validateMembership candidate = .error e) : blamed e = none := by
  unfold validateMembership at h
  split at h
  · cases h
  · cases h
    rfl

theorem parse_locates {input : String} {character : Char} {position : Nat}
    (h : parse input = .error (.invalidCharacter character position)) :
    Locates (normalize input) checkCharacterClass (trim input.toList)
      (fun _ => .letter) (.invalidCharacter character position) character
      position :=
  locates blamed rfl (fun _ => rfl) (fun _ _ => rfl)
    checkCharacterClass_eq_ok_iff
    (fun i b e he => by
      rw [eq_of_check_error he]
      rfl)
    (fun _ _ => validateMembership_blamed) (fun _ _ => validated_eq_error_iff.mp)
    h rfl

end CountryCode

namespace Cfi

def blamed : CfiError -> Option (Char × Nat)
  | .invalidCharacter character position => some (character, position)
  | _ => none

/--
The byte that a group does not allow: `index` counts the attributes from 1 on,
and the byte is the one that follows the category, the group and the attributes
before it.
-/
def Disallowed (candidate : Bytes 6) (category group : Char) (index : Nat)
    (code : Char) : Prop :=
  exists entry groupEntry byte k,
    findCategory (candidate.get 0) = some entry ∧
    findGroup entry (candidate.get 1) = some groupEntry ∧
    category = charOfByte (candidate.get 0) ∧
    group = charOfByte groupEntry.code ∧
    index = k + 1 ∧ candidate.toList[index + 1]? = some byte ∧
    code = charOfByte byte ∧
    FirstFailure
      (fun j b => attrAllows (groupEntry.attrs.getD j 0#32) b = true)
      (candidate.toList.drop 2) k byte

theorem validateTaxonomy_error {candidate : Bytes 6} {e : CfiError}
    (h : validateTaxonomy candidate = .error e) :
    (exists code, e = .unknownCategory code) ∨
      (exists category code, e = .unknownGroup category code) ∨
      exists category group index code,
        e = .invalidAttribute category group index code ∧
          Disallowed candidate category group index code := by
  unfold validateTaxonomy at h
  simp only at h
  split at h
  · cases h
    exact .inl ⟨_, rfl⟩
  rename_i entry hentry
  split at h
  · cases h
    exact .inr (.inl ⟨_, _, rfl⟩)
  rename_i groupEntry hgroup
  rcases checkBytes_eq_error h with ⟨k, b, hcheck, hfirst⟩
  simp only [Nat.zero_add, checkAttribute_eq_ok_iff] at hcheck hfirst
  have hplace := hfirst.place
  rw [List.getElem?_drop, Nat.add_comm] at hplace
  rw [eq_of_check_error hcheck]
  exact .inr (.inr ⟨_, _, _, _, rfl, entry, groupEntry, b, k, hentry, hgroup,
    rfl, rfl, rfl, hplace, rfl, hfirst⟩)

theorem validateTaxonomy_blamed {candidate : Bytes 6} {e : CfiError}
    (h : validateTaxonomy candidate = .error e) : blamed e = none := by
  rcases validateTaxonomy_error h with
    ⟨_, rfl⟩ | ⟨_, _, rfl⟩ | ⟨_, _, _, _, rfl, _⟩
  · rfl
  · rfl
  · rfl

theorem parse_locates {input : String} {character : Char} {position : Nat}
    (h : parse input = .error (.invalidCharacter character position)) :
    Locates (normalize input) checkCharacterClass (trim input.toList)
      (fun _ => .letter) (.invalidCharacter character position) character
      position :=
  locates blamed rfl (fun _ => rfl) (fun _ _ => rfl)
    checkCharacterClass_eq_ok_iff
    (fun i b e he => by
      rw [eq_of_check_error he]
      rfl)
    (fun _ _ => validateTaxonomy_blamed) (fun _ _ => validated_eq_error_iff.mp)
    h rfl

theorem fromBytes_disallowed {bytes : Bytes 6} {category group code : Char}
    {index : Nat}
    (h : fromBytes bytes =
      .error (.invalidAttribute category group index code)) :
    Disallowed bytes category group index code := by
  rcases bind_eq_error.mp (validated_eq_error_iff.mp h) with
    hclasses | ⟨_, _, htaxonomy⟩
  · rcases checkBytes_eq_error hclasses with ⟨k, b, hcheck, _⟩
    cases eq_of_check_error hcheck
  · rcases validateTaxonomy_error htaxonomy with
      ⟨_, he⟩ | ⟨_, _, he⟩ | ⟨_, _, _, _, he, hdisallowed⟩
    · cases he
    · cases he
    · cases he
      exact hdisallowed

/-- The place in the bytes is the place in the characters of the input. -/
theorem parse_disallowed {input : String} {category group code : Char}
    {index : Nat}
    (h : parse input = .error (.invalidAttribute category group index code)) :
    exists candidate c, normalize input = .ok candidate ∧
      Disallowed candidate category group index code ∧
      (trim input.toList)[index + 1]? = some c ∧ c.toUpper = code := by
  rcases bind_eq_error.mp h with hnormalize | ⟨candidate, hcandidate, hfrom⟩
  · have hselected : normalizeSelected 6 CfiError.empty .invalidLength
        (fun i c => .invalidCharacter c (i + 1)) input.isEmpty
        (trim input.toList) = _ := hnormalize
    rcases normalizeSelected_error hselected with he | he | ⟨k, c, he, _⟩
    · cases he
    · cases he
    · cases he
  · have hdisallowed := fromBytes_disallowed hfrom
    rcases hdisallowed with ⟨_, _, byte, _, _, _, _, _, _, hplace, rfl, _⟩
    rcases (normalizeCode_eq_ok_iff (by decide)).mp hcandidate with
      ⟨hascii, hbytes⟩
    rw [hbytes, List.getElem?_map] at hplace
    rcases Option.map_eq_some_iff.mp hplace with ⟨c, hc, rfl⟩
    refine ⟨candidate, c, hcandidate, fromBytes_disallowed hfrom, hc, ?_⟩
    exact (charOfByte_asciiUpperByte
      (hascii c (List.mem_of_getElem? hc))).symm

end Cfi

/--
An error about a character points to the character: it stands at the position,
its class excludes it, and what stands before it passes the check that made the
report.  An error about an attribute of a CFI points to the byte of it.
-/
theorem errors_locate :
    (forall input character position expected,
      Isin.parse input =
          .error (.invalidCharacter character position expected) ->
        Locates (Isin.normalize input) Isin.checkCharacterClass
          (trim input.toList) Isin.expectedClass
          (.invalidCharacter character position expected) character position) ∧
      (forall input character position expected,
        Lei.parse input =
            .error (.invalidCharacter character position expected) ->
          Locates (Lei.normalize input) Lei.checkCharacterClass
            (trim input.toList) Lei.expectedClass
            (.invalidCharacter character position expected) character
            position) ∧
      (forall input character position expected,
        Cnpj.parse input =
            .error (.invalidCharacter character position expected) ->
          Locates (Cnpj.normalize input) Cnpj.checkCharacterClass
            (Cnpj.meaningful input) Cnpj.positionClass
            (.invalidCharacter character position expected) character
            position) ∧
      (forall input character position,
        CountryCode.parse input =
            .error (.invalidCharacter character position) ->
          Locates (CountryCode.normalize input) CountryCode.checkCharacterClass
            (trim input.toList) (fun _ => .letter)
            (.invalidCharacter character position) character position) ∧
      (forall input character position,
        Cfi.parse input = .error (.invalidCharacter character position) ->
          Locates (Cfi.normalize input) Cfi.checkCharacterClass
            (trim input.toList) (fun _ => .letter)
            (.invalidCharacter character position) character position) ∧
      (forall bytes category group index code,
        Cfi.fromBytes bytes =
            .error (.invalidAttribute category group index code) ->
          Cfi.Disallowed bytes category group index code) ∧
      forall input category group index code,
        Cfi.parse input =
            .error (.invalidAttribute category group index code) ->
          exists candidate c, Cfi.normalize input = .ok candidate ∧
            Cfi.Disallowed candidate category group index code ∧
            (trim input.toList)[index + 1]? = some c ∧ c.toUpper = code :=
  ⟨fun _ _ _ _ => Isin.parse_locates, fun _ _ _ _ => Lei.parse_locates,
    fun _ _ _ _ => Cnpj.parse_locates, fun _ _ _ => CountryCode.parse_locates,
    fun _ _ _ => Cfi.parse_locates, fun _ _ _ _ _ => Cfi.fromBytes_disallowed,
    fun _ _ _ _ _ => Cfi.parse_disallowed⟩

/-- A character outside ASCII, behind a character of the wrong class. -/
theorem errors_locate_accentedCode :
    Locates (Cnpj.normalize "1!.222.333/0001-é1") Cnpj.checkCharacterClass
      (Cnpj.meaningful "1!.222.333/0001-é1") Cnpj.positionClass
      (.invalidCharacter 'é' 13 .alphanumeric) 'é' 13 :=
  errors_locate.right.right.left _ _ _ _ (by decide +kernel)

example :
    Cfi.parse " esvuxr" = .error (.invalidAttribute 'E' 'S' 3 'X') := by
  decide +kernel

end Identifiers
end Valqeron
