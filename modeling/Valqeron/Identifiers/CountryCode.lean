import Valqeron.Identifiers.Common

/-!
# Country codes

The two-letter codes that ISO 3166-1 assigns, looked up in a bitmap.
-/

namespace Valqeron
namespace Identifiers

open Foundation

inductive CountryCodeError where
  | empty
  | invalidLength (found : Nat)
  | invalidCharacter (character : Char) (position : Nat)
  | unassigned (code : String)
deriving DecidableEq, Repr

def CountryCodeError.message : CountryCodeError -> String
  | empty => "country code cannot be empty"
  | invalidLength found => s!"country code must be two characters, found {found}"
  | invalidCharacter character position =>
      s!"invalid character '{character}' at position {position} of 2: expected an uppercase letter (A-Z) ASCII character"
  | unassigned code => s!"country code '{code}' is not assigned by ISO 3166-1"

namespace CountryCode

instance lengthNeZero : NeZero 2 := ⟨by decide⟩

def combinations : Nat := 26 * 26

def words : Nat := (combinations + 63) / 64

def assignedCodes : List String :=
  [
    "AD", "AE", "AF", "AG", "AI", "AL", "AM", "AO", "AQ", "AR",
    "AS", "AT", "AU", "AW", "AX", "AZ", "BA", "BB", "BD", "BE",
    "BF", "BG", "BH", "BI", "BJ", "BL", "BM", "BN", "BO", "BQ",
    "BR", "BS", "BT", "BV", "BW", "BY", "BZ", "CA", "CC", "CD",
    "CF", "CG", "CH", "CI", "CK", "CL", "CM", "CN", "CO", "CR",
    "CU", "CV", "CW", "CX", "CY", "CZ", "DE", "DJ", "DK", "DM",
    "DO", "DZ", "EC", "EE", "EG", "EH", "ER", "ES", "ET", "FI",
    "FJ", "FK", "FM", "FO", "FR", "GA", "GB", "GD", "GE", "GF",
    "GG", "GH", "GI", "GL", "GM", "GN", "GP", "GQ", "GR", "GS",
    "GT", "GU", "GW", "GY", "HK", "HM", "HN", "HR", "HT", "HU",
    "ID", "IE", "IL", "IM", "IN", "IO", "IQ", "IR", "IS", "IT",
    "JE", "JM", "JO", "JP", "KE", "KG", "KH", "KI", "KM", "KN",
    "KP", "KR", "KW", "KY", "KZ", "LA", "LB", "LC", "LI", "LK",
    "LR", "LS", "LT", "LU", "LV", "LY", "MA", "MC", "MD", "ME",
    "MF", "MG", "MH", "MK", "ML", "MM", "MN", "MO", "MP", "MQ",
    "MR", "MS", "MT", "MU", "MV", "MW", "MX", "MY", "MZ", "NA",
    "NC", "NE", "NF", "NG", "NI", "NL", "NO", "NP", "NR", "NU",
    "NZ", "OM", "PA", "PE", "PF", "PG", "PH", "PK", "PL", "PM",
    "PN", "PR", "PS", "PT", "PW", "PY", "QA", "RE", "RO", "RS",
    "RU", "RW", "SA", "SB", "SC", "SD", "SE", "SG", "SH", "SI",
    "SJ", "SK", "SL", "SM", "SN", "SO", "SR", "SS", "ST", "SV",
    "SX", "SY", "SZ", "TC", "TD", "TF", "TG", "TH", "TJ", "TK",
    "TL", "TM", "TN", "TO", "TR", "TT", "TV", "TW", "TZ", "UA",
    "UG", "UM", "US", "UY", "UZ", "VA", "VC", "VE", "VG", "VI",
    "VN", "VU", "WF", "WS", "YE", "YT", "ZA", "ZM", "ZW"
  ]

def bitIndex (first second : UInt8) : Nat :=
  (first.toNat - 65) * 26 + (second.toNat - 65)

def buildBitmap (codes : List (UInt8 × UInt8)) : List (BitVec 64) :=
  codes.foldl
    (fun bits code =>
      let index := bitIndex code.1 code.2
      bits.modify (index / 64) (fun word => word ||| 1#64 <<< (index % 64)))
    (List.replicate words 0#64)

def codeBytes (code : String) : UInt8 × UInt8 :=
  match code.toList with
  | [a, b] => (asciiUpperByte a, asciiUpperByte b)
  | _ => (0, 0)

def assigned : List (BitVec 64) := buildBitmap (assignedCodes.map codeBytes)

def isAssigned (first second : UInt8) : Bool :=
  let index := bitIndex first second
  (assigned.getD (index / 64) 0#64 >>> (index % 64)) &&& 1#64 == 1#64

def checkCharacterClass (i : Nat) (byte : UInt8) :
    Except CountryCodeError Unit :=
  if isAsciiUppercase byte then
    .ok ()
  else
    .error (.invalidCharacter (charOfByte byte) (i + 1))

def validateMembership (candidate : Bytes 2) : Except CountryCodeError Unit :=
  if isAssigned (candidate.get 0) (candidate.get 1) then
    .ok ()
  else
    .error (.unassigned (asciiText candidate.toList))

def validate (candidate : Bytes 2) : Except CountryCodeError Unit := do
  checkBytes checkCharacterClass 0 candidate.toList
  validateMembership candidate

def normalize (input : String) : Except CountryCodeError (Bytes 2) :=
  if input.isEmpty then
    .error .empty
  else
    let trimmed := trim input.toList
    if h : trimmed.length = 2 then
      h ▸ normalizeChars (fun i c => .invalidCharacter c (i + 1)) 0 trimmed
    else
      .error (.invalidLength trimmed.length)

end CountryCode

/-- A country code carries the proof that it has been validated. -/
structure CountryCode where
  bytes : Bytes 2
  valid : CountryCode.validate bytes = .ok ()
deriving DecidableEq

namespace CountryCode

def fromBytes (bytes : Bytes 2) : Except CountryCodeError CountryCode :=
  validated validate CountryCode.mk bytes

def parse (input : String) : Except CountryCodeError CountryCode := do
  let candidate ← normalize input
  fromBytes candidate

def fromStr (input : String) : Except CountryCodeError CountryCode :=
  parse input

def asStr (c : CountryCode) : String := asciiText c.bytes.toList

theorem checkCharacterClass_eq_ok_iff (i : Nat) (byte : UInt8) :
    checkCharacterClass i byte = .ok () <->
      CharacterClass.letter.Contains byte := by
  unfold checkCharacterClass
  rw [accepts_iff]
  rfl

theorem isCodeByte_of_mem (c : CountryCode) {b : UInt8}
    (hb : b ∈ c.bytes.toList) : isCodeByte b = true :=
  isCodeByte_of_checked checkCharacterClass_eq_ok_iff c.valid hb

theorem fromBytes_bytes (c : CountryCode) : fromBytes c.bytes = .ok c :=
  validated_of_ok c.valid

theorem parse_asStr (c : CountryCode) : parse c.asStr = .ok c := by
  have hnormalize : normalize c.asStr = .ok c.bytes :=
    normalizeCode_asciiText (by decide) _ _ _ (fun _ => c.isCodeByte_of_mem)
  unfold parse
  rw [hnormalize]
  exact c.fromBytes_bytes

end CountryCode

end Identifiers
end Valqeron
