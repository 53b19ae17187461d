import Valqeron.Identifiers.Common

/-!
# CFI, the classification of financial instruments

Six letters: a category, a group of the category and four attributes, each with
the letters that the group allows for it.
-/

namespace Valqeron
namespace Identifiers

open Foundation

inductive CfiError where
  | empty
  | invalidLength (found : Nat)
  | invalidCharacter (character : Char) (position : Nat)
  | unknownCategory (code : Char)
  | unknownGroup (category code : Char)
  | invalidAttribute (category group : Char) (index : Nat) (code : Char)
deriving DecidableEq, Repr

def CfiError.message : CfiError -> String
  | empty => "empty CFI"
  | invalidLength found =>
      s!"CFI must contain exactly 6 characters, found {found}"
  | invalidCharacter character position =>
      s!"invalid character '{character}' at position {position} of 6: expected an uppercase letter (A-Z) ASCII character"
  | unknownCategory code => s!"unknown CFI category '{code}' at position 1"
  | unknownGroup _ code => s!"unknown CFI group '{code}' at position 2"
  | invalidAttribute _ _ index code =>
      s!"invalid attribute '{code}' at position {index} of 6"

namespace Cfi

instance lengthNeZero : NeZero 6 := ⟨by decide⟩

structure GroupEntry where
  code : UInt8
  /-- One bit for each letter that the attribute may have. -/
  attrs : List (BitVec 32)
deriving DecidableEq, Repr

structure CategoryEntry where
  code : UInt8
  groups : List GroupEntry
deriving DecidableEq, Repr

/-- The seed of the table: the letters of the four attributes of each group. -/
def seed : List (Char × List (Char × String × String × String × String)) :=
  [
    ('C', [
      ('B', "CMO", "GIJ", "X", "QSUY"),
      ('E', "CMO", "GIJ", "BCDEFKLMRV", "SU"),
      ('F', "CMO", "GIJ", "BEHIMP", "QSUY"),
      ('H', "ADELMNRS", "X", "X", "X"),
      ('I', "CMO", "GIJ", "BCDEFKLMRV", "QSUY"),
      ('M', "X", "X", "X", "QSUY"),
      ('P', "CMO", "GIJ", "BCDEFKLMRV", "QSUY"),
      ('S', "CMO", "BGLM", "BMR", "SU")]),
    ('D', [
      ('A', "FVZ", "CGJNOPQSTU", "ABCDEFGLPQRT", "BMNR"),
      ('B', "CFKVZ", "CGJNOPQSTU", "ABCDEFGLPQRT", "BMNR"),
      ('C', "FKVZ", "CGJNOPQSTU", "ABCDEFGLPQRT", "BMNR"),
      ('D', "ABCGMNTWY", "CFVZ", "CGJNOPQSTU", "ABCDEFGLPQRT"),
      ('E', "ABCDEM", "DFMVY", "CMRST", "BCDIMNST"),
      ('G', "FVZ", "CGJNOPQSTU", "ABCDEFGLPQRT", "BMNR"),
      ('M', "BMP", "X", "X", "BMNR"),
      ('N', "FVZ", "CGJNOPQSTU", "ABCDEFGLPQRT", "BMNR"),
      ('S', "ABCDM", "DFMVY", "FMV", "BCDIMNST"),
      ('T', "FKVZ", "CGJNOPQSTU", "ABCDEFGLPQRT", "BMNR"),
      ('W', "FKVZ", "CGJNOPQSTU", "ABCDEFGLPQRT", "BMNR"),
      ('Y', "FKVZ", "CGJNOPQSTU", "X", "BMNR")]),
    ('E', [
      ('C', "ENRV", "TU", "FOP", "BMNR"),
      ('D', "CFLMPS", "BDNR", "ACDFNPQU", "BMNR"),
      ('F', "ENRV", "ACEGNRT", "ACFNPQU", "BMNR"),
      ('L', "ENRV", "TU", "FOP", "BMNR"),
      ('M', "X", "X", "X", "BMNR"),
      ('P', "ENRV", "ACEGNRT", "ACFNPQU", "BMNR"),
      ('S', "ENRV", "TU", "FOP", "BMNR"),
      ('Y', "ABCDEM", "DMY", "EFMV", "BCDGIMNST")]),
    ('F', [
      ('C', "AEHIMNPS", "CNP", "NS", "X"),
      ('F', "BCDFIMNOSVW", "CNP", "NS", "X")]),
    ('H', [
      ('C', "IMUVW", "ABCDEFGHI", "ABDGLMPV", "CEP"),
      ('E', "BFIMORS", "ABCDEFGHI", "ABDGLMPV", "CEP"),
      ('F', "BCDEFMQRTUVWY", "JKL", "ABDGLMPV", "CEP"),
      ('M', "MP", "ABCDEFGHIJKL", "ABDGLMPV", "ACENP"),
      ('R', "ACDEFGHMOR", "ABCDEFGHI", "ABCDFGLMPV", "CEP"),
      ('T', "ABCFGHIJKMNOPRSTW", "ABCDEFGHI", "ABDGLMPV", "CEP")]),
    ('I', [
      ('F', "X", "X", "X", "P"),
      ('T', "AJKMNPST", "X", "X", "X")]),
    ('J', [
      ('C', "ABCDGIO", "X", "CFS", "CP"),
      ('E', "BFIOS", "X", "CFS", "CP"),
      ('F', "FJKLNORSTUVW", "X", "CFRS", "CP"),
      ('R', "IMO", "X", "CFS", "CP"),
      ('T', "ABCGHIJKMNPST", "X", "CFS", "CP")]),
    ('K', [
      ('C', "X", "X", "X", "X"),
      ('E', "X", "X", "X", "X"),
      ('F', "X", "X", "X", "X"),
      ('M', "X", "X", "X", "X"),
      ('R', "X", "X", "X", "X"),
      ('T', "X", "X", "X", "X"),
      ('Y', "X", "X", "X", "X")]),
    ('L', [
      ('L', "ABJKMNPST", "X", "X", "CP"),
      ('R', "CGS", "FNOT", "X", "DHT"),
      ('S', "CDEGKLMPTW", "NOT", "X", "DFHT")]),
    ('M', [
      ('C', "ABHMSUW", "TU", "X", "BMNR"),
      ('M', "EIMNPRST", "X", "X", "X")]),
    ('O', [
      ('C', "AE", "BCDFIMNOSTW", "CENP", "NS"),
      ('M', "X", "X", "X", "X"),
      ('P', "ABE", "BCDFIMNOSTW", "CENP", "NS")]),
    ('R', [
      ('A', "X", "X", "X", "BMNR"),
      ('D', "AMPSW", "X", "X", "BMNR"),
      ('F', "BCDIMST", "MNT", "CMP", "ABEM"),
      ('M', "X", "X", "X", "X"),
      ('P', "BCFIMPS", "X", "X", "BMNR"),
      ('S', "BCFIMPS", "X", "X", "BMNR"),
      ('W', "BCDIMST", "CNT", "BCP", "ABEM")]),
    ('S', [
      ('C', "BIMUV", "CMT", "CLS", "ACP"),
      ('E', "BIMS", "CDLMPTV", "X", "CEP"),
      ('F', "ACM", "X", "X", "CP"),
      ('M', "MP", "X", "X", "CEP"),
      ('R', "ACDGHMZ", "CDIY", "CS", "DN"),
      ('T', "ABCGHIJKMNPQST", "CT", "X", "CEP")]),
    ('T', [
      ('B', "CDEFIMT", "X", "X", "X"),
      ('C', "CLMN", "X", "X", "X"),
      ('D', "CFKLMPS", "X", "X", "X"),
      ('I', "CDEFMRT", "CEFMP", "GMNP", "X"),
      ('M', "X", "X", "X", "X"),
      ('R', "FMNRV", "ADMNQSW", "X", "X"),
      ('T', "AEHIMNPS", "X", "X", "X")])
  ]

def attributeMask (letters : String) : BitVec 32 :=
  letters.toList.foldl
    (fun mask letter => mask ||| 1#32 <<< (letter.toNat - 65)) 0#32

def groupEntry : Char × String × String × String × String -> GroupEntry
  | (code, first, second, third, fourth) =>
      { code := asciiUpperByte code
        attrs := [first, second, third, fourth].map attributeMask }

def categories : List CategoryEntry :=
  seed.map (fun category =>
    { code := asciiUpperByte category.1
      groups := category.2.map groupEntry })

def findCategory (code : UInt8) : Option CategoryEntry :=
  categories.find? (fun c => c.code == code)

def findGroup (category : CategoryEntry) (code : UInt8) : Option GroupEntry :=
  category.groups.find? (fun g => g.code == code)

def attrAllows (mask : BitVec 32) (code : UInt8) : Bool :=
  (mask >>> (code.toNat - 65)) &&& 1#32 == 1#32

def checkCharacterClass (i : Nat) (byte : UInt8) : Except CfiError Unit :=
  if isAsciiUppercase byte then
    .ok ()
  else
    .error (.invalidCharacter (charOfByte byte) (i + 1))

/-- The attribute at position `i` of four; the position is reported from 1 on. -/
def checkAttribute (category : UInt8) (group : GroupEntry) (i : Nat)
    (code : UInt8) : Except CfiError Unit :=
  if attrAllows (group.attrs.getD i 0#32) code then
    .ok ()
  else
    .error
      (.invalidAttribute (charOfByte category) (charOfByte group.code) (i + 1)
        (charOfByte code))

def validateTaxonomy (candidate : Bytes 6) : Except CfiError Unit :=
  let categoryCode := candidate.get 0
  match findCategory categoryCode with
  | none => .error (.unknownCategory (charOfByte categoryCode))
  | some category =>
      let groupCode := candidate.get 1
      match findGroup category groupCode with
      | none =>
          .error
            (.unknownGroup (charOfByte categoryCode) (charOfByte groupCode))
      | some group =>
          checkBytes (checkAttribute categoryCode group) 0
            (candidate.toList.drop 2)

def validate (candidate : Bytes 6) : Except CfiError Unit := do
  checkBytes checkCharacterClass 0 candidate.toList
  validateTaxonomy candidate

def normalize (input : String) : Except CfiError (Bytes 6) :=
  normalizeCode 6 .empty .invalidLength
    (fun i c => .invalidCharacter c (i + 1)) input

end Cfi

/-- A CFI carries the proof that it has been validated. -/
structure Cfi where
  bytes : Bytes 6
  valid : Cfi.validate bytes = .ok ()
deriving DecidableEq

namespace Cfi

def fromBytes (bytes : Bytes 6) : Except CfiError Cfi :=
  validated validate Cfi.mk bytes

def parse (input : String) : Except CfiError Cfi := do
  let candidate ← normalize input
  fromBytes candidate

def asStr (c : Cfi) : String := asciiText c.bytes.toList

theorem checkAttribute_eq_ok_iff {category : UInt8} {group : GroupEntry}
    {i : Nat} {code : UInt8} :
    checkAttribute category group i code = .ok () <->
      attrAllows (group.attrs.getD i 0#32) code = true := by
  unfold checkAttribute
  split
  · rename_i hallowed
    exact iff_of_true rfl hallowed
  · rename_i hallowed
    exact iff_of_false nofun hallowed

theorem checkCharacterClass_eq_ok_iff (i : Nat) (byte : UInt8) :
    checkCharacterClass i byte = .ok () <->
      CharacterClass.letter.Contains byte := by
  unfold checkCharacterClass
  rw [accepts_iff]
  rfl

theorem isCodeByte_of_mem (c : Cfi) {b : UInt8} (hb : b ∈ c.bytes.toList) :
    isCodeByte b = true :=
  isCodeByte_of_checked checkCharacterClass_eq_ok_iff c.valid hb

theorem fromBytes_bytes (c : Cfi) : fromBytes c.bytes = .ok c :=
  validated_of_ok c.valid

theorem parse_asStr (c : Cfi) : parse c.asStr = .ok c := by
  have hnormalize : normalize c.asStr = .ok c.bytes :=
    normalizeCode_asciiText (by decide) _ _ _ (fun _ => c.isCodeByte_of_mem)
  unfold parse
  rw [hnormalize]
  exact c.fromBytes_bytes

example : (Cfi.parse " esvufr").map Cfi.asStr = .ok "ESVUFR" := by
  decide +kernel

end Cfi

end Identifiers
end Valqeron
