import Valqeron.Identifiers.Checked.CountryCode
import Valqeron.Identifiers.Mic

/-!
# MICs, with the panics

What a code of the registry is looked up for is there, as the table was built
from rows whose operators are rows of it too.
-/

namespace Valqeron
namespace Identifiers

open Foundation

namespace Mic
namespace Checked

open MicSeed

section

variable (table : List MicEntry)

def find (candidate : Bytes 4) : Option (Option MicEntry) :=
  checkedLookup MicEntry.key table (micKey candidate)

def checkCharacterClass (i : Nat) (byte : UInt8) : Guarded MicError Unit :=
  Guarded.checkClass (!(!isAsciiUppercase byte && !isAsciiDigit byte)) i
    (.invalidCharacter (charOfByte byte))

def validateMembership (candidate : Bytes 4) : Guarded MicError Unit := do
  let found ← find table candidate
  if found.isSome then
    pure ()
  else
    match fromUtf8 candidate.toList with
    | none => throw (.invalidUtf8 candidate.toList)
    | some code => throw (.unregistered code)

def validate (candidate : Bytes 4) : Guarded MicError Unit := do
  Guarded.checkBytes checkCharacterClass 0 candidate.toList
  validateMembership table candidate

def normalize (input : String) : Guarded MicError (Bytes 4) :=
  Guarded.normalizeCode 4 .empty .invalidLength
    (fun _ c position => some (.invalidCharacter c position)) input

def fromBytes (bytes : Bytes 4) : Guarded MicError (Bytes 4) :=
  Guarded.fromBytes (validate table) bytes

def parse (input : String) : Guarded MicError (Bytes 4) :=
  Guarded.parse normalize (validate table) input

def asStr (bytes : Bytes 4) : Option String := fromUtf8 bytes.toList

/-- The entry of a code; `expect` panics where there is none. -/
def entry (bytes : Bytes 4) : Option MicEntry := do
  let found ← find table bytes
  found

def operatingMic (bytes : Bytes 4) : Option (Bytes 4) := do
  let entry ← entry table bytes
  let operator ← table[entry.operating.toNat]?
  pure operator.code

def isActive (bytes : Bytes 4) : Option Bool := do
  let entry ← entry table bytes
  pure entry.active

def isOperating (bytes : Bytes 4) : Option Bool := do
  let operator ← operatingMic table bytes
  pure (operator == bytes)

def isSegment (bytes : Bytes 4) : Option Bool := do
  let operating ← isOperating table bytes
  pure (!operating)

def countryCode (bytes : Bytes 4) : Option (Option (Bytes 2)) := do
  let entry ← entry table bytes
  let country ← (CountryCode.Checked.fromBytes entry.country).run
  pure country.toOption

end

variable {table : List MicEntry}

theorem find_eq (candidate : Bytes 4) :
    find table candidate = some (Mic.find table candidate) :=
  checkedLookup_eq

theorem validateMembership_eq (candidate : Bytes 4) :
    validateMembership table candidate =
      Guarded.ofExcept (Mic.validateMembership table candidate) := by
  unfold validateMembership Mic.validateMembership
  rw [find_eq]
  cases Mic.find table candidate with
  | some entry => rfl
  | none =>
      cases fromUtf8 candidate.toList with
      | none => rfl
      | some code => rfl

theorem checkCharacterClass_eq {i : Nat} (h : i < 255) (byte : UInt8) :
    checkCharacterClass i byte =
      Guarded.ofExcept (Mic.checkCharacterClass i byte) := by
  unfold checkCharacterClass Mic.checkCharacterClass
  rw [Guarded.checkClass_eq h]
  cases !isAsciiUppercase byte && !isAsciiDigit byte with
  | true => rfl
  | false => rfl

theorem validate_eq (candidate : Bytes 4) :
    validate table candidate = Guarded.ofExcept (Mic.validate table candidate) := by
  unfold validate Mic.validate
  rw [Guarded.checkBytes_array (by decide) checkCharacterClass_eq candidate]
  apply Guarded.ofExcept_bind
  intro _ _
  exact validateMembership_eq candidate

theorem normalize_eq (input : String) :
    normalize input = Guarded.ofExcept (Mic.normalize input) := by
  apply Guarded.normalizeCode_eq (by decide)
  intro i c _
  rfl

theorem map_bytes_fromBytes (bytes : Bytes 4) :
    (Mic.fromBytes table bytes).map Mic.bytes =
      (Mic.validate table bytes).map (fun _ => bytes) := by
  unfold Mic.fromBytes
  cases Mic.validate table bytes with
  | error e => rfl
  | ok _ => rfl

structure AccessorsReturn (table : List MicEntry) (mic : Mic) : Prop where
  isActive :
    exists active, isActive table mic.bytes = some active ∧
      mic.isActive table = some active
  operatingMic :
    exists operator : Mic, operatingMic table mic.bytes = some operator.bytes ∧
      mic.operatingMic table = some operator
  isOperating :
    exists operating, isOperating table mic.bytes = some operating ∧
      mic.isOperating table = some operating
  isSegment :
    exists segment, isSegment table mic.bytes = some segment ∧
      mic.isSegment table = some segment
  countryCode :
    exists country : Option CountryCode,
      countryCode table mic.bytes = some (country.map CountryCode.bytes) ∧
        mic.countryCode table = some country

structure NeverPanics (table : List MicEntry) : Prop where
  constructors :
    Guarded.RunsThrough Mic.bytes (Mic.parse table) (Mic.fromBytes table)
      (parse table) (fromBytes table)
  text : forall mic, Accepted table mic -> Guarded.StoresText mic.bytes
  asStr :
    forall mic : Mic, Accepted table mic -> asStr mic.bytes = some mic.asStr
  accessors : forall mic, Accepted table mic -> AccessorsReturn table mic

section

variable {mic : Mic} {found operator : MicEntry}

theorem entry_eq (hfound : mic.entry table = some found) :
    entry table mic.bytes = some found := by
  unfold entry
  rw [find_eq]
  exact hfound

theorem isActive_eq (hfound : mic.entry table = some found) :
    isActive table mic.bytes = mic.isActive table := by
  unfold isActive Mic.isActive
  rw [entry_eq hfound, hfound]
  rfl

theorem countryCode_eq (hfound : mic.entry table = some found) :
    countryCode table mic.bytes =
      some ((CountryCode.fromBytes found.country).toOption.map CountryCode.bytes) := by
  have hread := CountryCode.Checked.neverPanics.constructors.fromBytes found.country
  unfold countryCode
  rw [entry_eq hfound]
  show ((CountryCode.Checked.fromBytes found.country).run).bind _ = _
  rw [hread]
  cases CountryCode.fromBytes found.country with
  | error e => rfl
  | ok country => rfl

theorem operatingMic_eq (hfound : mic.entry table = some found)
    (hoperator : table[found.operating.toNat]? = some operator) :
    operatingMic table mic.bytes = some operator.code := by
  unfold operatingMic
  rw [entry_eq hfound]
  show (table[found.operating.toNat]?).bind _ = _
  rw [hoperator]
  rfl

theorem operatingMic_eq_some (hfound : mic.entry table = some found)
    (hoperator : table[found.operating.toNat]? = some operator) :
    mic.operatingMic table = some { bytes := operator.code } := by
  unfold Mic.operatingMic
  rw [hfound]
  show (table[found.operating.toNat]?).bind _ = _
  rw [hoperator]
  rfl

theorem isOperating_eq_some (hfound : mic.entry table = some found)
    (hoperator : table[found.operating.toNat]? = some operator) :
    isOperating table mic.bytes = some (decide (mic.bytes = operator.code)) := by
  unfold isOperating
  rw [operatingMic_eq hfound hoperator]
  show some (operator.code == mic.bytes) = some (decide (mic.bytes = operator.code))
  rw [Option.some_inj, Bool.eq_iff_iff, beq_iff_eq, decide_eq_true_eq, eq_comm]

theorem accessorsReturn (hfound : mic.entry table = some found)
    (hoperator : table[found.operating.toNat]? = some operator) :
    AccessorsReturn table mic := by
  have hoperating := operatingMic_eq_some hfound hoperator
  have hself := isOperating_eq_some hfound hoperator
  refine
    { isActive := ⟨found.active, ?_, ?_⟩
      operatingMic := ⟨_, operatingMic_eq hfound hoperator, hoperating⟩
      isOperating := ⟨_, hself, isOperating_eq hoperating⟩
      isSegment := ⟨!decide (mic.bytes = operator.code), ?_, ?_⟩
      countryCode := ⟨(CountryCode.fromBytes found.country).toOption,
        countryCode_eq hfound, ?_⟩ }
  · rw [isActive_eq hfound, Mic.isActive, hfound]
    rfl
  · rw [Mic.isActive, hfound]
    rfl
  · rw [isSegment, hself]
    rfl
  · rw [Mic.isSegment, isOperating_eq hoperating]
    rfl
  · rw [Mic.countryCode, hfound]
    rfl

end

theorem storesText {rows : List (List String)} (htable : TableOf rows table)
    {mic : Mic} (hmic : Accepted table mic) : Guarded.StoresText mic.bytes := by
  rcases hmic.exists_entry htable with ⟨found, hfound⟩
  rcases (find_eq_some_iff htable).mp hfound with ⟨hmem, hcode⟩
  apply Guarded.storesText_of_codeBytes
  rw [← hcode]
  exact htable.isCode found hmem

theorem neverPanics {rows : List (List String)} (htable : TableOf rows table) :
    NeverPanics table :=
  { constructors := Guarded.runsThrough normalize_eq validate_eq map_bytes_fromBytes
    text := fun _ hmic => storesText htable hmic
    asStr := fun _ hmic => (storesText htable hmic).text
    accessors := by
      intro mic hmic
      rcases hmic.exists_entry htable with ⟨found, hfound⟩
      rcases htable.rowOf found ((find_eq_some_iff htable).mp hfound).left with
        ⟨row, _, hread⟩
      rcases hread.operating with ⟨operator, hoperator, _⟩
      exact accessorsReturn hfound hoperator }

end Checked
end Mic

end Identifiers
end Valqeron
