import Valqeron.Identifiers.CountryCode
import Valqeron.Identifiers.MicSeed

/-!
# MIC, the market identifier code

Four letters or digits that the registry lists.  A code is found by binary
search in the table that is generated from the seed, and what it says about its
market is read from the entry; where the code expects an entry and there is
none, an accessor has no result.
-/

namespace Valqeron
namespace Identifiers

open Foundation
open MicSeed

inductive MicError where
  | empty
  | invalidLength (found : Nat)
  | invalidCharacter (character : Char) (position : Nat)
  | unregistered (code : String)
  | invalidUtf8 (bytes : List UInt8)
deriving DecidableEq, Repr

/-- `utf8Error` is the message of the error of the standard library. -/
def MicError.message (utf8Error : List UInt8 -> String) : MicError -> String
  | empty => "MIC cannot be empty"
  | invalidLength found =>
      s!"MIC must be exactly four characters long; found {found}"
  | invalidCharacter character position =>
      s!"MIC must only contain uppercase ASCII letters and decimal digits; found {character} at position {position}"
  | unregistered code => s!"MIC {code} is not registered in ISO 10383"
  | invalidUtf8 bytes => utf8Error bytes

structure Mic where
  bytes : Bytes 4
deriving DecidableEq

namespace Mic

section

variable (table : List MicEntry)

def find (candidate : Bytes 4) : Option MicEntry :=
  lookupByKey MicEntry.key table (micKey candidate)

def checkCharacterClass (i : Nat) (byte : UInt8) : Except MicError Unit :=
  if !isAsciiUppercase byte && !isAsciiDigit byte then
    .error (.invalidCharacter (charOfByte byte) (i + 1))
  else
    .ok ()

def validateMembership (candidate : Bytes 4) : Except MicError Unit :=
  if (find table candidate).isSome then
    .ok ()
  else
    match fromUtf8 candidate.toList with
    | none => .error (.invalidUtf8 candidate.toList)
    | some code => .error (.unregistered code)

def validate (candidate : Bytes 4) : Except MicError Unit := do
  checkBytes checkCharacterClass 0 candidate.toList
  validateMembership table candidate

def normalize (input : String) : Except MicError (Bytes 4) :=
  normalizeCode 4 .empty .invalidLength
    (fun i c => .invalidCharacter c (i + 1)) input

def fromBytes (bytes : Bytes 4) : Except MicError Mic := do
  validate table bytes
  pure { bytes := bytes }

def parse (input : String) : Except MicError Mic := do
  let candidate ← normalize input
  fromBytes table candidate

def asStr (mic : Mic) : String := asciiText mic.bytes.toList

def entry (mic : Mic) : Option MicEntry := find table mic.bytes

def operatingMic (mic : Mic) : Option Mic := do
  let entry ← mic.entry table
  let operator ← table[entry.operating.toNat]?
  pure { bytes := operator.code }

def isActive (mic : Mic) : Option Bool :=
  (mic.entry table).map MicEntry.active

def isOperating (mic : Mic) : Option Bool :=
  (mic.operatingMic table).map (fun operator => operator == mic)

def isSegment (mic : Mic) : Option Bool :=
  (mic.isOperating table).map (fun operating => !operating)

def countryCode (mic : Mic) : Option (Option CountryCode) :=
  (mic.entry table).map
    (fun entry => (CountryCode.fromBytes entry.country).toOption)

/-- The ways to a code: the constructors, and the operating code of a code. -/
inductive Accepted : Mic -> Prop
  | fromBytes {bytes : Bytes 4} {mic : Mic} :
      fromBytes table bytes = .ok mic -> Accepted mic
  | parse {input : String} {mic : Mic} :
      parse table input = .ok mic -> Accepted mic
  | operatingMic {mic operator : Mic} :
      Accepted mic -> mic.operatingMic table = some operator ->
        Accepted operator

structure Answers (mic : Mic) (row : List String) : Prop where
  operatingMic :
    exists operator, mic.operatingMic table = some operator ∧
      published row 1 = some operator.asStr
  isActive :
    mic.isActive table = some (decide (published row 4 = some "ACTIVE"))
  isOperating :
    mic.isOperating table = some (decide (published row 2 = some "OPRT"))
  isSegment :
    mic.isSegment table = some (decide (published row 2 = some "SGMT"))

end

variable {table : List MicEntry} {rows : List (List String)}

theorem checkCharacterClass_eq_ok_iff {i : Nat} {byte : UInt8} :
    checkCharacterClass i byte = .ok () <-> isCodeByte byte = true := by
  unfold checkCharacterClass isCodeByte
  cases isAsciiUppercase byte with
  | true => simp
  | false =>
      cases isAsciiDigit byte with
      | true => simp
      | false => simp

theorem checkBytes_eq_ok_iff_isCode {bytes : List UInt8} :
    checkBytes checkCharacterClass 0 bytes = .ok () <->
      forall b, b ∈ bytes -> isCodeByte b = true := by
  rw [checkBytes_eq_ok_iff]
  constructor
  · intro h b hb
    rcases List.getElem?_of_mem hb with ⟨i, hi⟩
    exact checkCharacterClass_eq_ok_iff.mp (h i b hi)
  · intro h i b hb
    exact checkCharacterClass_eq_ok_iff.mpr (h b (List.mem_of_getElem? hb))

theorem validateMembership_unregistered {candidate : Bytes 4}
    (hcode : forall b, b ∈ candidate.toList -> isCodeByte b = true)
    (h : find table candidate = none) :
    validateMembership table candidate =
      .error (.unregistered (asciiText candidate.toList)) := by
  unfold validateMembership
  rw [h, fromUtf8_eq_some (fun b hb => lt_128_of_isCodeByte (hcode b hb))]
  rfl

theorem find_eq_some_iff (htable : TableOf rows table) {candidate : Bytes 4}
    {entry : MicEntry} :
    find table candidate = some entry <->
      entry ∈ table ∧ entry.code = candidate := by
  unfold find
  rw [lookupByKey_eq_some_iff htable.strictly]
  constructor
  · intro h
    rcases h with ⟨hmem, hkey⟩
    exact ⟨hmem, micKey_injective hkey⟩
  · intro h
    rcases h with ⟨hmem, rfl⟩
    exact ⟨hmem, rfl⟩

theorem validate_eq_ok_iff (htable : TableOf rows table)
    {candidate : Bytes 4} :
    validate table candidate = .ok () <->
      exists entry, entry ∈ table ∧ entry.code = candidate := by
  unfold validate
  constructor
  · intro h
    rcases bind_eq_ok.mp h with ⟨_, hclasses, hmember⟩
    have hcode := checkBytes_eq_ok_iff_isCode.mp hclasses
    cases hfind : find table candidate with
    | none =>
        rw [validateMembership_unregistered hcode hfind] at hmember
        cases hmember
    | some entry => exact ⟨entry, (find_eq_some_iff htable).mp hfind⟩
  · intro h
    rcases h with ⟨entry, hmem, hcode⟩
    have hfind := (find_eq_some_iff htable).mpr ⟨hmem, hcode⟩
    have hbytes := htable.isCode entry hmem
    rw [hcode] at hbytes
    apply bind_eq_ok.mpr
    refine ⟨(), checkBytes_eq_ok_iff_isCode.mpr hbytes, ?_⟩
    unfold validateMembership
    rw [hfind]
    rfl

theorem fromBytes_eq_ok_iff (htable : TableOf rows table) {bytes : Bytes 4}
    {mic : Mic} :
    fromBytes table bytes = .ok mic <->
      mic.bytes = bytes ∧ exists entry, entry ∈ table ∧ entry.code = bytes := by
  unfold fromBytes
  rw [bind_eq_ok, ← validate_eq_ok_iff htable]
  constructor
  · intro hgiven
    rcases hgiven with ⟨_, hvalid, h⟩
    cases h
    exact ⟨rfl, hvalid⟩
  · intro h
    rcases h with ⟨rfl, hvalid⟩
    exact ⟨(), hvalid, rfl⟩

/-- The codes of the table are the codes of the first column. -/
theorem exists_entry_iff_published (htable : TableOf rows table)
    {code : Bytes 4} :
    (exists entry, entry ∈ table ∧ entry.code = code) <->
      exists row, row ∈ rows ∧ published row 0 = some (asciiText code.toList) := by
  constructor
  · intro h
    rcases h with ⟨entry, hmem, rfl⟩
    rcases htable.rowOf entry hmem with ⟨row, hrow, hread⟩
    exact ⟨row, hrow, hread.mic⟩
  · intro h
    rcases h with ⟨row, hrow, hpublished⟩
    rcases htable.entryOf row hrow with ⟨entry, hmem, hread⟩
    have hsame := hread.mic
    rw [hpublished, Option.some_inj] at hsame
    exact ⟨entry, hmem,
      List.Vector.toList_injective (asciiText_injective hsame.symm)⟩

theorem fromBytes_iff_published (htable : TableOf rows table)
    (bytes : Bytes 4) :
    (exists mic, fromBytes table bytes = .ok mic) <->
      exists row, row ∈ rows ∧
        published row 0 = some (asciiText bytes.toList) := by
  rw [← exists_entry_iff_published htable]
  constructor
  · intro hgiven
    rcases hgiven with ⟨mic, h⟩
    exact ((fromBytes_eq_ok_iff htable).mp h).right
  · intro h
    exact ⟨{ bytes := bytes }, (fromBytes_eq_ok_iff htable).mpr ⟨rfl, h⟩⟩

theorem parse_iff_published (htable : TableOf rows table) (input : String) :
    (exists mic, parse table input = .ok mic) <->
      exists row, row ∈ rows ∧
        published row 0 = some (upperText (trimText input)) := by
  unfold parse
  constructor
  · intro hgiven
    rcases hgiven with ⟨mic, h⟩
    rcases bind_eq_ok.mp h with ⟨candidate, hcandidate, h⟩
    rw [asciiText_of_normalizeCode (by decide) hcandidate]
    exact (fromBytes_iff_published htable candidate).mp ⟨mic, h⟩
  · intro h
    rcases h with ⟨row, hrow, hpublished⟩
    rcases htable.entryOf row hrow with ⟨entry, hmem, hread⟩
    have hsame := hread.mic
    rw [hpublished, Option.some_inj] at hsame
    have hnormalize : normalize input = .ok entry.code :=
      normalizeCode_of_asciiText (by decide) _ _ _
        (fun b hb => lt_128_of_isCodeByte (htable.isCode entry hmem b hb)) hsame
    refine ⟨{ bytes := entry.code }, bind_eq_ok.mpr ⟨_, hnormalize, ?_⟩⟩
    exact (fromBytes_eq_ok_iff htable).mpr ⟨rfl, entry, hmem, rfl⟩

theorem fromBytes_bytes (htable : TableOf rows table) {bytes : Bytes 4}
    {mic : Mic} (h : fromBytes table bytes = .ok mic) : mic.bytes = bytes :=
  ((fromBytes_eq_ok_iff htable).mp h).left

theorem parse_asStr (htable : TableOf rows table) {input : String} {mic : Mic}
    (h : parse table input = .ok mic) :
    mic.asStr = upperText (trimText input) := by
  unfold parse at h
  rcases bind_eq_ok.mp h with ⟨candidate, hcandidate, h⟩
  unfold asStr
  rw [fromBytes_bytes htable h,
    asciiText_of_normalizeCode (by decide) hcandidate]

theorem Accepted.exists_entry (htable : TableOf rows table) {mic : Mic}
    (h : Accepted table mic) : exists entry, mic.entry table = some entry := by
  have hfound : exists entry, entry ∈ table ∧ entry.code = mic.bytes := by
    cases h with
    | fromBytes h =>
        rcases (fromBytes_eq_ok_iff htable).mp h with ⟨rfl, hentry⟩
        exact hentry
    | parse h =>
        rcases bind_eq_ok.mp h with ⟨candidate, _, h⟩
        rcases (fromBytes_eq_ok_iff htable).mp h with ⟨rfl, hentry⟩
        exact hentry
    | operatingMic _ h =>
        rcases Option.bind_eq_some_iff.mp h with ⟨entry, _, h⟩
        rcases Option.bind_eq_some_iff.mp h with ⟨operator, hoperator, h⟩
        cases h
        exact ⟨operator, List.mem_of_getElem? hoperator, rfl⟩
  rcases hfound with ⟨entry, hentry⟩
  exact ⟨entry, (find_eq_some_iff htable).mpr hentry⟩

theorem readFrom_of_published (htable : TableOf rows table) {mic : Mic}
    {entry : MicEntry} (hentry : mic.entry table = some entry)
    {row : List String} (hrow : row ∈ rows)
    (hpublished : published row 0 = some mic.asStr) :
    entry.ReadFrom table row := by
  rcases (find_eq_some_iff htable).mp hentry with ⟨hmem, hcode⟩
  rcases htable.entryOf row hrow with ⟨entry', hmem', hread⟩
  have hsame := hread.mic
  rw [hpublished, Option.some_inj] at hsame
  have hcode' : entry'.code = mic.bytes :=
    List.Vector.toList_injective (asciiText_injective hsame.symm)
  have heq : entry = entry' := by
    apply row_unique htable.strictly hmem hmem'
    unfold MicEntry.key
    rw [hcode, hcode']
  rw [heq]
  exact hread

theorem isOperating_eq {mic : Mic} {code : Bytes 4}
    (h : mic.operatingMic table = some { bytes := code }) :
    mic.isOperating table = some (decide (mic.bytes = code)) := by
  unfold Mic.isOperating
  rw [h, Option.map_some, Option.some_inj, Bool.eq_iff_iff, beq_iff_eq,
    decide_eq_true_eq]
  constructor
  · intro heq
    rw [← heq]
  · intro heq
    rw [← heq]

theorem answers_of_readFrom (htable : TableOf rows table) {mic : Mic}
    {entry : MicEntry} (hentry : mic.entry table = some entry)
    {row : List String} (hread : entry.ReadFrom table row) :
    Answers table mic row := by
  have hcode := ((find_eq_some_iff htable).mp hentry).right
  rcases hread.operating with ⟨operator, hoperator, hpublished, hkind⟩
  have hoperating : mic.operatingMic table = some { bytes := operator.code } := by
    unfold Mic.operatingMic
    rw [hentry]
    show (table[entry.operating.toNat]?.bind _) = _
    rw [hoperator]
    rfl
  have hself := isOperating_eq hoperating
  rw [hcode] at hkind
  refine
    { operatingMic := ⟨_, hoperating, hpublished⟩
      isActive := ?_
      isOperating := ?_
      isSegment := ?_ }
  · unfold Mic.isActive
    rw [hentry, hread.status]
    cases hactive : entry.active with
    | true => simp [hactive]
    | false => simp [hactive]
  · rw [hself, hkind]
    by_cases hsame : mic.bytes = operator.code
    · simp [hsame]
    · simp [hsame]
  · unfold Mic.isSegment
    rw [hself, hkind]
    by_cases hsame : mic.bytes = operator.code
    · simp [hsame]
    · simp [hsame]

/--
For every seed that the generator accepts, the table and the lookups agree with
the seed: the codes are those of its first column, a lookup gives the code that was
asked for and does not fail, and the accessors return what its row publishes.
-/
theorem generatedTable_agreesWithSeed {raw : String} {table : List MicEntry}
    (h : generateMicTable raw = .ok table) :
    exists rows, parseCsv raw = .ok (micColumns.toList :: rows) ∧
      (forall bytes : Bytes 4,
        (exists mic, fromBytes table bytes = .ok mic) <->
          exists row, row ∈ rows ∧
            published row 0 = some (asciiText bytes.toList)) ∧
      (forall (bytes : Bytes 4) (mic : Mic),
        fromBytes table bytes = .ok mic -> mic.bytes = bytes) ∧
      (forall input : String,
        (exists mic, parse table input = .ok mic) <->
          exists row, row ∈ rows ∧
            published row 0 = some (upperText (trimText input))) ∧
      (forall (input : String) (mic : Mic), parse table input = .ok mic ->
        mic.asStr = upperText (trimText input)) ∧
      forall mic, Accepted table mic ->
        (exists entry, mic.entry table = some entry ∧
          entry.operating.toNat < table.length) ∧
        (exists row, row ∈ rows ∧ published row 0 = some mic.asStr) ∧
        forall row, row ∈ rows -> published row 0 = some mic.asStr ->
          Answers table mic row := by
  rcases generateMicTable_tableOf h with ⟨rows, hrecords, htable⟩
  refine ⟨rows, hrecords, fromBytes_iff_published htable,
    fun _ _ => fromBytes_bytes htable, parse_iff_published htable,
    fun _ _ => parse_asStr htable, ?_⟩
  intro mic hmic
  rcases hmic.exists_entry htable with ⟨entry, hentry⟩
  have hmem := (find_eq_some_iff htable).mp hentry
  rcases htable.rowOf entry hmem.left with ⟨row, hrow, hreadRow⟩
  rcases hreadRow.operating with ⟨operator, hoperator, _⟩
  refine ⟨⟨entry, hentry, ?_⟩, ?_, ?_⟩
  · exact (List.getElem?_eq_some_iff.mp hoperator).choose
  · exact (exists_entry_iff_published htable).mp ⟨entry, hmem⟩
  · intro row' hrow' hpublished
    exact answers_of_readFrom htable hentry
      (readFrom_of_published htable hentry hrow' hpublished)

/-- A seed of an operating market and of an expired segment of it. -/
def smallSeed : String :=
  headerText ++
    "\nXNYS, XNYS ,OPRT,US,ACTIVE\r\n\"ARCX\",XNYS,SGMT,US,EXPIRED"

def smallTable : List MicEntry :=
  [
    { code := ⟨[65, 82, 67, 88], rfl⟩
      operating := 1
      country := ⟨[85, 83], rfl⟩
      active := false },
    { code := ⟨[88, 78, 89, 83], rfl⟩
      operating := 1
      country := ⟨[85, 83], rfl⟩
      active := true }
  ]

theorem generateMicTable_smallSeed :
    generateMicTable smallSeed = .ok smallTable := by
  decide +kernel

theorem smallTable_agreesWithSeed :
    exists rows, parseCsv smallSeed = .ok (micColumns.toList :: rows) ∧
      (forall bytes : Bytes 4,
        (exists mic, fromBytes smallTable bytes = .ok mic) <->
          exists row, row ∈ rows ∧
            published row 0 = some (asciiText bytes.toList)) ∧
      (forall (bytes : Bytes 4) (mic : Mic),
        fromBytes smallTable bytes = .ok mic -> mic.bytes = bytes) ∧
      (forall input : String,
        (exists mic, parse smallTable input = .ok mic) <->
          exists row, row ∈ rows ∧
            published row 0 = some (upperText (trimText input))) ∧
      (forall (input : String) (mic : Mic), parse smallTable input = .ok mic ->
        mic.asStr = upperText (trimText input)) ∧
      forall mic, Accepted smallTable mic ->
        (exists entry, mic.entry smallTable = some entry ∧
          entry.operating.toNat < smallTable.length) ∧
        (exists row, row ∈ rows ∧ published row 0 = some mic.asStr) ∧
        forall row, row ∈ rows -> published row 0 = some mic.asStr ->
          Answers smallTable mic row :=
  generatedTable_agreesWithSeed generateMicTable_smallSeed

example :
    (parse smallTable " arcx ").toOption.bind
        (fun mic => (mic.operatingMic smallTable).map asStr) =
      some "XNYS" := by
  decide +kernel

end Mic

end Identifiers
end Valqeron
