import Valqeron.Foundation.BinarySearch
import Valqeron.Foundation.Decoding
import Valqeron.Foundation.Utf8

/-!
# The registry of market identifier codes, at build time

The macro that turns a CSV seed into the table of the registry: it reads the
records, checks each row, sorts the markets by their code, follows the operating
codes and stores each as the index of its entry.  Where the macro panics, the
seed is rejected.
-/

namespace Valqeron
namespace Identifiers

open Foundation

namespace MicSeed

def micColumns : List.Vector String 5 :=
  ⟨["MIC", "OPERATING MIC", "OPRT/SGMT", "ISO COUNTRY CODE (ISO 3166)",
    "STATUS"], rfl⟩

def headerText : String := String.intercalate "," micColumns.toList

inductive SeedError where
  | unterminatedQuote
  | missingHeader
  | wrongHeader
  | missingColumn (line : Nat) (column : String)
  | invalidCode4 (line : Nat) (what found : String)
  | invalidCode2 (line : Nat) (found : String)
  | operatorDiffers (line : Nat)
  | segmentOfItself (line : Nat)
  | unknownKind (line : Nat) (found : String)
  | unknownStatus (line : Nat) (found : String)
  | emptyRegistry
  | tooManyMarkets
  | duplicate (mic : Bytes 4)
  | missingOperating (mic operating : Bytes 4)
  | cycle (mic : Bytes 4)
  | uncheckedReference
deriving DecidableEq

/-- The text of the panic; `debug` quotes a text. -/
def SeedError.message (debug : String -> String) : SeedError -> String
  | unterminatedQuote => "unterminated quoted field"
  | missingHeader => "the seed must have a header row"
  | wrongHeader =>
      s!"the seed header must be exactly `{headerText}`"
  | missingColumn line column => s!"line {line}: missing `{column}` column"
  | invalidCode4 line what found =>
      s!"line {line}: {what} must be four uppercase A-Z or 0-9 characters, found {debug found}"
  | invalidCode2 line found =>
      s!"line {line}: {micColumns.get 3} must be two uppercase A-Z letters, found {debug found}"
  | operatorDiffers line =>
      s!"line {line}: kind is OPRT but the OPERATING MIC differs from the MIC"
  | segmentOfItself line =>
      s!"line {line}: kind is SGMT but the OPERATING MIC equals the MIC"
  | unknownKind line found =>
      s!"line {line}: unknown OPRT/SGMT value {debug found}"
  | unknownStatus line found =>
      s!"line {line}: unknown STATUS value {debug found}"
  | emptyRegistry => "the registry cannot be empty"
  | tooManyMarkets => "the table stores operating references as u16 indexes"
  | duplicate mic => s!"duplicate MIC {debug (asciiText mic.toList)}"
  | missingOperating mic operating =>
      s!"MIC {debug (asciiText mic.toList)} references operating MIC {debug (asciiText operating.toList)}, which is not in the registry"
  | cycle mic =>
      s!"MIC {debug (asciiText mic.toList)} starts a cycle of operating MIC references"
  | uncheckedReference => "finalize checked every operating reference"

/-!
## Reading the records
-/

structure CsvState where
  records : List (List String)
  record : List String
  field : List Char
  inQuotes : Bool

namespace CsvState

def start : CsvState :=
  { records := [], record := [], field := [], inQuotes := false }

def push (state : CsvState) (ch : Char) : CsvState :=
  { state with field := state.field ++ [ch] }

def endField (state : CsvState) : CsvState :=
  { state with
    record := state.record ++ [String.ofList state.field]
    field := [] }

/-- A record without any text is dropped. -/
def endRecord (state : CsvState) : CsvState :=
  let ended := state.endField
  if ended.record.any (fun field => !field.isEmpty) then
    { ended with records := ended.records ++ [ended.record], record := [] }
  else
    { ended with record := [] }

def unquoted (state : CsvState) (ch : Char) : CsvState :=
  if ch = '"' ∧ state.field = [] then
    { state with inQuotes := true }
  else if ch = ',' then
    state.endField
  else if ch = '\r' then
    state
  else if ch = '\n' then
    state.endRecord
  else
    state.push ch

/-- Two quotes inside a quoted field are one quote, a single one ends the quotes. -/
def read : CsvState -> List Char -> CsvState
  | state, [] => state
  | state, ch :: rest =>
      if state.inQuotes then
        if ch = '"' then
          match rest with
          | '"' :: rest' => read (state.push '"') rest'
          | rest => read { state with inQuotes := false } rest
        else
          read (state.push ch) rest
      else
        read (state.unquoted ch) rest

end CsvState

def stripByteOrderMark : List Char -> List Char
  | '\uFEFF' :: rest => rest
  | input => input

def parseCsv (input : String) : Except SeedError (List (List String)) :=
  let state := CsvState.start.read (stripByteOrderMark input.toList)
  if state.inQuotes then
    .error .unterminatedQuote
  else if state.field ≠ [] ∨ state.record ≠ [] then
    .ok (state.records ++ [state.endField.record])
  else
    .ok state.records

example :
    parseCsv "\uFEFFa,\"b\"\"c\"\r\n,\n\nd" =
      .ok [["a", "b\"c"], ["d"]] := by
  decide +kernel

/-!
## Rows and markets
-/

structure Market where
  mic : Bytes 4
  operating : Bytes 4
  country : Bytes 2
  active : Bool
deriving DecidableEq

/-- Byte arrays are in the lexicographic order of their bytes. -/
def micKey (code : Bytes 4) : List Nat := code.toList.map UInt8.toNat

def Market.key (market : Market) : List Nat := micKey market.mic

def code4 (s : String) (line : Nat) (what : String) :
    Except SeedError (Bytes 4) :=
  let bytes := utf8Bytes s
  if h : bytes.length = 4 ∧ bytes.all isCodeByte = true then
    .ok ⟨bytes, h.left⟩
  else
    .error (.invalidCode4 line what s)

def code2 (s : String) (line : Nat) : Except SeedError (Bytes 2) :=
  let bytes := utf8Bytes s
  if h : bytes.length = 2 ∧ bytes.all isAsciiUppercase = true then
    .ok ⟨bytes, h.left⟩
  else
    .error (.invalidCode2 line s)

def field (row : List String) (columns : List.Vector Nat 5) (line : Nat)
    (i : Fin 5) : Except SeedError String :=
  match row[columns.get i]? with
  | none => .error (.missingColumn line (micColumns.get i))
  | some text => .ok (trimText text)

def checkKind (kind : String) (selfOperated : Bool) (line : Nat) :
    Except SeedError Unit :=
  if kind = "OPRT" then
    if selfOperated then .ok () else .error (.operatorDiffers line)
  else if kind = "SGMT" then
    if selfOperated then .error (.segmentOfItself line) else .ok ()
  else
    .error (.unknownKind line kind)

def readStatus (status : String) (line : Nat) : Except SeedError Bool :=
  if status = "ACTIVE" then
    .ok true
  else if status = "EXPIRED" then
    .ok false
  else
    .error (.unknownStatus line status)

def parseMicRow (row : List String) (columns : List.Vector Nat 5)
    (line : Nat) : Except SeedError Market := do
  let mic ← code4 (← field row columns line 0) line (micColumns.get 0)
  let operating ← code4 (← field row columns line 1) line (micColumns.get 1)
  let kind ← field row columns line 2
  let country ← code2 (← field row columns line 3) line
  let status ← field row columns line 4
  checkKind kind (mic = operating) line
  let active ← readStatus status line
  pure { mic, operating, country, active }

/-- The first row stands on the second line. -/
def parseMicRows (rows : List (List String)) (columns : List.Vector Nat 5) :
    Except SeedError (List Market) :=
  rows.zipIdx.mapM (fun row => parseMicRow row.1 columns (row.2 + 2))

/--
Follow the operating codes of a market up to one that operates itself; `hops`
more references may be followed.
-/
def followOperating (markets : List Market) (market : Market) :
    (hops : Nat) -> (current : Market) -> Except SeedError Unit
  | hops, current =>
      if current.mic = current.operating then
        .ok ()
      else
        match lookupByKey Market.key markets (micKey current.operating) with
        | none => .error (.missingOperating current.mic current.operating)
        | some next =>
            match hops with
            | 0 => .error (.cycle market.mic)
            | hops + 1 => followOperating markets market hops next

def finalizeMic (markets : List Market) : Except SeedError (List Market) :=
  if markets.isEmpty then
    .error .emptyRegistry
  else if 2 ^ 16 <= markets.length then
    .error .tooManyMarkets
  else
    let sorted := sortByKey Market.key markets
    match repeatedKey Market.key sorted with
    | some market => .error (.duplicate market.mic)
    | none => do
        let _ ← sorted.mapM (fun market =>
          followOperating sorted market sorted.length market)
        pure sorted

def columns : List.Vector Nat 5 := ⟨[0, 1, 2, 3, 4], rfl⟩

def parseMicSeed (raw : String) : Except SeedError (List Market) := do
  match (← parseCsv raw) with
  | [] => .error .missingHeader
  | header :: rows =>
      if header = micColumns.toList then
        finalizeMic (← parseMicRows rows columns)
      else
        .error .wrongHeader

/-!
## What the rows of an accepted seed publish
-/

def published (row : List String) (column : Nat) : Option String :=
  (row[column]?).map trimText

structure Market.ReadFrom (market : Market) (row : List String) : Prop where
  mic : published row 0 = some (asciiText market.mic.toList)
  operating : published row 1 = some (asciiText market.operating.toList)
  kind :
    published row 2 =
      some (if market.mic = market.operating then "OPRT" else "SGMT")
  country : published row 3 = some (asciiText market.country.toList)
  status : published row 4 = some (if market.active then "ACTIVE" else "EXPIRED")
  isCode : forall b, b ∈ market.mic.toList -> isCodeByte b = true

theorem eq_asciiText_of_utf8Bytes {s : String} {bytes : List UInt8}
    (h : utf8Bytes s = bytes)
    (hcode : forall b, b ∈ bytes -> isCodeByte b = true) :
    s = asciiText bytes := by
  apply utf8Bytes_injective
  rw [h, utf8Bytes_asciiText]
  intro b hb
  exact lt_128_of_isCodeByte (hcode b hb)

theorem code4_ok {s what : String} {line : Nat} {code : Bytes 4}
    (h : code4 s line what = .ok code) :
    s = asciiText code.toList ∧
      forall b, b ∈ code.toList -> isCodeByte b = true := by
  unfold code4 at h
  simp only at h
  split at h
  · rename_i hbytes
    cases h
    have hcode := List.all_eq_true.mp hbytes.right
    exact ⟨eq_asciiText_of_utf8Bytes rfl hcode, hcode⟩
  · cases h

theorem code2_ok {s : String} {line : Nat} {code : Bytes 2}
    (h : code2 s line = .ok code) :
    s = asciiText code.toList ∧
      forall b, b ∈ code.toList -> isAsciiUppercase b = true := by
  unfold code2 at h
  simp only at h
  split at h
  · rename_i hbytes
    cases h
    have hupper := List.all_eq_true.mp hbytes.right
    have hcode : forall b, b ∈ utf8Bytes s -> isCodeByte b = true :=
      fun b hb => isCodeByte_of_isAsciiUppercase (hupper b hb)
    exact ⟨eq_asciiText_of_utf8Bytes rfl hcode, hupper⟩
  · cases h

theorem field_ok {row : List String} {line : Nat} {i : Fin 5} {text : String}
    (h : field row columns line i = .ok text) :
    published row (columns.get i) = some text := by
  unfold field at h
  unfold published
  split at h
  · cases h
  · rename_i found hfound
    cases h
    rw [hfound]
    rfl

theorem checkKind_ok {kind : String} {selfOperated : Bool} {line : Nat}
    (h : checkKind kind selfOperated line = .ok ()) :
    kind = if selfOperated then "OPRT" else "SGMT" := by
  unfold checkKind at h
  cases selfOperated with
  | true =>
      split at h
      · assumption
      · split at h
        · cases h
        · cases h
  | false =>
      split at h
      · cases h
      · split at h
        · assumption
        · cases h

theorem readStatus_ok {status : String} {line : Nat} {active : Bool}
    (h : readStatus status line = .ok active) :
    status = if active then "ACTIVE" else "EXPIRED" := by
  unfold readStatus at h
  split at h
  · cases h
    assumption
  · split at h
    · cases h
      assumption
    · cases h

theorem parseMicRow_ok {row : List String} {line : Nat} {market : Market}
    (h : parseMicRow row columns line = .ok market) : market.ReadFrom row := by
  unfold parseMicRow at h
  rcases bind_eq_ok.mp h with ⟨micText, hmicText, h⟩
  rcases bind_eq_ok.mp h with ⟨mic, hmic, h⟩
  rcases bind_eq_ok.mp h with ⟨operatingText, hoperatingText, h⟩
  rcases bind_eq_ok.mp h with ⟨operating, hoperating, h⟩
  rcases bind_eq_ok.mp h with ⟨kind, hkind, h⟩
  rcases bind_eq_ok.mp h with ⟨countryText, hcountryText, h⟩
  rcases bind_eq_ok.mp h with ⟨country, hcountry, h⟩
  rcases bind_eq_ok.mp h with ⟨status, hstatus, h⟩
  rcases bind_eq_ok.mp h with ⟨_, hchecked, h⟩
  rcases bind_eq_ok.mp h with ⟨active, hactive, h⟩
  cases h
  rw [(code4_ok hmic).left] at hmicText
  rw [(code4_ok hoperating).left] at hoperatingText
  rw [checkKind_ok hchecked] at hkind
  rw [(code2_ok hcountry).left] at hcountryText
  rw [readStatus_ok hactive] at hstatus
  have hkind := field_ok hkind
  simp only [decide_eq_true_eq] at hkind
  exact
    { mic := field_ok hmicText
      operating := field_ok hoperatingText
      kind := hkind
      country := field_ok hcountryText
      status := field_ok hstatus
      isCode := (code4_ok hmic).right }

theorem parseMicRows_ok {rows : List (List String)} {markets : List Market}
    (h : parseMicRows rows columns = .ok markets) :
    List.Forall₂ (fun row market => market.ReadFrom row) rows markets := by
  have hpairs := mapM_eq_ok_iff.mp h
  have hread : List.Forall₂ (fun (row : List String × Nat) (market : Market) =>
      market.ReadFrom row.1) rows.zipIdx markets :=
    hpairs.imp (fun _ _ hrow => parseMicRow_ok hrow)
  rw [← List.forall₂_map_left_iff
    (R := fun row (market : Market) => market.ReadFrom row)] at hread
  rw [List.zipIdx_map_fst] at hread
  exact hread

/-!
## The finished markets
-/

structure Finalized (markets sorted : List Market) : Prop where
  mem_iff : forall m, m ∈ sorted <-> m ∈ markets
  strictly : StrictlySorted Market.key sorted
  fits : sorted.length < 2 ^ 16
  resolves :
    forall m, m ∈ sorted -> exists m', m' ∈ sorted ∧ m'.mic = m.operating

theorem micKey_injective {a b : Bytes 4} (h : micKey a = micKey b) : a = b := by
  apply List.Vector.toList_injective
  exact List.map_injective_iff.mpr (fun _ _ => UInt8.toNat_inj.mp) h

theorem followOperating_resolves {markets : List Market}
    (hstrict : StrictlySorted Market.key markets) {m : Market} {hops : Nat}
    (hm : m ∈ markets) (h : followOperating markets m hops m = .ok ()) :
    exists m', m' ∈ markets ∧ m'.mic = m.operating := by
  unfold followOperating at h
  split at h
  · rename_i hself
    exact ⟨m, hm, hself⟩
  · split at h
    · cases h
    · rename_i next hnext
      rcases (lookupByKey_eq_some_iff hstrict).mp hnext with ⟨hmem, hkey⟩
      exact ⟨next, hmem, micKey_injective hkey⟩

theorem finalizeMic_ok {markets sorted : List Market}
    (h : finalizeMic markets = .ok sorted) : Finalized markets sorted := by
  unfold finalizeMic at h
  split at h
  · cases h
  split at h
  · cases h
  rename_i hfits
  simp only at h
  split at h
  · cases h
  rename_i hrepeated
  rcases bind_eq_ok.mp h with ⟨_, hfollowed, h⟩
  cases h
  have hstrict := strictlySorted_of_repeatedKey sortByKey_pairwise hrepeated
  have hmem : forall m, m ∈ sortByKey Market.key markets <-> m ∈ markets :=
    fun _ => mem_sortByKey
  exact
    { mem_iff := hmem
      strictly := hstrict
      fits := by
        rw [length_sortByKey]
        exact Nat.lt_of_not_le hfits
      resolves := by
        intro m hm
        rcases exists_mapM_iff.mp ⟨_, hfollowed⟩ m hm with ⟨_, hfollow⟩
        exact followOperating_resolves hstrict hm hfollow }

/-!
## The table
-/

structure MicEntry where
  code : Bytes 4
  operating : UInt16
  country : Bytes 2
  active : Bool
deriving DecidableEq

def micEntry (markets : List Market) (m : Market) : Except SeedError MicEntry :=
  match binarySearchByKey Market.key markets (micKey m.operating) with
  | none => .error .uncheckedReference
  | some operating =>
      .ok
        { code := m.mic
          operating := UInt16.ofNat operating
          country := m.country
          active := m.active }

def generateMicTable (raw : String) : Except SeedError (List MicEntry) := do
  let markets ← parseMicSeed raw
  markets.mapM (micEntry markets)

/-!
## The table of an accepted seed
-/

def MicEntry.key (entry : MicEntry) : List Nat := micKey entry.code

structure MicEntry.ReadFrom (table : List MicEntry) (entry : MicEntry)
    (row : List String) : Prop where
  mic : published row 0 = some (asciiText entry.code.toList)
  operating :
    exists operator, table[entry.operating.toNat]? = some operator ∧
      published row 1 = some (asciiText operator.code.toList) ∧
      published row 2 =
        some (if entry.code = operator.code then "OPRT" else "SGMT")
  country : published row 3 = some (asciiText entry.country.toList)
  status : published row 4 = some (if entry.active then "ACTIVE" else "EXPIRED")

/-- A table whose entries are the rows of a seed, in the order of their codes. -/
structure TableOf (rows : List (List String)) (table : List MicEntry) :
    Prop where
  strictly : StrictlySorted MicEntry.key table
  isCode :
    forall entry, entry ∈ table ->
      forall b, b ∈ entry.code.toList -> isCodeByte b = true
  rowOf :
    forall entry, entry ∈ table ->
      exists row, row ∈ rows ∧ entry.ReadFrom table row
  entryOf :
    forall row, row ∈ rows ->
      exists entry, entry ∈ table ∧ entry.ReadFrom table row

structure EntryOf (markets : List Market) (m : Market) (entry : MicEntry) :
    Prop where
  code : entry.code = m.mic
  country : entry.country = m.country
  active : entry.active = m.active
  operating :
    exists m', markets[entry.operating.toNat]? = some m' ∧ m'.mic = m.operating

theorem micEntry_ok {read markets : List Market}
    (hfinal : Finalized read markets) {m : Market} {entry : MicEntry}
    (h : micEntry markets m = .ok entry) : EntryOf markets m entry := by
  unfold micEntry at h
  split at h
  · cases h
  · rename_i index hindex
    cases h
    rcases (binarySearchByKey_eq_some_iff hfinal.strictly).mp hindex with
      ⟨m', hm', hkey⟩
    have hlt : index < markets.length := (List.getElem?_eq_some_iff.mp hm').choose
    -- The reference fits, so that the cast keeps it.
    have hcast : (UInt16.ofNat index).toNat = index :=
      UInt16.toNat_ofNat_of_lt' (Nat.lt_trans hlt hfinal.fits)
    refine ⟨rfl, rfl, rfl, m', ?_, micKey_injective hkey⟩
    rw [hcast]
    exact hm'

theorem generateMicTable_ok {raw : String} {table : List MicEntry}
    (h : generateMicTable raw = .ok table) :
    exists rows read markets,
      parseCsv raw = .ok (micColumns.toList :: rows) ∧
      List.Forall₂ (fun row market => Market.ReadFrom market row) rows read ∧
      finalizeMic read = .ok markets ∧
      List.Forall₂ (EntryOf markets) markets table := by
  unfold generateMicTable at h
  rcases bind_eq_ok.mp h with ⟨markets, hmarkets, h⟩
  unfold parseMicSeed at hmarkets
  rcases bind_eq_ok.mp hmarkets with ⟨records, hrecords, hmarkets⟩
  cases records with
  | nil => cases hmarkets
  | cons header rows =>
      simp only at hmarkets
      split at hmarkets
      · rename_i hheader
        rcases bind_eq_ok.mp hmarkets with ⟨read, hread, hmarkets⟩
        subst hheader
        exact ⟨rows, read, markets, hrecords, parseMicRows_ok hread, hmarkets,
          (mapM_eq_ok_iff.mp h).imp
            (fun _ _ => micEntry_ok (finalizeMic_ok hmarkets))⟩
      · cases hmarkets

section

variable {rows : List (List String)} {read markets : List Market}
variable {table : List MicEntry}

theorem EntryOf.readFrom {m : Market} {entry : MicEntry} {row : List String}
    (htable : List.Forall₂ (EntryOf markets) markets table)
    (hentry : EntryOf markets m entry) (hrow : m.ReadFrom row) :
    entry.ReadFrom table row := by
  rcases hentry.operating with ⟨m', hm', hmic⟩
  rcases getElem?_of_forall₂ htable hm' with ⟨operator, hoperator, hof⟩
  have hcode : operator.code = m.operating := hof.code.trans hmic
  refine
    { mic := ?_
      operating := ⟨operator, hoperator, ?_, ?_⟩
      country := ?_
      status := ?_ }
  · rw [hentry.code]
    exact hrow.mic
  · rw [hcode]
    exact hrow.operating
  · rw [hentry.code, hcode]
    exact hrow.kind
  · rw [hentry.country]
    exact hrow.country
  · rw [hentry.active]
    exact hrow.status

theorem strictlySorted_of_entries
    (hstrict : StrictlySorted Market.key markets)
    (htable : List.Forall₂ (EntryOf markets) markets table) :
    StrictlySorted MicEntry.key table := by
  have hsame : List.Forall₂ Eq (markets.map Market.key)
      (table.map MicEntry.key) := by
    rw [List.forall₂_map_left_iff, List.forall₂_map_right_iff]
    apply htable.imp
    intro m e hentry
    unfold Market.key MicEntry.key
    rw [hentry.code]
  have hkeys : markets.map Market.key = table.map MicEntry.key := by
    rw [List.forall₂_eq_eq_eq] at hsame
    exact hsame
  unfold StrictlySorted at hstrict ⊢
  rw [← List.pairwise_map (f := MicEntry.key) (R := (· < ·)), ← hkeys,
    List.pairwise_map]
  exact hstrict

theorem tableOf
    (hread : List.Forall₂ (fun row m => Market.ReadFrom m row) rows read)
    (hfinal : Finalized read markets)
    (htable : List.Forall₂ (EntryOf markets) markets table) :
    TableOf rows table := by
  refine
    { strictly := strictlySorted_of_entries hfinal.strictly htable
      isCode := ?_
      rowOf := ?_
      entryOf := ?_ }
  · intro entry hmem
    rcases exists_left_of_mem htable hmem with ⟨m, hm, hentry⟩
    rcases exists_left_of_mem hread ((hfinal.mem_iff m).mp hm) with
      ⟨row, _, hrow⟩
    rw [hentry.code]
    exact hrow.isCode
  · intro entry hmem
    rcases exists_left_of_mem htable hmem with ⟨m, hm, hentry⟩
    rcases exists_left_of_mem hread ((hfinal.mem_iff m).mp hm) with
      ⟨row, hmemRow, hrow⟩
    exact ⟨row, hmemRow, hentry.readFrom htable hrow⟩
  · intro row hmem
    rcases exists_right_of_mem hread hmem with ⟨m, hm, hrow⟩
    rcases exists_right_of_mem htable ((hfinal.mem_iff m).mpr hm) with
      ⟨entry, hmemEntry, hentry⟩
    exact ⟨entry, hmemEntry, hentry.readFrom htable hrow⟩

end

/-- The table of an accepted seed is that of its rows. -/
theorem generateMicTable_tableOf {raw : String} {table : List MicEntry}
    (h : generateMicTable raw = .ok table) :
    exists rows, parseCsv raw = .ok (micColumns.toList :: rows) ∧
      TableOf rows table := by
  rcases generateMicTable_ok h with
    ⟨rows, read, markets, hrecords, hread, hfinalized, hentries⟩
  exact ⟨rows, hrecords, tableOf hread (finalizeMic_ok hfinalized) hentries⟩

end MicSeed

end Identifiers
end Valqeron
