import Valqeron.Identifiers.CountryBitmap
import Valqeron.Identifiers.Mic

/-!
# The country of a market

The generator takes any two letters for a country, and the accessor reads them
as a country code, which knows the assigned ones only.
-/

namespace Valqeron
namespace Identifiers

open Foundation
open MicSeed

namespace Mic

def placeholder : String := "ZZ"

/-- A market has the country of its row, and none only where the row has none. -/
structure Located (table : List MicEntry) (mic : Mic) (row : List String) :
    Prop where
  onlyPlaceholder :
    mic.countryCode table = some none -> published row 3 = some placeholder
  country :
    published row 3 ≠ some placeholder ->
      exists country, mic.countryCode table = some (some country) ∧
        published row 3 = some country.asStr

/-- The column of countries has the placeholder or an assigned code. -/
def CountryKnown (row : List String) : Prop :=
  published row 3 = some placeholder ∨
    exists code, code ∈ CountryCode.assignedCodes ∧ published row 3 = some code

variable {table : List MicEntry} {mic : Mic} {entry : MicEntry}
variable {row : List String}

theorem countryCode_of_listed (hentry : mic.entry table = some entry)
    (hlisted : asciiText entry.country.toList ∈ CountryCode.assignedCodes) :
    exists country, mic.countryCode table = some (some country) ∧
      country.bytes = entry.country := by
  have hvalid := CountryCode.validate_eq_ok_iff_listed.mpr hlisted
  refine ⟨{ bytes := entry.country, valid := hvalid }, ?_, rfl⟩
  have hread := CountryCode.fromBytes_bytes { bytes := entry.country, valid := hvalid }
  unfold countryCode
  rw [hentry, Option.map_some, hread]
  rfl

theorem countryCode_of_unlisted (hentry : mic.entry table = some entry)
    (hunlisted : asciiText entry.country.toList ∉ CountryCode.assignedCodes) :
    mic.countryCode table = some none := by
  unfold countryCode
  rw [hentry, Option.map_some]
  cases hread : CountryCode.fromBytes entry.country with
  | error _ => rfl
  | ok country =>
      exact absurd (CountryCode.fromBytes_eq_ok_iff_listed.mp hread).right hunlisted

theorem located_iff_countryKnown (hentry : mic.entry table = some entry)
    (hread : entry.ReadFrom table row) :
    Located table mic row <-> CountryKnown row := by
  unfold CountryKnown
  rw [hread.country]
  constructor
  · intro hlocated
    by_cases hlisted :
        asciiText entry.country.toList ∈ CountryCode.assignedCodes
    · exact Or.inr ⟨_, hlisted, rfl⟩
    · have hnone := countryCode_of_unlisted hentry hlisted
      rw [← hread.country]
      exact Or.inl (hlocated.onlyPlaceholder hnone)
  · intro hknown
    refine { onlyPlaceholder := ?_, country := ?_ }
    · intro hnone
      rw [hread.country]
      rcases hknown with hplaceholder | ⟨code, hcode, hcolumn⟩
      · exact hplaceholder
      · cases hcolumn
        rcases countryCode_of_listed hentry hcode with ⟨country, hsome, _⟩
        rw [hsome] at hnone
        cases hnone
    · intro hnot
      rw [hread.country] at hnot ⊢
      rcases hknown with hplaceholder | ⟨code, hcode, hcolumn⟩
      · exact absurd hplaceholder hnot
      · cases hcolumn
        rcases countryCode_of_listed hentry hcode with ⟨country, hsome, hbytes⟩
        refine ⟨country, hsome, ?_⟩
        unfold CountryCode.asStr
        rw [hbytes]

/--
For every seed that the generator accepts, a market is located by its row
exactly when the row's country is the placeholder or an assigned code.
-/
theorem countryCode_locates {raw : String} {table : List MicEntry}
    (h : generateMicTable raw = .ok table) :
    exists rows, parseCsv raw = .ok (micColumns.toList :: rows) ∧
      forall mic, Accepted table mic ->
        (exists row, row ∈ rows ∧ published row 0 = some mic.asStr) ∧
        forall row, row ∈ rows -> published row 0 = some mic.asStr ->
          (Located table mic row <-> CountryKnown row) := by
  rcases generateMicTable_tableOf h with ⟨rows, hrecords, htable⟩
  refine ⟨rows, hrecords, ?_⟩
  intro mic hmic
  rcases hmic.exists_entry htable with ⟨entry, hentry⟩
  constructor
  · have hfound := (find_eq_some_iff htable).mp hentry
    exact (exists_entry_iff_published htable).mp ⟨entry, hfound⟩
  · intro row hrow hpublished
    exact located_iff_countryKnown hentry
      (readFrom_of_published htable hentry hrow hpublished)

/-- A market off exchange beside one that has a country. -/
def offExchangeSeed : String :=
  headerText ++ "\nXOFF,XOFF,OPRT,ZZ,ACTIVE\nXETR,XETR,OPRT,DE,ACTIVE\n"

def offExchangeTable : List MicEntry :=
  [
    { code := ⟨[88, 69, 84, 82], rfl⟩
      operating := 0
      country := ⟨[68, 69], rfl⟩
      active := true },
    { code := ⟨[88, 79, 70, 70], rfl⟩
      operating := 1
      country := ⟨[90, 90], rfl⟩
      active := true }
  ]

theorem generateMicTable_offExchangeSeed :
    generateMicTable offExchangeSeed = .ok offExchangeTable := by
  decide +kernel

theorem offExchangeTable_locates :
    (exists off, fromBytes offExchangeTable ⟨[88, 79, 70, 70], rfl⟩ = .ok off ∧
      off.countryCode offExchangeTable = some none) ∧
    (exists xetra country,
      fromBytes offExchangeTable ⟨[88, 69, 84, 82], rfl⟩ = .ok xetra ∧
        xetra.countryCode offExchangeTable = some (some country) ∧
          country.asStr = "DE") ∧
    exists rows, parseCsv offExchangeSeed = .ok (micColumns.toList :: rows) ∧
      forall mic, Accepted offExchangeTable mic ->
        (exists row, row ∈ rows ∧ published row 0 = some mic.asStr) ∧
        forall row, row ∈ rows -> published row 0 = some mic.asStr ->
          (Located offExchangeTable mic row <-> CountryKnown row) := by
  refine ⟨⟨{ bytes := ⟨[88, 79, 70, 70], rfl⟩ }, by decide +kernel,
    by decide +kernel⟩, ?_, countryCode_locates generateMicTable_offExchangeSeed⟩
  exact ⟨{ bytes := ⟨[88, 69, 84, 82], rfl⟩ },
    { bytes := ⟨[68, 69], rfl⟩, valid := by decide +kernel }, by decide +kernel,
    by decide +kernel, by decide +kernel⟩

/-- A market of Kosovo, whose code is in use but not assigned. -/
def unassignedRow : List String := ["XPRI", "XPRI", "OPRT", "XK", "ACTIVE"]

def unassignedSeed : String :=
  headerText ++ "\n" ++ String.intercalate "," unassignedRow ++ "\n"

def unassignedTable : List MicEntry :=
  [
    { code := ⟨[88, 80, 82, 73], rfl⟩
      operating := 0
      country := ⟨[88, 75], rfl⟩
      active := true }
  ]

theorem unassignedSeed_notLocated :
    generateMicTable unassignedSeed = .ok unassignedTable ∧
      parseCsv unassignedSeed = .ok [micColumns.toList, unassignedRow] ∧
      exists mic, Accepted unassignedTable mic ∧
        published unassignedRow 0 = some mic.asStr ∧
        published unassignedRow 3 ≠ some placeholder ∧
        mic.countryCode unassignedTable = some none ∧
        ¬Located unassignedTable mic unassignedRow := by
  have hbytes :
      fromBytes unassignedTable ⟨[88, 80, 82, 73], rfl⟩ =
        .ok { bytes := ⟨[88, 80, 82, 73], rfl⟩ } := by
    decide +kernel
  have hother : published unassignedRow 3 ≠ some placeholder := by
    decide +kernel
  have hnone :
      countryCode unassignedTable { bytes := ⟨[88, 80, 82, 73], rfl⟩ } =
        some none := by
    decide +kernel
  refine ⟨by decide +kernel, by decide +kernel, _, Accepted.fromBytes hbytes,
    by decide +kernel, hother, hnone, ?_⟩
  intro hlocated
  exact hother (hlocated.onlyPlaceholder hnone)

end Mic

end Identifiers
end Valqeron
