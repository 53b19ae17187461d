import Valqeron.Identifiers.Checked.Cfi
import Valqeron.Identifiers.Checked.Cnpj
import Valqeron.Identifiers.Checked.Isin
import Valqeron.Identifiers.Checked.Lei
import Valqeron.Identifiers.Checked.Mic

/-!
# Identifiers never panic

Every text and every array of bytes gets an answer from the constructors of the
six identifiers, and every value they give has all of its accessors.
-/

namespace Valqeron
namespace Identifiers

open Foundation
open MicSeed

/--
No input makes a constructor of an identifier panic and no value makes an
accessor panic, and what is stored is ASCII.  The table of the MICs is that of
any seed that the generator accepts.
-/
theorem identifiers_neverPanic {raw : String} {table : List MicEntry}
    (h : generateMicTable raw = .ok table) :
    Isin.Checked.NeverPanics ∧ Lei.Checked.NeverPanics ∧
      Cfi.Checked.NeverPanics ∧ Mic.Checked.NeverPanics table ∧
      CountryCode.Checked.NeverPanics ∧ Cnpj.Checked.NeverPanics := by
  rcases generateMicTable_tableOf h with ⟨rows, _, htable⟩
  exact ⟨Isin.Checked.neverPanics, Lei.Checked.neverPanics,
    Cfi.Checked.neverPanics, Mic.Checked.neverPanics htable,
    CountryCode.Checked.neverPanics, Cnpj.Checked.neverPanics⟩

theorem identifiers_neverPanic_smallSeed :
    Isin.Checked.NeverPanics ∧ Lei.Checked.NeverPanics ∧
      Cfi.Checked.NeverPanics ∧ Mic.Checked.NeverPanics Mic.smallTable ∧
      CountryCode.Checked.NeverPanics ∧ Cnpj.Checked.NeverPanics :=
  identifiers_neverPanic Mic.generateMicTable_smallSeed

end Identifiers
end Valqeron
