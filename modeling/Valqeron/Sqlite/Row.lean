import Mathlib.Algebra.Order.Ring.Int
import Mathlib.Data.Int.Basic
import Valqeron.Domain.Common

/-!
# Column formats

Timestamps are stored as RFC 3339 text in UTC with millisecond precision.
-/

namespace Valqeron
namespace Sqlite

open Domain

/-- Year, month and day of a day number counted from 1970-01-01. -/
def civilFromDays (day : Int) : Int × Nat × Nat :=
  let z := day + 719468
  let era := z.fdiv 146097
  let doe := (z - era * 146097).toNat
  let yoe := (doe - doe / 1460 + doe / 36524 - doe / 146096) / 365
  let doy := doe - (365 * yoe + yoe / 4 - yoe / 100)
  let mp := (5 * doy + 2) / 153
  let d := doy - (153 * mp + 2) / 5 + 1
  let m := if mp < 10 then mp + 3 else mp - 9
  let y := (yoe : Int) + era * 400 + (if m <= 2 then 1 else 0)
  (y, m, d)

def padded (width n : Nat) : String :=
  let digits := (Nat.toDigits 10 n)
  String.ofList (List.replicate (width - digits.length) '0' ++ digits)

/-- Years outside 0 to 9999 carry an explicit sign. -/
def rfc3339Year (y : Int) : String :=
  if 0 <= y ∧ y <= 9999 then
    padded 4 y.toNat
  else if 0 <= y then
    "+" ++ padded 4 y.toNat
  else
    "-" ++ padded 4 y.natAbs

/-- `to_rfc3339_opts(SecondsFormat::Millis, true)`. -/
def canonicalTimestamp (dt : DateTime) : String :=
  let (y, m, d) := civilFromDays (dt.seconds.fdiv 86400)
  let second := (dt.seconds.fmod 86400).toNat
  let leap := if dt.nanos.val < 1000000000 then 0 else 1
  let millis := dt.nanos.val % 1000000000 / 1000000
  rfc3339Year y ++ "-" ++ padded 2 m ++ "-" ++ padded 2 d ++ "T" ++
    padded 2 (second / 3600) ++ ":" ++ padded 2 (second / 60 % 60) ++ ":" ++
    padded 2 (second % 60 + leap) ++ "." ++ padded 3 millis ++ "Z"

end Sqlite
end Valqeron
