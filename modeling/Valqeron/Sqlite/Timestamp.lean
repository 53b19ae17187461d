import Valqeron.Sqlite.Row

/-!
# Timestamps read back

`parse_from_rfc3339` on the texts that `to_rfc3339` and `to_rfc3339_opts` write.
A text is read back exactly when its year has four digits, which RFC 3339 asks
for.
-/

namespace Valqeron
namespace Sqlite

open Domain

/-!
## Dates
-/

/-- The day number of a date; the inverse of `civilFromDays`. -/
def daysFromCivil (year : Int) (month day : Nat) : Int :=
  let y := if month <= 2 then year - 1 else year
  let era := y.fdiv 400
  let yoe := (y - era * 400).toNat
  let mp := if 2 < month then month - 3 else month + 9
  let doy := (153 * mp + 2) / 5 + (day - 1)
  let doe := yoe * 365 + yoe / 4 - yoe / 100 + doy
  era * 146097 + doe - 719468

theorem fdiv_era (a : Int) : a.fdiv 146097 = a / 146097 :=
  Int.fdiv_eq_ediv_of_nonneg a (by decide)

theorem fdiv_years (a : Int) : a.fdiv 400 = a / 400 :=
  Int.fdiv_eq_ediv_of_nonneg a (by decide)

theorem yearOfEra_bounds {doe x : Nat} (h : doe < 146097)
    (hx : x = doe - doe / 1460 + doe / 36524 - doe / 146096) :
    x / 365 < 400 ∧
      365 * (x / 365) + x / 365 / 4 - x / 365 / 100 <= doe ∧
      doe - (365 * (x / 365) + x / 365 / 4 - x / 365 / 100) <= 365 := by
  have hquarter : x / 365 / 4 = x / 1460 := Nat.div_div_eq_div_mul x 365 4
  have hcentury : x / 365 / 100 = x / 36500 :=
    Nat.div_div_eq_div_mul x 365 100
  have hfewer : doe / 36524 <= doe / 1460 :=
    Nat.div_le_div_left (by decide) (by decide)
  have hle : x <= doe := by omega
  have hmono : x / 1460 <= doe / 1460 := Nat.div_le_div_right hle
  have hcenturies : x / 36500 = doe / 36524 - doe / 146096 := by
    have hcases : doe / 36524 = 0 ∨ doe / 36524 = 1 ∨ doe / 36524 = 2 ∨
        doe / 36524 = 3 ∨ doe / 36524 = 4 := by omega
    rcases hcases with h | h | h | h | h <;> rw [h] at hx ⊢ <;> omega
  have hlt : x < 146000 := by omega
  refine ⟨?_, ?_, ?_⟩ <;> omega

theorem civilFromDays_parts (day : Int) :
    exists (era : Int) (yoe doy mp : Nat),
      yoe < 400 ∧ mp = (5 * doy + 2) / 153 ∧ mp < 12 ∧
        era * 146097 + (365 * yoe + yoe / 4 - yoe / 100 + doy : Nat) =
          day + 719468 ∧
        civilFromDays day =
          ((yoe : Int) + era * 400 +
              (if (if mp < 10 then mp + 3 else mp - 9) <= 2 then 1 else 0),
            if mp < 10 then mp + 3 else mp - 9,
            doy - (153 * mp + 2) / 5 + 1) := by
  generalize hz : day + 719468 = z
  generalize hera : z / 146097 = era
  generalize hdoe : (z - era * 146097).toNat = doe
  generalize hx : doe - doe / 1460 + doe / 36524 - doe / 146096 = x
  have hrange : doe < 146097 := by omega
  rcases yearOfEra_bounds hrange hx.symm with ⟨hyoe, hstart, hlength⟩
  refine ⟨era, x / 365,
    doe - (365 * (x / 365) + x / 365 / 4 - x / 365 / 100), _, hyoe, rfl,
    ?_, ?_, ?_⟩
  · omega
  · omega
  · unfold civilFromDays
    simp only [fdiv_era, hz, hera, hdoe, hx]

/-- Every day has a date, and the date determines the day. -/
theorem daysFromCivil_civilFromDays (day : Int) :
    daysFromCivil (civilFromDays day).1 (civilFromDays day).2.1
      (civilFromDays day).2.2 = day := by
  rcases civilFromDays_parts day with
    ⟨era, yoe, doy, mp, hyoe, hmp, hlt, hday, hcivil⟩
  rw [hcivil]
  unfold daysFromCivil
  simp only [fdiv_years]
  by_cases hm : mp < 10
  · simp only [if_pos hm]
    rw [if_neg (by omega), if_neg (by omega), if_pos (by omega)]
    have hera : ((yoe : Int) + era * 400 + 0) / 400 = era := by omega
    rw [hera]
    have hyear : ((yoe : Int) + era * 400 + 0 - era * 400).toNat = yoe := by
      omega
    rw [hyear]
    omega
  · simp only [if_neg hm]
    rw [if_pos (by omega), if_pos (by omega), if_neg (by omega)]
    have hera : ((yoe : Int) + era * 400 + 1 - 1) / 400 = era := by omega
    rw [hera]
    have hyear : ((yoe : Int) + era * 400 + 1 - 1 - era * 400).toNat = yoe := by
      omega
    rw [hyear]
    omega

theorem civilFromDays_bounds (day : Int) :
    1 <= (civilFromDays day).2.1 ∧ (civilFromDays day).2.1 <= 12 ∧
      (civilFromDays day).2.2 <= 31 := by
  rcases civilFromDays_parts day with
    ⟨era, yoe, doy, mp, hyoe, hmp, hlt, hday, hcivil⟩
  rw [hcivil]
  simp only
  refine ⟨?_, ?_, ?_⟩
  · split <;> omega
  · split <;> omega
  · omega

/-!
## Texts
-/

def yearOf (dt : DateTime) : Int :=
  (civilFromDays (dt.seconds.fdiv 86400)).1

/-- The years that the texts of RFC 3339 can name. -/
def FourDigitYear (dt : DateTime) : Prop := 0 <= yearOf dt ∧ yearOf dt <= 9999

instance (dt : DateTime) : Decidable (FourDigitYear dt) :=
  inferInstanceAs (Decidable (_ ∧ _))

/-- Only the last second of a minute can be a leap second. -/
def WellPlaced (dt : DateTime) : Prop :=
  dt.nanos.val < 1000000000 ∨ dt.seconds.fmod 60 = 59

instance (dt : DateTime) : Decidable (WellPlaced dt) :=
  inferInstanceAs (Decidable (_ ∨ _))

def dateTimeText (dt : DateTime) : String :=
  let (y, m, d) := civilFromDays (dt.seconds.fdiv 86400)
  let second := (dt.seconds.fmod 86400).toNat
  let leap := if dt.nanos.val < 1000000000 then 0 else 1
  rfc3339Year y ++ "-" ++ padded 2 m ++ "-" ++ padded 2 d ++ "T" ++
    padded 2 (second / 3600) ++ ":" ++ padded 2 (second / 60 % 60) ++ ":" ++
    padded 2 (second % 60 + leap)

/-- As many digits as are needed, in steps of three. -/
def fractionText (nanos : Nat) : String :=
  if nanos = 0 then
    ""
  else if nanos % 1000000 = 0 then
    "." ++ padded 3 (nanos / 1000000)
  else if nanos % 1000 = 0 then
    "." ++ padded 6 (nanos / 1000)
  else
    "." ++ padded 9 nanos

def toRfc3339 (dt : DateTime) : String :=
  dateTimeText dt ++ fractionText (dt.nanos.val % 1000000000) ++ "+00:00"

theorem canonicalTimestamp_eq (dt : DateTime) :
    canonicalTimestamp dt =
      dateTimeText dt ++
        ("." ++ padded 3 (dt.nanos.val % 1000000000 / 1000000) ++ "Z") := by
  unfold canonicalTimestamp dateTimeText
  simp only [String.append_assoc]

/-!
## The parser
-/

def scanNumber (width : Nat) (s : List Char) : Option (Nat × List Char) :=
  let digits := s.take width
  if digits.length = width ∧ digits.all Char.isDigit then
    some (Nat.ofDigitChars 10 digits 0, s.drop width)
  else
    none

def scanChar (accepted : List Char) : List Char -> Option (List Char)
  | [] => none
  | c :: rest => if accepted.contains c then some rest else none

/-- The digits of a fraction of a second; those behind the ninth are skipped. -/
def scanNanosecond (s : List Char) : Option (Nat × List Char) :=
  let digits := s.takeWhile Char.isDigit
  if digits = [] then
    none
  else
    let kept := digits.take 9
    some (Nat.ofDigitChars 10 kept 0 * 10 ^ (9 - kept.length),
      s.dropWhile Char.isDigit)

def scanFraction : List Char -> Option (Nat × List Char)
  | '.' :: rest => scanNanosecond rest
  | s => some (0, s)

/-- `Z`, or hours and minutes with a sign. -/
def scanOffset : List Char -> Option (Int × List Char)
  | [] => none
  | c :: rest =>
      if ['Z', 'z'].contains c then
        some (0, rest)
      else if ['+', '-', '−'].contains c then do
        let (hours, s) ← scanNumber 2 rest
        let s ← scanChar [':'] s
        let (minutes, s) ← scanNumber 2 s
        let offset : Int := hours * 3600 + minutes * 60
        if minutes < 60 then
          some (if c = '+' then offset else -offset, s)
        else
          none
      else
        none

/-- What a text says about date and time of day. -/
structure DateTimeFields where
  year : Nat
  month : Nat
  day : Nat
  hour : Nat
  minute : Nat
  second : Nat
deriving DecidableEq, Repr

def scanDateTime (s : List Char) : Option (DateTimeFields × List Char) := do
  let (year, s) ← scanNumber 4 s
  let s ← scanChar ['-'] s
  let (month, s) ← scanNumber 2 s
  let s ← scanChar ['-'] s
  let (day, s) ← scanNumber 2 s
  let s ← scanChar ['T', 't', ' '] s
  let (hour, s) ← scanNumber 2 s
  let s ← scanChar [':'] s
  let (minute, s) ← scanNumber 2 s
  let s ← scanChar [':'] s
  let (second, s) ← scanNumber 2 s
  some (⟨year, month, day, hour, minute, second⟩, s)

/-- The fields name a date of the calendar and a time of day. -/
def DateTimeFields.InRange (f : DateTimeFields) : Prop :=
  1 <= f.month ∧ f.month <= 12 ∧ f.hour < 24 ∧ f.minute < 60 ∧
    f.second <= 60 ∧
    civilFromDays (daysFromCivil f.year f.month f.day) =
      ((f.year : Int), f.month, f.day)

instance (f : DateTimeFields) : Decidable f.InRange :=
  inferInstanceAs (Decidable (_ ∧ _ ∧ _ ∧ _ ∧ _ ∧ _))

/-- The point in time in UTC; the second 60 is the leap second behind 59. -/
def DateTimeFields.toDateTime (f : DateTimeFields) (nanos : Nat)
    (offset : Int) : Option DateTime :=
  if f.InRange ∧ offset.natAbs < 86400 then
    some
      { seconds :=
          daysFromCivil f.year f.month f.day * 86400 + f.hour * 3600 +
            f.minute * 60 + min f.second 59 - offset
        nanos :=
          Fin.ofNat 2000000000
            (nanos + if f.second = 60 then 1000000000 else 0) }
  else
    none

/-- `DateTime::parse_from_rfc3339`, in UTC. -/
def parseFromRfc3339 (text : String) : Option DateTime := do
  let (fields, s) ← scanDateTime text.toList
  let (nanos, s) ← scanFraction s
  let (offset, s) ← scanOffset s
  if s = [] then fields.toDateTime nanos offset else none

/-!
## Numbers read back
-/

theorem toList_padded (width n : Nat) :
    (padded width n).toList =
      List.replicate (width - (Nat.toDigits 10 n).length) '0' ++
        Nat.toDigits 10 n :=
  String.toList_ofList

theorem length_padded {width n : Nat} (hwidth : 0 < width)
    (hn : n < 10 ^ width) : (padded width n).toList.length = width := by
  have hlength := (Nat.length_toDigits_le_iff (by decide) hwidth).mpr hn
  rw [toList_padded, List.length_append, List.length_replicate]
  omega

theorem ofDigitChars_padded (width n : Nat) :
    Nat.ofDigitChars 10 (padded width n).toList 0 = n := by
  rw [toList_padded, Nat.ofDigitChars_append,
    Nat.ofDigitChars_replicate_zero, Nat.mul_zero,
    Nat.ofDigitChars_ten_toDigits]

theorem isDigit_of_mem_padded {width n : Nat} {c : Char}
    (h : c ∈ (padded width n).toList) : c.isDigit = true := by
  rw [toList_padded] at h
  rcases List.mem_append.mp h with hzero | hdigit
  · rw [List.eq_of_mem_replicate hzero]
    decide
  · exact Nat.isDigit_of_mem_toDigits (by decide) (by decide) hdigit

theorem scanNumber_padded {width n : Nat} (hwidth : 0 < width)
    (hn : n < 10 ^ width) (rest : List Char) :
    scanNumber width ((padded width n).toList ++ rest) = some (n, rest) := by
  have hlength := length_padded hwidth hn
  have htake : ((padded width n).toList ++ rest).take width =
      (padded width n).toList := List.take_left' hlength
  have hdrop : ((padded width n).toList ++ rest).drop width = rest :=
    List.drop_left' hlength
  have hall : (padded width n).toList.all Char.isDigit = true := by
    rw [List.all_eq_true]
    intro c hc
    exact isDigit_of_mem_padded hc
  unfold scanNumber
  simp only [htake, hdrop]
  rw [if_pos ⟨hlength, hall⟩, ofDigitChars_padded]

theorem scanNanosecond_padded {width n : Nat} (hwidth : 0 < width)
    (hnine : width <= 9) (hn : n < 10 ^ width) {c : Char}
    (hc : c.isDigit = false) (rest : List Char) :
    scanNanosecond ((padded width n).toList ++ c :: rest) =
      some (n * 10 ^ (9 - width), c :: rest) := by
  have hlength := length_padded hwidth hn
  have hdigits : forall x, x ∈ (padded width n).toList ->
      x.isDigit = true := fun x hx => isDigit_of_mem_padded hx
  have htake : ((padded width n).toList ++ c :: rest).takeWhile
      Char.isDigit = (padded width n).toList := by
    rw [List.takeWhile_append_of_pos hdigits, List.takeWhile_cons, hc]
    simp
  have hdrop : ((padded width n).toList ++ c :: rest).dropWhile
      Char.isDigit = c :: rest := by
    rw [List.dropWhile_append_of_pos hdigits, List.dropWhile_cons, hc]
    simp
  have hkept : (padded width n).toList.take 9 = (padded width n).toList :=
    List.take_of_length_le (by rw [hlength]; exact hnine)
  have hne : (padded width n).toList ≠ [] := by
    intro hempty
    rw [hempty] at hlength
    simp at hlength
    omega
  unfold scanNanosecond
  simp only [htake, hdrop, hkept]
  rw [if_neg hne, ofDigitChars_padded, hlength]

/-!
## Timestamps read back
-/

def leapOf (dt : DateTime) : Nat := if dt.nanos.val < 1000000000 then 0 else 1

def fieldsOf (dt : DateTime) : DateTimeFields :=
  let date := civilFromDays (dt.seconds.fdiv 86400)
  let second := (dt.seconds.fmod 86400).toNat
  { year := date.1.toNat
    month := date.2.1
    day := date.2.2
    hour := second / 3600
    minute := second / 60 % 60
    second := second % 60 + leapOf dt }

theorem scanChar_cons {accepted : List Char} {c : Char} {rest : List Char}
    (h : accepted.contains c = true) :
    scanChar accepted (c :: rest) = some rest := if_pos h

theorem scanDateTime_dateTimeText {dt : DateTime} (hyear : FourDigitYear dt)
    (rest : List Char) :
    scanDateTime ((dateTimeText dt).toList ++ rest) =
      some (fieldsOf dt, rest) := by
  have hbounds := civilFromDays_bounds (dt.seconds.fdiv 86400)
  have hmonth : (civilFromDays (dt.seconds.fdiv 86400)).2.1 < 10 ^ 2 := by
    omega
  have hday : (civilFromDays (dt.seconds.fdiv 86400)).2.2 < 10 ^ 2 := by
    omega
  have hsecond : (dt.seconds.fmod 86400).toNat < 86400 := by
    rw [Int.fmod_eq_emod_of_nonneg _ (by decide)]
    omega
  have hleap : leapOf dt <= 1 := by
    unfold leapOf
    split <;> omega
  have hfour : rfc3339Year (civilFromDays (dt.seconds.fdiv 86400)).1 =
      padded 4 (civilFromDays (dt.seconds.fdiv 86400)).1.toNat := if_pos hyear
  have hy : (civilFromDays (dt.seconds.fdiv 86400)).1.toNat < 10 ^ 4 := by
    have := hyear.right
    unfold yearOf at this
    omega
  have hleapText : (if dt.nanos.val < 1000000000 then 0 else 1) =
      leapOf dt := rfl
  have hdash : "-".toList = ['-'] := rfl
  have ht : "T".toList = ['T'] := rfl
  have hcolon : ":".toList = [':'] := rfl
  unfold dateTimeText scanDateTime
  simp only [hfour, hleapText, String.toList_append, List.append_assoc,
    hdash, ht, hcolon, List.cons_append, List.nil_append]
  rw [scanNumber_padded (by decide) hy]
  simp only [Option.bind_eq_bind, Option.bind_some]
  rw [scanChar_cons (by decide)]
  simp only [Option.bind_some]
  rw [scanNumber_padded (by decide) hmonth]
  simp only [Option.bind_some]
  rw [scanChar_cons (by decide)]
  simp only [Option.bind_some]
  rw [scanNumber_padded (by decide) hday]
  simp only [Option.bind_some]
  rw [scanChar_cons (by decide)]
  simp only [Option.bind_some]
  rw [scanNumber_padded (by decide) (by omega)]
  simp only [Option.bind_some]
  rw [scanChar_cons (by decide)]
  simp only [Option.bind_some]
  rw [scanNumber_padded (by decide) (by omega)]
  simp only [Option.bind_some]
  rw [scanChar_cons (by decide)]
  simp only [Option.bind_some]
  rw [scanNumber_padded (by decide) (by omega)]
  rfl

theorem fieldsOf_inRange {dt : DateTime} (hyear : FourDigitYear dt) :
    (fieldsOf dt).InRange := by
  have hbounds := civilFromDays_bounds (dt.seconds.fdiv 86400)
  have hcivil := daysFromCivil_civilFromDays (dt.seconds.fdiv 86400)
  have hsecond : (dt.seconds.fmod 86400).toNat < 86400 := by
    rw [Int.fmod_eq_emod_of_nonneg _ (by decide)]
    omega
  have hleap : leapOf dt <= 1 := by
    unfold leapOf
    split <;> omega
  have hnat : (((civilFromDays (dt.seconds.fdiv 86400)).1.toNat : Nat) : Int) =
      (civilFromDays (dt.seconds.fdiv 86400)).1 :=
    Int.toNat_of_nonneg hyear.left
  unfold DateTimeFields.InRange fieldsOf
  simp only
  refine ⟨hbounds.left, hbounds.right.left, by omega, by omega, by omega, ?_⟩
  rw [hnat, hcivil]

theorem daysFromCivil_fieldsOf {dt : DateTime} (hyear : FourDigitYear dt) :
    daysFromCivil (fieldsOf dt).year (fieldsOf dt).month (fieldsOf dt).day =
      dt.seconds.fdiv 86400 := by
  have hnat : (((civilFromDays (dt.seconds.fdiv 86400)).1.toNat : Nat) : Int) =
      (civilFromDays (dt.seconds.fdiv 86400)).1 :=
    Int.toNat_of_nonneg hyear.left
  unfold fieldsOf
  simp only
  rw [hnat]
  exact daysFromCivil_civilFromDays _

/-- Where a leap second is misplaced, the second shown is at most 59. -/
theorem second_fieldsOf_of_not_wellPlaced {dt : DateTime}
    (hplaced : ¬ WellPlaced dt) : (fieldsOf dt).second ≠ 60 := by
  have hminute : dt.seconds.fmod 86400 % 60 = dt.seconds.fmod 60 := by
    rw [Int.fmod_eq_emod_of_nonneg _ (by decide),
      Int.fmod_eq_emod_of_nonneg _ (by decide)]
    omega
  have hnonneg : 0 <= dt.seconds.fmod 86400 :=
    Int.fmod_nonneg_of_pos _ (by decide)
  have hnotLast : dt.seconds.fmod 60 ≠ 59 := fun h => hplaced (Or.inr h)
  have hleap : leapOf dt <= 1 := by
    unfold leapOf
    split
    · exact Nat.zero_le 1
    · exact Nat.le_refl 1
  unfold fieldsOf
  simp only
  omega

theorem leapOf_of_wellPlaced {dt : DateTime} (hplaced : WellPlaced dt) :
    leapOf dt = 0 ∨ leapOf dt = 1 ∧ dt.seconds % 60 = 59 := by
  have hminute : dt.seconds.fmod 60 = dt.seconds % 60 :=
    Int.fmod_eq_emod_of_nonneg _ (by decide)
  unfold leapOf
  split
  · exact Or.inl rfl
  · rename_i hnot
    rcases hplaced with hlt | hlast
    · exact absurd hlt hnot
    · exact Or.inr ⟨rfl, hminute ▸ hlast⟩

theorem toDateTime_fieldsOf {dt : DateTime} (hyear : FourDigitYear dt)
    {nanos : Nat} (hnanos : nanos < 1000000000) :
    exists dt', (fieldsOf dt).toDateTime nanos 0 = some dt' ∧
      (WellPlaced dt -> dt'.seconds = dt.seconds ∧
        dt'.nanos.val = nanos + leapOf dt * 1000000000) ∧
      (¬ WellPlaced dt -> dt'.nanos.val = nanos) := by
  refine ⟨_, if_pos ⟨fieldsOf_inRange hyear, by decide⟩, ?_, ?_⟩
  case refine_2 =>
    intro hplaced
    rw [if_neg (second_fieldsOf_of_not_wellPlaced hplaced), Fin.val_ofNat]
    omega
  intro hplaced
  have hdiv : dt.seconds.fdiv 86400 = dt.seconds / 86400 :=
    Int.fdiv_eq_ediv_of_nonneg _ (by decide)
  have hmod : dt.seconds.fmod 86400 = dt.seconds % 86400 :=
    Int.fmod_eq_emod_of_nonneg _ (by decide)
  have hleap := leapOf_of_wellPlaced hplaced
  rw [daysFromCivil_fieldsOf hyear, hdiv]
  unfold fieldsOf
  simp only [hmod]
  constructor
  · rcases hleap with hzero | ⟨hone, hlast⟩ <;> omega
  · rw [Fin.val_ofNat]
    rcases hleap with hzero | ⟨hone, hlast⟩
    · rw [if_neg (by omega), hzero]
      omega
    · rw [if_pos (by omega), hone]
      omega

theorem parse_dateTimeText {dt : DateTime} (hyear : FourDigitYear dt)
    {tail : String} {nanos : Nat} {offset : List Char}
    (hnanos : nanos < 1000000000)
    (hfraction : scanFraction tail.toList = some (nanos, offset))
    (hoffset : scanOffset offset = some (0, [])) :
    exists dt', parseFromRfc3339 (dateTimeText dt ++ tail) = some dt' ∧
      (WellPlaced dt -> dt'.seconds = dt.seconds ∧
        dt'.nanos.val = nanos + leapOf dt * 1000000000) ∧
      (¬ WellPlaced dt -> dt'.nanos.val = nanos) := by
  rcases toDateTime_fieldsOf hyear hnanos with ⟨dt', hfields, hplaced⟩
  refine ⟨dt', ?_, hplaced⟩
  unfold parseFromRfc3339
  rw [String.toList_append, scanDateTime_dateTimeText hyear]
  simp only [Option.bind_eq_bind, Option.bind_some]
  rw [hfraction]
  simp only [Option.bind_some]
  rw [hoffset]
  exact hfields

def truncateToMillis (dt : DateTime) : DateTime where
  seconds := dt.seconds
  nanos := Fin.ofNat 2000000000 (dt.nanos.val / 1000000 * 1000000)

theorem leapOf_nanos (dt : DateTime) :
    dt.nanos.val = dt.nanos.val % 1000000000 + leapOf dt * 1000000000 := by
  have hlt := dt.nanos.isLt
  unfold leapOf
  split <;> omega

theorem dateTime_eq_mk {dt : DateTime} {seconds : Int}
    {nanos : Fin 2000000000} (hseconds : dt.seconds = seconds)
    (hnanos : dt.nanos.val = nanos.val) :
    dt = { seconds := seconds, nanos := nanos } := by
  cases dt
  rw [DateTime.mk.injEq]
  exact ⟨hseconds, Fin.ext hnanos⟩

theorem scanFraction_padded {width n : Nat} (hwidth : 0 < width)
    (hnine : width <= 9) (hn : n < 10 ^ width) {c : Char} {rest : List Char}
    (hc : c.isDigit = false) :
    scanFraction (("." ++ padded width n).toList ++ c :: rest) =
      some (n * 10 ^ (9 - width), c :: rest) := by
  have hpoint : ".".toList = ['.'] := rfl
  rw [String.toList_append, hpoint, List.append_assoc, List.singleton_append]
  unfold scanFraction
  exact scanNanosecond_padded hwidth hnine hn hc rest

theorem parse_canonicalTimestamp {dt : DateTime} (hyear : FourDigitYear dt) :
    exists dt', parseFromRfc3339 (canonicalTimestamp dt) = some dt' ∧
      (dt' = truncateToMillis dt <-> WellPlaced dt) := by
  have hmillis : dt.nanos.val % 1000000000 / 1000000 < 10 ^ 3 := by omega
  have hz : "Z".toList = ['Z'] := rfl
  have hfraction : scanFraction
      ("." ++ padded 3 (dt.nanos.val % 1000000000 / 1000000) ++ "Z").toList =
        some (dt.nanos.val % 1000000000 / 1000000 * 10 ^ (9 - 3), ['Z']) := by
    rw [String.toList_append, hz]
    exact scanFraction_padded (by decide) (by decide) hmillis (by decide)
  rcases parse_dateTimeText hyear (by omega) hfraction rfl with
    ⟨dt', hparse, hplaced, hmisplaced⟩
  refine ⟨dt', ?_, ?_, ?_⟩
  · rw [canonicalTimestamp_eq]
    exact hparse
  · intro heq
    by_contra h
    have hlt := dt.nanos.isLt
    have hnanos := hmisplaced h
    have hleap : ¬ dt.nanos.val < 1000000000 := fun hlt => h (Or.inl hlt)
    rw [heq] at hnanos
    unfold truncateToMillis at hnanos
    rw [Fin.val_ofNat] at hnanos
    omega
  · intro h
    have hnanos := leapOf_nanos dt
    have hlt := dt.nanos.isLt
    unfold truncateToMillis
    apply dateTime_eq_mk (hplaced h).left
    rw [(hplaced h).right, Fin.val_ofNat]
    omega

theorem scanFraction_fractionText {nanos : Nat} (h : nanos < 1000000000) :
    scanFraction ((fractionText nanos).toList ++ "+00:00".toList) =
      some (nanos, "+00:00".toList) := by
  have hplus : "+00:00".toList = '+' :: "00:00".toList := rfl
  have hscan : forall {width n : Nat}, 0 < width -> width <= 9 ->
      n < 10 ^ width ->
      scanFraction (("." ++ padded width n).toList ++ "+00:00".toList) =
        some (n * 10 ^ (9 - width), "+00:00".toList) := by
    intro width n hwidth hnine hn
    rw [hplus]
    exact scanFraction_padded hwidth hnine hn (by decide)
  unfold fractionText
  split
  · rename_i hzero
    rw [hzero]
    rfl
  · split
    · rw [hscan (by decide) (by decide) (by omega)]
      simp only [Option.some.injEq, Prod.mk.injEq, and_true]
      omega
    · split
      · rw [hscan (by decide) (by decide) (by omega)]
        simp only [Option.some.injEq, Prod.mk.injEq, and_true]
        omega
      · rw [hscan (by decide) (by decide) h]
        simp

theorem parse_toRfc3339 {dt : DateTime} (hyear : FourDigitYear dt)
    (hplaced : WellPlaced dt) :
    parseFromRfc3339 (toRfc3339 dt) = some dt := by
  have hlt : dt.nanos.val % 1000000000 < 1000000000 := by omega
  have hfraction : scanFraction
      (fractionText (dt.nanos.val % 1000000000) ++ "+00:00").toList =
        some (dt.nanos.val % 1000000000, "+00:00".toList) := by
    rw [String.toList_append]
    exact scanFraction_fractionText hlt
  rcases parse_dateTimeText hyear hlt hfraction (by decide) with
    ⟨dt', hparse, hback, _⟩
  rw [toRfc3339, String.append_assoc, hparse, Option.some.injEq]
  apply dateTime_eq_mk (hback hplaced).left
  rw [(hback hplaced).right]
  exact (leapOf_nanos dt).symm

/-- A text with a signed year is refused. -/
theorem parse_canonicalTimestamp_eq_none {dt : DateTime}
    (hyear : ¬ FourDigitYear dt) :
    parseFromRfc3339 (canonicalTimestamp dt) = none := by
  have hfirst : forall {c : Char} {rest : List Char}, c.isDigit = false ->
      scanDateTime (c :: rest) = none := by
    intro c rest hc
    have hnumber : scanNumber 4 (c :: rest) = none := by
      unfold scanNumber
      simp [hc]
    unfold scanDateTime
    rw [hnumber]
    rfl
  have hparse : forall text : String, forall c rest,
      text.toList = c :: rest -> c.isDigit = false ->
        parseFromRfc3339 text = none := by
    intro text c rest htext hc
    unfold parseFromRfc3339
    rw [htext, hfirst hc]
    rfl
  have hsigned : exists c rest, (canonicalTimestamp dt).toList = c :: rest ∧
      c.isDigit = false := by
    unfold FourDigitYear yearOf at hyear
    unfold canonicalTimestamp rfc3339Year
    simp only
    rw [if_neg hyear]
    split
    · simp only [String.append_assoc]
      rw [String.toList_append]
      exact ⟨'+', _, rfl, rfl⟩
    · simp only [String.append_assoc]
      rw [String.toList_append]
      exact ⟨'-', _, rfl, rfl⟩
  rcases hsigned with ⟨c, rest, htext, hc⟩
  exact hparse _ c rest htext hc

theorem parse_canonicalTimestamp_isSome (dt : DateTime) :
    (parseFromRfc3339 (canonicalTimestamp dt)).isSome = true <->
      FourDigitYear dt := by
  constructor
  · intro h
    by_contra hyear
    rw [parse_canonicalTimestamp_eq_none hyear] at h
    cases h
  · intro hyear
    rcases parse_canonicalTimestamp hyear with ⟨dt', hparse, _⟩
    rw [hparse]
    rfl

/-- Exactly these times are read back, but for what is behind the milliseconds. -/
theorem parse_canonicalTimestamp_iff (dt : DateTime) :
    parseFromRfc3339 (canonicalTimestamp dt) = some (truncateToMillis dt) <->
      FourDigitYear dt ∧ WellPlaced dt := by
  constructor
  · intro h
    have hyear : FourDigitYear dt := by
      rw [← parse_canonicalTimestamp_isSome, h]
      rfl
    rcases parse_canonicalTimestamp hyear with ⟨dt', hparse, hplaced⟩
    rw [h] at hparse
    exact ⟨hyear, hplaced.mp (Option.some.inj hparse).symm⟩
  · intro h
    rcases h with ⟨hyear, hplaced⟩
    rcases parse_canonicalTimestamp hyear with ⟨dt', hparse, htruncated⟩
    rw [hparse, htruncated.mpr hplaced]

example : parseFromRfc3339 "2024-02-29t23:59:60.1234567895-01:30" =
    some { seconds := 1709256599, nanos := 1123456789 } := by
  decide +kernel

/-!
## Clock values
-/

def timestampMillis (dt : DateTime) : Int :=
  dt.seconds * 1000 + dt.nanos.val / 1000000

/-- `from_timestamp_millis`; there are years for 18 bits and a sign. -/
def fromTimestampMillis (millis : Int) : Option DateTime :=
  let dt : DateTime :=
    { seconds := millis.fdiv 1000
      nanos := Fin.ofNat 2000000000 ((millis.fmod 1000).toNat * 1000000) }
  if -262143 <= yearOf dt ∧ yearOf dt <= 262142 then some dt else none

/-- A time with whole milliseconds and no leap second. -/
def WholeMillis (dt : DateTime) : Prop :=
  dt.nanos.val < 1000000000 ∧ dt.nanos.val % 1000000 = 0

theorem WholeMillis.wellPlaced {dt : DateTime} (h : WholeMillis dt) :
    WellPlaced dt := Or.inl h.left

theorem WholeMillis.truncate {dt : DateTime} (h : WholeMillis dt) :
    truncateToMillis dt = dt := by
  have hlt := dt.nanos.isLt
  symm
  unfold truncateToMillis
  apply dateTime_eq_mk rfl
  rw [Fin.val_ofNat]
  have := h.right
  omega

theorem year_near {day day' : Int} (h : day <= day' + 1) :
    (civilFromDays day).1 <= (civilFromDays day').1 + 800 := by
  rcases civilFromDays_parts day with
    ⟨era, yoe, doy, mp, hyoe, hmp, hlt, hday, hcivil⟩
  rcases civilFromDays_parts day' with
    ⟨era', yoe', doy', mp', hyoe', hmp', hlt', hday', hcivil'⟩
  have hera : era <= era' + 1 := by omega
  rw [hcivil, hcivil']
  simp only
  split <;> split <;> omega

theorem fromTimestampMillis_isSome {now : DateTime}
    (hyear : FourDigitYear now) :
    (fromTimestampMillis (timestampMillis now)).isSome = true := by
  have hnanos := now.nanos.isLt
  unfold FourDigitYear yearOf at hyear
  unfold fromTimestampMillis timestampMillis
  generalize hmillis : now.seconds * 1000 + (now.nanos.val : Int) / 1000000 =
    millis
  have hday : millis.fdiv 1000 / 86400 <= now.seconds / 86400 + 1 ∧
      now.seconds / 86400 <= millis.fdiv 1000 / 86400 + 1 := by
    rw [Int.fdiv_eq_ediv_of_nonneg _ (by decide)]
    omega
  have hbefore := year_near hday.left
  have hafter := year_near hday.right
  simp only [Int.fdiv_eq_ediv_of_nonneg _ (by decide : (0 : Int) <= 86400)]
    at hyear
  simp only [yearOf,
    Int.fdiv_eq_ediv_of_nonneg _ (by decide : (0 : Int) <= 86400)]
  rw [if_pos (by omega)]
  rfl

theorem wholeMillis_of_millis {now : DateTime}
    (hyear : FourDigitYear
      ((fromTimestampMillis (timestampMillis now)).getD now)) :
    WholeMillis ((fromTimestampMillis (timestampMillis now)).getD now) := by
  cases hcreated : fromTimestampMillis (timestampMillis now) with
  | none =>
      rw [hcreated] at hyear
      have hsome : (fromTimestampMillis (timestampMillis now)).isSome = true :=
        fromTimestampMillis_isSome hyear
      rw [hcreated] at hsome
      cases hsome
  | some dt =>
      unfold fromTimestampMillis at hcreated
      simp only at hcreated
      split at hcreated
      · cases hcreated
        have hlow := Int.fmod_nonneg_of_pos (timestampMillis now)
          (by decide : (0 : Int) < 1000)
        have hhigh := Int.fmod_lt_of_pos (timestampMillis now)
          (by decide : (0 : Int) < 1000)
        unfold WholeMillis
        simp only [Option.getD_some, Fin.val_ofNat]
        omega
      · cases hcreated

end Sqlite
end Valqeron
