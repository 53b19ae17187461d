import Valqeron.Sqlite.Timestamp

/-!
# Times that a column can hold

A text that is read as a time has a leap second at the end of a minute only, and
the seconds that are written show whether there is one.
-/

namespace Valqeron
namespace Sqlite

open Domain

/-!
## What is read
-/

theorem ofDigitChars_lt {cs : List Char}
    (h : forall c, c ∈ cs -> c.isDigit = true) :
    Nat.ofDigitChars 10 cs 0 < 10 ^ cs.length := by
  induction cs with
  | nil => exact Nat.one_pos
  | cons c rest ih =>
      have hrest := ih (fun d hd => h d (List.mem_cons_of_mem c hd))
      have hdigit : 48 <= c.toNat ∧ c.toNat <= 57 :=
        Char.isDigit_iff_toNat.mp (h c List.mem_cons_self)
      have hzero : '0'.toNat = 48 := rfl
      have hfirst : 10 * 0 + (c.toNat - '0'.toNat) + 1 <= 10 := by omega
      rw [Nat.ofDigitChars_cons, Nat.ofDigitChars_eq_ofDigitChars_zero,
        List.length_cons, Nat.pow_succ]
      calc 10 ^ rest.length * (10 * 0 + (c.toNat - '0'.toNat)) +
            Nat.ofDigitChars 10 rest 0
          < 10 ^ rest.length * (10 * 0 + (c.toNat - '0'.toNat)) +
            10 ^ rest.length := Nat.add_lt_add_left hrest _
        _ = 10 ^ rest.length * (10 * 0 + (c.toNat - '0'.toNat) + 1) :=
            (Nat.mul_succ _ _).symm
        _ <= 10 ^ rest.length * 10 := Nat.mul_le_mul_left _ hfirst

theorem scanNanosecond_lt {s rest : List Char} {n : Nat}
    (h : scanNanosecond s = some (n, rest)) : n < 1000000000 := by
  unfold scanNanosecond at h
  simp only at h
  split at h
  · cases h
  · cases h
    have hkept : ((s.takeWhile Char.isDigit).take 9).length <= 9 :=
      List.length_take_le 9 _
    have hvalue : Nat.ofDigitChars 10 ((s.takeWhile Char.isDigit).take 9) 0 <
        10 ^ ((s.takeWhile Char.isDigit).take 9).length := by
      apply ofDigitChars_lt
      intro c hc
      exact List.all_eq_true.mp List.all_takeWhile c (List.mem_of_mem_take hc)
    generalize ((s.takeWhile Char.isDigit).take 9).length = width at *
    calc Nat.ofDigitChars 10 ((s.takeWhile Char.isDigit).take 9) 0 *
          10 ^ (9 - width)
        < 10 ^ width * 10 ^ (9 - width) :=
          Nat.mul_lt_mul_of_pos_right hvalue (Nat.pow_pos (by decide))
      _ = 10 ^ 9 := by rw [← Nat.pow_add, Nat.add_sub_cancel' hkept]

theorem scanFraction_lt {s rest : List Char} {n : Nat}
    (h : scanFraction s = some (n, rest)) : n < 1000000000 := by
  unfold scanFraction at h
  split at h
  · exact scanNanosecond_lt h
  · cases h
    decide

theorem scanOffset_minutes {s rest : List Char} {offset : Int}
    (h : scanOffset s = some (offset, rest)) : offset % 60 = 0 := by
  cases s with
  | nil => cases h
  | cons c cs =>
      simp only [scanOffset] at h
      split at h
      · cases h
        rfl
      · split at h
        · rcases Option.bind_eq_some_iff.mp h with ⟨⟨hours, s₁⟩, _, h⟩
          rcases Option.bind_eq_some_iff.mp h with ⟨s₂, _, h⟩
          rcases Option.bind_eq_some_iff.mp h with ⟨⟨minutes, s₃⟩, _, h⟩
          simp only at h
          split at h
          · cases h
            split
            · omega
            · omega
          · cases h
        · cases h

theorem DateTimeFields.toDateTime_wellPlaced {f : DateTimeFields} {nanos : Nat}
    {offset : Int} {dt : DateTime} (hnanos : nanos < 1000000000)
    (hoffset : offset % 60 = 0) (h : f.toDateTime nanos offset = some dt) :
    WellPlaced dt := by
  unfold toDateTime at h
  split at h
  · cases h
    unfold WellPlaced
    simp only [Fin.val_ofNat, Int.fmod_eq_emod_of_nonneg _
      (show (0 : Int) <= 60 by decide)]
    by_cases hleap : f.second = 60
    · right
      rw [hleap]
      omega
    · left
      rw [if_neg hleap]
      omega
  · cases h

/-- A leap second that is read is the last second of its minute. -/
theorem wellPlaced_of_parse {text : String} {dt : DateTime}
    (h : parseFromRfc3339 text = some dt) : WellPlaced dt := by
  unfold parseFromRfc3339 at h
  rcases Option.bind_eq_some_iff.mp h with ⟨⟨fields, s₁⟩, _, h⟩
  rcases Option.bind_eq_some_iff.mp h with ⟨⟨nanos, s₂⟩, hnanos, h⟩
  rcases Option.bind_eq_some_iff.mp h with ⟨⟨offset, s₃⟩, hoffset, h⟩
  simp only at h
  split at h
  · exact DateTimeFields.toDateTime_wellPlaced (scanFraction_lt hnanos)
      (scanOffset_minutes hoffset) h
  · cases h

/-!
## What is written
-/

/-- The second of the minute as it is written; a leap second is the sixtieth. -/
def writtenSecond (dt : DateTime) : Nat :=
  (dt.seconds.fmod 86400).toNat % 60 +
    if dt.nanos.val < 1000000000 then 0 else 1

theorem writtenSecond_lt_iff {dt : DateTime} (h : WellPlaced dt) :
    writtenSecond dt < 60 <-> dt.nanos.val < 1000000000 := by
  unfold WellPlaced at h
  unfold writtenSecond
  rw [Int.fmod_eq_emod_of_nonneg _ (show (0 : Int) <= 60 by decide)] at h
  rw [Int.fmod_eq_emod_of_nonneg _ (show (0 : Int) <= 86400 by decide)]
  split
  · rename_i hnanos
    exact iff_of_true (by omega) hnanos
  · rename_i hnanos
    exact iff_of_false (by omega) hnanos

def timeText (dt : DateTime) : List Char :=
  let second := (dt.seconds.fmod 86400).toNat
  (padded 2 (second / 3600)).toList ++
    ':' :: ((padded 2 (second / 60 % 60)).toList ++
      ':' :: ((padded 2 (writtenSecond dt)).toList ++
        (fractionText (dt.nanos.val % 1000000000) ++ "+00:00").toList))

theorem not_T_of_mem_padded {width n : Nat} {c : Char}
    (h : c ∈ (padded width n).toList) : c ≠ 'T' := by
  intro hgiven
  cases hgiven
  exact absurd (isDigit_of_mem_padded h) (by decide)

theorem not_T_of_mem_rfc3339Year {y : Int} {c : Char}
    (h : c ∈ (rfc3339Year y).toList) : c ≠ 'T' := by
  have hsigned : forall sign : String, 'T' ∉ sign.toList -> forall n : Nat,
      c ∈ (sign ++ padded 4 n).toList -> c ≠ 'T' := by
    intro sign hsign n hc
    rw [String.toList_append] at hc
    rcases List.mem_append.mp hc with hc | hc
    · intro hgiven
      cases hgiven
      exact hsign hc
    · exact not_T_of_mem_padded hc
  unfold rfc3339Year at h
  split at h
  · exact not_T_of_mem_padded h
  · split at h
    · exact hsigned "+" (by decide) _ h
    · exact hsigned "-" (by decide) _ h

theorem dropWhile_toRfc3339 (dt : DateTime) :
    (toRfc3339 dt).toList.dropWhile (fun c => c != 'T') =
      'T' :: timeText dt := by
  have htext : exists date : List Char, (forall c, c ∈ date -> c ≠ 'T') ∧
      (toRfc3339 dt).toList = date ++ 'T' :: timeText dt := by
    refine ⟨(rfc3339Year (yearOf dt) ++ "-" ++
      padded 2 (civilFromDays (dt.seconds.fdiv 86400)).2.1 ++ "-" ++
      padded 2 (civilFromDays (dt.seconds.fdiv 86400)).2.2).toList, ?_, ?_⟩
    · intro c hc
      simp only [String.toList_append, List.mem_append] at hc
      rcases hc with (((hc | hc) | hc) | hc) | hc
      · exact not_T_of_mem_rfc3339Year hc
      · intro h
        cases h
        exact absurd hc (by decide)
      · exact not_T_of_mem_padded hc
      · intro h
        cases h
        exact absurd hc (by decide)
      · exact not_T_of_mem_padded hc
    · unfold toRfc3339 dateTimeText timeText writtenSecond yearOf
      simp only [String.toList_append, List.append_assoc]
      rfl
  rcases htext with ⟨date, hdate, htext⟩
  rw [htext, List.dropWhile_append_of_pos]
  · rfl
  · intro c hc
    exact bne_iff_ne.mpr (hdate c hc)

theorem writtenSecond_of_toRfc3339 {a b : DateTime}
    (h : toRfc3339 a = toRfc3339 b) : writtenSecond a = writtenSecond b := by
  have htime : timeText a = timeText b := by
    have hdrop := congrArg
      (fun s : String => s.toList.dropWhile (fun c => c != 'T')) h
    simp only [dropWhile_toRfc3339] at hdrop
    exact List.tail_eq_of_cons_eq hdrop
  have htwo : forall {n m : Nat}, n < 100 -> m < 100 ->
      (padded 2 n).toList.length = (padded 2 m).toList.length := by
    intro n m hn hm
    rw [length_padded (by decide) hn, length_padded (by decide) hm]
  have hday : forall dt : DateTime, (dt.seconds.fmod 86400).toNat < 86400 := by
    intro dt
    have hlt := Int.fmod_lt_of_pos dt.seconds (by decide : (0 : Int) < 86400)
    omega
  have hsecond : forall dt : DateTime, writtenSecond dt < 100 := by
    intro dt
    unfold writtenSecond
    split <;> omega
  have ha := hday a
  have hb := hday b
  unfold timeText at htime
  have hafter := (List.append_inj htime (htwo (by omega) (by omega))).right
  have hminute := (List.append_inj (List.tail_eq_of_cons_eq hafter)
    (htwo (by omega) (by omega))).right
  have hdigits := (List.append_inj (List.tail_eq_of_cons_eq hminute)
    (htwo (hsecond a) (hsecond b))).left
  rw [← ofDigitChars_padded 2 (writtenSecond a), hdigits, ofDigitChars_padded]

end Sqlite
end Valqeron
