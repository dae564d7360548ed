import AmqpBus.Proofs.Text.Digits
import AmqpBus.Time.Rfc3339
import Mathlib.Data.List.Basic

/-!
# Moments read back

A moment whose year has four digits is read back from its text to the nanosecond, unless it
is a leap second.  The fraction is read whichever of its widths it has, and the offset of
universal time moves nothing.
-/

namespace AmqpBus.Time

open Text (decimal? padded)

/-! ### Fractions of a second -/

/-- The places of a fraction end where the offset begins. -/
theorem fraction?_append {places : List Char} (h : ∀ c ∈ places, c.isDigit) (offset : List Char) :
  fraction? ('.' :: (places ++ '+' :: offset))
    = (nanoOf? places).bind fun nano => some (nano, '+' :: offset)
  := by
  rw [fraction?, List.takeWhile_append_of_pos h, List.dropWhile_append_of_pos h,
    List.takeWhile_cons_of_neg (by decide), List.dropWhile_cons_of_neg (by decide),
    List.append_nil]
  rfl

theorem fraction?_padded {width n : ℕ} (hwidth : 0 < width) (hle : width ≤ 9)
    (h : n < 10 ^ width) (offset : List Char) :
  fraction? ('.' :: (padded width n ++ '+' :: offset))
    = some (n * 10 ^ (9 - width), '+' :: offset)
  := by
  have hlength := Text.length_padded hwidth h
  rw [fraction?_append fun _ => Text.isDigit_of_mem_padded, nanoOf?,
    List.take_of_length_le (by omega), Text.decimal?_padded, hlength]
  rfl

/-- A fraction is read back, whichever width it has. -/
theorem fraction?_fractionText {nano : ℕ} (h : nano < 1000000000) (offset : List Char) :
  fraction? (fractionText nano ++ '+' :: offset) = some (nano, '+' :: offset)
  := by
  rw [fractionText]
  split
  · rename_i hzero
    rw [hzero]
    rfl
  · split
    · rename_i hmillis
      rw [List.cons_append, fraction?_padded (by omega) (by omega) (by omega)]
      congr 2
      omega
    · split
      · rename_i hmicros
        rw [List.cons_append, fraction?_padded (by omega) (by omega) (by omega)]
        congr 2
        omega
      · rw [List.cons_append, fraction?_padded (by omega) (by omega) (by omega)]
        congr 2
        omega

/-! ### Dates and times -/

theorem daysIn_le (year : Int) (month : ℕ) :
  daysIn year month ≤ 31
  := by
  unfold daysIn
  grind

theorem Date.of?_self (date : Date) :
  Date.of? date.year date.month date.day = some date
  := dif_pos ⟨date.month_pos, date.month_le, date.day_pos, date.day_le⟩

theorem TimeOfDay.of?_self {time : TimeOfDay} (h : time.nano < 1000000000) :
  TimeOfDay.of? time.hour time.minute time.second time.nano = some time
  := dif_pos ⟨time.hour_lt, time.minute_lt, time.second_lt, h⟩

namespace Moment

/-- Universal time is moved by no offset. -/
theorem ofLocal_zero (moment : Moment) :
  ofLocal moment.date moment.time 0 = moment
  := by
  obtain ⟨date, hour, minute, second, nano, hhour, hminute, hsecond, hnano⟩ := moment
  have hminutes : ((hour : Int) * 60 + minute - 0) % 1440 = (hour : Int) * 60 + minute := by
    omega
  have hnumber : ((hour : Int) * 60 + minute).toNat = hour * 60 + minute := by
    omega
  simp only [ofLocal, hminutes, hnumber]
  rw [if_neg (by omega), if_pos (by omega)]
  congr 2 <;> omega

/-- The text of a moment, part by part. -/
theorem ofChars?_append {year month day hour minute second : List Char}
    (hyear : year.length = 4) (hmonth : month.length = 2) (hday : day.length = 2)
    (hhour : hour.length = 2) (hminute : minute.length = 2) (hsecond : second.length = 2)
    (rest : List Char) :
  ofChars? (year ++ '-' :: month ++ '-' :: day ++ 'T' :: hour ++ ':' :: minute ++ ':' :: second
      ++ rest)
    = (do
      let date ← Date.of? (← decimal? year) (← decimal? month) (← decimal? day)
      let (nano, offset) ← fraction? rest
      let time ← TimeOfDay.of? (← decimal? hour) (← decimal? minute) (← decimal? second) nano
      return .ofLocal date time (← offset? offset))
  := by
  match year, month, day, hour, minute, second with
  | [_, _, _, _], [_, _], [_, _], [_, _], [_, _], [_, _] => simp [ofChars?]

/-- A moment is read back from its text. -/
theorem ofText?_text {moment : Moment} (hfirst : 0 ≤ moment.date.year)
    (hlast : moment.date.year ≤ 9999) (hnano : moment.time.nano < 1000000000) :
  ofText? moment.text = some moment
  := by
  have hyear : yearText moment.date.year = padded 4 moment.date.year.toNat :=
    if_pos ⟨hfirst, hlast⟩
  have hleap : moment.time.nano / 1000000000 = 0 := Nat.div_eq_of_lt hnano
  have hmod : moment.time.nano % 1000000000 = moment.time.nano := Nat.mod_eq_of_lt hnano
  have htwo {n : ℕ} (hn : n < 100) : (padded 2 n).length = 2 :=
    Text.length_padded (by omega) hn
  have hmonth := moment.date.month_le
  have hday := Nat.le_trans moment.date.day_le (daysIn_le ..)
  have hhour := moment.time.hour_lt
  have hminute := moment.time.minute_lt
  have hsecond := moment.time.second_lt
  rw [ofText?, text, String.toList_ofList, chars, hyear, hleap, hmod, Nat.add_zero,
    List.append_assoc,
    ofChars?_append (Text.length_padded (by omega) (by omega)) (htwo (by omega)) (htwo (by omega))
      (htwo (by omega)) (htwo (by omega)) (htwo (by omega))]
  have hdate : Date.of? (moment.date.year.toNat : Int) moment.date.month moment.date.day
      = some moment.date := by
    rw [Int.toNat_of_nonneg hfirst, Date.of?_self]
  have hoffset : offset? ['+', '0', '0', ':', '0', '0'] = some 0 := rfl
  simp only [Text.decimal?_padded, fraction?_fractionText hnano, Option.bind_eq_bind,
    Option.bind_some, hdate, TimeOfDay.of?_self hnano, hoffset, ofLocal_zero]
  rfl

end Moment

end AmqpBus.Time
