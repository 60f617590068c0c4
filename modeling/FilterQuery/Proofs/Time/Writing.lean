import FilterQuery.Time.Instant
import Mathlib.Data.List.Basic

namespace FilterQuery

namespace Text

theorem takeWhile_padded_append {width n : Nat} {c : Char} {s : List Char} (hc : ¬c.isDigit) :
    (padded width n ++ c :: s).takeWhile Char.isDigit = padded width n := by
  rw [List.takeWhile_append_of_pos fun _ => isDigit_of_mem_padded, List.takeWhile_cons_of_neg hc,
    List.append_nil]

theorem padded_append_inj {width m n : Nat} {c : Char} {s s' : List Char} (hc : ¬c.isDigit)
    (h : padded width m ++ c :: s = padded width n ++ c :: s') : m = n ∧ s = s' := by
  have same : padded width m = padded width n := by
    rw [← takeWhile_padded_append hc, h, takeWhile_padded_append hc]
  rw [same] at h
  have value := congrArg digitsValue same
  rw [digitsValue_padded, digitsValue_padded] at value
  exact ⟨value, (List.cons.inj (List.append_cancel_left h)).2⟩

theorem exists_padded_eq_cons (width n : Nat) :
    ∃ c rest, padded width n = c :: rest ∧ c.isDigit := by
  have nonempty : padded width n ≠ [] := List.append_ne_nil_of_right_ne_nil _ (digits_ne_nil n)
  obtain ⟨c, rest, h⟩ := List.exists_cons_of_ne_nil nonempty
  have first : c ∈ padded width n := by simp [h]
  exact ⟨c, rest, h, isDigit_of_mem_padded first⟩

end Text

namespace Time

namespace Instant

theorem head?_writeYear (year : Int) (s : List Char) :
    ((writeYear year ++ s).head? = some '-' ↔ year < 0) ∧
      ((writeYear year ++ s).head? = some '+' ↔ 9999 < year) := by
  obtain ⟨c, rest, hp, hc⟩ := Text.exists_padded_eq_cons 4 year.natAbs
  have minus : c ≠ '-' := by
    rintro rfl
    cases hc
  have plus : c ≠ '+' := by
    rintro rfl
    cases hc
  simp only [writeYear]
  split
  · next h => simp [h]; omega
  · next h =>
      split
      · next h' => simp [h, h']
      · next h' => simp [h, h', hp, minus, plus]

theorem writeYear_append_inj {year year' : Int} {s s' : List Char}
    (h : writeYear year ++ '-' :: s = writeYear year' ++ '-' :: s') : year = year' ∧ s = s' := by
  have heads := congrArg List.head? h
  have negative : year < 0 ↔ year' < 0 := by
    rw [← (head?_writeYear year _).1, ← (head?_writeYear year' _).1, heads]
  have long : 9999 < year ↔ 9999 < year' := by
    rw [← (head?_writeYear year _).2, ← (head?_writeYear year' _).2, heads]
  -- the signs are the same, and past them two padded numbers end at the same mark
  have digits :
      Text.padded 4 year.natAbs ++ '-' :: s = Text.padded 4 year'.natAbs ++ '-' :: s' := by
    simp only [writeYear, ← negative, ← long] at h
    split_ifs at h
    · exact (List.cons.inj h).2
    · exact (List.cons.inj h).2
    · exact h
  obtain ⟨same, rest⟩ := Text.padded_append_inj (by decide) digits
  exact ⟨by omega, rest⟩

theorem writeDate_append_inj {d d' : Date} {c : Char} {s s' : List Char} (hc : ¬c.isDigit)
    (h : writeDate d ++ c :: s = writeDate d' ++ c :: s') : d = d' ∧ s = s' := by
  obtain ⟨year, month, day⟩ := d
  obtain ⟨year', month', day'⟩ := d'
  simp only [writeDate, List.append_assoc, List.cons_append] at h
  obtain ⟨rfl, afterYear⟩ := writeYear_append_inj h
  obtain ⟨rfl, afterMonth⟩ := Text.padded_append_inj (by decide) afterYear
  obtain ⟨rfl, rest⟩ := Text.padded_append_inj hc afterMonth
  exact ⟨rfl, rest⟩

theorem writeClock_append_inj {second second' : Nat} {leap : Bool} {c : Char} {s s' : List Char}
    (hc : ¬c.isDigit) (h : writeClock second leap ++ c :: s = writeClock second' leap ++ c :: s') :
    second = second' ∧ s = s' := by
  simp only [writeClock, List.append_assoc, List.cons_append] at h
  obtain ⟨hours, afterHours⟩ := Text.padded_append_inj (by decide) h
  obtain ⟨minutes, afterMinutes⟩ := Text.padded_append_inj (by decide) afterHours
  obtain ⟨seconds, rest⟩ := Text.padded_append_inj hc afterMinutes
  exact ⟨by omega, rest⟩

theorem writeSeconds_of_lt {t : Instant} (h : t.nanos < billion) :
    t.writeSeconds = writeDate (.ofNumber t.day) ++ 'T' :: writeClock t.secondOfDay false := by
  rw [writeSeconds, decide_eq_false (Nat.not_le.2 h)]

theorem writeSeconds_append_inj {t u : Instant} {c : Char} {s s' : List Char} (hc : ¬c.isDigit)
    (ht : t.nanos < billion) (hu : u.nanos < billion)
    (h : t.writeSeconds ++ c :: s = u.writeSeconds ++ c :: s') :
    t.seconds = u.seconds ∧ s = s' := by
  rw [writeSeconds_of_lt ht, writeSeconds_of_lt hu] at h
  simp only [List.append_assoc, List.cons_append] at h
  obtain ⟨date, afterDate⟩ := writeDate_append_inj (by decide) h
  obtain ⟨clock, rest⟩ := writeClock_append_inj hc afterDate
  have day : t.day = u.day := by
    rw [← Date.number_ofNumber t.day, date, Date.number_ofNumber]
  simp only [Instant.day, secondOfDay, secondsPerDay] at day clock
  exact ⟨by omega, rest⟩

def millis (t : Instant) : Int :=
  t.seconds * 1000 + (t.nanos / 1000000 : Nat)

theorem writeMillis_eq_iff {t u : Instant} (ht : t.nanos < billion) (hu : u.nanos < billion) :
    t.writeMillis = u.writeMillis ↔ t.millis = u.millis := by
  have fraction {t : Instant} (ht : t.nanos < billion) :
      t.nanos % billion / 1000000 = t.nanos / 1000000 := by
    rw [Nat.mod_eq_of_lt ht]
  simp only [writeMillis, fraction ht, fraction hu, millis]
  constructor
  · intro h
    simp only [List.append_assoc, List.cons_append] at h
    obtain ⟨seconds, rest⟩ := writeSeconds_append_inj (by decide) ht hu h
    obtain ⟨millis, -⟩ := Text.padded_append_inj (by decide) rest
    rw [seconds, millis]
  · intro h
    have bounds : t.nanos / 1000000 < 1000 ∧ u.nanos / 1000000 < 1000 := by
      simp only [billion] at ht hu
      omega
    have seconds : t.seconds = u.seconds := by omega
    have millis : t.nanos / 1000000 = u.nanos / 1000000 := by omega
    rw [writeSeconds_of_lt ht, writeSeconds_of_lt hu, day, day, secondOfDay, secondOfDay, seconds,
      millis]

end Instant

end Time

end FilterQuery
