import FilterQuery.Time.Reader
import Mathlib.Algebra.Order.SuccPred
import Mathlib.Data.Int.SuccPred

namespace FilterQuery.Time

theorem daysBeforeYear_lt_iff {a b : Int} : daysBeforeYear a < daysBeforeYear b ↔ a < b := by
  apply (strictMono_int_of_lt_succ fun year => ?_).lt_iff_lt
  rw [daysBeforeYear_succ]
  split <;> omega

theorem splitMonths_lt {lengths : List Nat} {day : Nat} (h : day < totalDays lengths) :
    ∃ length, lengths[(splitMonths lengths day).1]? = some length ∧
      (splitMonths lengths day).2 < length := by
  induction lengths generalizing day with
  | nil => simp [totalDays] at h
  | cons length rest ih =>
      simp only [splitMonths]
      split
      · next hl => exact ⟨length, rfl, hl⟩
      · next hl =>
          rw [totalDays] at h
          exact ih (by omega)

theorem dayOfYear_lt (n : Int) :
    (n - daysBeforeYear (yearOf n)).toNat < totalDays (monthLengths (yearOf n)) := by
  have low := daysBeforeYear_yearOf_le n
  have high := lt_daysBeforeYear_yearOf_succ n
  rw [daysBeforeYear_succ] at high
  rw [totalDays_monthLengths]
  split at high <;> simp_all <;> omega

theorem length_le_of_mem_monthLengths {year : Int} {length : Nat}
    (h : length ∈ monthLengths year) : length ≤ 31 := by
  simp only [monthLengths, List.mem_cons, List.not_mem_nil, or_false] at h
  split at h <;> omega

theorem monthLength_succ (year : Int) (month : Nat) :
    monthLength year (month + 1) = (monthLengths year).getD month 0 := by
  rw [monthLength, if_neg (Nat.succ_ne_zero month), Nat.add_sub_cancel]

namespace Date

theorem isValid_iff {d : Date} : d.isValid ↔ 1 ≤ d.day ∧ d.day ≤ monthLength d.year d.month := by
  simp only [isValid, Bool.and_eq_true, decide_eq_true_eq]

theorem isValid_ofNumber (n : Int) : (ofNumber n).isValid := by
  obtain ⟨length, found, hl⟩ := splitMonths_lt (dayOfYear_lt n)
  refine isValid_iff.2 ⟨Nat.succ_pos _, ?_⟩
  simp only [ofNumber, monthLength_succ, List.getD_eq_getElem?_getD, found, Option.getD_some]
  exact hl

theorem month_day_of_isValid {d : Date} (h : d.isValid) : d.month ≤ 12 ∧ d.day ≤ 31 := by
  obtain ⟨year, month, day⟩ := d
  obtain ⟨positive, within⟩ := isValid_iff.1 h
  cases month with
  | zero => exact absurd (positive.trans within) (by simp [monthLength])
  | succ month =>
      rw [monthLength_succ, List.getD_eq_getElem?_getD] at within
      cases found : (monthLengths year)[month]? with
      | none =>
          rw [found] at within
          exact absurd (positive.trans within) (by simp)
      | some length =>
          obtain ⟨index, -⟩ := List.getElem?_eq_some_iff.1 found
          rw [found] at within
          exact ⟨index, within.trans (length_le_of_mem_monthLengths (List.mem_of_getElem? found))⟩

end Date

theorem Fields.isValid_iff {f : Fields} :
    f.isValid ↔ (firstYear ≤ f.year ∧ f.year ≤ lastYear) ∧ f.date.isValid ∧
      f.hour ≤ 23 ∧ f.minute ≤ 59 ∧ f.second ≤ 60 := by
  simp only [isValid, Bool.and_eq_true, decide_eq_true_eq, and_assoc]

namespace Instant

variable {t : Instant}

theorem year_of_isRepresentable (h : t.isRepresentable) :
    firstYear ≤ yearOf t.day ∧ yearOf t.day ≤ lastYear := by
  simp only [isRepresentable, Bool.and_eq_true, decide_eq_true_eq] at h
  have first := h.1.trans_lt (lt_daysBeforeYear_yearOf_succ t.day)
  have last := (daysBeforeYear_yearOf_le t.day).trans_lt h.2
  rw [daysBeforeYear_lt_iff] at first last
  omega

def fields (t : Instant) : Fields :=
  let d := Date.ofNumber t.day
  ⟨d.year, d.month, d.day, t.secondOfDay / 3600, t.secondOfDay / 60 % 60, t.secondOfDay % 60,
    t.nanos⟩

theorem secondOfDay_lt (t : Instant) : t.secondOfDay < 86400 := by
  simp only [secondOfDay, secondsPerDay]
  omega

theorem isValid_fields (h : t.isRepresentable) : t.fields.isValid := by
  have clock := t.secondOfDay_lt
  refine Fields.isValid_iff.2 ⟨year_of_isRepresentable h, Date.isValid_ofNumber t.day, ?_⟩
  simp only [fields]
  omega

theorem toInstant?_fields (h : t.isRepresentable) : t.fields.toInstant? 0 = some t := by
  have number : t.fields.date.number = t.day := Date.number_ofNumber t.day
  have ordinary : t.fields.second ≠ 60 := (Nat.mod_lt _ (by decide)).ne
  have seconds : (t.day - epochDay) * secondsPerDay +
      (t.fields.hour * 3600 + t.fields.minute * 60 + min t.fields.second 59 : Nat) - 0 =
        t.seconds := by
    simp only [fields, day, secondOfDay, secondsPerDay]
    omega
  simp only [Fields.toInstant?, isValid_fields h, if_true, number, ordinary, if_false, seconds]
  exact if_pos h

end Instant

end FilterQuery.Time
