namespace FilterQuery.Time

def isLeap (year : Int) : Bool :=
  year % 4 == 0 && (year % 100 != 0 || year % 400 == 0)

def monthLengths (year : Int) : List Nat :=
  [31, if isLeap year then 29 else 28, 31, 30, 31, 30, 31, 31, 30, 31, 30, 31]

structure Date where
  year : Int
  month : Nat
  day : Nat
  deriving DecidableEq, Repr

def monthLength (year : Int) (month : Nat) : Nat :=
  if month = 0 then 0 else (monthLengths year).getD (month - 1) 0

def Date.isValid (d : Date) : Bool :=
  1 ≤ d.day && d.day ≤ monthLength d.year d.month

def daysBeforeYear (year : Int) : Int :=
  let past := year - 1
  365 * past + past / 4 - past / 100 + past / 400

theorem daysBeforeYear_succ (year : Int) :
    daysBeforeYear (year + 1) = daysBeforeYear year + if isLeap year then 366 else 365 := by
  simp only [daysBeforeYear, isLeap, Bool.and_eq_true, Bool.or_eq_true, beq_iff_eq, bne_iff_ne]
  split <;> omega

def totalDays : List Nat → Nat
  | [] => 0
  | length :: rest => length + totalDays rest

def Date.number (d : Date) : Int :=
  daysBeforeYear d.year + totalDays ((monthLengths d.year).take (d.month - 1)) + (d.day - 1)

def yearOf (n : Int) : Int :=
  let guess := n * 400 / 146097 + 1
  if n < daysBeforeYear guess then guess - 1
  else if daysBeforeYear (guess + 1) ≤ n then guess + 1
  else guess

theorem daysBeforeYear_yearOf_le (n : Int) : daysBeforeYear (yearOf n) ≤ n := by
  simp only [yearOf]
  split
  · simp only [daysBeforeYear] at *; omega
  · split <;> omega

theorem lt_daysBeforeYear_yearOf_succ (n : Int) : n < daysBeforeYear (yearOf n + 1) := by
  simp only [yearOf]
  split
  · simp only [Int.sub_add_cancel]; assumption
  · split
    · simp only [daysBeforeYear] at *; omega
    · omega

def splitMonths : List Nat → Nat → Nat × Nat
  | [], day => (0, day)
  | length :: rest, day =>
      if day < length then (0, day)
      else
        let (month, day) := splitMonths rest (day - length)
        (month + 1, day)

theorem splitMonths_add {lengths : List Nat} {day : Nat} (h : day < totalDays lengths) :
    totalDays (lengths.take (splitMonths lengths day).1) + (splitMonths lengths day).2 = day := by
  induction lengths generalizing day with
  | nil => simp [totalDays] at h
  | cons length rest ih =>
      simp only [splitMonths]
      split
      · simp [totalDays]
      · next hl =>
          have hd : day - length < totalDays rest := by
            rw [totalDays] at h
            omega
          have key := ih hd
          simp only [List.take_succ_cons, totalDays]
          omega

theorem totalDays_monthLengths (year : Int) :
    totalDays (monthLengths year) = if isLeap year then 366 else 365 := by
  simp only [monthLengths]
  split <;> rfl

def Date.ofNumber (n : Int) : Date :=
  let year := yearOf n
  let (month, day) := splitMonths (monthLengths year) (n - daysBeforeYear year).toNat
  ⟨year, month + 1, day + 1⟩

theorem Date.number_ofNumber (n : Int) : (Date.ofNumber n).number = n := by
  have hlow := daysBeforeYear_yearOf_le n
  have hhigh := lt_daysBeforeYear_yearOf_succ n
  rw [daysBeforeYear_succ] at hhigh
  have hday : (n - daysBeforeYear (yearOf n)).toNat < totalDays (monthLengths (yearOf n)) := by
    rw [totalDays_monthLengths]
    split at hhigh <;> simp_all <;> omega
  have key := splitMonths_add hday
  simp only [ofNumber, number, Nat.add_sub_cancel]
  omega

end FilterQuery.Time
