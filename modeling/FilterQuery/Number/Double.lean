namespace FilterQuery.Number

-- A number is counted in units of 2^-1074, the least of them that a double can hold.
structure Format where
  precision : Nat
  least : Nat
  limit : Nat
  precision_pos : 0 < precision
  precision_le : precision ≤ 53
  least_lt : least + precision < limit
  lt_limit : 1074 < limit
  limit_le : limit ≤ 2098

def divNearest (n d : Nat) : Nat :=
  let q := n / d
  let r := n % d
  if 2 * r < d then q
  else if d < 2 * r then q + 1
  else if q % 2 = 0 then q
  else q + 1

theorem divNearest_le (n d : Nat) : divNearest n d ≤ n / d + 1 := by
  simp only [divNearest]
  split
  · omega
  · split
    · omega
    · split <;> omega

namespace Format

def double : Format :=
  ⟨53, 0, 2098, by decide, by decide, by decide, by decide, by decide⟩

def single : Format :=
  ⟨24, 925, 1202, by decide, by decide, by decide, by decide, by decide⟩

def lastBit (f : Format) (units : Nat) : Nat :=
  max f.least (Nat.log2 units + 1 - f.precision)

structure Units (f : Format) where
  count : Nat
  lt : count < Nat.pow 2 f.limit
  dvd : Nat.pow 2 (f.lastBit count) ∣ count
  deriving DecidableEq, Repr

variable {f : Format}

def Units.zero : f.Units :=
  ⟨0, Nat.two_pow_pos f.limit, Nat.dvd_zero _⟩

theorem lastBit_le_double (f : Format) (units : Nat) :
    Format.double.lastBit units ≤ f.lastBit units := by
  have precision : f.precision ≤ Format.double.precision := f.precision_le
  have least : Format.double.least = 0 := rfl
  simp only [lastBit]
  omega

def Units.widen (u : f.Units) : Format.double.Units where
  count := u.count
  lt := by
    rw [Nat.pow_eq]
    exact Nat.lt_of_lt_of_le u.lt (Nat.pow_le_pow_right (by decide) f.limit_le)
  dvd := Nat.dvd_trans (Nat.pow_dvd_pow 2 (f.lastBit_le_double u.count)) u.dvd

theorem lt_two_pow_lastBit (f : Format) (n : Nat) :
    n < Nat.pow 2 (f.lastBit n + f.precision) := by
  refine Nat.lt_of_lt_of_le Nat.lt_log2_self (Nat.pow_le_pow_right (by decide) ?_)
  simp only [lastBit]
  omega

theorem divNearest_le_two_pow (f : Format) (n d : Nat) :
    divNearest n (d * Nat.pow 2 (f.lastBit (n / d))) ≤ Nat.pow 2 f.precision := by
  refine Nat.le_trans (divNearest_le _ _) ?_
  rw [← Nat.div_div_eq_div_mul]
  refine Nat.div_lt_of_lt_mul ?_
  rw [Nat.pow_eq, Nat.pow_eq, ← Nat.pow_add]
  exact f.lt_two_pow_lastBit (n / d)

theorem lastBit_le_of_lt {units bit : Nat} (hb : f.least ≤ bit)
    (h : units < Nat.pow 2 (f.precision + bit)) : f.lastBit units ≤ bit := by
  have long : Nat.log2 units < f.precision + bit := by
    by_cases zero : units = 0
    · have := f.precision_pos
      subst zero
      simp
      omega
    · exact (Nat.log2_lt zero).2 h
  simp only [lastBit]
  omega

def Units.smallest (f : Format) : f.Units where
  count := Nat.pow 2 f.least
  lt := Nat.pow_lt_pow_right (by decide) (Nat.lt_of_le_of_lt (Nat.le_add_right _ _) f.least_lt)
  dvd := by
    refine Nat.pow_dvd_pow 2 (lastBit_le_of_lt (Nat.le_refl _) ?_)
    exact Nat.pow_lt_pow_right (by decide) (Nat.lt_add_of_pos_left f.precision_pos)

theorem dvd_of_le {q bit : Nat} (h : q ≤ Nat.pow 2 f.precision) (hb : f.least ≤ bit) :
    Nat.pow 2 (f.lastBit (q * Nat.pow 2 bit)) ∣ q * Nat.pow 2 bit := by
  rcases Nat.lt_or_eq_of_le h with hlt | rfl
  · have below : q * Nat.pow 2 bit < Nat.pow 2 (f.precision + bit) := by
      rw [Nat.pow_eq, Nat.pow_eq, Nat.pow_add]
      exact Nat.mul_lt_mul_of_pos_right hlt (Nat.two_pow_pos bit)
    exact Nat.dvd_trans (Nat.pow_dvd_pow 2 (lastBit_le_of_lt hb below)) (Nat.dvd_mul_left _ q)
  · -- carried to the next power of two, of which a single bit is kept
    have := f.precision_pos
    simp only [Nat.pow_eq, ← Nat.pow_add]
    refine Nat.pow_dvd_pow 2 ?_
    simp only [lastBit, Nat.log2_two_pow]
    omega

def round? (f : Format) (n d : Nat) : Option f.Units :=
  let bit := f.lastBit (n / d)
  let count := divNearest n (d * Nat.pow 2 bit) * Nat.pow 2 bit
  if h : count < Nat.pow 2 f.limit then
    some ⟨count, h, dvd_of_le (f.divNearest_le_two_pow n d) (Nat.le_max_left _ _)⟩
  else
    none

end Format

inductive Double where
  | nan
  | infinite (negative : Bool)
  | finite (negative : Bool) (units : Format.double.Units)
  deriving DecidableEq, Repr

namespace Double

def isFinite : Double → Bool
  | .finite .. => true
  | _ => false

def rank : Double → Option Int
  | .nan => none
  | .infinite negative => some (if negative then -(Nat.pow 2 2098 : Nat) else Nat.pow 2 2098)
  | .finite negative units => some (if negative then -(units.count : Int) else units.count)

def equal (a b : Double) : Bool :=
  match a.rank, b.rank with
  | some x, some y => x == y
  | _, _ => false

def compare? (a b : Double) : Option Ordering :=
  match a.rank, b.rank with
  | some x, some y => some (compare x y)
  | _, _ => none

theorem equal_iff {a b : Double} : a.equal b ↔ a.rank.isSome ∧ a.rank = b.rank := by
  simp only [equal]
  cases a.rank <;> cases b.rank <;> simp

theorem compare?_swap (a b : Double) : b.compare? a = (a.compare? b).map Ordering.swap := by
  simp only [compare?]
  cases a.rank with
  | none => cases b.rank <;> rfl
  | some x =>
      cases b.rank with
      | none => rfl
      | some y => simp [Std.OrientedOrd.eq_swap (a := y) (b := x)]

end Double

end FilterQuery.Number
