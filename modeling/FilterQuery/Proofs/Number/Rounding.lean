import FilterQuery.Number.Double
import Mathlib.Algebra.Group.Nat.Even
import Mathlib.Algebra.Order.Ring.Nat
import Mathlib.Tactic.Linarith
import Mathlib.Tactic.Ring

namespace FilterQuery.Number

variable {n d k : Nat}

theorem le_divNearest_of_mul_le (hd : 0 < d) (h : k * d ≤ n) : k ≤ divNearest n d := by
  have below : k ≤ n / d := (Nat.le_div_iff_mul_le hd).2 h
  simp only [divNearest]
  split
  · exact below
  · split
    · omega
    · split <;> omega

theorem le_divNearest_iff_of_even (hd : 0 < d) (hk : Even k) :
    k ≤ divNearest n d ↔ 2 * (k * d) ≤ 2 * n + d := by
  have parts : d * (n / d) + n % d = n := Nat.div_add_mod n d
  have small : n % d < d := Nat.mod_lt n hd
  simp only [divNearest]
  generalize n / d = q at parts
  generalize n % d = r at parts small
  have whole : q * d + r = n := by rw [Nat.mul_comm, parts]
  rcases lt_trichotomy k (q + 1) with hlt | rfl | hgt
  · have below : k * d ≤ q * d := Nat.mul_le_mul_right d (Nat.le_of_lt_succ hlt)
    have reached : 2 * (k * d) ≤ 2 * n + d := by omega
    split_ifs <;> omega
  · -- the quotient is odd, so a half rounds up
    have odd : q % 2 ≠ 0 := by
      rw [Nat.even_add_one, Nat.even_iff] at hk
      exact hk
    have half : 2 * ((q + 1) * d) ≤ 2 * n + d ↔ d ≤ 2 * r := by
      rw [Nat.add_mul, Nat.one_mul]
      omega
    rw [half]
    split_ifs <;> omega
  · have above : (q + 2) * d ≤ k * d := Nat.mul_le_mul_right d hgt
    rw [Nat.add_mul] at above
    have missed : ¬2 * (k * d) ≤ 2 * n + d := by omega
    split_ifs <;> omega

section

variable {f : Format}

theorem Format.round?_eq_none_iff_le :
    f.round? n d = none ↔
      2 ^ f.limit ≤ divNearest n (d * 2 ^ f.lastBit (n / d)) * 2 ^ f.lastBit (n / d) := by
  simp only [round?, Nat.pow_eq, dite_eq_right_iff, reduceCtorEq, imp_false, Nat.not_lt]

theorem Format.round?_eq_none_iff_of_lastBit_lt (hd : 0 < d) (h : f.lastBit (n / d) < f.limit) :
    f.round? n d = none ↔ 2 * (2 ^ f.limit * d) ≤ 2 * n + d * 2 ^ f.lastBit (n / d) := by
  obtain ⟨rest, hr⟩ := Nat.exists_eq_add_of_lt h
  have power : 2 ^ f.limit = 2 ^ (rest + 1) * 2 ^ f.lastBit (n / d) := by
    rw [hr, ← Nat.pow_add]
    ring_nf
  have even : Even (2 ^ (rest + 1)) := by
    rw [Nat.pow_succ]
    exact even_two.mul_left _
  have step : 0 < 2 ^ f.lastBit (n / d) := Nat.two_pow_pos _
  rw [round?_eq_none_iff_le, power, Nat.mul_le_mul_right_iff step,
    le_divNearest_iff_of_even (Nat.mul_pos hd step) even, Nat.mul_assoc, Nat.mul_comm d]

theorem Format.lastBit_div_le (hq : n / d < 2 ^ f.limit) :
    f.lastBit (n / d) ≤ f.limit - f.precision := by
  have least := f.least_lt
  refine lastBit_le_of_lt (by omega) ?_
  rwa [Nat.pow_eq, Nat.add_sub_cancel' (by omega)]

theorem Format.round?_eq_none_of_le (hd : 0 < d)
    (hq : 2 ^ f.limit ≤ n / d) : f.round? n d = none := by
  have positive : n / d ≠ 0 := ((Nat.two_pow_pos _).trans_le hq).ne'
  have long : f.limit ≤ Nat.log2 (n / d) := (Nat.le_log2 positive).2 hq
  have bits : Nat.log2 (n / d) = f.precision - 1 + f.lastBit (n / d) := by
    have precision := f.precision_pos
    have least := f.least_lt
    simp only [Format.lastBit]
    omega
  have lead : 2 ^ (f.precision - 1) * 2 ^ f.lastBit (n / d) ≤ n / d := by
    rw [← Nat.pow_add, ← bits]
    exact Nat.log2_self_le positive
  have kept : 2 ^ (f.precision - 1) ≤ divNearest n (d * 2 ^ f.lastBit (n / d)) := by
    refine le_divNearest_of_mul_le (Nat.mul_pos hd (Nat.two_pow_pos _)) ?_
    rw [Nat.mul_comm d, ← Nat.mul_assoc]
    exact (Nat.le_div_iff_mul_le hd).1 lead
  rw [round?_eq_none_iff_le]
  calc 2 ^ f.limit
    _ ≤ 2 ^ Nat.log2 (n / d) := Nat.pow_le_pow_right (by decide) long
    _ = 2 ^ (f.precision - 1) * 2 ^ f.lastBit (n / d) := by rw [bits, Nat.pow_add]
    _ ≤ divNearest n (d * 2 ^ f.lastBit (n / d)) * 2 ^ f.lastBit (n / d) :=
        Nat.mul_le_mul_right _ kept

theorem Format.round?_eq_none_iff (hd : 0 < d) :
    f.round? n d = none ↔
      2 ^ f.limit * d ≤ n + 2 ^ (f.limit - f.precision - 1) * d := by
  have least := f.least_lt
  have precision := f.precision_pos
  have whole : 2 ^ (f.limit - 1) * 2 = 2 ^ f.limit := Nat.two_pow_pred_mul_two (by omega)
  have step : 2 ^ (f.limit - f.precision - 1) * 2 = 2 ^ (f.limit - f.precision) :=
    Nat.two_pow_pred_mul_two (by omega)
  by_cases beyond : 2 ^ f.limit ≤ n / d
  · have reached : 2 ^ f.limit * d ≤ n := (Nat.le_div_iff_mul_le hd).1 beyond
    exact iff_of_true (Format.round?_eq_none_of_le hd beyond) (Nat.le_add_right_of_le reached)
  · have bound := Format.lastBit_div_le (Nat.not_le.1 beyond)
    rw [round?_eq_none_iff_of_lastBit_lt hd (by omega)]
    by_cases last : 2 ^ (f.limit - 1) ≤ n / d
    · -- in the last power of two the step is the largest one
      have shift : f.lastBit (n / d) = f.limit - f.precision := by
        have positive : n / d ≠ 0 := ((Nat.two_pow_pos _).trans_le last).ne'
        have long := (Nat.le_log2 positive).2 last
        refine bound.antisymm ?_
        simp only [Format.lastBit]
        omega
      rw [shift, ← step, Nat.mul_comm d]
      constructor <;> intro h <;> linarith
    · -- before it both sides are out of reach
      have before : n < 2 ^ (f.limit - 1) * d := (Nat.div_lt_iff_lt_mul hd).1 (Nat.not_le.1 last)
      have small : 2 ^ f.lastBit (n / d) ≤ 2 ^ (f.limit - 1) :=
        Nat.pow_le_pow_right (by decide) (by omega)
      have half : 2 ^ (f.limit - f.precision - 1) ≤ 2 ^ (f.limit - 1) :=
        Nat.pow_le_pow_right (by decide) (by omega)
      have small' := Nat.mul_le_mul_right d small
      have half' := Nat.mul_le_mul_right d half
      rw [← whole, Nat.mul_comm d]
      constructor <;> intro h <;> linarith

end

end FilterQuery.Number
