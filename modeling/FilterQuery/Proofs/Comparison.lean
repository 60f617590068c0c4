import FilterQuery.Value
import Mathlib.Order.Compare

namespace FilterQuery

open Number (Double)
open Time (Instant)

namespace Time.Instant

instance : Std.TransCmp Instant.compare :=
  inferInstanceAs (Std.TransCmp (compareLex (compareOn Instant.seconds) (compareOn Instant.nanos)))

instance : Std.LawfulEqCmp Instant.compare where
  eq_of_compare {a b} h := by
    simp only [Instant.compare, Ordering.then_eq_eq, Std.LawfulEqOrd.compare_eq_iff_eq] at h
    obtain ⟨seconds, nanos⟩ := h
    cases a
    cases b
    cases seconds
    cases nanos
    rfl

end Time.Instant

namespace Number.Double

variable {a b c : Double}

theorem isSome_rank_iff : a.rank.isSome ↔ a ≠ .nan := by
  cases a with
  | nan => simp [rank]
  | infinite => exact iff_of_true rfl Double.noConfusion
  | finite => exact iff_of_true rfl Double.noConfusion

theorem compare?_eq_some_iff {o : Ordering} :
    a.compare? b = some o ↔
      ∃ x y, a.rank = some x ∧ b.rank = some y ∧ compare x y = o := by
  simp only [compare?]
  cases a.rank <;> cases b.rank <;> simp

theorem isSome_compare?_iff : (a.compare? b).isSome ↔ a ≠ .nan ∧ b ≠ .nan := by
  rw [← isSome_rank_iff, ← isSome_rank_iff]
  simp only [compare?]
  cases a.rank <;> cases b.rank <;> simp

theorem compare?_eq_eq_iff : a.compare? b = some .eq ↔ a.equal b := by
  simp only [compare?, equal]
  cases a.rank <;> cases b.rank <;> simp

theorem compare?_lt_trans (hab : a.compare? b = some .lt) (hbc : b.compare? c = some .lt) :
    a.compare? c = some .lt := by
  obtain ⟨x, y, ha, hb, hxy⟩ := compare?_eq_some_iff.1 hab
  obtain ⟨y', z, hb', hc, hyz⟩ := compare?_eq_some_iff.1 hbc
  cases hb.symm.trans hb'
  exact compare?_eq_some_iff.2 ⟨x, z, ha, hc, Std.TransCmp.lt_trans hxy hyz⟩

theorem compare?_congr_left (h : a.equal b) : a.compare? c = b.compare? c := by
  simp only [compare?, (equal_iff.1 h).2]

end Number.Double

namespace Value

instance : Std.TransCmp compareText :=
  inferInstanceAs (Std.TransOrd String)

instance : Std.LawfulEqCmp compareText :=
  inferInstanceAs (Std.LawfulEqOrd String)

inductive Comparable : Value → Value → Prop
  | boolean (a b : Bool) : Comparable (.boolean a) (.boolean b)
  | integer (a b : Int) : Comparable (.integer a) (.integer b)
  | double {a b : Double} (ha : a ≠ .nan) (hb : b ≠ .nan) : Comparable (.double a) (.double b)
  | string (a b : String) : Comparable (.string a) (.string b)
  | instant (a b : Instant) : Comparable (.instant a) (.instant b)
  | member (enum a b : String) : Comparable (.member enum a) (.member enum b)
  | objectId (a b : String) : Comparable (.objectId a) (.objectId b)

variable {a b c : Value}

theorem Comparable.symm (h : a.Comparable b) : b.Comparable a := by
  cases h <;> constructor <;> assumption

theorem isSome_compare?_iff : (a.compare? b).isSome ↔ a.Comparable b := by
  constructor
  · intro h
    unfold compare? at h
    split at h
    · exact .boolean _ _
    · exact .integer _ _
    · obtain ⟨ha, hb⟩ := Double.isSome_compare?_iff.1 h
      exact .double ha hb
    · exact .string _ _
    · exact .instant _ _
    · split at h
      · next same =>
          cases same
          exact .member _ _ _
      · cases h
    · exact .objectId _ _
    · cases h
  · intro h
    cases h with
    | double ha hb => exact Double.isSome_compare?_iff.2 ⟨ha, hb⟩
    | member => simp [compare?]
    | _ => rfl

theorem compare?_eq_none_iff : a.compare? b = none ↔ ¬a.Comparable b := by
  rw [← isSome_compare?_iff, Option.not_isSome_iff_eq_none]

theorem comparable_of_compare? {o : Ordering} (h : a.compare? b = some o) : a.Comparable b :=
  isSome_compare?_iff.1 (Option.isSome_of_eq_some h)

theorem comparable_of_equal (h : a.equal b) : a.Comparable b := by
  unfold equal at h
  split at h
  · exact .boolean _ _
  · exact .integer _ _
  · obtain ⟨ha, hb⟩ := Double.isSome_compare?_iff.1
      (Option.isSome_of_eq_some (Double.compare?_eq_eq_iff.2 h))
    exact .double ha hb
  · exact .string _ _
  · exact .instant _ _
  · rw [Bool.and_eq_true, beq_iff_eq] at h
    obtain ⟨rfl, -⟩ := h
    exact .member _ _ _
  · exact .objectId _ _
  · cases h

theorem compare?_eq_eq_iff : a.compare? b = some .eq ↔ a.equal b := by
  by_cases h : a.Comparable b
  · cases h with
    | double => exact Double.compare?_eq_eq_iff
    | _ => simp [compare?, equal, Std.LawfulEqCmp.compare_eq_iff_eq]
  · rw [compare?_eq_none_iff.2 h]
    exact iff_of_false nofun fun equal => h (comparable_of_equal equal)

theorem compare?_swap (a b : Value) : b.compare? a = (a.compare? b).map Ordering.swap := by
  by_cases h : a.Comparable b
  · cases h with
    | double => exact Double.compare?_swap _ _
    | member =>
        simp only [compare?, if_true, Option.map_some]
        exact congrArg some Std.OrientedCmp.eq_swap
    | _ => exact congrArg some Std.OrientedCmp.eq_swap
  · rw [compare?_eq_none_iff.2 h, compare?_eq_none_iff.2 (h ∘ Comparable.symm)]
    rfl

theorem compare?_lt_trans (hab : a.compare? b = some .lt) (hbc : b.compare? c = some .lt) :
    a.compare? c = some .lt := by
  cases comparable_of_compare? hab with
  | double =>
      cases comparable_of_compare? hbc
      exact Double.compare?_lt_trans hab hbc
  | _ =>
      cases comparable_of_compare? hbc
      simp only [compare?, if_true, Option.some.injEq] at hab hbc ⊢
      exact Std.TransCmp.lt_trans hab hbc

theorem compare?_congr_left (h : a.equal b) : a.compare? c = b.compare? c := by
  cases comparable_of_equal h with
  | double =>
      cases c with
      | double => exact Double.compare?_congr_left h
      | _ => rfl
  | _ =>
      simp only [equal, beq_iff_eq, Bool.and_eq_true, true_and] at h
      rw [h]

theorem compare?_congr_right (h : a.equal b) : c.compare? a = c.compare? b := by
  rw [compare?_swap a c, compare?_swap b c, compare?_congr_left h]

theorem compare?_lawful (a b c : Value) :
    (a.compare? b = some .eq ↔ a.equal b) ∧
    b.compare? a = (a.compare? b).map Ordering.swap ∧
    (a.compare? b = some .lt → b.compare? c = some .lt → a.compare? c = some .lt) ∧
    (a.equal b → a.compare? c = b.compare? c ∧ c.compare? a = c.compare? b) ∧
    ((a.compare? b).isSome ↔ a.Comparable b) :=
  ⟨compare?_eq_eq_iff, compare?_swap a b, compare?_lt_trans,
    fun h => ⟨compare?_congr_left h, compare?_congr_right h⟩, isSome_compare?_iff⟩

theorem compare?_lawful_zeros :
    let below := Value.double (.finite true (.smallest .double))
    let zero := Value.double (.finite false .zero)
    let negativeZero := Value.double (.finite true .zero)
    let above := Value.double (.finite false (.smallest .double))
    below.compare? zero = some .lt ∧ zero.compare? above = some .lt ∧
      below.compare? above = some .lt ∧ zero.equal negativeZero ∧
      zero.compare? above = negativeZero.compare? above := by
  intro below zero negativeZero above
  obtain ⟨-, -, trans, -, -⟩ := compare?_lawful below zero above
  obtain ⟨-, -, -, congr, -⟩ := compare?_lawful zero negativeZero above
  exact ⟨rfl, rfl, trans rfl rfl, rfl, (congr rfl).1⟩

end Value

end FilterQuery
