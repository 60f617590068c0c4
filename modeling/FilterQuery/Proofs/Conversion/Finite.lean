import FilterQuery.Conversion.Basic
import FilterQuery.Proofs.Number.Literal

namespace FilterQuery

namespace Number

theorem Format.double_overflow : Format.double.overflow = 2 ^ 1024 - 2 ^ 970 := by
  have unit : (2 : ℚ) ^ 1074 ≠ 0 := pow_ne_zero _ two_ne_zero
  refine (div_eq_iff unit).2 ?_
  rw [sub_mul, ← pow_add, ← pow_add]
  rfl

end Number

namespace Conversion

open Number (Double Signed IsNonFiniteWord DecimalText Format)

variable {types : CustomTypes} {offset : Int} {raw : String} {x : Double}

theorem convert_double_eq_ok_iff :
    convert types offset .double raw = .ok (.double x) ↔
      Number.readDouble .double raw.toList = .ok x := by
  simp only [convert, toDouble]
  split
  · next y hy => simp [hy]
  · next fault hf => simp [hf, refuse]

theorem convert_float_eq_ok_iff :
    convert types offset .float raw = .ok (.double x) ↔
      Number.readDouble .single raw.toList = .ok x ∧
        (x.isFinite ∨ Number.isNonFiniteLiteral raw.toList) := by
  simp only [convert, toFloat]
  split
  · next y hy =>
      split
      · next kept =>
          rw [Bool.or_eq_true] at kept
          simp only [hy, Except.ok.injEq, Value.double.injEq]
          constructor
          · rintro rfl
            exact ⟨rfl, kept⟩
          · exact And.left
      · next dropped =>
          rw [Bool.or_eq_true] at dropped
          simp only [refuse, hy, reduceCtorEq, false_iff, Except.ok.injEq]
          rintro ⟨rfl, kept⟩
          exact dropped kept
  · next fault hf => simp [hf, refuse]

theorem float_or_refused (types : CustomTypes) (offset : Int) (raw : String) :
    (∃ x, convert types offset .float raw = .ok (.double x)) ∨
      ∃ detail, convert types offset .float raw =
        .error (.argument raw "float" (some detail) none) := by
  simp only [convert, toFloat]
  split
  · split
    · exact .inl ⟨_, rfl⟩
    · exact .inr ⟨_, rfl⟩
  · exact .inr ⟨_, rfl⟩

theorem double_or_refused (types : CustomTypes) (offset : Int) (raw : String) :
    (∃ x, convert types offset .double raw = .ok (.double x)) ∨
      ∃ detail, convert types offset .double raw =
        .error (.argument raw "double" (some detail) none) := by
  simp only [convert, toDouble]
  split
  · exact .inl ⟨_, rfl⟩
  · exact .inr ⟨_, rfl⟩

theorem nonfinite_converted_iff (types : CustomTypes) (offset : Int) (raw : String) :
    ((∃ x, convert types offset .float raw = .ok (.double x) ∧ x.isFinite = false) ↔
      ∃ negative, Signed IsNonFiniteWord negative raw.toList) ∧
    ((∃ x, convert types offset .double raw = .ok (.double x) ∧ x.isFinite = false) ↔
      (∃ negative, Signed IsNonFiniteWord negative raw.toList) ∨
        ∃ d negative, Signed (DecimalText d) negative raw.toList ∧
          2 ^ 1024 - 2 ^ 970 ≤ d.value) ∧
    ((∃ x, convert types offset .float raw = .ok (.double x)) ∨
      ∃ detail, convert types offset .float raw =
        .error (.argument raw "float" (some detail) none)) ∧
    ((∃ x, convert types offset .double raw = .ok (.double x)) ∨
      ∃ detail, convert types offset .double raw =
        .error (.argument raw "double" (some detail) none)) := by
  have words : (∃ x, convert types offset .float raw = .ok (.double x) ∧ x.isFinite = false) ↔
      Number.isNonFiniteLiteral raw.toList := by
    simp only [convert_float_eq_ok_iff]
    constructor
    · rintro ⟨x, ⟨-, kept⟩, infinite⟩
      exact kept.resolve_left (by simp [infinite])
    · intro word
      obtain ⟨x, read, infinite⟩ := Format.readDouble_nonfinite_iff.2
        (.inl (Number.isNonFiniteLiteral_iff.1 word))
      exact ⟨x, ⟨read, .inr word⟩, infinite⟩
  refine ⟨?_, ?_, float_or_refused types offset raw, double_or_refused types offset raw⟩
  · rw [words, Number.isNonFiniteLiteral_iff]
  · simp only [convert_double_eq_ok_iff, Format.readDouble_nonfinite_iff,
      Format.double_overflow]

theorem huge_decimal_converted_to_infinity :
    convert [] 0 .double "1e400" = .ok (.double (.infinite false)) ∧
      ¬∃ negative, Signed IsNonFiniteWord negative "1e400".toList := by
  refine ⟨rfl, ?_⟩
  rw [← Number.isNonFiniteLiteral_iff]
  exact Bool.false_ne_true

end Conversion

end FilterQuery
