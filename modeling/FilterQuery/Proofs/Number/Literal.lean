import FilterQuery.Number.Literal
import FilterQuery.Proofs.Lists
import FilterQuery.Proofs.Number.Integer
import FilterQuery.Proofs.Number.Rounding
import Mathlib.Algebra.Order.Field.Power
import Mathlib.Data.Rat.Cast.Order
import Mathlib.Tactic.NormNum

namespace FilterQuery.Number

inductive Signed (P : List Char → Prop) : Bool → List Char → Prop
  | plain {s : List Char} (h : P s) : Signed P false s
  | plus {s : List Char} (h : P s) : Signed P false ('+' :: s)
  | minus {s : List Char} (h : P s) : Signed P true ('-' :: s)

inductive Point (fraction : List Char) : List Char → Prop
  | none (h : fraction = []) : Point fraction []
  | some : Point fraction ('.' :: fraction)

inductive ExponentText : Int → List Char → Prop
  | none : ExponentText 0 []
  | some {c : Char} {e : Int} {s : List Char} (hc : c = 'e' ∨ c = 'E') (h : IntegerLiteral s e) :
      ExponentText e (c :: s)

inductive DecimalText : Decimal → List Char → Prop
  | mk {whole fraction point exponent : List Char} {e : Int} (hw : ∀ c ∈ whole, c.isDigit)
      (hf : ∀ c ∈ fraction, c.isDigit) (hn : whole ++ fraction ≠ []) (hp : Point fraction point)
      (he : ExponentText e exponent) :
      DecimalText ⟨whole ++ fraction, e - fraction.length⟩ (whole ++ (point ++ exponent))

def Decimal.value (d : Decimal) : ℚ :=
  Text.digitsValue d.digits * 10 ^ d.exponent

def Format.overflow (f : Format) : ℚ :=
  (2 ^ f.limit - 2 ^ (f.limit - f.precision - 1)) / 2 ^ 1074

def IsNonFiniteWord (s : List Char) : Prop :=
  s.map Char.toLower ∈ ["inf".toList, "infinity".toList, "nan".toList]

section

variable {P : List Char → Prop} {negative : Bool} {s : List Char} {e : Int} {d : Decimal}

theorem signed_iff (plus : ∀ s, ¬P ('+' :: s)) (minus : ∀ s, ¬P ('-' :: s)) :
    Signed P negative s ↔ (takeSign s).1 = negative ∧ P (takeSign s).2 := by
  constructor
  · rintro (h | h | h)
    · unfold takeSign
      split
      · exact absurd h (minus _)
      · exact absurd h (plus _)
      · exact ⟨rfl, h⟩
    · exact ⟨rfl, h⟩
    · exact ⟨rfl, h⟩
  · rintro ⟨rfl, h⟩
    unfold takeSign at h ⊢
    split at h
    · exact .minus h
    · exact .plus h
    · exact .plain h

theorem integerLiteral_iff_takeSign :
    IntegerLiteral s e ↔ ∃ m : Nat, Numeral (takeSign s).2 m ∧
      (if (takeSign s).1 then -(m : Int) else m) = e := by
  unfold takeSign
  split
  · exact integerLiteral_minus_iff
  · exact integerLiteral_plus_iff
  · next hm hp => exact integerLiteral_iff_of_unsigned hp hm

theorem readExponent_eq_some_iff : readExponent s = some e ↔ ExponentText e s := by
  cases s with
  | nil =>
      constructor
      · rintro ⟨⟩
        exact .none
      · rintro ⟨⟩
        rfl
  | cons c s =>
      have text : ExponentText e (c :: s) ↔ (c = 'e' ∨ c = 'E') ∧ IntegerLiteral s e := by
        constructor
        · rintro (_ | ⟨hc, h⟩)
          exact ⟨hc, h⟩
        · rintro ⟨hc, h⟩
          exact .some hc h
      rw [text, integerLiteral_iff_takeSign]
      simp only [readExponent, numeral_iff, Option.ite_none_right_eq_some, Option.some.injEq,
        Bool.and_eq_true, Bool.or_eq_true, beq_iff_eq, Bool.not_eq_true', List.isEmpty_eq_false_iff,
        List.all_eq_true, and_assoc]
      constructor
      · rintro ⟨hc, hn, hd, rfl⟩
        exact ⟨hc, _, hn, hd, rfl, rfl⟩
      · rintro ⟨hc, m, hn, hd, rfl, rfl⟩
        exact ⟨hc, hn, hd, rfl⟩

theorem ExponentText.head (h : ExponentText e s) : ∀ c ∈ s.head?, c = 'e' ∨ c = 'E' := by
  cases h with
  | none => rintro c ⟨⟩
  | some hc =>
      rintro c ⟨⟩
      exact hc

theorem ExponentText.not_isDigit_head (h : ExponentText e s) :
    ∀ c ∈ s.head?, c.isDigit = false := by
  intro c hc
  rcases h.head c hc with rfl | rfl <;> rfl

theorem readDecimal_eq_some (h : readDecimal s = some d) : DecimalText d s := by
  have digits (s : List Char) : ∀ c ∈ s.takeWhile Char.isDigit, c.isDigit := fun c =>
    List.mem_takeWhile_imp
  have cut := List.takeWhile_append_dropWhile (p := Char.isDigit) (l := s)
  simp only [readDecimal] at h
  split at h
  · next rest hr =>
      simp only [Bool.and_eq_true, List.isEmpty_iff, Option.ite_none_left_eq_some,
        Option.map_eq_some_iff, readExponent_eq_some_iff] at h
      obtain ⟨hn, e, he, rfl⟩ := h
      rw [hr] at cut
      have written := DecimalText.mk (digits s) (digits rest) ?_ .some he
      · rw [List.cons_append, List.takeWhile_append_dropWhile, cut] at written
        exact written
      · rwa [Ne, List.append_eq_nil_iff]
  · simp only [Bool.and_eq_true, List.isEmpty_iff, Option.ite_none_left_eq_some,
      Option.map_eq_some_iff, readExponent_eq_some_iff] at h
    obtain ⟨hn, e, he, rfl⟩ := h
    have written := DecimalText.mk (digits s) (List.forall_mem_nil _) ?_ (.none rfl) he
    · rwa [List.nil_append, cut] at written
    · simpa using hn

theorem readDecimal_of_decimalText (h : DecimalText d s) : readDecimal s = some d := by
  obtain ⟨hw, hf, hn, hp, he⟩ := h
  next whole fraction point exponent e =>
    have read := readExponent_eq_some_iff.2 he
    rw [Ne, List.append_eq_nil_iff, ← List.isEmpty_iff, ← List.isEmpty_iff,
      ← Bool.and_eq_true] at hn
    cases hp with
    | none hf =>
        subst hf
        obtain ⟨taken, left⟩ := takeWhile_append_of_ends hw he.not_isDigit_head
        simp only [List.nil_append, readDecimal, taken, left]
        split
        · rcases he.head '.' rfl with h | h <;> cases h
        · simp only [if_neg hn, read, Option.map_some]
    | some =>
        have mark : ∀ c ∈ ('.' :: fraction ++ exponent).head?, c.isDigit = false := by
          rintro c ⟨⟩
          rfl
        obtain ⟨taken, left⟩ := takeWhile_append_of_ends hw mark
        obtain ⟨taken', left'⟩ := takeWhile_append_of_ends hf he.not_isDigit_head
        rw [List.cons_append] at taken left
        simp only [readDecimal, List.cons_append, taken, left, taken', left', if_neg hn, read,
          Option.map_some]

theorem readDecimal_eq_some_iff : readDecimal s = some d ↔ DecimalText d s :=
  ⟨readDecimal_eq_some, readDecimal_of_decimalText⟩

theorem isNonFiniteWord_iff : IsNonFiniteWord s ↔ isInfinityWord s ∨ isNanWord s := by
  simp [IsNonFiniteWord, isInfinityWord, isNanWord, or_assoc]

theorem isNonFiniteLiteral_iff :
    isNonFiniteLiteral s ↔ ∃ negative, Signed IsNonFiniteWord negative s := by
  have plus (s : List Char) : ¬IsNonFiniteWord ('+' :: s) := by simp [IsNonFiniteWord]
  have minus (s : List Char) : ¬IsNonFiniteWord ('-' :: s) := by simp [IsNonFiniteWord]
  simp [signed_iff plus minus, isNonFiniteWord_iff, isNonFiniteLiteral]

theorem DecimalText.not_sign {c : Char} (hc : c = '+' ∨ c = '-') : ¬DecimalText d (c :: s) := by
  generalize ht : c :: s = t
  rintro ⟨hw, -, hn, hp, -⟩
  next whole fraction point exponent e =>
    cases whole with
    | nil =>
        cases hp with
        | none hf => exact hn hf
        | some =>
            obtain ⟨rfl, -⟩ := List.cons.inj ht
            rcases hc with h | h <;> cases h
    | cons w whole =>
        obtain ⟨rfl, -⟩ := List.cons.inj ht
        have digit := hw c List.mem_cons_self
        rcases hc with rfl | rfl <;> cases digit

theorem signed_decimalText_iff :
    Signed (DecimalText d) negative s ↔
      (takeSign s).1 = negative ∧ readDecimal (takeSign s).2 = some d := by
  rw [readDecimal_eq_some_iff]
  exact signed_iff (fun _ => DecimalText.not_sign (.inl rfl))
    fun _ => DecimalText.not_sign (.inr rfl)

end

section

variable {f : Format} {d : Decimal} {n m : Nat}

theorem Format.round?_eq_none_iff_overflow (hm : 0 < m) :
    f.round? (n * 2 ^ 1074) m = none ↔ f.overflow ≤ (n : ℚ) / m := by
  have positive : (0 : ℚ) < m := Nat.cast_pos.2 hm
  have unit : (0 : ℚ) < 2 ^ 1074 := pow_pos two_pos _
  rw [Format.round?_eq_none_iff hm, ← Nat.cast_le (α := ℚ), overflow,
    div_le_div_iff₀ unit positive, sub_mul, sub_le_iff_le_add]
  simp only [Nat.cast_add, Nat.cast_mul, Nat.cast_pow, Nat.cast_ofNat]

theorem Format.one_le_overflow (f : Format) : 1 ≤ f.overflow := by
  have low := f.lt_limit
  have precision := f.precision_pos
  have unit : (0 : ℚ) < 2 ^ 1074 := pow_pos two_pos _
  have step : (2 : ℚ) ^ (f.limit - f.precision - 1) ≤ 2 ^ (f.limit - 1) :=
    pow_le_pow_right₀ one_le_two (by omega)
  have least : (2 : ℚ) ^ 1074 ≤ 2 ^ (f.limit - 1) := pow_le_pow_right₀ one_le_two (by omega)
  have whole : (2 : ℚ) ^ f.limit = 2 ^ (f.limit - 1) * 2 := by
    rw [← pow_succ, Nat.sub_add_cancel (by omega)]
  rw [overflow, le_div_iff₀ unit, one_mul, whole, mul_two, le_sub_iff_add_le]
  exact add_le_add least step

theorem Format.overflow_le (f : Format) : f.overflow ≤ 10 ^ 311 := by
  have unit : (0 : ℚ) < 2 ^ 1074 := pow_pos two_pos _
  have step : (0 : ℚ) < 2 ^ (f.limit - f.precision - 1) := pow_pos two_pos _
  have cut : 2 ^ 1024 ≤ 10 ^ 311 := by decide +kernel
  rw [overflow, div_le_iff₀ unit]
  calc (2 : ℚ) ^ f.limit - 2 ^ (f.limit - f.precision - 1)
    _ ≤ 2 ^ f.limit := sub_le_self _ step.le
    _ ≤ 2 ^ (1024 + 1074) := pow_le_pow_right₀ one_le_two f.limit_le
    _ = 2 ^ 1024 * 2 ^ 1074 := pow_add 2 1024 1074
    _ ≤ 10 ^ 311 * 2 ^ 1074 := mul_le_mul_of_nonneg_right (by exact_mod_cast cut) unit.le

theorem digitsValue_dropZeros (s : List Char) :
    Text.digitsValue (s.dropWhile (· == '0')) = Text.digitsValue s := by
  induction s with
  | nil => rfl
  | cons c s ih =>
      rw [List.dropWhile_cons]
      split
      · next hc =>
          rw [ih, beq_iff_eq.1 hc]
          rfl
      · rfl

theorem le_digitsValue_of_head {c : Char} {rest : List Char} (hc : c.isDigit) (zero : c ≠ '0') :
    10 ^ rest.length ≤ Text.digitsValue (c :: rest) := by
  have lead : 1 ≤ Text.digitValue c := by
    have other : c.toNat ≠ 48 := fun h => zero (Char.toNat_inj.1 h)
    simp only [Char.isDigit, Bool.and_eq_true, decide_eq_true_eq, ge_iff_le,
      UInt32.le_iff_toNat_le] at hc
    have low : 48 ≤ c.toNat := hc.1
    simp only [Text.digitValue]
    omega
  have first : Text.digitsValue [c] = Text.digitValue c := by simp [Text.digitsValue]
  calc 10 ^ rest.length
    _ ≤ Text.digitValue c * 10 ^ rest.length := Nat.le_mul_of_pos_left _ lead
    _ ≤ Text.digitValue c * 10 ^ rest.length + Text.digitsValue rest := Nat.le_add_right _ _
    _ = Text.digitsValue (c :: rest) := by
        rw [← first, ← Text.digitsValue_append, List.singleton_append]

theorem Decimal.value_bounds {c : Char} {rest : List Char} (hd : ∀ c ∈ d.digits, c.isDigit)
    (h : d.digits.dropWhile (· == '0') = c :: rest) :
    (10 : ℚ) ^ (d.exponent + rest.length) ≤ d.value ∧
      d.value < 10 ^ (d.exponent + (rest.length + 1 : Nat)) := by
  have left : ∀ x ∈ c :: rest, x.isDigit := fun x hx =>
    hd x ((List.dropWhile_sublist _).subset (h ▸ hx))
  have zero : c ≠ '0' := by
    rintro rfl
    have stops := List.head?_dropWhile_not (· == '0') d.digits
    rw [h] at stops
    simp at stops
  have low : (10 : ℚ) ^ rest.length ≤ Text.digitsValue (c :: rest) := by
    exact_mod_cast le_digitsValue_of_head (left c List.mem_cons_self) zero
  have high : (Text.digitsValue (c :: rest) : ℚ) < 10 ^ (rest.length + 1) := by
    exact_mod_cast Text.digitsValue_lt left
  have value : d.value = Text.digitsValue (c :: rest) * 10 ^ d.exponent := by
    rw [Decimal.value, ← digitsValue_dropZeros, h]
  have parts (k : Nat) : (10 : ℚ) ^ (d.exponent + k) = 10 ^ k * 10 ^ d.exponent := by
    rw [zpow_add₀ (by norm_num), zpow_natCast, mul_comm]
  have power : (0 : ℚ) < 10 ^ d.exponent := zpow_pos (by norm_num) _
  rw [value, parts, parts]
  exact ⟨mul_le_mul_of_nonneg_right low power.le, mul_lt_mul_of_pos_right high power⟩

theorem Format.decimal_round?_eq_none_iff (hd : ∀ c ∈ d.digits, c.isDigit) :
    d.round? f = none ↔ f.overflow ≤ d.value := by
  have one := f.one_le_overflow
  have value : d.value =
      Text.digitsValue (d.digits.dropWhile (· == '0')) * 10 ^ d.exponent := by
    rw [Decimal.value, digitsValue_dropZeros]
  simp only [Decimal.round?, List.isEmpty_iff]
  split_ifs with empty above below
  · rw [empty] at value
    have zero : d.value = 0 := by
      rw [value]
      simp [Text.digitsValue]
    exact iff_of_false not_false (not_le.2 (zero ▸ one_pos.trans_le one))
  · obtain ⟨c, rest, lead⟩ := List.exists_cons_of_ne_nil empty
    rw [lead, List.length_cons] at above
    refine iff_of_true rfl ?_
    calc f.overflow
      _ ≤ 10 ^ (311 : Int) := f.overflow_le
      _ ≤ 10 ^ (d.exponent + rest.length) := zpow_le_zpow_right₀ (by norm_num) (by omega)
      _ ≤ d.value := (Decimal.value_bounds hd lead).1
  · obtain ⟨c, rest, lead⟩ := List.exists_cons_of_ne_nil empty
    rw [lead, List.length_cons] at below
    refine iff_of_false not_false (not_le.2 ?_)
    calc d.value
      _ < 10 ^ (d.exponent + (rest.length + 1 : Nat)) := (Decimal.value_bounds hd lead).2
      _ ≤ 10 ^ (0 : Int) := zpow_le_zpow_right₀ (by norm_num) (by omega)
      _ = 1 := zpow_zero _
      _ ≤ f.overflow := one
  · rw [value]
    generalize Text.digitsValue (d.digits.dropWhile (· == '0')) = n
    cases d.exponent with
    | ofNat e =>
        have whole : f.round? (n * 10 ^ e * 2 ^ 1074) 1 = none ↔ _ :=
          Format.round?_eq_none_iff_overflow one_pos
        rw [Nat.mul_right_comm] at whole
        simp only [Nat.pow_eq, whole]
        simp
    | negSucc e =>
        have positive : 0 < 10 ^ (e + 1) := Nat.pow_pos (by decide)
        have divided : f.round? (n * 2 ^ 1074) (10 ^ (e + 1)) = none ↔ _ :=
          Format.round?_eq_none_iff_overflow positive
        simp only [Nat.pow_eq, divided, zpow_negSucc, ← div_eq_mul_inv, Nat.cast_pow,
          Nat.cast_ofNat]

theorem DecimalText.isDigit {s : List Char} (h : DecimalText d s) : ∀ c ∈ d.digits, c.isDigit := by
  obtain ⟨hw, hf, -, -, -⟩ := h
  exact List.forall_mem_append.2 ⟨hw, hf⟩

theorem Format.toDouble_isFinite_iff {negative : Bool}
    (hd : ∀ c ∈ d.digits, c.isDigit) :
    (d.toDouble f negative).isFinite = false ↔ f.overflow ≤ d.value := by
  rw [← Format.decimal_round?_eq_none_iff hd, Decimal.toDouble]
  cases d.round? f <;> simp [Double.isFinite]

theorem Format.readDouble_nonfinite_iff {s : List Char} :
    (∃ x, readDouble f s = .ok x ∧ x.isFinite = false) ↔
      (∃ negative, Signed IsNonFiniteWord negative s) ∨
        ∃ d negative, Signed (DecimalText d) negative s ∧ f.overflow ≤ d.value := by
  have beyond {d : Decimal} (read : readDecimal (takeSign s).2 = some d) :
      (d.toDouble f (takeSign s).1).isFinite = false ↔ f.overflow ≤ d.value :=
    Format.toDouble_isFinite_iff (readDecimal_eq_some_iff.1 read).isDigit
  simp only [← isNonFiniteLiteral_iff, signed_decimalText_iff]
  cases s with
  | nil => simp [readDouble, isNonFiniteLiteral, takeSign, isInfinityWord, isNanWord, readDecimal]
  | cons c s =>
      simp only [readDouble, List.isEmpty_cons, Bool.false_eq_true, if_false, isNonFiniteLiteral,
        Bool.or_eq_true]
      split
      · next nan =>
          exact iff_of_true ⟨.nan, rfl, rfl⟩ (.inl (.inr nan))
      · next number =>
          split
          · next infinity =>
              exact iff_of_true ⟨_, rfl, rfl⟩ (.inl (.inl infinity))
          · next finite =>
              simp only [number, finite, or_self]
              cases read : readDecimal (takeSign (c :: s)).2 with
              | none => simp
              | some d => simp [beyond read]

end

end FilterQuery.Number
