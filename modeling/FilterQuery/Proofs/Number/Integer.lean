import FilterQuery.Number.Integer
import Mathlib.Data.List.Induction
import Mathlib.Data.Nat.Digits.Lemmas
import Mathlib.Tactic.Ring

namespace FilterQuery.Text

theorem digitsValue_eq_ofDigits (s : List Char) :
    digitsValue s = Nat.ofDigits 10 (s.reverse.map digitValue) := by
  induction s using List.reverseRecOn with
  | nil => rfl
  | append_singleton s c ih =>
      rw [digitsValue_append_singleton, ih, List.reverse_append, List.reverse_singleton,
        List.singleton_append, List.map_cons, Nat.ofDigits_cons]
      exact Nat.add_comm _ _

theorem digitsValue_append (s t : List Char) :
    digitsValue (s ++ t) = digitsValue s * 10 ^ t.length + digitsValue t := by
  simp only [digitsValue_eq_ofDigits, List.reverse_append, List.map_append, Nat.ofDigits_append,
    List.length_map, List.length_reverse]
  ring

theorem digitsValue_zeros (count : Nat) : digitsValue (List.replicate count '0') = 0 := by
  have zeros := digitsValue_zeros_append count []
  rwa [List.append_nil] at zeros

theorem digitValue_lt {c : Char} (h : c.isDigit) : digitValue c < 10 := by
  simp only [Char.isDigit, Bool.and_eq_true, decide_eq_true_eq, ge_iff_le,
    UInt32.le_iff_toNat_le] at h
  have high : c.toNat ≤ 57 := h.2
  simp only [digitValue]
  omega

theorem digitsValue_lt {s : List Char} (h : ∀ c ∈ s, c.isDigit) :
    digitsValue s < 10 ^ s.length := by
  have small : ∀ d ∈ s.reverse.map digitValue, d < 10 := by
    simpa using fun c hc => digitValue_lt (h c hc)
  have bound := Nat.ofDigits_lt_base_pow_length (by decide) small
  rwa [← digitsValue_eq_ofDigits, List.length_map, List.length_reverse] at bound

theorem length_digits_le {width n : Nat} (h : n < 10 ^ (width + 1)) :
    (digits n).length ≤ width + 1 := by
  induction width generalizing n with
  | zero =>
      rw [digits, if_pos (by simpa using h)]
      rfl
  | succ width ih =>
      rw [digits]
      split
      · simp
      · have fewer : n / 10 < 10 ^ (width + 1) := by
          rw [Nat.div_lt_iff_lt_mul (by decide), ← Nat.pow_succ]
          exact h
        simpa using ih fewer

theorem length_padded {width n : Nat} (h : n < 10 ^ (width + 1)) :
    (padded (width + 1) n).length = width + 1 := by
  have short := length_digits_le h
  rw [padded, List.length_append, List.length_replicate]
  omega

end FilterQuery.Text

namespace FilterQuery.Number

structure Numeral (s : List Char) (n : Nat) : Prop where
  ne_nil : s ≠ []
  isDigit : ∀ c ∈ s, c.isDigit
  value : n = Nat.ofDigits 10 (s.reverse.map Text.digitValue)

inductive IntegerLiteral : List Char → Int → Prop
  | unsigned {s : List Char} {n : Nat} (h : Numeral s n) : IntegerLiteral s n
  | plus {s : List Char} {n : Nat} (h : Numeral s n) : IntegerLiteral ('+' :: s) n
  | minus {s : List Char} {n : Nat} (h : Numeral s n) : IntegerLiteral ('-' :: s) (-n)

theorem Numeral.isDigit_head {c : Char} {s : List Char} {n : Nat} (h : Numeral (c :: s) n) :
    c.isDigit :=
  h.isDigit c List.mem_cons_self

theorem numeral_iff {s : List Char} {n : Nat} :
    Numeral s n ↔ s ≠ [] ∧ (∀ c ∈ s, c.isDigit) ∧ n = Text.digitsValue s := by
  rw [Text.digitsValue_eq_ofDigits]
  constructor
  · rintro ⟨hn, hd, hv⟩
    exact ⟨hn, hd, hv⟩
  · rintro ⟨hn, hd, hv⟩
    exact ⟨hn, hd, hv⟩

theorem numeral_digits (n : Nat) : Numeral (Text.digits n) n :=
  numeral_iff.2 ⟨Text.digits_ne_nil n, fun _ => Text.isDigit_of_mem_digits,
    (Text.digitsValue_digits n).symm⟩

theorem numeral_padded (width n : Nat) : Numeral (Text.padded width n) n := by
  refine numeral_iff.2 ⟨?_, fun _ => Text.isDigit_of_mem_padded, ?_⟩
  · exact List.append_ne_nil_of_right_ne_nil _ (Text.digits_ne_nil n)
  · exact (Text.digitsValue_padded width n).symm

section

variable {limit : Nat} {beyond : IntegerFault} {bits : Nat} {s : List Char} {n : Int}

theorem le_foldl_digits (n : Nat) (s : List Char) :
    n ≤ s.foldl (fun n c => 10 * n + Text.digitValue c) n := by
  induction s generalizing n with
  | nil => exact Nat.le_refl n
  | cons c rest ih =>
      have first : n ≤ 10 * n + Text.digitValue c := by omega
      exact first.trans (ih _)

theorem readMagnitude_of_le {n : Nat} (hd : ∀ c ∈ s, c.isDigit)
    (hle : s.foldl (fun n c => 10 * n + Text.digitValue c) n ≤ limit) :
    readMagnitude limit beyond n s =
      .ok (s.foldl (fun n c => 10 * n + Text.digitValue c) n) := by
  induction s generalizing n with
  | nil => rfl
  | cons c rest ih =>
      obtain ⟨digit, others⟩ := List.forall_mem_cons.1 hd
      have within : 10 * n + Text.digitValue c ≤ limit := (le_foldl_digits _ rest).trans hle
      simp only [readMagnitude, digit, within, if_true]
      exact ih others hle

theorem readMagnitude_eq_ok_iff {m : Nat} (hs : s ≠ []) :
    readMagnitude limit beyond 0 s = .ok m ↔ Numeral s m ∧ m ≤ limit := by
  constructor
  · intro h
    obtain ⟨hd, hv⟩ := readMagnitude_eq_ok h
    refine ⟨⟨hs, List.all_eq_true.1 hd, ?_⟩, readMagnitude_le (Nat.zero_le limit) h⟩
    rw [← Text.digitsValue_eq_ofDigits]
    exact hv
  · rintro ⟨⟨-, hd, hv⟩, hle⟩
    rw [← Text.digitsValue_eq_ofDigits] at hv
    subst hv
    exact readMagnitude_of_le hd hle

theorem map_readMagnitude_eq_ok_iff {f : Nat → Int} (hs : s ≠ []) :
    (readMagnitude limit beyond 0 s).map f = .ok n ↔ ∃ m, Numeral s m ∧ m ≤ limit ∧ f m = n := by
  constructor
  · intro h
    cases hm : readMagnitude limit beyond 0 s with
    | error fault =>
        rw [hm] at h
        cases h
    | ok m =>
        rw [hm] at h
        obtain ⟨numeral, hle⟩ := (readMagnitude_eq_ok_iff hs).1 hm
        exact ⟨m, numeral, hle, Except.ok.inj h⟩
  · rintro ⟨m, numeral, hle, rfl⟩
    rw [(readMagnitude_eq_ok_iff hs).2 ⟨numeral, hle⟩]
    rfl

theorem integerLiteral_minus_iff :
    IntegerLiteral ('-' :: s) n ↔ ∃ m : Nat, Numeral s m ∧ -(m : Int) = n := by
  constructor
  · rintro (h | h | h)
    · exact absurd h.isDigit_head (by decide)
    · exact ⟨_, h, rfl⟩
  · rintro ⟨m, h, rfl⟩
    exact .minus h

theorem integerLiteral_plus_iff :
    IntegerLiteral ('+' :: s) n ↔ ∃ m : Nat, Numeral s m ∧ (m : Int) = n := by
  constructor
  · rintro (h | h | h)
    · exact absurd h.isDigit_head (by decide)
    · exact ⟨_, h, rfl⟩
  · rintro ⟨m, h, rfl⟩
    exact .plus h

theorem integerLiteral_iff_of_unsigned (hp : ∀ rest, s ≠ '+' :: rest)
    (hm : ∀ rest, s ≠ '-' :: rest) :
    IntegerLiteral s n ↔ ∃ m : Nat, Numeral s m ∧ (m : Int) = n := by
  constructor
  · rintro (h | h | h)
    · exact ⟨_, h, rfl⟩
    · exact absurd rfl (hp _)
    · exact absurd rfl (hm _)
  · rintro ⟨m, h, rfl⟩
    exact .unsigned h

theorem map_cast_readMagnitude_eq_ok_iff (hs : s ≠ []) (hl : 0 < limit) :
    (readMagnitude (limit - 1) beyond 0 s).map Int.ofNat = .ok n ↔
      (∃ m : Nat, Numeral s m ∧ (m : Int) = n) ∧ -limit ≤ n ∧ n < limit := by
  rw [map_readMagnitude_eq_ok_iff hs]
  constructor
  · rintro ⟨m, hm, hle, rfl⟩
    exact ⟨⟨m, hm, rfl⟩, by simp only [Int.ofNat_eq_natCast]; omega⟩
  · rintro ⟨⟨m, hm, rfl⟩, -, hlt⟩
    exact ⟨m, hm, by omega, rfl⟩

theorem map_neg_readMagnitude_eq_ok_iff (hs : s ≠ []) (hl : 0 < limit) :
    (readMagnitude limit beyond 0 s).map (fun m => -(m : Int)) = .ok n ↔
      (∃ m : Nat, Numeral s m ∧ -(m : Int) = n) ∧ -limit ≤ n ∧ n < limit := by
  have pulled : (readMagnitude limit beyond 0 s).map (fun m => -(m : Int)) =
      (readMagnitude limit beyond 0 s).map fun m : Nat => -(m : Int) := by
    cases readMagnitude limit beyond 0 s <;> rfl
  rw [pulled, map_readMagnitude_eq_ok_iff hs]
  constructor
  · rintro ⟨m, hm, hle, rfl⟩
    exact ⟨⟨m, hm, rfl⟩, by omega⟩
  · rintro ⟨⟨m, hm, rfl⟩, hle, -⟩
    exact ⟨m, hm, by omega, rfl⟩

theorem readInteger_eq_ok_iff :
    readInteger bits s = .ok n ↔ IntegerLiteral s n ∧ -2 ^ bits ≤ n ∧ n < 2 ^ bits := by
  have positive : 0 < Nat.pow 2 bits := Nat.two_pow_pos bits
  have power : (2 : Int) ^ bits = (Nat.pow 2 bits : Nat) := by
    rw [Nat.pow_eq]
    exact (Nat.cast_pow 2 bits).symm
  have no_numeral (m : Nat) : ¬Numeral [] m := fun h => h.ne_nil rfl
  rw [power]
  unfold readInteger
  split
  · have unsigned := integerLiteral_iff_of_unsigned (s := []) (n := n) nofun nofun
    simp [unsigned, no_numeral]
  · simp [integerLiteral_plus_iff, no_numeral]
  · simp [integerLiteral_minus_iff, no_numeral]
  · next rest hs =>
      rw [integerLiteral_minus_iff]
      exact map_neg_readMagnitude_eq_ok_iff hs positive
  · next rest hs =>
      rw [integerLiteral_plus_iff]
      exact map_cast_readMagnitude_eq_ok_iff hs positive
  · next hs _ _ hm hp =>
      rw [integerLiteral_iff_of_unsigned hp hm]
      exact map_cast_readMagnitude_eq_ok_iff hs positive

theorem integerLiteral_writeInteger (n : Int) : IntegerLiteral (writeInteger n) n := by
  unfold writeInteger
  split
  · next hn =>
      have negated : -(n.natAbs : Int) = n := by omega
      have literal := IntegerLiteral.minus (numeral_digits n.natAbs)
      rwa [negated] at literal
  · next hn =>
      have same : (n.natAbs : Int) = n := by omega
      have literal := IntegerLiteral.unsigned (numeral_digits n.natAbs)
      rwa [same] at literal

end

end FilterQuery.Number
