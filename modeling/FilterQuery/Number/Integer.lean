import FilterQuery.Text.Digits

namespace FilterQuery.Number

inductive IntegerFault where
  | empty
  | invalidDigit
  | tooLarge
  | tooSmall
  deriving DecidableEq, Repr

def IntegerFault.message : IntegerFault → String
  | .empty => "cannot parse integer from empty string"
  | .invalidDigit => "invalid digit found in string"
  | .tooLarge => "number too large to fit in target type"
  | .tooSmall => "number too small to fit in target type"

def readMagnitude (limit : Nat) (beyond : IntegerFault) (n : Nat) :
    List Char → Except IntegerFault Nat
  | [] => .ok n
  | c :: rest =>
      if c.isDigit then
        let next := 10 * n + Text.digitValue c
        if next ≤ limit then readMagnitude limit beyond next rest else .error beyond
      else
        .error .invalidDigit

theorem readMagnitude_eq_ok {limit n m : Nat} {beyond : IntegerFault} {s : List Char}
    (h : readMagnitude limit beyond n s = .ok m) :
    s.all Char.isDigit ∧ m = s.foldl (fun n c => 10 * n + Text.digitValue c) n := by
  induction s generalizing n with
  | nil =>
      cases h
      simp
  | cons c rest ih =>
      simp only [readMagnitude] at h
      split at h
      · next hc =>
          split at h
          · obtain ⟨hd, hm⟩ := ih h
            exact ⟨by simp [hc, hd], hm⟩
          · cases h
      · cases h

theorem readMagnitude_le {limit n m : Nat} {beyond : IntegerFault} {s : List Char} (hn : n ≤ limit)
    (h : readMagnitude limit beyond n s = .ok m) : m ≤ limit := by
  induction s generalizing n with
  | nil =>
      cases h
      exact hn
  | cons c rest ih =>
      simp only [readMagnitude] at h
      split at h
      · split at h
        · next hle => exact ih hle h
        · cases h
      · cases h

def readInteger (bits : Nat) (s : List Char) : Except IntegerFault Int :=
  match s with
  | [] => .error .empty
  | ['+'] => .error .invalidDigit
  | ['-'] => .error .invalidDigit
  | '-' :: rest => (readMagnitude (Nat.pow 2 bits) .tooSmall 0 rest).map fun n => -(n : Int)
  | '+' :: rest => (readMagnitude (Nat.pow 2 bits - 1) .tooLarge 0 rest).map Int.ofNat
  | _ => (readMagnitude (Nat.pow 2 bits - 1) .tooLarge 0 s).map Int.ofNat

theorem readInteger_bounds {bits : Nat} {s : List Char} {n : Int}
    (h : readInteger bits s = .ok n) : -(Nat.pow 2 bits) ≤ n ∧ n < Nat.pow 2 bits := by
  have positive : 0 < Nat.pow 2 bits := Nat.two_pow_pos bits
  have below {beyond : IntegerFault} {s : List Char} {n : Int}
      (h : (readMagnitude (Nat.pow 2 bits - 1) beyond 0 s).map Int.ofNat = .ok n) :
      -(Nat.pow 2 bits) ≤ n ∧ n < Nat.pow 2 bits := by
    cases hm : readMagnitude (Nat.pow 2 bits - 1) beyond 0 s with
    | error fault =>
        rw [hm] at h
        cases h
    | ok m =>
        have hle := readMagnitude_le (Nat.zero_le _) hm
        rw [hm] at h
        cases h
        change -(Nat.pow 2 bits : Int) ≤ (m : Int) ∧ (m : Int) < Nat.pow 2 bits
        omega
  unfold readInteger at h
  split at h
  · cases h
  · cases h
  · cases h
  · next rest _ =>
      cases hm : readMagnitude (Nat.pow 2 bits) .tooSmall 0 rest with
      | error fault =>
          rw [hm] at h
          cases h
      | ok m =>
          have hle := readMagnitude_le (Nat.zero_le _) hm
          rw [hm] at h
          cases h
          change -(Nat.pow 2 bits : Int) ≤ -(m : Int) ∧ -(m : Int) < Nat.pow 2 bits
          omega
  · exact below h
  · exact below h

def writeInteger (n : Int) : List Char :=
  if n < 0 then '-' :: Text.digits n.natAbs else Text.digits n.natAbs

end FilterQuery.Number
