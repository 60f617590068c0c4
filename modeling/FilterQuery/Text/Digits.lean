namespace FilterQuery.Text

def digitChar (n : Nat) : Char :=
  Char.ofNat (48 + n % 10)

def digitValue (c : Char) : Nat :=
  c.toNat - 48

def digits (n : Nat) : List Char :=
  if n < 10 then [digitChar n] else digits (n / 10) ++ [digitChar n]

def digitsValue (s : List Char) : Nat :=
  s.foldl (fun n c => 10 * n + digitValue c) 0

theorem digitsValue_append_singleton (s : List Char) (c : Char) :
    digitsValue (s ++ [c]) = 10 * digitsValue s + digitValue c := by
  simp [digitsValue]

theorem digitValue_digitChar (n : Nat) : digitValue (digitChar n) = n % 10 := by
  have key : ∀ k < 10, digitValue (Char.ofNat (48 + k)) = k := by decide
  exact key (n % 10) (Nat.mod_lt n (by omega))

theorem isDigit_digitChar (n : Nat) : (digitChar n).isDigit := by
  have key : ∀ k < 10, (Char.ofNat (48 + k)).isDigit := by decide
  exact key (n % 10) (Nat.mod_lt n (by omega))

theorem digitsValue_digits (n : Nat) : digitsValue (digits n) = n := by
  fun_induction digits n with
  | case1 n h => simp [digitsValue, digitValue_digitChar]; omega
  | case2 n h ih => rw [digitsValue_append_singleton, ih, digitValue_digitChar]; omega

theorem isDigit_of_mem_digits {n : Nat} {c : Char} (h : c ∈ digits n) : c.isDigit := by
  fun_induction digits n with
  | case1 n _ => simp at h; subst h; exact isDigit_digitChar n
  | case2 n _ ih =>
      simp at h
      rcases h with h | rfl
      · exact ih h
      · exact isDigit_digitChar n

theorem digits_ne_nil (n : Nat) : digits n ≠ [] := by
  rw [digits]
  split <;> simp

def padded (width n : Nat) : List Char :=
  List.replicate (width - (digits n).length) '0' ++ digits n

theorem digitsValue_zeros_append (count : Nat) (s : List Char) :
    digitsValue (List.replicate count '0' ++ s) = digitsValue s := by
  induction count with
  | zero => rfl
  | succ count ih => exact ih

theorem digitsValue_padded (width n : Nat) : digitsValue (padded width n) = n := by
  rw [padded, digitsValue_zeros_append, digitsValue_digits]

theorem isDigit_of_mem_padded {width n : Nat} {c : Char} (h : c ∈ padded width n) : c.isDigit := by
  rcases List.mem_append.1 h with h | h
  · rw [List.eq_of_mem_replicate h]
    rfl
  · exact isDigit_of_mem_digits h

end FilterQuery.Text
