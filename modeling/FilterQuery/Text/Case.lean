namespace FilterQuery.Text

def lower (s : String) : String :=
  String.ofList (s.toList.map Char.toLower)

def sameLetters (a b : String) : Bool :=
  a.toList.map Char.toLower == b.toList.map Char.toLower

theorem sameLetters_iff {a b : String} :
    sameLetters a b ↔ a.toList.map Char.toLower = b.toList.map Char.toLower := by
  simp [sameLetters]

theorem sameLetters_refl (a : String) : sameLetters a a :=
  sameLetters_iff.2 rfl

theorem sameLetters_symm {a b : String} (h : sameLetters a b) : sameLetters b a :=
  sameLetters_iff.2 (sameLetters_iff.1 h).symm

theorem sameLetters_trans {a b c : String} (h : sameLetters a b) (k : sameLetters b c) :
    sameLetters a c :=
  sameLetters_iff.2 ((sameLetters_iff.1 h).trans (sameLetters_iff.1 k))

def isHexDigit (c : Char) : Bool :=
  c.isDigit || ('a' ≤ c && c ≤ 'f') || ('A' ≤ c && c ≤ 'F')

theorem toLower_mem_of_isHexDigit {c : Char} (h : isHexDigit c) :
    c.toLower ∈ "0123456789abcdef".toList := by
  have bound : c.toNat < 103 := by
    have ends : '9'.val.toNat < 103 ∧ 'f'.val.toNat < 103 ∧ 'F'.val.toNat < 103 := by decide
    simp only [isHexDigit, Char.isDigit, Bool.or_eq_true, Bool.and_eq_true, decide_eq_true_eq,
      Char.le_def, UInt32.le_iff_toNat_le] at h
    change c.val.toNat < 103
    omega
  have key : ∀ n < 103, isHexDigit (Char.ofNat n) →
      (Char.ofNat n).toLower ∈ "0123456789abcdef".toList := by decide
  have hc := key c.toNat bound
  rw [Char.ofNat_toNat] at hc
  exact hc h

end FilterQuery.Text
