import FilterQuery.Proofs.Lists
import FilterQuery.Proofs.Number.Integer
import FilterQuery.Time.Reader

namespace FilterQuery

namespace Text

theorem isBlank_eq_false_of_isDigit {c : Char} (h : c.isDigit) : isBlank c = false := by
  simp only [Char.isDigit, Bool.and_eq_true, decide_eq_true_eq, ge_iff_le,
    UInt32.le_iff_toNat_le] at h
  have low : 48 ≤ c.toNat := h.1
  have high : c.toNat ≤ 57 := h.2
  simp only [isBlank, Bool.or_eq_false_iff, Bool.and_eq_false_iff, decide_eq_false_iff_not,
    beq_eq_false_iff_ne]
  omega

theorem dropBlanks_append {blanks s : List Char} (hb : ∀ c ∈ blanks, isBlank c)
    (hs : ∀ c ∈ s.head?, isBlank c = false) : dropBlanks (blanks ++ s) = s :=
  (takeWhile_append_of_ends hb hs).2

theorem dropBlanks_append_cons {blanks s : List Char} {c : Char} (hb : ∀ c ∈ blanks, isBlank c)
    (hc : isBlank c = false) : dropBlanks (blanks ++ c :: s) = c :: s := by
  apply dropBlanks_append hb
  rintro d ⟨⟩
  exact hc

theorem exists_blanks (s : List Char) :
    ∃ blanks, s = blanks ++ dropBlanks s ∧ ∀ c ∈ blanks, isBlank c :=
  ⟨s.takeWhile isBlank, (takeWhile_append_dropBlanks s).symm, fun _ => List.mem_takeWhile_imp⟩

end Text

namespace Time

open Number (Numeral numeral_iff)

def Stops (goesOn : Char → Bool) (rest : List Char) : Prop :=
  ∀ c ∈ rest.head?, goesOn c = false

theorem stops_nil (goesOn : Char → Bool) : Stops goesOn [] := by
  rintro c ⟨⟩

theorem stops_never (rest : List Char) : Stops (fun _ => false) rest :=
  fun _ _ => rfl

theorem stops_cons_iff {goesOn : Char → Bool} {c : Char} {rest : List Char} :
    Stops goesOn (c :: rest) ↔ goesOn c = false := by
  simp [Stops]

structure Takes {α : Type} (read : List Char → Option (α × List Char))
    (W : α → List Char → Prop) (goesOn : Char → Bool) : Prop where
  sound : ∀ {s rest : List Char} {a : α}, read s = some (a, rest) → ∃ p, s = p ++ rest ∧ W a p
  complete : ∀ {p rest : List Char} {a : α}, W a p → Stops goesOn rest →
    read (p ++ rest) = some (a, rest)

theorem Takes.map {α β : Type} {read : List Char → Option (α × List Char)}
    {W : α → List Char → Prop} {goesOn : Char → Bool} (h : Takes read W goesOn) (g : α → β) :
    Takes (fun s => (read s).map fun (a, rest) => (g a, rest)) (fun b p => ∃ a, b = g a ∧ W a p)
      goesOn where
  sound := by
    intro s rest b hb
    obtain ⟨⟨a, rest⟩, ha, he⟩ := Option.map_eq_some_iff.1 hb
    cases he
    obtain ⟨p, rfl, hp⟩ := h.sound ha
    exact ⟨p, rfl, a, rfl, hp⟩
  complete := by
    rintro p rest b ⟨a, rfl, hp⟩ hr
    simp only [h.complete hp hr, Option.map_some]

structure Full (width n : Nat) (p : List Char) : Prop where
  numeral : Numeral p n
  length : p.length = width

inductive Short (width n : Nat) : List Char → Prop
  | mk {blanks digits : List Char} (hb : ∀ c ∈ blanks, Text.isBlank c) (hd : Numeral digits n)
      (hw : digits.length ≤ width) : Short width n (blanks ++ digits)

inductive SignedYear : Int → List Char → Prop
  | short {n : Nat} {p : List Char} (h : Short 4 n p) : SignedYear n p
  | plus {n : Nat} {blanks digits : List Char} (hb : ∀ c ∈ blanks, Text.isBlank c)
      (hd : Numeral digits n) : SignedYear n (blanks ++ '+' :: digits)
  | minus {n : Nat} {blanks digits : List Char} (hb : ∀ c ∈ blanks, Text.isBlank c)
      (hd : Numeral digits n) : SignedYear (-n) (blanks ++ '-' :: digits)

inductive Fraction : Nat → List Char → Prop
  | none : Fraction 0 []
  | some {n : Nat} {digits : List Char} (h : Numeral digits n) :
      Fraction (n * 10 ^ 9 / 10 ^ digits.length) ('.' :: digits)

section

variable {width n : Nat} {p digits blanks : List Char}

theorem isDigit_head_append (h : Numeral digits n) (rest : List Char) :
    ∀ c ∈ (digits ++ rest).head?, c.isDigit := by
  obtain ⟨c, digits, rfl⟩ := List.exists_cons_of_ne_nil h.ne_nil
  rintro d ⟨⟩
  exact h.isDigit_head

theorem dropBlanks_numeral (hb : ∀ c ∈ blanks, Text.isBlank c) (h : Numeral digits n)
    (rest : List Char) : Text.dropBlanks (blanks ++ digits ++ rest) = digits ++ rest := by
  rw [List.append_assoc]
  exact Text.dropBlanks_append hb fun c hc =>
    Text.isBlank_eq_false_of_isDigit (isDigit_head_append h rest c hc)

theorem digits_append {rest : List Char} (h : ∀ c ∈ digits, c.isDigit)
    (hr : Stops Char.isDigit rest) :
    (digits ++ rest).takeWhile Char.isDigit = digits ∧
      (digits ++ rest).dropWhile Char.isDigit = rest :=
  takeWhile_append_of_ends h hr

theorem takes_readDigits : Takes readDigits (fun n p => Numeral p n) Char.isDigit where
  sound := by
    intro s rest n h
    simp only [readDigits, List.isEmpty_iff, Option.ite_none_left_eq_some, Option.some.injEq,
      Prod.mk.injEq] at h
    obtain ⟨hn, rfl, rfl⟩ := h
    refine ⟨_, List.takeWhile_append_dropWhile.symm, numeral_iff.2 ⟨hn, ?_, rfl⟩⟩
    exact fun c => List.mem_takeWhile_imp
  complete := by
    intro p rest n h hr
    obtain ⟨hn, hd, rfl⟩ := numeral_iff.1 h
    obtain ⟨taken, left⟩ := digits_append hd hr
    simp only [readDigits, taken, left, List.isEmpty_iff, if_neg hn]

theorem takes_readFixed (hw : 0 < width) (goesOn : Char → Bool) :
    Takes (readFixed width) (Full width) goesOn where
  sound := by
    intro s rest n h
    simp only [readFixed, Option.ite_none_right_eq_some, Option.some.injEq, Prod.mk.injEq] at h
    obtain ⟨⟨hl, hd⟩, rfl, rfl⟩ := h
    refine ⟨_, (List.take_append_drop width s).symm, numeral_iff.2 ⟨?_, ?_, rfl⟩, hl⟩
    · exact List.ne_nil_of_length_pos (hw.trans_eq hl.symm)
    · exact List.all_eq_true.1 hd
  complete := by
    rintro p rest n ⟨h, rfl⟩ -
    obtain ⟨-, hd, rfl⟩ := numeral_iff.1 h
    simp [readFixed, List.all_eq_true.2 hd]

theorem full_padded (h : n < 10 ^ (width + 1)) : Full (width + 1) n (Text.padded (width + 1) n) :=
  ⟨Number.numeral_padded _ _, Text.length_padded h⟩

theorem Full.short (h : Full width n p) : Short width n p :=
  .mk (List.forall_mem_nil _) h.numeral h.length.le

theorem Short.indent (hb : ∀ c ∈ blanks, Text.isBlank c) (h : Short width n p) :
    Short width n (blanks ++ p) := by
  obtain ⟨hb', hd, hw⟩ := h
  rw [← List.append_assoc]
  exact .mk (List.forall_mem_append.2 ⟨hb, hb'⟩) hd hw

theorem takes_readShort : Takes (readShort width) (Short width) Char.isDigit where
  sound := by
    intro s rest n h
    obtain ⟨blanks, hs, hb⟩ := Text.exists_blanks s
    simp only [readShort] at h
    generalize Text.dropBlanks s = t at hs h
    generalize hf : (t.take width).takeWhile Char.isDigit = field at h
    simp only [List.isEmpty_iff, Option.ite_none_left_eq_some, Option.some.injEq,
      Prod.mk.injEq] at h
    obtain ⟨hn, rfl, rfl⟩ := h
    have first : field <+: t.take width := hf ▸ List.takeWhile_prefix _
    have digit : ∀ c ∈ field, c.isDigit := by
      rw [← hf]
      exact fun c => List.mem_takeWhile_imp
    refine ⟨blanks ++ field, ?_, .mk hb (numeral_iff.2 ⟨hn, digit, rfl⟩) ?_⟩
    · rw [List.append_assoc, List.prefix_iff_eq_append.1 (first.trans (List.take_prefix _ _)), hs]
    · exact first.length_le.trans (List.length_take_le _ _)
  complete := by
    rintro p rest n ⟨hb, hd, hw⟩ hr
    next blanks digits =>
      obtain ⟨hn, digit, rfl⟩ := numeral_iff.1 hd
      have field : ((digits ++ rest).take width).takeWhile Char.isDigit = digits := by
        rw [List.take_append, List.take_of_length_le hw]
        refine (digits_append digit fun c hc => hr c ?_).1
        rw [List.head?_take] at hc
        exact (Option.mem_ite_none_left.1 hc).2
      simp only [readShort, dropBlanks_numeral hb hd rest, field, List.isEmpty_iff, if_neg hn,
        List.drop_left]

theorem takes_readSignedYear : Takes readSignedYear SignedYear Char.isDigit where
  sound := by
    intro s rest year h
    obtain ⟨blanks, hs, hb⟩ := Text.exists_blanks s
    unfold readSignedYear at h
    split at h
    · next after ha =>
        obtain ⟨digits, rfl, n, rfl, hd⟩ := (takes_readDigits.map fun n => -(n : Int)).sound h
        rw [ha] at hs
        exact ⟨blanks ++ '-' :: digits, by simpa using hs, .minus hb hd⟩
    · next after ha =>
        obtain ⟨digits, rfl, n, rfl, hd⟩ := (takes_readDigits.map Nat.cast).sound h
        rw [ha] at hs
        exact ⟨blanks ++ '+' :: digits, by simpa using hs, .plus hb hd⟩
    · obtain ⟨p, hp, n, rfl, short⟩ := (takes_readShort.map Nat.cast).sound h
      rw [hp] at hs
      exact ⟨blanks ++ p, by simpa using hs, .short (short.indent hb)⟩
  complete := by
    rintro p rest year (⟨hb, hd, hw⟩ | ⟨hb, hd⟩ | ⟨hb, hd⟩) hr
    · next n blanks digits =>
        have first := isDigit_head_append hd rest
        have field := takes_readShort.complete (Short.mk (List.forall_mem_nil _) hd hw) hr
        unfold readSignedYear
        rw [dropBlanks_numeral hb hd rest]
        split
        · next after ha =>
            rw [ha] at first
            cases first _ rfl
        · next after ha =>
            rw [ha] at first
            cases first _ rfl
        · rw [List.nil_append] at field
          rw [field, Option.map_some]
    · next n blanks digits =>
        simp only [readSignedYear, List.append_assoc, List.cons_append,
          Text.dropBlanks_append_cons hb (rfl : Text.isBlank '+' = false),
          takes_readDigits.complete hd hr, Option.map_some]
    · next n blanks digits =>
        simp only [readSignedYear, List.append_assoc, List.cons_append,
          Text.dropBlanks_append_cons hb (rfl : Text.isBlank '-' = false),
          takes_readDigits.complete hd hr, Option.map_some]

theorem digitsValue_take_nine {s : List Char} (h : ∀ c ∈ s, c.isDigit) :
    Text.digitsValue ((s ++ List.replicate 9 '0').take 9) =
      Text.digitsValue s * 10 ^ 9 / 10 ^ s.length := by
  generalize ht : s ++ List.replicate 9 '0' = t
  have digit : ∀ c ∈ t, c.isDigit := by
    rw [← ht]
    refine List.forall_mem_append.2 ⟨h, fun c hc => ?_⟩
    rw [List.eq_of_mem_replicate hc]
    rfl
  have value : Text.digitsValue t = Text.digitsValue s * 10 ^ 9 := by
    rw [← ht, Text.digitsValue_append, Text.digitsValue_zeros, List.length_replicate, Nat.add_zero]
  have left : (t.drop 9).length = s.length := by simp [← ht]
  have whole := Text.digitsValue_append (t.take 9) (t.drop 9)
  have small : Text.digitsValue (t.drop 9) < 10 ^ (t.drop 9).length :=
    Text.digitsValue_lt fun c hc => digit c (List.mem_of_mem_drop hc)
  rw [List.take_append_drop, value, left] at whole
  rw [left] at small
  rw [whole, Nat.mul_comm, Nat.mul_add_div (Nat.pow_pos (by decide)), Nat.div_eq_of_lt small,
    Nat.add_zero]

def isFractional (c : Char) : Bool :=
  c.isDigit || c == '.'

theorem takes_readFraction : Takes readFraction Fraction isFractional where
  sound := by
    intro s rest nanos h
    unfold readFraction at h
    split at h
    · next after =>
        simp only [List.isEmpty_iff, Option.ite_none_left_eq_some, Option.some.injEq,
          Prod.mk.injEq] at h
        obtain ⟨hn, rfl, rfl⟩ := h
        have digit : ∀ c ∈ after.takeWhile Char.isDigit, c.isDigit := fun c =>
          List.mem_takeWhile_imp
        rw [digitsValue_take_nine digit]
        refine ⟨'.' :: after.takeWhile Char.isDigit, ?_, .some (numeral_iff.2 ⟨hn, digit, rfl⟩)⟩
        rw [List.cons_append, List.takeWhile_append_dropWhile]
    · cases h
      exact ⟨[], rfl, .none⟩
  complete := by
    rintro p rest nanos (_ | h) hr
    · rw [List.nil_append]
      unfold readFraction
      split
      · cases stops_cons_iff.1 hr
      · rfl
    · next n digits =>
        obtain ⟨hn, digit, rfl⟩ := numeral_iff.1 h
        obtain ⟨taken, left⟩ := digits_append digit fun c hc => (Bool.or_eq_false_iff.1 (hr c hc)).1
        simp only [List.cons_append, readFraction, taken, left, List.isEmpty_iff, if_neg hn,
          digitsValue_take_nine digit]

end

structure Form where
  Year : Int → List Char → Prop
  Field : Nat → List Char → Prop
  Separator : Char → Prop

namespace Form

def strict : Form where
  Year year p := ∃ n : Nat, year = n ∧ Full 4 n p
  Field := Full 2
  Separator c := c = 'T' ∨ c = 't' ∨ c = ' '

def lenient : Form where
  Year := SignedYear
  Field := Short 2
  Separator c := c = 'T'

end Form

inductive DateText (form : Form) : Fields → List Char → Prop
  | mk {year : Int} {month day : Nat} {y m d : List Char} (hy : form.Year year y)
      (hm : form.Field month m) (hd : form.Field day d) :
      DateText form ⟨year, month, day, 0, 0, 0, 0⟩ (y ++ '-' :: (m ++ '-' :: d))

inductive DateTimeText (form : Form) : Fields → List Char → Prop
  | mk {date : Fields} {separator : Char} {hour minute second nanos : Nat}
      {p h m s fraction : List Char} (hp : DateText form date p) (hc : form.Separator separator)
      (hh : form.Field hour h) (hm : form.Field minute m) (hs : form.Field second s)
      (hf : Fraction nanos fraction) :
      DateTimeText form { date with hour, minute, second, nanos }
        (p ++ separator :: (h ++ ':' :: (m ++ ':' :: (s ++ fraction))))

structure Style.Follows (style : Style) (form : Form) : Prop where
  year : Takes style.readYear form.Year Char.isDigit
  field : Takes style.readField form.Field Char.isDigit
  separator : ∀ c, style.isSeparator c ↔ form.Separator c
  separates : ∀ c, form.Separator c → c.isDigit = false

theorem Style.strict_follows : Style.strict.Follows Form.strict where
  year := (takes_readFixed (by decide) Char.isDigit).map Nat.cast
  field := takes_readFixed (by decide) Char.isDigit
  separator c := by simp [Style.strict, Form.strict, or_assoc]
  separates c := by rintro (rfl | rfl | rfl) <;> rfl

theorem Style.lenient_follows : Style.lenient.Follows Form.lenient where
  year := takes_readSignedYear
  field := takes_readShort
  separator c := by simp [Style.lenient, Form.lenient]
  separates c := by rintro rfl; rfl

theorem skip_eq_some_iff {c : Char} {s rest : List Char} :
    skip c s = some rest ↔ s = c :: rest := by
  cases s with
  | nil => simp [skip]
  | cons d s => simp [skip]

section

variable {style : Style} {form : Form}

theorem skipSeparator_eq_some_iff (h : style.Follows form) {s rest : List Char} :
    style.skipSeparator s = some rest ↔ ∃ c, s = c :: rest ∧ form.Separator c := by
  cases s with
  | nil => simp [Style.skipSeparator]
  | cons c s => simp [Style.skipSeparator, h.separator, and_comm]

theorem Style.Follows.takes_readDate (h : style.Follows form) :
    Takes style.readDate (DateText form) Char.isDigit where
  sound := by
    intro s rest f hf
    simp only [readDate, Option.bind_eq_bind, Option.bind_eq_some_iff, skip_eq_some_iff, pure,
      Option.some.injEq, Prod.mk.injEq, Prod.exists] at hf
    obtain ⟨year, _, readYear, _, rfl, month, _, readMonth, _, rfl, day, _, readDay, rfl, rfl⟩ := hf
    obtain ⟨y, rfl, hy⟩ := h.year.sound readYear
    obtain ⟨m, rfl, hm⟩ := h.field.sound readMonth
    obtain ⟨d, rfl, hd⟩ := h.field.sound readDay
    exact ⟨_, by simp, .mk hy hm hd⟩
  complete := by
    rintro p rest f ⟨hy, hm, hd⟩ hr
    next year month day y m d =>
      have hyphen (s : List Char) : Stops Char.isDigit ('-' :: s) := stops_cons_iff.2 rfl
      simp only [readDate, List.append_assoc, List.cons_append, h.year.complete hy (hyphen _),
        h.field.complete hm (hyphen _), h.field.complete hd hr, skip, if_true,
        Option.bind_eq_bind, Option.bind_some, pure]

theorem Style.Follows.takes_readDateTime (h : style.Follows form) :
    Takes style.readDateTime (DateTimeText form) isFractional where
  sound := by
    intro s rest f hf
    simp only [readDateTime, Option.bind_eq_bind, Option.bind_eq_some_iff, skip_eq_some_iff,
      skipSeparator_eq_some_iff h, pure, Option.some.injEq, Prod.mk.injEq, Prod.exists] at hf
    obtain ⟨date, _, readDate, _, ⟨c, rfl, hc⟩, hour, _, readHour, _, rfl, minute, _, readMinute, _,
      rfl, second, _, readSecond, nanos, _, readNanos, rfl, rfl⟩ := hf
    obtain ⟨p, rfl, hp⟩ := h.takes_readDate.sound readDate
    obtain ⟨h', rfl, hh⟩ := h.field.sound readHour
    obtain ⟨m, rfl, hm⟩ := h.field.sound readMinute
    obtain ⟨s, rfl, hs⟩ := h.field.sound readSecond
    obtain ⟨fraction, rfl, hf⟩ := takes_readFraction.sound readNanos
    exact ⟨_, by simp, .mk hp hc hh hm hs hf⟩
  complete := by
    rintro p rest f ⟨hp, hc, hh, hm, hs, hf⟩ hr
    next date c hour minute second nanos p h' m s fraction =>
      have separator (s : List Char) : Stops Char.isDigit (c :: s) :=
        stops_cons_iff.2 (h.separates c hc)
      have colon (s : List Char) : Stops Char.isDigit (':' :: s) := stops_cons_iff.2 rfl
      have point : Stops Char.isDigit (fraction ++ rest) := by
        cases hf with
        | none => exact fun c hc => (Bool.or_eq_false_iff.1 (hr c hc)).1
        | some => exact stops_cons_iff.2 rfl
      have skipped (s : List Char) : style.skipSeparator (c :: s) = some s :=
        (skipSeparator_eq_some_iff h).2 ⟨c, rfl, hc⟩
      simp only [readDateTime, List.append_assoc, List.cons_append,
        h.takes_readDate.complete hp (separator _), skipped, h.field.complete hh (colon _),
        h.field.complete hm (colon _), h.field.complete hs point, takes_readFraction.complete hf hr,
        skip, if_true, Option.bind_eq_bind, Option.bind_some, pure]

end

inductive Sign : Bool → Char → Prop
  | plus : Sign false '+'
  | minus : Sign true '-'
  | long : Sign true '\u2212'

def east (negative : Bool) (hours minutes : Nat) : Int :=
  let seconds : Int := hours * 3600 + minutes * 60
  if negative then -seconds else seconds

inductive StrictZone : Int → List Char → Prop
  | universal {c : Char} (hc : c = 'Z' ∨ c = 'z') : StrictZone 0 [c]
  | offset {negative : Bool} {c : Char} {hours minutes : Nat} {h m : List Char}
      (hc : Sign negative c) (hh : Full 2 hours h) (hm : Full 2 minutes m) (day : hours ≤ 23)
      (hour : minutes ≤ 59) : StrictZone (east negative hours minutes) (c :: (h ++ ':' :: m))

def IsGap (c : Char) : Prop :=
  c = ':' ∨ Text.isBlank c

inductive LenientZone : Int → List Char → Prop
  | universal {blanks : List Char} {c : Char} (hb : ∀ c ∈ blanks, Text.isBlank c)
      (hc : c = 'Z' ∨ c = 'z') : LenientZone 0 (blanks ++ [c])
  | hours {negative : Bool} {c : Char} {hours : Nat} {blanks h gap : List Char}
      (hb : ∀ c ∈ blanks, Text.isBlank c) (hc : Sign negative c) (hh : Full 2 hours h)
      (hg : ∀ c ∈ gap, IsGap c) (day : hours ≤ 23) :
      LenientZone (east negative hours 0) (blanks ++ c :: (h ++ gap))
  | minutes {negative : Bool} {c : Char} {hours minutes : Nat} {blanks h gap m : List Char}
      (hb : ∀ c ∈ blanks, Text.isBlank c) (hc : Sign negative c) (hh : Full 2 hours h)
      (hg : ∀ c ∈ gap, IsGap c) (hm : Full 2 minutes m) (day : hours ≤ 23) (hour : minutes ≤ 59) :
      LenientZone (east negative hours minutes) (blanks ++ c :: (h ++ (gap ++ m)))

section

variable {negative : Bool} {c : Char} {s rest z : List Char} {offset : Int}

theorem readSign_eq_some_iff :
    readSign s = some (negative, rest) ↔ ∃ c, s = c :: rest ∧ Sign negative c := by
  constructor
  · intro h
    unfold readSign at h
    split at h
    · cases h
      exact ⟨_, rfl, .plus⟩
    · cases h
      exact ⟨_, rfl, .minus⟩
    · cases h
      exact ⟨_, rfl, .long⟩
    · cases h
  · rintro ⟨c, rfl, _ | _ | _⟩ <;> rfl

theorem offsetOf_eq_some_iff {hours minutes : Nat} :
    offsetOf negative hours minutes = some offset ↔
      hours ≤ 23 ∧ minutes ≤ 59 ∧ east negative hours minutes = offset := by
  have day : (hours * 3600 + minutes * 60 : Int) < secondsPerDay ∧ minutes ≤ 59 ↔
      hours ≤ 23 ∧ minutes ≤ 59 := by
    simp only [secondsPerDay]
    omega
  simp only [offsetOf, Option.ite_none_right_eq_some, Option.some.injEq, and_comm (b := _ < _), day,
    and_assoc]
  rfl

theorem takes_pair : Takes (readFixed 2) (Full 2) (fun _ => false) :=
  takes_readFixed (by decide) _

theorem readStrictZone_of_sign (hc : Sign negative c) :
    readStrictZone (c :: s) = (do
      let (hours, s) ← readFixed 2 s
      let s ← skip ':' s
      let (minutes, s) ← readFixed 2 s
      if s.isEmpty then offsetOf negative hours minutes else none) := by
  cases hc <;> rfl

theorem readStrictZone_eq_some_iff : readStrictZone z = some offset ↔ StrictZone offset z := by
  constructor
  · intro hz
    unfold readStrictZone at hz
    split at hz
    · cases hz
      exact .universal (.inl rfl)
    · cases hz
      exact .universal (.inr rfl)
    · simp only [Option.bind_eq_bind, Option.bind_eq_some_iff, skip_eq_some_iff,
        readSign_eq_some_iff, List.isEmpty_iff, Option.ite_none_right_eq_some,
        offsetOf_eq_some_iff, Prod.exists] at hz
      obtain ⟨negative, _, ⟨c, rfl, hc⟩, hours, _, readHours, _, rfl, minutes, _, readMinutes, rfl,
        day, hour, rfl⟩ := hz
      obtain ⟨h, rfl, hh⟩ := takes_pair.sound readHours
      obtain ⟨m, rfl, hm⟩ := takes_pair.sound readMinutes
      rw [List.append_nil]
      exact .offset hc hh hm day hour
  · rintro (⟨rfl | rfl⟩ | ⟨hc, hh, hm, day, hour⟩)
    · rfl
    · rfl
    · next negative c hours minutes h m =>
        have readMinutes := takes_pair.complete hm (stops_nil _)
        rw [List.append_nil] at readMinutes
        simp only [readStrictZone_of_sign hc, takes_pair.complete hh (stops_never _), readMinutes,
          skip, if_true, Option.bind_eq_bind, Option.bind_some, List.isEmpty_nil]
        exact offsetOf_eq_some_iff.2 ⟨day, hour, rfl⟩

theorem readLenientZone_of_sign {blanks : List Char} (hb : ∀ c ∈ blanks, Text.isBlank c)
    (hc : Sign negative c) :
    readLenientZone (blanks ++ c :: s) = (do
      let (hours, s) ← readFixed 2 s
      match s.dropWhile fun c => c == ':' || Text.isBlank c with
      | [] => offsetOf negative hours 0
      | s =>
          let (minutes, s) ← readFixed 2 s
          if s.isEmpty then offsetOf negative hours minutes else none) := by
  have mark : Text.isBlank c = false := by cases hc <;> rfl
  unfold readLenientZone
  rw [Text.dropBlanks_append_cons hb mark]
  cases hc <;> rfl

theorem readLenientZone_of_universal {blanks : List Char} (hb : ∀ c ∈ blanks, Text.isBlank c)
    (hc : c = 'Z' ∨ c = 'z') : readLenientZone (blanks ++ [c]) = some 0 := by
  have mark : Text.isBlank c = false := by rcases hc with rfl | rfl <;> rfl
  unfold readLenientZone
  rw [Text.dropBlanks_append_cons hb mark]
  rcases hc with rfl | rfl <;> rfl

theorem readLenientZone_eq_some_iff : readLenientZone z = some offset ↔ LenientZone offset z := by
  constructor
  · intro hz
    obtain ⟨blanks, hs, hb⟩ := Text.exists_blanks z
    rw [hs]
    unfold readLenientZone at hz
    generalize Text.dropBlanks z = s at hz hs
    split at hz
    · cases hz
      exact .universal hb (.inl rfl)
    · cases hz
      exact .universal hb (.inr rfl)
    · simp only [Option.bind_eq_bind, Option.bind_eq_some_iff, readSign_eq_some_iff,
        Prod.exists] at hz
      obtain ⟨negative, _, ⟨c, rfl, hc⟩, hours, after, readHours, hz⟩ := hz
      obtain ⟨h, rfl, hh⟩ := takes_pair.sound readHours
      let gap := after.takeWhile fun c => c == ':' || Text.isBlank c
      have hg : ∀ c ∈ gap, IsGap c := fun c hc => by
        simpa [IsGap] using List.mem_takeWhile_imp hc
      have cut : after = gap ++ after.dropWhile fun c => c == ':' || Text.isBlank c :=
        List.takeWhile_append_dropWhile.symm
      generalize after.dropWhile (fun c => c == ':' || Text.isBlank c) = left at hz cut
      rw [cut]
      split at hz
      · obtain ⟨day, -, rfl⟩ := offsetOf_eq_some_iff.1 hz
        rw [List.append_nil]
        exact .hours hb hc hh hg day
      · simp only [Option.bind_eq_some_iff, List.isEmpty_iff, Option.ite_none_right_eq_some,
          offsetOf_eq_some_iff, Prod.exists] at hz
        obtain ⟨minutes, _, readMinutes, rfl, day, hour, rfl⟩ := hz
        obtain ⟨m, rfl, hm⟩ := takes_pair.sound readMinutes
        rw [List.append_nil]
        exact .minutes hb hc hh hg hm day hour
  · rintro (⟨hb, hc⟩ | ⟨hb, hc, hh, hg, day⟩ | ⟨hb, hc, hh, hg, hm, day, hour⟩)
    · exact readLenientZone_of_universal hb hc
    · next negative c hours blanks h gap =>
        have left : (gap.dropWhile fun c => c == ':' || Text.isBlank c) = [] := by
          simpa [IsGap] using hg
        simp only [readLenientZone_of_sign hb hc, takes_pair.complete hh (stops_never _), left,
          Option.bind_eq_bind, Option.bind_some]
        exact offsetOf_eq_some_iff.2 ⟨day, by decide, rfl⟩
    · next negative c hours minutes blanks h gap m =>
        obtain ⟨first, others, rfl⟩ := List.exists_cons_of_ne_nil hm.numeral.ne_nil
        have digit := hm.numeral.isDigit_head
        have left : ((gap ++ first :: others).dropWhile fun c => c == ':' || Text.isBlank c) =
            first :: others := by
          refine (takeWhile_append_of_ends (by simpa [IsGap] using hg) ?_).2
          rintro d ⟨⟩
          have mark : first ≠ ':' := by
            rintro rfl
            cases digit
          simp [mark, Text.isBlank_eq_false_of_isDigit digit]
        have readMinutes := takes_pair.complete hm (stops_nil _)
        rw [List.append_nil] at readMinutes
        simp only [readLenientZone_of_sign hb hc, takes_pair.complete hh (stops_never _), left,
          readMinutes, Option.bind_eq_bind, Option.bind_some, List.isEmpty_nil, if_true]
        exact offsetOf_eq_some_iff.2 ⟨day, hour, rfl⟩

end

end Time

end FilterQuery
