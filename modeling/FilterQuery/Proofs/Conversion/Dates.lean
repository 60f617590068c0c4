import FilterQuery.Conversion.Basic
import FilterQuery.Filter.Document
import FilterQuery.Proofs.Time.Calendar
import FilterQuery.Proofs.Time.Reading
import FilterQuery.Proofs.Time.Writing

namespace FilterQuery

namespace Time

namespace Instant

variable {t : Instant} {n : Nat}

def floorMillis (t : Instant) : Instant :=
  ⟨t.seconds, t.nanos / 1000000 * 1000000⟩

theorem floorMillis_fields (t : Instant) :
    t.floorMillis.fields = { t.fields with nanos := t.nanos / 1000000 * 1000000 } := by
  simp only [fields, day, secondOfDay, floorMillis]

theorem short_padded (h : n < 100) : Short 2 n (Text.padded 2 n) :=
  (full_padded h).short

theorem signedYear_writeYear (year : Int) : SignedYear year (writeYear year) := by
  have nothing := List.forall_mem_nil fun c => Text.isBlank c = true
  have digits := Number.numeral_padded 4 year.natAbs
  simp only [writeYear]
  split
  · next negative =>
      have magnitude : -(year.natAbs : Int) = year := by omega
      have written := SignedYear.minus nothing digits
      rwa [magnitude] at written
  · next positive =>
      have magnitude : (year.natAbs : Int) = year := by omega
      split
      · have written := SignedYear.plus nothing digits
        rwa [magnitude] at written
      · have written := SignedYear.short (full_padded (by omega : year.natAbs < 10 ^ 4)).short
        rwa [magnitude] at written

theorem dateText_writeDate {d : Date} (h : d.isValid) :
    DateText .lenient ⟨d.year, d.month, d.day, 0, 0, 0, 0⟩ (writeDate d) := by
  obtain ⟨month, day⟩ := Date.month_day_of_isValid h
  have written : DateText .lenient _ _ := .mk (signedYear_writeYear d.year)
    (short_padded (by omega : d.month < 100)) (short_padded (by omega : d.day < 100))
  simpa only [writeDate, List.append_assoc, List.cons_append] using written

theorem fraction_padded (h : n < 1000) :
    Fraction (n * 1000000) ('.' :: Text.padded 3 n) := by
  have written := Fraction.some (Number.numeral_padded 3 n)
  rw [Text.length_padded h, (by omega : n * 10 ^ 9 / 10 ^ 3 = n * 1000000)] at written
  exact written

theorem written_writeMillis (offset : Int) (ht : t.nanos < billion) :
    Written offset t.floorMillis.fields 0 t.writeMillis := by
  have clock := t.secondOfDay_lt
  have millis : t.nanos % billion / 1000000 = t.nanos / 1000000 := by rw [Nat.mod_eq_of_lt ht]
  have small : t.nanos / 1000000 < 1000 := by
    simp only [billion] at ht
    omega
  have date := dateText_writeDate (Date.isValid_ofNumber t.day)
  have separator : Form.lenient.Separator 'T' := rfl
  have text := DateTimeText.mk date separator (short_padded (by omega : t.secondOfDay / 3600 < 100))
    (short_padded (by omega : t.secondOfDay / 60 % 60 < 100))
    (short_padded (by omega : t.secondOfDay % 60 < 100)) (fraction_padded small)
  have written : Written offset _ 0 _ :=
    .lenient text (.universal (List.forall_mem_nil _) (.inl rfl))
  rw [floorMillis_fields]
  simpa only [fields, writeMillis, writeSeconds_of_lt ht, writeClock, millis, List.append_assoc,
    List.cons_append, List.nil_append, Bool.false_eq_true, if_false, Nat.add_zero] using written

theorem readInstant_writeMillis (offset : Int) (h : t.isRepresentable) (ht : t.nanos < billion) :
    readInstant offset t.writeMillis = some t.floorMillis :=
  (written_writeMillis offset ht).readInstant.trans (toInstant?_fields (t := t.floorMillis) h)

end Instant

end Time

namespace Conversion

open Time (Instant Written DateText)

variable {types : CustomTypes} {offset : Int} {raw : String}

theorem convert_date_eq_ok_iff {t : Instant} :
    convert types offset .date raw = .ok (.instant t) ↔
      Time.readInstant offset raw.toList = some t := by
  simp only [convert]
  unfold toInstant
  split
  · next u hu => simp [hu]
  · next hn => simp [hn, refuse]

theorem shown_date_reads_back (types : CustomTypes) (offset : Int) (t : Instant)
    (h : t.isRepresentable) (ht : t.nanos < Time.billion) :
    ∃ text, Filter.valueDocument (.instant t) = .object [("$date", .string text)] ∧
      convert types offset .date text = .ok (.instant t.floorMillis) := by
  refine ⟨String.ofList t.writeMillis, rfl, ?_⟩
  rw [convert_date_eq_ok_iff, String.toList_ofList]
  exact Instant.readInstant_writeMillis offset h ht

theorem shown_date_reads_back_before_1970 :
    ∃ text, Filter.valueDocument (.instant ⟨-1, 999999999⟩) = .object [("$date", .string text)] ∧
      convert [] 3600 .date text = .ok (.instant ⟨-1, 999000000⟩) :=
  shown_date_reads_back [] 3600 ⟨-1, 999999999⟩ rfl (by decide)

theorem dates_read_iff_written (types : CustomTypes) (offset : Int) (raw : String) :
    (∀ t, convert types offset .date raw = .ok (.instant t) ↔
      ∃ f zone, Written offset f zone raw.toList ∧ f.toInstant? zone = some t) ∧
    ((∃ t, convert types offset .date raw = .ok (.instant t)) ∨
      convert types offset .date raw =
        .error (.argument raw "date" (some Time.acceptedForms) none)) := by
  constructor
  · intro t
    rw [convert_date_eq_ok_iff, Time.readInstant_eq_some_iff]
  · cases read : Time.readInstant offset raw.toList with
    | some t => exact .inl ⟨t, convert_date_eq_ok_iff.2 read⟩
    | none =>
        refine .inr ?_
        simp only [convert]
        unfold toInstant
        rw [read]
        rfl

inductive DescribedDate : List Char → Prop
  | mk {sign y m d : List Char} {year month day : Nat} (hs : sign ∈ [[], ['+'], ['-']])
      (hy : Number.Numeral y year) (four : 4 ≤ y.length) (hm : Time.Full 2 month m)
      (hd : Time.Full 2 day d) : DescribedDate (sign ++ (y ++ '-' :: (m ++ '-' :: d)))

inductive Described : List Char → Prop
  | date {p : List Char} (hp : DescribedDate p) : Described p
  | time {p h m s fraction zone : List Char} {separator : Char} {hour minute second nanos : Nat}
      (hp : DescribedDate p) (hh : Time.Full 2 hour h) (hm : Time.Full 2 minute m)
      (hs : Time.Full 2 second s) (hf : Time.Fraction nanos fraction)
      (hz : zone = [] ∨ ∃ east, Time.LenientZone east zone) :
      Described (p ++ separator :: (h ++ ':' :: (m ++ ':' :: (s ++ (fraction ++ zone)))))

theorem DescribedDate.le_length {p : List Char} (h : DescribedDate p) : 10 ≤ p.length := by
  obtain ⟨-, -, four, hm, hd⟩ := h
  simp only [List.length_append, List.length_cons, hm.length, hd.length]
  omega

theorem Described.le_length {s : List Char} (h : Described s) : 10 ≤ s.length := by
  cases h with
  | date hp => exact hp.le_length
  | time hp => exact hp.le_length.trans (List.length_append ▸ Nat.le_add_right _ _)

theorem shortened_year_converted :
    convert [] 0 .date "14-03-20" = .ok (.instant ⟨-61718630400, 0⟩) ∧
      ¬Described "14-03-20".toList := by
  refine ⟨rfl, fun h => ?_⟩
  exact absurd h.le_length (by decide)

end Conversion

end FilterQuery
