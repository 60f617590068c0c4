import FilterQuery.Proofs.Time.Forms

namespace FilterQuery

namespace Time

theorem Takes.eq_some_nil_iff {α : Type} {read : List Char → Option (α × List Char)}
    {W : α → List Char → Prop} {goesOn : Char → Bool} (h : Takes read W goesOn) {s : List Char}
    {a : α} : read s = some (a, []) ↔ W a s := by
  constructor
  · intro hs
    obtain ⟨p, rfl, hp⟩ := h.sound hs
    rwa [List.append_nil]
  · intro hs
    have whole := h.complete hs (stops_nil goesOn)
    rwa [List.append_nil] at whole

inductive Written (offset : Int) : Fields → Int → List Char → Prop
  | strict {f : Fields} {zone : Int} {p z : List Char} (hp : DateTimeText .strict f p)
      (hz : StrictZone zone z) : Written offset f zone (p ++ z)
  | lenient {f : Fields} {zone : Int} {p z : List Char} (hp : DateTimeText .lenient f p)
      (hz : LenientZone zone z) : Written offset f zone (p ++ z)
  | unzoned {f : Fields} {p : List Char} (hp : DateTimeText .lenient f p) :
      Written offset f offset p
  | date {f : Fields} {p : List Char} (hp : DateText .lenient f p) : Written offset f offset p

def meaning? (offset : Int) (s : List Char) : Option (Fields × Int) :=
  match Style.lenient.readDateTime s with
  | some (f, []) => some (f, offset)
  | some (f, z) => (readLenientZone z).map fun zone => (f, zone)
  | none =>
      match Style.strict.readDateTime s with
      | some (f, z) => (readStrictZone z).map fun zone => (f, zone)
      | none => (Style.lenient.readDate s).map fun (f, _) => (f, offset)

section

variable {f g : Fields} {offset zone : Int} {p s z : List Char} {t : Instant}

theorem StrictZone.lenient (h : StrictZone zone z) : LenientZone zone z := by
  cases h with
  | universal hc => exact .universal (List.forall_mem_nil _) hc
  | offset hc hh hm day hour =>
      have colon : ∀ c ∈ [':'], IsGap c := List.forall_mem_singleton.2 (.inl rfl)
      exact .minutes (List.forall_mem_nil _) hc hh colon hm day hour

theorem DateText.lenient (h : DateText .strict f p) : DateText .lenient f p := by
  obtain ⟨⟨n, rfl, hn⟩, hm, hd⟩ := h
  exact .mk (.short hn.short) (Full.short hm) (Full.short hd)

theorem Sign.not_isFractional {negative : Bool} {c : Char} (h : Sign negative c) :
    isFractional c = false := by
  cases h <;> rfl

theorem not_isFractional_of_isBlank {c : Char} (h : Text.isBlank c) : isFractional c = false := by
  have digit : ¬c.isDigit := fun hd => by
    rw [Text.isBlank_eq_false_of_isDigit hd] at h
    cases h
  have point : c ≠ '.' := by
    rintro rfl
    cases h
  simp [isFractional, digit, point]

theorem LenientZone.exists_cons (h : LenientZone zone z) :
    ∃ c rest, z = c :: rest ∧ isFractional c = false := by
  have indented {blanks rest : List Char} {c : Char} (hb : ∀ c ∈ blanks, Text.isBlank c)
      (hc : isFractional c = false) :
      ∃ d after, blanks ++ c :: rest = d :: after ∧ isFractional d = false := by
    cases blanks with
    | nil => exact ⟨c, rest, rfl, hc⟩
    | cons b blanks => exact ⟨b, _, rfl, not_isFractional_of_isBlank (hb b List.mem_cons_self)⟩
  cases h with
  | universal hb hc =>
      apply indented hb
      rcases hc with rfl | rfl <;> rfl
  | hours hb hc => exact indented hb hc.not_isFractional
  | minutes hb hc => exact indented hb hc.not_isFractional

theorem LenientZone.stops (h : LenientZone zone z) : Stops isFractional z := by
  obtain ⟨c, rest, rfl, hc⟩ := h.exists_cons
  exact stops_cons_iff.2 hc

theorem readZoned_eq_some_iff {style : Style} {form : Form} {readZone : List Char → Option Int}
    {Zone : Int → List Char → Prop} (h : style.Follows form)
    (hz : ∀ {z zone}, readZone z = some zone ↔ Zone zone z)
    (hs : ∀ {z zone}, Zone zone z → Stops isFractional z) :
    readZoned style readZone s = some t ↔ ∃ f zone p z, s = p ++ z ∧ DateTimeText form f p ∧
      Zone zone z ∧ f.toInstant? zone = some t := by
  simp only [readZoned, Option.bind_eq_bind, Option.bind_eq_some_iff, hz, Prod.exists]
  constructor
  · rintro ⟨f, z, hr, zone, hz, ht⟩
    obtain ⟨p, rfl, hp⟩ := h.takes_readDateTime.sound hr
    exact ⟨f, zone, p, z, rfl, hp, hz, ht⟩
  · rintro ⟨f, zone, p, z, rfl, hp, hz, ht⟩
    exact ⟨f, z, h.takes_readDateTime.complete hp (hs hz), zone, hz, ht⟩

theorem Takes.whole_eq_some_iff {read : List Char → Option (Fields × List Char)}
    {W : Fields → List Char → Prop} {goesOn : Char → Bool} (h : Takes read W goesOn) :
    ((read s).bind fun (f, rest) => if rest.isEmpty then f.toInstant? offset else none) = some t ↔
      ∃ f, W f s ∧ f.toInstant? offset = some t := by
  simp only [Option.bind_eq_some_iff, List.isEmpty_iff, Option.ite_none_right_eq_some, Prod.exists]
  constructor
  · rintro ⟨f, _, hr, rfl, ht⟩
    exact ⟨f, h.eq_some_nil_iff.1 hr, ht⟩
  · rintro ⟨f, hs, ht⟩
    exact ⟨f, [], h.eq_some_nil_iff.2 hs, rfl, ht⟩

theorem readLocal_eq_some_iff :
    readLocal offset s = some t ↔
      ∃ f, DateTimeText .lenient f s ∧ f.toInstant? offset = some t :=
  Style.lenient_follows.takes_readDateTime.whole_eq_some_iff

theorem readDateOnly_eq_some_iff :
    readDateOnly offset s = some t ↔
      ∃ f, DateText .lenient f s ∧ f.toInstant? offset = some t :=
  Style.lenient_follows.takes_readDate.whole_eq_some_iff

theorem readInstant_eq_some (h : readInstant offset s = some t) :
    readZoned .strict readStrictZone s = some t ∨ readZoned .lenient readLenientZone s = some t ∨
      readLocal offset s = some t ∨ readDateOnly offset s = some t := by
  simp only [readInstant, Option.orElse_eq_orElse, Option.orElse_eq_or, Option.or_eq_some_iff] at h
  tauto

theorem isSome_readInstant_iff : (readInstant offset s).isSome ↔
    (readZoned .strict readStrictZone s).isSome ∨ (readZoned .lenient readLenientZone s).isSome ∨
      (readLocal offset s).isSome ∨ (readDateOnly offset s).isSome := by
  simp only [readInstant, Option.orElse_eq_orElse, Option.orElse_eq_or, Option.isSome_or,
    Bool.or_eq_true]

theorem readStrictZoned_eq_some_iff :
    readZoned .strict readStrictZone s = some t ↔ ∃ f zone p z, s = p ++ z ∧
      DateTimeText .strict f p ∧ StrictZone zone z ∧ f.toInstant? zone = some t :=
  readZoned_eq_some_iff Style.strict_follows readStrictZone_eq_some_iff fun hz => hz.lenient.stops

theorem readLenientZoned_eq_some_iff :
    readZoned .lenient readLenientZone s = some t ↔ ∃ f zone p z, s = p ++ z ∧
      DateTimeText .lenient f p ∧ LenientZone zone z ∧ f.toInstant? zone = some t :=
  readZoned_eq_some_iff Style.lenient_follows readLenientZone_eq_some_iff LenientZone.stops

theorem exists_written_of_readInstant (h : readInstant offset s = some t) :
    ∃ f zone, Written offset f zone s ∧ f.toInstant? zone = some t := by
  rcases readInstant_eq_some h with h | h | h | h
  · obtain ⟨f, zone, p, z, rfl, hp, hz, ht⟩ := readStrictZoned_eq_some_iff.1 h
    exact ⟨f, zone, .strict hp hz, ht⟩
  · obtain ⟨f, zone, p, z, rfl, hp, hz, ht⟩ := readLenientZoned_eq_some_iff.1 h
    exact ⟨f, zone, .lenient hp hz, ht⟩
  · obtain ⟨f, hp, ht⟩ := readLocal_eq_some_iff.1 h
    exact ⟨f, offset, .unzoned hp, ht⟩
  · obtain ⟨f, hp, ht⟩ := readDateOnly_eq_some_iff.1 h
    exact ⟨f, offset, .date hp, ht⟩

theorem isSome_readInstant_of_written (h : Written offset f zone s)
    (ht : f.toInstant? zone = some t) : (readInstant offset s).isSome := by
  rw [isSome_readInstant_iff]
  cases h with
  | strict hp hz =>
      have read := readStrictZoned_eq_some_iff.2 ⟨_, _, _, _, rfl, hp, hz, ht⟩
      exact .inl (Option.isSome_of_eq_some read)
  | lenient hp hz =>
      have read := readLenientZoned_eq_some_iff.2 ⟨_, _, _, _, rfl, hp, hz, ht⟩
      exact .inr (.inl (Option.isSome_of_eq_some read))
  | unzoned hp =>
      have read := readLocal_eq_some_iff.2 ⟨_, hp, ht⟩
      exact .inr (.inr (.inl (Option.isSome_of_eq_some read)))
  | date hp =>
      have read := readDateOnly_eq_some_iff.2 ⟨_, hp, ht⟩
      exact .inr (.inr (.inr (Option.isSome_of_eq_some read)))

theorem DateTimeText.readDate (h : DateTimeText .strict f p) (z : List Char) :
    ∃ date c rest, Style.lenient.readDate (p ++ z) = some (date, c :: rest) ∧
      Form.strict.Separator c ∧ (c = 'T' → DateTimeText .lenient f p) := by
  obtain ⟨hd, hc, hh, hm, hs, hf⟩ := h
  next date c hour minute second nanos q h m s fraction =>
    refine ⟨date, c, h ++ ':' :: (m ++ ':' :: (s ++ fraction)) ++ z, ?_, hc, ?_⟩
    · rw [List.append_assoc]
      apply Style.lenient_follows.takes_readDate.complete hd.lenient
      exact stops_cons_iff.2 (Style.strict_follows.separates c hc)
    · intro hT
      exact .mk hd.lenient hT (Full.short hh) (Full.short hm) (Full.short hs) hf

theorem readDateTime_eq_none {style : Style} {date : Fields} {c : Char} {rest : List Char}
    (dated : style.readDate s = some (date, c :: rest)) (hc : style.isSeparator c = false) :
    style.readDateTime s = none := by
  simp only [Style.readDateTime, dated, Style.skipSeparator, hc, Option.bind_eq_bind,
    Option.bind_some, Bool.false_eq_true, if_false, Option.bind_none]

theorem meaning?_of_lenient (hp : DateTimeText .lenient f p) (hz : LenientZone zone z) :
    meaning? offset (p ++ z) = some (f, zone) := by
  have read := Style.lenient_follows.takes_readDateTime.complete hp hz.stops
  have ended := readLenientZone_eq_some_iff.2 hz
  obtain ⟨c, rest, rfl, -⟩ := hz.exists_cons
  simp only [meaning?, read, ended, Option.map_some]

theorem meaning?_of_strict (hp : DateTimeText .strict f p) (hz : StrictZone zone z) :
    meaning? offset (p ++ z) = some (f, zone) := by
  obtain ⟨date, c, rest, dated, -, timed⟩ := hp.readDate z
  by_cases hT : c = 'T'
  · exact meaning?_of_lenient (timed hT) hz.lenient
  · have untimed := readDateTime_eq_none dated (by simpa [Style.lenient] using hT)
    have read := Style.strict_follows.takes_readDateTime.complete hp hz.lenient.stops
    simp only [meaning?, untimed, read, readStrictZone_eq_some_iff.2 hz, Option.map_some]

theorem meaning?_of_date (hp : DateText .lenient f p) : meaning? offset p = some (f, offset) := by
  have dated := Style.lenient_follows.takes_readDate.eq_some_nil_iff.2 hp
  have untimed : Style.lenient.readDateTime p = none := by
    simp [Style.readDateTime, dated, Style.skipSeparator]
  have unstrict : Style.strict.readDateTime p = none := by
    refine Option.eq_none_iff_forall_ne_some.2 ?_
    rintro ⟨g, z⟩ read
    obtain ⟨q, rfl, hq⟩ := Style.strict_follows.takes_readDateTime.sound read
    obtain ⟨date, c, rest, longer, -⟩ := hq.readDate z
    rw [dated] at longer
    cases longer
  simp only [meaning?, untimed, unstrict, dated, Option.map_some]

theorem Written.meaning? (h : Written offset f zone s) : meaning? offset s = some (f, zone) := by
  cases h with
  | strict hp hz => exact meaning?_of_strict hp hz
  | lenient hp hz => exact meaning?_of_lenient hp hz
  | unzoned hp =>
      simp only [Time.meaning?, Style.lenient_follows.takes_readDateTime.eq_some_nil_iff.2 hp]
  | date hp => exact meaning?_of_date hp

theorem Written.unique {zone' : Int} (h : Written offset f zone s)
    (k : Written offset g zone' s) : f = g ∧ zone = zone' := by
  have same := h.meaning?.symm.trans k.meaning?
  simpa using same

theorem readInstant_eq_some_iff :
    readInstant offset s = some t ↔
      ∃ f zone, Written offset f zone s ∧ f.toInstant? zone = some t := by
  constructor
  · exact exists_written_of_readInstant
  · rintro ⟨f, zone, hs, ht⟩
    obtain ⟨t', read⟩ := Option.isSome_iff_exists.1 (isSome_readInstant_of_written hs ht)
    obtain ⟨g, zone', hs', ht'⟩ := exists_written_of_readInstant read
    obtain ⟨rfl, rfl⟩ := hs.unique hs'
    rw [read, ← ht, ht']

theorem Written.readInstant (h : Written offset f zone s) :
    readInstant offset s = f.toInstant? zone := by
  ext t
  rw [readInstant_eq_some_iff]
  constructor
  · rintro ⟨g, zone', k, ht⟩
    obtain ⟨rfl, rfl⟩ := h.unique k
    exact ht
  · intro ht
    exact ⟨f, zone, h, ht⟩

end

inductive ZoneText (negative : Bool) (minutes : Nat) : List Char → Prop
  | colon : ZoneText negative minutes ((if negative then '-' else '+') ::
      (Text.padded 2 (minutes / 60) ++ ':' :: Text.padded 2 (minutes % 60)))
  | plain : ZoneText negative minutes ((if negative then '-' else '+') ::
      (Text.padded 2 (minutes / 60) ++ Text.padded 2 (minutes % 60)))
  | hours (h : minutes % 60 = 0) :
      ZoneText negative minutes ((if negative then '-' else '+') :: Text.padded 2 (minutes / 60))
  | universal (h : minutes = 0) : ZoneText negative minutes ['Z']

section

variable {negative : Bool} {minutes : Nat} {s zone : List Char} {f : Fields} {offset : Int}

theorem sign_ite (negative : Bool) : Sign negative (if negative then '-' else '+') := by
  cases negative with
  | false => exact .plus
  | true => exact .minus

theorem east_split (negative : Bool) (minutes : Nat) :
    east negative (minutes / 60) (minutes % 60) = east negative 0 minutes := by
  have whole : ((minutes / 60 : Nat) * 3600 + (minutes % 60 : Nat) * 60 : Int) = minutes * 60 := by
    omega
  simp only [east, whole, Nat.cast_zero, zero_mul, zero_add]

theorem ZoneText.lenient (hm : minutes < 24 * 60) (h : ZoneText negative minutes zone) :
    LenientZone (east negative 0 minutes) zone := by
  have nothing := List.forall_mem_nil fun c => Text.isBlank c = true
  have closed : ∀ c ∈ [], IsGap c := List.forall_mem_nil _
  have colon : ∀ c ∈ [':'], IsGap c := List.forall_mem_singleton.2 (.inl rfl)
  have day : minutes / 60 ≤ 23 := by omega
  have hour : minutes % 60 ≤ 59 := by omega
  have hours : Full 2 (minutes / 60) (Text.padded 2 (minutes / 60)) := full_padded (by omega)
  have rest : Full 2 (minutes % 60) (Text.padded 2 (minutes % 60)) := full_padded (by omega)
  cases h with
  | colon =>
      rw [← east_split]
      exact .minutes nothing (sign_ite negative) hours colon rest day hour
  | plain =>
      rw [← east_split]
      have written := LenientZone.minutes nothing (sign_ite negative) hours closed rest day hour
      rwa [List.nil_append] at written
  | hours h =>
      rw [← east_split, h]
      have written := LenientZone.hours nothing (sign_ite negative) hours closed day
      rwa [List.append_nil] at written
  | universal h =>
      subst h
      have zero : east negative 0 0 = 0 := by cases negative <;> rfl
      rw [zero]
      exact .universal nothing (.inl rfl)

theorem DateText.midnight (h : DateText .lenient f s) :
    DateTimeText .lenient f (s ++ "T00:00:00".toList) := by
  have zeros : Short 2 0 ['0', '0'] := Full.short ⟨⟨by simp, by simp, rfl⟩, rfl⟩
  have separator : Form.lenient.Separator 'T' := rfl
  have clock := DateTimeText.mk h separator zeros zeros zeros .none
  cases h
  exact clock

end

theorem readInstant_forms_agree (offset : Int) :
    (∀ s f, Style.lenient.readDateTime s = some (f, []) →
      ∀ negative minutes, minutes < 24 * 60 → ∀ zone, ZoneText negative minutes zone →
        readInstant offset (s ++ zone) = readInstant (east negative 0 minutes) s ∧
          readInstant (east negative 0 minutes) s = f.toInstant? (east negative 0 minutes)) ∧
    ∀ d f, Style.lenient.readDate d = some (f, []) →
      readInstant offset d = readInstant offset (d ++ "T00:00:00".toList) ∧
        readInstant offset d = f.toInstant? offset := by
  constructor
  · intro s f hs negative minutes hm zone hz
    have written := Style.lenient_follows.takes_readDateTime.eq_some_nil_iff.1 hs
    have zoned : Written offset f (east negative 0 minutes) (s ++ zone) :=
      .lenient written (hz.lenient hm)
    have unzoned : Written (east negative 0 minutes) f (east negative 0 minutes) s :=
      .unzoned written
    exact ⟨zoned.readInstant.trans unzoned.readInstant.symm, unzoned.readInstant⟩
  · intro d f hd
    have written := Style.lenient_follows.takes_readDate.eq_some_nil_iff.1 hd
    have date : readInstant offset d = f.toInstant? offset := (Written.date written).readInstant
    exact ⟨date.trans (Written.unzoned written.midnight).readInstant.symm, date⟩

theorem readInstant_forms_agree_in_march :
    (readInstant 0 "2014-03-20T16:30:42+01:00".toList =
        readInstant 3600 "2014-03-20T16:30:42".toList ∧
      readInstant 3600 "2014-03-20T16:30:42".toList = some ⟨1395329442, 0⟩) ∧
    readInstant 7200 "2014-03-20".toList = readInstant 7200 "2014-03-20T00:00:00".toList ∧
      readInstant 7200 "2014-03-20".toList = some ⟨1395266400, 0⟩ := by
  have hour : ZoneText false 60 "+01:00".toList := by
    have text : ZoneText false 60 _ := .colon
    rw [Text.padded, Text.padded, Text.digits, Text.digits] at text
    exact text
  have zoned := (readInstant_forms_agree 0).1 "2014-03-20T16:30:42".toList
    ⟨2014, 3, 20, 16, 30, 42, 0⟩ rfl false 60 (by omega) _ hour
  have date := (readInstant_forms_agree 7200).2 "2014-03-20".toList ⟨2014, 3, 20, 0, 0, 0, 0⟩ rfl
  have east_hour : east false 0 60 = 3600 := rfl
  rw [east_hour] at zoned
  exact ⟨⟨zoned.1, zoned.2.trans (by decide)⟩, date.1, date.2.trans (by decide)⟩

end Time

end FilterQuery
