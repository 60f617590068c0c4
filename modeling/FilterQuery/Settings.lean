import FilterQuery.Json.Record

namespace FilterQuery

structure Settings where
  referenceSuffix : String := "$id"
  localOffset : Int := 0
  memoize : Bool := true
  maxDepth : Nat := 64
  deriving DecidableEq, Repr

namespace Settings

inductive Fault where
  | offsetBeyondDay (offset : Int)
  | suffixNotSegment (suffix : String)
  | noDepth
  | noZone (offset : Int)
  | other (text : String)
  deriving DecidableEq, Repr

def Fault.message : Fault → String
  | .offsetBeyondDay offset => s!"local_offset_seconds must be within a day, got {offset}"
  | .suffixNotSegment suffix =>
      s!"reference_id_suffix must be a single path segment, got '{suffix}'"
  | .noDepth => "max_depth must be at least 1"
  | .noZone offset => s!"invalid local offset {offset}"
  | .other text => text

-- An offset has 32 bits and so has its magnitude: that of the least offset is the offset itself.
def magnitude (s : Settings) : Int :=
  (Int32.ofInt s.localOffset).abs.toInt

def validate (s : Settings) : Except Fault Unit :=
  if 86400 ≤ s.magnitude then
    .error (.offsetBeyondDay s.localOffset)
  else if s.referenceSuffix.isEmpty || s.referenceSuffix.toList.contains '.' then
    .error (.suffixNotSegment s.referenceSuffix)
  else if s.maxDepth = 0 then
    .error .noDepth
  else
    .ok ()

def checkZone (s : Settings) : Except Fault Unit :=
  if -86400 < s.localOffset ∧ s.localOffset < 86400 then .ok () else .error (.noZone s.localOffset)

structure Valid (s : Settings) : Prop where
  offset : -86400 < s.localOffset ∧ s.localOffset < 86400
  suffix : s.referenceSuffix ≠ "" ∧ '.' ∉ s.referenceSuffix.toList
  depth : s.maxDepth ≠ 0

theorem checkZone_eq_ok_iff {s : Settings} :
    s.checkZone = .ok () ↔ -86400 < s.localOffset ∧ s.localOffset < 86400 := by
  simp [checkZone]

theorem magnitude_lt {s : Settings} (h : -86400 < s.localOffset ∧ s.localOffset < 86400) :
    s.magnitude < 86400 := by
  have exact : (Int32.ofInt s.localOffset).toInt = s.localOffset :=
    Int32.toInt_ofInt_of_le (by omega) (by omega)
  change (Int32.ofInt s.localOffset).toBitVec.abs.toInt < 86400
  rw [BitVec.toInt_abs_eq_natAbs]
  split
  · decide
  · change ((Int32.ofInt s.localOffset).toInt.natAbs : Int) < 86400
    rw [exact]
    omega

theorem validate_eq_ok_iff {s : Settings} :
    s.validate = .ok () ↔
      s.magnitude < 86400 ∧ (s.referenceSuffix ≠ "" ∧ '.' ∉ s.referenceSuffix.toList) ∧
        s.maxDepth ≠ 0 := by
  unfold validate
  split
  · next beyond => exact iff_of_false nofun fun valid => absurd valid.1 (Int.not_lt.2 beyond)
  · next within =>
      have within := Int.not_le.1 within
      split
      · next dotted =>
          refine iff_of_false nofun fun valid => ?_
          simp [valid.2.1] at dotted
      · next segment =>
          have segment : s.referenceSuffix ≠ "" ∧ '.' ∉ s.referenceSuffix.toList := by
            simpa using segment
          simp [within, segment]

theorem valid_iff {s : Settings} : s.Valid ↔ s.validate = .ok () ∧ s.checkZone = .ok () := by
  rw [validate_eq_ok_iff, checkZone_eq_ok_iff]
  constructor
  · rintro ⟨offset, suffix, depth⟩
    exact ⟨⟨magnitude_lt offset, suffix, depth⟩, offset⟩
  · rintro ⟨⟨-, suffix, depth⟩, offset⟩
    exact ⟨offset, suffix, depth⟩

example :
    let s : Settings := { localOffset := -2147483648 }
    s.validate = .ok () ∧ s.checkZone = .error (.noZone (-2147483648)) :=
  ⟨rfl, rfl⟩

def ofJson? (j : Json) : Option Settings := do
  match ← j.record? ["reference_id_suffix", "local_offset_seconds", "memoize_resolution",
      "max_depth"] with
  | [suffix, offset, memoize, depth] =>
      let d : Settings := {}
      let suffix ← Json.optional Json.string? d.referenceSuffix suffix
      let offset ← Json.optional (Json.integerBetween? (-2147483648) 2147483647) d.localOffset offset
      let memoize ← Json.optional Json.bool? d.memoize memoize
      let depth ← Json.optional (Json.integerBetween? 0 18446744073709551615) d.maxDepth depth
      return ⟨suffix, offset, memoize, depth.toNat⟩
  | _ => none

end Settings

end FilterQuery
