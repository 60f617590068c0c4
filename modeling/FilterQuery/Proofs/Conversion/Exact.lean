import FilterQuery.Conversion.Basic
import FilterQuery.Proofs.Number.Integer
import FilterQuery.Proofs.Schema.Rearranged

namespace FilterQuery

open Schema (ValueType EnumType Entity)

namespace Text

theorem isHexDigit_toLower {c : Char} (h : isHexDigit c) :
    isHexDigit c.toLower ∧ c.toLower.toLower = c.toLower := by
  have key : "0123456789abcdef".toList.all fun d => isHexDigit d && d.toLower == d := by decide
  simpa using List.all_eq_true.1 key c.toLower (toLower_mem_of_isHexDigit h)

theorem toList_lower (s : String) : (lower s).toList = s.toList.map Char.toLower :=
  String.toList_ofList

theorem all_isHexDigit_lower {s : String} (h : s.toList.all isHexDigit) :
    (lower s).toList.all isHexDigit := by
  rw [toList_lower, List.all_map, List.all_eq_true]
  exact fun c hc => (isHexDigit_toLower (List.all_eq_true.1 h c hc)).1

theorem lower_lower {s : String} (h : s.toList.all isHexDigit) : lower (lower s) = lower s := by
  refine String.toList_inj.1 ?_
  rw [toList_lower, toList_lower, List.map_map]
  exact List.map_congr_left fun c hc => (isHexDigit_toLower (List.all_eq_true.1 h c hc)).2

theorem sameLetters_congr {a b : String} (h : sameLetters a b) (c : String) :
    sameLetters c a = sameLetters c b :=
  Bool.eq_iff_iff.2
    ⟨fun k => sameLetters_trans k h, fun k => sameLetters_trans k (sameLetters_symm h)⟩

end Text

namespace Schema

def EnumType.Leads (e : EnumType) (m : String) : Prop :=
  ∃ before after, e.members = before ++ m :: after ∧
    ∀ other ∈ before, ¬Text.sameLetters other m

variable {e : EnumType} {text m : String}

theorem EnumType.member?_congr (h : Text.sameLetters text m) : e.member? text = e.member? m := by
  simp only [member?, Text.sameLetters_congr h]

theorem EnumType.member?_self_iff : e.member? m = some m ↔ e.Leads m := by
  simp [member?, Leads, List.find?_eq_some_iff_append, Text.sameLetters_refl]

theorem EnumType.member?_eq_some_iff :
    e.member? text = some m ↔ e.Leads m ∧ Text.sameLetters m text := by
  constructor
  · intro h
    obtain ⟨-, same⟩ := mem_of_member? h
    rw [← member?_congr same] at h
    exact ⟨member?_self_iff.1 h, same⟩
  · rintro ⟨leads, same⟩
    rw [← member?_congr same]
    exact member?_self_iff.2 leads

theorem EnumType.exists_member? (h : m ∈ e.members) : ∃ first, e.member? m = some first := by
  rw [← Option.isSome_iff_exists, member?, List.find?_isSome]
  exact ⟨m, h, Text.sameLetters_refl m⟩

end Schema

namespace Doors

open Schema (Identified WellFormed)

def access : EnumType :=
  ⟨"Access", ["OPEN", "open"]⟩

def door : Entity :=
  ⟨"Door", "id", [("id", ⟨.string, false, none, none⟩),
    ("access", ⟨.enum "Access", false, none, none⟩)]⟩

def declarations : Schema.Declarations :=
  ⟨[door], [access]⟩

theorem wellFormed : WellFormed [door] [access] := by
  have fields : declarations.checkFields "Door" "" door.fields = .ok () := by decide
  have id : Identified [door] [door] .string :=
    Identified.scalar (f := ⟨.string, false, none, none⟩) rfl rfl
  refine ⟨by decide, by decide, by decide, by decide, ?_, ?_, ?_⟩
  · exact List.forall_mem_singleton.2 ⟨_, List.mem_cons_self⟩
  · exact List.forall_mem_singleton.2 (Schema.checkFields_eq_ok_iff.1 fields)
  · exact List.forall_mem_singleton.2 ⟨[], _, id, by decide⟩

def schema : Schema :=
  ⟨declarations, Schema.check_eq_ok_iff_wellFormed.2 wellFormed⟩

theorem ofDeclarations : Schema.ofDeclarations [door] [access] = .ok schema :=
  Schema.ofDeclarations_eq_ok_iff.2 rfl

end Doors

def Value.canonical (v : Value) : String :=
  v.text?.getD v.describe

namespace Conversion

open Number (IntegerLiteral)

section

variable {types : CustomTypes} {offset : Int} {target : ValueType} {bits : Nat} {raw : String}
  {v : Value}

theorem toInteger_eq_ok_iff :
    toInteger bits target raw = .ok v ↔
      ∃ n, v = .integer n ∧ IntegerLiteral raw.toList n ∧ -2 ^ bits ≤ n ∧ n < 2 ^ bits := by
  simp only [← Number.readInteger_eq_ok_iff, toInteger]
  cases Number.readInteger bits raw.toList with
  | error fault => simp [refuse]
  | ok n => simp [eq_comm]

theorem toInteger_narrowed {wider : Nat} {other : ValueType} {n : Int} (hb : bits ≤ wider) :
    toInteger bits target raw = .ok (.integer n) ↔
      toInteger wider other raw = .ok (.integer n) ∧ -2 ^ bits ≤ n ∧ n < 2 ^ bits := by
  have grows : (2 : Int) ^ bits ≤ 2 ^ wider := pow_le_pow_right₀ (by decide) hb
  simp only [toInteger_eq_ok_iff, Value.integer.injEq, exists_eq_left']
  constructor
  · rintro ⟨literal, low, high⟩
    exact ⟨⟨literal, by omega, by omega⟩, low, high⟩
  · rintro ⟨⟨literal, -, -⟩, low, high⟩
    exact ⟨literal, low, high⟩

theorem toInteger_refused :
    (∃ n, toInteger bits target raw = .ok (.integer n)) ∨
      ∃ detail, toInteger bits target raw = refuse raw target detail := by
  simp only [toInteger]
  cases Number.readInteger bits raw.toList with
  | error fault => exact .inr ⟨fault.message, rfl⟩
  | ok n => exact .inl ⟨n, rfl⟩

theorem toBoolean_canonical (h : toBoolean raw = .ok v) : toBoolean v.canonical = .ok v := by
  simp only [toBoolean] at h
  split at h
  · next b _ =>
      cases h
      cases b <;> decide +kernel
  · cases h

theorem toInteger_canonical (h : toInteger bits target raw = .ok v) :
    toInteger bits target v.canonical = .ok v := by
  obtain ⟨n, rfl, -, range⟩ := toInteger_eq_ok_iff.1 h
  refine toInteger_eq_ok_iff.2 ⟨n, rfl, ?_, range⟩
  change IntegerLiteral (String.ofList (Number.writeInteger n)).toList n
  rw [String.toList_ofList]
  exact Number.integerLiteral_writeInteger n

theorem toObjectId_canonical (h : toObjectId raw = .ok v) : toObjectId v.canonical = .ok v := by
  simp only [toObjectId] at h
  split at h
  · next hraw =>
      obtain ⟨length, digits⟩ := hraw
      cases h
      change toObjectId (Text.lower raw) = .ok (.objectId (Text.lower raw))
      have closed : (Text.lower raw).toList.length = 24 ∧
          (Text.lower raw).toList.all Text.isHexDigit :=
        ⟨by rw [Text.toList_lower, List.length_map, length], Text.all_isHexDigit_lower digits⟩
      simp only [toObjectId, closed, and_self, if_true, Text.lower_lower digits]
  · cases h

theorem toMember_canonical {e : EnumType} (h : toMember e raw = .ok v) :
    toMember e v.canonical = .ok v := by
  simp only [toMember] at h
  split at h
  · next m hm =>
      cases h
      obtain ⟨leads, -⟩ := Schema.EnumType.member?_eq_some_iff.1 hm
      change toMember e m = .ok (.member e.name m)
      simp only [toMember, Schema.EnumType.member?_self_iff.2 leads]
  · cases h

end

theorem integers_read_exactly (types : CustomTypes) (offset : Int) (raw : String) :
    (∀ n, convert types offset .long raw = .ok (.integer n) ↔
      IntegerLiteral raw.toList n ∧ -2 ^ 63 ≤ n ∧ n < 2 ^ 63) ∧
    (∀ n, convert types offset .integer raw = .ok (.integer n) ↔
      convert types offset .long raw = .ok (.integer n) ∧ -2 ^ 31 ≤ n ∧ n < 2 ^ 31) ∧
    ((∃ n, convert types offset .long raw = .ok (.integer n)) ∨
      ∃ detail, convert types offset .long raw =
        .error (.argument raw "long" (some detail) none)) ∧
    ((∃ n, convert types offset .integer raw = .ok (.integer n)) ∨
      ∃ detail, convert types offset .integer raw =
        .error (.argument raw "integer" (some detail) none)) := by
  refine ⟨fun n => ?_, fun n => toInteger_narrowed (by decide), toInteger_refused,
    toInteger_refused⟩
  simp only [convert, toInteger_eq_ok_iff, Value.integer.injEq, exists_eq_left']

theorem convert_canonical (types : CustomTypes) (offset : Int) {target : ValueType} {raw : String}
    {v : Value} (ht : target ∈ [.boolean, .integer, .long, .string, .objectId] ∨
      ∃ e, target = .enum e)
    (h : convert types offset target raw = .ok v) :
    convert types offset target v.canonical = .ok v := by
  rcases ht with ht | ⟨e, rfl⟩
  · simp only [List.mem_cons, List.not_mem_nil, or_false] at ht
    rcases ht with rfl | rfl | rfl | rfl | rfl <;> simp only [convert] at h ⊢
    · exact toBoolean_canonical h
    · exact toInteger_canonical h
    · exact toInteger_canonical h
    · cases h
      rfl
    · exact toObjectId_canonical h
  · simp only [convert] at h ⊢
    exact toMember_canonical h

theorem convert_canonical_lowest :
    let v := Value.integer (-9223372036854775808)
    let m := Value.member "Access" "OPEN"
    (convert [] 0 .long "-0009223372036854775808" = .ok v ∧
      v.canonical = "-9223372036854775808" ∧ convert [] 0 .long v.canonical = .ok v) ∧
    convert [] 0 (.enum Doors.access) "open" = .ok m ∧ m.canonical = "OPEN" ∧
      convert [] 0 (.enum Doors.access) m.canonical = .ok m := by
  intro v m
  have lowest : convert [] 0 .long "-0009223372036854775808" = .ok v := by decide +kernel
  have member : convert [] 0 (.enum Doors.access) "open" = .ok m := by decide +kernel
  exact ⟨⟨lowest, by decide +kernel, convert_canonical [] 0 (.inl (by decide)) lowest⟩,
    member, rfl, convert_canonical [] 0 (.inr ⟨_, rfl⟩) member⟩

theorem member_read_iff_leads (types : CustomTypes) (offset : Int) {e : EnumType} {m : String}
    (hm : m ∈ e.members) :
    (convert types offset (.enum e) m = .ok (.member e.name m) ↔ e.Leads m) ∧
    ∃ first, convert types offset (.enum e) m = .ok (.member e.name first) ∧ e.Leads first ∧
      Text.sameLetters first m := by
  obtain ⟨first, hf⟩ := EnumType.exists_member? hm
  have read : convert types offset (.enum e) m = .ok (.member e.name first) := by
    simp only [convert, toMember, hf]
  refine ⟨?_, first, read, EnumType.member?_eq_some_iff.1 hf⟩
  rw [read, ← EnumType.member?_self_iff, hf]
  simp

theorem member_read_iff_leads_open :
    "OPEN" ∈ Doors.access.members ∧ Doors.access.Leads "OPEN" ∧
      convert [] 0 (.enum Doors.access) "OPEN" = .ok (.member "Access" "OPEN") := by
  have declared : "OPEN" ∈ Doors.access.members := by decide
  have leads : Doors.access.Leads "OPEN" := ⟨[], ["open"], rfl, nofun⟩
  exact ⟨declared, leads, (member_read_iff_leads [] 0 declared).1.2 leads⟩

theorem declared_member_not_read :
    Schema.ofDeclarations [Doors.door] [Doors.access] = .ok Doors.schema ∧
    Doors.schema.enum? "Access" = some Doors.access ∧ "open" ∈ Doors.access.members ∧
      convert [] 0 (.enum Doors.access) "open" = .ok (.member "Access" "OPEN") ∧
      convert [] 0 (.enum Doors.access) "open" ≠ .ok (.member "Access" "open") :=
  ⟨Doors.ofDeclarations, rfl, by decide, by decide +kernel, by decide +kernel⟩

end Conversion

end FilterQuery
