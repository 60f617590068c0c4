import FilterQuery.Proofs.Schema.Declared
import FilterQuery.Proofs.Schema.Identifier

namespace FilterQuery.Schema

structure WellFormed (entities : List Entity) (enums : List EnumType) : Prop where
  entityNames : ∀ e ∈ entities, e.name ≠ ""
  distinctEntities : (entities.map Entity.name).Nodup
  distinctEnums : (enums.map EnumType.name).Nodup
  members : ∀ e ∈ enums, e.members ≠ []
  identifier : ∀ e ∈ entities, ∃ f, (e.idField, f) ∈ e.fields
  sound : ∀ e ∈ entities, ∀ name f, Declared e.fields name f → f.Sound ⟨entities, enums⟩ name
  identified : ∀ e ∈ entities, ∃ way type,
    Identified entities (e :: way) type ∧ ((e :: way).map Entity.name).Nodup

def Fresh (seen names : List String) : Prop :=
  names.Nodup ∧ ∀ name ∈ names, name ∉ seen

theorem fresh_nil_left {names : List String} : Fresh [] names ↔ names.Nodup := by
  simp [Fresh]

theorem fresh_nil_right (seen : List String) : Fresh seen [] := by
  simp [Fresh]

theorem fresh_cons {seen names : List String} {name : String} :
    Fresh seen (name :: names) ↔ name ∉ seen ∧ Fresh (name :: seen) names := by
  constructor
  · rintro ⟨nodup, unseen⟩
    obtain ⟨hn, nodup⟩ := List.nodup_cons.1 nodup
    obtain ⟨first, others⟩ := List.forall_mem_cons.1 unseen
    refine ⟨first, nodup, fun other hm => ?_⟩
    exact List.not_mem_cons_of_ne_of_not_mem (ne_of_mem_of_not_mem hm hn) (others other hm)
  · rintro ⟨first, nodup, unseen⟩
    have hn : name ∉ names := fun hm => unseen name hm List.mem_cons_self
    refine ⟨List.nodup_cons.2 ⟨hn, nodup⟩, List.forall_mem_cons.2 ⟨first, fun other hm => ?_⟩⟩
    exact List.not_mem_of_not_mem_cons (unseen other hm)

theorem checkEntityNames_eq_ok_iff {seen : List String} {entities : List Entity} :
    checkEntityNames seen entities = .ok () ↔
      (∀ e ∈ entities, e.name ≠ "") ∧ Fresh seen (entities.map Entity.name) := by
  induction entities generalizing seen with
  | nil => simp [checkEntityNames, fresh_nil_right]
  | cons e rest ih =>
      rw [checkEntityNames, List.map_cons, fresh_cons, List.forall_mem_cons]
      split
      · next he => simp [String.isEmpty_iff.1 he]
      · next he =>
          have named : e.name ≠ "" := by simpa using he
          split
          · next hs => simp [List.contains_iff_mem.1 hs]
          · next hs =>
              have unseen : e.name ∉ seen := by simpa using hs
              simp only [ih, named, unseen, ne_eq, not_false_eq_true, true_and]

theorem checkEnums_eq_ok_iff {seen : List String} {enums : List EnumType} :
    checkEnums seen enums = .ok () ↔
      (∀ e ∈ enums, e.members ≠ []) ∧ Fresh seen (enums.map EnumType.name) := by
  induction enums generalizing seen with
  | nil => simp [checkEnums, fresh_nil_right]
  | cons e rest ih =>
      rw [checkEnums, List.map_cons, fresh_cons, List.forall_mem_cons]
      split
      · next he => simp [List.isEmpty_iff.1 he]
      · next he =>
          have inhabited : e.members ≠ [] := by simpa using he
          split
          · next hs => simp [List.contains_iff_mem.1 hs]
          · next hs =>
              have unseen : e.name ∉ seen := by simpa using hs
              simp only [ih, inhabited, unseen, ne_eq, not_false_eq_true, true_and]

theorem id?_isSome_iff {e : Entity} : e.id?.isSome ↔ ∃ f, (e.idField, f) ∈ e.fields := by
  simp [Entity.id?, List.lookup_isSome_iff]

theorem checkEntity_eq_ok_iff_sound {d : Declarations} {e : Entity} :
    d.checkEntity e = .ok () ↔
      (∃ f, (e.idField, f) ∈ e.fields) ∧
        (∀ name f, Declared e.fields name f → f.Sound d name) ∧
          ∃ type, d.idType e = .ok type := by
  rw [checkEntity_eq_ok_iff, id?_isSome_iff, checkFields_eq_ok_iff]

theorem check_eq_ok_iff_wellFormed {d : Declarations} :
    d.check = .ok () ↔ WellFormed d.entities d.enums := by
  rw [check_eq_ok_iff, checkEntityNames_eq_ok_iff, checkEnums_eq_ok_iff, fresh_nil_left,
    fresh_nil_left]
  constructor
  · rintro ⟨⟨named, distinct⟩, ⟨members, distinctEnums⟩, checked⟩
    refine ⟨named, distinct, distinctEnums, members, ?_, ?_, ?_⟩
    · intro e he
      exact (checkEntity_eq_ok_iff_sound.1 (checked e he)).1
    · intro e he
      exact (checkEntity_eq_ok_iff_sound.1 (checked e he)).2.1
    · intro e he
      obtain ⟨type, ht⟩ := (checkEntity_eq_ok_iff_sound.1 (checked e he)).2.2
      obtain ⟨way, hw⟩ := (idType_eq_ok_iff distinct he).1 ht
      exact ⟨way, type, hw⟩
  · intro h
    refine ⟨⟨h.entityNames, h.distinctEntities⟩, ⟨h.members, h.distinctEnums⟩, ?_⟩
    intro e he
    obtain ⟨way, type, hw⟩ := h.identified e he
    have ends := (idType_eq_ok_iff h.distinctEntities he).2 ⟨way, hw⟩
    exact checkEntity_eq_ok_iff_sound.2 ⟨h.identifier e he, h.sound e he, type, ends⟩

theorem wellFormed (s : Schema) : WellFormed s.entities s.enums :=
  check_eq_ok_iff_wellFormed.1 s.valid

theorem build_eq_ok_iff {entities : List Entity} {enums : List EnumType} {s : Schema} :
    build entities enums = .ok s ↔ s.toDeclarations = ⟨entities, enums⟩ := by
  rw [build]
  split
  · next hv =>
      constructor
      · rintro ⟨⟩
        rfl
      · rintro h
        cases s
        cases h
        rfl
  · next hv =>
      constructor
      · nofun
      · intro h
        cases hv.symm.trans (h ▸ s.valid)

end FilterQuery.Schema
