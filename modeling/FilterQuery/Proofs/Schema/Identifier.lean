import FilterQuery.Proofs.Schema.Names

namespace FilterQuery.Schema

inductive Identified (entities : List Entity) : List Entity → FieldType → Prop
  | scalar {e : Entity} {f : Field} (h : e.id? = some f) (hf : f.type.isScalar) :
      Identified entities [e] f.type
  | reference {e next : Entity} {way : List Entity} {f : Field} {type : FieldType}
      (h : e.id? = some f) (hf : f.type = .reference next.name) (hn : next ∈ entities)
      (k : Identified entities (next :: way) type) :
      Identified entities (e :: next :: way) type

section

variable {entities way : List Entity} {d : Declarations} {e : Entity} {type : FieldType}

theorem Identified.mem (h : Identified entities (e :: way) type) : ∀ x ∈ way, x ∈ entities := by
  generalize hw : e :: way = whole at h
  induction h generalizing e way with
  | scalar _ _ =>
      cases hw
      simp
  | reference _ _ hn _ ih =>
      cases hw
      exact List.forall_mem_cons.2 ⟨hn, ih rfl⟩

theorem Identified.unique {way' : List Entity} {type' : FieldType}
    (distinct : (entities.map Entity.name).Nodup) (h : Identified entities (e :: way) type)
    (k : Identified entities (e :: way') type') : way = way' ∧ type = type' := by
  generalize hw : e :: way = whole at h
  induction h generalizing e way way' with
  | scalar h hf =>
      cases hw
      cases k with
      | scalar h' _ =>
          cases h.symm.trans h'
          exact ⟨rfl, rfl⟩
      | reference h' ht _ _ =>
          cases h.symm.trans h'
          simp [ht, FieldType.isScalar] at hf
  | reference h ht hn _ ih =>
      cases hw
      cases k with
      | scalar h' hf =>
          cases h.symm.trans h'
          simp [ht, FieldType.isScalar] at hf
      | reference h' ht' hn' k =>
          cases h.symm.trans h'
          have named := FieldType.reference.inj (ht.symm.trans ht')
          cases List.inj_on_of_nodup_map distinct hn hn' named
          obtain ⟨rfl, rfl⟩ := ih k rfl
          exact ⟨rfl, rfl⟩

theorem length_le_of_nodup (h : (way.map Entity.name).Nodup) (hm : ∀ x ∈ way, x ∈ entities) :
    way.length ≤ entities.length := by
  have sub : way.map Entity.name ⊆ entities.map Entity.name := List.map_subset _ hm
  simpa using (List.subperm_of_subset h sub).length_le

theorem identifierType_eq_ok_iff_step {unvisited : List String} :
    d.identifierType unvisited e = .ok type ↔
      e.name ∈ unvisited ∧ ∃ f, e.id? = some f ∧
        (f.type.isScalar ∧ f.type = type ∨
          ∃ target next, f.type = .reference target ∧ d.entity? target = some next ∧
            d.identifierType (unvisited.erase e.name) next = .ok type) := by
  rw [Declarations.identifierType]
  split
  · next hv =>
      simp only [hv, true_and]
      cases hf : e.id? with
      | none => simp
      | some f =>
          obtain ⟨t, isArray, storedAs, fields⟩ := f
          cases t with
          | reference target =>
              cases hn : d.entity? target with
              | none => simp [hn, FieldType.isScalar]
              | some next => simp [hn, FieldType.isScalar]
          | _ => simp [FieldType.isScalar]
  · next hv => simp [hv]

theorem identified_of_identifierType {unvisited : List String} (hu : unvisited.Nodup)
    (h : d.identifierType unvisited e = .ok type) :
    ∃ way, Identified d.entities (e :: way) type ∧ ((e :: way).map Entity.name).Nodup ∧
      (e :: way).map Entity.name ⊆ unvisited := by
  induction hl : unvisited.length generalizing unvisited e with
  | zero =>
      obtain ⟨hv, -⟩ := identifierType_eq_ok_iff_step.1 h
      simp [List.length_eq_zero_iff.1 hl] at hv
  | succ n ih =>
      obtain ⟨hv, f, hf, ⟨hs, rfl⟩ | ⟨target, next, ht, hn, hr⟩⟩ :=
        identifierType_eq_ok_iff_step.1 h
      · exact ⟨[], .scalar hf hs, by simp, by simpa using hv⟩
      · obtain ⟨hm, rfl⟩ := mem_of_entity? hn
        have hlen : (unvisited.erase e.name).length = n := by
          rw [List.length_erase_of_mem hv, hl]
          rfl
        obtain ⟨way, hw, nodup, sub⟩ := ih (hu.erase _) hr hlen
        -- What is entered later was still unvisited after the first entity was taken off.
        have fresh : e.name ∉ (next :: way).map Entity.name := fun hc => hu.not_mem_erase (sub hc)
        refine ⟨next :: way, .reference hf ht hm hw, List.nodup_cons.2 ⟨fresh, nodup⟩, ?_⟩
        exact List.cons_subset.2 ⟨hv, List.Subset.trans sub List.erase_subset⟩

theorem identifierType_of_identified (hs : (d.entities.map Entity.name).Nodup)
    {unvisited : List String} (h : Identified d.entities way type)
    (hd : (way.map Entity.name).Nodup) (hu : way.map Entity.name ⊆ unvisited)
    (he : way.head? = some e) : d.identifierType unvisited e = .ok type := by
  induction h generalizing unvisited e with
  | scalar hf hscalar =>
      cases he
      exact identifierType_eq_ok_iff_step.2 ⟨hu (by simp), _, hf, .inl ⟨hscalar, rfl⟩⟩
  | @reference first next way f type hf ht hn _ ih =>
      cases he
      obtain ⟨fresh, nodup⟩ := List.nodup_cons.1 hd
      obtain ⟨hv, sub⟩ := List.cons_subset.1 hu
      have found : d.entity? next.name = some next := (entity?_eq_some_iff hs).2 ⟨hn, rfl⟩
      refine identifierType_eq_ok_iff_step.2 ⟨hv, f, hf, .inr ⟨next.name, next, ht, found, ?_⟩⟩
      refine ih nodup (fun name hm => ?_) rfl
      exact (List.mem_erase_of_ne (ne_of_mem_of_not_mem hm fresh)).2 (sub hm)

theorem idType_eq_ok_iff (hs : (d.entities.map Entity.name).Nodup) (he : e ∈ d.entities) :
    d.idType e = .ok type ↔
      ∃ way, Identified d.entities (e :: way) type ∧ ((e :: way).map Entity.name).Nodup := by
  constructor
  · intro h
    obtain ⟨way, hw, nodup, -⟩ := identified_of_identifierType hs h
    exact ⟨way, hw, nodup⟩
  · rintro ⟨way, hw, nodup⟩
    have sub : (e :: way).map Entity.name ⊆ d.entities.map Entity.name :=
      List.map_subset _ (List.forall_mem_cons.2 ⟨he, hw.mem⟩)
    exact identifierType_of_identified hs hw nodup sub rfl

end

end FilterQuery.Schema
