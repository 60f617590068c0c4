import FilterQuery.Schema.Basic
import Mathlib.Data.List.Nodup
import Mathlib.Data.List.Perm.Subperm
import Mathlib.Data.String.Basic

namespace FilterQuery.Schema

theorem find?_eq_some_iff_of_nodup {α : Type} {key : α → String} {xs : List α}
    (h : (xs.map key).Nodup) {name : String} {x : α} :
    xs.find? (fun x => key x == name) = some x ↔ x ∈ xs ∧ key x = name := by
  constructor
  · intro hx
    exact ⟨List.mem_of_find?_eq_some hx, by simpa using List.find?_some hx⟩
  · rintro ⟨hx, rfl⟩
    obtain ⟨y, hy⟩ := Option.isSome_iff_exists.1
      (List.find?_isSome (p := fun y => key y == key x).2 ⟨x, hx, by simp⟩)
    have same : key y = key x := by simpa using List.find?_some hy
    rw [hy, List.inj_on_of_nodup_map h (List.mem_of_find?_eq_some hy) hx same]

theorem mem_of_lookup {fields : List (String × Field)} {name : String} {f : Field}
    (h : fields.lookup name = some f) : (name, f) ∈ fields := by
  obtain ⟨before, after, rfl, -⟩ := List.lookup_eq_some_iff.1 h
  exact List.mem_append_right _ List.mem_cons_self

theorem lookup_eq_some_iff_of_nodup {fields : List (String × Field)}
    (h : (fields.map Prod.fst).Nodup) {name : String} {f : Field} :
    fields.lookup name = some f ↔ (name, f) ∈ fields := by
  induction fields with
  | nil => simp
  | cons entry rest ih =>
      obtain ⟨other, g⟩ := entry
      obtain ⟨hn, hr⟩ := List.nodup_cons.1 h
      by_cases he : name = other
      · subst he
        have absent : (name, f) ∉ rest := fun hm => hn (List.mem_map.2 ⟨(name, f), hm, rfl⟩)
        simp [absent, eq_comm]
      · have hb : (name == other) = false := by simpa using he
        simp [List.lookup_cons, hb, he, ih hr]

section

variable {d : Declarations} {name : String}

theorem entity?_eq_some_iff (h : (d.entities.map Entity.name).Nodup) {e : Entity} :
    d.entity? name = some e ↔ e ∈ d.entities ∧ e.name = name :=
  find?_eq_some_iff_of_nodup h

theorem enum?_eq_some_iff (h : (d.enums.map EnumType.name).Nodup) {e : EnumType} :
    d.enum? name = some e ↔ e ∈ d.enums ∧ e.name = name :=
  find?_eq_some_iff_of_nodup h

theorem hasEntity_iff : d.hasEntity name ↔ ∃ e ∈ d.entities, e.name = name := by
  simp [Declarations.hasEntity, Declarations.entity?, List.find?_isSome]

theorem hasEnum_iff : d.hasEnum name ↔ ∃ e ∈ d.enums, e.name = name := by
  simp [Declarations.hasEnum, Declarations.enum?, List.find?_isSome]

end

theorem pairwise_insertName {name : String} {names : List String} (h : names.Pairwise (· < ·))
    (hn : name ∉ names) : (insertName name names).Pairwise (· < ·) := by
  induction names with
  | nil => simp [insertName]
  | cons other rest ih =>
      obtain ⟨first, others⟩ := List.pairwise_cons.1 h
      simp only [List.mem_cons, not_or] at hn
      simp only [insertName]
      split
      · next hlt =>
          refine List.pairwise_cons.2 ⟨?_, h⟩
          intro wanted hw
          rcases List.mem_cons.1 hw with rfl | hw
          · exact hlt
          · exact hlt.trans (first wanted hw)
      · next hge =>
          have lt : other < name := lt_of_le_of_ne (not_lt.1 hge) (Ne.symm hn.1)
          refine List.pairwise_cons.2 ⟨?_, ih others hn.2⟩
          intro wanted hw
          rcases mem_insertName.1 hw with rfl | hw
          · exact lt
          · exact first wanted hw

theorem pairwise_sortNames {names : List String} (h : names.Nodup) :
    (sortNames names).Pairwise (· < ·) := by
  induction names with
  | nil => exact .nil
  | cons name rest ih =>
      obtain ⟨hn, hr⟩ := List.nodup_cons.1 h
      exact pairwise_insertName (ih hr) (mt mem_sortNames.1 hn)

theorem mem_entityNames {d : Declarations} {name : String} :
    name ∈ d.entityNames ↔ ∃ e ∈ d.entities, e.name = name := by
  rw [Declarations.entityNames, mem_sortNames, List.mem_map]

end FilterQuery.Schema
