import FilterQuery.Outcome
import FilterQuery.Proofs.Schema.Names
import FilterQuery.Schema.Validity

namespace FilterQuery.Schema

@[elab_as_elim, induction_eliminator]
theorem Field.inductionOn {motive : Field → Prop} (f : Field)
    (mk : ∀ type isArray storedAs fields,
      (∀ inner, fields = some inner → ∀ name g, (name, g) ∈ inner → motive g) →
        motive ⟨type, isArray, storedAs, fields⟩) : motive f := by
  refine @Field.rec motive
    (fun fields => ∀ inner, fields = some inner → ∀ name g, (name, g) ∈ inner → motive g)
    (fun inner => ∀ name g, (name, g) ∈ inner → motive g) (fun entry => motive entry.2)
    mk ?_ ?_ ?_ ?_ ?_ f
  · rintro inner ⟨⟩
  · rintro inner h _ ⟨⟩
    exact h
  · intro name g hg
    cases hg
  · intro entry rest h hs name g hg
    rcases List.mem_cons.1 hg with rfl | hg
    · exact h
    · exact hs name g hg
  · intro name g h
    exact h

inductive Declared : List (String × Field) → String → Field → Prop
  | direct {fields : List (String × Field)} {name : String} {f : Field}
      (h : (name, f) ∈ fields) : Declared fields name f
  | inner {fields inner : List (String × Field)} {outer name : String} {g f : Field}
      (h : (outer, g) ∈ fields) (hg : g.fields = some inner) (hf : Declared inner name f) :
      Declared fields name f

theorem forall_declared_iff {fields : List (String × Field)} {P : String → Field → Prop} :
    (∀ name f, Declared fields name f → P name f) ↔
      ∀ name f, (name, f) ∈ fields →
        P name f ∧ ∀ inner, f.fields = some inner → ∀ other g, Declared inner other g → P other g := by
  constructor
  · intro h name f hf
    refine ⟨h name f (.direct hf), ?_⟩
    intro inner hi other g hg
    exact h other g (.inner hf hi hg)
  · intro h name f hf
    cases hf with
    | direct hm => exact (h name f hm).1
    | inner hm hi hf => exact (h _ _ hm).2 _ hi name f hf

def Segment (name : String) : Prop :=
  name ≠ "" ∧ '.' ∉ name.toList

theorem isSegment_iff {name : String} : isSegment name ↔ Segment name := by
  simp [isSegment, Segment]

structure Field.Sound (d : Declarations) (name : String) (f : Field) : Prop where
  name : Segment name
  storedAs : ∀ stored, f.storedAs = some stored → Segment stored
  fields : f.fields.isSome ↔ f.type = .object
  reference : ∀ target, f.type = .reference target → ∃ e ∈ d.entities, e.name = target
  enum : ∀ enum, f.type = .enum enum → ∃ e ∈ d.enums, e.name = enum

section

variable {d : Declarations} {entity path name : String} {f : Field}

theorem isTraversable_iff {type : FieldType} : type.isTraversable ↔ type = .object := by
  cases type <;> simp [FieldType.isTraversable]

theorem faultAt_eq_ok_iff {α : Type} {r : Except FieldFault α} {a : α} :
    faultAt entity path r = .ok a ↔ r = .ok a :=
  Outcome.mapError_eq_ok_iff

theorem checkNames_eq_ok_iff :
    checkNames name f = .ok () ↔
      Segment name ∧ ∀ stored, f.storedAs = some stored → Segment stored := by
  unfold checkNames
  cases hs : f.storedAs with
  | none => simp [← isSegment_iff]
  | some stored =>
      simp only [← isSegment_iff, Option.some.injEq, forall_eq']
      cases isSegment name <;> cases isSegment stored <;> simp

theorem checkReference_eq_ok_iff {type : FieldType} :
    d.checkReference type = .ok () ↔
      (∀ target, type = .reference target → ∃ e ∈ d.entities, e.name = target) ∧
        ∀ enum, type = .enum enum → ∃ e ∈ d.enums, e.name = enum := by
  cases type <;> simp [Declarations.checkReference, ← hasEntity_iff, ← hasEnum_iff]

theorem checkFieldsOn_eq_ok_iff :
    checkFieldsOn f = .ok () ↔ (f.fields.isSome → f.type = .object) := by
  simp [checkFieldsOn, ← isTraversable_iff]

theorem checkInner_eq_ok_iff {fields : Option (List (String × Field))} :
    d.checkInner entity path fields = .ok () ↔
      ∃ inner, fields = some inner ∧ d.checkFields entity path inner = .ok () := by
  cases fields <;> simp [Declarations.checkInner]

theorem checkFields_eq_ok_iff_forall {fields : List (String × Field)} :
    d.checkFields entity path fields = .ok () ↔
      ∀ name f, (name, f) ∈ fields → d.checkField entity path name f = .ok () := by
  induction fields with
  | nil => simp [Declarations.checkFields]
  | cons entry rest ih =>
      obtain ⟨name, f⟩ := entry
      simp only [Declarations.checkFields, Outcome.then_eq_ok_iff, ih, List.mem_cons, Prod.mk.injEq]
      constructor
      · rintro ⟨first, others⟩ other g (⟨rfl, rfl⟩ | hg)
        · exact first
        · exact others other g hg
      · intro h
        exact ⟨h name f (.inl ⟨rfl, rfl⟩), fun other g hg => h other g (.inr hg)⟩

theorem checkField_eq_ok_iff :
    d.checkField entity path name f = .ok () ↔
      f.Sound d name ∧ ∀ inner, f.fields = some inner →
        d.checkFields entity (joinPath path name) inner = .ok () := by
  obtain ⟨type, isArray, storedAs, fields⟩ := f
  simp only [Declarations.checkField, Outcome.then_eq_ok_iff, faultAt_eq_ok_iff,
    checkNames_eq_ok_iff]
  split
  · next ht =>
      subst ht
      simp only [Outcome.then_eq_ok_iff, faultAt_eq_ok_iff, checkInner_eq_ok_iff,
        checkFieldsOn_eq_ok_iff]
      constructor
      · rintro ⟨⟨hn, hs⟩, ⟨inner, rfl, hi⟩, -⟩
        refine ⟨⟨hn, hs, by simp, by simp, by simp⟩, ?_⟩
        rintro _ ⟨⟩
        exact hi
      · rintro ⟨hf, hi⟩
        obtain ⟨inner, rfl⟩ := Option.isSome_iff_exists.1 (hf.fields.2 rfl)
        exact ⟨⟨hf.name, hf.storedAs⟩, ⟨inner, rfl, hi inner rfl⟩, by simp⟩
  · next ht =>
      simp only [Outcome.then_eq_ok_iff, faultAt_eq_ok_iff, checkReference_eq_ok_iff,
        checkFieldsOn_eq_ok_iff]
      constructor
      · rintro ⟨⟨hn, hs⟩, ⟨hr, he⟩, hi⟩
        refine ⟨⟨hn, hs, ⟨hi, fun h => absurd h ht⟩, hr, he⟩, ?_⟩
        rintro inner rfl
        exact absurd (hi rfl) ht
      · rintro ⟨hf, -⟩
        exact ⟨⟨hf.name, hf.storedAs⟩, ⟨hf.reference, hf.enum⟩, hf.fields.1⟩

theorem checkField_eq_ok_iff_sound :
    d.checkField entity path name f = .ok () ↔
      f.Sound d name ∧ ∀ inner, f.fields = some inner →
        ∀ other g, Declared inner other g → g.Sound d other := by
  induction f generalizing path name with
  | mk type isArray storedAs fields ih =>
      rw [checkField_eq_ok_iff]
      refine and_congr_right fun _ => forall₂_congr fun inner hi => ?_
      rw [checkFields_eq_ok_iff_forall, forall_declared_iff]
      exact forall₃_congr fun other g hg => ih inner hi other g hg

theorem checkFields_eq_ok_iff {fields : List (String × Field)} :
    d.checkFields entity path fields = .ok () ↔
      ∀ name f, Declared fields name f → f.Sound d name := by
  rw [checkFields_eq_ok_iff_forall, forall_declared_iff]
  exact forall₃_congr fun name f _ => checkField_eq_ok_iff_sound

end

end FilterQuery.Schema
