import FilterQuery.Compilation.Source
import FilterQuery.Proofs.Schema.WellFormed

namespace FilterQuery.Schema

inductive Rearranged : List (String × Field) → List (String × Field) → Prop
  | nil : Rearranged [] []
  | cons {fields fields' : List (String × Field)} (entry : String × Field)
      (h : Rearranged fields fields') : Rearranged (entry :: fields) (entry :: fields')
  | embedded {name : String} {type : FieldType} {isArray : Bool} {storedAs : Option String}
      {inner inner' fields fields' : List (String × Field)}
      (hi : Rearranged inner inner') (h : Rearranged fields fields') :
      Rearranged ((name, ⟨type, isArray, storedAs, some inner⟩) :: fields)
        ((name, ⟨type, isArray, storedAs, some inner'⟩) :: fields')
  | swap (first second : String × Field) (fields : List (String × Field)) :
      Rearranged (first :: second :: fields) (second :: first :: fields)
  | trans {fields fields' fields'' : List (String × Field)} (h : Rearranged fields fields')
      (k : Rearranged fields' fields'') : Rearranged fields fields''

structure Field.Alike (f g : Field) : Prop where
  type : f.type = g.type
  storedAs : f.storedAs = g.storedAs
  fields : f.fields.isSome = g.fields.isSome

theorem Field.Alike.refl (f : Field) : f.Alike f :=
  ⟨rfl, rfl, rfl⟩

theorem Field.Alike.trans {f g h : Field} (k : f.Alike g) (l : g.Alike h) : f.Alike h :=
  ⟨k.type.trans l.type, k.storedAs.trans l.storedAs, k.fields.trans l.fields⟩

section

variable {fields fields' : List (String × Field)}

theorem Rearranged.refl (fields : List (String × Field)) : Rearranged fields fields := by
  induction fields with
  | nil => exact .nil
  | cons entry fields ih => exact .cons entry ih

theorem Rearranged.symm (h : Rearranged fields fields') : Rearranged fields' fields := by
  induction h with
  | nil => exact .nil
  | cons entry _ ih => exact .cons entry ih
  | embedded _ _ ihi ih => exact .embedded ihi ih
  | swap first second fields => exact .swap second first fields
  | trans _ _ ih ih' => exact .trans ih' ih

theorem Rearranged.perm_names (h : Rearranged fields fields') :
    (fields.map Prod.fst).Perm (fields'.map Prod.fst) := by
  induction h with
  | nil => exact .nil
  | cons entry _ ih => exact ih.cons entry.1
  | embedded _ _ _ ih => exact ih.cons _
  | swap first second fields => exact .swap second.1 first.1 _
  | trans _ _ ih ih' => exact ih.trans ih'

theorem Rearranged.mem (h : Rearranged fields fields') {name : String} {f : Field}
    (hf : (name, f) ∈ fields) : ∃ g, (name, g) ∈ fields' ∧ f.Alike g := by
  induction h generalizing f with
  | nil => cases hf
  | cons entry _ ih =>
      rcases List.mem_cons.1 hf with rfl | hf
      · exact ⟨f, List.mem_cons_self, .refl f⟩
      · obtain ⟨g, hg, alike⟩ := ih hf
        exact ⟨g, List.mem_cons_of_mem _ hg, alike⟩
  | embedded _ _ _ ih =>
      rcases List.mem_cons.1 hf with he | hf
      · cases he
        exact ⟨_, List.mem_cons_self, rfl, rfl, rfl⟩
      · obtain ⟨g, hg, alike⟩ := ih hf
        exact ⟨g, List.mem_cons_of_mem _ hg, alike⟩
  | swap first second fields =>
      exact ⟨f, (List.Perm.swap second first fields).mem_iff.1 hf, .refl f⟩
  | trans _ _ ih ih' =>
      obtain ⟨g, hg, alike⟩ := ih hf
      obtain ⟨g', hg', alike'⟩ := ih' hg
      exact ⟨g', hg', alike.trans alike'⟩

theorem Declared.mono {name : String} {f : Field} (h : fields ⊆ fields')
    (hf : Declared fields name f) : Declared fields' name f := by
  cases hf with
  | direct hm => exact .direct (h hm)
  | inner hm hi hf => exact .inner (h hm) hi hf

theorem declared_cons_iff {entry : String × Field} {name : String} {f : Field} :
    Declared (entry :: fields) name f ↔ Declared [entry] name f ∨ Declared fields name f := by
  constructor
  · intro h
    cases h with
    | direct hm =>
        rcases List.mem_cons.1 hm with rfl | hm
        · exact .inl (.direct List.mem_cons_self)
        · exact .inr (.direct hm)
    | inner hm hi hf =>
        rcases List.mem_cons.1 hm with rfl | hm
        · exact .inl (.inner List.mem_cons_self hi hf)
        · exact .inr (.inner hm hi hf)
  · rintro (h | h)
    · exact h.mono (by simp)
    · exact h.mono (List.subset_cons_self entry fields)

theorem Rearranged.declared (h : Rearranged fields fields') {name : String} {f : Field}
    (hf : Declared fields name f) : ∃ g, Declared fields' name g ∧ f.Alike g := by
  induction h generalizing f with
  | nil => exact ⟨f, hf, .refl f⟩
  | cons entry _ ih =>
      rcases declared_cons_iff.1 hf with hf | hf
      · exact ⟨f, declared_cons_iff.2 (.inl hf), .refl f⟩
      · obtain ⟨g, hg, alike⟩ := ih hf
        exact ⟨g, declared_cons_iff.2 (.inr hg), alike⟩
  | embedded _ _ ihi ih =>
      rcases declared_cons_iff.1 hf with hf | hf
      · cases hf with
        | direct hm =>
            cases List.mem_singleton.1 hm
            exact ⟨_, .direct List.mem_cons_self, rfl, rfl, rfl⟩
        | inner hm hi hf =>
            cases List.mem_singleton.1 hm
            cases hi
            obtain ⟨g, hg, alike⟩ := ihi hf
            exact ⟨g, .inner List.mem_cons_self rfl hg, alike⟩
      · obtain ⟨g, hg, alike⟩ := ih hf
        exact ⟨g, declared_cons_iff.2 (.inr hg), alike⟩
  | swap first second fields =>
      exact ⟨f, hf.mono (List.Perm.swap second first fields).subset, .refl f⟩
  | trans _ _ ih ih' =>
      obtain ⟨g, hg, alike⟩ := ih hf
      obtain ⟨g', hg', alike'⟩ := ih' hg
      exact ⟨g', hg', alike.trans alike'⟩

end

structure Entity.Rearranged (e e' : Entity) : Prop where
  name : e.name = e'.name
  idField : e.idField = e'.idField
  fields : Schema.Rearranged e.fields e'.fields
  distinct : (e.fields.map Prod.fst).Nodup

structure SameEntities (entities entities' : List Entity) : Prop where
  names : (entities.map Entity.name).Perm (entities'.map Entity.name)
  forth : ∀ e ∈ entities, ∃ e' ∈ entities', e.Rearranged e'
  back : ∀ e' ∈ entities', ∃ e ∈ entities, e.Rearranged e'

section

variable {entities entities' : List Entity} {enums enums' : List EnumType} {e e' : Entity}

theorem Entity.Rearranged.symm (h : e.Rearranged e') : e'.Rearranged e :=
  ⟨h.name.symm, h.idField.symm, h.fields.symm, h.fields.perm_names.nodup_iff.1 h.distinct⟩

theorem SameEntities.symm (h : SameEntities entities entities') :
    SameEntities entities' entities := by
  refine ⟨h.names.symm, fun e' he' => ?_, fun e he => ?_⟩
  · obtain ⟨e, he, hr⟩ := h.back e' he'
    exact ⟨e, he, hr.symm⟩
  · obtain ⟨e', he', hr⟩ := h.forth e he
    exact ⟨e', he', hr.symm⟩

theorem SameEntities.exists_name_iff (h : SameEntities entities entities') {name : String} :
    (∃ e ∈ entities, e.name = name) ↔ ∃ e ∈ entities', e.name = name := by
  simpa only [List.mem_map] using h.names.mem_iff (a := name)

theorem Entity.Rearranged.id? (h : e.Rearranged e') {f : Field} (hf : e.id? = some f) :
    ∃ g, e'.id? = some g ∧ f.type = g.type := by
  obtain ⟨g, hg, alike⟩ := h.fields.mem ((lookup_eq_some_iff_of_nodup h.distinct).1 hf)
  refine ⟨g, ?_, alike.type⟩
  rw [Entity.id?, ← h.idField]
  exact (lookup_eq_some_iff_of_nodup h.symm.distinct).2 hg

theorem Identified.rearranged {way : List Entity} {type : FieldType}
    (h : Identified entities way type) (hs : SameEntities entities entities')
    (he : way.head? = some e) (hr : e.Rearranged e') :
    ∃ way', Identified entities' (e' :: way') type ∧
      (e' :: way').map Entity.name = way.map Entity.name := by
  induction h generalizing e e' with
  | scalar hf hscalar =>
      cases he
      obtain ⟨g, hg, ht⟩ := hr.id? hf
      rw [ht] at hscalar ⊢
      exact ⟨[], .scalar hg hscalar, by simp [hr.name]⟩
  | @reference first next way f type hf ht hn _ ih =>
      cases he
      obtain ⟨g, hg, hgt⟩ := hr.id? hf
      obtain ⟨next', hn', hr'⟩ := hs.forth next hn
      obtain ⟨way', hw, names⟩ := ih rfl hr'
      refine ⟨next' :: way', .reference hg ?_ hn' hw, ?_⟩
      · rw [← hgt, ht, hr'.name]
      · rw [List.map_cons, names, ← hr.name, List.map_cons (a := first)]

theorem Field.Sound.alike {name : String} {f g : Field} (h : f.Sound ⟨entities, enums⟩ name)
    (k : f.Alike g) (hs : SameEntities entities entities') (hp : enums.Perm enums') :
    g.Sound ⟨entities', enums'⟩ name := by
  refine ⟨h.name, ?_, ?_, ?_, ?_⟩
  · rw [← k.storedAs]
    exact h.storedAs
  · rw [← k.fields, ← k.type]
    exact h.fields
  · intro target ht
    exact hs.exists_name_iff.1 (h.reference target (k.type.trans ht))
  · intro enum ht
    obtain ⟨e, he, hn⟩ := h.enum enum (k.type.trans ht)
    exact ⟨e, hp.mem_iff.1 he, hn⟩

theorem WellFormed.rearranged (h : WellFormed entities enums) (hs : SameEntities entities entities')
    (hp : enums.Perm enums') : WellFormed entities' enums' where
  entityNames e' he' := by
    obtain ⟨e, he, hr⟩ := hs.back e' he'
    rw [← hr.name]
    exact h.entityNames e he
  distinctEntities := hs.names.nodup_iff.1 h.distinctEntities
  distinctEnums := (hp.map EnumType.name).nodup_iff.1 h.distinctEnums
  members e he := h.members e (hp.mem_iff.2 he)
  identifier e' he' := by
    obtain ⟨e, he, hr⟩ := hs.back e' he'
    obtain ⟨f, hf⟩ := h.identifier e he
    obtain ⟨g, hg, -⟩ := hr.fields.mem hf
    exact ⟨g, hr.idField ▸ hg⟩
  sound e' he' name g hg := by
    obtain ⟨e, he, hr⟩ := hs.back e' he'
    obtain ⟨f, hf, alike⟩ := hr.symm.fields.declared hg
    exact (h.sound e he name f hf).alike ⟨alike.type.symm, alike.storedAs.symm, alike.fields.symm⟩
      hs hp
  identified e' he' := by
    obtain ⟨e, he, hr⟩ := hs.back e' he'
    obtain ⟨way, type, hw, nodup⟩ := h.identified e he
    obtain ⟨way', hw', names⟩ := hw.rearranged hs rfl hr
    exact ⟨way', type, hw', names ▸ nodup⟩

theorem ofDeclarations_eq_ok_iff {s : Schema} :
    ofDeclarations entities enums = .ok s ↔ s.toDeclarations = ⟨entities, enums⟩ := by
  rw [ofDeclarations, Outcome.mapError_eq_ok_iff, build_eq_ok_iff]

theorem exists_ofDeclarations_eq_ok_iff :
    (∃ s, ofDeclarations entities enums = .ok s) ↔ WellFormed entities enums := by
  simp only [ofDeclarations_eq_ok_iff]
  constructor
  · rintro ⟨s, hs⟩
    have h := s.wellFormed
    rwa [hs] at h
  · intro h
    exact ⟨⟨⟨entities, enums⟩, check_eq_ok_iff_wellFormed.2 h⟩, rfl⟩

end

theorem ofDeclarations_settled_by_wellFormed (entities : List Entity) (enums : List EnumType) :
    ((∃ s, ofDeclarations entities enums = .ok s) ↔ WellFormed entities enums) ∧
    (¬WellFormed entities enums →
      ∃ fault, ofDeclarations entities enums = .error (.schema fault)) ∧
    (∀ s, ofDeclarations entities enums = .ok s →
      (∀ name e, s.entity? name = some e ↔ e ∈ entities ∧ e.name = name) ∧
      (∀ name e, s.enum? name = some e ↔ e ∈ enums ∧ e.name = name) ∧
      s.entityNames.Pairwise (· < ·) ∧
      ∀ name, name ∈ s.entityNames ↔ ∃ e ∈ entities, e.name = name) ∧
    ∀ entities' enums', SameEntities entities entities' → enums.Perm enums' →
      ((∃ s, ofDeclarations entities' enums' = .ok s) ↔
        ∃ s, ofDeclarations entities enums = .ok s) := by
  refine ⟨exists_ofDeclarations_eq_ok_iff, ?_, ?_, ?_⟩
  · intro h
    cases hb : build entities enums with
    | error fault => exact ⟨fault, by rw [ofDeclarations, hb]; rfl⟩
    | ok s =>
        have accepted : ofDeclarations entities enums = .ok s :=
          ofDeclarations_eq_ok_iff.2 (build_eq_ok_iff.1 hb)
        exact absurd (exists_ofDeclarations_eq_ok_iff.1 ⟨s, accepted⟩) h
  · intro s hs
    have h := s.wellFormed
    rw [ofDeclarations_eq_ok_iff.1 hs] at h ⊢
    refine ⟨fun name e => entity?_eq_some_iff h.distinctEntities,
      fun name e => enum?_eq_some_iff h.distinctEnums, ?_, fun name => mem_entityNames⟩
    exact pairwise_sortNames h.distinctEntities
  · intro entities' enums' hs hp
    rw [exists_ofDeclarations_eq_ok_iff, exists_ofDeclarations_eq_ok_iff]
    exact ⟨fun h => h.rearranged hs.symm hp.symm, fun h => h.rearranged hs hp⟩

end FilterQuery.Schema

namespace FilterQuery.Journal

open Schema (Entity EnumType Identified SameEntities WellFormed)

def author : Entity :=
  ⟨"Author", "id", [("id", ⟨.string, false, some "_id", none⟩)]⟩

def post : Entity :=
  ⟨"Post", "author",
    [("author", ⟨.reference "Author", false, none, none⟩),
     ("status", ⟨.enum "Status", false, none, none⟩),
     ("price", ⟨.custom "Money", false, none, none⟩),
     ("thread", ⟨.object, true, some "t",
      some [("remark", ⟨.reference "Remark", false, none, none⟩)]⟩)]⟩

def remark : Entity :=
  ⟨"Remark", "post", [("post", ⟨.reference "Post", false, none, none⟩)]⟩

def entities : List Entity :=
  [author, post, remark]

def enums : List EnumType :=
  [⟨"Status", ["DRAFT", "PUBLISHED"]⟩]

def declarations : Schema.Declarations :=
  ⟨entities, enums⟩

theorem identified_author : Identified entities [author] .string :=
  Identified.scalar (f := ⟨.string, false, some "_id", none⟩) rfl rfl

theorem identified_post : Identified entities [post, author] .string :=
  .reference rfl rfl (by decide) identified_author

theorem identified_remark : Identified entities [remark, post, author] .string :=
  .reference rfl rfl (by decide) identified_post

theorem wellFormed : WellFormed entities enums := by
  have fields : ∀ e ∈ entities, declarations.checkFields e.name "" e.fields = .ok () := by
    decide
  refine ⟨by decide, by decide, by decide, by decide, ?_, ?_, ?_⟩
  · simp [entities, author, post, remark]
  · intro e he
    exact Schema.checkFields_eq_ok_iff.1 (fields e he)
  · simp only [entities, List.forall_mem_cons]
    refine ⟨?_, ?_, ?_, by simp⟩
    · exact ⟨_, _, identified_author, by decide⟩
    · exact ⟨_, _, identified_post, by decide⟩
    · exact ⟨_, _, identified_remark, by decide⟩

def schema : Schema :=
  ⟨declarations, Schema.check_eq_ok_iff_wellFormed.2 wellFormed⟩

theorem ofDeclarations : Schema.ofDeclarations entities enums = .ok schema :=
  Schema.ofDeclarations_eq_ok_iff.2 rfl

def node : Entity :=
  ⟨"Node", "parent", [("parent", ⟨.reference "Node", false, none, none⟩)]⟩

theorem not_wellFormed_node : ¬WellFormed [node] [] := by
  intro h
  obtain ⟨way, type, hi, hd⟩ := h.identified node List.mem_cons_self
  cases hi with
  | scalar h hf =>
      cases h
      cases hf
  | reference _ _ hn _ =>
      rw [List.mem_singleton.1 hn] at hd
      simp at hd

theorem sameEntities_reverse : SameEntities entities entities.reverse := by
  have distinct : ∀ e ∈ entities, (e.fields.map Prod.fst).Nodup := by decide
  have same : ∀ e ∈ entities, e.Rearranged e := fun e he =>
    ⟨rfl, rfl, .refl e.fields, distinct e he⟩
  refine ⟨(List.reverse_perm entities).symm.map Entity.name, fun e he => ?_, fun e he => ?_⟩
  · exact ⟨e, List.mem_reverse.2 he, same e he⟩
  · exact ⟨e, List.mem_reverse.1 he, same e (List.mem_reverse.1 he)⟩

end FilterQuery.Journal

namespace FilterQuery.Schema

theorem ofDeclarations_settled_by_wellFormed_journal :
    WellFormed Journal.entities Journal.enums ∧
    (∃ s, ofDeclarations Journal.entities.reverse Journal.enums = .ok s) ∧
    (Journal.schema.entity? "Post" = some Journal.post ∧
      Journal.schema.entityNames.Pairwise (· < ·)) ∧
    ¬WellFormed [Journal.node] [] ∧
      ∃ fault, ofDeclarations [Journal.node] [] = .error (.schema fault) := by
  obtain ⟨accepted, -, built, reordered⟩ :=
    ofDeclarations_settled_by_wellFormed Journal.entities Journal.enums
  obtain ⟨-, refused, -⟩ := ofDeclarations_settled_by_wellFormed [Journal.node] []
  obtain ⟨entity, -, ascending, -⟩ := built Journal.schema Journal.ofDeclarations
  refine ⟨Journal.wellFormed, ?_, ⟨?_, ascending⟩, Journal.not_wellFormed_node, ?_⟩
  · exact (reordered _ _ Journal.sameEntities_reverse (.refl _)).2 (accepted.2 Journal.wellFormed)
  · exact (entity "Post" Journal.post).2 (by decide)
  · exact refused Journal.not_wellFormed_node

end FilterQuery.Schema
