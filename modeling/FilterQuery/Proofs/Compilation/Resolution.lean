import FilterQuery.Proofs.Compilation.Checks
import FilterQuery.Proofs.Schema.Rearranged
import FilterQuery.Proofs.Schema.Walk

namespace FilterQuery

open Schema (Entity Field FieldType EnumType ValueType Identified)

namespace Schema

inductive Scalar (enums : List EnumType) : FieldType → ValueType → Prop
  | boolean : Scalar enums .boolean .boolean
  | integer : Scalar enums .integer .integer
  | long : Scalar enums .long .long
  | float : Scalar enums .float .float
  | double : Scalar enums .double .double
  | string : Scalar enums .string .string
  | date : Scalar enums .date .date
  | objectId : Scalar enums .objectId .objectId
  | enum {e : EnumType} (h : e ∈ enums) : Scalar enums (.enum e.name) (.enum e)
  | custom (name : String) : Scalar enums (.custom name) (.custom name)

def follow (s : Schema) (selector : String) : Nat → Entity → Option (Except Error ValueType)
  | 0, _ => none
  | rounds + 1, e =>
      match e.id? with
      | none => some (.error (.internal (.noIdentifier e.name)))
      | some f =>
          match f.type with
          | .reference target =>
              match s.entity? target with
              | none => some (.error (.unknownEntity target))
              | some next => s.follow selector rounds next
          | type => some (s.scalarType selector type)

structure Describes (s : Schema) (suffix : String) (chain : List (String × Field)) (f : Field)
    (d : Descriptor) : Prop where
  storagePath : d.storagePath =
    ".".intercalate (chain.map (fun (name, g) => g.storageName name) ++
      if d.isReference then [suffix] else [])
  isMultiValued : d.isMultiValued ↔ ∃ entry ∈ chain, entry.2.isArray
  isReference : d.isReference ↔ ∃ target, f.type = .reference target
  scalar : (∀ target, f.type ≠ .reference target) → Scalar s.enums f.type d.valueType
  referenced : ∀ target, f.type = .reference target → ∃ e way type,
    s.entity? target = some e ∧ Identified s.entities (e :: way) type ∧
      Scalar s.enums type d.valueType ∧ (e :: way).length ≤ s.entities.length ∧
        (∀ selector, s.follow selector (e :: way).length e = some (.ok d.valueType)) ∧
          ∃ d', s.resolve suffix target e.idField = .ok d' ∧ d'.valueType = d.valueType

section

variable {s : Schema} {e : Entity} {way : List Entity} {name suffix selector : String}
  {type : FieldType} {v : ValueType} {f : Field} {chain : List (String × Field)}

theorem valueType?_eq_some_iff :
    s.valueType? type = some v ↔ Scalar s.enums type v := by
  constructor
  · intro hv
    cases type with
    | enum name =>
        obtain ⟨e, he, rfl⟩ := Option.map_eq_some_iff.1 hv
        obtain ⟨hm, rfl⟩ := (enum?_eq_some_iff s.wellFormed.distinctEnums).1 he
        exact .enum hm
    | object => cases hv
    | reference target => cases hv
    | untyped => cases hv
    | _ =>
        cases hv
        constructor
  · intro hv
    cases hv with
    | enum hm =>
        have found := (enum?_eq_some_iff s.wellFormed.distinctEnums).2 ⟨hm, rfl⟩
        exact Option.map_eq_some_iff.2 ⟨_, found, rfl⟩
    | _ => rfl

theorem Scalar.ne_reference {enums : List EnumType} (h : Scalar enums type v) (target : String) :
    type ≠ .reference target := by
  rintro rfl
  cases h

theorem scalarType_eq_ok (hv : Scalar s.enums type v) : s.scalarType selector type = .ok v := by
  rw [scalarType, valueType?_eq_some_iff.2 hv]

theorem Field.Sound.exists_scalar (h : f.Sound s.toDeclarations name) (hf : f.type.isScalar) :
    ∃ v, Scalar s.enums f.type v := by
  cases ht : f.type with
  | enum enum =>
      obtain ⟨e, he, rfl⟩ := h.enum enum ht
      exact ⟨.enum e, .enum he⟩
  | object => simp [ht, FieldType.isScalar] at hf
  | reference target => simp [ht, FieldType.isScalar] at hf
  | untyped => simp [ht, FieldType.isScalar] at hf
  | _ => exact ⟨_, by constructor⟩

theorem entity?_of_mem (he : e ∈ s.entities) : s.entity? e.name = some e :=
  (entity?_eq_some_iff s.wellFormed.distinctEntities).2 ⟨he, rfl⟩

theorem sound_id (he : e ∈ s.entities) (hf : e.id? = some f) :
    f.Sound s.toDeclarations e.idField :=
  s.wellFormed.sound e he e.idField f (.direct (mem_of_lookup hf))

theorem exists_sound_of_walk (he : e ∈ s.entities) (hw : e.walk selector = some chain) :
    ∃ name f, chain.getLast? = some (name, f) ∧ f.Sound s.toDeclarations name := by
  obtain ⟨hn, declared⟩ := walk_eq_some_declared hw
  obtain ⟨⟨name, f⟩, hl⟩ := Option.isSome_iff_exists.1 (List.getLast?_isSome.2 hn)
  -- every field of the walk is declared, and so sound, at whatever depth it stands
  have sound := s.wellFormed.sound e he name f (declared (name, f) (List.mem_of_getLast? hl))
  exact ⟨name, f, hl, sound⟩

theorem Identified.exists_scalar (hi : Identified s.entities way type)
    (hw : ∀ e ∈ way, e ∈ s.entities) : ∃ v, Scalar s.enums type v := by
  induction hi with
  | scalar hf hscalar => exact (sound_id (hw _ List.mem_cons_self) hf).exists_scalar hscalar
  | reference _ _ _ _ ih => exact ih (List.forall_mem_cons.1 hw).2

theorem follow_of_identified (hi : Identified s.entities (e :: way) type)
    (hv : Scalar s.enums type v) : s.follow selector (e :: way).length e = some (.ok v) := by
  generalize hw : e :: way = whole at hi
  induction hi generalizing e way with
  | @scalar _ f hf hscalar =>
      cases hw
      have typed : s.scalarType selector f.type = .ok v := scalarType_eq_ok hv
      simp only [List.length_singleton, follow, hf]
      split
      · next target ht => simp [ht, FieldType.isScalar] at hscalar
      · rw [typed]
  | @reference _ next _ f _ hf ht hn _ ih =>
      cases hw
      have found : s.entity? next.name = some next := entity?_of_mem hn
      rw [List.length_cons, follow]
      simp only [hf, ht, found]
      exact ih hv rfl

theorem idValueType_of_follow {rounds : Nat} {r : Except Error ValueType}
    (h : Acc s.Refers e) (hr : s.follow selector rounds e = some r) :
    s.idValueType selector e h = r := by
  induction rounds generalizing e with
  | zero => cases hr
  | succ rounds ih =>
      rw [idValueType]
      rw [follow] at hr
      split
      · next hf => simpa only [hf, Option.some.injEq] using hr
      · next f hf =>
          simp only [hf] at hr
          split
          · next target ht =>
              simp only [ht] at hr
              split
              · next hn => simpa only [hn, Option.some.injEq] using hr
              · next next hn =>
                  simp only [hn] at hr
                  exact ih _ hr
          · simpa only [Option.some.injEq] using hr

theorem exists_follow (h : Acc s.Refers e) :
    ∃ rounds, s.follow selector rounds e = some (s.idValueType selector e h) := by
  induction h with
  | intro e hacc ih =>
      rw [idValueType]
      split
      · next hf => exact ⟨1, by simp only [follow, hf]⟩
      · next f hf =>
          split
          · next target ht =>
              split
              · next hn => exact ⟨1, by simp only [follow, hf, ht, hn]⟩
              · next next hn =>
                  obtain ⟨rounds, hr⟩ := ih next ⟨f, target, hf, ht, hn⟩
                  exact ⟨rounds + 1, by simp only [follow, hf, ht, hn, hr]⟩
          · exact ⟨1, by simp only [follow, hf]⟩

theorem idValueType_eq_iff_follow {r : Except Error ValueType} (h : Acc s.Refers e) :
    s.idValueType selector e h = r ↔ ∃ rounds, s.follow selector rounds e = some r := by
  constructor
  · rintro rfl
    exact exists_follow h
  · rintro ⟨rounds, hr⟩
    exact idValueType_of_follow h hr

theorem referencedType_eq_ok (he : e ∈ s.entities) (hi : Identified s.entities (e :: way) type)
    (hv : Scalar s.enums type v) : s.referencedType selector e.name = .ok v := by
  rw [referencedType_of_entity? (entity?_of_mem he)]
  exact (idValueType_eq_iff_follow _).2 ⟨_, follow_of_identified hi hv⟩

theorem describe_of_ne_reference (hw : e.walk selector = some chain)
    (hl : chain.getLast? = some (name, f)) (hr : ∀ target, f.type ≠ .reference target) :
    s.describe suffix selector e = (s.scalarType selector f.type).map fun v =>
      ⟨storagePath chain [], v, chain.any fun entry => entry.2.isArray, false⟩ := by
  simp only [describe, hw, hl]
  cases s.scalarType selector f.type <;> rfl

theorem describe_of_reference {target : String} (hw : e.walk selector = some chain)
    (hl : chain.getLast? = some (name, f)) (ht : f.type = .reference target) :
    s.describe suffix selector e = (s.referencedType selector target).map fun v =>
      ⟨storagePath chain [suffix], v, chain.any fun entry => entry.2.isArray, true⟩ := by
  simp only [describe, hw, hl, ht]
  cases s.referencedType selector target <;> rfl

theorem resolve_idField (he : e ∈ s.entities) (hi : Identified s.entities (e :: way) type)
    (hv : Scalar s.enums type v) :
    ∃ d, s.resolve suffix e.name e.idField = .ok d ∧ d.valueType = v := by
  rw [resolve, entity?_of_mem he]
  cases hi with
  | @scalar _ f hf _ =>
      have walked := Entity.walk_idField (sound_id he hf).name hf
      have typed : s.scalarType e.idField f.type = .ok v := scalarType_eq_ok hv
      simp only [describe_of_ne_reference walked rfl hv.ne_reference, typed]
      exact ⟨_, rfl, rfl⟩
  | @reference _ next _ f _ hf ht hn hi =>
      have walked := Entity.walk_idField (sound_id he hf).name hf
      have typed : s.referencedType e.idField next.name = .ok v := referencedType_eq_ok hn hi hv
      simp only [describe_of_reference walked rfl ht, typed]
      exact ⟨_, rfl, rfl⟩

theorem describes_of_scalar (hv : Scalar s.enums f.type v) :
    s.Describes suffix chain f
      ⟨storagePath chain [], v, chain.any fun entry => entry.2.isArray, false⟩ := by
  have hr := hv.ne_reference
  refine ⟨rfl, by simp, ?_, fun _ => hv, fun target ht => absurd ht (hr target)⟩
  simpa using hr

theorem exists_describes_of_reference {target : String} (ht : f.type = .reference target)
    (hs : f.Sound s.toDeclarations name) :
    ∃ v, s.referencedType selector target = .ok v ∧
      s.Describes suffix chain f
        ⟨storagePath chain [suffix], v, chain.any fun entry => entry.2.isArray, true⟩ := by
  obtain ⟨e, he, rfl⟩ := hs.reference target ht
  obtain ⟨way, type, hi, hd⟩ := s.wellFormed.identified e he
  have members : ∀ x ∈ e :: way, x ∈ s.entities := List.forall_mem_cons.2 ⟨he, hi.mem⟩
  obtain ⟨v, hv⟩ := hi.exists_scalar members
  refine ⟨v, referencedType_eq_ok he hi hv, ⟨rfl, by simp, by simp [ht], ?_, ?_⟩⟩
  · intro hr
    exact absurd ht (hr e.name)
  · intro other ho
    cases ht.symm.trans ho
    exact ⟨e, way, type, entity?_of_mem he, hi, hv, length_le_of_nodup hd members,
      fun _ => follow_of_identified hi hv, resolve_idField he hi hv⟩

theorem isScalar_of_ne {type : FieldType} (hu : ¬(type = .object ∨ type = .untyped))
    (hr : ∀ target, type ≠ .reference target) : type.isScalar := by
  cases type with
  | object => exact absurd (.inl rfl) hu
  | untyped => exact absurd (.inr rfl) hu
  | reference target => exact absurd rfl (hr target)
  | _ => rfl

theorem resolve_settled (s : Schema) (suffix entity selector : String) :
    match s.entity? entity with
    | none => s.resolve suffix entity selector = .error (.unknownEntity entity)
    | some e =>
        match e.walk selector with
        | none => s.resolve suffix entity selector = .error (.unresolvedSelector selector)
        | some chain => ∃ name f, chain.getLast? = some (name, f) ∧
            if f.type = .object ∨ f.type = .untyped then
              s.resolve suffix entity selector =
                .error (.unsupportedType f.type.name (some selector))
            else
              ∃ d, s.resolve suffix entity selector = .ok d ∧ s.Describes suffix chain f d := by
  split
  · next hs => simp only [resolve, hs]
  · next e hs =>
      obtain ⟨he, -⟩ := mem_of_entity? hs
      simp only [resolve, hs]
      split
      · next hw => simp only [describe, hw]
      · next chain hw =>
          obtain ⟨name, f, hl, sound⟩ := exists_sound_of_walk he hw
          refine ⟨name, f, hl, ?_⟩
          split
          · next hu =>
              have hr : ∀ target, f.type ≠ .reference target := by
                rintro target ht
                simp [ht] at hu
              rw [describe_of_ne_reference hw hl hr]
              rcases hu with ht | ht <;> rw [ht] <;> rfl
          · next hu =>
              by_cases hr : ∃ target, f.type = .reference target
              · obtain ⟨target, ht⟩ := hr
                obtain ⟨v, hv, hd⟩ := exists_describes_of_reference ht sound
                exact ⟨_, by rw [describe_of_reference hw hl ht, hv]; rfl, hd⟩
              · have hr := not_exists.1 hr
                obtain ⟨v, hv⟩ := sound.exists_scalar (isScalar_of_ne hu hr)
                have typed : s.scalarType selector f.type = .ok v := scalarType_eq_ok hv
                exact ⟨_, by rw [describe_of_ne_reference hw hl hr, typed]; rfl,
                  describes_of_scalar hv⟩

theorem exists_describes_of_resolve {entity : String} {d : Descriptor}
    (h : s.resolve suffix entity selector = .ok d) : ∃ chain f, s.Describes suffix chain f d := by
  have settled := s.resolve_settled suffix entity selector
  simp only [h] at settled
  split at settled
  · cases settled
  · split at settled
    · cases settled
    · obtain ⟨name, f, -, settled⟩ := settled
      split at settled
      · cases settled
      · obtain ⟨d', hd, described⟩ := settled
        cases hd
        exact ⟨_, f, described⟩

theorem Describes.exists_scalar {d : Descriptor} (h : s.Describes suffix chain f d) :
    ∃ type, Scalar s.enums type d.valueType := by
  by_cases hr : ∃ target, f.type = .reference target
  · obtain ⟨target, ht⟩ := hr
    obtain ⟨_, _, type, -, -, hv, -⟩ := h.referenced target ht
    exact ⟨type, hv⟩
  · exact ⟨f.type, h.scalar (not_exists.1 hr)⟩

end

end Schema

theorem Context.resolve_settled_by_walk (ctx : Context) (requests : List Request)
    (entity selector : String) :
    let result := ((ctx.resolve entity selector).runOn (ctx.memoryAfter .empty requests)).1
    match ctx.schema.entity? entity with
    | none => result = .error (.unknownEntity entity)
    | some e =>
        match e.walk selector with
        | none => result = .error (.unresolvedSelector selector)
        | some chain => ∃ name f, chain.getLast? = some (name, f) ∧
            if f.type = .object ∨ f.type = .untyped then
              result = .error (.unsupportedType f.type.name (some selector))
            else
              ∃ d, result = .ok d ∧
                ctx.schema.Describes ctx.settings.referenceSuffix chain f d := by
  have faithful := Context.faithful_memoryAfter (Context.faithful_empty ctx) requests
  simp only [(Context.gives_resolve entity selector _ faithful).1]
  exact ctx.schema.resolve_settled ctx.settings.referenceSuffix entity selector

theorem Context.resolve_settled_by_walk_thread :
    Schema.ofDeclarations Journal.entities Journal.enums = .ok Journal.schema ∧
    ∃ d, ((Context.resolve ⟨Journal.schema, {}, []⟩ "Post" "thread.remark").runOn .empty).1 = .ok d ∧
      d.storagePath = "t.remark.$id" ∧ d.valueType = .string ∧ d.isMultiValued ∧ d.isReference := by
  refine ⟨Journal.ofDeclarations, ?_⟩
  have settled := Context.resolve_settled_by_walk ⟨Journal.schema, {}, []⟩ [] "Post" "thread.remark"
  have found : Journal.schema.entity? "Post" = some Journal.post := by decide
  have walked : Journal.post.walk "thread.remark" = some Journal.thread := by decide
  simp only [found, walked] at settled
  obtain ⟨name, f, hl, hd⟩ := settled
  cases hl
  obtain ⟨d, hr, hd⟩ := hd
  have reference : d.isReference := hd.isReference.2 ⟨"Remark", rfl⟩
  have target : Journal.schema.entity? "Remark" = some Journal.remark := by decide
  obtain ⟨e, way, type, he, hi, hv, -, -⟩ := hd.referenced "Remark" rfl
  cases target.symm.trans he
  obtain ⟨-, rfl⟩ := hi.unique Journal.wellFormed.distinctEntities Journal.identified_remark
  refine ⟨d, hr, ?_, ?_, hd.isMultiValued.2 ⟨_, List.mem_cons_self, rfl⟩, reference⟩
  · rw [hd.storagePath, reference]
    decide
  · generalize d.valueType = v at hv
    cases hv
    rfl

end FilterQuery
