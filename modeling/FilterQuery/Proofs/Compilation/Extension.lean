import FilterQuery.Proofs.Compilation.Resolution

namespace FilterQuery

open Query (Operator)
open Schema (Entity EnumType WellFormed)

namespace Schema

structure Extends (larger s : Schema) : Prop where
  entities : s.entities ⊆ larger.entities
  enums : s.enums ⊆ larger.enums

theorem Identified.mono {entities entities' way : List Entity} {type : FieldType}
    (sub : entities ⊆ entities') (h : Identified entities way type) :
    Identified entities' way type := by
  induction h with
  | scalar h hf => exact .scalar h hf
  | reference h hf hn _ ih => exact .reference h hf (sub hn) ih

theorem Scalar.mono {enums enums' : List EnumType} {type : FieldType} {v : ValueType}
    (sub : enums ⊆ enums') (h : Scalar enums type v) : Scalar enums' type v := by
  cases h with
  | enum he => exact .enum (sub he)
  | _ => constructor

section

variable {larger s : Schema} {e : Entity} {name suffix selector : String} {f : Field}

theorem scalarType_congr_of_not_isScalar (hf : ¬f.type.isScalar) :
    larger.scalarType selector f.type = s.scalarType selector f.type := by
  obtain ⟨type, isArray, storedAs, fields⟩ := f
  cases type with
  | object => rfl
  | reference target => rfl
  | untyped => rfl
  | _ => exact absurd rfl hf

theorem Extends.scalarType (h : larger.Extends s) (hs : f.Sound s.toDeclarations name) :
    larger.scalarType selector f.type = s.scalarType selector f.type := by
  by_cases hf : f.type.isScalar
  · obtain ⟨v, hv⟩ := hs.exists_scalar hf
    rw [scalarType_eq_ok hv, scalarType_eq_ok (hv.mono h.enums)]
  · exact scalarType_congr_of_not_isScalar hf

theorem Extends.referencedType (h : larger.Extends s) (he : e ∈ s.entities) :
    larger.referencedType selector e.name = s.referencedType selector e.name := by
  obtain ⟨way, type, hi, -⟩ := s.wellFormed.identified e he
  obtain ⟨v, hv⟩ := hi.exists_scalar (List.forall_mem_cons.2 ⟨he, hi.mem⟩)
  rw [referencedType_eq_ok he hi hv,
    referencedType_eq_ok (h.entities he) (hi.mono h.entities) (hv.mono h.enums)]

theorem Extends.describe (h : larger.Extends s) (he : e ∈ s.entities) :
    larger.describe suffix selector e = s.describe suffix selector e := by
  cases hw : e.walk selector with
  | none => simp only [Schema.describe, hw]
  | some chain =>
      obtain ⟨name, f, hl, sound⟩ := exists_sound_of_walk he hw
      by_cases hr : ∃ target, f.type = .reference target
      · obtain ⟨target, ht⟩ := hr
        obtain ⟨next, hm, rfl⟩ := sound.reference target ht
        rw [describe_of_reference hw hl ht, describe_of_reference hw hl ht, h.referencedType hm]
      · have hr := not_exists.1 hr
        rw [describe_of_ne_reference hw hl hr, describe_of_ne_reference hw hl hr,
          h.scalarType sound]

theorem Extends.resolve (h : larger.Extends s) (he : e ∈ s.entities) :
    larger.resolve suffix e.name selector = s.resolve suffix e.name selector := by
  simp only [Schema.resolve, entity?_of_mem he, entity?_of_mem (h.entities he)]
  exact h.describe he

end

end Schema

namespace Context

def withSchema (ctx : Context) (s : Schema) : Context :=
  { ctx with schema := s }

section

variable {ctx : Context} {larger : Schema} {e : Entity}

theorem clauseAnew_withSchema (h : larger.Extends ctx.schema) (he : e ∈ ctx.schema.entities)
    (selector : String) (operator : Operator) (arguments : List String) :
    (ctx.withSchema larger).clauseAnew e.name selector operator arguments =
      ctx.clauseAnew e.name selector operator arguments := by
  have resolved : (ctx.withSchema larger).resolveAnew e.name selector =
      ctx.resolveAnew e.name selector := h.resolve he
  simp only [clauseAnew, resolved]
  rfl

theorem compileAnew_withSchema (h : larger.Extends ctx.schema) (he : e ∈ ctx.schema.entities)
    (q : Query) :
    (ctx.withSchema larger).compileAnew e.name q = ctx.compileAnew e.name q := by
  have node : (ctx.withSchema larger).nodeAnew e.name 0 q = ctx.nodeAnew e.name 0 q :=
    nodeAnew_congr (ctx.withSchema larger) ctx rfl (clauseAnew_withSchema h he) 0 q
  have known : ctx.schema.hasEntity e.name := Schema.hasEntity_iff.2 ⟨e, he, rfl⟩
  have knownLarger : larger.hasEntity e.name := Schema.hasEntity_iff.2 ⟨e, h.entities he, rfl⟩
  simp only [compileAnew, node, known, if_true]
  exact if_pos knownLarger

theorem filterAnew_withSchema (h : larger.Extends ctx.schema) (he : e ∈ ctx.schema.entities)
    (text : String) :
    (ctx.withSchema larger).filterAnew e.name text = ctx.filterAnew e.name text := by
  simp only [filterAnew, compileAnew_withSchema h he]
  rfl

end

theorem further_declarations_unseen (ctx : Context) {larger : Schema}
    (hentities : ctx.schema.entities ⊆ larger.entities)
    (henums : ctx.schema.enums ⊆ larger.enums) {e : Entity} (he : e ∈ ctx.schema.entities)
    (requests requests' : List Request) :
    let ctx' := ctx.withSchema larger
    let m := ctx.memoryAfter .empty requests
    let m' := ctx'.memoryAfter .empty requests'
    (∀ selector,
      ((ctx'.resolve e.name selector).runOn m').1 = ((ctx.resolve e.name selector).runOn m).1) ∧
    (∀ q, ((ctx'.compile e.name q).runOn m').1 = ((ctx.compile e.name q).runOn m).1) ∧
    (∀ text,
      ((ctx'.createFilter e.name text).runOn m').1 = ((ctx.createFilter e.name text).runOn m).1) ∧
    (∀ text,
      ((ctx'.createDocument e.name text).runOn m').1 =
        ((ctx.createDocument e.name text).runOn m).1) := by
  intro ctx' m m'
  have extended : larger.Extends ctx.schema := ⟨hentities, henums⟩
  have hm : ctx.Faithful m := faithful_memoryAfter (faithful_empty ctx) requests
  have hm' : ctx'.Faithful m' := faithful_memoryAfter (faithful_empty ctx') requests'
  refine ⟨fun selector => ?_, fun q => ?_, fun text => ?_, fun text => ?_⟩
  · rw [(gives_resolve _ _ m hm).1, (gives_resolve _ _ m' hm').1]
    exact extended.resolve he
  · rw [(gives_compile _ _ m hm).1, (gives_compile _ _ m' hm').1]
    exact compileAnew_withSchema extended he q
  · rw [(gives_createFilter _ _ m hm).1, (gives_createFilter _ _ m' hm').1]
    exact filterAnew_withSchema extended he text
  · rw [(gives_createDocument _ _ m hm).1, (gives_createDocument _ _ m' hm').1]
    simp only [documentAnew, ctx', filterAnew_withSchema extended he]

end Context

namespace Journal

open Schema (Identified)

def topic : Entity :=
  ⟨"Topic", "title", [("title", ⟨.string, false, none, none⟩),
    ("access", ⟨.enum "Access", false, none, none⟩)]⟩

def access : EnumType :=
  ⟨"Access", ["OPEN"]⟩

def declarationsWithTopics : Schema.Declarations :=
  ⟨topic :: entities, access :: enums⟩

theorem wellFormed_withTopics :
    WellFormed declarationsWithTopics.entities declarationsWithTopics.enums := by
  have fields : ∀ e ∈ declarationsWithTopics.entities,
      declarationsWithTopics.checkFields e.name "" e.fields = .ok () := by
    decide
  have sub : entities ⊆ declarationsWithTopics.entities := List.subset_cons_self topic entities
  have title : Identified declarationsWithTopics.entities [topic] .string :=
    Identified.scalar (f := ⟨.string, false, none, none⟩) rfl rfl
  refine ⟨by decide, by decide, by decide, by decide, ?_, ?_, ?_⟩
  · exact List.forall_mem_cons.2 ⟨⟨_, List.mem_cons_self⟩, wellFormed.identifier⟩
  · intro e he
    exact Schema.checkFields_eq_ok_iff.1 (fields e he)
  · refine List.forall_mem_cons.2 ⟨⟨_, _, title, by decide⟩, fun e he => ?_⟩
    obtain ⟨way, type, hi, hd⟩ := wellFormed.identified e he
    exact ⟨way, type, hi.mono sub, hd⟩

def withTopics : Schema :=
  ⟨declarationsWithTopics, Schema.check_eq_ok_iff_wellFormed.2 wellFormed_withTopics⟩

theorem ofDeclarations_withTopics :
    Schema.ofDeclarations withTopics.entities withTopics.enums = .ok withTopics :=
  Schema.ofDeclarations_eq_ok_iff.2 rfl

end Journal

theorem Context.further_declarations_unseen_withTopics :
    let ctx : Context := ⟨Journal.schema, {}, []⟩
    let ctx' : Context := ⟨Journal.withTopics, {}, []⟩
    let q := Query.comparison "status" .equal ["draft"]
    let f := Filter.field "status" .equal (.single (.member "Status" "DRAFT"))
    let e := Error.unresolvedSelector "title"
    let m := ctx.memoryAfter .empty [.compile "Post" q]
    (Schema.ofDeclarations Journal.entities Journal.enums = .ok ctx.schema) ∧
    (Schema.ofDeclarations Journal.withTopics.entities Journal.withTopics.enums =
      .ok Journal.withTopics) ∧
    (Journal.entities ⊆ Journal.withTopics.entities ∧ Journal.enums ⊆ Journal.withTopics.enums) ∧
    Journal.post ∈ Journal.entities ∧
    ((ctx'.resolve "Post" "title").runOn .empty).1 = .error e ∧
    ((ctx'.compile "Post" q).runOn .empty).1 = .ok f ∧
    ((ctx'.createFilter "Post" "status==draft").runOn .empty).1 =
      ((ctx.createFilter "Post" "status==draft").runOn m).1 ∧
    ((ctx'.createDocument "Post" "status==draft").runOn .empty).1 =
      ((ctx.createDocument "Post" "status==draft").runOn m).1 := by
  intro ctx ctx' q f e m
  have more : Journal.entities ⊆ Journal.withTopics.entities :=
    List.subset_cons_self Journal.topic Journal.entities
  have moreEnums : Journal.enums ⊆ Journal.withTopics.enums :=
    List.subset_cons_self Journal.access Journal.enums
  have post : Journal.post ∈ Journal.entities := by decide
  obtain ⟨resolves, compiles, filters, documents⟩ :=
    ctx.further_declarations_unseen more moreEnums post [.compile "Post" q] []
  refine ⟨Journal.ofDeclarations, Journal.ofDeclarations_withTopics, ⟨more, moreEnums⟩, post, ?_⟩
  exact ⟨(resolves "title").trans rfl, (compiles q).trans rfl, filters "status==draft",
    documents "status==draft"⟩

end FilterQuery
