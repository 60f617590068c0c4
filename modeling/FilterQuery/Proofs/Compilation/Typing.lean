import FilterQuery.Proofs.Compilation.Resolution
import FilterQuery.Proofs.Conversion.Typing

namespace FilterQuery

open Query (Operator Connective)
open Schema (EnumType)

inductive Filter.Part : Filter → Filter → Prop
  | whole (f : Filter) : Part f f
  | inner {f child : Filter} {join : Connective} {children : List Filter}
      (hc : child ∈ children) (h : Part f child) : Part f (.logical join children)

structure Filter.WellShaped (f : Filter) : Prop where
  children : ∀ join children, Part (.logical join children) f → children ≠ []
  fits : ∀ path operator operand, Part (.field path operator operand) f → operand.fits operator

theorem Query.Operator.arity_eq_multi_iff {operator : Operator} :
    operator.arity = .multi ↔ operator ∈ [.isIn, .notIn, .all] := by
  cases operator <;> decide

theorem Query.Operator.arity_eq_single_iff {operator : Operator} :
    operator.arity = .single ↔ operator ∉ [.isIn, .notIn, .all] := by
  cases operator <;> decide

theorem Filter.Operand.fits_single {operator : Operator} {v : Value} :
    (Operand.single v).fits operator ↔ operator ∉ [.isIn, .notIn, .all] := by
  rw [fits, beq_iff_eq, Operator.arity_eq_single_iff]

theorem Filter.Operand.fits_multiple {operator : Operator} {vs : List Value} :
    (Operand.multiple vs).fits operator ↔ operator ∈ [.isIn, .notIn, .all] ∧ vs ≠ [] := by
  rw [fits, Bool.and_eq_true, beq_iff_eq, Operator.arity_eq_multi_iff]
  simp

theorem Schema.mem_enums_of_resolve {s : Schema} {suffix entity selector : String}
    {d : Descriptor} {e : EnumType} (h : s.resolve suffix entity selector = .ok d)
    (hd : d.valueType = .enum e) : e ∈ s.enums := by
  obtain ⟨chain, f, described⟩ := exists_describes_of_resolve h
  obtain ⟨type, hv⟩ := described.exists_scalar
  rw [hd] at hv
  cases hv with
  | enum he => exact he

namespace Context

inductive Typed (ctx : Context) (entity : String) : Query → Filter → Prop
  | pattern {selector raw : String} {d : Descriptor}
      (hd : ctx.resolveAnew entity selector = .ok d) :
      Typed ctx entity (.comparison selector .like [raw])
        (.field d.storagePath .like (.single (.string raw)))
  | single {selector raw : String} {operator : Operator} {d : Descriptor} {v : Value}
      (hd : ctx.resolveAnew entity selector = .ok d) (hl : operator ≠ .like)
      (hs : operator ∉ [.isIn, .notIn, .all])
      (hv : Conversion.Typed ctx.types ctx.schema.enums raw d.valueType v) :
      Typed ctx entity (.comparison selector operator [raw])
        (.field d.storagePath operator (.single v))
  | multiple {selector : String} {operator : Operator} {raws : List String} {d : Descriptor}
      {vs : List Value} (hd : ctx.resolveAnew entity selector = .ok d)
      (hm : operator ∈ [.isIn, .notIn, .all]) (hn : raws ≠ [])
      (hv : List.Forall₂
        (fun raw v => Conversion.Typed ctx.types ctx.schema.enums raw d.valueType v) raws vs) :
      Typed ctx entity (.comparison selector operator raws)
        (.field d.storagePath operator (.multiple vs))
  | logical {connective : Connective} {qs : List Query} {fs : List Filter} (hn : qs ≠ [])
      (h : List.Forall₂ (Typed ctx entity) qs fs) :
      Typed ctx entity (.logical connective qs) (.logical connective fs)

section

variable {ctx : Context} {entity selector raw : String} {operator : Operator} {d : Descriptor}
  {v : Value} {q : Query} {f p : Filter}

theorem converts_argument (hd : ctx.resolveAnew entity selector = .ok d) (raw : String) :
    Conversion.Converts ctx.types ctx.schema.enums raw d.valueType (ctx.convert d raw) :=
  Conversion.converts_convert ctx.settings.localOffset fun _ he => Schema.mem_enums_of_resolve hd he

theorem typed_of_argumentValue (hd : ctx.resolveAnew entity selector = .ok d)
    (hl : operator ≠ .like) (hv : ctx.argumentValue selector operator d raw = .ok v) :
    Conversion.Typed ctx.types ctx.schema.enums raw d.valueType v := by
  rw [argumentValue_of_ne_like d hl, Outcome.mapError_eq_ok_iff] at hv
  have converts := converts_argument hd raw
  rw [hv] at converts
  cases converts with
  | typed h => exact h

theorem Compiled.typed (h : ctx.Compiled entity q f) : ctx.Typed entity q f := by
  induction q generalizing f with
  | comparison selector operator arguments =>
      cases h with
      | single hd ha hv =>
          by_cases hl : operator = .like
          · subst hl
            cases hv
            exact .pattern hd
          · exact .single hd hl (Operator.arity_eq_single_iff.1 ha)
              (typed_of_argumentValue hd hl hv)
      | multiple hd ha hn hv =>
          have hl : operator ≠ .like := by
            rintro rfl
            cases ha
          exact .multiple hd (Operator.arity_eq_multi_iff.1 ha) hn
            (hv.imp fun raw v => typed_of_argumentValue hd hl)
  | logical connective children ih =>
      cases h with
      | logical hn h => exact .logical hn (forall₂_imp_of_mem h fun q hq f => ih q hq)

theorem Typed.part (hp : p.Part f) (h : ctx.Typed entity q f) : ∃ q, ctx.Typed entity q p := by
  induction hp generalizing q with
  | whole => exact ⟨q, h⟩
  | inner hc _ ih =>
      cases h with
      | logical _ h =>
          obtain ⟨q, hq⟩ := exists_of_forall₂ h hc
          exact ih hq

theorem Typed.wellShaped (h : ctx.Typed entity q f) : f.WellShaped := by
  constructor
  · intro join children hp
    obtain ⟨q, hq⟩ := h.part hp
    cases hq with
    | logical hn hf =>
        rintro rfl
        cases hf
        exact hn rfl
  · intro path operator operand hp
    obtain ⟨q, hq⟩ := h.part hp
    cases hq with
    | pattern _ => rfl
    | single _ _ hs _ => exact Filter.Operand.fits_single.2 hs
    | multiple _ hm hn hv =>
        refine Filter.Operand.fits_multiple.2 ⟨hm, ?_⟩
        rintro rfl
        cases hv
        exact hn rfl

theorem typed_of_compileAnew (h : ctx.compileAnew entity q = .ok f) :
    ctx.Typed entity q f ∧ f.WellShaped := by
  obtain ⟨e, he⟩ := exists_entity_of_compileAnew h
  have settled := ctx.settles_compileAnew he q
  rw [h] at settled
  have typed := settled.good.typed
  exact ⟨typed, typed.wellShaped⟩

end

theorem compiled_typed (ctx : Context) (requests : List Request) (entity : String) :
    let m := ctx.memoryAfter .empty requests
    (∀ q f, ((ctx.compile entity q).runOn m).1 = .ok f → ctx.Typed entity q f ∧ f.WellShaped) ∧
    (∀ text f, ((ctx.createFilter entity text).runOn m).1 = .ok f →
      ∃ q, ctx.parse text = .ok q ∧ ctx.Typed entity q f ∧ f.WellShaped) := by
  have faithful := faithful_memoryAfter (faithful_empty ctx) requests
  refine ⟨fun q f h => ?_, fun text f h => ?_⟩
  · rw [(gives_compile entity q _ faithful).1] at h
    exact typed_of_compileAnew h
  · rw [(gives_createFilter entity text _ faithful).1] at h
    obtain ⟨q, hq, h⟩ := Outcome.bind_eq_ok_iff.1 h
    exact ⟨q, hq, typed_of_compileAnew h⟩

theorem compiled_typed_status :
    let ctx : Context := ⟨Journal.schema, {}, []⟩
    let text := "status=in=(draft,PUBLISHED)"
    let q := Query.comparison "status" .isIn ["draft", "PUBLISHED"]
    let f := Filter.field "status" .isIn
      (.multiple [.member "Status" "DRAFT", .member "Status" "PUBLISHED"])
    (((ctx.compile "Post" q).runOn .empty).1 = .ok f ∧ ctx.Typed "Post" q f ∧ f.WellShaped) ∧
    ((ctx.createFilter "Post" text).runOn .empty).1 = .ok f ∧
      ∃ q, ctx.parse text = .ok q ∧ ctx.Typed "Post" q f ∧ f.WellShaped := by
  intro ctx text q f
  have compiled : ((ctx.compile "Post" q).runOn .empty).1 = .ok f := rfl
  have parsed : ctx.parse text = .ok q := by decide +kernel
  have created : ((ctx.createFilter "Post" text).runOn .empty).1 = .ok f := by
    rw [createFilter, Step.runOn_bind, Step.runOn_ofExcept, parsed]
    exact compiled
  have typed := ctx.compiled_typed [] "Post"
  exact ⟨⟨compiled, typed.1 q f compiled⟩, created, typed.2 text f created⟩

end Context

end FilterQuery
