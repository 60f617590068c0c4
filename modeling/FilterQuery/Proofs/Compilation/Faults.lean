import FilterQuery.Proofs.Compilation.Typing

namespace FilterQuery

open Query (Operator Connective)
open Schema (Entity)

inductive Visit where
  | node (depth : Nat) (connective : Connective) (count : Nat)
  | clause (selector : String) (operator : Operator) (arguments : List String)

def Visit.checks : Visit → List Check
  | .node depth connective count => [.nesting depth, .operands connective count]
  | .clause selector operator arguments =>
      .selector selector :: .arity selector operator arguments.length ::
        arguments.map (.argument selector operator)

namespace Query

mutual

def visits (depth : Nat) : Query → List Visit
  | .comparison selector operator arguments => [.clause selector operator arguments]
  | .logical connective children =>
      .node depth connective children.length :: visitsAll (depth + 1) children

def visitsAll (depth : Nat) : List Query → List Visit
  | [] => []
  | q :: rest => q.visits depth ++ visitsAll depth rest

end

theorem checksAll_eq_flatMap {depth : Nat} {qs : List Query}
    (h : ∀ q ∈ qs, q.checks depth = (q.visits depth).flatMap Visit.checks) :
    checksAll depth qs = (visitsAll depth qs).flatMap Visit.checks := by
  induction qs with
  | nil => rfl
  | cons q qs ih =>
      obtain ⟨first, others⟩ := List.forall_mem_cons.1 h
      simp only [checksAll, visitsAll, List.flatMap_append, first, ih others]

theorem checks_eq_flatMap (depth : Nat) (q : Query) :
    q.checks depth = (q.visits depth).flatMap Visit.checks := by
  induction q generalizing depth with
  | comparison selector operator arguments => simp [checks, visits, Visit.checks]
  | logical connective children ih =>
      have inner := checksAll_eq_flatMap fun q hq => ih q hq (depth + 1)
      simp [checks, visits, Visit.checks, inner]

end Query

namespace Context

def visitFault? (ctx : Context) (entity : String) (v : Visit) : Option Error :=
  ctx.firstFault? entity v.checks

def FirstFailing (ctx : Context) (entity : String) (q : Query) (selector : String)
    (operator : Operator) (arguments : List String) : Prop :=
  (q.visits 0).find? (fun v => (ctx.visitFault? entity v).isSome) =
    some (.clause selector operator arguments)

inductive ReaderBroke (ctx : Context) (entity selector : String) (operator : Operator)
    (arguments : List String) (name detail : String) : Prop
  | intro {d : Descriptor} {type : Conversion.CustomType} {raw : String}
      (hd : ctx.resolveAnew entity selector = .ok d) (hv : d.valueType = .custom name)
      (ha : ctx.fault? entity (.arity selector operator arguments.length) = none)
      (hl : operator ≠ .like)
      (ht : ctx.types.find? name = some type)
      (hf : arguments.find? (fun raw => !(type.read raw).isOk) = some raw)
      (hr : type.read raw = .error (.internal detail))

inductive ClauseFault (ctx : Context) (entity selector : String) (operator : Operator)
    (arguments : List String) : Error → Prop
  | unresolved : ClauseFault ctx entity selector operator arguments (.unresolvedSelector selector)
  | unsupported (typeName : String) : ClauseFault ctx entity selector operator arguments
      (.unsupportedType typeName (some selector))
  | arity : ClauseFault ctx entity selector operator arguments
      (.arity selector operator arguments.length 1)
  | argument {raw : String} (hm : raw ∈ arguments) (target detail : String) :
      ClauseFault ctx entity selector operator arguments
        (.argument raw target (some detail) (some selector))
  | broken {name detail : String}
      (h : ctx.ReaderBroke entity selector operator arguments name detail) :
      ClauseFault ctx entity selector operator arguments (.internal (.customType name detail))

inductive Fails (ctx : Context) (entity : String) (q : Query) : Error → Prop
  | unknownEntity (h : ctx.schema.entity? entity = none) :
      Fails ctx entity q (.unknownEntity entity)
  | node (fault : Query.Fault) : Fails ctx entity q (.query fault)
  | clause {selector : String} {operator : Operator} {arguments : List String} {e : Error}
      (hf : ctx.FirstFailing entity q selector operator arguments)
      (h : ctx.ClauseFault entity selector operator arguments e) : Fails ctx entity q e

section

variable {ctx : Context} {entity selector name detail : String} {operator : Operator}
  {arguments : List String} {d : Descriptor} {e : Error} {q : Query}

theorem resolveAnew_fault (he : ctx.resolveAnew entity selector = .error e) :
    (ctx.schema.entity? entity = none ∧ e = .unknownEntity entity) ∨
      e = .unresolvedSelector selector ∨
        ∃ typeName, e = .unsupportedType typeName (some selector) := by
  have settled := ctx.schema.resolve_settled ctx.settings.referenceSuffix entity selector
  rw [resolveAnew] at he
  simp only [he] at settled
  split at settled
  · next unknown =>
      cases settled
      exact .inl ⟨unknown, rfl⟩
  · split at settled
    · cases settled
      exact .inr (.inl rfl)
    · obtain ⟨name, f, -, settled⟩ := settled
      split at settled
      · cases settled
        exact .inr (.inr ⟨_, rfl⟩)
      · obtain ⟨d, hd, -⟩ := settled
        cases hd

theorem clauseFault_of_resolveAnew {known : Entity} (hk : ctx.schema.entity? entity = some known)
    (he : ctx.resolveAnew entity selector = .error e) :
    ctx.ClauseFault entity selector operator arguments e := by
  rcases resolveAnew_fault he with ⟨unknown, -⟩ | rfl | ⟨typeName, rfl⟩
  · cases hk.symm.trans unknown
  · exact .unresolved
  · exact .unsupported typeName

theorem error?_argumentValue_custom {type : Conversion.CustomType} (hv : d.valueType = .custom name)
    (hl : operator ≠ .like) (ht : ctx.types.find? name = some type) (raw : String) :
    (Outcome.error? (ctx.argumentValue selector operator d raw)).isSome =
      !(type.read raw).isOk := by
  rw [argumentValue_of_ne_like d hl, convert, hv]
  simp only [Conversion.convert, Conversion.toCustom, ht]
  cases type.read raw with
  | ok v => rfl
  | error fault => cases fault <;> rfl

theorem clauseFault_of_argument (hd : ctx.resolveAnew entity selector = .ok d)
    (ha : ctx.fault? entity (.arity selector operator arguments.length) = none)
    (he : ctx.firstFault? entity (arguments.map (.argument selector operator)) = some e) :
    ctx.ClauseFault entity selector operator arguments e := by
  rw [firstFault?, List.findSome?_map, findSome?_eq_some_iff_find?] at he
  obtain ⟨raw, hf, he⟩ := he
  simp only [Function.comp, fault?_argument hd, Outcome.error?_eq_some_iff] at hf he
  have hm : raw ∈ arguments := List.mem_of_find?_eq_some hf
  -- a pattern is taken as it is, so its clause cannot fail on an argument
  have hl : operator ≠ .like := by
    rintro rfl
    simp [argumentValue_of_like] at he
  rw [argumentValue_of_ne_like d hl, Outcome.mapError_eq_error_iff] at he
  obtain ⟨fault, he, rfl⟩ := he
  have refused := converts_argument hd raw
  rw [he] at refused
  generalize hv : d.valueType = target at refused
  cases refused with
  | refused refused =>
      cases refused with
      | argument _ detail => exact .argument hm _ _
      | unregistered _ => exact .unsupported _
      | broken ht hr =>
          simp only [error?_argumentValue_custom hv hl ht] at hf
          exact .broken (.intro hd hv ha hl ht hf hr)

theorem clauseFault_of_visitFault? {known : Entity} (hk : ctx.schema.entity? entity = some known)
    (he : ctx.visitFault? entity (.clause selector operator arguments) = some e) :
    ctx.ClauseFault entity selector operator arguments e := by
  simp only [visitFault?, Visit.checks, firstFault?_cons, Option.or_eq_some_iff] at he
  rcases he with he | ⟨hd, he | ⟨ha, he⟩⟩
  · exact clauseFault_of_resolveAnew hk (Outcome.error?_eq_some_iff.1 he)
  · rw [fault?_arity, Option.ite_none_left_eq_some] at he
    obtain ⟨-, he⟩ := he
    cases he
    exact .arity
  · obtain ⟨d, hd⟩ := Outcome.error?_eq_none_iff.1 hd
    exact clauseFault_of_argument hd ha he

theorem ReaderBroke.visitFault?
    (h : ctx.ReaderBroke entity selector operator arguments name detail) :
    ctx.visitFault? entity (.clause selector operator arguments) =
      some (.internal (.customType name detail)) := by
  obtain ⟨hd, hv, ha, hl, ht, hf, hr⟩ := h
  rename_i d type raw
  have resolved : ctx.fault? entity (.selector selector) = none :=
    Outcome.error?_eq_none_iff.2 ⟨d, hd⟩
  rw [Context.visitFault?, Visit.checks, firstFault?_cons, firstFault?_cons, resolved,
    ha, Option.none_or, Option.none_or, firstFault?, List.findSome?_map,
    findSome?_eq_some_iff_find?]
  simp only [Function.comp, fault?_argument hd, error?_argumentValue_custom hv hl ht]
  refine ⟨raw, hf, ?_⟩
  rw [Outcome.error?_eq_some_iff, argumentValue_of_ne_like d hl, convert, hv]
  simp only [Conversion.convert, Conversion.toCustom, ht, hr]
  rfl

theorem firstFault?_flatMap_checks (visits : List Visit) :
    ctx.firstFault? entity (visits.flatMap Visit.checks) =
      visits.findSome? (ctx.visitFault? entity) := by
  induction visits with
  | nil => rfl
  | cons v visits ih =>
      rw [List.flatMap_cons, firstFault?_append, ih, List.findSome?_cons, ← Context.visitFault?]
      cases ctx.visitFault? entity v <;> rfl

theorem firstFault?_checks_eq_some_iff (q : Query) :
    ctx.firstFault? entity (q.checks 0) = some e ↔
      ∃ v, (q.visits 0).find? (fun v => (ctx.visitFault? entity v).isSome) = some v ∧
        ctx.visitFault? entity v = some e := by
  rw [Query.checks_eq_flatMap, firstFault?_flatMap_checks, findSome?_eq_some_iff_find?]

theorem visitFault?_node {depth count : Nat} {connective : Connective}
    (h : ctx.visitFault? entity (.node depth connective count) = some e) :
    ∃ fault, e = .query fault := by
  simp only [Context.visitFault?, Visit.checks, firstFault?_cons, Option.or_eq_some_iff] at h
  rcases h with h | ⟨-, h | ⟨-, h⟩⟩
  · obtain ⟨-, he⟩ := Option.ite_none_right_eq_some.1 h
    cases he
    exact ⟨_, rfl⟩
  · obtain ⟨-, he⟩ := Option.ite_none_right_eq_some.1 h
    cases he
    exact ⟨_, rfl⟩
  · cases h

theorem nodeAnew_eq_error_iff (depth : Nat) (q : Query) :
    ctx.nodeAnew entity depth q = .error e ↔ ctx.firstFault? entity (q.checks depth) = some e := by
  have settled : Outcome.Settles _ (ctx.Compiled entity q) (ctx.nodeAnew entity depth q) :=
    settles_node depth q
  constructor
  · intro he
    rw [he] at settled
    exact settled.fault
  · intro he
    rw [he] at settled
    exact settled

theorem compileAnew_eq_error_iff {known : Entity} (hk : ctx.schema.entity? entity = some known) :
    ctx.compileAnew entity q = .error e ↔ ctx.firstFault? entity (q.checks 0) = some e := by
  rw [compileAnew_of_entity? hk, nodeAnew_eq_error_iff]

theorem error?_nodeAnew (depth : Nat) (q : Query) :
    Outcome.error? (ctx.nodeAnew entity depth q) =
      (q.visits depth).findSome? (ctx.visitFault? entity) := by
  refine Option.ext fun e => ?_
  rw [Outcome.error?_eq_some_iff, nodeAnew_eq_error_iff, Query.checks_eq_flatMap,
    firstFault?_flatMap_checks]

theorem exists_nodeAnew_iff_visits (depth : Nat) (q : Query) :
    (∃ f, ctx.nodeAnew entity depth q = .ok f) ↔
      ∀ v ∈ q.visits depth, ctx.visitFault? entity v = none := by
  rw [← Outcome.error?_eq_none_iff, error?_nodeAnew, List.findSome?_eq_none_iff]

theorem fails_of_compileAnew (he : ctx.compileAnew entity q = .error e) :
    ctx.Fails entity q e := by
  cases hk : ctx.schema.entity? entity with
  | none =>
      rw [compileAnew_of_unknown hk] at he
      cases he
      exact .unknownEntity hk
  | some known =>
      rw [compileAnew_eq_error_iff hk, firstFault?_checks_eq_some_iff] at he
      obtain ⟨v, hf, hv⟩ := he
      cases v with
      | node depth connective count =>
          obtain ⟨fault, rfl⟩ := visitFault?_node hv
          exact .node fault
      | clause selector operator arguments =>
          exact .clause hf (clauseFault_of_visitFault? hk hv)

theorem compileAnew_of_readerBroke
    (hf : ctx.FirstFailing entity q selector operator arguments)
    (h : ctx.ReaderBroke entity selector operator arguments name detail) :
    ctx.compileAnew entity q = .error (.internal (.customType name detail)) := by
  cases hk : ctx.schema.entity? entity with
  | none =>
      obtain ⟨hd⟩ := h
      simp [resolveAnew, Schema.resolve, hk] at hd
  | some known =>
      rw [compileAnew_eq_error_iff hk, firstFault?_checks_eq_some_iff]
      exact ⟨_, hf, h.visitFault?⟩

end

structure Faulted (ctx : Context) (entity : String) (q : Query) (e : Error) : Prop where
  isUserError : e.isUserError ∨ ∃ defect, e = .internal defect
  internal : ∀ defect, e = .internal defect ↔ ∃ selector operator arguments name detail,
    ctx.FirstFailing entity q selector operator arguments ∧
      ctx.ReaderBroke entity selector operator arguments name detail ∧
        defect = .customType name detail
  unknownEntity : ∀ name, e = .unknownEntity name → name = entity
  unresolved : ∀ selector, e = .unresolvedSelector selector →
    ∃ operator arguments, ctx.FirstFailing entity q selector operator arguments
  arity : ∀ selector operator got expected, e = .arity selector operator got expected →
    ∃ arguments, ctx.FirstFailing entity q selector operator arguments ∧ got = arguments.length
  argument : ∀ raw target detail named, e = .argument raw target detail named →
    ∃ selector operator arguments, ctx.FirstFailing entity q selector operator arguments ∧
      named = some selector ∧ raw ∈ arguments
  unsupported : ∀ typeName named, e = .unsupportedType typeName named →
    ∃ selector operator arguments, ctx.FirstFailing entity q selector operator arguments ∧
      named = some selector

section

variable {ctx : Context} {entity : String} {e : Error} {q : Query}

theorem Fails.isUserError (h : ctx.Fails entity q e) :
    e.isUserError ∨ ∃ defect, e = .internal defect := by
  cases h with
  | unknownEntity _ => exact .inl rfl
  | node fault => exact .inl rfl
  | clause _ h =>
      cases h with
      | broken h => exact .inr ⟨_, rfl⟩
      | _ => exact .inl rfl

theorem faulted_of_compileAnew (he : ctx.compileAnew entity q = .error e) :
    ctx.Faulted entity q e := by
  have fails := fails_of_compileAnew he
  refine ⟨fails.isUserError, ?_, ?_, ?_, ?_, ?_, ?_⟩
  · intro defect
    constructor
    · rintro rfl
      cases fails with
      | clause hf h =>
          cases h with
          | broken h => exact ⟨_, _, _, _, _, hf, h, rfl⟩
    -- the first failing clause is unique, so a reader that broke there decides the error
    · rintro ⟨selector, operator, arguments, name, detail, hf, h, rfl⟩
      exact Except.error.inj (he.symm.trans (compileAnew_of_readerBroke hf h))
  · rintro name rfl
    cases fails with
    | unknownEntity _ => rfl
    | clause _ h => cases h
  · rintro selector rfl
    cases fails with
    | clause hf h =>
        cases h
        exact ⟨_, _, hf⟩
  · rintro selector operator got expected rfl
    cases fails with
    | clause hf h =>
        cases h
        exact ⟨_, hf, rfl⟩
  · rintro raw target detail named rfl
    cases fails with
    | clause hf h =>
        cases h with
        | argument hm _ _ => exact ⟨_, _, _, hf, rfl, hm⟩
  · rintro typeName named rfl
    cases fails with
    | clause hf h =>
        cases h
        exact ⟨_, _, _, hf, rfl⟩

def FaultedText (ctx : Context) (entity text : String) (e : Error) : Prop :=
  (∃ fault, ctx.parse text = .error (.query fault) ∧ e = .query fault) ∨
    ∃ q, ctx.parse text = .ok q ∧ ctx.Faulted entity q e

theorem faultedText_of_filterAnew {text : String} (he : ctx.filterAnew entity text = .error e) :
    ctx.FaultedText entity text e := by
  cases hq : ctx.parse text with
  | error fault =>
      simp only [filterAnew, hq] at he
      cases he
      obtain ⟨fault, hf, rfl⟩ := Outcome.mapError_eq_error_iff.1 hq
      exact .inl ⟨fault, hq, rfl⟩
  | ok q =>
      simp only [filterAnew, hq] at he
      exact .inr ⟨q, hq, faulted_of_compileAnew he⟩

theorem faultedText_of_documentAnew {text : String}
    (he : ctx.documentAnew entity text = .error e) : ctx.FaultedText entity text e := by
  cases hf : ctx.filterAnew entity text with
  | error fault =>
      simp only [documentAnew, hf] at he
      cases he
      exact faultedText_of_filterAnew hf
  | ok f =>
      simp only [documentAnew, hf] at he
      cases he

end

theorem only_user_faults (ctx : Context) (requests : List Request) (entity : String) :
    let m := ctx.memoryAfter .empty requests
    (∀ selector e, ((ctx.resolve entity selector).runOn m).1 = .error e →
      e.isUserError ∧ ∀ name, e = .unknownEntity name → name = entity) ∧
    (∀ q e, ((ctx.compile entity q).runOn m).1 = .error e → ctx.Faulted entity q e) ∧
    (∀ text e, ((ctx.createFilter entity text).runOn m).1 = .error e →
      ctx.FaultedText entity text e) ∧
    (∀ text e, ((ctx.createDocument entity text).runOn m).1 = .error e →
      ctx.FaultedText entity text e) := by
  have faithful := faithful_memoryAfter (faithful_empty ctx) requests
  refine ⟨fun selector e he => ?_, fun q e he => ?_, fun text e he => ?_, fun text e he => ?_⟩
  · rw [(gives_resolve entity selector _ faithful).1] at he
    rcases resolveAnew_fault he with ⟨-, rfl⟩ | rfl | ⟨typeName, rfl⟩
    · exact ⟨rfl, fun name hn => (Error.unknownEntity.inj hn).symm⟩
    · exact ⟨rfl, fun name hn => nomatch hn⟩
    · exact ⟨rfl, fun name hn => nomatch hn⟩
  · rw [(gives_compile entity q _ faithful).1] at he
    exact faulted_of_compileAnew he
  · rw [(gives_createFilter entity text _ faithful).1] at he
    exact faultedText_of_filterAnew he
  · rw [(gives_createDocument entity text _ faithful).1] at he
    exact faultedText_of_documentAnew he

theorem only_user_faults_broken_reader :
    let ctx : Context := ⟨Journal.schema, {}, [⟨"Money", fun _ => .error (.internal "no rates")⟩]⟩
    let q := Query.comparison "price" .equal ["3"]
    let e := Error.internal (.customType "Money" "no rates")
    let u := Error.unsupportedType "object" (some "thread")
    (Schema.ofDeclarations Journal.entities Journal.enums = .ok ctx.schema) ∧
    (((ctx.compile "Post" q).runOn .empty).1 = .error e ∧ ctx.Faulted "Post" q e) ∧
    (((ctx.createFilter "Post" "price==3").runOn .empty).1 = .error e ∧
      ctx.FaultedText "Post" "price==3" e) ∧
    (((ctx.createDocument "Post" "price==3").runOn .empty).1 = .error e ∧
      ctx.FaultedText "Post" "price==3" e) ∧
    (((ctx.resolve "Post" "thread").runOn .empty).1 = .error u ∧
      u.isUserError ∧ ∀ name, u = .unknownEntity name → name = "Post") := by
  intro ctx q e u
  have declared : Schema.ofDeclarations Journal.entities Journal.enums = .ok ctx.schema :=
    Journal.ofDeclarations
  obtain ⟨resolves, compiles, filters, documents⟩ := ctx.only_user_faults [] "Post"
  have compiled : ((ctx.compile "Post" q).runOn .empty).1 = .error e := rfl
  have parsed : ctx.parse "price==3" = .ok q := by decide +kernel
  have created : ((ctx.createFilter "Post" "price==3").runOn .empty).1 = .error e := by
    rw [createFilter, Step.runOn_bind, Step.runOn_ofExcept, parsed]
    exact compiled
  have rendered : ((ctx.createDocument "Post" "price==3").runOn .empty).1 = .error e := by
    rw [createDocument, createFilter, Step.runOn_bind, Step.runOn_bind, Step.runOn_ofExcept, parsed]
    rfl
  exact ⟨declared, ⟨compiled, compiles q e compiled⟩, ⟨created, filters _ e created⟩,
    ⟨rendered, documents _ e rendered⟩, rfl, resolves "thread" u rfl⟩

end Context

end FilterQuery
