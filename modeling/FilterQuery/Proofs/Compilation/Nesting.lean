import FilterQuery.Proofs.Compilation.Faults
import FilterQuery.Proofs.Query.Limits

namespace FilterQuery

open Query (Operator Connective Part)
open Schema (Entity)

namespace Query

variable {q : Query} {depth : Nat}

theorem mem_visitsAll {v : Visit} {qs : List Query} :
    v ∈ visitsAll depth qs ↔ ∃ q ∈ qs, v ∈ q.visits depth := by
  induction qs with
  | nil => simp [visitsAll]
  | cons q qs ih => simp [visitsAll, ih]

theorem part_of_clause_mem_visits {w : String} {o : Operator} {vs : List String}
    (h : .clause w o vs ∈ q.visits depth) : Part (.comparison w o vs) q := by
  induction q generalizing depth with
  | comparison w' o' vs' =>
      cases List.mem_singleton.1 h
      exact .whole _
  | logical c qs ih =>
      rcases List.mem_cons.1 h with h | h
      · cases h
      · obtain ⟨q, hq, h⟩ := mem_visitsAll.1 h
        exact .inner hq (ih q hq h)

theorem count_ne_zero_of_node_mem_visits (hq : q.HasOperands) {d count : Nat} {c : Connective}
    (h : .node d c count ∈ q.visits depth) : count ≠ 0 := by
  induction q generalizing depth with
  | comparison w o vs => cases List.mem_singleton.1 h
  | logical c' qs ih =>
      obtain ⟨hn, hqs⟩ := hasOperands_logical.1 hq
      rcases List.mem_cons.1 h with h | h
      · cases h
        simpa using hn
      · obtain ⟨q, hm, h⟩ := mem_visitsAll.1 h
        exact ih q hm (hqs q hm) h

theorem nodes_lt_iff (hq : q.HasOperands) {limit : Nat} :
    (∀ d c count, .node d c count ∈ q.visits depth → d < limit) ↔
      q.logicalDepth ≤ limit - depth := by
  induction q generalizing depth with
  | comparison w o vs => simp [visits]
  | logical c qs ih =>
      obtain ⟨hn, hqs⟩ := hasOperands_logical.1 hq
      constructor
      · intro h
        obtain ⟨q, hm, hd⟩ := exists_mem_logicalDepth c hn
        have here := h depth c qs.length List.mem_cons_self
        have below := (ih q hm (hqs q hm)).1 fun d c' count hv =>
          h d c' count (List.mem_cons_of_mem _ (mem_visitsAll.2 ⟨q, hm, hv⟩))
        omega
      · intro h d c' count hv
        rcases List.mem_cons.1 hv with hv | hv
        · cases hv
          obtain ⟨q, -, hd⟩ := exists_mem_logicalDepth c hn
          omega
        · obtain ⟨q, hm, hv⟩ := mem_visitsAll.1 hv
          have hlt := logicalDepth_lt_of_mem (c := c) hm
          exact (ih q hm (hqs q hm)).2 (by omega) d c' count hv

end Query

namespace Context

def withMaxDepth (ctx : Context) (limit : Nat) : Context :=
  { ctx with settings := { ctx.settings with maxDepth := limit } }

def CompilesEach (ctx : Context) (entity : String) (q : Query) : Prop :=
  ∀ selector operator arguments, Part (.comparison selector operator arguments) q →
    ∃ f, ((ctx.compile entity (.comparison selector operator arguments)).runOn .empty).1 = .ok f

section

variable {ctx : Context} {entity : String} {q : Query}

theorem compilesEach_comparison {selector : String} {operator : Operator}
    {arguments : List String}
    (h : ∃ f, ((ctx.compile entity (.comparison selector operator arguments)).runOn .empty).1 =
      .ok f) : ctx.CompilesEach entity (.comparison selector operator arguments) := by
  rintro _ _ _ ⟨⟩
  exact h

theorem compilesEach_logical {connective : Connective} {qs : List Query}
    (h : ∀ q ∈ qs, ctx.CompilesEach entity q) :
    ctx.CompilesEach entity (.logical connective qs) := by
  rintro selector operator arguments (_ | ⟨hq, hp⟩)
  exact h _ hq selector operator arguments hp

theorem visitFault?_node_of_ne_zero {depth count : Nat} (connective : Connective)
    (h : count ≠ 0) :
    ctx.visitFault? entity (.node depth connective count) =
      if ctx.settings.maxDepth ≤ depth then
        some (.query (.treeTooDeep ctx.settings.maxDepth))
      else none := by
  simp only [visitFault?, Visit.checks, firstFault?_cons, firstFault?_nil, fault?, h, if_false,
    Option.or_none]

theorem exists_compileAnew_iff_visits {known : Entity}
    (hk : ctx.schema.entity? entity = some known) :
    (∃ f, ctx.compileAnew entity q = .ok f) ↔
      ∀ v ∈ q.visits 0, ctx.visitFault? entity v = none := by
  rw [compileAnew_of_entity? hk, exists_nodeAnew_iff_visits]

theorem CompilesEach.compileAnew (h : ctx.CompilesEach entity q) {selector : String}
    {operator : Operator} {arguments : List String}
    (hp : Part (.comparison selector operator arguments) q) :
    ∃ f, ctx.compileAnew entity (.comparison selector operator arguments) = .ok f := by
  obtain ⟨f, hf⟩ := h selector operator arguments hp
  exact ⟨f, (gives_compile _ _ _ (faithful_empty ctx)).1.symm.trans hf⟩

theorem CompilesEach.exists_entity (h : ctx.CompilesEach entity q) (hq : q.HasOperands) :
    ∃ known, ctx.schema.entity? entity = some known := by
  obtain ⟨selector, operator, arguments, hp⟩ := hq.exists_comparison
  obtain ⟨f, hf⟩ := h.compileAnew hp
  exact exists_entity_of_compileAnew hf

theorem CompilesEach.visitFault?_clause (h : ctx.CompilesEach entity q) {selector : String}
    {operator : Operator} {arguments : List String}
    (hv : .clause selector operator arguments ∈ q.visits 0) :
    ctx.visitFault? entity (.clause selector operator arguments) = none := by
  obtain ⟨f, hf⟩ := h.compileAnew (Query.part_of_clause_mem_visits hv)
  obtain ⟨known, hk⟩ := exists_entity_of_compileAnew hf
  exact (exists_compileAnew_iff_visits hk).1 ⟨f, hf⟩ _ List.mem_cons_self

theorem exists_compileAnew_iff (hq : q.HasOperands) (hc : ctx.CompilesEach entity q) :
    (∃ f, ctx.compileAnew entity q = .ok f) ↔ q.logicalDepth ≤ ctx.settings.maxDepth := by
  obtain ⟨known, hk⟩ := hc.exists_entity hq
  rw [exists_compileAnew_iff_visits hk, ← Nat.sub_zero ctx.settings.maxDepth,
    ← Query.nodes_lt_iff hq]
  constructor
  · intro h d connective count hv
    have fine := h _ hv
    rw [visitFault?_node_of_ne_zero _ (Query.count_ne_zero_of_node_mem_visits hq hv)] at fine
    simpa using fine
  · intro h v hv
    cases v with
    | node d connective count =>
        rw [visitFault?_node_of_ne_zero _ (Query.count_ne_zero_of_node_mem_visits hq hv)]
        simpa using h d connective count hv
    | clause selector operator arguments => exact hc.visitFault?_clause hv

theorem error_of_compileAnew {known : Entity} (hk : ctx.schema.entity? entity = some known)
    (hq : q.HasOperands) {e : Error} (he : ctx.compileAnew entity q = .error e) :
    (ctx.settings.maxDepth < q.logicalDepth ∧
      e = .query (.treeTooDeep ctx.settings.maxDepth)) ∨
    ∃ selector operator arguments, .clause selector operator arguments ∈ q.visits 0 ∧
      ctx.visitFault? entity (.clause selector operator arguments) = some e := by
  rw [compileAnew_of_entity? hk, ← Outcome.error?_eq_some_iff, error?_nodeAnew] at he
  obtain ⟨v, hv, he⟩ := List.exists_of_findSome?_eq_some he
  cases v with
  | node d connective count =>
      rw [visitFault?_node_of_ne_zero _ (Query.count_ne_zero_of_node_mem_visits hq hv)] at he
      obtain ⟨beyond, he⟩ := Option.ite_none_right_eq_some.1 he
      refine .inl ⟨not_le.1 fun within => ?_, (Option.some.inj he).symm⟩
      exact absurd ((Query.nodes_lt_iff hq).2 within d connective count hv) (not_lt.2 beyond)
  | clause selector operator arguments => exact .inr ⟨selector, operator, arguments, hv, he⟩

theorem compileAnew_ne_query (hq : q.HasOperands)
    (hd : q.logicalDepth ≤ ctx.settings.maxDepth) (fault : Query.Fault) :
    ctx.compileAnew entity q ≠ .error (.query fault) := by
  intro he
  cases hk : ctx.schema.entity? entity with
  | none => cases (compileAnew_of_unknown hk q).symm.trans he
  | some known =>
      obtain ⟨beyond, -⟩ | ⟨_, _, _, -, hf⟩ := error_of_compileAnew hk hq he
      · exact absurd hd (not_le.2 beyond)
      · cases clauseFault_of_visitFault? hk hf

theorem compileAnew_of_lt_logicalDepth (hq : q.HasOperands) (hc : ctx.CompilesEach entity q)
    (hd : ctx.settings.maxDepth < q.logicalDepth) :
    ctx.compileAnew entity q = .error (.query (.treeTooDeep ctx.settings.maxDepth)) := by
  cases he : ctx.compileAnew entity q with
  | ok f => exact absurd ((exists_compileAnew_iff hq hc).1 ⟨f, he⟩) (not_le.2 hd)
  | error e =>
      obtain ⟨known, hk⟩ := hc.exists_entity hq
      obtain ⟨-, rfl⟩ | ⟨_, _, _, hv, hf⟩ := error_of_compileAnew hk hq he
      · rfl
      · rw [hc.visitFault?_clause hv] at hf
        cases hf

theorem CompilesEach.withMaxDepth (h : ctx.CompilesEach entity q) (limit : Nat) :
    (ctx.withMaxDepth limit).CompilesEach entity q := by
  intro selector operator arguments hp
  exact h selector operator arguments hp

end

theorem depth_limit_only_refuses (ctx : Context) (requests : List Request)
    (entity text : String) :
    let compiled (ctx : Context) (q : Query) :=
      ((ctx.compile entity q).runOn (ctx.memoryAfter .empty requests)).1
    (∀ limit limit' q, limit ≤ limit' → Query.parse limit' text = .ok q →
      (q.logicalDepth ≤ limit → Query.parse limit text = .ok q) ∧
      (limit < q.logicalDepth →
        ∃ position, Query.parse limit text = .error (.tooDeep limit position))) ∧
    (∀ q, q.HasOperands → ctx.CompilesEach entity q → ∀ limit,
      (∃ f, compiled (ctx.withMaxDepth limit) q = .ok f) ↔ q.logicalDepth ≤ limit) ∧
    (∀ q, ctx.parse text = .ok q → ∀ fault, compiled ctx q ≠ .error (.query fault)) ∧
    (∀ limit q, Query.parse limit text = .ok q → (∃ e, ctx.parse text = .error e) →
      ctx.CompilesEach entity q →
        compiled ctx q = .error (.query (.treeTooDeep ctx.settings.maxDepth))) := by
  have anew (ctx : Context) (q : Query) :
      ((ctx.compile entity q).runOn (ctx.memoryAfter .empty requests)).1 =
        ctx.compileAnew entity q :=
    (gives_compile entity q _ (faithful_memoryAfter (faithful_empty ctx) requests)).1
  simp only [anew]
  refine ⟨fun limit limit' q => Query.parse_lowered, ?_, ?_, ?_⟩
  · intro q hq hc limit
    exact exists_compileAnew_iff hq (hc.withMaxDepth limit)
  · intro q hq fault
    have read := Outcome.mapError_eq_ok_iff.1 hq
    exact compileAnew_ne_query (Query.canonical_of_parse read).hasOperands
      (Query.logicalDepth_le_of_parse read) fault
  · rintro limit q hq ⟨e, refused⟩ hc
    refine compileAnew_of_lt_logicalDepth (Query.canonical_of_parse hq).hasOperands hc ?_
    by_contra within
    have read := Query.parse_of_logicalDepth_le hq (not_lt.1 within)
    rw [parse, read] at refused
    cases refused

theorem depth_limit_only_refuses_status :
    let ctx : Context := ⟨Journal.schema, { maxDepth := 1 }, []⟩
    let clause := Query.comparison "status" .equal ["DRAFT"]
    let q := Query.logical .or [clause, .logical .and [clause, clause]]
    let text := "status==DRAFT,status==DRAFT;status==DRAFT"
    (Schema.ofDeclarations Journal.entities Journal.enums = .ok ctx.schema) ∧
    (Query.parse 2 text = .ok q ∧ ∃ position, Query.parse 1 text = .error (.tooDeep 1 position)) ∧
    (q.HasOperands ∧ ctx.CompilesEach "Post" q ∧
      ∃ f, (((ctx.withMaxDepth 2).compile "Post" q).runOn .empty).1 = .ok f) ∧
    ((ctx.withMaxDepth 2).parse text = .ok q ∧ ∀ fault,
      (((ctx.withMaxDepth 2).compile "Post" q).runOn .empty).1 ≠ .error (.query fault)) ∧
    ((∃ e, ctx.parse text = .error e) ∧
      ((ctx.compile "Post" q).runOn .empty).1 = .error (.query (.treeTooDeep 1))) := by
  intro ctx clause q text
  have declared : Schema.ofDeclarations Journal.entities Journal.enums = .ok ctx.schema :=
    Journal.ofDeclarations
  have read : Query.parse 2 text = .ok q := by decide +kernel
  have operands : q.HasOperands := (Query.canonical_of_parse read).hasOperands
  have alone : ctx.CompilesEach "Post" clause := compilesEach_comparison
    ⟨.field "status" .equal (.single (.member "Status" "DRAFT")), rfl⟩
  have both : ctx.CompilesEach "Post" (.logical .and [clause, clause]) :=
    compilesEach_logical (by simp [alone])
  have each : ctx.CompilesEach "Post" q := compilesEach_logical (by simp [alone, both])
  obtain ⟨lowered, compiles, -, refuses⟩ := ctx.depth_limit_only_refuses [] "Post" text
  obtain ⟨-, -, keeps, -⟩ :=
    (ctx.withMaxDepth 2).depth_limit_only_refuses [] "Post" text
  have raised : (ctx.withMaxDepth 2).parse text = .ok q := Outcome.mapError_eq_ok_iff.2 read
  obtain ⟨position, refused⟩ := (lowered 1 2 q (by decide) read).2 (by decide)
  have rejected : ctx.parse text = .error (.query (.tooDeep 1 position)) :=
    Outcome.mapError_eq_error_iff.2 ⟨_, refused, rfl⟩
  have compiled := (compiles q operands each 2).2 le_rfl
  exact ⟨declared, ⟨read, position, refused⟩, ⟨operands, each, compiled⟩,
    ⟨raised, keeps q raised⟩, ⟨_, rejected⟩, refuses 2 q read ⟨_, rejected⟩ each⟩

end Context

end FilterQuery
