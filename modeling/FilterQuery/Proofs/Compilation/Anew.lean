import FilterQuery.Compilation.Session
import FilterQuery.Proofs.Query.Tree

namespace FilterQuery.Context

open Query (Operator)

def clauseAnew (ctx : Context) (entity selector : String) (operator : Operator)
    (arguments : List String) : Except Error Filter := do
  let d ← ctx.resolveAnew entity selector
  let operand ← ctx.operand selector operator d arguments
  return .field d.storagePath operator operand

mutual

def nodeAnew (ctx : Context) (entity : String) (depth : Nat) : Query → Except Error Filter
  | .comparison selector operator arguments => ctx.clauseAnew entity selector operator arguments
  | .logical connective children =>
      if ctx.settings.maxDepth ≤ depth then
        .error (.query (.treeTooDeep ctx.settings.maxDepth))
      else if children.isEmpty then
        .error (.query (.withoutOperands connective))
      else do
        let filters ← ctx.nodesAnew entity (depth + 1) children
        return .logical connective filters

def nodesAnew (ctx : Context) (entity : String) (depth : Nat) :
    List Query → Except Error (List Filter)
  | [] => .ok []
  | q :: rest => do
      let f ← ctx.nodeAnew entity depth q
      let fs ← ctx.nodesAnew entity depth rest
      return f :: fs

end

def compileAnew (ctx : Context) (entity : String) (q : Query) : Except Error Filter :=
  if ctx.schema.hasEntity entity then ctx.nodeAnew entity 0 q else .error (.unknownEntity entity)

def filterAnew (ctx : Context) (entity text : String) : Except Error Filter := do
  let q ← ctx.parse text
  ctx.compileAnew entity q

def documentAnew (ctx : Context) (entity text : String) : Except Error Json := do
  let f ← ctx.filterAnew entity text
  return f.document

def answer (ctx : Context) : Request → Except Error Response
  | .resolve entity selector => do return .descriptor (← ctx.resolveAnew entity selector)
  | .compile entity query => do return .filter (← ctx.compileAnew entity query)
  | .filter entity text => do return .filter (← ctx.filterAnew entity text)
  | .document entity text => do return .document (← ctx.documentAnew entity text)

def Faithful (ctx : Context) (m : Memory) : Prop :=
  ∀ entity selector d, m.find? entity selector = some d → ctx.resolveAnew entity selector = .ok d

theorem faithful_empty (ctx : Context) : ctx.Faithful .empty := by
  intro entity selector d h
  cases h

theorem Faithful.remember {ctx : Context} {m : Memory} {entity selector : String} {d : Descriptor}
    (h : ctx.Faithful m) (hd : ctx.resolveAnew entity selector = .ok d) :
    ctx.Faithful (m.remember entity selector d) := by
  intro entity' selector' d' hf
  simp only [Memory.find?, Memory.remember, List.lookup_cons] at hf
  split at hf
  · next he =>
      obtain ⟨rfl, rfl⟩ := Prod.mk.inj (eq_of_beq he)
      cases hf
      exact hd
  · exact h entity' selector' d' hf

def Gives {α : Type} (ctx : Context) (step : Step α) (r : Except Error α) : Prop :=
  ∀ m, ctx.Faithful m → (step.runOn m).1 = r ∧ ctx.Faithful (step.runOn m).2

section

variable {ctx : Context} {α β : Type}

theorem gives_pure (a : α) : ctx.Gives (pure a) (.ok a) := by
  intro m hm
  rw [Step.runOn_pure]
  exact ⟨rfl, hm⟩

theorem gives_throw (e : Error) : ctx.Gives (throw e : Step α) (.error e) := by
  intro m hm
  rw [Step.runOn_throw]
  exact ⟨rfl, hm⟩

theorem gives_throw_bind (e : Error) (next : α → Step β) :
    ctx.Gives (throw e >>= next) (.error e) := by
  intro m hm
  rw [Step.runOn_bind, Step.runOn_throw]
  exact ⟨rfl, hm⟩

theorem gives_ofExcept (r : Except Error α) : ctx.Gives (Step.ofExcept r) r := by
  intro m hm
  rw [Step.runOn_ofExcept]
  exact ⟨rfl, hm⟩

theorem Gives.bind {step : Step α} {next : α → Step β} {r : Except Error α}
    {s : α → Except Error β} (h : ctx.Gives step r) (k : ∀ a, ctx.Gives (next a) (s a)) :
    ctx.Gives (step >>= next) (r >>= s) := by
  intro m hm
  rw [Step.runOn_bind]
  obtain ⟨hr, hm'⟩ := h m hm
  generalize step.runOn m = outcome at hr hm'
  obtain ⟨result, m'⟩ := outcome
  subst hr
  cases result with
  | error e => exact ⟨rfl, hm'⟩
  | ok a => exact k a m' hm'

theorem Gives.map {step : Step α} {r : Except Error α} (h : ctx.Gives step r) (f : α → β) :
    ctx.Gives (do return f (← step)) (do return f (← r)) :=
  h.bind fun a => gives_pure (f a)

theorem Gives.ite {c : Prop} [Decidable c] {step step' : Step α} {r r' : Except Error α}
    (h : c → ctx.Gives step r) (k : ¬c → ctx.Gives step' r') :
    ctx.Gives (if c then step else step') (if c then r else r') := by
  split
  · next hc => exact h hc
  · next hc => exact k hc

theorem gives_resolve (entity selector : String) :
    ctx.Gives (ctx.resolve entity selector) (ctx.resolveAnew entity selector) := by
  intro m hm
  cases hs : ctx.settings.memoize with
  | false =>
      rw [runOn_resolve_of_not_memoize hs]
      exact ⟨rfl, hm⟩
  | true =>
      rw [runOn_resolve_of_memoize hs]
      cases hf : m.find? entity selector with
      | some d => exact ⟨(hm entity selector d hf).symm, hm⟩
      | none =>
          cases hd : ctx.resolveAnew entity selector with
          | error e => exact ⟨rfl, hm⟩
          | ok d => exact ⟨rfl, hm.remember hd⟩

theorem gives_clause (entity selector : String) (operator : Operator) (arguments : List String) :
    ctx.Gives (ctx.compileClause entity selector operator arguments)
      (ctx.clauseAnew entity selector operator arguments) :=
  (gives_resolve entity selector).bind fun _ => (gives_ofExcept _).map _

theorem gives_nodes {entity : String} {depth : Nat} {qs : List Query}
    (h : ∀ q ∈ qs, ctx.Gives (ctx.compileNode entity depth q) (ctx.nodeAnew entity depth q)) :
    ctx.Gives (ctx.compileNodes entity depth qs) (ctx.nodesAnew entity depth qs) := by
  induction qs with
  | nil =>
      simp only [compileNodes, nodesAnew]
      exact gives_pure []
  | cons q qs ih =>
      simp only [compileNodes, nodesAnew]
      obtain ⟨first, others⟩ := List.forall_mem_cons.1 h
      exact first.bind fun f => (ih others).map (f :: ·)

theorem gives_node (entity : String) (depth : Nat) (q : Query) :
    ctx.Gives (ctx.compileNode entity depth q) (ctx.nodeAnew entity depth q) := by
  induction q generalizing depth with
  | comparison selector operator arguments =>
      simp only [compileNode, nodeAnew]
      exact gives_clause entity selector operator arguments
  | logical connective children ih =>
      simp only [compileNode, nodeAnew]
      refine .ite (fun _ => gives_throw_bind _ _) fun _ => ?_
      refine .ite (fun _ => gives_throw_bind _ _) fun _ => ?_
      exact (gives_nodes fun q hq => ih q hq (depth + 1)).map (Filter.logical connective)

theorem gives_compile (entity : String) (q : Query) :
    ctx.Gives (ctx.compile entity q) (ctx.compileAnew entity q) :=
  .ite (fun _ => gives_node entity 0 q) fun _ => gives_throw _

theorem gives_createFilter (entity text : String) :
    ctx.Gives (ctx.createFilter entity text) (ctx.filterAnew entity text) :=
  (gives_ofExcept (ctx.parse text)).bind (gives_compile entity)

theorem gives_createDocument (entity text : String) :
    ctx.Gives (ctx.createDocument entity text) (ctx.documentAnew entity text) :=
  (gives_createFilter entity text).map Filter.document

theorem gives_respond (request : Request) :
    ctx.Gives (ctx.respond request) (ctx.answer request) := by
  cases request with
  | resolve entity selector => exact (gives_resolve entity selector).map Response.descriptor
  | compile entity query => exact (gives_compile entity query).map Response.filter
  | filter entity text => exact (gives_createFilter entity text).map Response.filter
  | document entity text => exact (gives_createDocument entity text).map Response.document

end

theorem session_results {ctx : Context} {m : Memory} (h : ctx.Faithful m)
    (requests : List Request) :
    (ctx.session m requests).map Prod.fst = requests.map ctx.answer := by
  induction requests generalizing m with
  | nil => rfl
  | cons request rest ih =>
      obtain ⟨hr, hm⟩ := gives_respond request m h
      simp only [session, List.map_cons, hr, ih hm]

theorem nodesAnew_congr {ctx ctx' : Context} {entity : String} {depth : Nat} {qs : List Query}
    (h : ∀ q ∈ qs, ctx.nodeAnew entity depth q = ctx'.nodeAnew entity depth q) :
    ctx.nodesAnew entity depth qs = ctx'.nodesAnew entity depth qs := by
  induction qs with
  | nil => rfl
  | cons q qs ih =>
      obtain ⟨first, others⟩ := List.forall_mem_cons.1 h
      simp only [nodesAnew, first, ih others]

theorem nodeAnew_congr (ctx ctx' : Context) {entity : String}
    (hd : ctx.settings.maxDepth = ctx'.settings.maxDepth)
    (hc : ∀ selector operator arguments, ctx.clauseAnew entity selector operator arguments =
      ctx'.clauseAnew entity selector operator arguments) (depth : Nat) (q : Query) :
    ctx.nodeAnew entity depth q = ctx'.nodeAnew entity depth q := by
  induction q generalizing depth with
  | comparison selector operator arguments =>
      simp only [nodeAnew]
      exact hc selector operator arguments
  | logical connective children ih =>
      have inner := nodesAnew_congr fun q hq => ih q hq (depth + 1)
      simp only [nodeAnew, hd, inner]

def withMemoize (ctx : Context) (memoize : Bool) : Context :=
  { ctx with settings := { ctx.settings with memoize := memoize } }

theorem compileAnew_withMemoize (ctx : Context) (memoize : Bool) (entity : String) (q : Query) :
    (ctx.withMemoize memoize).compileAnew entity q = ctx.compileAnew entity q := by
  have node : (ctx.withMemoize memoize).nodeAnew entity 0 q = ctx.nodeAnew entity 0 q :=
    nodeAnew_congr (ctx.withMemoize memoize) ctx rfl (fun _ _ _ => rfl) 0 q
  simp only [compileAnew, node]
  rfl

theorem filterAnew_withMemoize (ctx : Context) (memoize : Bool) (entity text : String) :
    (ctx.withMemoize memoize).filterAnew entity text = ctx.filterAnew entity text := by
  simp only [filterAnew, compileAnew_withMemoize]
  rfl

theorem answer_withMemoize (ctx : Context) (memoize : Bool) (request : Request) :
    (ctx.withMemoize memoize).answer request = ctx.answer request := by
  cases request with
  | resolve entity selector => rfl
  | compile entity query => simp only [answer, compileAnew_withMemoize]
  | filter entity text => simp only [answer, filterAnew_withMemoize]
  | document entity text => simp only [answer, documentAnew, filterAnew_withMemoize]

theorem session_results_eq_forgetful (ctx : Context) (requests : List Request) :
    ((ctx.withMemoize true).session .empty requests).map Prod.fst =
      requests.map fun request =>
        (((ctx.withMemoize false).respond request).runOn .empty).1 := by
  have alone (request : Request) :
      (((ctx.withMemoize false).respond request).runOn .empty).1 = ctx.answer request := by
    rw [(gives_respond request .empty (faithful_empty _)).1, answer_withMemoize]
  rw [session_results (faithful_empty _)]
  refine List.map_congr_left fun request _ => ?_
  rw [alone, answer_withMemoize]

end FilterQuery.Context
