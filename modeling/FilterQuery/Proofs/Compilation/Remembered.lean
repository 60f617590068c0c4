import FilterQuery.Proofs.Compilation.Faults
import Mathlib.Data.Set.Card

namespace FilterQuery

open Query (Operator Connective)

namespace Memory

def keys (m : Memory) : List (String × String) :=
  m.entries.map Prod.fst

theorem length_keys (m : Memory) : m.keys.length = m.size :=
  List.length_map _

theorem find?_eq_none_iff {m : Memory} {entity selector : String} :
    m.find? entity selector = none ↔ (entity, selector) ∉ m.keys := by
  rw [find?, List.lookup_eq_none_iff, keys, List.mem_map, not_exists]
  refine forall_congr' fun entry => ?_
  rw [bne_iff_ne, not_and, ne_comm]

theorem mem_keys_of_find? {m : Memory} {entity selector : String} {d : Descriptor}
    (h : m.find? entity selector = some d) : (entity, selector) ∈ m.keys := by
  by_contra unknown
  cases h.symm.trans (find?_eq_none_iff.2 unknown)

theorem size_le_of_keys_subset {m m' : Memory} (hn : m.keys.Nodup) (h : m.keys ⊆ m'.keys) :
    m.size ≤ m'.size := by
  rw [← length_keys, ← length_keys]
  exact (hn.subperm h).length_le

theorem ncard_keys {m : Memory} (hn : m.keys.Nodup) : {key | key ∈ m.keys}.ncard = m.size := by
  rw [← List.coe_toFinset, Set.ncard_coe_finset, List.toFinset_card_of_nodup hn, length_keys]

end Memory

namespace Context

inductive Reaches (ctx : Context) (entity : String) (v : Visit) : List Visit → Prop
  | here (rest : List Visit) : Reaches ctx entity v (v :: rest)
  | later {u : Visit} {rest : List Visit} (hu : ctx.visitFault? entity u = none)
      (h : Reaches ctx entity v rest) : Reaches ctx entity v (u :: rest)

def lookedUp (ctx : Context) (entity : String) (visits : List Visit) : Set (String × String) :=
  {key | ∃ selector operator arguments d,
    ctx.Reaches entity (.clause selector operator arguments) visits ∧
      ctx.resolveAnew entity selector = .ok d ∧ key = (entity, selector)}

def lookedUpFor (ctx : Context) (entity : String) (q : Query) : Set (String × String) :=
  {key | ctx.schema.hasEntity entity ∧ key ∈ ctx.lookedUp entity (q.visits 0)}

inductive LooksUp (ctx : Context) (key : String × String) :
    Request → Except Error Response → Prop
  | resolve {entity selector : String} (hk : key = (entity, selector)) (d : Descriptor) :
      LooksUp ctx key (.resolve entity selector) (.ok (.descriptor d))
  | compile {entity : String} {q : Query} (hk : key ∈ ctx.lookedUpFor entity q)
      (result : Except Error Response) : LooksUp ctx key (.compile entity q) result
  | filter {entity text : String} {q : Query} (hq : ctx.parse text = .ok q)
      (hk : key ∈ ctx.lookedUpFor entity q) (result : Except Error Response) :
      LooksUp ctx key (.filter entity text) result
  | document {entity text : String} {q : Query} (hq : ctx.parse text = .ok q)
      (hk : key ∈ ctx.lookedUpFor entity q) (result : Except Error Response) :
      LooksUp ctx key (.document entity text) result

def Remembers {α : Type} (ctx : Context) (step : Step α) (found : Set (String × String)) : Prop :=
  ∀ m, ctx.Faithful m → m.keys.Nodup → (step.runOn m).2.keys.Nodup ∧
    ∀ key, key ∈ (step.runOn m).2.keys ↔
      key ∈ m.keys ∨ ctx.settings.memoize ∧ key ∈ found

section

variable {ctx : Context} {entity : String} {α β : Type} {found more : Set (String × String)}

theorem remembers_nothing {step : Step α} (h : ∀ m, (step.runOn m).2 = m) :
    ctx.Remembers step ∅ := by
  intro m _ hn
  rw [h m]
  exact ⟨hn, fun key => by simp⟩

theorem Remembers.of_eq {step : Step α} (h : ctx.Remembers step found) (he : found = more) :
    ctx.Remembers step more :=
  he ▸ h

theorem Remembers.bind_of_ok {step : Step α} {next : α → Step β} {a : α}
    (g : ctx.Gives step (.ok a)) (h : ctx.Remembers step found)
    (k : ctx.Remembers (next a) more) : ctx.Remembers (step >>= next) (found ∪ more) := by
  intro m hm hn
  obtain ⟨hr, hm'⟩ := g m hm
  obtain ⟨hn', hk⟩ := h m hm hn
  rw [Step.runOn_bind]
  generalize step.runOn m = outcome at hr hm' hn' hk
  obtain ⟨result, m'⟩ := outcome
  subst hr
  obtain ⟨hn'', hk'⟩ := k m' hm' hn'
  refine ⟨hn'', fun key => ?_⟩
  rw [hk', hk, Set.mem_union, and_or_left, or_assoc]

theorem Remembers.bind_of_error {step : Step α} {next : α → Step β} {e : Error}
    (g : ctx.Gives step (.error e)) (h : ctx.Remembers step found) :
    ctx.Remembers (step >>= next) found := by
  intro m hm hn
  obtain ⟨hr, -⟩ := g m hm
  have keys := h m hm hn
  rw [Step.runOn_bind]
  generalize step.runOn m = outcome at hr keys
  obtain ⟨result, m'⟩ := outcome
  subst hr
  exact keys

theorem Remembers.bind_nothing {step : Step α} {next : α → Step β} {r : Except Error α}
    (g : ctx.Gives step r) (h : ctx.Remembers step found)
    (k : ∀ a m, ((next a).runOn m).2 = m) : ctx.Remembers (step >>= next) found := by
  cases r with
  | error e => exact h.bind_of_error g
  | ok a => exact (h.bind_of_ok g (remembers_nothing (k a))).of_eq (Set.union_empty found)

theorem remembers_resolve (entity selector : String) :
    ctx.Remembers (ctx.resolve entity selector)
      {key | ∃ d, ctx.resolveAnew entity selector = .ok d ∧ key = (entity, selector)} := by
  intro m hm hn
  cases hs : ctx.settings.memoize with
  | false =>
      rw [runOn_resolve_of_not_memoize hs]
      exact ⟨hn, fun key => by simp⟩
  | true =>
      rw [runOn_resolve_of_memoize hs]
      cases hf : m.find? entity selector with
      | some d =>
          have known := Memory.mem_keys_of_find? hf
          refine ⟨hn, fun key => ⟨.inl, ?_⟩⟩
          rintro (hk | ⟨-, -, -, rfl⟩)
          · exact hk
          · exact known
      | none =>
          -- only a key that is not known yet is added, so the keys stay distinct
          have unknown := Memory.find?_eq_none_iff.1 hf
          cases hd : ctx.resolveAnew entity selector with
          | error e => exact ⟨hn, fun key => by simp⟩
          | ok d =>
              refine ⟨List.nodup_cons.2 ⟨unknown, hn⟩, fun key => ?_⟩
              simp [Memory.keys, Memory.remember, or_comm]

theorem not_reaches_nil (v : Visit) : ¬ctx.Reaches entity v [] :=
  nofun

theorem reaches_cons {u v : Visit} {rest : List Visit} :
    ctx.Reaches entity v (u :: rest) ↔
      v = u ∨ ctx.visitFault? entity u = none ∧ ctx.Reaches entity v rest := by
  constructor
  · rintro (_ | ⟨hu, h⟩)
    · exact .inl rfl
    · exact .inr ⟨hu, h⟩
  · rintro (rfl | ⟨hu, h⟩)
    · exact .here rest
    · exact .later hu h

theorem reaches_append {v : Visit} {first second : List Visit} :
    ctx.Reaches entity v (first ++ second) ↔
      ctx.Reaches entity v first ∨
        (∀ u ∈ first, ctx.visitFault? entity u = none) ∧ ctx.Reaches entity v second := by
  induction first with
  | nil => simp [not_reaches_nil]
  | cons u first ih =>
      rw [List.cons_append, reaches_cons, ih, reaches_cons, List.forall_mem_cons]
      tauto

theorem lookedUp_append_of_none {first : List Visit} (second : List Visit)
    (h : ∀ u ∈ first, ctx.visitFault? entity u = none) :
    ctx.lookedUp entity (first ++ second) =
      ctx.lookedUp entity first ∪ ctx.lookedUp entity second := by
  ext key
  simp only [lookedUp, reaches_append, Set.mem_union, Set.mem_ofPred_eq, or_and_right, exists_or,
    and_iff_right h]

theorem lookedUp_append_of_some {first : List Visit} (second : List Visit)
    (h : ¬∀ u ∈ first, ctx.visitFault? entity u = none) :
    ctx.lookedUp entity (first ++ second) = ctx.lookedUp entity first := by
  ext key
  simp only [lookedUp, reaches_append, h, false_and, or_false]

theorem lookedUp_nil : ctx.lookedUp entity [] = ∅ := by
  ext key
  simp [lookedUp, not_reaches_nil]

theorem lookedUp_clause (selector : String) (operator : Operator) (arguments : List String) :
    ctx.lookedUp entity [.clause selector operator arguments] =
      {key | ∃ d, ctx.resolveAnew entity selector = .ok d ∧ key = (entity, selector)} := by
  ext key
  simp [lookedUp, reaches_cons, not_reaches_nil]

theorem lookedUp_node_of_some {depth count : Nat} {connective : Connective} {rest : List Visit}
    (h : ctx.visitFault? entity (.node depth connective count) ≠ none) :
    ctx.lookedUp entity (.node depth connective count :: rest) = ∅ := by
  ext key
  simp [lookedUp, reaches_cons, h]

theorem lookedUp_node_of_none {depth count : Nat} {connective : Connective} {rest : List Visit}
    (h : ctx.visitFault? entity (.node depth connective count) = none) :
    ctx.lookedUp entity (.node depth connective count :: rest) = ctx.lookedUp entity rest := by
  ext key
  simp [lookedUp, reaches_cons, h]

theorem remembers_clause (selector : String) (operator : Operator) (arguments : List String) :
    ctx.Remembers (ctx.compileClause entity selector operator arguments)
      (ctx.lookedUp entity [.clause selector operator arguments]) := by
  rw [lookedUp_clause]
  refine (remembers_resolve entity selector).bind_nothing (gives_resolve entity selector) ?_
  intro d m
  rw [Step.runOn_bind, Step.runOn_ofExcept]
  cases ctx.operand selector operator d arguments <;> rfl

theorem remembers_nodes {depth : Nat} {qs : List Query}
    (h : ∀ q ∈ qs, ctx.Remembers (ctx.compileNode entity depth q)
      (ctx.lookedUp entity (q.visits depth))) :
    ctx.Remembers (ctx.compileNodes entity depth qs)
      (ctx.lookedUp entity (Query.visitsAll depth qs)) := by
  induction qs with
  | nil =>
      simp only [compileNodes, Query.visitsAll, lookedUp_nil]
      exact remembers_nothing fun m => rfl
  | cons q qs ih =>
      obtain ⟨first, others⟩ := List.forall_mem_cons.1 h
      have outcome : ctx.Gives (ctx.compileNode entity depth q) _ := gives_node entity depth q
      have compiles : (∃ f, ctx.nodeAnew entity depth q = .ok f) ↔ _ :=
        exists_nodeAnew_iff_visits depth q
      have rest : ctx.Remembers (ctx.compileNodes entity depth qs) _ := ih others
      simp only [compileNodes, Query.visitsAll]
      -- whether the nodes of the rest are come to depends on the outcome of the first query
      cases hr : ctx.nodeAnew entity depth q with
      | error e =>
          rw [hr] at outcome compiles
          rw [lookedUp_append_of_some _ (compiles.not.1 (by simp))]
          exact first.bind_of_error outcome
      | ok f =>
          rw [hr] at outcome compiles
          rw [lookedUp_append_of_none _ (compiles.1 ⟨f, rfl⟩)]
          exact first.bind_of_ok outcome
            (rest.bind_nothing (gives_nodes fun q _ => gives_node entity depth q) fun _ _ => rfl)

theorem remembers_node (depth : Nat) (q : Query) :
    ctx.Remembers (ctx.compileNode entity depth q) (ctx.lookedUp entity (q.visits depth)) := by
  induction q generalizing depth with
  | comparison selector operator arguments =>
      simp only [compileNode, Query.visits]
      exact remembers_clause selector operator arguments
  | logical connective children ih =>
      let here := Visit.node depth connective children.length
      simp only [compileNode, Query.visits]
      split
      · next hd =>
          have fails : ctx.visitFault? entity here ≠ none := by
            simp [here, visitFault?, Visit.checks, fault?, hd]
          rw [lookedUp_node_of_some fails]
          exact remembers_nothing fun m => rfl
      · next hd =>
          split
          · next hc =>
              have fails : ctx.visitFault? entity here ≠ none := by
                simp [here, visitFault?, Visit.checks, fault?, hd, List.isEmpty_iff.1 hc]
              rw [lookedUp_node_of_some fails]
              exact remembers_nothing fun m => rfl
          · next hc =>
              have passes : ctx.visitFault? entity here = none := by
                simp [here, visitFault?, Visit.checks, fault?, hd, List.isEmpty_iff.not.1 hc]
              rw [lookedUp_node_of_none passes]
              exact (remembers_nodes fun q hq => ih q hq (depth + 1)).bind_nothing
                (gives_nodes fun q _ => gives_node entity (depth + 1) q) fun _ _ => rfl

theorem remembers_compile (entity : String) (q : Query) :
    ctx.Remembers (ctx.compile entity q) (ctx.lookedUpFor entity q) := by
  rw [compile]
  split
  · next he => exact (remembers_node 0 q).of_eq (by simp [lookedUpFor, he])
  · next he => exact (remembers_nothing fun m => rfl).of_eq (by simp [lookedUpFor, he])

theorem remembers_createFilter (entity text : String) :
    ctx.Remembers (ctx.createFilter entity text)
      {key | ∃ q, ctx.parse text = .ok q ∧ key ∈ ctx.lookedUpFor entity q} := by
  have parsed : ctx.Gives (Step.ofExcept (ctx.parse text)) _ := gives_ofExcept _
  have unchanged : ctx.Remembers (Step.ofExcept (ctx.parse text)) ∅ :=
    remembers_nothing fun m => rfl
  rw [createFilter]
  cases hq : ctx.parse text with
  | error e =>
      rw [hq] at parsed unchanged
      exact (unchanged.bind_of_error parsed).of_eq (by simp)
  | ok q =>
      rw [hq] at parsed unchanged
      exact (unchanged.bind_of_ok parsed (remembers_compile entity q)).of_eq (by simp)

theorem remembers_createDocument (entity text : String) :
    ctx.Remembers (ctx.createDocument entity text)
      {key | ∃ q, ctx.parse text = .ok q ∧ key ∈ ctx.lookedUpFor entity q} :=
  (remembers_createFilter entity text).bind_nothing (gives_createFilter entity text) fun _ _ => rfl

theorem looksUp_resolve_iff {key : String × String} {selector : String} :
    ctx.LooksUp key (.resolve entity selector) (ctx.answer (.resolve entity selector)) ↔
      ∃ d, ctx.resolveAnew entity selector = .ok d ∧ key = (entity, selector) := by
  simp only [answer]
  cases ctx.resolveAnew entity selector with
  | error e =>
      constructor
      · intro h
        cases h
      · rintro ⟨d, hd, -⟩
        cases hd
  | ok d =>
      constructor
      · rintro ⟨hk, -⟩
        exact ⟨d, rfl, hk⟩
      · rintro ⟨-, -, hk⟩
        exact .resolve hk d

theorem remembers_respond (request : Request) :
    ctx.Remembers (ctx.respond request) {key | ctx.LooksUp key request (ctx.answer request)} := by
  cases request with
  | resolve entity selector =>
      refine ((remembers_resolve entity selector).bind_nothing (gives_resolve entity selector)
        fun _ _ => rfl).of_eq (Set.ext fun key => looksUp_resolve_iff.symm)
  | compile entity q =>
      refine ((remembers_compile entity q).bind_nothing (gives_compile entity q)
        fun _ _ => rfl).of_eq (Set.ext fun key => ⟨fun hk => .compile hk _, ?_⟩)
      rintro ⟨⟩
      assumption
  | filter entity text =>
      refine ((remembers_createFilter entity text).bind_nothing (gives_createFilter entity text)
        fun _ _ => rfl).of_eq (Set.ext fun key => ⟨fun ⟨_, hq, hk⟩ => .filter hq hk _, ?_⟩)
      rintro ⟨⟩
      exact ⟨_, ‹_›, ‹_›⟩
  | document entity text =>
      refine ((remembers_createDocument entity text).bind_nothing (gives_createDocument entity text)
        fun _ _ => rfl).of_eq (Set.ext fun key => ⟨fun ⟨_, hq, hk⟩ => .document hq hk _, ?_⟩)
      rintro ⟨⟩
      exact ⟨_, ‹_›, ‹_›⟩

theorem keys_memoryAfter {m : Memory} (hm : ctx.Faithful m) (hn : m.keys.Nodup)
    (requests : List Request) :
    (ctx.memoryAfter m requests).keys.Nodup ∧
      ∀ key, key ∈ (ctx.memoryAfter m requests).keys ↔ key ∈ m.keys ∨
        ctx.settings.memoize ∧
          ∃ request ∈ requests, ctx.LooksUp key request (ctx.answer request) := by
  induction requests generalizing m with
  | nil => exact ⟨hn, fun key => by simp [memoryAfter]⟩
  | cons request rest ih =>
      obtain ⟨hn', hk⟩ := remembers_respond request m hm hn
      obtain ⟨hn'', hk'⟩ := ih (gives_respond request m hm).2 hn'
      refine ⟨hn'', fun key => ?_⟩
      rw [memoryAfter, hk', hk, or_assoc, ← and_or_left, Set.mem_ofPred_eq]
      simp only [List.mem_cons, exists_eq_or_imp]

theorem memoryAfter_append (m : Memory) (first second : List Request) :
    ctx.memoryAfter m (first ++ second) = ctx.memoryAfter (ctx.memoryAfter m first) second := by
  induction first generalizing m with
  | nil => rfl
  | cons request rest ih => exact ih _

end

def answered (ctx : Context) (requests : List Request) : List (Request × Except Error Response) :=
  requests.zip ((ctx.session .empty requests).map Prod.fst)

theorem answered_eq_map (ctx : Context) (requests : List Request) :
    ctx.answered requests = requests.map fun request => (request, ctx.answer request) := by
  rw [answered, session_results (faithful_empty ctx), List.map_prod_left_eq_zip]

theorem remembered_iff_looked_up (ctx : Context) (requests : List Request) :
    let remembering := ctx.withMemoize true
    let m := remembering.memoryAfter .empty requests
    let found := {key | ∃ step ∈ remembering.answered requests,
      remembering.LooksUp key step.1 step.2}
    (∀ key, key ∈ m.keys ↔ key ∈ found) ∧ m.size = found.ncard ∧
    (∀ more, m.size ≤ (remembering.memoryAfter .empty (requests ++ more)).size) ∧
    ((ctx.withMemoize false).memoryAfter .empty requests).size = 0 := by
  intro remembering m found
  have faithful := faithful_memoryAfter (faithful_empty remembering) requests
  obtain ⟨distinct, keys⟩ := keys_memoryAfter (faithful_empty remembering) .nil requests
  have exact_keys : ∀ key, key ∈ m.keys ↔ key ∈ found := by
    intro key
    rw [keys]
    simp [found, answered_eq_map, Memory.keys, Memory.empty, remembering, withMemoize]
  refine ⟨exact_keys, ?_, fun more => ?_, ?_⟩
  · rw [← Memory.ncard_keys distinct]
    exact congrArg Set.ncard (Set.ext exact_keys)
  · rw [memoryAfter_append]
    exact Memory.size_le_of_keys_subset distinct fun key hk =>
      ((keys_memoryAfter faithful distinct more).2 key).2 (.inl hk)
  · obtain ⟨-, keys⟩ := keys_memoryAfter (faithful_empty (ctx.withMemoize false)) .nil requests
    rw [← Memory.length_keys, List.length_eq_zero_iff, List.eq_nil_iff_forall_not_mem]
    intro key
    rw [keys]
    simp [Memory.keys, Memory.empty, withMemoize]

example :
    let q := Query.logical .and [.comparison "status" .equal ["draft"],
      .comparison "price" .equal [], .comparison "thread.remark" .equal ["a"]]
    (memoryAfter ⟨Journal.schema, {}, []⟩ .empty [.compile "Post" q]).keys =
      [("Post", "price"), ("Post", "status")] := by
  decide +kernel

end Context

end FilterQuery
