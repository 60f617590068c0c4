import FilterQuery.Outcome
import FilterQuery.Proofs.Compilation.Anew
import FilterQuery.Proofs.Conversion.Typing
import FilterQuery.Proofs.Lists

namespace FilterQuery

open Query (Operator Connective)

inductive Check where
  | nesting (depth : Nat)
  | operands (connective : Connective) (count : Nat)
  | selector (selector : String)
  | arity (selector : String) (operator : Operator) (got : Nat)
  | argument (selector : String) (operator : Operator) (raw : String)

namespace Query

mutual

def checks (depth : Nat) : Query → List Check
  | .comparison selector operator arguments =>
      .selector selector :: .arity selector operator arguments.length ::
        arguments.map (.argument selector operator)
  | .logical connective children =>
      .nesting depth :: .operands connective children.length :: checksAll (depth + 1) children

def checksAll (depth : Nat) : List Query → List Check
  | [] => []
  | q :: rest => q.checks depth ++ checksAll depth rest

end

end Query

namespace Context

def argumentValue (ctx : Context) (selector : String) (operator : Operator) (d : Descriptor)
    (raw : String) : Except Error Value :=
  if operator = .like then .ok (.string raw)
  else
    match ctx.convert d raw with
    | .ok v => .ok v
    | .error (.argument raw target detail _) => .error (.argument raw target detail (some selector))
    | .error (.unsupportedType typeName _) => .error (.unsupportedType typeName (some selector))
    | .error e => .error e

def fault? (ctx : Context) (entity : String) : Check → Option Error
  | .nesting depth =>
      if ctx.settings.maxDepth ≤ depth then
        some (.query (.treeTooDeep ctx.settings.maxDepth))
      else
        none
  | .operands connective count =>
      if count = 0 then some (.query (.withoutOperands connective)) else none
  | .selector selector => Outcome.error? (ctx.resolveAnew entity selector)
  | .arity selector operator got =>
      match operator.arity with
      | .single => if got = 1 then none else some (.arity selector operator got 1)
      | .multi => if got = 0 then some (.arity selector operator got 1) else none
  | .argument selector operator raw =>
      match ctx.resolveAnew entity selector with
      | .ok d => Outcome.error? (ctx.argumentValue selector operator d raw)
      | .error _ => none

def firstFault? (ctx : Context) (entity : String) (checks : List Check) : Option Error :=
  checks.findSome? (ctx.fault? entity)

inductive Compiled (ctx : Context) (entity : String) : Query → Filter → Prop
  | single {selector raw : String} {operator : Operator} {d : Descriptor} {v : Value}
      (hd : ctx.resolveAnew entity selector = .ok d) (ha : operator.arity = .single)
      (hv : ctx.argumentValue selector operator d raw = .ok v) :
      Compiled ctx entity (.comparison selector operator [raw])
        (.field d.storagePath operator (.single v))
  | multiple {selector : String} {operator : Operator} {raws : List String} {d : Descriptor}
      {vs : List Value} (hd : ctx.resolveAnew entity selector = .ok d)
      (ha : operator.arity = .multi) (hn : raws ≠ [])
      (hv : List.Forall₂ (fun raw v => ctx.argumentValue selector operator d raw = .ok v)
        raws vs) :
      Compiled ctx entity (.comparison selector operator raws)
        (.field d.storagePath operator (.multiple vs))
  | logical {connective : Connective} {qs : List Query} {fs : List Filter} (hn : qs ≠ [])
      (h : List.Forall₂ (Compiled ctx entity) qs fs) :
      Compiled ctx entity (.logical connective qs) (.logical connective fs)

section

variable {ctx : Context} {entity : String}

open Outcome (Settles)

@[simp]
theorem firstFault?_nil : ctx.firstFault? entity [] = none :=
  rfl

@[simp]
theorem firstFault?_cons (c : Check) (checks : List Check) :
    ctx.firstFault? entity (c :: checks) =
      (ctx.fault? entity c).or (ctx.firstFault? entity checks) := by
  simp only [firstFault?, List.findSome?_cons]
  cases ctx.fault? entity c <;> rfl

@[simp]
theorem firstFault?_append (first second : List Check) :
    ctx.firstFault? entity (first ++ second) =
      (ctx.firstFault? entity first).or (ctx.firstFault? entity second) := by
  simp only [firstFault?, List.findSome?_append]

theorem fault?_argument {selector : String} {operator : Operator} {d : Descriptor}
    (hd : ctx.resolveAnew entity selector = .ok d) (raw : String) :
    ctx.fault? entity (.argument selector operator raw) =
      Outcome.error? (ctx.argumentValue selector operator d raw) := by
  simp only [fault?, hd]

theorem fault?_arity (selector : String) (operator : Operator) (got : Nat) :
    ctx.fault? entity (.arity selector operator got) =
      if operator.admits got then none else some (.arity selector operator got 1) := by
  cases ha : operator.arity with
  | single => simp only [fault?, Operator.admits, ha, beq_iff_eq]
  | multi => by_cases h : got = 0 <;> simp [fault?, Operator.admits, ha, h, Nat.one_le_iff_ne_zero]

theorem argumentValue_of_like (selector : String) (d : Descriptor) (raw : String) :
    ctx.argumentValue selector .like d raw = .ok (.string raw) := by
  simp only [argumentValue, if_true]

theorem argumentValue_of_ne_like {selector : String} {operator : Operator} (d : Descriptor)
    (h : operator ≠ .like) (raw : String) :
    ctx.argumentValue selector operator d raw =
      (ctx.convert d raw).mapError (·.withSelector selector) := by
  simp only [argumentValue, h, if_false]
  cases hc : ctx.convert d raw with
  | ok v => rfl
  | error e =>
      -- what is refused names no selector yet, so there is none to be kept
      have refused := Conversion.refused_of_convert hc
      generalize d.valueType = target at refused
      cases refused <;> rfl

theorem convertAll_cons (d : Descriptor) (raw : String) (rest : List String) :
    ctx.convertAll d (raw :: rest) =
      ctx.convert d raw >>= fun v => (v :: ·) <$> ctx.convertAll d rest := by
  simp only [convertAll, convert, Conversion.convertAll, bind_pure_comp]

theorem settles_arguments {selector : String} {operator : Operator} {d : Descriptor}
    (hd : ctx.resolveAnew entity selector = .ok d) (ho : operator ≠ .like)
    (raws : List String) :
    Settles (ctx.firstFault? entity (raws.map (.argument selector operator)))
      (List.Forall₂ (fun raw v => ctx.argumentValue selector operator d raw = .ok v) raws)
      ((ctx.convertAll d raws).mapError (·.withSelector selector)) := by
  induction raws with
  | nil => exact Outcome.settles_ok .nil
  | cons raw rest ih =>
      rw [List.map_cons, firstFault?_cons, fault?_argument hd, convertAll_cons,
        Outcome.mapError_bind, ← argumentValue_of_ne_like d ho]
      refine (Outcome.settles_self _).bind fun v hv => ?_
      rw [Outcome.mapError_map]
      exact ih.map fun vs hvs => .cons hv hvs

theorem settles_single {selector raw : String} {operator : Operator} {d : Descriptor}
    (hd : ctx.resolveAnew entity selector = .ok d) (ha : operator.arity = .single) :
    Settles (ctx.firstFault? entity [.argument selector operator raw])
      (fun operand => ctx.Compiled entity (.comparison selector operator [raw])
        (.field d.storagePath operator operand))
      (Filter.Operand.single <$> ctx.argumentValue selector operator d raw) := by
  rw [firstFault?_cons, fault?_argument hd, firstFault?, List.findSome?_nil, Option.or_none]
  exact (Outcome.settles_self _).map fun v hv => .single hd ha hv

theorem settles_multiple {selector : String} {operator : Operator} {d : Descriptor}
    {raws : List String} (hd : ctx.resolveAnew entity selector = .ok d)
    (ha : operator.arity = .multi) (hn : raws ≠ []) :
    Settles (ctx.firstFault? entity (raws.map (.argument selector operator)))
      (fun operand => ctx.Compiled entity (.comparison selector operator raws)
        (.field d.storagePath operator operand))
      (Filter.Operand.multiple <$>
        (ctx.convertAll d raws).mapError (·.withSelector selector)) := by
  have hl : operator ≠ .like := by
    rintro rfl
    cases ha
  exact (settles_arguments hd hl raws).map fun vs hvs => .multiple hd ha hn hvs

theorem operand_single {selector raw : String} {operator : Operator} {d : Descriptor}
    (ha : operator.arity = .single) :
    ctx.operand selector operator d [raw] =
      Filter.Operand.single <$> ctx.argumentValue selector operator d raw := by
  have admitted : operator.admits [raw].length := by simp [Operator.admits, ha]
  simp only [operand, admitted, if_true]
  by_cases hl : operator = .like
  · subst hl
    rw [argumentValue_of_like]
    rfl
  · rw [argumentValue_of_ne_like d hl]
    simp only [readArguments, ha]
    exact Outcome.mapError_map _ _ _

theorem readArguments_of_multi {operator : Operator} (d : Descriptor)
    (ha : operator.arity = .multi) (raws : List String) :
    ctx.readArguments operator d raws = Filter.Operand.multiple <$> ctx.convertAll d raws := by
  cases operator with
  | isIn => rfl
  | notIn => rfl
  | all => rfl
  | _ => cases ha

theorem operand_multiple {selector : String} {operator : Operator} {d : Descriptor}
    {raws : List String} (ha : operator.arity = .multi) (hn : raws ≠ []) :
    ctx.operand selector operator d raws =
      Filter.Operand.multiple <$> (ctx.convertAll d raws).mapError (·.withSelector selector) := by
  have admitted : operator.admits raws.length := by
    simp [Operator.admits, ha, Nat.one_le_iff_ne_zero, hn]
  simp only [operand, admitted, if_true, readArguments_of_multi d ha]
  exact Outcome.mapError_map _ _ _

theorem operand_of_not_admits {selector : String} {operator : Operator} {d : Descriptor}
    {arguments : List String} (h : operator.admits arguments.length = false) :
    ctx.operand selector operator d arguments =
      .error (.arity selector operator arguments.length 1) := by
  simp only [operand, h, Bool.false_eq_true, if_false]

theorem settles_operand {selector : String} {operator : Operator} {d : Descriptor}
    (hd : ctx.resolveAnew entity selector = .ok d) (arguments : List String) :
    Settles
      ((ctx.fault? entity (.arity selector operator arguments.length)).or
        (ctx.firstFault? entity (arguments.map (.argument selector operator))))
      (fun operand => ctx.Compiled entity (.comparison selector operator arguments)
        (.field d.storagePath operator operand))
      (ctx.operand selector operator d arguments) := by
  cases had : operator.admits arguments.length with
  | false =>
      rw [operand_of_not_admits had, fault?_arity, had]
      rfl
  | true =>
      rw [fault?_arity, if_pos had, Option.none_or]
      cases ha : operator.arity with
      | single =>
          simp only [Operator.admits, ha, beq_iff_eq, List.length_eq_one_iff] at had
          obtain ⟨raw, rfl⟩ := had
          rw [operand_single ha]
          exact settles_single hd ha
      | multi =>
          have hn : arguments ≠ [] := by
            rintro rfl
            simp [Operator.admits, ha] at had
          rw [operand_multiple ha hn]
          exact settles_multiple hd ha hn

theorem settles_clause (selector : String) (operator : Operator) (arguments : List String)
    (depth : Nat) :
    Settles
      (ctx.firstFault? entity ((Query.comparison selector operator arguments).checks depth))
      (ctx.Compiled entity (.comparison selector operator arguments))
      (ctx.clauseAnew entity selector operator arguments) := by
  simp only [Query.checks, firstFault?_cons]
  refine (Outcome.settles_self _).bind fun d hd => ?_
  exact (settles_operand hd arguments).map fun operand h => h

theorem settles_nodes {depth : Nat} {qs : List Query}
    (h : ∀ q ∈ qs, Settles (ctx.firstFault? entity (q.checks depth)) (ctx.Compiled entity q)
      (ctx.nodeAnew entity depth q)) :
    Settles (ctx.firstFault? entity (Query.checksAll depth qs))
      (List.Forall₂ (ctx.Compiled entity) qs) (ctx.nodesAnew entity depth qs) := by
  induction qs with
  | nil => exact Outcome.settles_ok .nil
  | cons q qs ih =>
      obtain ⟨first, others⟩ := List.forall_mem_cons.1 h
      simp only [Query.checksAll, firstFault?_append, nodesAnew, bind_pure_comp]
      exact first.bind fun f hf => (ih others).map fun fs hfs => .cons hf hfs

theorem settles_node (depth : Nat) (q : Query) :
    Settles (ctx.firstFault? entity (q.checks depth)) (ctx.Compiled entity q)
      (ctx.nodeAnew entity depth q) := by
  induction q generalizing depth with
  | comparison selector operator arguments =>
      simp only [nodeAnew]
      exact settles_clause selector operator arguments depth
  | logical connective children ih =>
      simp only [nodeAnew, Query.checks, firstFault?_cons]
      split
      · next hd => simp only [fault?, hd, if_true, Option.some_or, Settles]
      · next hd =>
          split
          · next hc => simp [fault?, hd, List.isEmpty_iff.1 hc, Settles]
          · next hc =>
              have hn : children ≠ [] := by simpa using hc
              have hl : children.length ≠ 0 := by simpa using hn
              simp only [fault?, hd, hl, if_false, Option.none_or, bind_pure_comp]
              exact (settles_nodes fun q hq => ih q hq (depth + 1)).map fun fs hfs =>
                .logical hn hfs

theorem Compiled.unique {q : Query} {f g : Filter} (h : ctx.Compiled entity q f)
    (k : ctx.Compiled entity q g) : f = g := by
  induction q generalizing f g with
  | comparison selector operator arguments =>
      cases h with
      | single hd ha hv =>
          cases k with
          | single hd' _ hv' =>
              cases hd.symm.trans hd'
              cases hv.symm.trans hv'
              rfl
          | multiple _ ha' => cases ha.symm.trans ha'
      | multiple hd ha _ hv =>
          cases k with
          | single _ ha' => cases ha.symm.trans ha'
          | multiple hd' _ _ hv' =>
              cases hd.symm.trans hd'
              rw [forall₂_unique hv hv' fun raw _ v w h k => Except.ok.inj (h.symm.trans k)]
  | logical connective children ih =>
      cases h with
      | logical _ h =>
          cases k with
          | logical _ k => rw [forall₂_unique h k fun q hq f g => ih q hq]

end

theorem compileAnew_of_entity? {ctx : Context} {entity : String} {e : Schema.Entity}
    (h : ctx.schema.entity? entity = some e) (q : Query) :
    ctx.compileAnew entity q = ctx.nodeAnew entity 0 q := by
  simp [compileAnew, Schema.Declarations.hasEntity, h]

theorem compileAnew_of_unknown {ctx : Context} {entity : String}
    (h : ctx.schema.entity? entity = none) (q : Query) :
    ctx.compileAnew entity q = .error (.unknownEntity entity) := by
  simp [compileAnew, Schema.Declarations.hasEntity, h]

theorem exists_entity_of_compileAnew {ctx : Context} {entity : String} {q : Query} {f : Filter}
    (h : ctx.compileAnew entity q = .ok f) : ∃ e, ctx.schema.entity? entity = some e := by
  cases he : ctx.schema.entity? entity with
  | none => cases (compileAnew_of_unknown he q).symm.trans h
  | some e => exact ⟨e, rfl⟩

theorem settles_compileAnew (ctx : Context) {entity : String} {e : Schema.Entity}
    (h : ctx.schema.entity? entity = some e) (q : Query) :
    Outcome.Settles (ctx.firstFault? entity (q.checks 0)) (ctx.Compiled entity q)
      (ctx.compileAnew entity q) := by
  rw [compileAnew_of_entity? h]
  exact settles_node 0 q

def memoryAfter (ctx : Context) (m : Memory) : List Request → Memory
  | [] => m
  | request :: rest => ctx.memoryAfter ((ctx.respond request).runOn m).2 rest

theorem faithful_memoryAfter {ctx : Context} {m : Memory} (h : ctx.Faithful m)
    (requests : List Request) : ctx.Faithful (ctx.memoryAfter m requests) := by
  induction requests generalizing m with
  | nil => exact h
  | cons request rest ih => exact ih (gives_respond request m h).2

theorem compile_settled_by_checks (ctx : Context) (requests : List Request) (entity : String)
    (q : Query) :
    let result := ((ctx.compile entity q).runOn (ctx.memoryAfter .empty requests)).1
    match ctx.schema.entity? entity, (q.checks 0).findSome? (ctx.fault? entity) with
    | none, _ => result = .error (.unknownEntity entity)
    | some _, some e => result = .error e
    | some _, none => ∃ f, result = .ok f ∧ ∀ g, ctx.Compiled entity q g ↔ g = f := by
  have faithful := faithful_memoryAfter (faithful_empty ctx) requests
  simp only [(gives_compile entity q _ faithful).1]
  split
  · next hs => exact compileAnew_of_unknown hs q
  · next hs hf =>
      have settled := ctx.settles_compileAnew hs q
      rw [firstFault?, hf] at settled
      exact settled
  · next hs hf =>
      have settled := ctx.settles_compileAnew hs q
      rw [firstFault?, hf] at settled
      obtain ⟨f, hr, hc⟩ := settled
      refine ⟨f, hr, fun g => ⟨fun hg => hg.unique hc, ?_⟩⟩
      rintro rfl
      exact hc

end Context

end FilterQuery
