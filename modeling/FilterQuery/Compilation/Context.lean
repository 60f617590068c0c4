import FilterQuery.Compilation.Resolution
import FilterQuery.Conversion.Basic

namespace FilterQuery

open Conversion (CustomTypes)

structure Context where
  schema : Schema
  settings : Settings
  types : CustomTypes := []

structure Memory where
  entries : List ((String × String) × Descriptor)
  deriving DecidableEq, Repr

namespace Memory

def empty : Memory :=
  ⟨[]⟩

def size (m : Memory) : Nat :=
  m.entries.length

def find? (m : Memory) (entity selector : String) : Option Descriptor :=
  m.entries.lookup (entity, selector)

def remember (m : Memory) (entity selector : String) (d : Descriptor) : Memory :=
  ⟨((entity, selector), d) :: m.entries⟩

end Memory

abbrev Step := ExceptT Error (StateM Memory)

def Step.runOn {α : Type} (step : Step α) (m : Memory) : Except Error α × Memory :=
  StateT.run (ExceptT.run step) m

def Step.ofExcept {α : Type} (r : Except Error α) : Step α :=
  ExceptT.mk (pure r)

theorem Step.runOn_ofExcept {α : Type} (r : Except Error α) (m : Memory) :
    (Step.ofExcept r).runOn m = (r, m) := by
  rfl

theorem Step.runOn_pure {α : Type} (a : α) (m : Memory) :
    (pure a : Step α).runOn m = (.ok a, m) := by
  rfl

theorem Step.runOn_throw {α : Type} (e : Error) (m : Memory) :
    (throw e : Step α).runOn m = (.error e, m) := by
  rfl

theorem Step.runOn_bind {α β : Type} (step : Step α) (next : α → Step β) (m : Memory) :
    (step >>= next).runOn m =
      match step.runOn m with
      | (.ok a, m') => (next a).runOn m'
      | (.error e, m') => (.error e, m') := by
  simp only [runOn, ExceptT.run_bind, StateT.run_bind]
  generalize StateT.run (ExceptT.run step) m = outcome
  obtain ⟨result, m'⟩ := outcome
  cases result <;> rfl

namespace Context

def resolveAnew (ctx : Context) (entity selector : String) : Except Error Descriptor :=
  ctx.schema.resolve ctx.settings.referenceSuffix entity selector

def resolve (ctx : Context) (entity selector : String) : Step Descriptor := do
  if ctx.settings.memoize then
    match (← get).find? entity selector with
    | some d => return d
    | none =>
        let d ← Step.ofExcept (ctx.resolveAnew entity selector)
        modify fun m => m.remember entity selector d
        return d
  else
    Step.ofExcept (ctx.resolveAnew entity selector)

theorem runOn_resolve_of_not_memoize {ctx : Context} (h : ctx.settings.memoize = false)
    (entity selector : String) (m : Memory) :
    (ctx.resolve entity selector).runOn m = (ctx.resolveAnew entity selector, m) := by
  simp only [resolve, h, Bool.false_eq_true, if_false]
  rfl

theorem runOn_resolve_of_memoize {ctx : Context} (h : ctx.settings.memoize = true)
    (entity selector : String) (m : Memory) :
    (ctx.resolve entity selector).runOn m =
      match m.find? entity selector with
      | some d => (.ok d, m)
      | none =>
          match ctx.resolveAnew entity selector with
          | .ok d => (.ok d, m.remember entity selector d)
          | .error e => (.error e, m) := by
  simp only [resolve, h, if_true]
  rw [Step.runOn_bind]
  show (Step.runOn (match m.find? entity selector with | some d => _ | none => _) m) = _
  cases m.find? entity selector with
  | some d => rfl
  | none =>
      rw [Step.runOn_bind, Step.runOn_ofExcept]
      cases ctx.resolveAnew entity selector <;> rfl

def convertAll (ctx : Context) (d : Descriptor) (arguments : List String) :
    Except Error (List Value) :=
  Conversion.convertAll ctx.types ctx.settings.localOffset d.valueType arguments

def convert (ctx : Context) (d : Descriptor) (argument : String) : Except Error Value :=
  Conversion.convert ctx.types ctx.settings.localOffset d.valueType argument

def validated (ctx : Context) : Except Error Context := do
  ctx.settings.validate.mapError .settings
  ctx.settings.checkZone.mapError .settings
  return ctx

theorem validated_eq_ok_iff {ctx valid : Context} :
    ctx.validated = .ok valid ↔ ctx.settings.Valid ∧ ctx = valid := by
  rw [validated, Outcome.then_eq_ok_iff, Outcome.then_eq_ok_iff, Outcome.mapError_eq_ok_iff,
    Outcome.mapError_eq_ok_iff, ← and_assoc, ← Settings.valid_iff]
  simp only [pure, Except.pure, Except.ok.injEq]

end Context

end FilterQuery
