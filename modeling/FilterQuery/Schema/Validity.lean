import FilterQuery.Outcome
import FilterQuery.Schema.Basic

namespace FilterQuery.Schema

inductive FieldFault where
  | badName
  | badStoredName (stored : String)
  | noFields
  | unknownEntity (target : String)
  | undeclaredEnum (name : String)
  | fieldsOn (typeName : String)
  deriving DecidableEq, Repr

def FieldFault.message : FieldFault → String
  | .badName => "field names must be non-empty and contain no '.'"
  | .badStoredName stored => s!"invalid stored name '{stored}'"
  | .noFields => "object field has no properties"
  | .unknownEntity target => s!"reference to unknown entity '{target}'"
  | .undeclaredEnum name => s!"undeclared enum '{name}'"
  | .fieldsOn typeName => s!"{typeName} field cannot declare properties"

inductive Fault where
  | emptyEntityName
  | duplicateEntity (name : String)
  | emptyEnum (name : String)
  | duplicateEnum (name : String)
  | noIdentifier (entity idField : String)
  | field (entity path : String) (fault : FieldFault)
  | chain (entity : String) (fault : ChainFault)
  | other (text : String)
  deriving DecidableEq, Repr

def Fault.message : Fault → String
  | .emptyEntityName => "entity name must not be empty"
  | .duplicateEntity name => s!"duplicate entity '{name}'"
  | .emptyEnum name => s!"enum '{name}' has no members"
  | .duplicateEnum name => s!"duplicate enum '{name}'"
  | .noIdentifier entity idField => s!"entity '{entity}' has no identifier field '{idField}'"
  | .field entity path fault => s!"{entity}.{path}: {fault.message}"
  | .chain _ (.missing entity idField) =>
      s!"entity '{entity}' has no identifier field '{idField}'"
  | .chain entity (.cycle through) =>
      s!"identifier of entity '{entity}' references itself through '{through}'"
  | .chain _ (.unknown entity target) =>
      s!"identifier of '{entity}' references unknown entity '{target}'"
  | .chain _ (.notScalar entity typeName) =>
      s!"identifier of entity '{entity}' must be scalar, got {typeName}"
  | .other text => text

def isSegment (name : String) : Bool :=
  !name.isEmpty && !name.toList.contains '.'

def checkNames (name : String) (f : Field) : Except FieldFault Unit :=
  if !isSegment name then .error .badName
  else
    match f.storedAs with
    | some stored => if isSegment stored then .ok () else .error (.badStoredName stored)
    | none => .ok ()

def checkFieldsOn (f : Field) : Except FieldFault Unit :=
  if f.fields.isSome && !f.type.isTraversable then .error (.fieldsOn f.type.name) else .ok ()

def Declarations.checkReference (d : Declarations) : FieldType → Except FieldFault Unit
  | .reference target => if d.hasEntity target then .ok () else .error (.unknownEntity target)
  | .enum name => if d.hasEnum name then .ok () else .error (.undeclaredEnum name)
  | _ => .ok ()

def joinPath (outer name : String) : String :=
  if outer.isEmpty then name else outer ++ "." ++ name

def faultAt {α : Type} (entity path : String) (r : Except FieldFault α) : Except Fault α :=
  r.mapError (.field entity path)

mutual

def Declarations.checkField (d : Declarations) (entity path name : String) :
    Field → Except Fault Unit
  | ⟨type, isArray, storedAs, fields⟩ => do
      let f : Field := ⟨type, isArray, storedAs, fields⟩
      let path := joinPath path name
      faultAt entity path (checkNames name f)
      if type = .object then
        d.checkInner entity path fields
      else
        faultAt entity path (d.checkReference type)
      faultAt entity path (checkFieldsOn f)

def Declarations.checkInner (d : Declarations) (entity path : String) :
    Option (List (String × Field)) → Except Fault Unit
  | some fields => d.checkFields entity path fields
  | none => .error (.field entity path .noFields)

def Declarations.checkFields (d : Declarations) (entity path : String) :
    List (String × Field) → Except Fault Unit
  | [] => .ok ()
  | (name, f) :: rest => do
      d.checkField entity path name f
      d.checkFields entity path rest

end

def Declarations.checkEntity (d : Declarations) (e : Entity) : Except Fault Unit := do
  if e.id?.isNone then
    throw (.noIdentifier e.name e.idField)
  d.checkFields e.name "" e.fields
  let _ ← (d.idType e).mapError (.chain e.name)

def checkEntityNames (seen : List String) : List Entity → Except Fault Unit
  | [] => .ok ()
  | e :: rest =>
      if e.name.isEmpty then .error .emptyEntityName
      else if seen.contains e.name then .error (.duplicateEntity e.name)
      else checkEntityNames (e.name :: seen) rest

def checkEnums (seen : List String) : List EnumType → Except Fault Unit
  | [] => .ok ()
  | e :: rest =>
      if e.members.isEmpty then .error (.emptyEnum e.name)
      else if seen.contains e.name then .error (.duplicateEnum e.name)
      else checkEnums (e.name :: seen) rest

def Declarations.check (d : Declarations) : Except Fault Unit := do
  checkEntityNames [] d.entities
  checkEnums [] d.enums
  d.entities.forM d.checkEntity

end FilterQuery.Schema

namespace FilterQuery

structure Schema extends Schema.Declarations where
  valid : toDeclarations.check = .ok ()
  deriving Repr

namespace Schema

def build (entities : List Entity) (enums : List EnumType) : Except Fault Schema :=
  let d : Declarations := ⟨entities, enums⟩
  match h : d.check with
  | .ok () => .ok ⟨d, h⟩
  | .error fault => .error fault

theorem check_eq_ok_iff {d : Declarations} :
    d.check = .ok () ↔ checkEntityNames [] d.entities = .ok () ∧ checkEnums [] d.enums = .ok () ∧
      ∀ e ∈ d.entities, d.checkEntity e = .ok () := by
  rw [Declarations.check, Outcome.then_eq_ok_iff, Outcome.then_eq_ok_iff, Outcome.forM_eq_ok_iff]

theorem checkEntity_eq_ok_iff {d : Declarations} {e : Entity} :
    d.checkEntity e = .ok () ↔
      e.id?.isSome ∧ d.checkFields e.name "" e.fields = .ok () ∧
        ∃ type, d.idType e = .ok type := by
  rw [Declarations.checkEntity]
  cases e.id? with
  | none => simp
  | some f =>
      simp only [Option.isNone_some, Option.isSome_some, Bool.false_eq_true, if_false, true_and]
      rw [Outcome.then_eq_ok_iff, Outcome.bind_eq_ok_iff]
      simp only [Outcome.mapError_eq_ok_iff, pure, Except.pure, and_true]

theorem acc_refers (s : Schema) {e : Entity} (he : e ∈ s.entities) : Acc s.Refers e := by
  obtain ⟨-, -, checked⟩ := check_eq_ok_iff.1 s.valid
  obtain ⟨-, -, type, ends⟩ := checkEntity_eq_ok_iff.1 (checked e he)
  exact acc_of_identifierType ends

end Schema

end FilterQuery
