import FilterQuery.Error

namespace FilterQuery

open Schema (FieldType ValueType Entity)

structure Descriptor where
  storagePath : String
  valueType : ValueType
  isMultiValued : Bool
  isReference : Bool
  deriving DecidableEq, Repr

namespace Schema

def valueType? (s : Schema) : FieldType → Option ValueType
  | .boolean => some .boolean
  | .integer => some .integer
  | .long => some .long
  | .float => some .float
  | .double => some .double
  | .string => some .string
  | .date => some .date
  | .objectId => some .objectId
  | .enum name => (s.enum? name).map .enum
  | .custom name => some (.custom name)
  | .object => none
  | .reference _ => none
  | .untyped => none

def scalarType (s : Schema) (selector : String) (type : FieldType) : Except Error ValueType :=
  match s.valueType? type with
  | some t => .ok t
  | none => .error (.unsupportedType type.name (some selector))

def idValueType (s : Schema) (selector : String) (e : Entity) (h : Acc s.Refers e) :
    Except Error ValueType :=
  match hf : e.id? with
  | none => .error (.internal (.noIdentifier e.name))
  | some f =>
      match ht : f.type with
      | .reference target =>
          match hn : s.entity? target with
          | none => .error (.unknownEntity target)
          | some next => s.idValueType selector next (h.inv ⟨f, target, hf, ht, hn⟩)
      | type => s.scalarType selector type
termination_by (⟨e, h⟩ : { e // Acc s.Refers e })
decreasing_by exact ⟨f, target, hf, ht, hn⟩

def referencedType (s : Schema) (selector target : String) : Except Error ValueType :=
  match h : s.entity? target with
  | none => .error (.unknownEntity target)
  | some e => s.idValueType selector e (s.acc_refers (mem_of_entity? h).1)

theorem referencedType_of_entity? {s : Schema} {target : String} {e : Entity}
    (h : s.entity? target = some e) (selector : String) :
    s.referencedType selector target =
      s.idValueType selector e (s.acc_refers (mem_of_entity? h).1) := by
  rw [referencedType]
  split
  · next hn => cases h.symm.trans hn
  · next hn =>
      cases h.symm.trans hn
      rfl

def storagePath (chain : List (String × Field)) (suffix : List String) : String :=
  ".".intercalate (chain.map (fun (name, f) => f.storageName name) ++ suffix)

def describe (s : Schema) (suffix selector : String) (e : Entity) : Except Error Descriptor := do
  let unresolved : Error := .unresolvedSelector selector
  match e.walk selector with
  | none => .error unresolved
  | some chain =>
      match chain.getLast? with
      | none => .error unresolved
      | some (_, f) =>
          let isMultiValued := chain.any fun (_, g) => g.isArray
          match f.type with
          | .reference target =>
              let type ← s.referencedType selector target
              return ⟨storagePath chain [suffix], type, isMultiValued, true⟩
          | type =>
              let type ← s.scalarType selector type
              return ⟨storagePath chain [], type, isMultiValued, false⟩

def resolve (s : Schema) (suffix entity selector : String) : Except Error Descriptor :=
  match s.entity? entity with
  | none => .error (.unknownEntity entity)
  | some e => s.describe suffix selector e

end Schema

end FilterQuery
