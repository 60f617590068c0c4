import FilterQuery.Schema.FieldType
import FilterQuery.Text.Pieces

namespace FilterQuery.Schema

structure Field where
  type : FieldType
  isArray : Bool
  storedAs : Option String
  fields : Option (List (String × Field))
  deriving Repr

namespace Field

def storageName (f : Field) (declared : String) : String :=
  f.storedAs.getD declared

def put (name : String) (f : Field) : List (String × Field) → List (String × Field)
  | [] => [(name, f)]
  | (other, g) :: rest =>
      if other = name then (name, f) :: rest else (other, g) :: put name f rest

mutual

def decEq : (a b : Field) → Decidable (a = b)
  | ⟨t, a, s, fs⟩, ⟨u, b, r, gs⟩ =>
      if h : t = u ∧ a = b ∧ s = r then
        match decEqOption fs gs with
        | isTrue k => isTrue (by obtain ⟨rfl, rfl, rfl⟩ := h; rw [k])
        | isFalse k => isFalse (by intro e; injection e; exact k ‹_›)
      else
        isFalse (by intro e; injection e; exact h ⟨‹_›, ‹_›, ‹_›⟩)

def decEqOption : (a b : Option (List (String × Field))) → Decidable (a = b)
  | none, none => isTrue rfl
  | some fs, some gs =>
      match decEqAll fs gs with
      | isTrue h => isTrue (by rw [h])
      | isFalse h => isFalse (by intro e; injection e; exact h ‹_›)
  | none, some _ => isFalse (by intro e; injection e)
  | some _, none => isFalse (by intro e; injection e)

def decEqAll : (a b : List (String × Field)) → Decidable (a = b)
  | [], [] => isTrue rfl
  | (name, f) :: fs, (other, g) :: gs =>
      if h : name = other then
        match decEq f g, decEqAll fs gs with
        | isTrue k, isTrue l => isTrue (by rw [h, k, l])
        | isFalse k, _ => isFalse (by intro e; injection e with e _; injection e; exact k ‹_›)
        | _, isFalse l => isFalse (by intro e; injection e; exact l ‹_›)
      else
        isFalse (by intro e; injection e with e _; injection e; exact h ‹_›)
  | [], _ :: _ => isFalse (by intro e; injection e)
  | _ :: _, [] => isFalse (by intro e; injection e)

end

instance : DecidableEq Field := decEq

end Field

structure Entity where
  name : String
  idField : String
  fields : List (String × Field)
  deriving DecidableEq, Repr

namespace Entity

def defaultIdField : String := "id"

def id? (e : Entity) : Option Field :=
  e.fields.lookup e.idField

end Entity

def segments (selector : String) : List String :=
  (Text.pieces '.' selector.toList).map String.ofList

def walk (fields : List (String × Field)) : List String → Option (List (String × Field))
  | [] => none
  | [name] => if name.isEmpty then none else (fields.lookup name).map fun f => [(name, f)]
  | name :: rest =>
      if name.isEmpty then none
      else do
        let f ← fields.lookup name
        if f.type.isTraversable then
          let inner ← f.fields
          let chain ← walk inner rest
          return (name, f) :: chain
        else
          none

def Entity.walk (e : Entity) (selector : String) : Option (List (String × Field)) :=
  Schema.walk e.fields (segments selector)

end FilterQuery.Schema
