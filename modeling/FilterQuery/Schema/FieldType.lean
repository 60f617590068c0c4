import FilterQuery.Text.Case

namespace FilterQuery.Schema

inductive FieldType where
  | boolean
  | integer
  | long
  | float
  | double
  | string
  | date
  | objectId
  | enum (name : String)
  | custom (name : String)
  | object
  | reference (entity : String)
  | untyped
  deriving DecidableEq, Repr

namespace FieldType

def name : FieldType → String
  | .boolean => "boolean"
  | .integer => "integer"
  | .long => "long"
  | .float => "float"
  | .double => "double"
  | .string => "string"
  | .date => "date"
  | .objectId => "object_id"
  | .enum _ => "enum"
  | .custom _ => "custom"
  | .object => "object"
  | .reference _ => "reference"
  | .untyped => "untyped"

def isScalar : FieldType → Bool
  | .object => false
  | .reference _ => false
  | .untyped => false
  | _ => true

def isTraversable : FieldType → Bool
  | .object => true
  | _ => false

end FieldType

structure EnumType where
  name : String
  members : List String
  deriving DecidableEq, Repr

def EnumType.member? (e : EnumType) (text : String) : Option String :=
  e.members.find? (Text.sameLetters · text)

theorem EnumType.mem_of_member? {e : EnumType} {text m : String} (h : e.member? text = some m) :
    m ∈ e.members ∧ Text.sameLetters m text :=
  ⟨List.mem_of_find?_eq_some h, List.find?_some (p := (Text.sameLetters · text)) h⟩

inductive ValueType where
  | boolean
  | integer
  | long
  | float
  | double
  | string
  | date
  | objectId
  | enum (type : EnumType)
  | custom (name : String)
  deriving DecidableEq, Repr

def ValueType.describe : ValueType → String
  | .boolean => "boolean"
  | .integer => "integer"
  | .long => "long"
  | .float => "float"
  | .double => "double"
  | .string => "string"
  | .date => "date"
  | .objectId => "object_id"
  | .enum type => "enum " ++ type.name
  | .custom name => name

end FilterQuery.Schema
