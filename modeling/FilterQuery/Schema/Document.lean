import FilterQuery.Json.Record
import FilterQuery.Schema.Validity

namespace FilterQuery.Schema

def typeNames : List String :=
  ["boolean", "integer", "long", "float", "double", "string", "date", "object_id", "enum", "custom",
    "object", "reference", "untyped"]

def FieldType.ofName? (argument : String → Option String) (name : String) : Option FieldType :=
  match name with
  | "boolean" => some .boolean
  | "integer" => some .integer
  | "long" => some .long
  | "float" => some .float
  | "double" => some .double
  | "string" => some .string
  | "date" => some .date
  | "object_id" => some .objectId
  | "enum" => (argument "name").map .enum
  | "custom" => (argument "name").map .custom
  | "object" => some .object
  | "reference" => (argument "entity").map .reference
  | "untyped" => some .untyped
  | _ => none

def stringMember? (members : List (String × Json)) (name : String) : Option String := do
  let member ← Json.memberOnce name members
  (← member).string?

def FieldType.ofMembers? (typeName? : Json → Option String) (members : List (String × Json)) :
    Option FieldType := do
  let member ← Json.memberOnce "type" members
  let name ← typeName? (← member)
  FieldType.ofName? (stringMember? members) name

def FieldType.ofJson? : Json → Option FieldType
  | .object members =>
      if Json.allMembersSupported members then FieldType.ofMembers? Json.string? members else none
  | .array [.string name] => FieldType.ofName? (fun _ => none) name
  | .array [.string name, .string argument] => do
      let type ← FieldType.ofName? (fun _ => some argument) name
      if type = .enum argument ∨ type = .custom argument ∨ type = .reference argument then
        some type
      else
        none
  | _ => none

def typeName? : Json → Option String
  | .string name => some name
  | .integer (.ofNat n) => typeNames[n]?
  | _ => none

def ownMembers : List String :=
  ["array", "stored_as", "properties"]

def storedAs? : Json → Option (Option String)
  | .null => some none
  | .string s => some (some s)
  | _ => none

def addField (name : String) (f : Field) (fields : List (String × Field)) :
    List (String × Field) :=
  if fields.any fun g => g.1 == name then fields else (name, f) :: fields

mutual

def fieldOfJson? : Json → Option Field
  | .object members => do
      let others := members.filter fun m => !ownMembers.contains m.1
      if !Json.allMembersSupported others then
        none
      let type ← FieldType.ofMembers? typeName? others
      let isArray ← Json.optional Json.bool? false (← Json.memberOnce "array" members)
      let storedAs ← Json.optional storedAs? none (← Json.memberOnce "stored_as" members)
      let fields ← innerOfMembers? members
      return ⟨type, isArray, storedAs, fields⟩
  | _ => none

def innerOfMembers? : List (String × Json) → Option (Option (List (String × Field)))
  | [] => some none
  | (name, j) :: rest =>
      if name = "properties" then
        if rest.any fun m => m.1 == "properties" then none else innerOfJson? j
      else
        innerOfMembers? rest

def innerOfJson? : Json → Option (Option (List (String × Field)))
  | .null => some none
  | .object members => (fieldsOfMembers? members).map some
  | _ => none

def fieldsOfMembers? : List (String × Json) → Option (List (String × Field))
  | [] => some []
  | (name, j) :: rest => do
      let f ← fieldOfJson? j
      let fields ← fieldsOfMembers? rest
      return addField name f fields

end

def fieldsOfJson? : Json → Option (List (String × Field))
  | .object members => fieldsOfMembers? members
  | _ => none

def entityOfJson? (j : Json) : Option Entity := do
  match ← j.record? ["name", "id_field", "properties"] with
  | [name, idField, fields] =>
      let name ← (← name).string?
      let idField ← Json.optional Json.string? Entity.defaultIdField idField
      let fields ← Json.optional fieldsOfJson? [] fields
      return ⟨name, idField, fields⟩
  | _ => none

def entitiesOfJson? : Json → Option (List Entity)
  | .array items => items.mapM entityOfJson?
  | _ => none

def addEnum (name : String) (members : List String) (enums : List EnumType) : List EnumType :=
  if enums.any fun e => e.name == name then enums else ⟨name, members⟩ :: enums

def enumsOfMembers? : List (String × Json) → Option (List EnumType)
  | [] => some []
  | (name, j) :: rest => do
      let members ← j.strings?
      let enums ← enumsOfMembers? rest
      return addEnum name members enums

def enumsOfJson? : Json → Option (List EnumType)
  | .object members => enumsOfMembers? members
  | _ => none

def declarationsOfJson? (j : Json) : Option (List Entity × List EnumType) := do
  match ← j.record? ["entities", "enums"] with
  | [entities, enums] =>
      let entities ← Json.optional entitiesOfJson? [] entities
      let enums ← Json.optional enumsOfJson? [] enums
      return (entities, enums)
  | _ => none

def FieldType.toMembers (type : FieldType) : List (String × Json) :=
  ("type", .string type.name) ::
    match type with
    | .enum name => [("name", .string name)]
    | .custom name => [("name", .string name)]
    | .reference entity => [("entity", .string entity)]
    | _ => []

def storedAsMembers : Option String → List (String × Json)
  | some stored => [("stored_as", .string stored)]
  | none => []

mutual

def fieldToJson : Field → Json
  | ⟨type, isArray, storedAs, fields⟩ =>
      .object (type.toMembers ++ ("array", .bool isArray) :: storedAsMembers storedAs ++
        innerToMembers fields)

def innerToMembers : Option (List (String × Field)) → List (String × Json)
  | some fields => [("properties", .object (fieldsToMembers fields))]
  | none => []

def fieldsToMembers : List (String × Field) → List (String × Json)
  | [] => []
  | (name, f) :: rest => (name, fieldToJson f) :: fieldsToMembers rest

end

def Entity.toJson (e : Entity) : Json :=
  .object [("name", .string e.name), ("id_field", .string e.idField),
    ("properties", .object (fieldsToMembers e.fields))]

end FilterQuery.Schema
