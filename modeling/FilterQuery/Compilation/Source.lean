import FilterQuery.Error
import FilterQuery.Json.Reader
import FilterQuery.Schema.Document

namespace FilterQuery

def Schema.ofDeclarations (entities : List Schema.Entity) (enums : List Schema.EnumType) :
    Except Error Schema :=
  (Schema.build entities enums).mapError .schema

def Schema.ofText (text : String) : Except Error Schema :=
  match (Json.read? text).bind Schema.declarationsOfJson? with
  | some (entities, enums) => Schema.ofDeclarations entities enums
  | none => .error .malformedData

def Settings.ofText (text : String) : Except Error Settings :=
  match (Json.read? text).bind Settings.ofJson? with
  | some settings => do
      settings.validate.mapError .settings
      return settings
  | none => .error .malformedData

end FilterQuery
