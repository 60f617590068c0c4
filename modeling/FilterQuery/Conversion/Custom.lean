import FilterQuery.Text.Literal
import FilterQuery.Schema.Basic
import FilterQuery.Value

namespace FilterQuery.Conversion

inductive CustomFault where
  | format (detail : String)
  | internal (detail : String)
  deriving DecidableEq, Repr

structure CustomType where
  name : String
  read : String → Except CustomFault Value

abbrev CustomTypes := List CustomType

namespace CustomTypes

def register (type : CustomType) : CustomTypes → CustomTypes
  | [] => [type]
  | other :: rest =>
      if other.name = type.name then type :: rest else other :: register type rest

def find? (types : CustomTypes) (name : String) : Option CustomType :=
  List.find? (fun type => type.name == name) types

def names (types : CustomTypes) : List String :=
  Schema.sortNames (types.map CustomType.name)

def describe (types : CustomTypes) : String :=
  let names := ", ".intercalate (types.names.map Text.literal)
  "TypeRegistry \x7b types: [" ++ names ++ "] \x7d"

end CustomTypes

end FilterQuery.Conversion
