import FilterQuery.Query.Fault
import FilterQuery.Schema.Validity
import FilterQuery.Settings

namespace FilterQuery

open Query (Operator)

inductive Defect where
  | customType (name detail : String)
  | noIdentifier (entity : String)
  | uncheckedArity (operator : Operator)
  | other (text : String)
  deriving DecidableEq, Repr

def Defect.message : Defect → String
  | .customType name detail => s!"parser for type '{name}' failed: {detail}"
  | .noIdentifier entity => s!"entity '{entity}' lost its identifier"
  | .uncheckedArity operator => s!"unchecked arity for operator {operator.symbol}"
  | .other text => text

inductive Error where
  | query (fault : Query.Fault)
  | unknownEntity (name : String)
  | unresolvedSelector (selector : String)
  | arity (selector : String) (operator : Operator) (got expected : Nat)
  | argument (raw target : String) (detail selector : Option String)
  | unsupportedType (typeName : String) (selector : Option String)
  | schema (fault : Schema.Fault)
  | settings (fault : Settings.Fault)
  | internal (defect : Defect)
  | unreadableFile
  | malformedData
  deriving DecidableEq, Repr

namespace Error

def kind : Error → String
  | .query _ => "syntax"
  | .unknownEntity _ => "unknown_entity"
  | .unresolvedSelector _ => "unresolved_selector"
  | .arity .. => "arity"
  | .argument .. => "argument_format"
  | .unsupportedType .. => "unsupported_type"
  | .schema _ => "invalid_schema"
  | .settings _ => "invalid_settings"
  | .internal _ => "internal"
  | .unreadableFile => "io"
  | .malformedData => "json"

def message : Error → String
  | .query fault => "Syntax error: " ++ fault.message
  | .unknownEntity name => "Unknown entity: " ++ name
  | .unresolvedSelector selector => "Could not find matching field for selector: " ++ selector
  | .arity selector operator got expected =>
      s!"Operator {operator.symbol} on '{selector}' expects {expected} argument(s), got {got}"
  | .argument raw target detail selector =>
      let place := (selector.map fun s => s!" for '{s}'").getD ""
      let reason := (detail.map fun d => s!": {d}").getD ""
      s!"Cannot convert '{raw}' to {target}{place}{reason}"
  | .unsupportedType typeName selector =>
      let place := (selector.map fun s => s!" (selector '{s}')").getD ""
      s!"Unsupported target type: {typeName}{place}"
  | .schema fault => "Invalid schema: " ++ fault.message
  | .settings fault => "Invalid settings: " ++ fault.message
  | .internal defect => "Internal error: " ++ defect.message
  | .unreadableFile => "IO error"
  | .malformedData => "JSON error"

def isUserError : Error → Bool
  | .query _ => true
  | .unknownEntity _ => true
  | .unresolvedSelector _ => true
  | .arity .. => true
  | .argument .. => true
  | .unsupportedType .. => true
  | _ => false

def withDetail (detail : String) : Error → Error
  | .argument raw target _ selector => .argument raw target (some detail) selector
  | e => e

def withSelector (selector : String) : Error → Error
  | .argument raw target detail known => .argument raw target detail (known.or (some selector))
  | .unsupportedType typeName known => .unsupportedType typeName (known.or (some selector))
  | e => e

end Error

end FilterQuery
