import FilterQuery.Filter.Basic
import FilterQuery.Json.Basic

namespace FilterQuery.Filter

open Query (Operator Connective)

def single (name : String) (j : Json) : Json :=
  .object [(name, j)]

def nonFiniteName : Number.Double → String
  | .infinite true => "-Infinity"
  | .infinite false => "Infinity"
  | _ => "NaN"

def valueDocument : Value → Json
  | .boolean b => .bool b
  | .integer n => .integer n
  | .double d =>
      if d.isFinite then .real d else single "$numberDouble" (.string (nonFiniteName d))
  | .string s => .string s
  | .instant t => single "$date" (.string (String.ofList t.writeMillis))
  | .member _ m => .string m
  | .objectId digits => single "$oid" (.string digits)

def operandDocument : Operand → Json
  | .single v => valueDocument v
  | .multiple vs => .array (vs.map valueDocument)

def operatorKey? : Operator → Option String
  | .equal => none
  | .notEqual => some "$ne"
  | .greaterThan => some "$gt"
  | .greaterThanOrEqual => some "$gte"
  | .lessThan => some "$lt"
  | .lessThanOrEqual => some "$lte"
  | .isIn => some "$in"
  | .notIn => some "$nin"
  | .all => some "$all"
  | .like => some "$regex"

def clauseDocument (path : String) (operator : Operator) (operand : Json) : Json :=
  match operatorKey? operator with
  | none => single path operand
  | some key => single path (single key operand)

def joinKey : Connective → String
  | .and => "$and"
  | .or => "$or"

mutual

def document : Filter → Json
  | .field path operator operand => clauseDocument path operator (operandDocument operand)
  | .logical join children => single (joinKey join) (.array (documents children))

def documents : List Filter → List Json
  | [] => []
  | f :: rest => f.document :: documents rest

end

end FilterQuery.Filter
