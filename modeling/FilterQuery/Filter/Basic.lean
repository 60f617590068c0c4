import FilterQuery.Query.Operator
import FilterQuery.Value

namespace FilterQuery

open Query (Operator Connective)

inductive Filter.Operand where
  | single (value : Value)
  | multiple (values : List Value)
  deriving DecidableEq, Repr

inductive Filter where
  | field (path : String) (operator : Operator) (operand : Filter.Operand)
  | logical (join : Connective) (children : List Filter)
  deriving Repr

namespace Filter

def Operand.fits (operator : Operator) : Operand → Bool
  | .single _ => operator.arity == .single
  | .multiple vs => operator.arity == .multi && !vs.isEmpty

def Operand.describe : Operand → String
  | .single v => v.describe
  | .multiple vs => "[" ++ ", ".intercalate (vs.map Value.describe) ++ "]"

mutual

def fieldCount : Filter → Nat
  | .field .. => 1
  | .logical _ children => fieldCountAll children

def fieldCountAll : List Filter → Nat
  | [] => 0
  | f :: rest => f.fieldCount + fieldCountAll rest

end

mutual

def depth : Filter → Nat
  | .field .. => 1
  | .logical _ children => depthAll children + 1

def depthAll : List Filter → Nat
  | [] => 0
  | f :: rest => max f.depth (depthAll rest)

end

mutual

def describe : Filter → String
  | .field path operator operand => s!"{path} {operator.symbol} {operand.describe}"
  | .logical join children => s!"{join.name}({describeAll children})"

def describeAll : List Filter → String
  | [] => ""
  | [f] => f.describe
  | f :: rest => f.describe ++ ", " ++ describeAll rest

end

end Filter

end FilterQuery
