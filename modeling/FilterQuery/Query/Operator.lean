namespace FilterQuery.Query

inductive Arity where
  | single
  | multi
  deriving DecidableEq, Repr

inductive Operator where
  | equal
  | notEqual
  | greaterThan
  | greaterThanOrEqual
  | lessThan
  | lessThanOrEqual
  | isIn
  | notIn
  | all
  | like
  deriving DecidableEq, Repr

namespace Operator

def every : List Operator :=
  [.equal, .notEqual, .greaterThan, .greaterThanOrEqual, .lessThan, .lessThanOrEqual,
    .isIn, .notIn, .all, .like]

theorem mem_every (o : Operator) : o ∈ every := by
  cases o <;> decide

def symbol : Operator → String
  | .equal => "=="
  | .notEqual => "!="
  | .greaterThan => ">"
  | .greaterThanOrEqual => ">="
  | .lessThan => "<"
  | .lessThanOrEqual => "<="
  | .isIn => "=in="
  | .notIn => "=out="
  | .all => "=all="
  | .like => "=like="

def otherSymbols : Operator → List String
  | .greaterThan => ["=gt="]
  | .greaterThanOrEqual => ["=ge="]
  | .lessThan => ["=lt="]
  | .lessThanOrEqual => ["=le="]
  | .like => ["=re="]
  | _ => []

def symbols (o : Operator) : List String :=
  o.symbol :: o.otherSymbols

def ofSymbol? (s : String) : Option Operator :=
  every.find? fun o => o.symbols.contains s

theorem ofSymbol?_symbol (o : Operator) : ofSymbol? o.symbol = some o := by
  cases o <;> decide

def arity : Operator → Arity
  | .isIn => .multi
  | .notIn => .multi
  | .all => .multi
  | _ => .single

def admits (operator : Operator) (count : Nat) : Bool :=
  match operator.arity with
  | .single => count == 1
  | .multi => 1 ≤ count

end Operator

inductive Connective where
  | and
  | or
  deriving DecidableEq, Repr

namespace Connective

def name : Connective → String
  | .and => "AND"
  | .or => "OR"

def separator : Connective → Char
  | .and => ';'
  | .or => ','

def keyword : Connective → String
  | .and => "and"
  | .or => "or"

end Connective

end FilterQuery.Query
