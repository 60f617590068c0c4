import FilterQuery.Query.Token

namespace FilterQuery.Query

def maxGroups : Nat := 256

inductive Expected where
  | selector
  | comparisonOperator
  | value
  | closingParen
  | endOfInput
  deriving DecidableEq, Repr

def Expected.name : Expected → String
  | .selector => "selector"
  | .comparisonOperator => "comparison operator"
  | .value => "value"
  | .closingParen => "')'"
  | .endOfInput => "end of input"

def Token.describe : Token → String
  | .word w => "'" ++ w ++ "'"
  | .quoted q => "\"" ++ q ++ "\""
  | .operator o => "'" ++ o ++ "'"
  | .semicolon => "';'"
  | .comma => "','"
  | .leftParen => "'('"
  | .rightParen => "')'"

inductive Fault where
  | token (fault : TokenFault) (position : Nat)
  | empty
  | unexpected (expected : Expected) (found : Option Token) (position : Nat)
  | unknownOperator (symbol : String) (position : Nat)
  | groupsTooDeep (position : Nat)
  | tooDeep (limit position : Nat)
  | treeTooDeep (limit : Nat)
  | withoutOperands (connective : Connective)
  | other (text : String)
  deriving DecidableEq, Repr

def Fault.message : Fault → String
  | .token fault position => s!"{fault.message} at position {position}"
  | .empty => "empty query"
  | .unexpected expected found position =>
      let seen := (found.map Token.describe).getD Expected.endOfInput.name
      s!"expected {expected.name} but found {seen} at position {position}"
  | .unknownOperator symbol position => s!"unknown operator '{symbol}' at position {position}"
  | .groupsTooDeep position =>
      s!"parentheses nested deeper than {maxGroups} at position {position}"
  | .tooDeep limit position =>
      s!"logical expressions nested deeper than {limit} before position {position}"
  | .treeTooDeep limit => s!"logical expressions nested deeper than {limit}"
  | .withoutOperands connective => s!"{connective.name} expression without operands"
  | .other text => text

end FilterQuery.Query
