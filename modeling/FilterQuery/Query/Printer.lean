import FilterQuery.Query.Basic
import FilterQuery.Query.Token

namespace FilterQuery.Query

def isPlain (argument : String) : Bool :=
  !argument.isEmpty && argument.toList.all isUnreserved &&
    !Text.sameLetters argument Connective.and.keyword &&
    !Text.sameLetters argument Connective.or.keyword

def escape : List Char → List Char
  | [] => []
  | c :: rest =>
      if c = '"' ∨ c = '\\' then '\\' :: c :: escape rest else c :: escape rest

def writeArgument (argument : String) : List Char :=
  if isPlain argument then
    argument.toList
  else
    '"' :: escape argument.toList ++ ['"']

def writeArguments : List String → List Char
  | [] => []
  | [a] => writeArgument a
  | a :: rest => writeArgument a ++ ',' :: writeArguments rest

def writeComparison (selector : String) (operator : Operator) (arguments : List String) :
    List Char :=
  selector.toList ++ operator.symbol.toList ++
    match operator.arity, arguments with
    | .single, [argument] => writeArgument argument
    | _, _ => '(' :: writeArguments arguments ++ [')']

mutual

def write : Query → List Char
  | .comparison selector operator arguments => writeComparison selector operator arguments
  | .logical connective children => writeAll connective children

def writeAll (connective : Connective) : List Query → List Char
  | [] => []
  | [q] => writeChild q
  | q :: rest => writeChild q ++ connective.separator :: writeAll connective rest

def writeChild : Query → List Char
  | .comparison selector operator arguments => writeComparison selector operator arguments
  | .logical connective children => '(' :: writeAll connective children ++ [')']

end

def toText (q : Query) : String :=
  String.ofList q.write

end FilterQuery.Query
