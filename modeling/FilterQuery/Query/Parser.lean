import FilterQuery.Query.Basic
import FilterQuery.Query.Fault

namespace FilterQuery.Query

structure Level where
  disjuncts : List Query
  conjuncts : List Query
  deriving DecidableEq, Repr

inductive Place where
  | constraint
  | operator (selector : String)
  | arguments (selector : String) (operator : Operator)
  | value (selector : String) (operator : Operator) (values : List String)
  | afterValue (selector : String) (operator : Operator) (values : List String)
  | afterConstraint
  deriving DecidableEq, Repr

structure State where
  level : Level
  outer : List Level
  place : Place
  deriving DecidableEq, Repr

def Token.value? : Token → Option String
  | .word w => some w
  | .quoted q => some q
  | _ => none

def Token.joins (c : Connective) (t : Token) : Bool :=
  (match c with
    | .and => t == .semicolon
    | .or => t == .comma) || t.isKeyword c

def combine (limit : Nat) (c : Connective) (clauses : List Query) (position : Nat) :
    Except Fault Query :=
  match clauses with
  | [only] => .ok only
  | _ =>
      let node := Query.logical c clauses.reverse
      if node.logicalDepth ≤ limit then .ok node else .error (.tooDeep limit position)

namespace Level

def empty : Level :=
  ⟨[], []⟩

def closeAnd (limit : Nat) (l : Level) (position : Nat) : Except Fault Level := do
  let clause ← combine limit .and l.conjuncts position
  return ⟨clause :: l.disjuncts, []⟩

end Level

namespace State

def start : State :=
  ⟨.empty, [], .constraint⟩

def complete (s : State) (q : Query) : State :=
  { s with
    level := { s.level with conjuncts := q :: s.level.conjuncts }
    place := .afterConstraint }

def expected (s : State) : Expected :=
  match s.place with
  | .constraint => .selector
  | .operator _ => .comparisonOperator
  | .arguments .. => .value
  | .value .. => .value
  | .afterValue .. => .closingParen
  | .afterConstraint => if s.outer.isEmpty then .endOfInput else .closingParen

def refuse {α : Type} (s : State) (found : Option Token) (position : Nat) : Except Fault α :=
  .error (.unexpected s.expected found position)

def step (limit : Nat) (s : State) (t : Token) (position : Nat) : Except Fault State :=
  match s.place with
  | .constraint =>
      match t with
      | .leftParen =>
          if s.outer.length < maxGroups then
            .ok ⟨.empty, s.level :: s.outer, .constraint⟩
          else
            .error (.groupsTooDeep position)
      | .word selector => .ok { s with place := .operator selector }
      | _ => s.refuse t position
  | .operator selector =>
      match t with
      | .operator symbol =>
          match Operator.ofSymbol? symbol with
          | some operator => .ok { s with place := .arguments selector operator }
          | none => .error (.unknownOperator symbol position)
      | _ => s.refuse t position
  | .arguments selector operator =>
      if t = .leftParen then
        .ok { s with place := .value selector operator [] }
      else
        match t.value? with
        | some value => .ok (s.complete (.comparison selector operator [value]))
        | none => s.refuse t position
  | .value selector operator values =>
      match t.value? with
      | some value => .ok { s with place := .afterValue selector operator (value :: values) }
      | none => s.refuse t position
  | .afterValue selector operator values =>
      if t = .comma then
        .ok { s with place := .value selector operator values }
      else if t = .rightParen then
        .ok (s.complete (.comparison selector operator values.reverse))
      else
        s.refuse t position
  | .afterConstraint =>
      if t.joins .and then
        .ok { s with place := .constraint }
      else do
        let level ← s.level.closeAnd limit position
        if t.joins .or then
          return { s with level := level, place := .constraint }
        let group ← combine limit .or level.disjuncts position
        match s.outer with
        | [] => s.refuse t position
        | level :: outer =>
            if t = .rightParen then
              return State.complete ⟨level, outer, .afterConstraint⟩ group
            s.refuse t position

def finish (limit : Nat) (s : State) (position : Nat) : Except Fault Query :=
  match s.place with
  | .afterConstraint => do
      let level ← s.level.closeAnd limit position
      let query ← combine limit .or level.disjuncts position
      if s.outer.isEmpty then
        return query
      s.refuse none position
  | _ => s.refuse none position

def run (limit : Nat) (s : State) : Stream → Except Fault Query
  | .done position => s.finish limit position
  | .broken fault position => .error (.token fault position)
  | .token t position rest => do
      let next ← s.step limit t position
      next.run limit rest

end State

def defaultMaxDepth : Nat := 64

def parse (limit : Nat) (s : String) : Except Fault Query :=
  match Stream.ofString s with
  | .done _ => .error .empty
  | stream => State.start.run limit stream

end FilterQuery.Query
