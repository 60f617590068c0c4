import FilterQuery.Compilation.Context
import FilterQuery.Filter.Document
import FilterQuery.Query.Parser

namespace FilterQuery.Context

open Query (Operator)

def readArguments (ctx : Context) (operator : Operator) (d : Descriptor)
    (arguments : List String) : Except Error Filter.Operand :=
  match operator, operator.arity, arguments with
  | .like, _, [pattern] => .ok (.single (.string pattern))
  | _, .multi, _ => (ctx.convertAll d arguments).map .multiple
  | _, .single, [argument] => (ctx.convert d argument).map .single
  | _, .single, _ => .error (.internal (.uncheckedArity operator))

def operand (ctx : Context) (selector : String) (operator : Operator) (d : Descriptor)
    (arguments : List String) : Except Error Filter.Operand :=
  if operator.admits arguments.length then
    (ctx.readArguments operator d arguments).mapError (·.withSelector selector)
  else
    .error (.arity selector operator arguments.length 1)

def compileClause (ctx : Context) (entity selector : String) (operator : Operator)
    (arguments : List String) : Step Filter := do
  let d ← ctx.resolve entity selector
  let operand ← Step.ofExcept (ctx.operand selector operator d arguments)
  return .field d.storagePath operator operand

mutual

def compileNode (ctx : Context) (entity : String) (depth : Nat) : Query → Step Filter
  | .comparison selector operator arguments =>
      ctx.compileClause entity selector operator arguments
  | .logical connective children => do
      if ctx.settings.maxDepth ≤ depth then
        throw (.query (.treeTooDeep ctx.settings.maxDepth))
      if children.isEmpty then
        throw (.query (.withoutOperands connective))
      let filters ← ctx.compileNodes entity (depth + 1) children
      return .logical connective filters

def compileNodes (ctx : Context) (entity : String) (depth : Nat) :
    List Query → Step (List Filter)
  | [] => return []
  | q :: rest => do
      let f ← ctx.compileNode entity depth q
      let fs ← ctx.compileNodes entity depth rest
      return f :: fs

end

def compile (ctx : Context) (entity : String) (q : Query) : Step Filter := do
  if ctx.schema.hasEntity entity then
    ctx.compileNode entity 0 q
  else
    throw (.unknownEntity entity)

def parse (ctx : Context) (text : String) : Except Error Query :=
  (Query.parse ctx.settings.maxDepth text).mapError .query

def createFilter (ctx : Context) (entity text : String) : Step Filter := do
  let q ← Step.ofExcept (ctx.parse text)
  ctx.compile entity q

def createDocument (ctx : Context) (entity text : String) : Step Json := do
  let f ← ctx.createFilter entity text
  return f.document

end FilterQuery.Context
