import FilterQuery.Compilation.Basic

namespace FilterQuery

inductive Request where
  | resolve (entity selector : String)
  | compile (entity : String) (query : Query)
  | filter (entity text : String)
  | document (entity text : String)

inductive Response where
  | descriptor (descriptor : Descriptor)
  | filter (filter : Filter)
  | document (document : Json)

namespace Context

def respond (ctx : Context) : Request → Step Response
  | .resolve entity selector => do return .descriptor (← ctx.resolve entity selector)
  | .compile entity query => do return .filter (← ctx.compile entity query)
  | .filter entity text => do return .filter (← ctx.createFilter entity text)
  | .document entity text => do return .document (← ctx.createDocument entity text)

def session (ctx : Context) (m : Memory) : List Request → List (Except Error Response × Memory)
  | [] => []
  | request :: rest =>
      let (result, m) := (ctx.respond request).runOn m
      (result, m) :: ctx.session m rest

end Context

end FilterQuery
