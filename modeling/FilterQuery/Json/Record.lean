import FilterQuery.Json.Basic

namespace FilterQuery.Json

def memberOnce (name : String) (members : List (String × Json)) : Option (Option Json) :=
  match members.filter fun m => m.1 == name with
  | [] => some none
  | [(_, j)] => some (some j)
  | _ => none

def record? (fields : List String) : Json → Option (List (Option Json))
  | .object members => fields.mapM fun name => memberOnce name members
  | .array items =>
      if items.length ≤ fields.length then
        some (items.map some ++ List.replicate (fields.length - items.length) none)
      else
        none
  | _ => none

def optional {α : Type} (read : Json → Option α) (absent : α) : Option Json → Option α
  | none => some absent
  | some j => read j

def bool? : Json → Option Bool
  | .bool b => some b
  | _ => none

def string? : Json → Option String
  | .string s => some s
  | _ => none

def integer? : Json → Option Int
  | .integer n => some n
  | _ => none

def integerBetween? (least greatest : Int) (j : Json) : Option Int := do
  let n ← j.integer?
  if least ≤ n ∧ n ≤ greatest then some n else none

def strings? : Json → Option (List String)
  | .array items => items.mapM string?
  | _ => none

end FilterQuery.Json
