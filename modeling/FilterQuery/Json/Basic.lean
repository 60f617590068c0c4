import FilterQuery.Number.Double

namespace FilterQuery

open Number (Double)

inductive Json where
  | null
  | bool (value : Bool)
  | integer (value : Int)
  | real (value : Double)
  | string (value : String)
  | array (items : List Json)
  | object (members : List (String × Json))
  | unsupported
  deriving Inhabited, Repr

namespace Json

def lastMember? (name : String) (members : List (String × Json)) : Option Json :=
  (members.reverse.find? fun m => m.1 == name).map Prod.snd

mutual

def isSupported : Json → Bool
  | .array items => allSupported items
  | .object members => allMembersSupported members
  | .unsupported => false
  | _ => true

def allSupported : List Json → Bool
  | [] => true
  | j :: rest => j.isSupported && allSupported rest

def allMembersSupported : List (String × Json) → Bool
  | [] => true
  | (_, j) :: rest => j.isSupported && allMembersSupported rest

end

def insertMember (name : String) (j : Json) : List (String × Json) → List (String × Json)
  | [] => [(name, j)]
  | (other, k) :: rest =>
      if name < other then (name, j) :: (other, k) :: rest
      else if name = other then (other, k) :: rest
      else (other, k) :: insertMember name j rest

mutual

def sorted : Json → Json
  | .array items => .array (sortedAll items)
  | .object members => .object (sortedMembers members)
  | j => j

def sortedAll : List Json → List Json
  | [] => []
  | j :: rest => j.sorted :: sortedAll rest

def sortedMembers : List (String × Json) → List (String × Json)
  | [] => []
  | (name, j) :: rest => insertMember name j.sorted (sortedMembers rest)

end

end Json

end FilterQuery
