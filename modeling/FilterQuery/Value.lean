import FilterQuery.Number.Integer
import FilterQuery.Number.Layout
import FilterQuery.Time.Instant

namespace FilterQuery

open Number (Double)
open Time (Instant)

inductive Value where
  | boolean (value : Bool)
  | integer (value : Int)
  | double (value : Double)
  | string (text : String)
  | instant (value : Instant)
  | member (enum member : String)
  | objectId (digits : String)
  deriving DecidableEq, Repr

namespace Value

def equal : Value → Value → Bool
  | .boolean a, .boolean b => a == b
  | .integer a, .integer b => a == b
  | .double a, .double b => a.equal b
  | .string a, .string b => a == b
  | .instant a, .instant b => a == b
  | .member e a, .member f b => e == f && a == b
  | .objectId a, .objectId b => a == b
  | _, _ => false

def compareText (a b : String) : Ordering :=
  compareOfLessAndEq a b

def compare? : Value → Value → Option Ordering
  | .boolean a, .boolean b => some (compare a b)
  | .integer a, .integer b => some (compare a b)
  | .double a, .double b => a.compare? b
  | .string a, .string b => some (compareText a b)
  | .instant a, .instant b => some (a.compare b)
  | .member e a, .member f b => if e = f then some (compareText a b) else none
  | .objectId a, .objectId b => some (compareText a b)
  | _, _ => none

def text? : Value → Option String
  | .string s => some s
  | .objectId s => some s
  | .member _ m => some m
  | _ => none

def integer? : Value → Option Int
  | .integer n => some n
  | _ => none

def double? : Value → Option Double
  | .double d => some d
  | _ => none

def describe : Value → String
  | .boolean b => if b then "true" else "false"
  | .integer n => String.ofList (Number.writeInteger n)
  | .double d => String.ofList d.plain
  | .string s => "\"" ++ s ++ "\""
  | .instant t => String.ofList t.write
  | .member e m => e ++ "." ++ m
  | .objectId digits => "ObjectId(" ++ digits ++ ")"

end Value

end FilterQuery
