import FilterQuery.Json.Basic
import FilterQuery.Number.Integer
import FilterQuery.Number.Layout

namespace FilterQuery.Json

def hexDigit (n : Nat) : Char :=
  "0123456789abcdef".toList.getD n '0'

def escapeChar (c : Char) : List Char :=
  if c = '"' then ['\\', '"']
  else if c = '\\' then ['\\', '\\']
  else if c = '\x08' then ['\\', 'b']
  else if c = '\t' then ['\\', 't']
  else if c = '\n' then ['\\', 'n']
  else if c = '\x0c' then ['\\', 'f']
  else if c = '\r' then ['\\', 'r']
  else if c.toNat < 0x20 then
    ['\\', 'u', '0', '0', hexDigit (c.toNat / 16), hexDigit (c.toNat % 16)]
  else [c]

def quote (s : String) : String :=
  String.ofList ('"' :: s.toList.flatMap escapeChar ++ ['"'])

def writeReal : Number.Double → String
  | .finite negative units => String.ofList (Number.signed negative (Number.dataUnits units.count))
  | _ => "null"

mutual

def pieces : Json → List String
  | .null => ["null"]
  | .bool b => [if b then "true" else "false"]
  | .integer n => [String.ofList (Number.writeInteger n)]
  | .real d => [writeReal d]
  | .string s => [quote s]
  | .array items => "[" :: itemPieces items ++ ["]"]
  | .object members => "\x7b" :: memberPieces members ++ ["\x7d"]
  | .unsupported => ["null"]

def itemPieces : List Json → List String
  | [] => []
  | [j] => j.pieces
  | j :: rest => j.pieces ++ "," :: itemPieces rest

def memberPieces : List (String × Json) → List String
  | [] => []
  | [(name, j)] => quote name :: ":" :: j.pieces
  | (name, j) :: rest => quote name :: ":" :: j.pieces ++ "," :: memberPieces rest

end

def compact (j : Json) : String :=
  String.join j.pieces

def newline (level : Nat) : String :=
  String.ofList ('\n' :: List.replicate (2 * level) ' ')

mutual

def prettyPieces (level : Nat) : Json → List String
  | .array [] => ["[]"]
  | .array items => "[" :: prettyItems (level + 1) items ++ [newline level, "]"]
  | .object [] => ["\x7b\x7d"]
  | .object members => "\x7b" :: prettyMembers (level + 1) members ++ [newline level, "\x7d"]
  | .null => ["null"]
  | .bool b => [if b then "true" else "false"]
  | .integer n => [String.ofList (Number.writeInteger n)]
  | .real d => [writeReal d]
  | .string s => [quote s]
  | .unsupported => ["null"]

def prettyItems (level : Nat) : List Json → List String
  | [] => []
  | [j] => newline level :: j.prettyPieces level
  | j :: rest => newline level :: j.prettyPieces level ++ "," :: prettyItems level rest

def prettyMembers (level : Nat) : List (String × Json) → List String
  | [] => []
  | [(name, j)] => newline level :: quote name :: ": " :: j.prettyPieces level
  | (name, j) :: rest =>
      newline level :: quote name :: ": " :: j.prettyPieces level ++ "," ::
        prettyMembers level rest

end

def pretty (j : Json) : String :=
  String.join (j.prettyPieces 0)

end FilterQuery.Json
