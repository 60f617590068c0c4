import FilterQuery.Json.Basic
import FilterQuery.Number.Literal
import FilterQuery.Text.Case

namespace FilterQuery.Json

def maxLevels : Nat := 127

def isSpace (c : Char) : Bool :=
  c == ' ' || c == '\t' || c == '\n' || c == '\r'

def skipSpaces (s : List Char) : List Char :=
  s.dropWhile isSpace

def hexValue (c : Char) : Nat :=
  if c.isDigit then c.toNat - 48 else c.toLower.toNat - 87

def readHex4 : List Char → Option (Nat × List Char)
  | a :: b :: c :: d :: rest =>
      if [a, b, c, d].all Text.isHexDigit then
        some ([a, b, c, d].foldl (fun n c => 16 * n + hexValue c) 0, rest)
      else
        none
  | _ => none

def isHighSurrogate (n : Nat) : Bool :=
  0xD800 ≤ n && n ≤ 0xDBFF

def isLowSurrogate (n : Nat) : Bool :=
  0xDC00 ≤ n && n ≤ 0xDFFF

def readUnit (n : Nat) (rest : List Char) : Option Char × List Char :=
  if isHighSurrogate n then
    match rest with
    | '\\' :: 'u' :: more =>
        match readHex4 more with
        | some (m, more) =>
            if isLowSurrogate m then
              (some (Char.ofNat (0x10000 + (n - 0xD800) * 0x400 + (m - 0xDC00))), more)
            else
              (none, rest)
        | none => (none, rest)
    | _ => (none, rest)
  else if isLowSurrogate n then
    (none, rest)
  else
    (some (Char.ofNat n), rest)

def simpleEscape? : Char → Option Char
  | '"' => some '"'
  | '\\' => some '\\'
  | '/' => some '/'
  | 'b' => some '\x08'
  | 'f' => some '\x0c'
  | 'n' => some '\n'
  | 'r' => some '\r'
  | 't' => some '\t'
  | _ => none

def push (value : Option (List Char)) (c : Option Char) : Option (List Char) :=
  match value, c with
  | some cs, some c => some (c :: cs)
  | _, _ => none

def readString (fuel : Nat) (value : Option (List Char)) (s : List Char) :
    Option (Option String × List Char) :=
  match fuel, s with
  | 0, _ => none
  | _, [] => none
  | fuel + 1, c :: rest =>
      if c = '"' then
        some (value.map fun cs => String.ofList cs.reverse, rest)
      else if c.toNat < 0x20 then
        none
      else if c = '\\' then
        match rest with
        | 'u' :: rest =>
            match readHex4 rest with
            | some (n, rest) =>
                let (c, rest) := readUnit n rest
                readString fuel (push value c) rest
            | none => none
        | e :: rest =>
            match simpleEscape? e with
            | some c => readString fuel (push value c) rest
            | none => none
        | [] => none
      else
        readString fuel (push value c) rest

def isNumberChar (c : Char) : Bool :=
  c.isDigit || c == '+' || c == '-' || c == '.' || c == 'e' || c == 'E'

def hasPlainWhole (digits : List Char) : Bool :=
  match digits.takeWhile Char.isDigit with
  | [] => false
  | ['0'] => true
  | '0' :: _ => false
  | _ => true

def hasFullFraction (digits : List Char) : Bool :=
  match digits.dropWhile Char.isDigit with
  | '.' :: c :: _ => c.isDigit
  | '.' :: [] => false
  | _ => true

def readNumber (s : List Char) : Option Json :=
  let (negative, unsigned) :=
    match s with
    | '-' :: rest => (true, rest)
    | _ => (false, s)
  if !hasPlainWhole unsigned || !hasFullFraction unsigned then
    none
  else
    let n := Text.digitsValue unsigned
    if unsigned.all Char.isDigit && !negative && n < Nat.pow 2 64 then
      some (.integer n)
    else if unsigned.all Char.isDigit && negative && 0 < n && n ≤ Nat.pow 2 63 then
      some (.integer (-n))
    else
      (Number.readDecimal unsigned).map fun d =>
        match d.toDouble .double negative with
        | .finite negative units => .real (.finite negative units)
        | _ => .unsupported

def readWord (word : String) (value : Json) (s : List Char) : Option (Json × List Char) :=
  if word.toList.isPrefixOf s then some (value, s.drop word.length) else none

def held (level : Nat) (j : Json) : Json :=
  if level < maxLevels then j else .unsupported

def heldMembers (members : List (Option String × Json)) : Json :=
  match members.mapM fun (name, j) => name.map fun name => (name, j) with
  | some members => .object members
  | none => .unsupported

mutual

def readValue (fuel level : Nat) (s : List Char) : Option (Json × List Char) :=
  match fuel with
  | 0 => none
  | fuel + 1 =>
      match skipSpaces s with
      | '"' :: rest =>
          (readString fuel (some []) rest).map fun (text, rest) =>
            (text.elim .unsupported .string, rest)
      | '[' :: rest =>
          match skipSpaces rest with
          | ']' :: rest => some (held level (.array []), rest)
          | _ =>
              (readItems fuel (level + 1) rest).map fun (items, rest) =>
                (held level (.array items), rest)
      | '\x7b' :: rest =>
          match skipSpaces rest with
          | '\x7d' :: rest => some (held level (.object []), rest)
          | _ =>
              (readMembers fuel (level + 1) rest).map fun (members, rest) =>
                (held level (heldMembers members), rest)
      | 't' :: rest => readWord "rue" (.bool true) rest
      | 'f' :: rest => readWord "alse" (.bool false) rest
      | 'n' :: rest => readWord "ull" .null rest
      | s =>
          (readNumber (s.takeWhile isNumberChar)).map fun j => (j, s.dropWhile isNumberChar)

def readItems (fuel level : Nat) (s : List Char) : Option (List Json × List Char) :=
  match fuel with
  | 0 => none
  | fuel + 1 => do
      let (j, rest) ← readValue fuel level s
      match skipSpaces rest with
      | ',' :: rest =>
          let (items, rest) ← readItems fuel level rest
          return (j :: items, rest)
      | ']' :: rest => return ([j], rest)
      | _ => none

def readMembers (fuel level : Nat) (s : List Char) :
    Option (List (Option String × Json) × List Char) :=
  match fuel with
  | 0 => none
  | fuel + 1 =>
      match skipSpaces s with
      | '"' :: rest => do
          let (name, rest) ← readString fuel (some []) rest
          match skipSpaces rest with
          | ':' :: rest =>
              let (j, rest) ← readValue fuel level rest
              match skipSpaces rest with
              | ',' :: rest =>
                  let (members, rest) ← readMembers fuel level rest
                  return ((name, j) :: members, rest)
              | '\x7d' :: rest => return ([(name, j)], rest)
              | _ => none
          | _ => none
      | _ => none

end

def read? (s : String) : Option Json :=
  let chars := s.toList
  match readValue (2 * chars.length + 1) 0 chars with
  | some (j, rest) => if (skipSpaces rest).isEmpty then some j else none
  | none => none

end FilterQuery.Json
