import FilterQuery.Text.Blank
import FilterQuery.Time.Instant

namespace FilterQuery.Time

structure Fields where
  year : Int
  month : Nat
  day : Nat
  hour : Nat
  minute : Nat
  second : Nat
  nanos : Nat
  deriving DecidableEq, Repr

namespace Fields

def date (f : Fields) : Date :=
  ⟨f.year, f.month, f.day⟩

def isValid (f : Fields) : Bool :=
  firstYear ≤ f.year && f.year ≤ lastYear && f.date.isValid &&
    f.hour ≤ 23 && f.minute ≤ 59 && f.second ≤ 60

def toInstant? (f : Fields) (offset : Int) : Option Instant :=
  if f.isValid then
    let clock := f.hour * 3600 + f.minute * 60 + min f.second 59
    let nanos := if f.second = 60 then f.nanos + billion else f.nanos
    let t : Instant := ⟨(f.date.number - epochDay) * secondsPerDay + clock - offset, nanos⟩
    if t.isRepresentable then some t else none
  else
    none

end Fields

def skip (c : Char) : List Char → Option (List Char)
  | d :: rest => if d = c then some rest else none
  | [] => none

def readFixed (width : Nat) (s : List Char) : Option (Nat × List Char) :=
  let ds := s.take width
  if ds.length = width ∧ ds.all Char.isDigit then
    some (Text.digitsValue ds, s.drop width)
  else
    none

def readShort (width : Nat) (s : List Char) : Option (Nat × List Char) :=
  let s := Text.dropBlanks s
  let ds := (s.take width).takeWhile Char.isDigit
  if ds.isEmpty then none else some (Text.digitsValue ds, s.drop ds.length)

def readDigits (s : List Char) : Option (Nat × List Char) :=
  let ds := s.takeWhile Char.isDigit
  if ds.isEmpty then none else some (Text.digitsValue ds, s.dropWhile Char.isDigit)

def readSignedYear (s : List Char) : Option (Int × List Char) :=
  match Text.dropBlanks s with
  | '-' :: rest => (readDigits rest).map fun (n, rest) => (-(n : Int), rest)
  | '+' :: rest => (readDigits rest).map fun (n, rest) => ((n : Int), rest)
  | s => (readShort 4 s).map fun (n, rest) => ((n : Int), rest)

structure Style where
  readYear : List Char → Option (Int × List Char)
  readField : List Char → Option (Nat × List Char)
  isSeparator : Char → Bool

namespace Style

def strict : Style where
  readYear s := (readFixed 4 s).map fun (n, rest) => ((n : Int), rest)
  readField := readFixed 2
  isSeparator c := c == 'T' || c == 't' || c == ' '

def lenient : Style where
  readYear := readSignedYear
  readField := readShort 2
  isSeparator c := c == 'T'

def readDate (style : Style) (s : List Char) : Option (Fields × List Char) := do
  let (year, s) ← style.readYear s
  let s ← skip '-' s
  let (month, s) ← style.readField s
  let s ← skip '-' s
  let (day, s) ← style.readField s
  return (⟨year, month, day, 0, 0, 0, 0⟩, s)

def skipSeparator (style : Style) : List Char → Option (List Char)
  | c :: rest => if style.isSeparator c then some rest else none
  | [] => none

end Style

def readFraction : List Char → Option (Nat × List Char)
  | '.' :: rest =>
      let ds := rest.takeWhile Char.isDigit
      if ds.isEmpty then
        none
      else
        let nine := (ds ++ List.replicate 9 '0').take 9
        some (Text.digitsValue nine, rest.dropWhile Char.isDigit)
  | s => some (0, s)

def Style.readDateTime (style : Style) (s : List Char) : Option (Fields × List Char) := do
  let (date, s) ← style.readDate s
  let s ← style.skipSeparator s
  let (hour, s) ← style.readField s
  let s ← skip ':' s
  let (minute, s) ← style.readField s
  let s ← skip ':' s
  let (second, s) ← style.readField s
  let (nanos, s) ← readFraction s
  return ({ date with hour, minute, second, nanos }, s)

def readSign : List Char → Option (Bool × List Char)
  | '+' :: rest => some (false, rest)
  | '-' :: rest => some (true, rest)
  | '\u2212' :: rest => some (true, rest)
  | _ => none

def offsetOf (negative : Bool) (hours minutes : Nat) : Option Int :=
  let seconds : Int := hours * 3600 + minutes * 60
  if minutes ≤ 59 ∧ seconds < secondsPerDay then
    some (if negative then -seconds else seconds)
  else
    none

def readStrictZone : List Char → Option Int
  | ['Z'] => some 0
  | ['z'] => some 0
  | s => do
      let (negative, s) ← readSign s
      let (hours, s) ← readFixed 2 s
      let s ← skip ':' s
      let (minutes, s) ← readFixed 2 s
      if s.isEmpty then offsetOf negative hours minutes else none

def readLenientZone (s : List Char) : Option Int :=
  match Text.dropBlanks s with
  | ['Z'] => some 0
  | ['z'] => some 0
  | s => do
      let (negative, s) ← readSign s
      let (hours, s) ← readFixed 2 s
      match s.dropWhile fun c => c == ':' || Text.isBlank c with
      | [] => offsetOf negative hours 0
      | s =>
          let (minutes, s) ← readFixed 2 s
          if s.isEmpty then offsetOf negative hours minutes else none

def readZoned (style : Style) (readZone : List Char → Option Int) (s : List Char) :
    Option Instant := do
  let (fields, s) ← style.readDateTime s
  let offset ← readZone s
  fields.toInstant? offset

def readLocal (offset : Int) (s : List Char) : Option Instant := do
  let (fields, s) ← Style.lenient.readDateTime s
  if s.isEmpty then fields.toInstant? offset else none

def readDateOnly (offset : Int) (s : List Char) : Option Instant := do
  let (fields, s) ← Style.lenient.readDate s
  if s.isEmpty then fields.toInstant? offset else none

def acceptedForms : String :=
  "expected yyyy-MM-ddTHH:mm:ss with zone, yyyy-MM-ddTHH:mm:ss or yyyy-MM-dd"

def readInstant (offset : Int) (s : List Char) : Option Instant :=
  readZoned .strict readStrictZone s
    <|> readZoned .lenient readLenientZone s
    <|> readLocal offset s
    <|> readDateOnly offset s

end FilterQuery.Time
