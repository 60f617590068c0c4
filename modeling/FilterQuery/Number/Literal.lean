import FilterQuery.Text.Digits
import FilterQuery.Number.Double

namespace FilterQuery.Number

inductive FloatFault where
  | empty
  | invalid
  deriving DecidableEq, Repr

def FloatFault.message : FloatFault → String
  | .empty => "cannot parse float from empty string"
  | .invalid => "invalid float literal"

structure Decimal where
  digits : List Char
  exponent : Int
  deriving DecidableEq, Repr

def Decimal.round? (f : Format) (d : Decimal) : Option f.Units :=
  let significant := d.digits.dropWhile (· == '0')
  let magnitude := d.exponent + significant.length
  if significant.isEmpty then some .zero
  else if magnitude > 311 then none
  else if magnitude < -330 then some .zero
  else
    let n := Text.digitsValue significant * Nat.pow 2 1074
    match d.exponent with
    | .ofNat e => f.round? (n * Nat.pow 10 e) 1
    | .negSucc e => f.round? n (Nat.pow 10 (e + 1))

def Decimal.toDouble (f : Format) (negative : Bool) (d : Decimal) : Double :=
  match d.round? f with
  | some units => .finite negative units.widen
  | none => .infinite negative

def takeSign : List Char → Bool × List Char
  | '-' :: rest => (true, rest)
  | '+' :: rest => (false, rest)
  | s => (false, s)

def readExponent : List Char → Option Int
  | [] => some 0
  | c :: rest =>
      let (negative, digits) := takeSign rest
      if (c == 'e' || c == 'E') && !digits.isEmpty && digits.all Char.isDigit then
        let n : Int := Text.digitsValue digits
        some (if negative then -n else n)
      else
        none

def readDecimal (s : List Char) : Option Decimal :=
  let whole := s.takeWhile Char.isDigit
  let (fraction, rest) :=
    match s.dropWhile Char.isDigit with
    | '.' :: rest => (rest.takeWhile Char.isDigit, rest.dropWhile Char.isDigit)
    | rest => ([], rest)
  if whole.isEmpty && fraction.isEmpty then
    none
  else
    (readExponent rest).map fun e => ⟨whole ++ fraction, e - fraction.length⟩

def isInfinityWord (s : List Char) : Bool :=
  let word := s.map Char.toLower
  word == "inf".toList || word == "infinity".toList

def isNanWord (s : List Char) : Bool :=
  s.map Char.toLower == "nan".toList

def isNonFiniteLiteral (s : List Char) : Bool :=
  let (_, word) := takeSign s
  isInfinityWord word || isNanWord word

def readDouble (f : Format) (s : List Char) : Except FloatFault Double :=
  if s.isEmpty then .error .empty
  else
    let (negative, rest) := takeSign s
    if isNanWord rest then .ok .nan
    else if isInfinityWord rest then .ok (.infinite negative)
    else
      match readDecimal rest with
      | some d => .ok (d.toDouble f negative)
      | none => .error .invalid

end FilterQuery.Number
