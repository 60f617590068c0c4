import FilterQuery.Number.Shortest

namespace FilterQuery.Number

def signed (negative : Bool) (s : List Char) : List Char :=
  if negative then '-' :: s else s

def Shortest.parts (d : Shortest) : List Char × List Char :=
  let ds := Text.digits d.significand
  match d.exponent with
  | .ofNat e => (ds ++ List.replicate e '0', [])
  | .negSucc e =>
      let ds := List.replicate (e + 2 - ds.length) '0' ++ ds
      (ds.take (ds.length - (e + 1)), ds.drop (ds.length - (e + 1)))

def plainUnits (units : Nat) : List Char :=
  if units = 0 then ['0']
  else
    match (shortest .up units).parts with
    | (whole, []) => whole
    | (whole, fraction) => whole ++ '.' :: fraction

def Double.plain : Double → List Char
  | .nan => "NaN".toList
  | .infinite negative => signed negative "inf".toList
  | .finite negative units => signed negative (plainUnits units.count)

def positionalFrom : Int := -5

def positionalTo : Int := 15

def Shortest.scientific (d : Shortest) (place : Int) : List Char :=
  let mantissa :=
    match Text.digits d.significand with
    | first :: second :: rest => first :: '.' :: second :: rest
    | ds => ds
  let sign := if place < 0 then '-' else '+'
  mantissa ++ 'e' :: sign :: Text.digits place.natAbs

def dataUnits (units : Nat) : List Char :=
  if units = 0 then ['0', '.', '0']
  else
    let d := shortest .even units
    let place := d.exponent + (Text.digits d.significand).length - 1
    if positionalFrom ≤ place ∧ place ≤ positionalTo then
      match d.parts with
      | (whole, []) => whole ++ ['.', '0']
      | (whole, fraction) => whole ++ '.' :: fraction
    else
      d.scientific place

end FilterQuery.Number
