import FilterQuery.Text.Digits
import FilterQuery.Time.Calendar

namespace FilterQuery.Time

structure Instant where
  seconds : Int
  nanos : Nat
  deriving DecidableEq, Repr

def secondsPerDay : Int := 86400

def billion : Nat := 1000000000

def firstYear : Int := -262143

def lastYear : Int := 262142

def epochDay : Int := 719162

namespace Instant

def compare (a b : Instant) : Ordering :=
  (Ord.compare a.seconds b.seconds).then (Ord.compare a.nanos b.nanos)

def day (t : Instant) : Int :=
  t.seconds / secondsPerDay + epochDay

def secondOfDay (t : Instant) : Nat :=
  (t.seconds % secondsPerDay).toNat

def isRepresentable (t : Instant) : Bool :=
  daysBeforeYear firstYear ≤ t.day && t.day < daysBeforeYear (lastYear + 1)

def writeYear (year : Int) : List Char :=
  let digits := Text.padded 4 year.natAbs
  if year < 0 then '-' :: digits
  else if 9999 < year then '+' :: digits
  else digits

def writeDate (d : Date) : List Char :=
  writeYear d.year ++ '-' :: Text.padded 2 d.month ++ '-' :: Text.padded 2 d.day

def writeClock (secondOfDay : Nat) (leap : Bool) : List Char :=
  let second := secondOfDay % 60 + if leap then 1 else 0
  Text.padded 2 (secondOfDay / 3600) ++ ':' :: Text.padded 2 (secondOfDay / 60 % 60) ++
    ':' :: Text.padded 2 second

def writeSeconds (t : Instant) : List Char :=
  writeDate (.ofNumber t.day) ++ 'T' :: writeClock t.secondOfDay (billion ≤ t.nanos)

def write (t : Instant) : List Char :=
  t.writeSeconds ++ ['Z']

def writeMillis (t : Instant) : List Char :=
  t.writeSeconds ++ '.' :: Text.padded 3 (t.nanos % billion / 1000000) ++ ['Z']

end Instant

end FilterQuery.Time
