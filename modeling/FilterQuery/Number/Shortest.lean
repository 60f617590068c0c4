import FilterQuery.Text.Digits
import FilterQuery.Number.Double

namespace FilterQuery.Number

structure Interval where
  low : Nat
  high : Nat
  closed : Bool

def spacing (units : Nat) : Nat :=
  Nat.pow 2 (Nat.log2 units + 1 - 53)

def roundingInterval (units : Nat) : Interval :=
  let above := spacing units
  let below := if units = Nat.pow 2 (Nat.log2 units) ∧ 1 < above then above / 2 else above
  ⟨4 * units - 2 * below, 4 * units + 2 * above, units / above % 2 == 0⟩

inductive Tie where
  | up
  | even
  deriving DecidableEq, Repr

structure Shortest where
  significand : Nat
  exponent : Int
  deriving DecidableEq, Repr

def pickPoint (tie : Tie) (units : Nat) (step scale : Nat) : Option Nat :=
  let i := roundingInterval units
  let inside (k : Nat) : Bool :=
    let x := k * step
    (i.low * scale < x && x < i.high * scale) ||
      (i.closed && (x == i.low * scale || x == i.high * scale))
  let value := 4 * units * scale
  let k := value / step
  let r := value % step
  let nearest :=
    if 2 * r < step then k
    else if step < 2 * r then k + 1
    else
      match tie with
      | .up => k + 1
      | .even => if k % 2 = 0 then k else k + 1
  if inside k && inside (k + 1) then some nearest
  else if inside k then some k
  else if inside (k + 1) then some (k + 1)
  else none

def pickOnGrid (tie : Tie) (units : Nat) : Int → Option Nat
  | .ofNat e => pickPoint tie units (Nat.pow 10 e * Nat.pow 2 1076) 1
  | .negSucc e => pickPoint tie units (Nat.pow 2 1076) (Nat.pow 10 (e + 1))

def searchGrids (tie : Tie) (units : Nat) : Nat → Int → Shortest
  | 0, exponent => ⟨0, exponent⟩
  | fuel + 1, exponent =>
      match pickOnGrid tie units exponent with
      | some k => ⟨k, exponent⟩
      | none => searchGrids tie units fuel (exponent - 1)

def shortest (tie : Tie) (units : Nat) : Shortest :=
  let first := ((Nat.log2 units : Int) - 1074) * 30103 / 100000 + 2
  searchGrids tie units 24 first

end FilterQuery.Number
