import TypeLens.Number.Binary
import TypeLens.Text.Basic

/-! The decimal text of a binary64 number: the fewest digits that identify it. -/
namespace TypeLens.Binary

def compareQuarters (a : Nat) (i : Int) (quarters : Nat) : Ordering :=
  compare (a * Nat.pow 10 i.toNat * (4 * one)) (quarters * Nat.pow 10 (-i).toNat)

/-- Whether a · 10 ^ i lies among the reals that round to so many units; the ends of that interval
belong to it when the last bit is even. Below a power of two the values are half as far apart. -/
def identifies (units a : Nat) (i : Int) : Bool :=
  let apart := spacing units
  let narrow := 1 < apart && units == Nat.pow 2 units.log2
  let atLow := compareQuarters a i (4 * units - (if narrow then apart else 2 * apart))
  let atHigh := compareQuarters a i (4 * units + 2 * apart)
  let ends := units / apart % 2 == 0
  (atLow == .gt || (ends && atLow == .eq)) && (atHigh == .lt || (ends && atHigh == .eq))

def onGrid (units : Nat) (i : Int) : Option Nat :=
  let below := units * Nat.pow 10 (-i).toNat / (one * Nat.pow 10 i.toNat)
  match identifies units below i, identifies units (below + 1) i with
  | true, true =>
    match compareQuarters (2 * below + 1) i (8 * units) with
    | .gt => some below
    | .lt => some (below + 1)
    | .eq => some (below + below % 2)
  | true, false => some below
  | false, true => some (below + 1)
  | false, false => none

/-- An exponent k with 10 ^ (k - 3) < number < 10 ^ k, for a number that is not zero; the decimal
logarithm of two is just below 0.30103. -/
def magnitude (units : Nat) : Int := ((units.log2 : Int) - 1074) * 30103 / 100000 + 2

def shortest (units : Nat) : Nat × Int :=
  let grids := (List.range 20).map fun (n : Nat) => magnitude units - n
  (grids.findSome? fun i => (onGrid units i).map fun a => (a, i)).getD (0, 0)

def render (x : Binary) : Text :=
  let (a, i) := shortest x.units
  let digits := Text.ofNat a
  let point := digits.length + i
  let sign : Text := if x.negative then "-" else ""
  if x.units = 0 then sign ++ "0.0"
  else if point ≤ -5 ∨ 16 < point then
    sign ++ digits.take 1 ++
      (if digits.length ≤ 1 then [] else '.' :: digits.drop 1) ++
      (if point < 0 then "e-" else "e+") ++ Text.ofNat (point - 1).natAbs
  else if point ≤ 0 then
    sign ++ "0." ++ List.replicate (-point).toNat '0' ++ digits
  else
    let whole := digits.take point.toNat
    let fraction := digits.drop point.toNat
    sign ++ whole ++ List.replicate (point.toNat - whole.length) '0' ++ "." ++
      (if fraction.isEmpty then ['0'] else fraction)

end TypeLens.Binary
