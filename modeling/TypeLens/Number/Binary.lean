/-! Binary64 numbers in exact arithmetic on naturals. A quotient is rounded to the nearest of them;
a number in scientific notation is rounded more than once on its way, so it need not become the
nearest one. -/
namespace TypeLens

/-- The number ± units · 2 ^ -1074. Every finite binary64 value has such a form. -/
structure Binary where
  negative : Bool
  units : Nat
  deriving DecidableEq, Repr

namespace Binary

def one : Nat := Nat.pow 2 1074

def limit : Nat := Nat.pow 2 2098

def spacing (units : Nat) : Nat := Nat.pow 2 (units.log2 - 52)

def nearestQuotient (a b : Nat) : Nat :=
  match compare (2 * (a % b)) b with
  | .lt => a / b
  | .gt => a / b + 1
  | .eq => a / b + a / b % 2

def rounded (a b : Nat) : Nat :=
  let apart := spacing (a / b)
  nearestQuotient a (b * apart) * apart

def ofNat (n : Nat) : Nat := rounded (n * one) 1

def times (x y : Nat) : Nat := rounded (x * y) one

def dividedBy (x y : Nat) : Nat := rounded (x * one) y

def topPower : Nat := 308

def powerOfTen (k : Nat) : Nat := ofNat (Nat.pow 10 k)

def raise (units k : Nat) : Option Nat :=
  if units = 0 then some 0
  else if k ≤ topPower then
    let product := times units (powerOfTen k)
    if product < limit then some product else none
  else none

def lower (units k : Nat) : Nat :=
  if k ≤ topPower then dividedBy units (powerOfTen k)
  else if units = 0 then 0
  else lower (dividedBy units (powerOfTen topPower)) (k - topPower)
termination_by k
decreasing_by simp only [topPower] at *; omega

def scientific (negative : Bool) (significand : Nat) (exponent : Int) : Option Binary :=
  let units := ofNat significand
  match exponent with
  | .ofNat k => (raise units k).map fun units => ⟨negative, units⟩
  | .negSucc k => some ⟨negative, lower units (k + 1)⟩

end Binary
end TypeLens
