/-! Double precision numbers as exact values, and the one nearest to a decimal. -/

namespace CallStubs.Number

inductive Binary64 where
  | nan
  | infinite (negative : Bool)
  | finite (negative : Bool) (mantissa : Nat) (exponent : Int)
deriving DecidableEq

def roundDiv (a b : Nat) : Nat :=
  let q := a / b
  let r := a % b
  if 2 * r < b then q else if b < 2 * r then q + 1 else if q % 2 = 0 then q else q + 1

def scaleDown (a b : Nat) (e : Int) : Nat × Nat :=
  if 0 ≤ e then (a, b <<< e.toNat) else (a <<< (-e).toNat, b)

def minExponent : Int := -1074

def maxExponent : Int := 971

def exponentFor (a b : Nat) : Int :=
  let e := max ((Nat.log2 a : Int) - Nat.log2 b - 53) minExponent
  let (c, d) := scaleDown a b e
  if 1 <<< 53 ≤ c / d then e + 1 else e

def nearest? (a b : Nat) : Option (Nat × Int) :=
  if a = 0 then some (0, minExponent)
  else
    let e := exponentFor a b
    let (c, d) := scaleDown a b e
    let m := roundDiv c d
    let (m, e) := if m = 1 <<< 53 then (1 <<< 52, e + 1) else (m, e)
    if maxExponent < e then none else some (m, e)

/-- No double but zero lies below ten to the power of this, and none above ten to its opposite. -/
def decimalReach : Int := 400

def Binary64.ofDecimal (negative : Bool) (digits : Nat) (e : Int) : Binary64 :=
  let size : Int := (Nat.toDigits 10 digits).length + e
  if digits = 0 ∨ size < -decimalReach then .finite negative 0 minExponent
  else if decimalReach < size then .infinite negative
  else
    let (a, b) := if 0 ≤ e then (digits * Nat.pow 10 e.toNat, 1) else (digits, Nat.pow 10 (-e).toNat)
    match nearest? a b with
    | some (m, q) => .finite negative m q
    | none => .infinite negative

end CallStubs.Number
