import CallStubs.Number.Binary64
import CallStubs.Text

/-! The fewest decimal digits that tell a double from its neighbours, and the way they are written. -/

namespace CallStubs.Number

def fracLe (p q : Nat × Nat) : Bool :=
  p.1 * q.2 ≤ q.1 * p.2

def fracLt (p q : Nat × Nat) : Bool :=
  p.1 * q.2 < q.1 * p.2

def binaryFrac (n : Nat) (e : Int) : Nat × Nat :=
  if 0 ≤ e then (n <<< e.toNat, 1) else (n, 1 <<< (-e).toNat)

def decimalFrac (n : Nat) (e : Int) : Nat × Nat :=
  if 0 ≤ e then (n * Nat.pow 10 e.toNat, 1) else (n, Nat.pow 10 (-e).toNat)

structure Rounding where
  low : Nat × Nat
  high : Nat × Nat
  closed : Bool

def Rounding.of (m : Nat) (e : Int) : Rounding :=
  let low :=
    if m = 1 <<< 52 ∧ minExponent < e then binaryFrac (4 * m - 1) (e - 2) else binaryFrac (2 * m - 1) (e - 1)
  ⟨low, binaryFrac (2 * m + 1) (e - 1), m % 2 = 0⟩

def Rounding.holds (r : Rounding) (x : Nat × Nat) : Bool :=
  if r.closed then fracLe r.low x && fracLe x r.high else fracLt r.low x && fracLt x r.high

def leadingPower (x : Nat × Nat) : Int :=
  let guess : Int := (Nat.toDigits 10 x.1).length - (Nat.toDigits 10 x.2).length
  if fracLe (decimalFrac 1 guess) x then guess else guess - 1

def onGrid? (r : Rounding) (x : Nat × Nat) (k : Int) : Option Nat :=
  let (a, b) := if 0 ≤ k then (x.1, x.2 * Nat.pow 10 k.toNat) else (x.1 * Nat.pow 10 (-k).toNat, x.2)
  let d := a / b
  let below := r.holds (decimalFrac d k) && d != 0
  let above := r.holds (decimalFrac (d + 1) k)
  if above && (!below || b ≤ 2 * (a % b)) then some (d + 1)
  else if below then some d
  else none

def shortestFrom (r : Rounding) (x : Nat × Nat) (k : Int) : Nat → Nat × Int
  | 0 => (0, k)
  | n + 1 =>
    match onGrid? r x k with
    | some d => (d, k)
    | none => shortestFrom r x (k - 1) n

/-- Digits and power of ten of the shortest decimal that reads back as `m * 2 ^ e`, for `m` not zero. The
first grid holds only the next power of ten; seventeen digits always suffice. -/
def shortest (m : Nat) (e : Int) : Nat × Int :=
  let x := binaryFrac m e
  shortestFrom (Rounding.of m e) x (leadingPower x + 1) 18

def positional (digits : Nat) (k : Int) : Text :=
  let ds := Text.ofNat digits
  if 0 ≤ k then ds ++ List.replicate k.toNat '0' ++ ".0".toList
  else
    let n := (-k).toNat
    let padded := List.replicate (n + 1 - ds.length) '0' ++ ds
    padded.take (padded.length - n) ++ '.' :: padded.drop (padded.length - n)

def Binary64.text : Binary64 → Text
  | .nan => "nan".toList
  | .infinite negative => (if negative then "-".toList else []) ++ "inf".toList
  | .finite negative m e =>
    (if negative then "-".toList else []) ++
      if m = 0 then "0.0".toList else positional (shortest m e).1 (shortest m e).2

end CallStubs.Number
