namespace ConnPool

/-- A double, given by its IEEE 754 bits. -/
structure Double where
  bits : UInt64
  deriving DecidableEq, Repr

namespace Double

def negative (x : Double) : Bool := x.bits.toNat ≥ Nat.pow 2 63

def exponent (x : Double) : Nat := x.bits.toNat / Nat.pow 2 52 % Nat.pow 2 11

def fraction (x : Double) : Nat := x.bits.toNat % Nat.pow 2 52

def isFinite (x : Double) : Bool := x.exponent != 2047

def isNaN (x : Double) : Bool := x.exponent == 2047 && x.fraction != 0

def scaled (x : Double) : Nat × Int :=
  if x.exponent = 0 then (x.fraction, -1074)
  else (x.fraction + Nat.pow 2 52, (x.exponent : Int) - 1075)

def isZero (x : Double) : Bool := x.exponent == 0 && x.fraction == 0

/-- Equality of the numbers: both zeros are equal, no NaN equals anything. -/
def same (x y : Double) : Bool :=
  !x.isNaN && !y.isNaN && (x.bits == y.bits || (x.isZero && y.isZero))

def ofFields (negative : Bool) (magnitude : Nat) : Double :=
  ⟨UInt64.ofNat (magnitude + if negative then Nat.pow 2 63 else 0)⟩

def roundRatio (num den : Nat) : Nat :=
  let q := num / den
  let r := num % den
  if 2 * r > den ∨ (2 * r = den ∧ q % 2 = 1) then q + 1 else q

def inUnits (num den : Nat) (e : Int) : Nat × Nat :=
  if e ≥ 0 then (num, den * Nat.pow 2 e.toNat) else (num * Nat.pow 2 (-e).toNat, den)

/-- The bits of the magnitude nearest to `num / den`; what is too large becomes infinite. -/
def roundMagnitude (num den : Nat) : Nat :=
  if num = 0 then 0 else
    let guess : Int := (num.log2 : Int) - den.log2 - 53
    let coarse := inUnits num den guess
    let e := max (if coarse.1 / coarse.2 ≥ Nat.pow 2 53 then guess + 1 else guess) (-1074)
    let exact := inUnits num den e
    let m := roundRatio exact.1 exact.2
    let magnitude := if m < Nat.pow 2 52 then m else (e + 1074).toNat * Nat.pow 2 52 + m
    min magnitude (2047 * Nat.pow 2 52)

def ofRatio (negative : Bool) (num den : Nat) : Double :=
  ofFields negative (roundMagnitude num den)

def ofInt (i : Int) : Double := ofRatio (i < 0) i.natAbs 1

def ratio (x : Double) : Nat × Nat :=
  let (m, e) := x.scaled
  if e ≥ 0 then (m * Nat.pow 2 e.toNat, 1) else (m, Nat.pow 2 (-e).toNat)

def isInfinite (x : Double) : Bool := x.exponent == 2047 && x.fraction == 0

def hex (x : Double) : String :=
  let digits := Nat.toDigits 16 x.bits.toNat
  String.ofList (List.replicate (16 - digits.length) '0' ++ digits)

end Double
end ConnPool
