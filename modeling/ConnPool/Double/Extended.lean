import ConnPool.Double

namespace ConnPool

/-- A significand, and the exponent of the power of two that it is multiplied with. -/
structure Extended where
  significand : Nat
  exponent : Int
  deriving DecidableEq, Repr

namespace Extended

def precision : Nat := 64

def round (x : Extended) : Extended :=
  let spare := x.significand.log2 + 1 - precision
  ⟨Double.roundRatio x.significand (Nat.pow 2 spare), x.exponent + spare⟩

def mul (x y : Extended) : Extended :=
  round ⟨x.significand * y.significand, x.exponent + y.exponent⟩

def tenTo (n : Nat) : Extended := round ⟨Nat.pow 10 n, 0⟩

def tenthTo (n : Nat) : Extended :=
  let shift := (Nat.pow 10 n).log2 + precision
  ⟨Double.roundRatio (Nat.pow 2 shift) (Nat.pow 10 n), -(shift : Int)⟩

/-- Multiplies with a power, first by its hundreds, then by tens, then one by one; every product is
rounded. -/
def scale (x : Extended) (power : Nat → Extended) (n : Nat) : Extended :=
  let times (k : Nat) (y x : Extended) : Extended := Nat.repeat (·.mul y) k x
  times (n % 10) (power 1) (times (n / 10 % 10) (power 10) (times (n / 100) (power 100) x))

def toDouble (negative : Bool) (x : Extended) : Double :=
  if x.exponent ≥ 0 then
    Double.ofRatio negative (x.significand * Nat.pow 2 x.exponent.toNat) 1
  else Double.ofRatio negative x.significand (Nat.pow 2 (-x.exponent).toNat)

end Extended
end ConnPool
