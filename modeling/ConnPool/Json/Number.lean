import ConnPool.Double.Shortest
import ConnPool.Json.Tree

namespace ConnPool.Json

inductive Number where
  /-- From -2^63 to below 2^64. -/
  | integer (i : Int)
  | float (x : Double)
  deriving DecidableEq, Repr

namespace Number

def same : Number → Number → Bool
  | integer i, integer j => i == j
  | float x, float y => x.same y
  | _, _ => false

def toDouble : Number → Double
  | integer i => Double.ofInt i
  | float x => x

end Number

namespace Numeral

def value (digits : List Char) : Nat :=
  digits.foldl (fun n c => n * 10 + (c.toNat - '0'.toNat)) 0

/-- Reads on while the number fits in 64 bits: its value and the digits left. -/
def fitting : Nat → List Char → Nat × List Char
  | n, [] => (n, [])
  | n, c :: cs =>
    let m := n * 10 + (c.toNat - '0'.toNat)
    if m < UInt64.size then fitting m cs else (n, c :: cs)

/-- A significand times a power of ten: the significand is rounded to a double, then multiplied
with the double nearest to the power, or divided by it. Below 1e-308 it is divided first by 1e308.
`none` where the number is too large. -/
def scale : Nat → Nat × Nat → Int → Option (Nat × Nat)
  | 0, _, _ => none
  | n + 1, x, e =>
    let power := (Double.ofRatio false (Nat.pow 10 (min e.natAbs 308)) 1).ratio
    if x.1 = 0 then some x
    else if e.natAbs ≤ 308 then
      if e ≥ 0 then
        let y := Double.ofRatio false (x.1 * power.1) (x.2 * power.2)
        if y.isFinite then some y.ratio else none
      else some (Double.ofRatio false (x.1 * power.2) (x.2 * power.1)).ratio
    else if e ≥ 0 then none
    else scale n (Double.ofRatio false (x.1 * power.2) (x.2 * power.1)).ratio (e + 308)

def toDouble? (negative : Bool) (significand : Nat) (e : Int) : Option Double := do
  let r ← scale 8 (Double.ofRatio false significand 1).ratio e
  some (Double.ofRatio negative r.1 r.2)

/-- The number that a numeral denotes. Digits behind the first 64 bits of a significand only
count as places. A negative zero and whole numbers out of range are doubles. -/
def toNumber? (n : Numeral) : Option Number :=
  let (whole, more) := fitting 0 n.whole
  if more = [] ∧ n.fraction = [] ∧ n.exponent = none ∧
      (n.negative = false ∨ (0 < whole ∧ whole ≤ Int64.minValue.toInt.natAbs)) then
    some (.integer (if n.negative then -(whole : Int) else whole))
  else
    let (significand, rest) := fitting whole n.fraction
    let places : Int := (more.length : Int) - (n.fraction.length - rest.length : Nat)
    match n.exponent with
    | none => (toDouble? n.negative significand places).map .float
    | some (down, digits) =>
      let e := value digits
      if e ≤ Int32.maxValue.toInt then
        let e : Int := if down then places - e else places + e
        let e := max Int32.minValue.toInt (min e Int32.maxValue.toInt)
        (toDouble? n.negative significand e).map .float
      else if significand = 0 ∨ down then some (.float (Double.ofFields n.negative 0))
      else none

def ofDouble (x : Double) : Numeral :=
  let parts := x.documentParts
  ⟨x.negative, parts.whole, parts.fraction, parts.exponent⟩

end Numeral
end ConnPool.Json
