import ConnPool.Double
import ConnPool.Text.Numeral

namespace ConnPool.Double

/-- The reals that round to a finite magnitude, as an interval of ratios over one denominator.
The ends belong to it iff the significand is even. -/
structure Basin where
  low : Nat
  exact : Nat
  high : Nat
  den : Nat
  closed : Bool

def basin (x : Double) : Basin :=
  let (m, e) := x.scaled
  let below := if x.fraction = 0 ∧ x.exponent > 1 then 4 * m - 1 else 4 * m - 2
  let up := Nat.pow 2 (e - 2).toNat
  ⟨below * up, 4 * m * up, (4 * m + 2) * up, Nat.pow 2 (2 - e).toNat, m % 2 == 0⟩

/-- A digit string `digits` times ten to the power `shift`. -/
structure Digits where
  digits : Nat
  shift : Int
  deriving Repr

def Basin.distance? (b : Basin) (unit : Nat) (den : Nat) (c : Nat) : Option Nat :=
  let p := c * unit
  let low := b.low * den
  let high := b.high * den
  if 0 < c ∧ (low < p ∨ (b.closed ∧ low = p)) ∧ (p < high ∨ (b.closed ∧ p = high)) then
    some (if p ≤ b.exact * den then b.exact * den - p else p - b.exact * den)
  else none

inductive Tie where
  | up
  | even
  deriving DecidableEq

def Tie.roundsUp : Tie → Nat → Bool
  | up, _ => true
  | even, c => c % 2 == 1

def Basin.onGrid? (b : Basin) (tie : Tie) (shift : Int) : Option Nat :=
  let unit := Nat.pow 10 shift.toNat * b.den
  let den := Nat.pow 10 (-shift).toNat
  let c := b.exact * den / unit
  match b.distance? unit den c, b.distance? unit den (c + 1) with
  | some d, some d' => some (if d' < d ∨ (d' = d ∧ tie.roundsUp c) then c + 1 else c)
  | some _, none => some c
  | none, some _ => some (c + 1)
  | none, none => none

def Basin.coarsest (b : Basin) (tie : Tie) : Nat → Int → Digits
  | 0, shift => ⟨b.exact, shift⟩
  | n + 1, shift =>
    match b.onGrid? tie shift with
    | some c => ⟨c, shift⟩
    | none => b.coarsest tie n (shift - 1)

/-- The fewest digits that read back as a finite magnitude other than zero. -/
def shortest (tie : Tie) (x : Double) : Digits := x.basin.coarsest tie 640 309

def place (digits : List Char) (point : Int) : List Char × List Char :=
  if point ≤ 0 then (['0'], List.replicate (-point).toNat '0' ++ digits)
  else
    let n := point.toNat
    (digits.take n ++ List.replicate (n - digits.length) '0', digits.drop n)

def withSign (x : Double) (text : List Char) : List Char :=
  if x.negative then '-' :: text else text

/-- Positional digits, never an exponent, no point after a whole number; ties go up. -/
def plainText (x : Double) : List Char :=
  if x.isNaN then "NaN".toList
  else if x.isInfinite then x.withSign "inf".toList
  else if x.isZero then x.withSign ['0']
  else
    let s := x.shortest .up
    let digits := Text.ofNat s.digits
    let (whole, fraction) := place digits (digits.length + s.shift)
    x.withSign (if fraction = [] then whole else whole ++ '.' :: fraction)

/-- The parts of a number in a document: digits before and after the point, and an exponent of
ten with its sign. -/
structure Parts where
  whole : List Char
  fraction : List Char
  exponent : Option (Bool × List Char)

/-- Documents write magnitudes from 1e-5 to below 1e16 in positional form with at least one digit
after the point, all others with one digit before the point; ties go to even digits. -/
def documentParts (x : Double) : Parts :=
  if x.isZero then ⟨['0'], ['0'], none⟩
  else
    let s := x.shortest .even
    let digits := Text.ofNat s.digits
    let point : Int := digits.length + s.shift
    if -5 < point ∧ point ≤ 16 then
      let (whole, fraction) := place digits point
      ⟨whole, if fraction = [] then ['0'] else fraction, none⟩
    else
      let e := point - 1
      ⟨digits.take 1, digits.drop 1, some (e < 0, Text.ofNat e.natAbs)⟩

end ConnPool.Double
