import ConnPool.Double.Extended
import ConnPool.Value

namespace ConnPool.Sqlite

inductive Numeric where
  | integer (i : Int64)
  | real (x : Double)
  deriving DecidableEq

def int64OfInt? (n : Int) : Option Int64 :=
  if Int64.minValue.toInt ≤ n ∧ n ≤ Int64.maxValue.toInt then some (Int64.ofInt n) else none

def integerOf? (x : Double) : Option Int :=
  if x.isFinite then
    let (num, den) := x.ratio
    let n : Int := num / den
    if num % den ≠ 0 then none else some (if x.negative then -n else n)
  else none

structure Decimal where
  negative : Bool
  whole : List Nat
  fraction : List Nat
  /-- The exponent of ten; none where neither it nor a point is written. -/
  exponent? : Option Int

namespace Decimal

def splitDigits (s : List Char) : List Nat × List Char :=
  let isDigit (c : Char) : Bool := (Text.digit? c).isSome
  ((s.takeWhile isDigit).filterMap Text.digit?, s.dropWhile isDigit)

def splitSign : List Char → Bool × List Char
  | '-' :: s => (true, s)
  | '+' :: s => (false, s)
  | s => (false, s)

/-- An exponent below this bound takes one more digit; any further digit sets it to the bound. -/
def exponentLimit : Nat := 10000

def readExponent? (s : List Char) : Option Int :=
  let (negative, s) := splitSign s
  match splitDigits s with
  | (d :: ds, []) =>
    let n := (d :: ds).foldl (fun n d => if n < exponentLimit then n * 10 + d else exponentLimit) 0
    some (if negative then -n else n)
  | _ => none

/-- A sign, digits, a point and an exponent. Only digits have to be there, before the point or
behind it. -/
def ofText? (s : List Char) : Option Decimal :=
  let (negative, s) := splitSign s
  let (whole, s) := splitDigits s
  let (point, fraction, s) :=
    match s with
    | '.' :: rest => (true, splitDigits rest)
    | s => (false, [], s)
  if whole = [] ∧ fraction = [] then none
  else
    match s with
    | [] => some ⟨negative, whole, fraction, if point then some 0 else none⟩
    | c :: rest =>
      if c = 'e' ∨ c = 'E' then
        (readExponent? rest).map fun e => ⟨negative, whole, fraction, some e⟩
      else none

def integer? (d : Decimal) : Option Int :=
  match d.exponent? with
  | some _ => none
  | none =>
    let n : Int := (d.whole.foldl (fun n d => n * 10 + d) 0 : Nat)
    some (if d.negative then -n else n)

def digitBound : Nat := (UInt64.size - 10) / 10

def gather : Nat → List Nat → Nat × List Nat
  | n, [] => (n, [])
  | n, d :: ds => if n < digitBound then gather (n * 10 + d) ds else (n, d :: ds)

/-- A significand below this bound is multiplied by ten where that brings the exponent down. -/
def growthBound : Nat := (UInt64.size - 2048) / 10

/-- Moves powers of ten from an exponent into a significand, as long as there is room. -/
def grow : Nat → Nat → Nat × Nat
  | 0, n => (n, 0)
  | e + 1, n => if n < growthBound then grow e (n * 10) else (n, e + 1)

/-- Moves zeros at the end of a significand into an exponent below zero. -/
def shrink : Nat → Nat → Nat × Nat
  | 0, n => (n, 0)
  | e + 1, n => if n % 10 = 0 then shrink e (n / 10) else (n, e + 1)

def scaled (n : Nat) : Int → Extended
  | .ofNat e => Extended.scale ⟨(grow e n).1, 0⟩ .tenTo (grow e n).2
  | .negSucc e => Extended.scale ⟨(shrink (e + 1) n).1, 0⟩ .tenthTo (shrink (e + 1) n).2

/-- The double that is near the number; products on the way are rounded to 64 bits. -/
def toDouble (d : Decimal) : Double :=
  let (n, rest) := gather 0 (d.whole ++ d.fraction)
  if n = 0 then .ofFields d.negative 0
  else
    (scaled n (d.exponent?.getD 0 + rest.length - d.fraction.length)).toDouble d.negative

end Decimal

def isSpace (c : Char) : Bool := c == ' ' || (9 ≤ c.toNat && c.toNat ≤ 13)

def trimSpaces (s : List Char) : List Char :=
  ((s.dropWhile isSpace).reverse.dropWhile isSpace).reverse

namespace Numeric

def ofText? (s : String) : Option Numeric :=
  (Decimal.ofText? (trimSpaces s.toList)).map fun d =>
    match d.integer?.bind int64OfInt? with
    | some i => .integer i
    | none => .real d.toDouble

def ofValue? : Value → Option Numeric
  | .int64 i => some (.integer i)
  | .float64 x => some (.real x)
  | .string s => ofText? s
  | _ => none

/-- The number of a row. A double is none at either end of the range. -/
def toInt64? : Numeric → Option Int64
  | integer i => some i
  | real x =>
    ((integerOf? x).bind int64OfInt?).filter fun i => i != Int64.minValue && i != Int64.maxValue

def isEqual (x : Numeric) (n : Int64) : Bool :=
  match x with
  | integer i => i == n
  | real x => integerOf? x == some n.toInt

end Numeric
end ConnPool.Sqlite
