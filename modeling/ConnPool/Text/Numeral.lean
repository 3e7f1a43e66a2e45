namespace ConnPool.Text

inductive NumeralFault where
  | empty
  | invalidDigit
  | tooLarge
  | tooSmall
  deriving DecidableEq, Repr

def NumeralFault.message : NumeralFault → String
  | .empty => "cannot parse integer from empty string"
  | .invalidDigit => "invalid digit found in string"
  | .tooLarge => "number too large to fit in target type"
  | .tooSmall => "number too small to fit in target type"

def digit? (c : Char) : Option Nat :=
  if '0' ≤ c ∧ c ≤ '9' then some (c.toNat - '0'.toNat) else none

/-- Appends digits to a number; the first character that is no digit, or that takes the number
past the bound, decides what is wrong. -/
def accumulate (bound : Nat) (excess : NumeralFault) : Nat → List Char → Except NumeralFault Nat
  | n, [] => .ok n
  | n, c :: cs =>
    match digit? c with
    | none => .error .invalidDigit
    | some d =>
      if n * 10 + d ≤ bound then accumulate bound excess (n * 10 + d) cs else .error excess

/-- An optional `+`, then digits. -/
def readNat (bound : Nat) : List Char → Except NumeralFault Nat
  | [] => .error .empty
  | ['+'] => .error .invalidDigit
  | '+' :: cs => accumulate bound .tooLarge 0 cs
  | cs => accumulate bound .tooLarge 0 cs

/-- An optional sign, then digits, between `-bound - 1` and `bound`. -/
def readInt (bound : Nat) : List Char → Except NumeralFault Int
  | [] => .error .empty
  | ['+'] => .error .invalidDigit
  | ['-'] => .error .invalidDigit
  | '+' :: cs => (accumulate bound .tooLarge 0 cs).map Int.ofNat
  | '-' :: cs => (accumulate (bound + 1) .tooSmall 0 cs).map fun n => -Int.ofNat n
  | cs => (accumulate bound .tooLarge 0 cs).map Int.ofNat

def readUInt64 (s : List Char) : Except NumeralFault UInt64 :=
  (readNat (UInt64.size - 1) s).map UInt64.ofNat

def ofNat (n : Nat) : List Char := Nat.toDigits 10 n

def ofInt (i : Int) : List Char :=
  if i < 0 then '-' :: ofNat i.natAbs else ofNat i.natAbs

end ConnPool.Text
