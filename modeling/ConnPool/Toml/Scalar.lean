import ConnPool.Double
import ConnPool.Toml.Text

namespace ConnPool.Toml

/-- What an attempt to read found: a value, nothing of the kind, or something broken. -/
inductive Scan (α : Type) where
  | found (a : α) (rest : List Char)
  | absent
  | broken

def Scan.orElse {α : Type} (a : Scan α) (b : Unit → Scan α) : Scan α :=
  match a with
  | .absent => b ()
  | a => a

def Scan.ofOption {α : Type} : Option (α × List Char) → Scan α
  | some (a, rest) => .found a rest
  | none => .broken

def takeDigits (n : Nat) (s : List Char) : Option (List Char × List Char) :=
  let digits := s.take n
  if digits.length = n ∧ digits.all Char.isDigit then some (digits, s.drop n) else none

def numberOf (digits : List Char) : Nat :=
  digits.foldl (fun n c => n * 10 + (c.toNat - '0'.toNat)) 0

def readPair (low high : Nat) (s : List Char) : Option (List Char × List Char) := do
  let (digits, rest) ← takeDigits 2 s
  if low ≤ numberOf digits ∧ numberOf digits ≤ high then some (digits, rest) else none

def daysIn (year month : Nat) : Nat :=
  if month = 2 then
    if year % 4 = 0 ∧ (year % 100 ≠ 0 ∨ year % 400 = 0) then 29 else 28
  else if month = 4 ∨ month = 6 ∨ month = 9 ∨ month = 11 then 30
  else 31

def expect (c : Char) : List Char → Option (List Char)
  | d :: rest => if c = d then some rest else none
  | [] => none

/-- Minutes, seconds and a fraction behind `hh:`. The fraction keeps nine places and no trailing
zeros. -/
def readTimeTail (s : List Char) : Option (List Char × List Char) := do
  let (minute, s) ← readPair 0 59 s
  let s ← expect ':' s
  let (second, s) ← readPair 0 60 s
  let time := minute ++ ':' :: second
  match s with
  | '.' :: rest =>
    let digits := rest.takeWhile Char.isDigit
    if digits = [] then none
    else
      let kept := ((digits.take 9).reverse.dropWhile (· == '0')).reverse
      some (if kept = [] then time else time ++ '.' :: kept, rest.dropWhile Char.isDigit)
  | rest => some (time, rest)

def readTime (s : List Char) : Scan (List Char) :=
  match readPair 0 23 s with
  | some (hour, ':' :: rest) =>
    .ofOption ((readTimeTail rest).map fun (tail, rest) => (hour ++ ':' :: tail, rest))
  | _ => .absent

def readOffset (s : List Char) : Option (List Char × List Char) :=
  let shifted (sign : Char) (s : List Char) : Option (List Char × List Char) := do
    let (hour, s) ← readPair 0 23 s
    let s ← expect ':' s
    let (minute, s) ← readPair 0 59 s
    let zero := numberOf hour = 0 ∧ numberOf minute = 0
    some ((if zero then '+' else sign) :: hour ++ ':' :: minute, s)
  match s with
  | 'Z' :: rest => some (['Z'], rest)
  | 'z' :: rest => some (['Z'], rest)
  | '+' :: rest => shifted '+' rest
  | '-' :: rest => shifted '-' rest
  | rest => some ([], rest)

def readDateTail (year : List Char) (s : List Char) : Option (List Char × List Char) := do
  let (month, s) ← readPair 1 12 s
  let s ← expect '-' s
  let (day, s) ← readPair 1 31 s
  if numberOf day ≤ daysIn (numberOf year) (numberOf month) then
    some (year ++ '-' :: month ++ '-' :: day, s)
  else none

def readDatetime (s : List Char) : Scan (List Char) :=
  match takeDigits 4 s with
  | some (year, '-' :: rest) =>
    match readDateTail year rest with
    | none => .broken
    | some (date, rest) =>
      match rest with
      | c :: afterDelimiter =>
        if c = 'T' ∨ c = 't' ∨ c = ' ' then
          match readTime afterDelimiter with
          | .found time rest =>
            .ofOption ((readOffset rest).map fun (offset, rest) =>
              (date ++ 'T' :: time ++ offset, rest))
          | .absent => .found date (c :: afterDelimiter)
          | .broken => .broken
        else .found date (c :: afterDelimiter)
      | [] => .found date []
  | _ => readTime s

def readGrouped (isDigit : Char → Bool) : List Char → Option (List Char × List Char)
  | [] => none
  | c :: rest =>
    if isDigit c then
      match rest with
      | '_' :: d :: more =>
        (readGrouped isDigit (d :: more)).map fun (digits, rest) => (c :: digits, rest)
      | ['_'] => none
      | d :: more =>
        if isDigit d then
          (readGrouped isDigit (d :: more)).map fun (digits, rest) => (c :: digits, rest)
        else some ([c], d :: more)
      | [] => some ([c], [])
    else none

def readWhole : List Char → Option (List Char × List Char)
  | '0' :: rest => some (['0'], rest)
  | s => readGrouped Char.isDigit s

def readSign : List Char → Bool × List Char
  | '+' :: rest => (false, rest)
  | '-' :: rest => (true, rest)
  | rest => (false, rest)

def isExponentMark (c : Char) : Bool := c == 'e' || c == 'E'

def readExponent : List Char → Option (Int × List Char)
  | [] => some (0, [])
  | c :: rest =>
    if isExponentMark c then do
      let (negative, rest) := readSign rest
      let (digits, rest) ← readGrouped Char.isDigit rest
      let e : Int := numberOf digits
      some (if negative then -e else e, rest)
    else some (0, c :: rest)

def overflows (digits : List Char) (e : Int) : Bool :=
  let m := numberOf digits
  if m = 0 then false
  else
    let size : Int := (Nat.toDigits 10 m).length + e
    if size > 310 then true
    else if size < 300 then false
    else (Double.ofRatio false (m * Nat.pow 10 e.toNat) (Nat.pow 10 (-e).toNat)).isInfinite

/-- A number with a fraction or an exponent. Positive numbers may not be too large. -/
def readFloat (s : List Char) : Scan Unit :=
  let (negative, s) := readSign s
  match readWhole s with
  | none => .absent
  | some (whole, rest) =>
    match rest with
    | '.' :: rest =>
      .ofOption do
        let (fraction, rest) ← readGrouped Char.isDigit rest
        let (e, rest) ← readExponent rest
        if !negative && overflows (whole ++ fraction) (e - fraction.length) then none
        else some ((), rest)
    | c :: rest =>
      if isExponentMark c then
        .ofOption do
          let (e, rest) ← readExponent (c :: rest)
          if !negative && overflows whole e then none else some ((), rest)
      else .absent
    | [] => .absent

/-- `inf` or `nan` with a sign. -/
def readSpecial (s : List Char) : Scan Unit :=
  match (readSign s).2 with
  | 'i' :: 'n' :: 'f' :: rest => .found () rest
  | 'n' :: 'a' :: 'n' :: rest => .found () rest
  | _ => .absent

def isHexDigit (c : Char) : Bool := (hexValue? c).isSome

def readRadix (base : Nat) (isDigit : Char → Bool) (s : List Char) :
    Option (Int × List Char) := do
  let (digits, rest) ← readGrouped isDigit s
  let n := digits.foldl (fun n c => n * base + (hexValue? c).getD 0) 0
  if (n : Int) ≤ Int64.maxValue.toInt then some (n, rest) else none

def readInteger (s : List Char) : Option (Int × List Char) :=
  match s with
  | '0' :: 'x' :: rest => readRadix 16 isHexDigit rest
  | '0' :: 'o' :: rest => readRadix 8 (fun c => '0' ≤ c && c ≤ '7') rest
  | '0' :: 'b' :: rest => readRadix 2 (fun c => c == '0' || c == '1') rest
  | s => do
    let (negative, s) := readSign s
    let (digits, rest) ← readWhole s
    let i : Int := if negative then -(numberOf digits : Int) else numberOf digits
    if Int64.minValue.toInt ≤ i ∧ i ≤ Int64.maxValue.toInt then some (i, rest) else none

end ConnPool.Toml
