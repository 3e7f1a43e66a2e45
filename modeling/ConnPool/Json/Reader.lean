import ConnPool.Json.Tree

namespace ConnPool.Json

def isBlank (c : Char) : Bool := c == ' ' || c == '\n' || c == '\t' || c == '\r'

def skipBlank (s : List Char) : List Char := s.dropWhile isBlank

def hexValue? (c : Char) : Option Nat :=
  if '0' ≤ c ∧ c ≤ '9' then some (c.toNat - '0'.toNat)
  else if 'a' ≤ c ∧ c ≤ 'f' then some (c.toNat - 'a'.toNat + 10)
  else if 'A' ≤ c ∧ c ≤ 'F' then some (c.toNat - 'A'.toNat + 10)
  else none

def readHex4 : List Char → Option (Nat × List Char)
  | a :: b :: c :: d :: rest => do
    let a ← hexValue? a
    let b ← hexValue? b
    let c ← hexValue? c
    let d ← hexValue? d
    some (((a * 16 + b) * 16 + c) * 16 + d, rest)
  | _ => none

def isHighSurrogate (n : Nat) : Bool := 0xD800 ≤ n && n < 0xDC00

def isLowSurrogate (n : Nat) : Bool := 0xDC00 ≤ n && n < 0xE000

abbrev Piece := Option Char

/-- The part of an escape behind the backslash. A high surrogate takes the low one behind it. -/
def readEscape : List Char → Option (Piece × List Char)
  | '"' :: rest => some (some '"', rest)
  | '\\' :: rest => some (some '\\', rest)
  | '/' :: rest => some (some '/', rest)
  | 'b' :: rest => some (some '\x08', rest)
  | 'f' :: rest => some (some '\x0c', rest)
  | 'n' :: rest => some (some '\n', rest)
  | 'r' :: rest => some (some '\r', rest)
  | 't' :: rest => some (some '\t', rest)
  | 'u' :: rest => do
    let (n, rest) ← readHex4 rest
    if isHighSurrogate n then
      match rest with
      | '\\' :: 'u' :: low =>
        match readHex4 low with
        | some (m, after) =>
          if isLowSurrogate m then
            some (some (Char.ofNat (0x10000 + (n - 0xD800) * 0x400 + (m - 0xDC00))), after)
          else some (none, rest)
        | none => some (none, rest)
      | _ => some (none, rest)
    else if isLowSurrogate n then some (none, rest)
    else some (some (Char.ofNat n), rest)
  | _ => none

/-- The characters up to the closing quote; `none` inside stands for half a surrogate pair. -/
def readChars : Nat → List Char → Option (List Piece × List Char)
  | 0, _ => none
  | n + 1, s =>
    match s with
    | [] => none
    | '"' :: rest => some ([], rest)
    | '\\' :: rest => do
      let (u, rest) ← readEscape rest
      let (us, rest) ← readChars n rest
      some (u :: us, rest)
    | c :: rest =>
      if c.toNat < 32 then none
      else do
        let (us, rest) ← readChars n rest
        some (some c :: us, rest)

def readString (s : List Char) : Option (Option String × List Char) := do
  let (us, rest) ← readChars (s.length + 1) s
  some ((us.mapM id).map String.ofList, rest)

def takeDigits (s : List Char) : List Char × List Char :=
  (s.takeWhile Char.isDigit, s.dropWhile Char.isDigit)

def readFraction : List Char → Option (List Char × List Char)
  | '.' :: rest =>
    let (digits, rest) := takeDigits rest
    if digits = [] then none else some (digits, rest)
  | rest => some ([], rest)

def readExponentDigits (rest : List Char) : Option (Option (Bool × List Char) × List Char) :=
  let (negative, rest) :=
    match rest with
    | '+' :: rest => (false, rest)
    | '-' :: rest => (true, rest)
    | rest => (false, rest)
  let (digits, rest) := takeDigits rest
  if digits = [] then none else some (some (negative, digits), rest)

def readExponent : List Char → Option (Option (Bool × List Char) × List Char)
  | 'e' :: rest => readExponentDigits rest
  | 'E' :: rest => readExponentDigits rest
  | rest => some (none, rest)

/-- A number; a leading zero stands alone before the point. -/
def readNumeral (s : List Char) : Option (Numeral × List Char) := do
  let (negative, s) :=
    match s with
    | '-' :: rest => (true, rest)
    | rest => (false, rest)
  let (whole, s) := takeDigits s
  if whole = [] ∨ (whole.head? = some '0' ∧ whole.length > 1) then none
  let (fraction, s) ← readFraction s
  let (exponent, s) ← readExponent s
  some (⟨negative, whole, fraction, exponent⟩, s)

mutual

/-- A value, behind blanks. The first argument bounds the number of steps. -/
def readTree : Nat → List Char → Option (Tree × List Char)
  | 0, _ => none
  | n + 1, s =>
    match skipBlank s with
    | 'n' :: 'u' :: 'l' :: 'l' :: rest => some (.null, rest)
    | 't' :: 'r' :: 'u' :: 'e' :: rest => some (.bool true, rest)
    | 'f' :: 'a' :: 'l' :: 's' :: 'e' :: rest => some (.bool false, rest)
    | '"' :: rest => do
      let (s, rest) ← readString rest
      some (.string s, rest)
    | '[' :: rest =>
      match skipBlank rest with
      | ']' :: rest => some (.array [], rest)
      | rest => do
        let (items, rest) ← readItems n rest
        some (.array items, rest)
    | '\x7b' :: rest =>
      match skipBlank rest with
      | '\x7d' :: rest => some (.object [], rest)
      | rest => do
        let (members, rest) ← readMembers n rest
        some (.object members, rest)
    | s => do
      let (m, rest) ← readNumeral s
      some (.number m, rest)

def readItems : Nat → List Char → Option (List Tree × List Char)
  | 0, _ => none
  | n + 1, s => do
    let (item, rest) ← readTree n s
    match skipBlank rest with
    | ']' :: rest => some ([item], rest)
    | ',' :: rest => do
      let (items, rest) ← readItems n rest
      some (item :: items, rest)
    | _ => none

def readMembers : Nat → List Char → Option (List (Option String × Tree) × List Char)
  | 0, _ => none
  | n + 1, s =>
    match skipBlank s with
    | '"' :: rest => do
      let (key, rest) ← readString rest
      match skipBlank rest with
      | ':' :: rest => do
        let (value, rest) ← readTree n rest
        match skipBlank rest with
        | '\x7d' :: rest => some ([(key, value)], rest)
        | ',' :: rest => do
          let (members, rest) ← readMembers n rest
          some ((key, value) :: members, rest)
        | _ => none
      | _ => none
    | _ => none

end

def Tree.read (s : List Char) : Option Tree :=
  match readTree (2 * s.length + 2) s with
  | some (t, rest) => if skipBlank rest = [] then some t else none
  | none => none

def Tree.parse (s : String) : Option Tree := Tree.read s.toList

end ConnPool.Json
