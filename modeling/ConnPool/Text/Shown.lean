import ConnPool.Text.Numeral
import ConnPool.Text.Unprinted

namespace ConnPool.Text

def escapeShown (c : Char) : List Char :=
  match c with
  | '\x00' => ['\\', '0']
  | '\t' => ['\\', 't']
  | '\r' => ['\\', 'r']
  | '\n' => ['\\', 'n']
  | '"' => ['\\', '"']
  | '\\' => ['\\', '\\']
  | c =>
    if isUnprinted c then ['\\', 'u', '\x7b'] ++ Nat.toDigits 16 c.toNat ++ ['\x7d'] else [c]

def showText (s : String) : String :=
  String.ofList ('"' :: (s.toList.flatMap escapeShown ++ ['"']))

def showNat (n : Nat) : String := String.ofList (ofNat n)

def showBool (b : Bool) : String := if b then "true" else "false"

def showOption {α : Type} (f : α → String) : Option α → String
  | none => "None"
  | some a => "Some(" ++ f a ++ ")"

def showList (items : List String) : String := "[" ++ ", ".intercalate items ++ "]"

def showRecord (name : String) (fields : List (String × String)) : String :=
  name ++ " \x7b " ++ ", ".intercalate (fields.map fun (k, v) => k ++ ": " ++ v) ++ " \x7d"

/-- A number of `whole` units and `part` of `size` parts of a unit, without trailing zeros. -/
def showDecimal (whole part places : Nat) (unit : String) : String :=
  let digits := ofNat part
  let padded := List.replicate (places - digits.length) '0' ++ digits
  let kept := (padded.reverse.dropWhile (· == '0')).reverse
  showNat whole ++ (if kept = [] then "" else String.ofList ('.' :: kept)) ++ unit

/-- A span of nanoseconds in the largest unit of s, ms, µs and ns that is not below 1. -/
def showSpan (ns : Nat) : String :=
  if ns ≥ 1000000000 then showDecimal (ns / 1000000000) (ns % 1000000000) 9 "s"
  else if ns ≥ 1000000 then showDecimal (ns / 1000000) (ns % 1000000) 6 "ms"
  else if ns ≥ 1000 then showDecimal (ns / 1000) (ns % 1000) 3 "µs"
  else showDecimal ns 0 0 "ns"

end ConnPool.Text
