import ConnPool.Text.Numeral

namespace ConnPool.Json

/-- A number as it is written. An empty fraction stands for a number without a point. -/
structure Numeral where
  negative : Bool
  whole : List Char
  fraction : List Char
  exponent : Option (Bool × List Char)
  deriving DecidableEq, Repr

namespace Numeral

def ofNat (n : Nat) : Numeral := ⟨false, Text.ofNat n, [], none⟩

def ofInt (i : Int) : Numeral := ⟨i < 0, Text.ofNat i.natAbs, [], none⟩

def text (n : Numeral) : List Char :=
  (if n.negative then ['-'] else []) ++ n.whole ++
    (if n.fraction = [] then [] else '.' :: n.fraction) ++
    match n.exponent with
    | none => []
    | some (negative, digits) => 'e' :: (if negative then '-' else '+') :: digits

end Numeral

/-- A string is `none` where an escape in it denotes half a surrogate pair: such a text is well
formed, but has no characters. -/
inductive Tree where
  | null
  | bool (b : Bool)
  | number (n : Numeral)
  | string (s : Option String)
  | array (items : List Tree)
  | object (members : List (Option String × Tree))
  deriving Repr

namespace Tree

def nat (n : Nat) : Tree := .number (.ofNat n)

def int (i : Int) : Tree := .number (.ofInt i)

def text (s : String) : Tree := .string (some s)

def record (fields : List (String × Tree)) : Tree :=
  .object (fields.map fun (k, v) => (some k, v))

def ofOption (o : Option Tree) : Tree := o.getD .null

end Tree
end ConnPool.Json
