import ConnPool.Json.Tree

namespace ConnPool.Json

def hexDigit (n : Nat) : Char := Nat.digitChar n

/-- Quotes, backslashes and the characters below U+0020 are escaped, with the short form where
there is one. -/
def escape (c : Char) : List Char :=
  match c with
  | '"' => ['\\', '"']
  | '\\' => ['\\', '\\']
  | '\n' => ['\\', 'n']
  | '\r' => ['\\', 'r']
  | '\t' => ['\\', 't']
  | '\x08' => ['\\', 'b']
  | '\x0c' => ['\\', 'f']
  | c =>
    if c.toNat < 32 then ['\\', 'u', '0', '0', hexDigit (c.toNat / 16), hexDigit (c.toNat % 16)]
    else [c]

def quote (s : List Char) : List Char := '"' :: (s.flatMap escape ++ ['"'])

def commas : List (List Char) → List Char
  | [] => []
  | [t] => t
  | t :: ts => t ++ ',' :: commas ts

mutual

def Tree.write : Tree → List Char
  | .null => "null".toList
  | .bool b => if b then "true".toList else "false".toList
  | .number n => n.text
  | .string s => quote (s.getD "").toList
  | .array items => '[' :: (commas (Tree.writeItems items) ++ [']'])
  | .object members => '\x7b' :: (commas (Tree.writeMembers members) ++ ['\x7d'])

def Tree.writeItems : List Tree → List (List Char)
  | [] => []
  | t :: ts => t.write :: Tree.writeItems ts

def Tree.writeMembers : List (Option String × Tree) → List (List Char)
  | [] => []
  | (k, t) :: ms => (quote (k.getD "").toList ++ ':' :: t.write) :: Tree.writeMembers ms

end

def Tree.compact (t : Tree) : String := String.ofList t.write

end ConnPool.Json
