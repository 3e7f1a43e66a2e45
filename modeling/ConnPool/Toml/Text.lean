import ConnPool.Text.Numeral

namespace ConnPool.Toml

def isBlank (c : Char) : Bool := c == ' ' || c == '\t'

def skipBlank (s : List Char) : List Char := s.dropWhile isBlank

def newline? : List Char → Option (List Char)
  | '\n' :: rest => some rest
  | '\r' :: '\n' :: rest => some rest
  | _ => none

/-- Characters of comments: all but control characters other than tab. -/
def isCommentChar (c : Char) : Bool := c == '\t' || (c.toNat ≥ 32 && c.toNat != 127)

def skipComment : List Char → List Char
  | '#' :: rest => rest.dropWhile isCommentChar
  | rest => rest

def lineEnd? (s : List Char) : Option (List Char) :=
  match skipComment (skipBlank s) with
  | [] => some []
  | rest => newline? rest

def skipLines : Nat → List Char → Option (List Char)
  | 0, _ => none
  | n + 1, s =>
    match skipBlank s with
    | '#' :: rest => (newline? (rest.dropWhile isCommentChar)).bind (skipLines n)
    | '\n' :: rest => skipLines n rest
    | '\r' :: rest => (newline? ('\r' :: rest)).bind (skipLines n)
    | rest => some rest

def hexValue? (c : Char) : Option Nat :=
  if '0' ≤ c ∧ c ≤ '9' then some (c.toNat - '0'.toNat)
  else if 'a' ≤ c ∧ c ≤ 'f' then some (c.toNat - 'a'.toNat + 10)
  else if 'A' ≤ c ∧ c ≤ 'F' then some (c.toNat - 'A'.toNat + 10)
  else none

def readCode (n : Nat) (s : List Char) : Option (Char × List Char) := do
  let digits ← (s.take n).mapM hexValue?
  let code := digits.foldl (fun v d => v * 16 + d) 0
  if digits.length = n ∧ code.isValidChar then some (Char.ofNat code, s.drop n) else none

def readEscape : List Char → Option (Char × List Char)
  | 'b' :: rest => some ('\x08', rest)
  | 't' :: rest => some ('\t', rest)
  | 'n' :: rest => some ('\n', rest)
  | 'f' :: rest => some ('\x0c', rest)
  | 'r' :: rest => some ('\r', rest)
  | '"' :: rest => some ('"', rest)
  | '\\' :: rest => some ('\\', rest)
  | 'u' :: rest => readCode 4 rest
  | 'U' :: rest => readCode 8 rest
  | _ => none

def readBasic : Nat → List Char → Option (List Char × List Char)
  | 0, _ => none
  | n + 1, s =>
    match s with
    | '"' :: rest => some ([], rest)
    | '\\' :: rest => do
      let (c, rest) ← readEscape rest
      let (cs, rest) ← readBasic n rest
      some (c :: cs, rest)
    | c :: rest =>
      if isCommentChar c then do
        let (cs, rest) ← readBasic n rest
        some (c :: cs, rest)
      else none
    | [] => none

def readLiteral (s : List Char) : Option (List Char × List Char) :=
  let inside := fun c => isCommentChar c && c != '\''
  match s.dropWhile inside with
  | '\'' :: rest => some (s.takeWhile inside, rest)
  | _ => none

def readQuotes (q : Char) (s : List Char) : Option (List Char × List Char) :=
  let n := (s.takeWhile (· == q)).length
  if n < 3 then none else some (List.replicate (min n 5 - 3) q, s.drop (min n 5))

def isLineBlank (c : Char) : Bool := isBlank c || c == '\n'

def skipLineBlank : List Char → List Char
  | '\r' :: '\n' :: rest => skipLineBlank rest
  | c :: rest => if isLineBlank c then skipLineBlank rest else c :: rest
  | [] => []

/-- The rest of a basic string in three quotes. A backslash at the end of a line joins the line
with the next text. -/
def readMultiBasic : Nat → List Char → Option (List Char × List Char)
  | 0, _ => none
  | n + 1, s =>
    match readQuotes '"' s with
    | some r => some r
    | none =>
      match s with
      | '\\' :: rest =>
        match newline? (skipBlank rest) with
        | some rest => readMultiBasic n (skipLineBlank rest)
        | none => do
          let (c, rest) ← readEscape rest
          let (cs, rest) ← readMultiBasic n rest
          some (c :: cs, rest)
      | c :: rest =>
        if isCommentChar c then do
          let (cs, rest) ← readMultiBasic n rest
          some (c :: cs, rest)
        else do
          let rest ← newline? (c :: rest)
          let (cs, rest) ← readMultiBasic n rest
          some ('\n' :: cs, rest)
      | [] => none

def readMultiLiteral : Nat → List Char → Option (List Char × List Char)
  | 0, _ => none
  | n + 1, s =>
    match readQuotes '\'' s with
    | some r => some r
    | none =>
      match s with
      | c :: rest =>
        if isCommentChar c then do
          let (cs, rest) ← readMultiLiteral n rest
          some (c :: cs, rest)
        else do
          let rest ← newline? (c :: rest)
          let (cs, rest) ← readMultiLiteral n rest
          some ('\n' :: cs, rest)
      | [] => none

/-- A line end right behind the opening quotes does not count. -/
def skipFirstNewline (s : List Char) : List Char := (newline? s).getD s

def readString (s : List Char) : Option (List Char × List Char) :=
  match s with
  | '"' :: '"' :: '"' :: rest => readMultiBasic (rest.length + 1) (skipFirstNewline rest)
  | '"' :: rest => readBasic (rest.length + 1) rest
  | '\'' :: '\'' :: '\'' :: rest => readMultiLiteral (rest.length + 1) (skipFirstNewline rest)
  | '\'' :: rest => readLiteral rest
  | _ => none

def isBareKeyChar (c : Char) : Bool := c.isAlphanum || c == '-' || c == '_'

def readKeyPart (s : List Char) : Option (String × List Char) := do
  let s := skipBlank s
  let (part, rest) ←
    match s with
    | '"' :: rest => readBasic (rest.length + 1) rest
    | '\'' :: rest => readLiteral rest
    | _ =>
      if s.takeWhile isBareKeyChar = [] then none
      else some (s.takeWhile isBareKeyChar, s.dropWhile isBareKeyChar)
  some (String.ofList part, skipBlank rest)

def readKey : Nat → List Char → Option (List String × List Char)
  | 0, _ => none
  | n + 1, s => do
    let (part, rest) ← readKeyPart s
    match rest with
    | '.' :: rest => do
      let (parts, rest) ← readKey n rest
      some (part :: parts, rest)
    | rest => some ([part], rest)

def keyLimit : Nat := 79

def splitKey (parts : List String) : List String × String :=
  (parts.dropLast, parts.getLast?.getD "")

end ConnPool.Toml
