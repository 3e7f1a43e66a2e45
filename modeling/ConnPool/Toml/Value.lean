import ConnPool.Toml.Scalar

namespace ConnPool.Toml

inductive Value where
  | string (s : String)
  | integer (i : Int)
  | float
  | bool (b : Bool)
  /-- In the form in which it is shown. -/
  | datetime (text : String)
  | array (items : List Value)
  /-- A table on one line; `dotted` marks those that only the dots of keys bring about. -/
  | table (dotted : Bool) (entries : List (String × Value))
  deriving Repr

def replaceEntry {α : Type} (k : String) (v : α) (entries : List (String × α)) :
    List (String × α) :=
  entries.map fun e => if e.1 = k then (k, v) else e

/-- Puts a value behind a dotted key. A key may be set once, and dots only go through tables that
dots have made. -/
def insertDotted : List String → String → Value → List (String × Value) →
    Option (List (String × Value))
  | [], k, v, entries =>
    if (entries.lookup k).isSome then none else some (entries ++ [(k, v)])
  | p :: path, k, v, entries =>
    match entries.lookup p with
    | none => do
      let inner ← insertDotted path k v []
      some (entries ++ [(p, .table true inner)])
    | some (.table true inner) => do
      let inner ← insertDotted path k v inner
      some (replaceEntry p (.table true inner) entries)
    | some _ => none

/-- The levels of arrays and tables on one line that may stand inside one another. -/
def nestingLimit : Nat := 79

def readNumber (s : List Char) : Scan Value :=
  match readDatetime s with
  | .found text rest => .found (.datetime (String.ofList text)) rest
  | .broken => .broken
  | .absent =>
    match (readFloat s).orElse fun _ => readSpecial s with
    | .found _ rest => .found .float rest
    | .broken => .broken
    | .absent => .ofOption ((readInteger s).map fun (i, rest) => (.integer i, rest))

mutual

def readValue : Nat → Nat → List Char → Option (Value × List Char)
  | 0, _, _ => none
  | n + 1, depth, s =>
    match s with
    | [] => none
    | '[' :: rest =>
      match depth with
      | 0 => none
      | d + 1 => (readArray n d rest).map fun (items, rest) => (.array items, rest)
    | '\x7b' :: rest =>
      match depth with
      | 0 => none
      | d + 1 => do
        match skipBlank rest with
        | '\x7d' :: rest => some (.table false [], rest)
        | _ =>
          let (entries, rest) ← readEntries n d rest []
          some (.table false entries, rest)
    | 't' :: 'r' :: 'u' :: 'e' :: rest => some (.bool true, rest)
    | 'f' :: 'a' :: 'l' :: 's' :: 'e' :: rest => some (.bool false, rest)
    | 'i' :: 'n' :: 'f' :: rest => some (.float, rest)
    | 'n' :: 'a' :: 'n' :: rest => some (.float, rest)
    | c :: rest =>
      if c = '"' ∨ c = '\'' then
        (readString (c :: rest)).map fun (cs, rest) => (.string (String.ofList cs), rest)
      else if c.isDigit ∨ c = '+' ∨ c = '-' then
        match readNumber (c :: rest) with
        | .found v rest => some (v, rest)
        | _ => none
      else none

def readArray : Nat → Nat → List Char → Option (List Value × List Char)
  | 0, _, _ => none
  | n + 1, depth, s => do
    match ← skipLines (s.length + 1) s with
    | ']' :: rest => some ([], rest)
    | s =>
      let (item, rest) ← readValue n depth s
      match ← skipLines (rest.length + 1) rest with
      | ']' :: rest => some ([item], rest)
      | ',' :: rest =>
        let (items, rest) ← readArray n depth rest
        some (item :: items, rest)
      | _ => none

def readEntries : Nat → Nat → List Char → List (String × Value) →
    Option (List (String × Value) × List Char)
  | 0, _, _, _ => none
  | n + 1, depth, s, entries => do
    let (parts, rest) ← readKey keyLimit s
    let rest ← expect '=' rest
    let (v, rest) ← readValue n depth (skipBlank rest)
    let entries ← insertDotted (splitKey parts).1 (splitKey parts).2 v entries
    match skipBlank rest with
    | '\x7d' :: rest => some (entries, rest)
    | ',' :: rest => readEntries n depth rest entries
    | _ => none

end
end ConnPool.Toml
