import ConnPool.Sqlite.Database

namespace ConnPool.Sqlite.Pragma

def isIdentifier (s : List Char) : Bool :=
  match s with
  | [] => false
  | c :: rest =>
    let starts (c : Char) : Bool := c.isAlpha || c == '_' || c.toNat > 0x7F
    starts c && rest.all fun c => starts c || c.isDigit || c == '$'

def reserved : List String :=
  ["ADD", "ALL", "ALTER", "AND", "AS", "AUTOINCREMENT", "BETWEEN", "CASE", "CHECK", "COLLATE",
    "COMMIT", "CONSTRAINT", "CREATE", "DEFAULT", "DEFERRABLE", "DELETE", "DISTINCT", "DROP", "ELSE",
    "ESCAPE", "EXCEPT", "EXISTS", "FOREIGN", "FROM", "GROUP", "HAVING", "IN", "INDEX", "INSERT",
    "INTERSECT", "INTO", "IS", "ISNULL", "JOIN", "LIMIT", "NOT", "NOTHING", "NOTNULL", "NULL", "ON",
    "OR", "ORDER", "PRIMARY", "REFERENCES", "RETURNING", "SELECT", "SET", "TABLE", "THEN", "TO",
    "TRANSACTION", "UNION", "UNIQUE", "UPDATE", "USING", "VALUES", "WHEN", "WHERE"]

def quoted (s : List Char) : String :=
  String.ofList (s.flatMap fun c => if c = '\'' then [c, c] else [c])

/-- Why a switch cannot be set, if so. Otherwise the statement that sets it is understood. -/
def fault? (name value : String) : Option String :=
  let setter := "PRAGMA "
  let sql := setter ++ name ++ "='" ++ quoted value.toList ++ "'"
  if !isIdentifier name.toList then some ("Invalid keyword \"" ++ name ++ "\"")
  else if reserved.contains name.toUpper then
    some ("near \"" ++ name ++ "\": syntax error" ++ located sql setter.length)
  else if value.toList.contains '\x00' then
    some ("unrecognized token: \"'" ++ quoted (value.toList.takeWhile (· != '\x00')) ++ "\"" ++
      located sql (setter ++ name ++ "=").utf8ByteSize)
  else none

/-- The number in front of a text that digits of some base make. It counts as 0 where it has more
than 31 bits. -/
def leadingDigits (base : Nat) (digit? : Char → Option Nat) (s : List Char) : Nat :=
  let digits := (s.takeWhile fun c => (digit? c).isSome).filterMap digit?
  let n := digits.foldl (fun n d => n * base + d) 0
  if n ≤ longestTimeout then n else 0

/-- The number in front of a text, decimal or hexadecimal; 0 for negative ones. -/
def leadingNumber (s : List Char) : Nat :=
  match s with
  | '+' :: rest => leadingDigits 10 Text.digit? rest
  | '0' :: 'x' :: rest => leadingDigits 16 Json.hexValue? rest
  | '0' :: 'X' :: rest => leadingDigits 16 Json.hexValue? rest
  | s => leadingDigits 10 Text.digit? s

def readSwitch (value : String) : Bool :=
  match value.toList with
  | [] => false
  | c :: _ =>
    if c.isDigit then leadingNumber value.toList % 256 != 0
    else ["on", "yes", "true"].contains value.toLower

/-- Sets a switch; names that mean nothing are passed over. The check of references cannot be
switched within a transaction, nor the journal once the transaction has written. -/
def set {δ : Type} (d : Database δ) (name value : String) : Settings :=
  match name.toLower with
  | "busy_timeout" => { d.settings with busyTimeout := leadingNumber value.toList }
  | "foreign_keys" =>
    if d.inTransaction then d.settings else { d.settings with foreignKeys := readSwitch value }
  | "read_uncommitted" => { d.settings with readUncommitted := readSwitch value }
  | "journal_mode" =>
    match Journal.ofText? value with
    | none => d.settings
    | some j =>
      if d.written || d.settings.inMemory && j != .memory && j != .off then d.settings
      else { d.settings with journal := j }
  | _ => d.settings

end ConnPool.Sqlite.Pragma
