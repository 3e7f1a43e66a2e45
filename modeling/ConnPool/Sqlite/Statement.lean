import ConnPool.Json.Reader
import ConnPool.Text.Numeral

namespace ConnPool.Sqlite

structure Parent where
  table : String
  deferred : Bool := false
  deriving DecidableEq

structure ColumnDef where
  name : String
  declared : Option String := none
  /-- Whether the column numbers the rows. -/
  isKey : Bool := false
  parent : Option Parent := none
  deriving DecidableEq

inductive Expr where
  | number (n : Nat)
  /-- Parameters count from 1. -/
  | parameter (i : Nat)
  | blob (bytes : List UInt8)
  | text (bytes : List UInt8)
  | magnitude (n : Int)

inductive Control where
  | begin
  | commit
  | rollback
  deriving DecidableEq

def Control.sql : Control → String
  | begin => "BEGIN DEFERRED"
  | commit => "COMMIT"
  | rollback => "ROLLBACK"

inductive Statement where
  | control (c : Control)
  | pragma (name : String)
  | create (table : String) (columns : List ColumnDef)
  | insert (table : String) (values : List Expr)
  | delete (table : String)
  | count (table : String)
  /-- All columns, or some by name. -/
  | read (table : String) (columns : Option (List String))
  /-- Expressions with the names of their columns. -/
  | compute (items : List (Expr × String))

def isWordChar (c : Char) : Bool := c.isAlphanum || c == '_'

/-- The words and signs of a statement; `word` is the word being read, its last character in
front. -/
def tokens (word : List Char) : List Char → List String
  | [] => ended word
  | c :: rest =>
    if isWordChar c then tokens (c :: word) rest
    else if c.isWhitespace then ended word ++ tokens [] rest
    else ended word ++ String.singleton c :: tokens [] rest
where
  ended (word : List Char) : List String :=
    if word = [] then [] else [String.ofList word.reverse]

def betweenCommas : List String → List (List String)
  | [] => [[]]
  | "," :: rest => [] :: betweenCommas rest
  | t :: rest =>
    match betweenCommas rest with
    | [] => [[t]]
    | part :: parts => (t :: part) :: parts

def readNumber (s : String) : Option Nat := (Text.readNat UInt64.size s.toList).toOption

def readBytes : List Char → Option (List UInt8)
  | [] => some []
  | high :: low :: rest => do
    let byte := UInt8.ofNat ((← Json.hexValue? high) * 16 + (← Json.hexValue? low))
    (← readBytes rest) |> (byte :: ·)
  | [_] => none

namespace Expr

def ofTokens? : List String → Option Expr
  | ["?", n] => (readNumber n).map .parameter
  | ["x", "'", "'"] => some (.blob [])
  | ["x", "'", digits, "'"] => (readBytes digits.toList).map .blob
  | ["CAST", "(", "x", "'", digits, "'", "AS", "TEXT", ")"] =>
    (readBytes digits.toList).map .text
  | ["abs", "(", "-", n, ")"] => (readNumber n).map fun n => .magnitude (-n)
  | ["abs", "(", n, ")"] => (readNumber n).map fun n => .magnitude n
  | [n] => (readNumber n).map .number
  | _ => none

def needed : Expr → Nat
  | parameter i => i
  | _ => 0

def withName? (ts : List String) : Option (Expr × String) :=
  match ts.reverse with
  | name :: "AS" :: rest => (ofTokens? rest.reverse).map (·, name)
  | _ => (ofTokens? ts).map (·, String.join ts)

end Expr

def ColumnDef.extend? (c : ColumnDef) : List String → Option ColumnDef
  | [] => some c
  | "PRIMARY" :: "KEY" :: rest => ColumnDef.extend? { c with isKey := true } rest
  | "REFERENCES" :: table :: "(" :: _ :: ")" :: rest =>
    ColumnDef.extend? { c with parent := some { table } } rest
  | "DEFERRABLE" :: "INITIALLY" :: "DEFERRED" :: rest =>
    ColumnDef.extend? { c with parent := c.parent.map ({ · with deferred := true }) } rest
  | declared :: rest =>
    match c.declared with
    | none => ColumnDef.extend? { c with declared := some declared } rest
    | some _ => none

def ColumnDef.ofTokens? : List String → Option ColumnDef
  | [] => none
  | name :: rest => ColumnDef.extend? { name } rest

namespace Statement

def unclosed? (ts : List String) : Option (List String) :=
  match ts.reverse with
  | ")" :: rest => some rest.reverse
  | _ => none

def columnName? : List String → Option String
  | [name] => some name
  | _ => none

def ofSelection? (ts : List String) : Option Statement :=
  match ts.reverse with
  | table :: "FROM" :: rest => do
    let names ← (betweenCommas rest.reverse).mapM columnName?
    some (.read table (if names = ["*"] then none else some names))
  | _ => ((betweenCommas ts).mapM Expr.withName?).map .compute

def ofTokens? : List String → Option Statement
  | ["BEGIN"] => some (.control .begin)
  | ["COMMIT"] => some (.control .commit)
  | ["ROLLBACK"] => some (.control .rollback)
  | ["PRAGMA", name] => some (.pragma name)
  | "CREATE" :: "TABLE" :: table :: "(" :: rest => do
    let columns ← (betweenCommas (← unclosed? rest)).mapM ColumnDef.ofTokens?
    some (.create table columns)
  | "INSERT" :: "INTO" :: table :: "VALUES" :: "(" :: rest => do
    let values ← (betweenCommas (← unclosed? rest)).mapM Expr.ofTokens?
    some (.insert table values)
  | ["DELETE", "FROM", table] => some (.delete table)
  | ["SELECT", "COUNT", "(", "*", ")", "FROM", table] => some (.count table)
  | "SELECT" :: rest => ofSelection? rest
  | _ => none

def ofSql? (sql : String) : Option Statement := ofTokens? (tokens [] sql.toList)

def needed : Statement → Nat
  | insert _ values => values.foldl (fun n e => max n e.needed) 0
  | compute items => items.foldl (fun n e => max n e.1.needed) 0
  | _ => 0

end Statement
end ConnPool.Sqlite
