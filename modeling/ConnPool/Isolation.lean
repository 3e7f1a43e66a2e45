import ConnPool.Text.Blank
import ConnPool.Text.Numeral

namespace ConnPool

inductive Isolation where
  | none
  | readUncommitted
  | readCommitted
  | repeatableRead
  | serializable
  deriving DecidableEq, Repr

namespace Isolation

def all : List Isolation :=
  [.none, .readUncommitted, .readCommitted, .repeatableRead, .serializable]

def name : Isolation → String
  | none => "NONE"
  | readUncommitted => "READ_UNCOMMITTED"
  | readCommitted => "READ_COMMITTED"
  | repeatableRead => "REPEATABLE_READ"
  | serializable => "SERIALIZABLE"

def key : Isolation → String
  | none => "none"
  | readUncommitted => "read_uncommitted"
  | readCommitted => "read_committed"
  | repeatableRead => "repeatable_read"
  | serializable => "serializable"

def constant : Isolation → String
  | none => "None"
  | readUncommitted => "ReadUncommitted"
  | readCommitted => "ReadCommitted"
  | repeatableRead => "RepeatableRead"
  | serializable => "Serializable"

def code : Isolation → Int
  | none => 0
  | readUncommitted => 1
  | readCommitted => 2
  | repeatableRead => 4
  | serializable => 8

def ofCode? (c : Int) : Option Isolation :=
  all.find? (·.code == c)

def ofKey? (s : String) : Option Isolation :=
  all.find? (·.key == s)

/-- Upper case, with `-` and blank written as `_`. -/
def normalize (c : Char) : Char :=
  if c = '-' ∨ c = ' ' then '_' else c.toUpper

inductive Unknown where
  | code (c : Int)
  | name (text : String)
  deriving DecidableEq, Repr

/-- A code as a 32-bit integer, or a name in any case with `_`, `-` or blanks between its words. -/
def parse (s : String) : Except Unknown Isolation :=
  let trimmed := Text.trim s.toList
  match Text.readInt Int32.maxValue.toInt.toNat trimmed with
  | .ok c => (ofCode? c).elim (.error (.code c)) .ok
  | .error _ =>
    (all.find? (·.name.toList == trimmed.map normalize)).elim (.error (.name s)) .ok

theorem ofCode?_code (l : Isolation) : ofCode? l.code = some l := by cases l <;> rfl

theorem ofKey?_key (l : Isolation) : ofKey? l.key = some l := by cases l <;> rfl

end Isolation
end ConnPool
