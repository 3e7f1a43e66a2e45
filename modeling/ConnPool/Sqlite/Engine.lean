import ConnPool.Error
import ConnPool.Row
import ConnPool.Sqlite.Statement
import ConnPool.Text.Shown

namespace ConnPool.Sqlite

/-- Where the content is kept that a rollback returns to. -/
inductive Journal where
  | delete
  | persist
  /-- Nowhere: what was changed stays changed. -/
  | off
  | truncate
  | memory
  deriving DecidableEq

namespace Journal

def all : List Journal := [delete, persist, off, truncate, memory]

def name : Journal → String
  | delete => "delete"
  | persist => "persist"
  | off => "off"
  | truncate => "truncate"
  | memory => "memory"

/-- The first journal whose name begins with a text, in any case. -/
def ofText? (s : String) : Option Journal :=
  all.find? fun j => s.toLower.toList.isPrefixOf j.name.toList

end Journal

/-- Switches of a connection. Transactions leave them alone. -/
structure Settings where
  /-- How long statements wait for a lock, in milliseconds. -/
  busyTimeout : Nat := 5000
  foreignKeys : Bool := true
  readUncommitted : Bool := false
  /-- Whether the database is in memory; its journal is there too, or nowhere. -/
  inMemory : Bool := true
  journal : Journal := .memory
  readOnly : Bool := false
  deriving DecidableEq

def Settings.journaled (s : Settings) : Bool := s.journal != .off

inductive Fault where
  | refused (text : String)
  | parameters (given needed : Nat)
  /-- It came to nothing while it ran. -/
  | failed (text : String)
  | violated (text : String)
  deriving DecidableEq

def Fault.message : Fault → String
  | refused text => text
  | parameters given needed =>
    "Wrong number of parameters passed to query. Got " ++ String.ofList (Text.ofNat given) ++
      ", needed " ++ String.ofList (Text.ofNat needed)
  | failed text => text
  | violated text => text

def located (sql : String) (offset : Nat) : String :=
  " in " ++ sql ++ " at offset " ++ Text.showNat offset

inductive Effect (δ : Type) where
  | rows (columns : List Column) (rows : List (List Value))
  /-- The content is another one; no rows are counted. -/
  | defined (content : δ)
  | changed (content : δ) (rows : Nat)
  /-- There was no row to change, and nothing was written. -/
  | untouched
  /-- The content became another one, but must not stay so. -/
  | rejected (content : δ) (text : String)

/-- How an engine with contents of type `δ` understands statements. -/
structure Engine (δ : Type) where
  empty : δ
  /-- Whether a statement opens or ends a transaction. -/
  control? : String → Option Control
  run : Settings → δ → String → List Value → Except Fault (Effect δ)
  /-- The content as it is outside of transactions. -/
  released : δ → δ
  /-- Why a content must not be kept. -/
  unsettled? : δ → Option String

def Engine.settled {δ : Type} (engine : Engine δ) (content : δ) : Except String δ :=
  match engine.unsettled? content with
  | some text => .error text
  | none => .ok (engine.released content)

end ConnPool.Sqlite
