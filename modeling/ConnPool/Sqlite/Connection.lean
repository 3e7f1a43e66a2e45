import ConnPool.Host
import ConnPool.Sqlite.Library

namespace ConnPool.Sqlite

structure Status where
  isClosed : Bool := false
  autoCommit : Bool := true
  deriving DecidableEq

structure Connection (ℓ : Type) extends Status where
  store : ℓ

namespace Connection

variable {ℓ : Type}

def driverName : String := "sqlite"

def closedError : Error := .connection "SQLite connection is closed"

def withHandle {α : Type} (f : Action ℓ α) : Action (Connection ℓ) α := fun c =>
  if c.isClosed then (.fail closedError, c)
  else ((f c.store).1, { c with store := (f c.store).2 })

def reporting (error : String → Error) (f : ℓ → Except String Unit × ℓ) : Action ℓ Unit := fun s =>
  ((f s).1.mapError fun text => .error (error text), (f s).2)

def setBusyTimeout (ms : UInt64) (lib : Library ℓ) : Action (Connection ℓ) Unit :=
  withHandle <|
    if ms.toNat ≤ longestTimeout then
      reporting (fun text => .connection ("Failed to set busy timeout: " ++ text))
        (lib.setBusyTimeout ms.toNat)
    else .lift (.error (.panic "too big"))

def setPragma (name value : String) (lib : Library ℓ) : Action (Connection ℓ) Unit :=
  withHandle <|
    reporting
      (fun text => .connection ("Failed to set " ++ name ++ " to " ++ value ++ ": " ++ text))
      (lib.setPragma name value)

variable (lib : Library ℓ)

def inTransaction (c : Connection ℓ) : Bool := !c.isClosed && lib.inTransaction c.store

/-- Opens the transaction that statements run in when auto-commit is off. -/
def beginIfNeeded (autoCommit : Bool) : Action ℓ Unit := fun s =>
  if !autoCommit && !lib.inTransaction s then
    reporting (fun text => .query ("Failed to begin transaction: " ++ text))
      (lib.control .begin) s
  else (.ok (), s)

def endTransaction (c : Control) : Action ℓ Unit := fun s =>
  if lib.inTransaction s then
    reporting (fun text => .query ("Failed to " ++ c.sql ++ ": " ++ text)) (lib.control c) s
  else (.ok (), s)

def perform {α : Type} (sql : String) (params : List Value)
    (answer : Except Fault Reply → Nat → Outcome α) : Action ℓ α := fun s =>
  let r := lib.run sql params s
  (answer r.1 (lib.changes r.2), r.2)

def runStatement {α : Type} (sql : String) (params : List Value)
    (answer : Except Fault Reply → Nat → Outcome α) : Action (Connection ℓ) α := fun c =>
  withHandle (do beginIfNeeded lib c.autoCommit; perform lib sql params answer) c

def executeError (text : String) : Error := .query ("Failed to execute statement: " ++ text)

def executed (r : Except Fault Reply) (changes : Nat) : Outcome UInt64 :=
  match r with
  | .error f => .fail (executeError f.message)
  | .ok (.rows _ (_ :: _)) =>
    .fail (executeError "Execute returned results - did you mean to call query?")
  | .ok _ => .ok (UInt64.ofNat changes)

def queryError : Fault → Error
  | .refused text => .query ("Failed to prepare query: " ++ text)
  | .parameters given needed =>
    .query ("Failed to execute query: " ++ (Fault.parameters given needed).message)
  | .failed text => .query ("Failed to fetch row: " ++ text)
  | .violated text => .query ("Failed to fetch row: " ++ text)

def queried (r : Except Fault Reply) (_ : Nat) : Outcome QueryResult :=
  match r with
  | .error f => .fail (queryError f)
  | .ok .done => .ok ⟨[], []⟩
  | .ok (.rows columns rows) => .ok ⟨columns, rows.map fun row => ⟨columns.map (·.name), row⟩⟩

/-- Switching auto-commit on commits the open transaction; where that fails it stays off. -/
def setAutoCommit (on : Bool) : Action (Connection ℓ) Unit := fun c =>
  match withHandle (if on then endTransaction lib .commit else pure ()) c with
  | (.ok _, c) => (.ok (), { c with autoCommit := on })
  | (.error f, c) => (.error f, c)

/-- Reads are either serializable or see what is not committed. -/
def setIsolation (level : Isolation) : Action (Connection ℓ) Unit :=
  match level with
  | .serializable => setPragma "read_uncommitted" "0" lib
  | .readUncommitted => setPragma "read_uncommitted" "1" lib
  | l => .fail (.notSupported ("SQLite does not support isolation level " ++ l.name))

def call : (k : Call) → Action (Connection ℓ) k.Answer
  | .execute sql params => runStatement lib sql params executed
  | .query sql params => runStatement lib sql params queried
  | .autoCommit => fun c => withHandle (pure c.autoCommit) c
  | .setAutoCommit on => setAutoCommit lib on
  | .commit => withHandle (endTransaction lib .commit)
  | .rollback => withHandle (endTransaction lib .rollback)
  | .setIsolation level => setIsolation lib level
  | .setNetworkTimeout ms => setBusyTimeout ms lib

/-- The handle is given up even where the library fails to close it. -/
def close : Action (Connection ℓ) Unit := fun c =>
  if c.isClosed then (.ok (), c)
  else
    let r := reporting (fun text => .connection ("Failed to close connection: " ++ text))
      lib.close c.store
    (r.1, { c with isClosed := true, store := r.2 })

end Connection
end ConnPool.Sqlite
