import ConnPool.Host
import ConnPool.Sqlite.Private
import ConnPool.Sqlite.Tables

namespace ConnPool.Sqlite

def schemaTable : String := "sqlite_master"

/-- A lock on a table, which lasts as long as the transaction of its owner. -/
structure Lock where
  owner : ConnId
  table : String
  forWriting : Bool

structure Writer where
  owner : ConnId
  content : Tables
  written : Bool := false

/-- A database that is kept for those who use it. One at a time may write to it, and only to tables
that nobody else has read. -/
structure Cache where
  name? : Option (String × String) := none
  users : List ConnId := []
  kept : Tables := {}
  writer : Option Writer := none
  /-- Every transaction that has begun to read has a lock on the table of all tables. -/
  locks : List Lock := []
  /-- The writer waits for others to end their transactions, and none may begin. -/
  pending : Bool := false
  inMemory : Bool := true
  journal : Journal := .memory
  readOnly : Bool := false

namespace Cache

variable (c : Cache) (i : ConnId)

def isWriter : Bool := c.writer.any (·.owner == i)

def live : Tables := (c.writer.map (·.content)).getD c.kept

/-- What a user finds, with what itself has written. -/
def own : Tables := if c.isWriter i then c.live else c.kept

def isActive : Bool := c.locks.any fun l => l.owner == i && l.table == schemaTable

/-- Somebody else is changing what tables there are. -/
def isSchemaLocked : Bool :=
  c.locks.any fun l => l.owner != i && l.table == schemaTable && l.forWriting

/-- Begins to read or to write, if it has not been done in the present transaction. -/
def start (writes : Bool) : Except Fault Cache :=
  let starts := !c.isActive i
  let upgrades := writes && !c.isWriter i
  if (starts || upgrades) && c.pending || upgrades && c.writer.isSome then
    .error (.failed "database table is locked")
  else .ok { c with
    locks := if starts then ⟨i, schemaTable, false⟩ :: c.locks else c.locks
    writer := if upgrades then some { owner := i, content := c.kept } else c.writer }

/-- Locks a table. Where others read what is to be written the writer waits for them. -/
def lock (table : String) (forWriting : Bool) : Except Fault Unit × Cache :=
  let (mine, others) := c.locks.partition fun l => l.owner == i && l.table == table
  if others.any fun l => l.owner != i && l.table == table && l.forWriting != forWriting then
    (.error (.failed ("database table is locked: " ++ table)),
      { c with pending := c.pending || forWriting })
  else
    (.ok (), { c with locks := ⟨i, table, forWriting || mine.any (·.forWriting)⟩ :: others })

/-- Gives up all locks. When the writer does, or when only one other transaction is left, none has
to be waited for. -/
def release : Cache :=
  let transactions := c.locks.countP (·.table == schemaTable)
  { c with
    locks := c.locks.filter (·.owner != i)
    pending := c.pending && !c.isWriter i && !(c.isActive i && transactions == 2) }

/-- Takes over what the writer has written, and keeps it once its transaction has ended. -/
def write (d : Database Tables) : Cache :=
  if !c.isWriter i then c
  else if d.inTransaction then { c with writer := some ⟨i, d.content, d.written⟩ }
  else { c with kept := d.content, writer := none }

def put (d : Database Tables) : Cache :=
  let c := if d.inTransaction then c else c.release i
  { c.write i d with journal := d.settings.journal }

def without : Cache :=
  { c with users := c.users.filter (· != i), writer := c.writer.filter (·.owner != i) }

end Cache

structure Need where
  table : String
  forWriting : Bool

def Statement.need? (readOnly : Bool) : Statement → Option Need
  | .create .. => if readOnly then none else some ⟨schemaTable, true⟩
  | .insert table _ | .delete table => some ⟨table, true⟩
  | .count table | .read table _ => some ⟨table, false⟩
  | _ => none

/-- How a statement that does not get its lock leaves the database. -/
def Need.givenUp (n : Need) (d : Database Tables) : Database Tables :=
  if n.forWriting && n.table != schemaTable then { d with changes := 0 } else d

/-- A statement that is refused needs no table. -/
def Tables.need? (settings : Settings) (s : Tables) (sql : String) (params : List Value) :
    Option Need := do
  let statement ← Statement.ofSql? sql
  match statement.prepare settings s sql with
  | .error _ => none
  | .ok _ =>
    if params.length = statement.needed then statement.need? settings.readOnly else none

structure Handle where
  cache : Nat
  begun : Bool := false
  settings : Settings := {}
  changes : Nat := 0

structure Seat where
  cache : Cache
  handle : Handle

namespace Seat

def settings (s : Seat) : Settings :=
  { s.handle.settings with
    inMemory := s.cache.inMemory
    journal := s.cache.journal
    readOnly := s.cache.readOnly }

variable (i : ConnId)

def inTransaction (s : Seat) : Bool := s.handle.begun || s.cache.isWriter i

/-- What queries find. They may read what others have not committed. -/
def shown (s : Seat) : Tables :=
  if s.handle.settings.readUncommitted then s.cache.live else s.cache.own i

/-- The database as if the handle were the only one. -/
def view (s : Seat) (inTransaction : Bool) (content : Tables) : Database Tables where
  content := content
  saved := if inTransaction then some s.cache.kept else none
  written := s.cache.writer.any (·.written)
  settings := s.settings
  changes := s.handle.changes

def put (s : Seat) (d : Database Tables) : Seat where
  cache := s.cache.put i d
  handle :=
    { s.handle with begun := d.inTransaction, settings := d.settings, changes := d.changes }

def on {α : Type} (s : Seat) (inTransaction : Bool) (content : Tables)
    (f : Database Tables → α × Database Tables) : α × Seat :=
  let r := f (s.view inTransaction content)
  (r.1, s.put i r.2)

def onOwn {α : Type} (s : Seat) (f : Database Tables → α × Database Tables) : α × Seat :=
  s.on i (s.inTransaction i) (s.cache.own i) f

def schemaFault : String := "database schema is locked: main"

def control (c : Control) (s : Seat) : Except String Unit × Seat :=
  if s.cache.isSchemaLocked i then (.error schemaFault, s)
  else s.onOwn i (Tables.engine.library.control c)

def acquire (n : Need) (s : Seat) : Except Fault Unit × Seat :=
  match s.cache.start i n.forWriting with
  | .error f => (.error f, s)
  | .ok c =>
    if !n.forWriting && s.handle.settings.readUncommitted then (.ok (), { s with cache := c })
    else
      let r := c.lock i n.table n.forWriting
      (r.1, { s with cache := r.2 })

def run (sql : String) (params : List Value) (s : Seat) : Except Fault Reply × Seat :=
  let perform := Tables.engine.library.run sql params
  if s.cache.isSchemaLocked i then (.error (.refused schemaFault), s)
  else if (Tables.engine.control? sql).isSome then s.onOwn i perform
  else
    let within := s.inTransaction i
    match Tables.need? s.settings (s.shown i) sql params with
    | none => s.on i within (s.shown i) perform
    | some n =>
      match s.acquire i n with
      | (.ok _, s) => s.on i within (s.shown i) perform
      | (.error f, s) => s.on i within (s.cache.own i) fun d => (.error f, n.givenUp d)

def setBusyTimeout (ms : Nat) (s : Seat) : Except String Unit × Seat :=
  s.onOwn i (Tables.engine.library.setBusyTimeout ms)

def setPragma (name value : String) (s : Seat) : Except String Unit × Seat :=
  if Pragma.isIdentifier name.toList && s.cache.isSchemaLocked i then (.error schemaFault, s)
  else s.onOwn i (Tables.engine.library.setPragma name value)

def close (s : Seat) : Except String Unit × Seat := s.onOwn i Tables.engine.library.close

end Seat
end ConnPool.Sqlite
