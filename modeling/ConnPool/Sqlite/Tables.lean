import ConnPool.Sqlite.Engine
import ConnPool.Sqlite.Numeric
import ConnPool.Text.Utf8

namespace ConnPool.Sqlite

structure Table where
  name : String
  columns : List ColumnDef
  /-- By their key, or as they were inserted. -/
  rows : List (List Value) := []

namespace Table

def column? (t : Table) (name : String) : Option Nat := t.columns.findIdx? (·.name == name)

def key? (t : Table) : Option Nat := t.columns.findIdx? (·.isKey)

end Table

/-- A value as it is stored: numbers as integers or doubles, decimals and documents as texts. -/
def stored : Value → Value
  | .bool b => .int64 (if b then 1 else 0)
  | .int32 i => .int64 i.toInt64
  | .float64 x => if x.isNaN then .null else .float64 x
  | .decimal s => .string s
  | .json j => .string j.text
  | v => v

def numeric? (v : Value) : Option Numeric := Numeric.ofValue? (stored v)

def rowNumber? (v : Value) : Option Int64 := (numeric? v).bind Numeric.toInt64?

structure Tables where
  tables : List Table := []
  /-- The open transaction's balance of references without a row to refer to. -/
  dangling : Int := 0

namespace Tables

def find? (s : Tables) (name : String) : Option Table := s.tables.find? (·.name == name)

def put (s : Tables) (t : Table) : Tables :=
  { s with tables := s.tables.map fun o => if o.name == t.name then t else o }

def table (s : Tables) (name : String) : Except Fault Table :=
  match s.find? name with
  | some t => .ok t
  | none => .error (.refused ("no such table: " ++ name))

def hasRow (s : Tables) (table : String) (n : Int64) : Bool :=
  match s.find? table with
  | none => false
  | some t =>
    match t.key? with
    | none => false
    | some k => t.rows.any fun row => (row[k]?.bind rowNumber?) == some n

/-- Whether a value refers to a row that is there. NULL refers to nothing. -/
def refers (s : Tables) (p : Parent) (v : Value) : Bool :=
  v.isNull || match rowNumber? v with
    | some n => s.hasRow p.table n
    | none => false

def references (t : Table) : List (Nat × Parent) :=
  t.columns.zipIdx.filterMap fun (c, i) => c.parent.map (i, ·)

/-- The references between tables that go to one of them, and how many of their values equal one of
those numbers. -/
def referring (s : Tables) (name : String) (numbers : List Int64) : List (Parent × Nat) :=
  s.tables.flatMap fun t =>
    ((references t).filter (·.2.table == name)).map fun (i, p) =>
      (p, t.rows.countP fun row =>
        (row[i]?.bind numeric?).any fun x => numbers.any x.isEqual)

/-- The tables that a table refers to have to be there. -/
def checkParents (s : Tables) (settings : Settings) (t : Table) : Except Fault Unit :=
  if settings.foreignKeys then
    match (references t).find? fun (_, p) => (s.find? p.table).isNone with
    | some (_, p) => .error (.refused ("no such table: main." ++ p.table))
    | none => .ok ()
  else .ok ()

def foreignKeyFault : Fault := .violated "FOREIGN KEY constraint failed"

def insertRow (k : Nat) (n : Int64) (row : List Value) : List (List Value) → List (List Value)
  | [] => [row]
  | head :: rest =>
    match head[k]?.bind rowNumber? with
    | some m => if n < m then row :: head :: rest else head :: insertRow k n row rest
    | none => head :: insertRow k n row rest

def nextNumber (t : Table) (k : Nat) : Int64 :=
  let numbers := t.rows.filterMap fun row => row[k]?.bind rowNumber?
  match numbers with
  | [] => 1
  | n :: rest =>
    let largest := rest.foldl max n
    if largest < Int64.maxValue then largest + 1
    else
      let candidates := (List.range numbers.length).map fun i => Int64.maxValue / 2 - Int64.ofNat i
      (candidates.find? fun i => !numbers.contains i).getD largest

def withRow (t : Table) (row : List Value) : Except Fault (Table × Option Int64) :=
  match t.key? with
  | none => .ok ({ t with rows := t.rows ++ [row] }, none)
  | some k => do
    let given := row[k]?.getD .null
    let n ←
      if given.isNull then .ok (nextNumber t k)
      else (rowNumber? given).elim (.error (.violated "datatype mismatch")) .ok
    let name := ((t.columns[k]?).map (·.name)).getD ""
    if t.rows.any fun r => (r[k]?.bind rowNumber?) == some n then
      .error (.violated ("UNIQUE constraint failed: " ++ t.name ++ "." ++ name))
    else .ok ({ t with rows := insertRow k n (row.set k (.int64 n)) t.rows }, some n)

/-- The balance after a row came to a table: its own references that find no row, and those that
wait for its number. -/
def balanceInserted (s : Tables) (t : Table) (row : List Value) (number : Option Int64) :
    Except Fault Int := do
  let lost := (references t).filter fun (i, p) => !s.refers p (row[i]?.getD .null)
  if lost.any fun (_, p) => !p.deferred then .error foreignKeyFault
  else
    let waiting := (s.referring t.name number.toList).filter (·.1.deferred)
    .ok (waiting.foldl (fun n (_, found) => if n = 0 then 0 else n - found)
      (s.dangling + lost.length))

def insert (s : Tables) (settings : Settings) (t : Table) (row : List Value) :
    Except Fault Tables := do
  let (t, number) ← withRow t row
  let after := s.put t
  if settings.foreignKeys then
    .ok { after with dangling := ← after.balanceInserted t row number }
  else .ok after

def isRelated (s : Tables) (t : Table) : Bool :=
  (references t) ≠ [] || s.tables.any fun o => (references o).any (·.2.table == t.name)

/-- Empties a table. It must not stay so where that leaves references without their row, unless
they are checked later. Where there are references the rows go one by one, else all at once. -/
def clear (s : Tables) (settings : Settings) (t : Table) : Effect Tables :=
  let after := s.put { t with rows := [] }
  if settings.foreignKeys then
    let numbers := (t.key?.map fun k => t.rows.filterMap fun row => row[k]?.bind rowNumber?).getD []
    let left := after.referring t.name numbers
    if t.rows.isEmpty && s.isRelated t then .untouched
    else if left.any fun (p, found) => !p.deferred && found > 0 then
      .rejected after foreignKeyFault.message
    else
      let given := (references t).filter (·.2.deferred)
      let freed := t.rows.flatMap fun row =>
        given.filter fun (i, p) => !s.refers p (row[i]?.getD .null)
      let balance := freed.foldl (fun n _ => if n = 0 then 0 else n - 1) s.dangling
      let dangling := left.foldl (fun n (_, found) => n + found) balance
      .changed { after with dangling } t.rows.length
  else .changed after t.rows.length

/-- The content outside of transactions, where no reference waits for its row. -/
def released (s : Tables) : Tables := { s with dangling := 0 }

def unsettled? (s : Tables) : Option String :=
  if s.dangling > 0 then some foreignKeyFault.message else none

end Tables

def Expr.eval (params : List Value) : Expr → Except Fault Value
  | .number n => .ok (.int64 (Int64.ofNat n))
  | .parameter i => .ok (stored (params[i - 1]?.getD .null))
  | .blob bytes => .ok (.bytes bytes)
  | .text bytes => .ok (.string (Text.Utf8.decodeLossy bytes))
  | .magnitude n =>
    match int64OfInt? n.natAbs with
    | some i => .ok (.int64 i)
    | none => .error (.failed "integer overflow")

def dynamicType : String := "DYNAMIC"

def numberColumns (columns : List (String × String)) : List Column :=
  columns.zipIdx.map fun ((name, type), i) => ⟨name, type, UInt64.ofNat i⟩

def Settings.read? (s : Settings) (name : String) : Option (String × Value) :=
  match name.toLower with
  | "busy_timeout" => some ("timeout", .int64 (Int64.ofNat s.busyTimeout))
  | "foreign_keys" => some ("foreign_keys", stored (.bool s.foreignKeys))
  | "read_uncommitted" => some ("read_uncommitted", stored (.bool s.readUncommitted))
  | "journal_mode" => some ("journal_mode", .string s.journal.name)
  | _ => none

namespace Statement

def prepare (settings : Settings) (s : Tables) (sql : String) :
    Statement → Except Fault Unit
  | .create table _ =>
    match s.find? table with
    | some _ =>
      .error (.refused ("table " ++ table ++ " already exists" ++
        located sql "CREATE TABLE ".length))
    | none => .ok ()
  | .insert table values => do
    let t ← s.table table
    if values.length = t.columns.length then s.checkParents settings t
    else
      .error (.refused ("table " ++ table ++ " has " ++ Text.showNat t.columns.length ++
        " columns but " ++ Text.showNat values.length ++ " values were supplied"))
  | .delete table => do s.checkParents settings (← s.table table)
  | .count table => do
    let _ ← s.table table
  | .read table columns => do
    let t ← s.table table
    match (columns.getD []).find? fun c => (t.column? c).isNone with
    | some c => .error (.refused ("no such column: " ++ c))
    | none => .ok ()
  | _ => .ok ()

def selected (t : Table) (columns : Option (List String)) : List (ColumnDef × Nat) :=
  match columns with
  | none => t.columns.zipIdx
  | some names =>
    names.filterMap fun name => t.columns.zipIdx.find? fun (c, _) => c.name == name

def perform (settings : Settings) (s : Tables) (params : List Value) :
    Statement → Except Fault (Effect Tables)
  | .control _ => .ok (.rows [] [])
  | .pragma name =>
    match settings.read? name with
    | some (column, v) => .ok (.rows (numberColumns [(column, dynamicType)]) [[v]])
    | none => .ok (.rows [] [])
  | .create table columns =>
    if settings.readOnly then .error (.failed "attempt to write a readonly database")
    else .ok (.defined { s with tables := s.tables ++ [{ name := table, columns }] })
  | .insert table values => do
    let row ← values.mapM (Expr.eval params)
    .ok (.changed (← s.insert settings (← s.table table) row) 1)
  | .delete table => do
    .ok (s.clear settings (← s.table table))
  | .count table => do
    let t ← s.table table
    .ok (.rows (numberColumns [("COUNT(*)", dynamicType)])
      [[.int64 (Int64.ofNat t.rows.length)]])
  | .read table columns => do
    let t ← s.table table
    let chosen := selected t columns
    .ok (.rows (numberColumns (chosen.map fun (c, _) => (c.name, c.declared.getD dynamicType)))
      (t.rows.map fun row => chosen.map fun (_, i) => row[i]?.getD .null))
  | .compute items => do
    let values ← items.mapM fun (e, _) => e.eval params
    .ok (.rows (numberColumns (items.map fun (_, name) => (name, dynamicType))) [values])

end Statement

def Tables.engine : Engine Tables where
  empty := {}
  control? sql :=
    match Statement.ofSql? sql with
    | some (.control c) => some c
    | _ => none
  run settings s sql params :=
    match Statement.ofSql? sql with
    | none =>
      let first := ((tokens [] sql.toList).head?).getD ""
      .error (.refused ("near \"" ++ first ++ "\": syntax error" ++ located sql 0))
    | some statement => do
      statement.prepare settings s sql
      if params.length = statement.needed then statement.perform settings s params
      else .error (.parameters params.length statement.needed)
  released := Tables.released
  unsettled? := Tables.unsettled?

end ConnPool.Sqlite
