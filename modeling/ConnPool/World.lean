import ConnPool.Clock
import ConnPool.Json.Printer
import ConnPool.Scripted
import ConnPool.Sqlite.Databases
import ConnPool.Sqlite.Driver

namespace ConnPool

inductive Physical where
  | scripted (c : Scripted)
  | sqlite (s : Sqlite.Status)

namespace Physical

def driverName : Physical → String
  | scripted c => c.driver
  | sqlite _ => Sqlite.Connection.driverName

def isClosed : Physical → Bool
  | scripted c => c.isClosed
  | sqlite s => s.isClosed

/-- The number by which a scripted connection is known; basic ones keep theirs to themselves. -/
def index? : Physical → Option Nat
  | scripted c => if c.isBasic then none else some c.index
  | sqlite _ => none

end Physical

/-- Connections go by their place in the list of all connections. -/
structure World where
  clock : Clock := {}
  nextNumber : Nat := 1
  connections : List Physical := []
  databases : Sqlite.Databases := {}
  scripted : Nat := 0
  script : Script := {}
  /-- The calls on scripted connections, in order. -/
  log : List String := []

namespace World

def note (w : World) (line : String) : World := { w with log := w.log ++ [line] }

def noteCall (w : World) (index : Nat) (line : String) : World :=
  w.note ("c" ++ String.ofList (Text.ofNat index) ++ " " ++ line)

def add (w : World) (c : Physical) : ConnId × World :=
  (w.connections.length, { w with connections := w.connections ++ [c] })

def put (w : World) (i : ConnId) (c : Physical) : World :=
  { w with connections := w.connections.set i c }

def unknownConnection : Error := .connection "connection is closed"

def connectScripted (driver url : String) (p : Properties) : Action World ConnId := fun w =>
  let (faults, script) := w.script.take
  let w := { w with script }
  let line := "connect " ++ url ++ " " ++
    (Json.Tree.record (p.entries.map fun (k, v) => (k, .text v))).compact
  if faults.contains .refuse then
    (.fail (.connection ("connection refused: " ++ url)), w.note ("refused " ++ line))
  else
    let w := w.noteCall w.scripted line
    let added := w.add (.scripted (.ofFaults driver w.scripted faults))
    (.ok added.1, { added.2 with scripted := w.scripted + 1 })

def addSqlite (opens : Sqlite.Library Sqlite.Databases → Action Sqlite.Databases Unit) :
    Action World ConnId := fun w =>
  let r := opens (Sqlite.Databases.library w.connections.length) w.databases
  let w := { w with databases := r.2 }
  match r.1 with
  | .ok _ => (.ok (w.add (.sqlite {})).1, (w.add (.sqlite {})).2)
  | .error f => (.error f, w)

def onSqlite {α : Type} (i : ConnId) (s : Sqlite.Status)
    (a : Sqlite.Library Sqlite.Databases → Action (Sqlite.Connection Sqlite.Databases) α) :
    Action World α := fun w =>
  let r := a (Sqlite.Databases.library i) { s with store := w.databases }
  (r.1, { w with databases := r.2.store }.put i (.sqlite r.2.toStatus))

def connect (driver url : String) (p : Properties) : Action World ConnId :=
  if driver = Sqlite.Connection.driverName then addSqlite fun lib => Sqlite.connect lib url p
  else connectScripted driver url p

def acceptsUrl (driver url : String) : Bool :=
  if driver = Sqlite.Connection.driverName then Sqlite.acceptsUrl url
  else Scripted.acceptsUrl driver url

def call (i : ConnId) (k : Call) : Action World k.Answer := fun w =>
  match w.connections[i]? with
  | none => (.fail unknownConnection, w)
  | some (.scripted c) =>
    let logged := (c.line? k).elim w (w.noteCall c.index)
    ((c.call k).1, logged.put i (.scripted (c.call k).2))
  | some (.sqlite s) => onSqlite i s (fun lib => Sqlite.Connection.call lib k) w

def close (i : ConnId) : Action World Unit := fun w =>
  match w.connections[i]? with
  | none => (.ok (), w)
  | some (.scripted c) =>
    (c.close.1, (w.noteCall c.index "close").put i (.scripted c.close.2))
  | some (.sqlite s) => onSqlite i s Sqlite.Connection.close w

/-- Lets a connection go that nobody has closed. A handle of a database is closed by that. -/
def letGo (w : World) (i : ConnId) : World :=
  match w.connections[i]? with
  | some (.sqlite _) => (close i w).2
  | _ => w

def isClosed (w : World) (i : ConnId) : Bool := (w.connections[i]?).all Physical.isClosed

def driverName (w : World) (i : ConnId) : String :=
  ((w.connections[i]?).map Physical.driverName).getD ""

def index? (w : World) (i : ConnId) : Option Nat := (w.connections[i]?).bind Physical.index?

def readClock (w : World) : Nat × World := (w.clock.read.1, { w with clock := w.clock.read.2 })

def advanceTo (w : World) (t : Nat) : World := { w with clock := w.clock.advanceTo t }

def modifyScripted (w : World) (index : Nat) (f : Scripted → Scripted) : World :=
  { w with connections := w.connections.map fun
      | .scripted c => if c.index = index then .scripted (f c) else .scripted c
      | c => c }

/-- How sources and pools find this world. -/
def host : Host World where
  now := readClock
  instant w := w.clock.time
  serial _ w := (w.nextNumber, { w with nextNumber := w.nextNumber + 1 })
  acceptsUrl := acceptsUrl
  connect := connect
  call := call
  close := close
  isClosed i w := (w.isClosed i, w)
  driverName i w := w.driverName i

end World
end ConnPool
