import ConnPool.Sqlite.Cache

namespace ConnPool.Sqlite

structure Databases where
  caches : List Cache := []
  handles : ConnId → Option Handle := fun _ => none

namespace Databases

variable (i : ConnId)

def seat? (x : Databases) : Option Seat :=
  (x.handles i).bind fun h => (x.caches[h.cache]?).map fun c => ⟨c, h⟩

def cache (x : Databases) : Cache := ((x.seat? i).map (·.cache)).getD {}

/-- Whoever writes is in a transaction. -/
def inTransaction (x : Databases) : Bool :=
  (x.handles i).any (·.begun) || (x.cache i).isWriter i

def putHandle (x : Databases) (h : Option Handle) : Databases :=
  { x with handles := fun j => if j = i then h else x.handles j }

def putSeat (x : Databases) (s : Seat) : Databases :=
  { x.putHandle i (some s.handle) with caches := x.caches.set s.handle.cache s.cache }

def atSeat {α : Type} (x : Databases) (missing : α) (f : Seat → α × Seat) : α × Databases :=
  match x.seat? i with
  | none => (missing, x)
  | some s => ((f s).1, x.putSeat i (f s).2)

def leave (x : Databases) : Except String Unit × Databases :=
  let (r, x) := x.atSeat i (.ok ()) (Seat.close i)
  (r, { x.putHandle i none with caches := x.caches.map (·.without i) })

def find? (x : Databases) (name : String × String) : Option Nat :=
  x.caches.findIdx? fun c => c.name? == some name && c.users != []

/-- Opens a handle of a database, which is shared if it has a name. -/
def join (x : Databases) (p : Place) : Databases :=
  let x := (x.leave i).2
  let handle (n : Nat) : Handle := { cache := n, settings := p.settings }
  match p.name?.bind x.find? with
  | some n =>
    { x.putHandle i (some (handle n)) with
      caches := x.caches.modify n fun c => { c with users := i :: c.users } }
  | none =>
    { x.putHandle i (some (handle x.caches.length)) with
      caches := x.caches ++ [{
        name? := p.name?, users := [i], inMemory := p.settings.inMemory
        journal := p.settings.journal, readOnly := p.settings.readOnly }] }

def noHandle : String := "no database is open"

def library : Library Databases where
  inTransaction := inTransaction i
  control c x := x.atSeat i (.error noHandle) (Seat.control i c)
  run sql params x := x.atSeat i (.error (.refused noHandle)) (Seat.run i sql params)
  changes x := ((x.seat? i).map (·.handle.changes)).getD 0
  setBusyTimeout ms x := x.atSeat i (.error noHandle) (Seat.setBusyTimeout i ms)
  setPragma name value x := x.atSeat i (.error noHandle) (Seat.setPragma i name value)
  close x := x.leave i
  openInMemory x := (.ok (), x.join i {})
  openPath path x :=
    match placeOf path with
    | .ok place => (.ok (), x.join i place)
    | .error text => (.error text, x)
  hasDirectory path _ := Uri.isKnownDirectory path

end Databases
end ConnPool.Sqlite
