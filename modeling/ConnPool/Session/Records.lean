import ConnPool.Session.Holders

namespace ConnPool.Session

def looseDesk : Nat := 0

def flags (s : Session) : Flags := (s.desk looseDesk).pool.flags

def setFlags (s : Session) (f : Flags) : Session :=
  let d := s.desk looseDesk
  s.putDesk looseDesk { d with site := d.site.modify fun p => { p with flags := f } }

def readClock (s : Session) : Nat × Session :=
  (s.world.readClock.1, { s with world := s.world.readClock.2 })

def record? (s : Session) (name : String) : Option Record := s.records.lookup name

def putRecord (s : Session) (name : String) (r : Record) : Session :=
  { s with records := (name, r) :: s.records.filter (·.1 != name) }

def dropRecord (s : Session) (name : String) : Session :=
  { s with records := s.records.filter (·.1 != name) }

/-- Opens a connection and records it. The number of the connection is answered. -/
def openRecord (driver url name : String) : Action Session Nat := fun s =>
  match onWorld (World.connect driver url .empty) s with
  | (.error f, s) => (.error f, s)
  | (.ok c, s) =>
    let time := s.readClock
    let id := s.recorded + 1
    let record := Record.fresh c id s.flags.next time.1
    (.ok id, { (time.2.setFlags s.flags.mint).putRecord name record with recorded := id })

def rewrapRecord (r : Record) (name : String) (s : Session) : Session :=
  let time := s.readClock
  (time.2.setFlags s.flags.mint).putRecord name (r.renew s.flags.next time.1)

def invalidateRecord (r : Record) (s : Session) : Session := s.setFlags (s.flags.revoke r.flag)

def markRecord (name : String) (r : Record) (s : Session) : Session :=
  let time := s.readClock
  time.2.putRecord name (r.checkedOut time.1)

def orphanRecord (r : Record) (name : String) (s : Session) : Obtained × Session :=
  let d := s.desk looseDesk
  let h := Handle.lease looseDesk d.leases.length .connection
  let s := s.putDesk looseDesk { d with leases := d.leases ++ [⟨⟨r.conn, r.id, r.flag⟩, false⟩] }
  (s.obtained h, s.bind name h)

def codeNumber : TypeCode → UInt64
  | .number n => n
  | .credentials .. => 0

structure RecordInfo where
  id : Nat
  isValid : Bool
  typeCode : UInt64
  driver : String
  isClosed : Bool
  createdAt : Nat
  lastUsedAt : Nat
  checkoutAt : Nat
  now : Nat

def recordInfo (r : Record) (s : Session) : RecordInfo × Session :=
  let time := s.readClock
  (⟨r.id, s.flags.isValid r.flag, codeNumber r.typeCode, s.world.driverName r.conn,
    s.world.isClosed r.conn, r.createdAt, r.lastUsedAt, r.checkoutAt, time.1⟩, time.2)

def RecordInfo.shown (i : RecordInfo) (r : Record) : String :=
  r.shown i.driver i.isValid i.typeCode.toNat (i.now - i.createdAt)

end ConnPool.Session
