import ConnPool.Session.Turns

namespace ConnPool.Session

def withLease {α : Type} (n i : Nat) (f : Lease → Desk World → Outcome α × Desk World) :
    Action Session α := fun s =>
  match s.lease? n i with
  | none => (.fail .connectionInvalidated, s)
  | some l => s.act n (f l)

def call (h : Handle) (k : Call) : Action Session k.Answer :=
  match h with
  | .lease n i _ => withLease n i fun l d => d.call World.host l k
  | .physical c => onWorld (World.call c k)

def close (h : Handle) : Action Session Unit :=
  match h with
  | .lease n i _ => fun s => s.act n fun d => (.ok (), d.release World.host i)
  | .physical c => onWorld (World.close c)

def isClosed (h : Handle) : Action Session Bool :=
  match h with
  | .lease n i _ => withLease n i fun l d => ((d.isClosed World.host l).map .ok id)
  | .physical c => fun s => (.ok (s.world.isClosed c), s)

/-- Gives a name up; a lease that goes out of sight is given back, and another connection is let
go. -/
def drop (name : String) (h : Handle) : Action Session Unit := fun s =>
  match h with
  | .lease .. => close h (s.unbind name)
  | .physical c => (.ok (), { s.unbind name with world := s.world.letGo c })

def isValid (s : Session) (h : Handle) : Bool :=
  match h with
  | .lease n i _ => (s.lease? n i).any (s.desk n).isValid
  | .physical _ => true

def id? (s : Session) : Handle → Option Nat
  | .lease n i _ => (s.lease? n i).map (·.grant.id)
  | .physical _ => none

def shown (s : Session) (h : Handle) : String :=
  Text.showRecord "ConnectionProxy"
    [("id", Text.showNat ((s.id? h).getD 0)), ("driver", Text.showText (s.driverName h)),
     ("valid", Text.showBool (s.isValid h))]

def unwrap (s : Session) (h : Handle) : Handle :=
  match h with
  | .lease _ _ .checkout => ((s.connection? h).map .physical).getD h
  | h => h

def onDatabase {α : Type} (h : Handle)
    (a : Sqlite.Library Sqlite.Databases → Action (Sqlite.Connection Sqlite.Databases) α) :
    Action Session α := fun s =>
  match (s.connection? h).bind fun c => (s.world.connections[c]?).map (c, ·) with
  | some (c, .sqlite d) => onWorld (World.onSqlite c d a) s
  | _ => (.fail World.unknownConnection, s)

def inTransaction (h : Handle) : Action Session Bool :=
  onDatabase h fun lib c => (.ok (c.inTransaction lib), c)

def named (name : String) (a : Action World ConnId) : Action Session Obtained := fun s =>
  match onWorld a s with
  | (.ok c, s) => (.ok (s.obtained (.physical c)), s.bind name (.physical c))
  | (.error f, s) => (.error f, s)

def connect (driver url : String) (p : Properties) (name : String) : Action Session Obtained :=
  named name (World.connect driver url p)

def openDatabase (path name : String) : Action Session Obtained :=
  named name (World.addSqlite fun lib => Sqlite.open lib path)

def openSource (source : Source) (username password : Option String) (name : String) :
    Action Session Obtained :=
  named name (source.open World.host username password)

def openFor (source : Source) (credentials : Option (String × String)) (name : String) :
    Action Session Obtained :=
  match credentials with
  | some (username, password) => openSource source (some username) (some password) name
  | none => openSource source source.username source.password name

end ConnPool.Session
