import ConnPool.Factory
import ConnPool.Pool.Desk
import ConnPool.World

namespace ConnPool

inductive Manner where
  | checkout
  | connection
  deriving DecidableEq

inductive Handle where
  | lease (desk index : Nat) (manner : Manner)
  | physical (c : ConnId)
  deriving DecidableEq

inductive Obtained where
  /-- The number of the pooled connection, and that of the scripted one behind it. -/
  | checkout (id : Nat) (index : Option Nat)
  | connection (driver : String)

structure Blocked where
  name : String
  desk : Nat
  id : Nat
  manner : Manner
  before : Nat

namespace Blocked

def isOf (b : Blocked) (desk id : Nat) : Bool := b.desk == desk && b.id == id

def isOlder (a b : Blocked) : Bool := a.before ≤ b.before

end Blocked

structure Finished where
  checkout : Blocked
  result : Outcome Obtained

inductive Origin where
  | source (s : Source)
  | desk (n : Nat)

/-- A desk that belongs to no pool. -/
def Desk.loose : Desk Unit :=
  { Desk.ofPool (.ofSource { driver := "", url := "" } {}) () with
    isHeld := false
    isOpen := false }

structure Session where
  world : World := {}
  /-- The first one keeps the checkouts that belong to no pool. -/
  desks : List (Desk Unit) := [.loose]
  pool : Option Nat := none
  source : Option Source := none
  factory : Option Factory := none
  origins : List (String × Origin) := []
  connections : List (String × Handle) := []
  /-- In the order in which their present waits began. -/
  blocked : List Blocked := []
  everBlocked : Nat := 0
  finished : List Finished := []
  records : List (String × Record) := []
  recorded : Nat := 0

namespace Session

def desk (s : Session) (n : Nat) : Desk World := ((s.desks[n]?).getD .loose).withWorld s.world

def putDesk (s : Session) (n : Nat) (d : Desk World) : Session :=
  { s with world := d.site.world, desks := s.desks.set n (d.withWorld ()) }

def addDesk (s : Session) (p : Pool) : Nat × Session :=
  (s.desks.length, { s with desks := s.desks ++ [.ofPool p ()] })

def onWorld {α : Type} (a : Action World α) : Action Session α := fun s =>
  ((a s.world).1, { s with world := (a s.world).2 })

def handle? (s : Session) (name : String) : Option Handle := s.connections.lookup name

def unbind (s : Session) (name : String) : Session :=
  { s with connections := s.connections.filter (·.1 != name) }

def atDesk {α : Type} (s : Session) (n : Nat) (f : Desk World → α × Desk World) : α × Session :=
  let r := f (s.desk n)
  (r.1, s.putDesk n r.2)

def rebind (s : Session) (name : String) (h : Handle) : Session :=
  let named := { s.unbind name with connections := (name, h) :: (s.unbind name).connections }
  match s.handle? name with
  | some (.lease n i _) => (named.atDesk n fun d => ((), d.release World.host i)).2
  | some (.physical c) => { named with world := named.world.letGo c }
  | none => named

def lease? (s : Session) (n i : Nat) : Option Lease := (s.desk n).leases[i]?

def connection? (s : Session) : Handle → Option ConnId
  | .lease n i _ => (s.lease? n i).map (·.grant.conn)
  | .physical c => some c

def driverName (s : Session) (h : Handle) : String :=
  ((s.connection? h).map s.world.driverName).getD ""

def index? (s : Session) (h : Handle) : Option Nat := (s.connection? h).bind s.world.index?

def obtained (s : Session) (h : Handle) : Obtained :=
  match h with
  | .lease n i .checkout =>
    .checkout (((s.lease? n i).map (·.grant.id)).getD 0) (s.index? h)
  | _ => .connection (s.driverName h)

def pool? (s : Session) : Option Pool := s.pool.map fun n => (s.desk n).pool

structure Report where
  log : List String
  finished : List Finished
  stats : Option PoolStats

def report (s : Session) : Report × Session :=
  (⟨s.world.log, s.finished, s.pool?.map (·.stats)⟩,
    { s with finished := [], world := { s.world with log := [] } })

def pending (s : Session) : List String := (s.blocked.mergeSort Blocked.isOlder).map (·.name)

end Session
end ConnPool
