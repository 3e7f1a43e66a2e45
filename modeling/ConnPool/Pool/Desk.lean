import ConnPool.Pool.Release

namespace ConnPool

/-- A connection handed out, and whether its holder has given it back. -/
structure Lease where
  grant : Grant
  released : Bool := false
  deriving DecidableEq

structure Waiter where
  id : Nat
  waiting : Waiting
  /-- Whether it is to look again although its deadline has not come. -/
  woken : Bool := false
  deriving DecidableEq

/-- Leases go by their place in the list of all leases. -/
structure Desk (σ : Type) where
  site : Site σ
  /-- Whether somebody holds the pool and can ask it for connections. -/
  isHeld : Bool := true
  /-- Whether the pool still exists for its users. -/
  isOpen : Bool := true
  leases : List Lease := []
  /-- In the order in which they began to wait. -/
  waiters : List Waiter := []
  begun : Nat := 0

namespace Desk

def ofPool {σ : Type} (p : Pool) (w : σ) : Desk σ := { site := ⟨p, w⟩ }

def withWorld {σ τ : Type} (d : Desk τ) (w : σ) : Desk σ :=
  { site := ⟨d.site.pool, w⟩, isHeld := d.isHeld, isOpen := d.isOpen, leases := d.leases,
    waiters := d.waiters, begun := d.begun }

variable {σ : Type}

def pool (d : Desk σ) : Pool := d.site.pool

def isValid (d : Desk σ) (l : Lease) : Bool := d.pool.flags.isValid l.grant.flag

def afterStretch (d : Desk σ) (id : Nat) (r : Stretch × Site σ) :
    Option (Outcome Nat) × Desk σ :=
  match r.1 with
  | .done (.ok g) =>
    (some (.ok d.leases.length), { d with site := r.2, leases := d.leases ++ [⟨g, false⟩] })
  | .done (.error f) => (some (.error f), { d with site := r.2 })
  | .waits w => (none, { d with site := r.2, waiters := d.waiters ++ [⟨id, w, false⟩] })

def wakeAll (d : Desk σ) : Desk σ :=
  { d with waiters := d.waiters.map fun w => { w with woken := true } }

def markReleased (d : Desk σ) (i : Nat) : Desk σ :=
  { d with leases := d.leases.modify i fun l => { l with released := true } }

variable (host : Host σ)

def checkout (d : Desk σ) (credentials : Option (String × String)) :
    Option (Outcome Nat) × Desk σ :=
  afterStretch { d with begun := d.begun + 1 } d.begun (d.site.begin host credentials)

def drain (d : Desk σ) : Desk σ := { d with site := d.site.drain host }

/-- A pool that nobody holds goes away once no checkout waits at it. -/
def closeUnused (d : Desk σ) : Desk σ :=
  if d.isOpen && !d.isHeld && d.waiters.isEmpty then { d.drain host with isOpen := false } else d

def resume (d : Desk σ) (id : Nat) : Option (Outcome Nat) × Desk σ :=
  match d.waiters.find? (·.id == id) with
  | none => (none, d)
  | some w =>
    let r := afterStretch { d with waiters := d.waiters.eraseP (·.id == id) } id
      (d.site.resume host w.waiting)
    (r.1, r.2.closeUnused host)

/-- Gives a lease back to an open pool; a connection that is idle then wakes all that wait. -/
def giveBack (d : Desk σ) (l : Lease) : Desk σ :=
  let r := d.site.giveBack host l.grant.flag
  let d := { d with site := r.2 }
  if r.1 then d.wakeAll else d

def closeOrphan (d : Desk σ) (l : Lease) : Desk σ :=
  if d.isValid l then
    { d with site := (d.site.revoke l.grant.flag).settle (host.close l.grant.conn) }
  else d

/-- Gives a lease back, the first time. -/
def release (d : Desk σ) (i : Nat) : Desk σ :=
  match d.leases[i]? with
  | none => d
  | some l =>
    if l.released then d
    else if d.isOpen then (d.markReleased i).giveBack host l
    else (d.markReleased i).closeOrphan host l

/-- A call through a lease. It reaches the connection only while the lease is valid. -/
def call (d : Desk σ) (l : Lease) (c : Call) : Outcome c.Answer × Desk σ :=
  if d.isValid l then
    let r := d.site.run (host.call l.grant.conn c)
    (r.1, { d with site := r.2 })
  else (.fail .connectionInvalidated, d)

def isClosed (d : Desk σ) (l : Lease) : Bool × Desk σ :=
  if l.released || !d.isValid l then (true, d)
  else
    let r := host.isClosed l.grant.conn d.site.world
    (r.1, { d with site := { d.site with world := r.2 } })

def interrupt (d : Desk σ) : Desk σ := wakeAll { d with site := d.site.interrupt }

def shutdown (d : Desk σ) : Desk σ :=
  wakeAll { d with site := d.site.interrupt.drain host }

def configure (d : Desk σ) (setting : Pool.Setting) : Outcome Unit × Desk σ :=
  let r := d.site.configure host setting
  (r.1, { d with site := r.2 })

def letGo (d : Desk σ) : Desk σ := closeUnused host { d with isHeld := false }

inductive Event where
  | checkout (credentials : Option (String × String))
  | resume (id : Nat)
  | release (lease : Nat)
  | call (lease : Nat) (c : Call)
  | isClosed (lease : Nat)
  | interrupt
  | shutdown
  | drain
  | configure (setting : Pool.Setting)
  | letGo

def Event.isOfHolder : Event → Bool
  | .resume _ | .release _ | .call .. | .isClosed _ => false
  | _ => true

/-- Does what an event stands for; where nobody holds the pool, its holder does nothing. -/
def step (d : Desk σ) (e : Event) : Desk σ :=
  if e.isOfHolder && !d.isHeld then d
  else
    match e with
    | .checkout credentials => (d.checkout host credentials).2
    | .resume id => (d.resume host id).2
    | .release i => d.release host i
    | .call i c => (d.leases[i]?).elim d fun l => (d.call host l c).2
    | .isClosed i => (d.leases[i]?).elim d fun l => (d.isClosed host l).2
    | .interrupt => d.interrupt
    | .shutdown => d.shutdown host
    | .drain => d.drain host
    | .configure setting => (d.configure host setting).2
    | .letGo => d.letGo host

end Desk
end ConnPool
