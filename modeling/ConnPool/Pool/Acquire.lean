import ConnPool.Pool.State

namespace ConnPool

/-- What one look at the pool finds. -/
inductive Candidate where
  | ready (r : Record)
  | mustWait

structure Checkout where
  /-- The user and password it is made for, if not those of the source. -/
  credentials : Option (String × String)
  started : Nat
  counted : Bool := false
  bad : Nat := 0
  deriving DecidableEq

structure Waiting where
  checkout : Checkout
  generation : UInt64
  since : Nat
  /-- When it looks again by itself. -/
  deadline : Option Nat
  deriving DecidableEq

/-- What is handed out: the connection, its number and the flag that says whether it may be
used. -/
structure Grant where
  conn : ConnId
  id : Nat
  flag : FlagId
  deriving DecidableEq

/-- How a checkout goes on until it ends or waits. -/
inductive Stretch where
  | done (r : Outcome Grant)
  | waits (w : Waiting)

namespace Site

variable {σ : Type} (host : Host σ)

def create (s : Site σ) : Outcome Record × Site σ :=
  match s.run (s.pool.source.openDefault host) with
  | (.error f, s) => (.error f, s)
  | (.ok c, s) => ((.ok (s.wrap host c).1), (s.wrap host c).2)

/-- Takes the connection of a checkout that is overdue. -/
def claim (s : Site σ) (oldest : Record) (rest : List Record) : Record × Site σ :=
  let time := s.now host
  let held := time.1 - oldest.checkoutAt
  let s := time.2.modify fun p => { p with active := rest }
  let s := s.count fun t => { t with
    claimedOverdue := t.claimedOverdue + 1
    overdueCheckoutTime := t.overdueCheckoutTime + held
    checkoutTime := t.checkoutTime + held }
  let s := s.settle (host.rollbackIfNeeded oldest.conn)
  s.rewrap host oldest

def nextCandidate (s : Site σ) : Outcome Candidate × Site σ :=
  match s.pool.idle with
  | r :: rest => (.ok (.ready r), s.modify fun p => { p with idle := rest })
  | [] =>
    if s.pool.active.length < s.pool.config.maxActive.toNat then
      ((s.create host).1.map .ready, (s.create host).2)
    else
      match s.pool.active with
      | [] => (.ok .mustWait, s)
      | oldest :: rest =>
        let time := s.now host
        if time.1 - oldest.checkoutAt > s.pool.config.maxCheckoutTime.toNat * nanosPerMilli then
          let claimed := time.2.claim host oldest rest
          (.ok (.ready claimed.1), claimed.2)
        else (.ok .mustWait, time.2)

/-- Whether a connection still answers. It is asked only where pings are enabled and it has been
unused for long enough; one that fails is closed. -/
def ping (s : Site σ) (r : Record) : Bool × Site σ :=
  let closed := host.isClosed r.conn s.world
  let s := { s with world := closed.2 }
  if closed.1 then (false, s)
  else if s.pool.config.pingEnabled then
    let time := s.now host
    if time.1 - r.lastUsedAt ≤ s.pool.config.pingNotUsedFor.toNat * nanosPerMilli then
      (true, time.2)
    else
      match time.2.run (do
        let _ ← host.call r.conn (.query s.pool.config.pingQuery [])
        host.rollbackIfNeeded r.conn) with
      | (.ok _, s) => (true, s)
      | (.error _, s) => (false, s.settle (host.close r.conn))
  else (true, s)

def validate (s : Site σ) (r : Record) : Bool × Site σ :=
  if s.pool.flags.isValid r.flag then s.ping host r else (false, s)

def codeFor (p : Pool) (c : Checkout) : TypeCode :=
  match c.credentials with
  | some (username, password) => .credentials p.source.url (some username) (some password)
  | none => p.expected

def grant (s : Site σ) (c : Checkout) (r : Record) : Grant × Site σ :=
  let s := s.settle (host.rollbackIfNeeded r.conn)
  let time := s.now host
  let r := (r.withTypeCode (codeFor s.pool c)).checkedOut time.1
  let s := time.2.modify fun p => { p with active := p.active ++ [r] }
  let s := s.count fun t => { t with requestCount := t.requestCount + 1 }
  let ended := s.now host
  (⟨r.conn, r.id, r.flag⟩,
    ended.2.count fun t => { t with requestTime := t.requestTime + (ended.1 - c.started) })

def wait (s : Site σ) (c : Checkout) : Waiting × Site σ :=
  let s := if c.counted then s else s.count fun t => { t with hadToWait := t.hadToWait + 1 }
  let patience := s.pool.config.timeToWait.toNat * nanosPerMilli
  let deadline := if patience = 0 then none else some (host.instant s.world + patience)
  let time := s.now host
  (⟨{ c with counted := true }, s.pool.generation, time.1, deadline⟩, time.2)

/-- Looks for a connection until a good one is found, the checkout has to wait, or more than
`spare` further connections have been bad. -/
def acquire : Nat → Checkout → Site σ → Stretch × Site σ
  | spare, c, s =>
    match s.nextCandidate host with
    | (.error f, s) => (.done (.error f), s)
    | (.ok .mustWait, s) => (.waits (s.wait host c).1, (s.wait host c).2)
    | (.ok (.ready r), s) =>
      match s.validate host r with
      | (true, s) => (.done (.ok (s.grant host c r).1), (s.grant host c r).2)
      | (false, s) =>
        let s := s.count fun t => { t with badConnections := t.badConnections + 1 }
        match spare with
        | 0 => (.done (.fail .poolExhausted), s)
        | spare + 1 => acquire spare { c with bad := c.bad + 1 } s

def proceed (s : Site σ) (c : Checkout) : Stretch × Site σ :=
  acquire host (s.pool.config.badConnectionLimit - c.bad) c s

def begin (s : Site σ) (credentials : Option (String × String)) : Stretch × Site σ :=
  let time := s.now host
  time.2.proceed host { credentials, started := time.1 }

/-- Goes on with a checkout that waited. It fails if there was an interruption. -/
def resume (s : Site σ) (w : Waiting) : Stretch × Site σ :=
  let time := s.now host
  let s := time.2.count fun t => { t with waitTime := t.waitTime + (time.1 - w.since) }
  if s.pool.generation = w.generation then s.proceed host w.checkout
  else (.done (.fail .poolUnknown), s)

end Site
end ConnPool
