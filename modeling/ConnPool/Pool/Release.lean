import ConnPool.Pool.Acquire
import ConnPool.Pool.Setting

namespace ConnPool

namespace Pool

def activeWith? (p : Pool) (flag : FlagId) : Option Record := p.active.find? (·.flag == flag)

/-- Whether a connection that comes back is kept. -/
def keeps (p : Pool) (r : Record) : Bool :=
  p.idle.length < p.config.maxIdle.toNat && r.typeCode == p.expected

def addIdle (p : Pool) (r : Record) : Pool := { p with idle := p.idle ++ [r] }

def removeActive (p : Pool) (flag : FlagId) : Pool :=
  { p with active := p.active.eraseP (·.flag == flag) }

end Pool

namespace Site

variable {σ : Type} (host : Host σ)

def countBad (s : Site σ) : Site σ :=
  s.count fun t => { t with badConnections := t.badConnections + 1 }

/-- Takes back the connection that was handed out with a flag. Answers whether it is idle now. -/
def giveBack (s : Site σ) (flag : FlagId) : Bool × Site σ :=
  match s.pool.activeWith? flag with
  | none => (false, s.countBad)
  | some r =>
    match (s.modify (·.removeActive flag)).validate host r with
    | (false, s) => (false, s.countBad)
    | (true, s) =>
      let time := s.now host
      let s := time.2.count fun t =>
        { t with checkoutTime := t.checkoutTime + (time.1 - r.checkoutAt) }
      let s := s.settle (host.rollbackIfNeeded r.conn)
      if s.pool.keeps r then
        let fresh := s.rewrap host r
        (true, fresh.2.modify (·.addIdle fresh.1))
      else (false, (s.settle (host.close r.conn)).revoke r.flag)

/-- Revokes a record, rolls its connection back and closes it, whatever fails. -/
def discard (s : Site σ) (r : Record) : Site σ :=
  let s := s.revoke r.flag
  let s := s.settle (host.rollbackIfNeeded r.conn)
  s.settle (host.close r.conn)

/-- Discards all connections, active ones first, the youngest in front. -/
def drain (s : Site σ) : Site σ :=
  let tracked := s.pool.active.reverse ++ s.pool.idle.reverse
  let s := s.modify fun p =>
    { p with expected := p.source.typeCode, active := [], idle := [] }
  tracked.foldl (fun s r => s.discard host r) s

def interrupt (s : Site σ) : Site σ :=
  s.modify fun p => { p with generation := p.generation + 1 }

/-- Changes a setting and drains the pool; a misuse does neither. -/
def configure (s : Site σ) (setting : Pool.Setting) : Outcome Unit × Site σ :=
  match s.pool.set setting with
  | .error f => (.error f, s)
  | .ok p => (.ok (), { s with pool := p }.drain host)

end Site
end ConnPool
