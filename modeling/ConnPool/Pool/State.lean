import ConnPool.Config.Pool
import ConnPool.Pool.Record
import ConnPool.Source
import ConnPool.Stats

namespace ConnPool

/-- What a pool counts. Times are in nanoseconds. -/
structure Tally where
  requestCount : Nat := 0
  requestTime : Nat := 0
  checkoutTime : Nat := 0
  claimedOverdue : Nat := 0
  overdueCheckoutTime : Nat := 0
  waitTime : Nat := 0
  hadToWait : Nat := 0
  badConnections : Nat := 0
  deriving DecidableEq

def nanosPerMilli : Nat := 1000000

structure Pool where
  source : Source
  config : PoolConfig
  /-- Connections for reuse, the one returned first in front. -/
  idle : List Record := []
  /-- Connections checked out, the oldest checkout in front. -/
  active : List Record := []
  tally : Tally := {}
  /-- The code of connections opened under the settings in force. -/
  expected : TypeCode
  /-- Counts interruptions. -/
  generation : UInt64 := 0
  flags : Flags := {}
  deriving DecidableEq

def Source.typeCode (s : Source) : TypeCode := .credentials s.url s.username s.password

namespace Pool

def ofSource (source : Source) (config : PoolConfig) : Pool :=
  { source, config, expected := source.typeCode }

/-- Cuts nanoseconds to milliseconds, at most 2^64 - 1. -/
def millis (ns : Nat) : UInt64 := UInt64.ofNat (min (ns / nanosPerMilli) (UInt64.size - 1))

def stats (p : Pool) : PoolStats :=
  { requestCount := .ofNat p.tally.requestCount
    requestTime := millis p.tally.requestTime
    checkoutTime := millis p.tally.checkoutTime
    claimedOverdue := .ofNat p.tally.claimedOverdue
    overdueCheckoutTime := millis p.tally.overdueCheckoutTime
    waitTime := millis p.tally.waitTime
    hadToWait := .ofNat p.tally.hadToWait
    badConnections := .ofNat p.tally.badConnections
    idleConnections := .ofNat p.idle.length
    activeConnections := .ofNat p.active.length }

def shown (p : Pool) : String :=
  Text.showRecord "PooledDataSource"
    [("source", p.source.shown), ("config", p.config.shown), ("stats", p.stats.shown)]

end Pool

/-- A pool in its world. -/
structure Site (σ : Type) where
  pool : Pool
  world : σ

namespace Site

variable {σ : Type}

def run {α : Type} (s : Site σ) (a : Action σ α) : Outcome α × Site σ :=
  ((a s.world).1, { s with world := (a s.world).2 })

def settle {α : Type} (s : Site σ) (a : Action σ α) : Site σ :=
  { s with world := a.settle s.world }

def modify (s : Site σ) (f : Pool → Pool) : Site σ := { s with pool := f s.pool }

def count (s : Site σ) (f : Tally → Tally) : Site σ :=
  s.modify fun p => { p with tally := f p.tally }

def revoke (s : Site σ) (flag : FlagId) : Site σ :=
  s.modify fun p => { p with flags := p.flags.revoke flag }

variable (host : Host σ)

def now (s : Site σ) : Nat × Site σ :=
  ((host.now s.world).1, { s with world := (host.now s.world).2 })

def wrap (s : Site σ) (c : ConnId) : Record × Site σ :=
  let time := s.now host
  let number := host.serial c time.2.world
  let flag := s.pool.flags.next
  (.fresh c number.1 flag time.1,
    { pool := { s.pool with flags := s.pool.flags.mint }, world := number.2 })

def rewrap (s : Site σ) (r : Record) : Record × Site σ :=
  let time := s.now host
  let flag := s.pool.flags.next
  (r.renew flag time.1,
    time.2.modify fun p => { p with flags := (p.flags.mint).revoke r.flag })

end Site
end ConnPool
