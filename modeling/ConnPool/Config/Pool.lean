import ConnPool.Error
import ConnPool.Json.Fields
import ConnPool.Text.Shown

namespace ConnPool

def noPingQuery : String := "NO PING QUERY SET"

/-- Sizes, times and validation of a pool. Times are in milliseconds. -/
structure PoolConfig where
  /-- How many connections may be checked out at once. -/
  maxActive : UInt64 := 10
  /-- How many connections are kept for reuse. -/
  maxIdle : UInt64 := 5
  /-- How long a connection may be held before another checkout may claim it. -/
  maxCheckoutTime : UInt64 := 20000
  /-- How long a checkout waits before it looks again; 0 waits until a connection is returned. -/
  timeToWait : UInt64 := 20000
  /-- Bad connections that one checkout puts up with beyond `maxIdle`. -/
  tolerance : UInt64 := 3
  /-- The query that validates a connection. -/
  pingQuery : String := noPingQuery
  pingEnabled : Bool := false
  /-- Only connections unused for longer than this are pinged. -/
  pingNotUsedFor : UInt64 := 0
  deriving DecidableEq, Repr

namespace PoolConfig

instance : Inhabited PoolConfig := ⟨{}⟩

/-- A limit of zero connections is a misuse. -/
def checkCapacity (maxActive : UInt64) : Outcome Unit :=
  if maxActive = 0 then .error (.panic "max_active must be greater than 0, got 0") else .ok ()

def ofLimits (maxActive maxIdle : UInt64) : Outcome PoolConfig := do
  checkCapacity maxActive
  .ok { maxActive, maxIdle }

def withMaxActive (c : PoolConfig) (maxActive : UInt64) : Outcome PoolConfig := do
  checkCapacity maxActive
  .ok { c with maxActive }

/-- How many bad connections one checkout may meet. A sum beyond 64 bits is a misuse, which aborts or
wraps according to how the program was built; here it is the sum. -/
def badConnectionLimit (c : PoolConfig) : Nat := c.maxIdle.toNat + c.tolerance.toNat

/-- What documents may get wrong beyond the types. -/
def validate (c : PoolConfig) : Except Error Unit :=
  if c.maxActive = 0 then .error (.configuration .noCapacity)
  else if c.pingEnabled ∧ Text.trim c.pingQuery.toList = [] then
    .error (.configuration .pingQueryRequired)
  else .ok ()

open Json in
def fields : List (Json.Field PoolConfig) :=
  [⟨"max_active_connections",
      fun _ t c => (readUInt64 t).map fun n => { c with maxActive := n }⟩,
   ⟨"max_idle_connections",
      fun _ t c => (readUInt64 t).map fun n => { c with maxIdle := n }⟩,
   ⟨"max_checkout_time_ms",
      fun _ t c => (readUInt64 t).map fun n => { c with maxCheckoutTime := n }⟩,
   ⟨"time_to_wait_ms",
      fun _ t c => (readUInt64 t).map fun n => { c with timeToWait := n }⟩,
   ⟨"max_local_bad_connection_tolerance",
      fun _ t c => (readUInt64 t).map fun n => { c with tolerance := n }⟩,
   ⟨"ping_query", fun _ t c => (readText t).map fun s => { c with pingQuery := s }⟩,
   ⟨"ping_enabled", fun _ t c => (readBool t).map fun b => { c with pingEnabled := b }⟩,
   ⟨"ping_connections_not_used_for_ms",
      fun _ t c => (readUInt64 t).map fun n => { c with pingNotUsedFor := n }⟩]

/-- Missing fields have their defaults. -/
def ofTree? (r : Json.Reading) (t : Json.Tree) : Option PoolConfig :=
  Json.readPartial fields {} r t

def toTree (c : PoolConfig) : Json.Tree :=
  .record
    [("max_active_connections", .nat c.maxActive.toNat),
     ("max_idle_connections", .nat c.maxIdle.toNat),
     ("max_checkout_time_ms", .nat c.maxCheckoutTime.toNat),
     ("time_to_wait_ms", .nat c.timeToWait.toNat),
     ("max_local_bad_connection_tolerance", .nat c.tolerance.toNat),
     ("ping_query", .text c.pingQuery),
     ("ping_enabled", .bool c.pingEnabled),
     ("ping_connections_not_used_for_ms", .nat c.pingNotUsedFor.toNat)]

def shown (c : PoolConfig) : String :=
  Text.showRecord "PoolConfig"
    [("max_active_connections", Text.showNat c.maxActive.toNat),
     ("max_idle_connections", Text.showNat c.maxIdle.toNat),
     ("max_checkout_time_ms", Text.showNat c.maxCheckoutTime.toNat),
     ("time_to_wait_ms", Text.showNat c.timeToWait.toNat),
     ("max_local_bad_connection_tolerance", Text.showNat c.tolerance.toNat),
     ("ping_query", Text.showText c.pingQuery),
     ("ping_enabled", Text.showBool c.pingEnabled),
     ("ping_connections_not_used_for_ms", Text.showNat c.pingNotUsedFor.toNat)]

def toJsonText (c : PoolConfig) : String := c.toTree.compact

def ofJson (s : String) : Except Error PoolConfig :=
  ((Json.Tree.parse s).bind (ofTree? .json)).elim (.error .json) .ok

end PoolConfig
end ConnPool
