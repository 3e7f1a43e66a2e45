import ConnPool.Error
import ConnPool.Json.Fields
import ConnPool.Text.Shown

namespace ConnPool

/-- A snapshot of a pool's counters. Times are in milliseconds. -/
structure PoolStats where
  /-- Checkouts served. -/
  requestCount : UInt64 := 0
  /-- Time spent in checkouts served. -/
  requestTime : UInt64 := 0
  /-- Time that connections were held. -/
  checkoutTime : UInt64 := 0
  /-- Connections claimed from holders that were overdue. -/
  claimedOverdue : UInt64 := 0
  /-- Time that those connections were held. -/
  overdueCheckoutTime : UInt64 := 0
  /-- Time that checkouts waited. -/
  waitTime : UInt64 := 0
  /-- Checkouts that had to wait. -/
  hadToWait : UInt64 := 0
  /-- Connections found bad. -/
  badConnections : UInt64 := 0
  idleConnections : UInt64 := 0
  activeConnections : UInt64 := 0
  deriving DecidableEq, Repr

namespace PoolStats

/-- A quotient of counters, 0 where nothing was counted. -/
def average (total count : UInt64) : UInt64 :=
  if count = 0 then 0 else total / count

def averageRequestTime (s : PoolStats) : UInt64 := average s.requestTime s.requestCount

def averageWaitTime (s : PoolStats) : UInt64 := average s.waitTime s.hadToWait

def averageCheckoutTime (s : PoolStats) : UInt64 := average s.checkoutTime s.requestCount

def averageOverdueCheckoutTime (s : PoolStats) : UInt64 :=
  average s.overdueCheckoutTime s.claimedOverdue

def total (s : PoolStats) : UInt64 := s.idleConnections + s.activeConnections

/-- The part of the tracked connections that is checked out, 0 where none is tracked. -/
def utilization (s : PoolStats) : Double :=
  if s.total = 0 then .ofRatio false 0 1
  else
    let active := (Double.ofRatio false s.activeConnections.toNat 1).ratio
    let total := (Double.ofRatio false s.total.toNat 1).ratio
    .ofRatio false (active.1 * total.2) (active.2 * total.1)

def lines (s : PoolStats) : List (String × UInt64) :=
  [("activeConnections", s.activeConnections),
   ("idleConnections", s.idleConnections),
   ("requestCount", s.requestCount),
   ("averageRequestTime", s.averageRequestTime),
   ("averageCheckoutTime", s.averageCheckoutTime),
   ("claimedOverdue", s.claimedOverdue),
   ("averageOverdueCheckoutTime", s.averageOverdueCheckoutTime),
   ("hadToWait", s.hadToWait),
   ("averageWaitTime", s.averageWaitTime),
   ("badConnectionCount", s.badConnections)]

def line (label : String) (n : UInt64) : String :=
  String.ofList (' ' :: label.toList ++ List.replicate (31 - label.length) ' ' ++
    Text.ofNat n.toNat ++ ['\n'])

def report (s : PoolStats) : String :=
  "===STATUS=====================================================\n" ++
    String.join (s.lines.map fun (label, n) => line label n) ++
    "==============================================================="

open Json in
def fields : List (Json.Field PoolStats) :=
  [⟨"request_count", fun _ t s => (readUInt64 t).map fun n => { s with requestCount := n }⟩,
   ⟨"accumulated_request_time_ms",
      fun _ t s => (readUInt64 t).map fun n => { s with requestTime := n }⟩,
   ⟨"accumulated_checkout_time_ms",
      fun _ t s => (readUInt64 t).map fun n => { s with checkoutTime := n }⟩,
   ⟨"claimed_overdue_connection_count",
      fun _ t s => (readUInt64 t).map fun n => { s with claimedOverdue := n }⟩,
   ⟨"accumulated_checkout_time_of_overdue_connections_ms",
      fun _ t s => (readUInt64 t).map fun n => { s with overdueCheckoutTime := n }⟩,
   ⟨"accumulated_wait_time_ms",
      fun _ t s => (readUInt64 t).map fun n => { s with waitTime := n }⟩,
   ⟨"had_to_wait_count", fun _ t s => (readUInt64 t).map fun n => { s with hadToWait := n }⟩,
   ⟨"bad_connection_count",
      fun _ t s => (readUInt64 t).map fun n => { s with badConnections := n }⟩,
   ⟨"idle_connection_count",
      fun _ t s => (readUInt64 t).map fun n => { s with idleConnections := n }⟩,
   ⟨"active_connection_count",
      fun _ t s => (readUInt64 t).map fun n => { s with activeConnections := n }⟩]

def entries (s : PoolStats) : List (String × UInt64) :=
  [("request_count", s.requestCount),
   ("accumulated_request_time_ms", s.requestTime),
   ("accumulated_checkout_time_ms", s.checkoutTime),
   ("claimed_overdue_connection_count", s.claimedOverdue),
   ("accumulated_checkout_time_of_overdue_connections_ms", s.overdueCheckoutTime),
   ("accumulated_wait_time_ms", s.waitTime),
   ("had_to_wait_count", s.hadToWait),
   ("bad_connection_count", s.badConnections),
   ("idle_connection_count", s.idleConnections),
   ("active_connection_count", s.activeConnections)]

def shown (s : PoolStats) : String :=
  Text.showRecord "PoolStats" (s.entries.map fun (k, n) => (k, Text.showNat n.toNat))

/-- Every field has to be there. -/
def ofTree? (r : Json.Reading) (t : Json.Tree) : Option PoolStats :=
  Json.readWhole fields {} r t

def toTree (s : PoolStats) : Json.Tree :=
  .record (s.entries.map fun (k, n) => (k, .nat n.toNat))

def toJsonText (s : PoolStats) : String := s.toTree.compact

def ofJson (s : String) : Except Error PoolStats :=
  ((Json.Tree.parse s).bind (ofTree? .json)).elim (.error .json) .ok

end PoolStats
end ConnPool
