import ConnPool.Pool.State

namespace ConnPool.Pool

inductive Setting where
  | source (s : Source.Setting)
  | config (c : PoolConfig)
  | maxActive (n : UInt64)
  | maxIdle (n : UInt64)
  | maxCheckoutTime (ms : UInt64)
  | timeToWait (ms : UInt64)
  | tolerance (n : UInt64)
  | pingQuery (sql : String)
  | pingEnabled (on : Bool)
  | pingNotUsedFor (ms : UInt64)

def withConfig (p : Pool) (c : PoolConfig) : Pool := { p with config := c }

def set (p : Pool) : Setting → Outcome Pool
  | .source s => .ok { p with source := p.source.set s }
  | .config c => .ok (p.withConfig c)
  | .maxActive n => (p.config.withMaxActive n).map p.withConfig
  | .maxIdle n => .ok (p.withConfig { p.config with maxIdle := n })
  | .maxCheckoutTime ms => .ok (p.withConfig { p.config with maxCheckoutTime := ms })
  | .timeToWait ms => .ok (p.withConfig { p.config with timeToWait := ms })
  | .tolerance n => .ok (p.withConfig { p.config with tolerance := n })
  | .pingQuery sql => .ok (p.withConfig { p.config with pingQuery := sql })
  | .pingEnabled on => .ok (p.withConfig { p.config with pingEnabled := on })
  | .pingNotUsedFor ms => .ok (p.withConfig { p.config with pingNotUsedFor := ms })

end ConnPool.Pool
