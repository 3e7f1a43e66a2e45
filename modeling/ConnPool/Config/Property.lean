import ConnPool.Config.Source

namespace ConnPool

def notBool : String := "provided string was not `true` or `false`"

/-- A setting in a text, with blanks around it; what is wrong with it is told with the key. -/
def readProperty {α : Type} (read : List Char → Except String α) (key value : String) :
    Except Error α :=
  (read (Text.trim value.toList)).mapError fun reason =>
    .configuration (.badValue key value reason)

def readNumberProperty : String → String → Except Error UInt64 :=
  readProperty fun s => (Text.readUInt64 s).mapError Text.NumeralFault.message

def readBoolProperty : String → String → Except Error Bool :=
  readProperty fun s =>
    if s = "true".toList then .ok true
    else if s = "false".toList then .ok false
    else .error notBool

def PoolConfig.withProperty (c : PoolConfig) (key value : String) : Except Error PoolConfig :=
  match key with
  | "max_active_connections" => do
    let n ← readNumberProperty key value
    if n = 0 then .error (.configuration .noCapacity) else .ok { c with maxActive := n }
  | "max_idle_connections" =>
    (readNumberProperty key value).map fun n => { c with maxIdle := n }
  | "max_checkout_time_ms" =>
    (readNumberProperty key value).map fun n => { c with maxCheckoutTime := n }
  | "time_to_wait_ms" =>
    (readNumberProperty key value).map fun n => { c with timeToWait := n }
  | "max_local_bad_connection_tolerance" =>
    (readNumberProperty key value).map fun n => { c with tolerance := n }
  | "ping_query" => .ok { c with pingQuery := value }
  | "ping_enabled" => (readBoolProperty key value).map fun b => { c with pingEnabled := b }
  | "ping_connections_not_used_for_ms" =>
    (readNumberProperty key value).map fun n => { c with pingNotUsedFor := n }
  | _ => .error (.unknownProperty key)

def driverPropertyMark : String := "driver."

def driverKey? (key : String) : Option String :=
  let mark := driverPropertyMark.toList
  if mark.isPrefixOf key.toList then some (String.ofList (key.toList.drop mark.length)) else none

def PoolConfig.toProperties (c : PoolConfig) : List (String × String) :=
  [("max_active_connections", Text.showNat c.maxActive.toNat),
   ("max_idle_connections", Text.showNat c.maxIdle.toNat),
   ("max_checkout_time_ms", Text.showNat c.maxCheckoutTime.toNat),
   ("time_to_wait_ms", Text.showNat c.timeToWait.toNat),
   ("max_local_bad_connection_tolerance", Text.showNat c.tolerance.toNat),
   ("ping_query", c.pingQuery),
   ("ping_enabled", Text.showBool c.pingEnabled),
   ("ping_connections_not_used_for_ms", Text.showNat c.pingNotUsedFor.toNat)]

/-- The properties that express a configuration, with levels as `level` writes them; settings
that are left out have none. -/
def SourceConfig.toProperties (level : Isolation → String) (c : SourceConfig) :
    List (String × String) :=
  ("url", c.url) ::
    (c.username.toList.map fun s => ("username", s)) ++
    (c.password.toList.map fun s => ("password", s)) ++
    (c.autoCommit.toList.map fun b => ("auto_commit", Text.showBool b)) ++
    (c.isolation.toList.map fun l => ("default_transaction_isolation_level", level l)) ++
    (c.networkTimeout.toList.map fun n =>
      ("default_network_timeout_ms", Text.showNat n.toNat)) ++
    c.pool.toProperties ++
    (c.driverProperties.entries.map fun (k, v) => (driverPropertyMark ++ k, v))

end ConnPool
