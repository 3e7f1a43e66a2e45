import ConnPool.Config.Pool
import ConnPool.Properties

namespace ConnPool

structure SourceConfig where
  url : String := ""
  username : Option String := none
  password : Option String := none
  autoCommit : Option Bool := none
  isolation : Option Isolation := none
  networkTimeout : Option UInt64 := none
  driverProperties : Properties := .empty
  pool : PoolConfig := {}
  deriving DecidableEq

namespace SourceConfig

instance : Inhabited SourceConfig := ⟨{}⟩

open Json in
def fields : List (Json.Field SourceConfig) :=
  [⟨"url", fun _ t c => (readText t).map fun s => { c with url := s }⟩,
   ⟨"username", fun _ t c => (readNullable readText t).map fun s => { c with username := s }⟩,
   ⟨"password", fun _ t c => (readNullable readText t).map fun s => { c with password := s }⟩,
   ⟨"auto_commit",
      fun _ t c => (readNullable readBool t).map fun b => { c with autoCommit := b }⟩,
   ⟨"default_transaction_isolation_level",
      fun r t c => (readNullable (readWord Isolation.ofKey? r) t).map
        fun l => { c with isolation := l }⟩,
   ⟨"default_network_timeout_ms",
      fun _ t c => (readNullable readUInt64 t).map fun n => { c with networkTimeout := n }⟩,
   ⟨"driver_properties",
      fun r t c => (readTexts r t).map fun es => { c with driverProperties := .ofList es }⟩,
   ⟨"pool", fun r t c => (PoolConfig.ofTree? r t).map fun p => { c with pool := p }⟩]

/-- Missing fields have their defaults. -/
def ofTree? (r : Json.Reading) (t : Json.Tree) : Option SourceConfig :=
  Json.readPartial fields {} r t

def toTree (c : SourceConfig) : Json.Tree :=
  .record
    [("url", .text c.url),
     ("username", .ofOption (c.username.map .text)),
     ("password", .ofOption (c.password.map .text)),
     ("auto_commit", .ofOption (c.autoCommit.map .bool)),
     ("default_transaction_isolation_level",
        .ofOption (c.isolation.map fun l => .text l.key)),
     ("default_network_timeout_ms",
        .ofOption (c.networkTimeout.map fun n => .nat n.toNat)),
     ("driver_properties",
        .record (c.driverProperties.entries.map fun (k, v) => (k, .text v))),
     ("pool", c.pool.toTree)]

def toJsonText (c : SourceConfig) : String := c.toTree.compact

def ofJson (s : String) : Except Error SourceConfig :=
  ((Json.Tree.parse s).bind (ofTree? .json)).elim (.error .json) .ok

end SourceConfig
end ConnPool
