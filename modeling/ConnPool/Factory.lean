import ConnPool.Config.Property
import ConnPool.Config.Toml
import ConnPool.Pool.State

namespace ConnPool

inductive FactoryKind where
  | unpooled
  | pooled
  deriving DecidableEq, Repr

namespace FactoryKind

def name : FactoryKind → String
  | unpooled => "UNPOOLED"
  | pooled => "POOLED"

def constant : FactoryKind → String
  | unpooled => "Unpooled"
  | pooled => "Pooled"

end FactoryKind

structure Factory where
  kind : FactoryKind
  driver : String
  config : SourceConfig := {}
  deriving DecidableEq

namespace Factory

/-- A setter of a factory. Where it fails, what it did before stays done. -/
abbrev Setter : Type := ExceptT Error (StateM Factory) Unit

def modifyConfig (change : SourceConfig → SourceConfig) : Setter :=
  modify fun f => { f with config := change f.config }

def setPoolProperty (key value : String) : Setter := do
  let copy := (← get).config.pool
  let pool ← copy.withProperty key value
  modifyConfig fun c => { c with pool }

/-- Sets one property that is not for the driver. Pool settings are known to pooled factories
only. -/
def propertySetter (key value : String) : Setter := do
  match key with
  | "driver" =>
    let used := (← get).driver
    if value ≠ used then throw (.configuration (.otherDriver value used))
  | "url" => modifyConfig fun c => { c with url := value }
  | "username" => modifyConfig fun c => { c with username := some value }
  | "password" => modifyConfig fun c => { c with password := some value }
  | "auto_commit" =>
    let on ← readBoolProperty key value
    modifyConfig fun c => { c with autoCommit := some on }
  | "default_transaction_isolation_level" =>
    let level ← Isolation.ofText value
    modifyConfig fun c => { c with isolation := some level }
  | "default_network_timeout_ms" =>
    let n ← readNumberProperty key value
    modifyConfig fun c => { c with networkTimeout := some n }
  | _ =>
    match (← get).kind with
    | .pooled => setPoolProperty key value
    | .unpooled => throw (.unknownProperty key)

def setProperty (f : Factory) (key value : String) : Except Error Unit × Factory :=
  propertySetter key value f

instance : CoeOut (Except Error Unit × Factory) (Except Error Factory) where
  coe r := r.1.map fun _ => r.2

/-- Sets properties one after another until one fails, and answers the driver's properties met on
the way, the last one first. -/
def setEach (f : Factory) : List (String × String) → List (String × String) →
    Except Error (List (String × String)) × Factory
  | [], forDriver => (.ok forDriver, f)
  | (key, value) :: rest, forDriver =>
    match driverKey? key with
    | some k => f.setEach rest ((k, value) :: forDriver)
    | none =>
      match f.setProperty key value with
      | (.error e, f) => (.error e, f)
      | (.ok _, f) => f.setEach rest forDriver

/-- Sets properties; those for the driver replace all that it had, if there are any and nothing
failed. -/
def setProperties (f : Factory) (properties : List (String × String)) :
    Except Error Unit × Factory :=
  match f.setEach properties [] with
  | (.error e, f) => (.error e, f)
  | (.ok [], f) => (.ok (), f)
  | (.ok forDriver, f) =>
    (.ok (), { f with config :=
      { f.config with driverProperties := .ofList forDriver.reverse } })

def withConfig (f : Factory) (config : SourceConfig) : Factory := { f with config }

def loadToml (f : Factory) (document : String) : Except Error Unit × Factory :=
  match SourceConfig.ofToml document with
  | .ok config => (.ok (), f.withConfig config)
  | .error e => (.error e, f)

def buildUnpooled (f : Factory) : Except Error Source :=
  let c := f.config
  if Text.trim c.url.toList = [] then .error (.configuration .urlRequired)
  else .ok {
    driver := f.driver, url := c.url, username := c.username, password := c.password
    driverProperties := c.driverProperties, autoCommit := c.autoCommit
    isolation := c.isolation, networkTimeout := c.networkTimeout }

def buildPooled (f : Factory) : Except Error Pool := do
  f.config.pool.validate
  let source ← f.buildUnpooled
  .ok (.ofSource source f.config.pool)

def shown (f : Factory) : String :=
  Text.showRecord "DataSourceFactory"
    [("kind", f.kind.constant), ("driver", Text.showText f.driver),
     ("url", Text.showText f.config.url)]

end Factory
end ConnPool
