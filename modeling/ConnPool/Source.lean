import ConnPool.Host
import ConnPool.Text.Shown

namespace ConnPool

structure Source where
  driver : String
  url : String
  username : Option String := none
  password : Option String := none
  driverProperties : Properties := .empty
  autoCommit : Option Bool := none
  isolation : Option Isolation := none
  /-- In milliseconds. -/
  networkTimeout : Option UInt64 := none
  deriving DecidableEq

namespace Source

def userProperty : String := "user"

def passwordProperty : String := "password"

def propertiesFor (s : Source) (username password : Option String) : Properties :=
  let p := s.driverProperties
  let p := username.elim p (p.insert userProperty)
  password.elim p (p.insert passwordProperty)

variable {σ : Type} (host : Host σ)

def applyTimeout (s : Source) (c : ConnId) : Action σ Unit :=
  match s.networkTimeout with
  | none => pure ()
  | some ms => host.call c (.setNetworkTimeout ms)

/-- Sets the auto-commit mode where it is another one. -/
def applyAutoCommit (s : Source) (c : ConnId) : Action σ Unit :=
  match s.autoCommit with
  | none => pure ()
  | some on => do
    let now ← host.call c .autoCommit
    if on = now then pure () else host.call c (.setAutoCommit on)

def applyIsolation (s : Source) (c : ConnId) : Action σ Unit :=
  match s.isolation with
  | none => pure ()
  | some l => host.call c (.setIsolation l)

def configure (s : Source) (c : ConnId) : Action σ Unit := do
  s.applyTimeout host c
  s.applyAutoCommit host c
  s.applyIsolation host c

/-- Opens a connection; credentials that are not given are left to the driver. -/
def «open» (s : Source) (username password : Option String) : Action σ ConnId :=
  if host.acceptsUrl s.driver s.url then do
    let c ← host.connect s.driver s.url (s.propertiesFor username password)
    s.configure host c
    pure c
  else .fail (.configuration (.foreignUrl s.driver s.url))

def openDefault (s : Source) : Action σ ConnId := s.open host s.username s.password

inductive Setting where
  | driver (name : String)
  | url (url : String)
  | username (name : Option String)
  | password (password : Option String)
  | driverProperties (p : Properties)
  | autoCommit (on : Option Bool)
  | isolation (level : Option Isolation)
  | networkTimeout (timeout : Option UInt64)

def set (s : Source) : Setting → Source
  | .driver name => { s with driver := name }
  | .url url => { s with url }
  | .username name => { s with username := name }
  | .password password => { s with password }
  | .driverProperties p => { s with driverProperties := p }
  | .autoCommit on => { s with autoCommit := on }
  | .isolation level => { s with isolation := level }
  | .networkTimeout timeout => { s with networkTimeout := timeout }

/-- The source on one line; the password and the values of properties stay hidden. -/
def shown (s : Source) : String :=
  Text.showRecord "UnpooledDataSource"
    [("driver", Text.showText s.driver),
     ("url", Text.showText s.url),
     ("username", Text.showOption Text.showText s.username),
     ("password", Text.showOption (fun _ => Text.showText "********") s.password),
     ("driver_properties", Text.showList (s.driverProperties.keys.map Text.showText)),
     ("auto_commit", Text.showOption Text.showBool s.autoCommit),
     ("default_isolation_level", Text.showOption Isolation.constant s.isolation),
     ("default_network_timeout",
        Text.showOption (fun ms => Text.showSpan (ms.toNat * 1000000)) s.networkTimeout)]

end Source
end ConnPool
