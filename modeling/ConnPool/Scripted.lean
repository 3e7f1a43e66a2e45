import ConnPool.Host

namespace ConnPool

inductive Script.Fault where
  | refuse
  | closed
  /-- It is opened with auto-commit off. -/
  | manual
  | broken
  | execute
  | query
  | commit
  | rollback
  | setAutoCommit
  | setIsolation
  | setNetworkTimeout
  | close
  | autoCommit
  deriving DecidableEq

namespace Script.Fault

def all : List Script.Fault :=
  [refuse, closed, manual, broken, execute, query, commit, rollback, setAutoCommit, setIsolation,
    setNetworkTimeout, close, autoCommit]

def name : Script.Fault → String
  | refuse => "refuse"
  | closed => "closed"
  | manual => "manual"
  | broken => "broken"
  | execute => "execute"
  | query => "query"
  | commit => "commit"
  | rollback => "rollback"
  | setAutoCommit => "set_auto_commit"
  | setIsolation => "set_isolation"
  | setNetworkTimeout => "set_network_timeout"
  | close => "close"
  | autoCommit => "auto_commit"

def ofName? (s : String) : Option Script.Fault := all.find? (·.name == s)

end Script.Fault

/-- The faults of the connections to come. -/
structure Script where
  /-- For the next ones, one after another. -/
  next : List (List Script.Fault) := []
  /-- For those after them. -/
  always : List Script.Fault := []
  deriving DecidableEq

def Script.take (s : Script) : List Script.Fault × Script :=
  match s.next with
  | [] => (s.always, s)
  | faults :: next => (faults, { s with next })

structure Scripted where
  driver : String
  /-- Counted over all scripted connections, from 0. -/
  index : Nat
  faults : List Script.Fault := []
  isClosed : Bool := false
  autoCommit : Bool := true
  deriving DecidableEq

namespace Scripted

/-- The driver whose connections have neither isolation levels nor timeouts. -/
def basicDriver : String := "basic"

def drivers : List String := ["mock", "other", basicDriver]

/-- URLs begin with `any:` or with the name of a driver. -/
def acceptsUrl (driver url : String) : Bool :=
  "any:".toList.isPrefixOf url.toList || (driver ++ ":").toList.isPrefixOf url.toList

def ofFaults (driver : String) (index : Nat) (faults : List Script.Fault) : Scripted :=
  { driver, index, faults, isClosed := faults.contains .closed,
    autoCommit := !faults.contains .manual }

def isBasic (c : Scripted) : Bool := c.driver == basicDriver

def addFaults (c : Scripted) (faults : List Script.Fault) : Scripted :=
  { c with faults := c.faults ++ faults }

def removeFaults (c : Scripted) (faults : List Script.Fault) : Scripted :=
  { c with faults := c.faults.filter fun f => !faults.contains f }

def guardFault (c : Scripted) (f : Script.Fault) : Outcome Unit :=
  if c.faults.contains f then .fail (.driver ("injected " ++ f.name)) else .ok ()

def guardOpen (c : Scripted) (f : Script.Fault) : Outcome Unit :=
  if c.isClosed then .fail (.connection "connection is closed")
  else if c.faults.contains .broken then .fail (.connection "connection reset by peer")
  else c.guardFault f

def echo (params : List Value) : QueryResult :=
  let names := (List.range params.length).map fun i => "p" ++ String.ofList (Text.ofNat i)
  ⟨names.zipIdx.map fun (name, i) => ⟨name, "ANY", UInt64.ofNat i⟩, [⟨names, params⟩]⟩

def statementLine (verb sql : String) (params : List Value) : String :=
  verb ++ " " ++ sql ++ String.join (params.map fun v => " [" ++ v.text ++ "]")

def line? (c : Scripted) : Call → Option String
  | .execute sql params => some (statementLine "execute" sql params)
  | .query sql params => some (statementLine "query" sql params)
  | .autoCommit => none
  | .setAutoCommit on => some ("set_auto_commit " ++ if on then "true" else "false")
  | .commit => some "commit"
  | .rollback => some "rollback"
  | .setIsolation level => if c.isBasic then none else some ("set_isolation " ++ level.name)
  | .setNetworkTimeout ms =>
    if c.isBasic then none
    else some ("set_network_timeout " ++ String.ofList (Text.ofNat ms.toNat))

def call (c : Scripted) : (k : Call) → Outcome k.Answer × Scripted
  | .execute _ params => ((c.guardOpen .execute).map fun _ => UInt64.ofNat params.length, c)
  | .query _ params => ((c.guardOpen .query).map fun _ => echo params, c)
  | .autoCommit => ((c.guardFault .autoCommit).map fun _ => c.autoCommit, c)
  | .setAutoCommit on =>
    match c.guardFault .setAutoCommit with
    | .ok _ => (.ok (), { c with autoCommit := on })
    | .error f => (.error f, c)
  | .commit => (c.guardOpen .commit, c)
  | .rollback => (c.guardOpen .rollback, c)
  | .setIsolation level =>
    if c.isBasic then
      (.fail (.notSupported (c.driver ++ " does not support isolation level " ++ level.name)), c)
    else (c.guardFault .setIsolation, c)
  | .setNetworkTimeout _ =>
    if c.isBasic then
      (.fail (.notSupported (c.driver ++ " does not support network timeouts")), c)
    else (c.guardFault .setNetworkTimeout, c)

def close (c : Scripted) : Outcome Unit × Scripted :=
  match c.guardFault .close with
  | .ok _ => (.ok (), { c with isClosed := true })
  | .error f => (.error f, c)

end Scripted
end ConnPool
