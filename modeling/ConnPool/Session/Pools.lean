import ConnPool.Session.Holders

namespace ConnPool.Session

def ofPool (world : World) (p : Pool) : Session :=
  let added := addDesk { world } p
  { added.2 with pool := some added.1 }

def onPool (f : Desk World → Desk World) : Action Session Unit := fun s =>
  match s.pool with
  | none => (.ok (), s)
  | some n => s.act n fun d => (.ok (), f d)

def interruptPool : Action Session Unit := onPool (·.interrupt)

def shutdownPool : Action Session Unit := onPool (·.shutdown World.host)

def drainPool : Action Session Unit := onPool (·.drain World.host)

def configurePool (setting : Pool.Setting) : Action Session Unit := fun s =>
  match s.pool with
  | none => (.ok (), s)
  | some n => s.act n fun d => d.configure World.host setting

def letDeskGo (s : Session) (n : Nat) : Session :=
  (s.act n fun d => ((), d.letGo World.host)).2

def dropPool (s : Session) : Session :=
  match s.pool with
  | none => s
  | some n => { s.letDeskGo n with pool := none }

def replacePool (s : Session) (p : Pool) : Session :=
  let added := s.addDesk p
  { added.2.dropPool with pool := some added.1 }

def onFactory (f : Factory → Except Error Unit × Factory) : Action Session Unit := fun s =>
  match s.factory with
  | none => (.ok (), s)
  | some factory =>
    ((f factory).1.mapError .error, { s with factory := some (f factory).2 })

/-- Gives a factory the configuration of a document, if it can be read. -/
def configureBy (document : String) (f : Factory) : Except Error Unit × Factory :=
  match SourceConfig.ofJson document with
  | .ok config => (.ok (), f.withConfig config)
  | .error e => (.error e, f)

def buildPool (f : Factory) : Action Session Unit := fun s =>
  match f.buildPooled with
  | .ok p => (.ok (), s.replacePool p)
  | .error e => (.fail e, s)

def nameOrigin (s : Session) (name : String) (o : Origin) : Session :=
  let s :=
    match s.origins.lookup name with
    | some (.desk n) => s.letDeskGo n
    | _ => s
  { s with origins := (name, o) :: s.origins.filter (·.1 != name) }

def buildOrigin (f : Factory) (name : String) : Action Session Unit := fun s =>
  match f.kind with
  | .unpooled =>
    match f.buildUnpooled with
    | .ok source => (.ok (), s.nameOrigin name (.source source))
    | .error e => (.fail e, s)
  | .pooled =>
    match f.buildPooled with
    | .ok p =>
      let added := s.addDesk p
      (.ok (), added.2.nameOrigin name (.desk added.1))
    | .error e => (.fail e, s)

def connectionFrom (o : Origin) (credentials : Option (String × String)) (name : String) :
    Action Session (Option Obtained) :=
  match o with
  | .source source => do
    let obtained ← openFor source credentials name
    pure (some obtained)
  | .desk n => checkout n name .connection credentials

end ConnPool.Session
