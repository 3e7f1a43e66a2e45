import ConnPool.Session.State

namespace ConnPool.Session

def conclude (s : Session) (n : Nat) (name : String) (manner : Manner) (r : Outcome Nat) :
    Outcome Obtained × Session :=
  match r with
  | .ok i => (.ok (s.obtained (.lease n i manner)), s.rebind name (.lease n i manner))
  | .error f => (.error f, s)

def resume (s : Session) (b : Blocked) : Session :=
  let r := s.atDesk b.desk fun d => d.resume World.host b.id
  let others := s.blocked.filter fun o => !o.isOf b.desk b.id
  match r.1 with
  | none => { r.2 with blocked := others ++ [b] }
  | some o =>
    let ended := { r.2 with blocked := others }.conclude b.desk b.name b.manner o
    { ended.2 with finished := ended.2.finished ++ [⟨b, ended.1⟩] }

def waiter? (s : Session) (b : Blocked) : Option Waiter :=
  (s.desk b.desk).waiters.find? (·.id == b.id)

/-- Runs woken checkouts one after another, at most so many, the longest wait first. -/
def runWoken : Nat → Session → Session
  | 0, s => s
  | n + 1, s =>
    match s.blocked.find? fun b => (s.waiter? b).any (·.woken) with
    | none => s
    | some b => runWoken n (s.resume b)

/-- Runs all woken checkouts. One that ends may wake the others, which bounds their number. -/
def settle (s : Session) : Session := s.runWoken (s.blocked.length * (s.blocked.length + 1))

def act {α : Type} (s : Session) (n : Nat) (f : Desk World → α × Desk World) : α × Session :=
  let r := s.atDesk n f
  (r.1, r.2.settle)

def bind (s : Session) (name : String) (h : Handle) : Session := (s.rebind name h).settle

/-- The earliest deadline; of equal ones, that of the wait that began first. -/
def nextTurn? (s : Session) : Option (Nat × Blocked) :=
  s.blocked.foldl (fun best b =>
    match (s.waiter? b).bind (·.waiting.deadline), best with
    | none, _ => best
    | some t, none => some (t, b)
    | some t, some (first, _) => if t < first then some (t, b) else best) none

def fire (s : Session) (deadline : Nat) (b : Blocked) : Session :=
  ({ s with world := s.world.advanceTo deadline }.resume b).settle

def fireUpTo (target : Nat) : Nat → Session → Session
  | 0, s => s
  | n + 1, s =>
    match s.nextTurn? with
    | none => s
    | some (t, b) => if t ≤ target then fireUpTo target n (s.fire t b) else s

def advance (s : Session) (span : Nat) : Session :=
  let target := s.world.clock.time + span
  let turns := s.blocked.length * (span / nanosPerMilli + 2)
  let s := s.fireUpTo target turns
  { s with world := s.world.advanceTo target }

/-- Begins a checkout. None is answered while it is blocked. -/
def start (n : Nat) (name : String) (manner : Manner) (credentials : Option (String × String)) :
    Action Session (Option Obtained) := fun s =>
  let r := s.atDesk n fun d => d.checkout World.host credentials
  match r.1 with
  | some o =>
    let concluded := r.2.conclude n name manner o
    (concluded.1.map some, concluded.2.settle)
  | none =>
    (.ok none, { r.2 with
      blocked := r.2.blocked ++ [⟨name, n, (s.desk n).begun, manner, s.everBlocked⟩]
      everBlocked := s.everBlocked + 1 })

def await (desk id : Nat) : Nat → Session → Outcome (Option Obtained) × Session
  | 0, s => (.ok none, s)
  | n + 1, s =>
    match s.nextTurn? with
    | none => (.ok none, s)
    | some (t, b) =>
      let s := s.fire t b
      match s.finished.find? (·.checkout.isOf desk id) with
      | some f =>
        (f.result.map some,
          { s with finished := s.finished.filter fun o => !o.checkout.isOf desk id })
      | none => await desk id n s

def patience : Nat := 40

/-- A checkout that lets time pass while it is blocked. -/
def checkout (n : Nat) (name : String) (manner : Manner)
    (credentials : Option (String × String)) : Action Session (Option Obtained) := fun s =>
  match start n name manner credentials s with
  | (.ok none, blocked) => await n (s.desk n).begun patience blocked
  | r => r

end ConnPool.Session
