import ConnPool.Error
import ConnPool.Properties
import ConnPool.Row

namespace ConnPool

/-- Physical connections go by number. -/
abbrev ConnId := Nat

inductive Call where
  | execute (sql : String) (params : List Value)
  | query (sql : String) (params : List Value)
  | autoCommit
  | setAutoCommit (on : Bool)
  | commit
  | rollback
  | setIsolation (level : Isolation)
  /-- In milliseconds. -/
  | setNetworkTimeout (timeout : UInt64)

abbrev Call.Answer : Call → Type
  | .execute .. => UInt64
  | .query .. => QueryResult
  | .autoCommit => Bool
  | _ => Unit

/-- A step on a world that may fail. What it did before stays done. -/
def Action (σ α : Type) : Type := σ → Outcome α × σ

namespace Action

def pure {σ α : Type} (a : α) : Action σ α := fun w => (.ok a, w)

def bind {σ α β : Type} (x : Action σ α) (f : α → Action σ β) : Action σ β := fun w =>
  match x w with
  | (.ok a, w) => f a w
  | (.error e, w) => (.error e, w)

instance {σ : Type} : Monad (Action σ) where
  pure := pure
  bind := bind

def lift {σ α : Type} (r : Outcome α) : Action σ α := fun w => (r, w)

def fail {σ α : Type} (e : Error) : Action σ α := lift (.fail e)

/-- Goes on whether the step fails or not. -/
def settle {σ α : Type} (x : Action σ α) (w : σ) : σ := (x w).2

theorem bind_of_ok {σ α β : Type} {x : Action σ α} {f : α → Action σ β} {w w' : σ} {a : α}
    (h : x w = (.ok a, w')) : (x >>= f) w = f a w' := by
  show (bind x f) w = _
  simp [bind, h]

theorem bind_of_error {σ α β : Type} {x : Action σ α} {f : α → Action σ β} {w w' : σ}
    {e : Failure} (h : x w = (.error e, w')) : (x >>= f) w = (.error e, w') := by
  show (bind x f) w = _
  simp [bind, h]

@[simp] theorem pure_apply {σ α : Type} (a : α) (w : σ) :
    (Pure.pure a : Action σ α) w = (.ok a, w) := rfl

end Action

/-- The world that drivers, connections and the clock act on is a value of `σ`; a host says how.
Nothing is promised about the answers. -/
structure Host (σ : Type) where
  /-- Reads the clock, in nanoseconds. -/
  now : σ → Nat × σ
  /-- The time by which deadlines are set; looking at it changes nothing. -/
  instant : σ → Nat
  /-- Takes the next number for a connection that a pool takes on. -/
  serial : ConnId → σ → Nat × σ
  acceptsUrl : String → String → Bool
  connect : String → String → Properties → Action σ ConnId
  call : ConnId → (c : Call) → Action σ c.Answer
  close : ConnId → Action σ Unit
  isClosed : ConnId → σ → Bool × σ
  driverName : ConnId → σ → String

def Host.rollbackIfNeeded {σ : Type} (host : Host σ) (c : ConnId) : Action σ Unit := do
  let committed ← host.call c .autoCommit
  if committed then pure () else host.call c .rollback

end ConnPool
