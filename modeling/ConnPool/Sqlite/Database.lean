import ConnPool.Sqlite.Library

namespace ConnPool.Sqlite

structure Database (δ : Type) where
  content : δ
  /-- The content that a rollback returns to, while a transaction is open. -/
  saved : Option δ := none
  /-- Whether the open transaction has written anything. -/
  written : Bool := false
  settings : Settings := {}
  changes : Nat := 0
  deriving DecidableEq

namespace Database

variable {δ : Type}

def inTransaction (d : Database δ) : Bool := d.saved.isSome

def begin (d : Database δ) : Database δ :=
  match d.saved with
  | some _ => d
  | none => { d with saved := some d.content }

variable (engine : Engine δ)

/-- Returns to the content before the transaction; without a journal the present one stays. -/
def rollback (d : Database δ) : Database δ :=
  match d.saved with
  | some content =>
    { d with
      content := if d.settings.journaled then content else engine.released d.content
      saved := none
      written := false }
  | none => d

def commit (d : Database δ) : Except String (Database δ) :=
  match d.saved with
  | none => .ok d
  | some _ => (engine.settled d.content).map fun content =>
    { d with content, saved := none, written := false }

def reject (d : Database δ) (content : δ) : Database δ :=
  let d := { d with written := d.inTransaction }
  if d.settings.journaled then d
  else { d with content := if d.inTransaction then content else engine.released content }

def accept (d : Database δ) (content : δ) (changes : Nat) : Except Fault Reply × Database δ :=
  match d.saved with
  | some _ => (.ok .done, { d with content, changes, written := true })
  | none =>
    match engine.settled content with
    | .ok content => (.ok .done, { d with content, changes })
    | .error text => (.error (.violated text), { d.reject engine content with changes := 0 })

def control (d : Database δ) (c : Control) : Except String Unit × Database δ :=
  match c, d.saved with
  | .begin, none => (.ok (), d.begin)
  | .begin, some _ => (.error "cannot start a transaction within a transaction", d)
  | .commit, none => (.error "cannot commit - no transaction is active", d)
  | .commit, some _ =>
    match d.commit engine with
    | .ok d => (.ok (), d)
    | .error text => (.error text, d)
  | .rollback, none => (.error "cannot rollback - no transaction is active", d)
  | .rollback, some _ => (.ok (), d.rollback engine)

def run (d : Database δ) (sql : String) (params : List Value) :
    Except Fault Reply × Database δ :=
  match engine.control? sql with
  | some c =>
    match params with
    | [] =>
      match d.control engine c with
      | (.ok _, d) => (.ok .done, d)
      | (.error text, d) => (.error (.failed text), d)
    | _ => (.error (.parameters params.length 0), d)
  | none =>
    match engine.run d.settings d.content sql params with
    | .ok (.rows columns rows) => (.ok (.rows columns rows), d)
    | .ok (.defined content) => d.accept engine content d.changes
    | .ok (.changed content n) => d.accept engine content n
    | .ok .untouched => (.ok .done, { d with changes := 0 })
    | .ok (.rejected content text) =>
      (.error (.violated text), { d.reject engine content with changes := 0 })
    | .error (.violated text) => (.error (.violated text), { d with changes := 0 })
    | .error f => (.error f, d)

@[simp] theorem inTransaction_begin (d : Database δ) : d.begin.inTransaction = true := by
  cases h : d.saved <;> simp [begin, inTransaction, h]

@[simp] theorem inTransaction_rollback (d : Database δ) :
    (d.rollback engine).inTransaction = false := by
  cases h : d.saved <;> simp [rollback, inTransaction, h]

theorem inTransaction_of_commit {d d' : Database δ} (h : d.commit engine = .ok d') :
    d'.inTransaction = false := by
  cases hs : d.saved with
  | none =>
    simp only [commit, hs, Except.ok.injEq] at h
    simp [inTransaction, ← h, hs]
  | some saved =>
    cases hc : engine.settled d.content with
    | error text => simp [commit, hs, hc, Except.map] at h
    | ok content =>
      simp only [commit, hs, hc, Except.map, Except.ok.injEq] at h
      simp [inTransaction, ← h]

end Database
end ConnPool.Sqlite
