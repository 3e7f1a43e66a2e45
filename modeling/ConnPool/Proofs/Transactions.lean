import ConnPool.Sqlite.Connection

namespace ConnPool

def Call.sql? : Call → Option String
  | .execute sql _ | .query sql _ => some sql
  | _ => none

/-- A call that runs a statement of some kind or is about transactions. -/
def Call.IsPlain (plain : String → Prop) : Call → Prop
  | .execute sql _ | .query sql _ => plain sql
  | .setAutoCommit _ | .commit | .rollback => True
  | _ => False

theorem Call.IsPlain.mono {plain plain' : String → Prop} (h : ∀ sql, plain sql → plain' sql) :
    ∀ {k : Call}, k.IsPlain plain → k.IsPlain plain'
  | .execute sql _, hk | .query sql _, hk => h sql hk
  | .setAutoCommit _, _ | .commit, _ | .rollback, _ => trivial

instance {plain : String → Prop} [DecidablePred plain] : DecidablePred (Call.IsPlain plain)
  | .execute sql _ | .query sql _ => inferInstanceAs (Decidable (plain sql))
  | .setAutoCommit _ | .commit | .rollback => isTrue trivial
  | .autoCommit | .setIsolation _ | .setNetworkTimeout _ => isFalse id

namespace Sqlite

variable {ℓ κ : Type}

/-- What can be told of a handle from what its library keeps. -/
structure Observer (ℓ κ : Type) where
  /-- What is committed, with what the handle itself has written since. -/
  own : ℓ → κ
  committed : ℓ → κ
  /-- What is written can be taken back. -/
  journaled : ℓ → Prop

structure Observer.Same (o : Observer ℓ κ) (s t : ℓ) : Prop where
  own : o.own t = o.own s
  committed : o.committed t = o.committed s
  journaled : o.journaled t ↔ o.journaled s

/-- Without a transaction a handle has nothing of its own. -/
def Observer.Clean (o : Observer ℓ κ) (lib : Library ℓ) (s : ℓ) : Prop :=
  lib.inTransaction s = false → o.own s = o.committed s

/-- How transactions begin and end, as long as no statement that is run is about them. Anything may
fail, and what fails may end the transaction as well. -/
structure Library.Transacts (lib : Library ℓ) (o : Observer ℓ κ) (plain : String → Prop) :
    Prop where
  begins : ∀ {s t}, lib.inTransaction s = false → lib.control .begin s = (.ok (), t) →
    lib.inTransaction t = true
  begins_same : ∀ {s}, lib.inTransaction s = false → o.Same s (lib.control .begin s).2
  ends : ∀ {c s t}, c ≠ .begin → lib.inTransaction s = true → lib.control c s = (.ok (), t) →
    lib.inTransaction t = false
  ends_clean : ∀ {c s}, c ≠ .begin → lib.inTransaction s = true → o.Clean lib (lib.control c s).2
  /-- Nothing is committed but by a `COMMIT` that succeeds. -/
  ends_kept : ∀ {c s r t}, c ≠ .begin → lib.inTransaction s = true → o.journaled s →
    lib.control c s = (r, t) → (c = .commit → r ≠ .ok ()) → o.committed t = o.committed s
  runs : ∀ {sql params s r t}, plain sql → lib.inTransaction s = true →
    lib.run sql params s = (.ok r, t) → lib.inTransaction t = true
  runs_clean : ∀ {sql params s}, plain sql → o.Clean lib s → o.Clean lib (lib.run sql params s).2
  runs_kept : ∀ {sql params s}, plain sql → lib.inTransaction s = true → o.journaled s →
    o.committed (lib.run sql params s).2 = o.committed s
  /-- Without a transaction a statement has one for itself. -/
  runs_alone : ∀ {sql params s}, plain sql → lib.inTransaction s = false →
    lib.inTransaction (lib.run sql params s).2 = false
  waits : ∀ ms s, lib.inTransaction (lib.setBusyTimeout ms s).2 = lib.inTransaction s
  waits_same : ∀ ms s, o.Same s (lib.setBusyTimeout ms s).2
  isolates : ∀ v s,
    lib.inTransaction (lib.setPragma "read_uncommitted" v s).2 = lib.inTransaction s
  isolates_same : ∀ v s, o.Same s (lib.setPragma "read_uncommitted" v s).2

theorem Observer.Clean.same {o : Observer ℓ κ} {lib : Library ℓ} {s t : ℓ} (h : o.Clean lib s)
    (same : o.Same s t) (within : lib.inTransaction t = lib.inTransaction s) : o.Clean lib t := by
  intro idle
  rw [same.own, same.committed]
  exact h (within ▸ idle)

namespace Connection

variable {lib : Library ℓ} {o : Observer ℓ κ} {plain : String → Prop} {c : Connection ℓ} {k : Call}
  {s t : ℓ}

theorem withHandle_of_closed {α : Type} {f : Action ℓ α} (h : c.isClosed = true) :
    withHandle f c = (.fail closedError, c) := if_pos h

theorem withHandle_of_open {α : Type} {f : Action ℓ α} (h : c.isClosed = false) :
    withHandle f c = ((f c.store).1, { c with store := (f c.store).2 }) := if_neg (by simp [h])

theorem withHandle_store {α : Type} {f : Action ℓ α} (h : c.isClosed = false) :
    (withHandle f c).2.store = (f c.store).2 := by rw [withHandle_of_open h]

theorem withHandle_isClosed {α : Type} (f : Action ℓ α) (c : Connection ℓ) :
    (withHandle f c).2.isClosed = c.isClosed := by
  unfold withHandle
  split <;> rfl

theorem withHandle_autoCommit {α : Type} (f : Action ℓ α) (c : Connection ℓ) :
    (withHandle f c).2.autoCommit = c.autoCommit := by
  unfold withHandle
  split <;> rfl

def switching (lib : Library ℓ) (on : Bool) : Action ℓ Unit :=
  if on then endTransaction lib .commit else pure ()

theorem setAutoCommit_of_ok {on : Bool} {d : Connection ℓ}
    (h : withHandle (switching lib on) c = (.ok (), d)) :
    c.call lib (.setAutoCommit on) = (.ok (), { d with autoCommit := on }) := by
  show setAutoCommit lib on c = _
  rw [setAutoCommit, ← switching, h]

theorem setAutoCommit_of_error {on : Bool} {f : Failure} {d : Connection ℓ}
    (h : withHandle (switching lib on) c = (.error f, d)) :
    c.call lib (.setAutoCommit on) = (.error f, d) := by
  show setAutoCommit lib on c = _
  rw [setAutoCommit, ← switching, h]

/-- No call closes a connection, or opens it again. -/
theorem call_isClosed (lib : Library ℓ) (k : Call) (c : Connection ℓ) :
    (c.call lib k).2.isClosed = c.isClosed := by
  cases k with
  | setAutoCommit on =>
    have handle := withHandle_isClosed (switching lib on) c
    cases switched : withHandle (switching lib on) c with
    | mk r d =>
      rw [switched] at handle
      cases r with
      | ok _ => rw [setAutoCommit_of_ok switched]; exact handle
      | error f => rw [setAutoCommit_of_error switched]; exact handle
  | setIsolation level =>
    cases level with
    | serializable | readUncommitted => exact withHandle_isClosed _ c
    | _ => rfl
  | _ => exact withHandle_isClosed _ c

theorem close_isClosed (lib : Library ℓ) (c : Connection ℓ) : (c.close lib).2.isClosed = true := by
  unfold close
  split
  · assumption
  · rfl

theorem autoCommit_of_open (lib : Library ℓ) (h : c.isClosed = false) :
    c.call lib .autoCommit = (.ok c.autoCommit, c) := withHandle_of_open h

def effect (lib : Library ℓ) (autoCommit : Bool) : Call → ℓ → ℓ
  | .execute sql params | .query sql params => fun s =>
    match beginIfNeeded lib autoCommit s with
    | (.ok _, t) => (lib.run sql params t).2
    | (.error _, t) => t
  | .setAutoCommit true | .commit => fun s => (endTransaction lib .commit s).2
  | .rollback => fun s => (endTransaction lib .rollback s).2
  | .setIsolation .serializable => fun s => (lib.setPragma "read_uncommitted" "0" s).2
  | .setIsolation .readUncommitted => fun s => (lib.setPragma "read_uncommitted" "1" s).2
  | .setNetworkTimeout ms => fun s =>
    if ms.toNat ≤ longestTimeout then (lib.setBusyTimeout ms.toNat s).2 else s
  | .setAutoCommit false | .autoCommit | .setIsolation _ => id

theorem runStatement_store {α : Type} (h : c.isClosed = false) (sql : String) (params : List Value)
    (answer : Except Fault Reply → Nat → Outcome α) :
    (runStatement lib sql params answer c).2.store =
      effect lib c.autoCommit (.execute sql params) c.store := by
  rw [runStatement, withHandle_store h]
  cases begun : beginIfNeeded lib c.autoCommit c.store with
  | mk r t =>
    cases r with
    | ok _ =>
      refine (congrArg Prod.snd (Action.bind_of_ok begun)).trans ?_
      simp only [effect, begun, perform]
    | error f =>
      refine (congrArg Prod.snd (Action.bind_of_error begun)).trans ?_
      simp only [effect, begun]

theorem call_store (lib : Library ℓ) (h : c.isClosed = false) (k : Call) :
    (c.call lib k).2.store = effect lib c.autoCommit k c.store := by
  cases k with
  | execute sql params => exact runStatement_store h sql params _
  | query sql params => exact runStatement_store h sql params _
  | setAutoCommit on =>
    have handle := withHandle_of_open (f := switching lib on) h
    have store : (c.call lib (.setAutoCommit on)).2.store = (switching lib on c.store).2 := by
      cases done : (switching lib on c.store).1 with
      | ok _ => rw [setAutoCommit_of_ok (handle.trans (by rw [done]))]
      | error f => rw [setAutoCommit_of_error (handle.trans (by rw [done]))]
    rw [store]
    cases on <;> rfl
  | setIsolation level =>
    cases level with
    | serializable | readUncommitted => exact withHandle_store h
    | _ => rfl
  | setNetworkTimeout ms =>
    refine (withHandle_store h).trans ?_
    simp only [effect]
    split <;> rfl
  | _ => exact withHandle_store h

theorem call_autoCommit (lib : Library ℓ) (k : Call) (c : Connection ℓ) :
    (c.call lib k).2.autoCommit = c.autoCommit ∨
      k = .setAutoCommit (c.call lib k).2.autoCommit ∧ (c.call lib k).1.isOk = true := by
  cases k with
  | setAutoCommit on =>
    cases switched : withHandle (switching lib on) c with
    | mk r d =>
      cases r with
      | ok _ =>
        rw [setAutoCommit_of_ok switched]
        exact .inr ⟨rfl, rfl⟩
      | error f =>
        rw [setAutoCommit_of_error switched]
        have handle := withHandle_autoCommit (switching lib on) c
        rw [switched] at handle
        exact .inl handle
  | setIsolation level =>
    cases level with
    | serializable | readUncommitted => exact .inl (withHandle_autoCommit _ c)
    | _ => exact .inl rfl
  | _ => exact .inl (withHandle_autoCommit _ c)

theorem reporting_ok_iff {error : String → Error} {f : ℓ → Except String Unit × ℓ} :
    reporting error f s = (.ok (), t) ↔ f s = (.ok (), t) := by
  unfold reporting
  cases f s with
  | mk r u =>
    cases r with
    | ok _ => constructor <;> (rintro ⟨⟩; rfl)
    | error _ => constructor <;> rintro ⟨⟩

theorem reporting_isOk (error : String → Error) (f : ℓ → Except String Unit × ℓ) (s : ℓ) :
    (reporting error f s).1.isOk = (f s).1.isOk := by
  unfold reporting
  cases (f s).1 <;> rfl

theorem endTransaction_of_idle {e : Control} (idle : lib.inTransaction s = false) :
    endTransaction lib e s = (.ok (), s) := by simp [endTransaction, idle]

theorem endTransaction_of_open {e : Control} (within : lib.inTransaction s = true) :
    endTransaction lib e s = reporting (fun text => .query ("Failed to " ++ e.sql ++ ": " ++ text))
      (lib.control e) s := if_pos within

theorem beginIfNeeded_of_not_needed {on : Bool} (h : on = true ∨ lib.inTransaction s = true) :
    beginIfNeeded lib on s = (.ok (), s) := by
  rcases h with rfl | within
  · rfl
  · simp [beginIfNeeded, within]

theorem beginIfNeeded_of_needed (idle : lib.inTransaction s = false) :
    beginIfNeeded lib false s =
      reporting (fun text => .query ("Failed to begin transaction: " ++ text))
        (lib.control .begin) s := by simp [beginIfNeeded, idle]

section Library

variable (h : lib.Transacts o plain)
include h

/-- With auto-commit off a transaction is open when a statement runs. -/
theorem beginIfNeeded_opens (begun : beginIfNeeded lib false s = (.ok (), t)) :
    lib.inTransaction t = true := by
  cases within : lib.inTransaction s with
  | true =>
    rw [beginIfNeeded_of_not_needed (.inr within)] at begun
    rwa [← (Prod.mk.inj begun).2]
  | false =>
    rw [beginIfNeeded_of_needed within, reporting_ok_iff] at begun
    exact h.begins within begun

theorem beginIfNeeded_same (on : Bool) (s : ℓ) : o.Same s (beginIfNeeded lib on s).2 := by
  by_cases needed : on = true ∨ lib.inTransaction s = true
  · rw [beginIfNeeded_of_not_needed needed]
    exact ⟨rfl, rfl, .rfl⟩
  · obtain ⟨off, idle⟩ := not_or.1 needed
    rw [Bool.not_eq_true] at off idle
    rw [off, beginIfNeeded_of_needed idle]
    exact h.begins_same idle

theorem beginIfNeeded_clean (on : Bool) (clean : o.Clean lib s) :
    o.Clean lib (beginIfNeeded lib on s).2 := by
  cases within : lib.inTransaction s with
  | true =>
    rw [beginIfNeeded_of_not_needed (.inr within)]
    exact clean
  | false =>
    have same := beginIfNeeded_same h on s
    intro _
    rw [same.own, same.committed]
    exact clean within

theorem endTransaction_idle {e : Control} (ne : e ≠ .begin)
    (ended : endTransaction lib e s = (.ok (), t)) : lib.inTransaction t = false := by
  cases within : lib.inTransaction s with
  | true =>
    rw [endTransaction_of_open within, reporting_ok_iff] at ended
    exact h.ends ne within ended
  | false =>
    rw [endTransaction_of_idle within] at ended
    rwa [← (Prod.mk.inj ended).2]

theorem endTransaction_clean {e : Control} (ne : e ≠ .begin) (clean : o.Clean lib s) :
    o.Clean lib (endTransaction lib e s).2 := by
  cases within : lib.inTransaction s with
  | true =>
    rw [endTransaction_of_open within]
    exact h.ends_clean ne within
  | false =>
    rw [endTransaction_of_idle within]
    exact clean

theorem endTransaction_kept {e : Control} (ne : e ≠ .begin) (journaled : o.journaled s)
    (not_committed : e = .commit → (endTransaction lib e s).1.isOk = false) :
    o.committed (endTransaction lib e s).2 = o.committed s := by
  cases within : lib.inTransaction s with
  | true =>
    rw [endTransaction_of_open within] at not_committed ⊢
    rw [reporting_isOk] at not_committed
    refine h.ends_kept ne within journaled rfl fun commit ok => ?_
    have failed := not_committed commit
    rw [ok] at failed
    cases failed
  | false => rw [endTransaction_of_idle within]

/-- Whatever is called, what is shown without a transaction is what is committed. -/
theorem effect_clean {on : Bool} (statement : ∀ sql ∈ k.sql?, plain sql) (clean : o.Clean lib s) :
    o.Clean lib (effect lib on k s) := by
  cases k with
  | execute sql params | query sql params =>
    have begun := beginIfNeeded_clean h on clean
    simp only [effect]
    split
    · rename_i r t ok
      rw [ok] at begun
      exact h.runs_clean (statement sql rfl) begun
    · rename_i r t ok
      rwa [ok] at begun
  | autoCommit => exact clean
  | setAutoCommit on =>
    cases on with
    | true => exact endTransaction_clean h (by decide) clean
    | false => exact clean
  | commit | rollback => exact endTransaction_clean h (by decide) clean
  | setIsolation level =>
    cases level with
    | serializable | readUncommitted => exact clean.same (h.isolates_same _ _) (h.isolates _ _)
    | _ => exact clean
  | setNetworkTimeout ms =>
    simp only [effect]
    split
    · exact clean.same (h.waits_same _ _) (h.waits _ _)
    · exact clean

/-- While auto-commit is on, no call opens a transaction. -/
theorem effect_idle (statement : ∀ sql ∈ k.sql?, plain sql) (idle : lib.inTransaction s = false) :
    lib.inTransaction (effect lib true k s) = false := by
  cases k with
  | execute sql params | query sql params => exact h.runs_alone (statement sql rfl) idle
  | autoCommit => exact idle
  | setAutoCommit on =>
    cases on with
    | true => simpa only [effect, endTransaction_of_idle idle] using idle
    | false => exact idle
  | commit | rollback => simpa only [effect, endTransaction_of_idle idle] using idle
  | setIsolation level =>
    cases level with
    | serializable | readUncommitted => exact (h.isolates _ _).trans idle
    | _ => exact idle
  | setNetworkTimeout ms =>
    simp only [effect]
    split
    · exact (h.waits _ _).trans idle
    · exact idle

end Library

/-- No transaction is open while auto-commit is on. -/
def Settled (lib : Library ℓ) (c : Connection ℓ) : Prop :=
  c.isClosed = false → c.autoCommit = true → lib.inTransaction c.store = false

theorem switch_of_ok {on : Bool} (opened : c.isClosed = false)
    (ok : (c.call lib (.setAutoCommit on)).1.isOk = true) :
    switching lib on c.store = (.ok (), (c.call lib (.setAutoCommit on)).2.store) := by
  have handle := withHandle_of_open (f := switching lib on) opened
  cases done : switching lib on c.store with
  | mk r t =>
    rw [done] at handle
    cases r with
    | ok _ => rw [setAutoCommit_of_ok handle]
    | error f =>
      rw [setAutoCommit_of_error handle] at ok
      cases ok

theorem Settled.call (h : lib.Transacts o plain) (settled : c.Settled lib)
    (statement : ∀ sql ∈ k.sql?, plain sql) : (c.call lib k).2.Settled lib := by
  intro opened on
  rw [call_isClosed] at opened
  rcases call_autoCommit lib k c with same | ⟨switched, ok⟩
  · rw [same] at on
    rw [call_store lib opened, on]
    exact effect_idle h statement (settled opened on)
  · rw [on] at switched
    subst switched
    exact endTransaction_idle h (by decide) (switch_of_ok opened ok)

structure Made where
  call : Call
  /-- Whether auto-commit was on when it was made. -/
  autoCommit : Bool
  succeeded : Bool

def Made.of (lib : Library ℓ) (c : Connection ℓ) (k : Call) : Made :=
  ⟨k, c.autoCommit, (c.call lib k).1.isOk⟩

def Made.ends? (m : Made) : Option Control :=
  if m.succeeded then
    match m.call with
    | .commit | .setAutoCommit true => some .commit
    | .rollback => some .rollback
    | _ => none
  else none

def made (lib : Library ℓ) : Connection ℓ → List Call → List Made
  | _, [] => []
  | c, k :: ks => .of lib c k :: made lib (c.call lib k).2 ks

def after (lib : Library ℓ) (c : Connection ℓ) (ks : List Call) : Connection ℓ :=
  ks.foldl (fun c k => (c.call lib k).2) c

end Connection
end Sqlite
end ConnPool
