import ConnPool.Proofs.PrivateDatabase
import ConnPool.Sqlite.Tables

namespace ConnPool.Sqlite

variable {ℓ κ : Type}

namespace Connection

inductive Use where
  | call (k : Call)
  | close

def Use.IsPlain (plain : String → Prop) : Use → Prop
  | .call k => ∀ sql ∈ k.sql?, plain sql
  | .close => True

instance (plain : String → Prop) [DecidablePred plain] : DecidablePred (Use.IsPlain plain)
  | .call k => inferInstanceAs (Decidable (∀ sql ∈ k.sql?, plain sql))
  | .close => isTrue trivial

def afterUse (lib : Library ℓ) (c : Connection ℓ) : Use → Connection ℓ
  | .call k => (c.call lib k).2
  | .close => (c.close lib).2

def afterUses (lib : Library ℓ) (c : Connection ℓ) (us : List Use) : Connection ℓ :=
  us.foldl (afterUse lib) c

/-- How a connection is rolled back. -/
structure RolledBack (lib : Library ℓ) (o : Observer ℓ κ) (c : Connection ℓ) (content : κ) :
    Prop where
  runs : c.inTransaction lib = true →
    (c.call lib .rollback).1.isOk = (lib.control .rollback c.store).1.isOk ∧
      (c.call lib .rollback).2.store = (lib.control .rollback c.store).2
  ends : (c.call lib .rollback).1.isOk = true →
    (c.call lib .rollback).2.inTransaction lib = false ∧
      o.own (c.call lib .rollback).2.store = content

/-- At once, or after calls none of which commits, a rollback returns to that content. -/
def RollsBackTo (lib : Library ℓ) (o : Observer ℓ κ) (plain : String → Prop) (c : Connection ℓ)
    (content : κ) : Prop :=
  ∀ ks : List Call, (∀ k ∈ ks, ∀ sql ∈ k.sql?, plain sql) →
    (∀ m ∈ made lib c ks, m.ends? ≠ some .commit) →
    (∀ js, js <+: ks → o.journaled (c.after lib js).store) →
    RolledBack lib o (c.after lib ks) content

/-- How transactions go with the mode of a connection. -/
structure FollowsMode (lib : Library ℓ) (o : Observer ℓ κ) (plain : String → Prop)
    (c : Connection ℓ) : Prop where
  /-- A transaction is open only while the connection is open and auto-commit is off. -/
  off : c.inTransaction lib = true → c.isClosed = false ∧ c.autoCommit = false
  /-- With auto-commit off a statement that succeeds leaves one open. -/
  begins : ∀ k sql, k.sql? = some sql → plain sql → c.isClosed = false → c.autoCommit = false →
    (c.call lib k).1.isOk = true → (c.call lib k).2.inTransaction lib = true
  /-- What ends a transaction, when it succeeds, leaves none open. -/
  ends : ∀ k, k = .commit ∨ k = .rollback ∨ k = .setAutoCommit true →
    (c.call lib k).1.isOk = true → (c.call lib k).2.inTransaction lib = false
  closes : (c.close lib).2.inTransaction lib = false
  /-- Auto-commit stays off where the open transaction cannot be committed. Whatever the `COMMIT`
  has left of it can be rolled back. -/
  stays : ∀ f d, c.isClosed = false → c.call lib (.setAutoCommit true) = (.error f, d) →
    c.autoCommit = false ∧ c.inTransaction lib = true ∧
      d = { c with store := (lib.control .commit c.store).2 } ∧
      (o.journaled c.store → RollsBackTo lib o plain d (o.committed c.store))

variable {lib : Library ℓ} {o : Observer ℓ κ} {plain : String → Prop} {c d : Connection ℓ}
  {k : Call} {s t : ℓ} {content : κ}

theorem inTransaction_of_open (opened : c.isClosed = false) :
    c.inTransaction lib = lib.inTransaction c.store := by simp [inTransaction, opened]

theorem inTransaction_eq_true :
    c.inTransaction lib = true ↔ c.isClosed = false ∧ lib.inTransaction c.store = true := by
  simp [inTransaction]

theorem inTransaction_of_closed (closed : c.isClosed = true) : c.inTransaction lib = false := by
  simp [inTransaction, closed]

theorem Settled.afterUses (h : lib.Transacts o plain) (settled : c.Settled lib) {us : List Use}
    (uses : ∀ u ∈ us, u.IsPlain plain) : (c.afterUses lib us).Settled lib := by
  induction us generalizing c with
  | nil => exact settled
  | cons u us ih =>
    obtain ⟨first, rest⟩ := List.forall_mem_cons.1 uses
    refine ih ?_ rest
    cases u with
    | call k => exact settled.call h first
    | close =>
      intro opened
      cases (close_isClosed lib c).symm.trans opened

/-- How an open connection answers a call that ends the transaction. -/
theorem ends_isOk {e : Control} (opened : c.isClosed = false)
    (answer : (withHandle (endTransaction lib e) c).1.isOk = true) :
    endTransaction lib e c.store =
      (.ok (), (withHandle (endTransaction lib e) c).2.store) := by
  rw [withHandle_of_open opened] at answer ⊢
  cases done : endTransaction lib e c.store with
  | mk r t =>
    rw [done] at answer
    cases r with
    | ok _ => rfl
    | error f => cases answer

theorem idle_of_ends (h : lib.Transacts o plain) {e : Control} (ne : e ≠ .begin)
    (ok : (withHandle (endTransaction lib e) c).1.isOk = true) :
    (withHandle (endTransaction lib e) c).2.inTransaction lib = false := by
  have closed := withHandle_isClosed (endTransaction lib e) c
  cases opened : c.isClosed with
  | true => exact inTransaction_of_closed (closed.trans opened)
  | false =>
    rw [inTransaction_of_open (closed.trans opened)]
    exact endTransaction_idle h ne (ends_isOk opened ok)

theorem setAutoCommit_isOk {on : Bool} (opened : c.isClosed = false) :
    (c.call lib (.setAutoCommit on)).1.isOk = (switching lib on c.store).1.isOk := by
  have handle := withHandle_of_open (f := switching lib on) opened
  cases done : switching lib on c.store with
  | mk r t =>
    rw [done] at handle
    cases r with
    | ok _ => rw [setAutoCommit_of_ok handle]
    | error f => rw [setAutoCommit_of_error handle]

/-- A `COMMIT` that succeeds is one that the call has made. -/
theorem commits_of_ok (opened : c.isClosed = false) (which : k = .commit ∨ k = .setAutoCommit true)
    (ok : (endTransaction lib .commit c.store).1.isOk = true) :
    (Made.of lib c k).ends? = some .commit := by
  rcases which with rfl | rfl
  · have answer : (c.call lib .commit).1.isOk = true := by
      rwa [show c.call lib .commit = _ from withHandle_of_open opened]
    simp [Made.of, Made.ends?, answer]
  · have answer : (c.call lib (.setAutoCommit true)).1.isOk = true :=
      (setAutoCommit_isOk opened).trans ok
    simp [Made.of, Made.ends?, answer]

/-- Nothing has been committed since the content was that, and auto-commit is off. -/
structure Pending (lib : Library ℓ) (o : Observer ℓ κ) (content : κ) (c : Connection ℓ) : Prop where
  opened : c.isClosed = false
  off : c.autoCommit = false
  clean : o.Clean lib c.store
  committed : o.committed c.store = content

section Library

variable (h : lib.Transacts o plain)
include h

theorem effect_kept (statement : ∀ sql ∈ k.sql?, plain sql) (journaled : o.journaled s)
    (not_committed : k = .commit ∨ k = .setAutoCommit true →
      (endTransaction lib .commit s).1.isOk = false) :
    o.committed (effect lib false k s) = o.committed s := by
  cases k with
  | execute sql params | query sql params =>
    have same := beginIfNeeded_same h false s
    simp only [effect]
    split
    · rename_i u t begun
      rw [begun] at same
      have within := beginIfNeeded_opens h begun
      exact (h.runs_kept (statement sql rfl) within (same.journaled.2 journaled)).trans same.committed
    · rename_i f t begun
      rw [begun] at same
      exact same.committed
  | autoCommit => rfl
  | setAutoCommit on =>
    cases on with
    | true => exact endTransaction_kept h (by decide) journaled fun _ => not_committed (.inr rfl)
    | false => rfl
  | commit => exact endTransaction_kept h (by decide) journaled fun _ => not_committed (.inl rfl)
  | rollback => exact endTransaction_kept h (by decide) journaled fun commit => by cases commit
  | setIsolation level =>
    cases level with
    | serializable | readUncommitted => exact (h.isolates_same _ _).committed
    | _ => rfl
  | setNetworkTimeout ms =>
    simp only [effect]
    split
    · exact (h.waits_same _ _).committed
    · rfl

/-- With auto-commit off a statement that succeeds runs in a transaction, and leaves it open. -/
theorem runStatement_opens {α : Type} {sql : String} {params : List Value}
    {answer : Except Fault Reply → Nat → Outcome α} (statement : plain sql)
    (fails : ∀ f n, (answer (.error f) n).isOk = false) (opened : c.isClosed = false)
    (off : c.autoCommit = false) (ok : (runStatement lib sql params answer c).1.isOk = true) :
    lib.inTransaction (runStatement lib sql params answer c).2.store = true := by
  rw [runStatement, withHandle_of_open opened, off] at ok ⊢
  cases begun : beginIfNeeded lib false c.store with
  | mk r t =>
    cases r with
    | error f =>
      rw [Action.bind_of_error begun] at ok
      cases ok
    | ok u =>
      rw [Action.bind_of_ok begun] at ok ⊢
      have within := beginIfNeeded_opens h begun
      cases run : lib.run sql params t with
      | mk r t' =>
        simp only [perform, run] at ok ⊢
        cases r with
        | error f => cases (fails f _).symm.trans ok
        | ok r => exact h.runs statement within run

theorem Pending.call (pending : c.Pending lib o content) (statement : ∀ sql ∈ k.sql?, plain sql)
    (journaled : o.journaled c.store) (goes_on : (Made.of lib c k).ends? ≠ some .commit) :
    (c.call lib k).2.Pending lib o content := by
  obtain ⟨opened, off, clean, committed⟩ := pending
  have store := call_store lib opened k
  refine ⟨(call_isClosed lib k c).trans opened, ?_, ?_, ?_⟩
  · rcases call_autoCommit lib k c with same | ⟨switched, ok⟩
    · exact same.trans off
    · cases on : (c.call lib k).2.autoCommit with
      | false => rfl
      | true =>
        rw [on] at switched
        subst switched
        exact absurd (by simp [Made.of, Made.ends?, ok]) goes_on
  · rw [store]
    exact effect_clean h statement clean
  · rw [store, off, ← committed]
    refine effect_kept h statement journaled fun ends => Bool.eq_false_iff.2 fun ok => ?_
    exact goes_on (commits_of_ok opened ends ok)

theorem Pending.rolledBack (pending : c.Pending lib o content) (journaled : o.journaled c.store) :
    c.RolledBack lib o content where
  runs within := by
    obtain ⟨opened, within⟩ := inTransaction_eq_true.1 within
    have call : c.call lib .rollback = _ := withHandle_of_open opened
    rw [call, endTransaction_of_open within]
    exact ⟨reporting_isOk _ _ _, rfl⟩
  ends ok := by
    have ended := ends_isOk pending.opened ok
    have idle := endTransaction_idle h (by decide) ended
    have clean := endTransaction_clean (e := .rollback) h (by decide) pending.clean
    have kept := endTransaction_kept (e := .rollback) h (by decide) journaled nofun
    rw [ended] at clean kept
    exact ⟨idle_of_ends h (by decide) ok, (clean idle).trans (kept.trans pending.committed)⟩

theorem Pending.rollsBackTo (pending : c.Pending lib o content) :
    c.RollsBackTo lib o plain content := by
  intro ks statements goes_on journaled
  -- each call before the rollback leaves the same content pending
  induction ks generalizing c with
  | nil => exact pending.rolledBack h (journaled [] (List.prefix_refl _))
  | cons k ks ih =>
    obtain ⟨first, rest⟩ := List.forall_mem_cons.1 statements
    obtain ⟨one, others⟩ := List.forall_mem_cons.1 goes_on
    refine ih (pending.call h first (journaled [] List.nil_prefix) one) rest others fun js start => ?_
    exact journaled (k :: js) (List.cons_prefix_cons.2 ⟨rfl, start⟩)

end Library

theorem Settled.off (settled : c.Settled lib) (opened : c.isClosed = false)
    (within : lib.inTransaction c.store = true) : c.autoCommit = false :=
  Bool.eq_false_iff.2 fun on => by cases (settled opened on).symm.trans within

/-- Switching auto-commit on fails only where there is an open transaction that cannot be
committed. -/
theorem commit_fails {f : Failure} (opened : c.isClosed = false)
    (failed : c.call lib (.setAutoCommit true) = (.error f, d)) :
    lib.inTransaction c.store = true ∧ (lib.control .commit c.store).1.isOk = false ∧
      d = { c with store := (lib.control .commit c.store).2 } := by
  have handle := withHandle_of_open (f := switching lib true) opened
  cases within : lib.inTransaction c.store with
  | false =>
    have done : switching lib true c.store = (.ok (), c.store) := endTransaction_of_idle within
    rw [done] at handle
    cases (congrArg Prod.fst (setAutoCommit_of_ok handle)).symm.trans (congrArg Prod.fst failed)
  | true =>
    have done : switching lib true c.store = _ := endTransaction_of_open within
    cases committed : lib.control .commit c.store with
    | mk r t =>
      rw [done, reporting, committed] at handle
      cases r with
      | ok _ =>
        have answer := congrArg Prod.fst (setAutoCommit_of_ok handle)
        cases answer.symm.trans (congrArg Prod.fst failed)
      | error text =>
        have left := congrArg Prod.snd (setAutoCommit_of_error handle)
        exact ⟨rfl, rfl, (congrArg Prod.snd failed).symm.trans left⟩

theorem Settled.followsMode (h : lib.Transacts o plain) (settled : c.Settled lib) :
    FollowsMode lib o plain c where
  off within := by
    obtain ⟨opened, within⟩ := inTransaction_eq_true.1 within
    exact ⟨opened, settled.off opened within⟩
  begins k sql runs statement opened off ok := by
    rw [inTransaction_of_open ((call_isClosed lib k c).trans opened)]
    cases k with
    | execute sql' params | query sql' params =>
      obtain rfl := Option.some.inj runs
      exact runStatement_opens h statement (fun _ _ => rfl) opened off ok
    | _ => cases runs
  ends k which ok := by
    rcases which with rfl | rfl | rfl
    · exact idle_of_ends h (by decide) ok
    · exact idle_of_ends h (by decide) ok
    · have closed := call_isClosed lib (.setAutoCommit true) c
      cases opened : c.isClosed with
      | true => exact inTransaction_of_closed (closed.trans opened)
      | false =>
        rw [inTransaction_of_open (closed.trans opened)]
        exact endTransaction_idle h (by decide) (switch_of_ok opened ok)
  closes := inTransaction_of_closed (close_isClosed lib c)
  stays f d opened failed := by
    obtain ⟨within, fails, rfl⟩ := commit_fails opened failed
    have off := settled.off opened within
    refine ⟨off, inTransaction_eq_true.2 ⟨opened, within⟩, rfl, fun journaled => ?_⟩
    have clean := h.ends_clean (c := .commit) (by decide) within
    have kept := h.ends_kept (c := .commit) (by decide) within journaled rfl fun _ ok => by
      rw [ok] at fails
      cases fails
    exact Pending.rollsBackTo h ⟨opened, off, clean, kept⟩

/-- Whatever is done with a connection that has no transaction open, its transactions follow its
mode all along. -/
theorem followsMode_afterUses (h : lib.Transacts o plain) (idle : c.inTransaction lib = false)
    {us : List Use} (uses : ∀ u ∈ us, u.IsPlain plain) :
    FollowsMode lib o plain (c.afterUses lib us) := by
  refine Settled.followsMode h (Settled.afterUses h ?_ uses)
  intro opened _
  rwa [← inTransaction_of_open opened]

/-- A row refers to none, so that it cannot be committed. What it was inserted with can still be
rolled back. -/
theorem followsMode_of_dangling_row :
    let lib := Tables.engine.library
    let c : Connection (Database Tables) := ofEngine Tables.engine {}
    let us : List Use :=
      [.call (.execute "CREATE TABLE p (id INTEGER PRIMARY KEY)" []),
       .call (.execute
         "CREATE TABLE f (pid REFERENCES p(id) DEFERRABLE INITIALLY DEFERRED)" []),
       .call (.setAutoCommit false), .call (.query "SELECT id FROM nowhere" []),
       .call (.execute "INSERT INTO f VALUES (?1)" [.int64 1]), .call .commit]
    let stuck := c.afterUses lib us
    let failed := stuck.call lib (.setAutoCommit true)
    let back := failed.2.call lib .rollback
    lib.Transacts (Engine.observer Tables) Tables.engine.IsPlain ∧ c.inTransaction lib = false ∧
      (∀ u ∈ us, u.IsPlain Tables.engine.IsPlain) ∧
      FollowsMode lib (Engine.observer Tables) Tables.engine.IsPlain stuck ∧
      failed.1.isOk = false ∧ failed.2.autoCommit = false ∧ failed.2.inTransaction lib = true ∧
      back.2.inTransaction lib = false ∧
      back.2.store.content.tables.map (·.rows.length) = [0, 0] := by
  intro lib c us stuck failed back
  have laws := Tables.engine.transacts
  have plain : ∀ u ∈ us, u.IsPlain Tables.engine.IsPlain := by decide +kernel
  have idle : c.inTransaction lib = false := rfl
  have follows : FollowsMode lib (Engine.observer Tables) Tables.engine.IsPlain stuck :=
    followsMode_afterUses laws idle plain
  have fails : failed.1.isOk = false := by decide +kernel
  have left : failed.2.autoCommit = false ∧ failed.2.inTransaction lib = true ∧
      back.2.inTransaction lib = false ∧
      back.2.store.content.tables.map (·.rows.length) = [0, 0] := by decide +kernel
  exact ⟨laws, idle, plain, follows, fails, left⟩

end Connection
end ConnPool.Sqlite
