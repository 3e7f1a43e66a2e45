import ConnPool.Proofs.Transactions
import ConnPool.Proofs.Twins

namespace ConnPool.Sqlite

/-- Libraries that answer alike, as far as transactions and plain statements go. -/
structure Library.Twin {ℓ ℓ' : Type} (R : ℓ → ℓ' → Prop) (plain : String → Prop) (lib : Library ℓ)
    (other : Library ℓ') : Prop where
  within : ∀ {s t}, R s t → other.inTransaction t = lib.inTransaction s
  changes : ∀ {s t}, R s t → other.changes t = lib.changes s
  control : ∀ c {s t}, R s t →
    (other.control c t).1 = (lib.control c s).1 ∧ R (lib.control c s).2 (other.control c t).2
  run : ∀ {sql} params {s t}, plain sql → R s t →
    (other.run sql params t).1 = (lib.run sql params s).1 ∧
      R (lib.run sql params s).2 (other.run sql params t).2

namespace Connection

variable {ℓ ℓ' : Type} {R : ℓ → ℓ' → Prop} {plain : String → Prop} {lib : Library ℓ}
  {other : Library ℓ'}

/-- Connections that know the same of themselves, to databases that are alike. -/
def Twin (R : ℓ → ℓ' → Prop) (c : Connection ℓ) (d : Connection ℓ') : Prop :=
  d.toStatus = c.toStatus ∧ R c.store d.store

theorem twin_withHandle {α : Type} {f : Action ℓ α} {g : Action ℓ' α} (h : f.Twin R g) :
    (withHandle f).Twin (Twin R) (withHandle g) := by
  rintro ⟨status, s⟩ ⟨_, t⟩ ⟨⟨⟩, related⟩
  obtain ⟨same, next⟩ := h s t related
  cases closed : status.isClosed with
  | true =>
    rw [withHandle_of_closed closed, withHandle_of_closed closed]
    exact ⟨rfl, rfl, related⟩
  | false =>
    rw [withHandle_of_open closed, withHandle_of_open closed]
    exact ⟨same, rfl, next⟩

theorem twin_reporting {f : ℓ → Except String Unit × ℓ} {g : ℓ' → Except String Unit × ℓ'}
    (error : String → Error) {s : ℓ} {t : ℓ'}
    (h : (g t).1 = (f s).1 ∧ R (f s).2 (g t).2) :
    (reporting error g t).1 = (reporting error f s).1 ∧
      R (reporting error f s).2 (reporting error g t).2 := by
  unfold reporting
  rw [h.1]
  exact ⟨rfl, h.2⟩

section

variable (h : Library.Twin R plain lib other)
include h

theorem twin_beginIfNeeded (on : Bool) :
    (beginIfNeeded lib on).Twin R (beginIfNeeded other on) := by
  intro s t related
  unfold beginIfNeeded
  rw [h.within related]
  split
  · exact twin_reporting _ (h.control .begin related)
  · exact ⟨rfl, related⟩

theorem twin_endTransaction (e : Control) : (endTransaction lib e).Twin R (endTransaction other e) := by
  intro s t related
  unfold endTransaction
  rw [h.within related]
  split
  · exact twin_reporting _ (h.control e related)
  · exact ⟨rfl, related⟩

theorem twin_runStatement {α : Type} {sql : String} (statement : plain sql) (params : List Value)
    (answer : Except Fault Reply → Nat → Outcome α) :
    (runStatement lib sql params answer).Twin (Twin R) (runStatement other sql params answer) := by
  have performs : (perform lib sql params answer).Twin R (perform other sql params answer) := by
    intro s t related
    obtain ⟨same, next⟩ := h.run params statement related
    unfold perform
    dsimp only
    rw [same, h.changes next]
    exact ⟨rfl, next⟩
  rintro c d ⟨status, related⟩
  have mode : d.autoCommit = c.autoCommit := congrArg Status.autoCommit status
  unfold runStatement
  rw [mode]
  exact twin_withHandle ((twin_beginIfNeeded h c.autoCommit).bind fun _ => performs) c d
    ⟨status, related⟩

theorem twin_setAutoCommit (on : Bool) :
    (setAutoCommit lib on).Twin (Twin R) (setAutoCommit other on) := by
  have switches : (switching lib on).Twin R (switching other on) := by
    cases on with
    | true => exact twin_endTransaction h .commit
    | false => exact Action.twin_pure ()
  intro c d related
  obtain ⟨same, status, next⟩ := twin_withHandle switches c d related
  cases first : withHandle (switching lib on) c with
  | mk r c' =>
    cases second : withHandle (switching other on) d with
    | mk r' d' =>
      rw [first, second] at same status next
      obtain rfl : r' = r := same
      cases r' with
      | ok _ =>
        rw [show setAutoCommit lib on c = _ from setAutoCommit_of_ok first,
          show setAutoCommit other on d = _ from setAutoCommit_of_ok second]
        exact ⟨rfl, congrArg (fun s : Status => { s with autoCommit := on }) status, next⟩
      | error f =>
        rw [show setAutoCommit lib on c = _ from setAutoCommit_of_error first,
          show setAutoCommit other on d = _ from setAutoCommit_of_error second]
        exact ⟨rfl, status, next⟩

theorem twin_call {k : Call} (hk : k.IsPlain plain) :
    (call lib k).Twin (Twin R) (call other k) := by
  cases k with
  | execute sql params => exact twin_runStatement h hk params executed
  | query sql params => exact twin_runStatement h hk params queried
  | setAutoCommit on => exact twin_setAutoCommit h on
  | commit => exact twin_withHandle (twin_endTransaction h .commit)
  | rollback => exact twin_withHandle (twin_endTransaction h .rollback)
  | autoCommit | setIsolation _ | setNetworkTimeout _ => cases hk

/-- The same calls succeed, and leave connections that are alike. -/
theorem Twin.made {c : Connection ℓ} {d : Connection ℓ'} (twin : Twin R c d) {ks : List Call}
    (hks : ∀ k ∈ ks, k.IsPlain plain) :
    made other d ks = made lib c ks ∧ Twin R (c.after lib ks) (d.after other ks) := by
  induction ks generalizing c d with
  | nil => exact ⟨rfl, twin⟩
  | cons k ks ih =>
    obtain ⟨same, next⟩ := twin_call h (hks k List.mem_cons_self) c d twin
    obtain ⟨rest, after⟩ := ih next fun k hk => hks k (List.mem_cons_of_mem _ hk)
    have first : Made.of other d k = Made.of lib c k := by
      rw [Made.of, Made.of, same, show d.autoCommit = c.autoCommit from
        congrArg Status.autoCommit twin.1]
    refine ⟨?_, after⟩
    rw [Connection.made, Connection.made, first, rest]

end
end Connection

end ConnPool.Sqlite
