import ConnPool.Proofs.Databases

namespace ConnPool

open Sqlite (Connection Databases Status)

/-- What is expected of connections while they are open: they tell the mode they are in, and they
can be rolled back. A connection that is closed has no mode. -/
structure Host.Obliges {σ : Type} (host : Host σ) (mode : σ → ConnId → Option Bool) : Prop where
  tells : ∀ {w c on}, mode w c = some on → (host.call c .autoCommit w).1 = .ok on
  rollsBack : ∀ {w c on}, mode w c = some on → (host.call c .rollback w).1 = .ok ()
  /-- A connection may be lost on the way, but it does not come to another mode. -/
  asked : ∀ {w c on}, mode (host.call c .autoCommit w).2 c = some on → mode w c = some on
  rolledBack : ∀ {w c on}, mode (host.call c .rollback w).2 c = some on → mode w c = some on
  now : ∀ {w c on}, mode (host.now w).2 c = some on → mode w c = some on

section

variable {σ : Type} {host : Host σ} {c : ConnId} {w : σ × Ledger}

/-- A connection whose statements are not committed one by one is rolled back. -/
theorem Host.Obliges.rollbackIfNeeded {mode : σ → ConnId → Option Bool} (h : host.Obliges mode)
    (hm : mode ((host.withLedger .pool).rollbackIfNeeded c w).2.1 c = some false) :
    ∃ j, ((host.withLedger .pool).rollbackIfNeeded c w).2.2 =
      ⟨.pool, c, .called .rollback (.ok ())⟩ :: j := by
  rw [Host.rollbackIfNeeded, Action.bind_apply] at hm ⊢
  cases hr : (host.withLedger .pool).call c .autoCommit w with
  | mk r v =>
    have hanswer : (host.call c .autoCommit w.1).1 = r := congrArg Prod.fst hr
    have hv : (host.call c .autoCommit w.1).2 = v.1 := congrArg (·.2.1) hr
    -- whatever it answered, it is in the mode that it was in
    have htold : mode v.1 c = some false → r = .ok false := fun hm =>
      hanswer ▸ h.tells (h.asked (hv ▸ hm))
    rw [hr] at hm
    cases r with
    | error f => cases htold hm
    | ok committed =>
      cases committed with
      | true => cases htold hm
      | false =>
        have hback : (host.call c .rollback v.1).1 = .ok () := h.rollsBack (h.rolledBack hm)
        refine ⟨v.2, ?_⟩
        show ⟨.pool, c, .called .rollback (host.call c .rollback v.1).1⟩ :: v.2 = _
        rw [hback]

end

namespace Host.Serves

variable {σ ℓ κ : Type} {host : Host σ} {V : View σ ℓ κ} {plain : String → Prop} {c : ConnId}

/-- A connection tells the mode that it is in. -/
theorem tells (h : host.Serves V) {w : σ} {s : Status}
    (found : V.status? (host.call c .autoCommit w).2 c = some s) (opened : s.isClosed = false) :
    (host.call c .autoCommit w).1 = .ok s.autoCommit := by
  obtain ⟨s₀, t, d, -, -, did, rfl, -⟩ := (h.call c .autoCommit w).of_found found
  have closed := Connection.call_isClosed (V.library c) .autoCommit ⟨s₀, t⟩
  rw [did] at closed
  rw [Connection.autoCommit_of_open _ (closed.symm.trans opened)] at did
  obtain ⟨answer, rfl⟩ := Prod.mk.inj did
  exact answer.symm

/-- A connection that is not in auto-commit mode is rolled back. -/
theorem rolledBack (h : host.Serves V) {w : σ × Ledger} {s : Status}
    (found : V.status? ((host.withLedger .pool).rollbackIfNeeded c w).2.1 c = some s)
    (opened : s.isClosed = false) (off : s.autoCommit = false) :
    ∃ v : σ × Ledger, ((host.withLedger .pool).rollbackIfNeeded c w).2 =
      ((host.withLedger .pool).call c .rollback v).2 := by
  rw [Host.rollbackIfNeeded, Action.bind_apply] at found ⊢
  cases asked : (host.withLedger .pool).call c .autoCommit w with
  | mk r v =>
    rw [asked] at found
    have answer : (host.call c .autoCommit w.1).1 = r := congrArg Prod.fst asked
    have world : (host.call c .autoCommit w.1).2 = v.1 := congrArg (·.2.1) asked
    have told : V.status? v.1 c = some s → r = .ok false := fun found => by
      rw [← answer, h.tells (world ▸ found) opened, off]
    cases r with
    | error f => cases told found
    | ok committed =>
      cases committed with
      | true => cases told found
      | false => exact ⟨v, rfl⟩

end Host.Serves

section

variable {σ : Type} {host : Host σ} {s u : Site (σ × Ledger)} {c : Checkout} {r : Record}

/-- The last thing that a checkout does before it hands out a connection is to roll it back. -/
theorem Host.Obliges.grant {mode : σ → ConnId → Option Bool} (h : host.Obliges mode)
    (hm : mode (u.grant (host.withLedger .pool) c r).2.world.1 r.conn = some false) :
    ∃ j, (u.grant (host.withLedger .pool) c r).2.world.2 =
      ⟨.pool, r.conn, .called .rollback (.ok ())⟩ :: j := by
  have hrolled : mode ((host.withLedger .pool).rollbackIfNeeded r.conn u.world).2.1 r.conn =
      some false := h.now (h.now hm)
  exact h.rollbackIfNeeded hrolled

variable {ℓ κ : Type} {V : View σ ℓ κ} {plain : String → Prop} {x : Status}

end

namespace Desk

end Desk

namespace World

variable {w : World} {c : ConnId} {on : Bool}

end World

namespace Desk

def counted (s : Sqlite.Tables) : List (String × Nat) :=
  s.tables.map fun t => (t.name, t.rows.length)

end Desk
end ConnPool
