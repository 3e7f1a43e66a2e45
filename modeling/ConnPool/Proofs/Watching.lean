import ConnPool.Proofs.Ledger
import ConnPool.Proofs.Serving

namespace ConnPool

section SameNames

@[simp] theorem TypeCode.rename_same (t : TypeCode) : t.rename (fun p => p) = t := by
  cases t <;> simp [rename]

@[simp] theorem Record.rename_same (r : Record) : r.rename (fun p => p) = r := by simp [rename]

@[simp] theorem Source.rename_same (s : Source) : s.rename (fun p => p) = s := by simp [rename]

@[simp] theorem Pool.rename_same (p : Pool) : p.rename (fun p => p) = p := by simp [rename]

@[simp] theorem Checkout.rename_same (c : Checkout) : c.rename (fun p => p) = c := by
  simp [rename]

@[simp] theorem Waiting.rename_same (w : Waiting) : w.rename (fun p => p) = w := by simp [rename]

@[simp] theorem Stretch.rename_same (r : Stretch) : r.rename (fun p => p) = r := by
  cases r <;> simp [rename]

@[simp] theorem Waiter.rename_same (v : Waiter) : v.rename (fun p => p) = v := by simp [rename]

@[simp] theorem Source.Setting.rename_same (s : Source.Setting) : s.rename (fun p => p) = s := by
  cases s <;> simp [rename]

@[simp] theorem Pool.Setting.rename_same (s : Pool.Setting) : s.rename (fun p => p) = s := by
  cases s <;> simp [rename]

@[simp] theorem Desk.Event.rename_same (e : Event) : e.rename (fun p => p) = e := by
  cases e <;> simp [rename]

theorem map_rename_same (vs : List Waiter) : vs.map (Waiter.rename fun p => p) = vs :=
  (List.map_congr_left fun v _ => v.rename_same).trans vs.map_id

end SameNames

variable {σ α : Type}

def Ledger.Watches (w : σ × Ledger) (v : σ) : Prop := v = w.1

theorem Host.withLedger_connect_twin (host : Host σ) (p : Party) (driver url : String)
    (properties : Properties) :
    ((host.withLedger p).connect driver url properties).Twin Ledger.Watches
      (host.connect driver url properties) := by
  rintro w _ rfl
  cases hc : host.connect driver url properties w.1 with
  | mk o v =>
    cases o with
    | ok c =>
      rw [withLedger_connect_ok hc]
      exact ⟨rfl, rfl⟩
    | error f =>
      rw [withLedger_connect_error hc]
      exact ⟨rfl, rfl⟩

/-- A host does the same when what it does is written down. -/
theorem Host.withLedger_twin (host : Host σ) (p : Party) :
    Host.Twin (fun p => p) Ledger.Watches (host.withLedger p) host where
  now _ _ h := h ▸ ⟨rfl, rfl⟩
  instant _ _ h := h ▸ rfl
  serial _ _ _ h := h ▸ ⟨rfl, rfl⟩
  acceptsUrl := rfl
  connect := host.withLedger_connect_twin p
  connect_as _ _ _ _ := host.withLedger_connect_twin p _ _ _
  call _ _ _ _ h := h ▸ ⟨rfl, rfl⟩
  close _ _ _ h := h ▸ ⟨rfl, rfl⟩
  isClosed _ _ _ h := h ▸ ⟨rfl, rfl⟩
  driverName _ _ _ h := h ▸ rfl

namespace Site

variable (host : Host σ) (p : Party) (s : Site (σ × Ledger))

def forget (s : Site (σ × Ledger)) : Site σ := ⟨s.pool, s.world.1⟩

theorem twin_forget : s.Twin (fun p => p) Ledger.Watches s.forget :=
  ⟨s.pool.rename_same.symm, rfl⟩

theorem Twin.eq_forget {s : Site (σ × Ledger)} {t : Site σ}
    (h : s.Twin (fun p => p) Ledger.Watches t) : t = s.forget := by
  obtain ⟨q, w⟩ := t
  obtain ⟨hpool, hworld⟩ := h
  obtain rfl : q = s.pool := hpool.trans s.pool.rename_same
  exact congrArg (Site.mk s.pool) hworld

theorem Twins.eq_forget {g : α → α} (hg : ∀ a, g a = a) {r : α × Site (σ × Ledger)}
    {r' : α × Site σ} (h : Twins (fun p => p) Ledger.Watches g r r') : r' = (r.1, r.2.forget) :=
  Prod.ext (h.answer.trans (hg _)) h.site.eq_forget

theorem validate_forget (r : Record) : s.forget.validate host r =
    ((s.validate (host.withLedger p) r).1, (s.validate (host.withLedger p) r).2.forget) := by
  have h := s.twin_forget.validate (host.withLedger_twin p) r
  rw [r.rename_same] at h
  exact h.eq_forget fun _ => rfl

theorem begin_forget (credentials : Option (String × String)) :
    s.forget.begin host credentials =
      ((s.begin (host.withLedger p) credentials).1,
        (s.begin (host.withLedger p) credentials).2.forget) := by
  have h := s.twin_forget.begin (host.withLedger_twin p) credentials
  rw [Option.map_id'] at h
  exact h.eq_forget Stretch.rename_same

theorem resume_forget (w : Waiting) : s.forget.resume host w =
    ((s.resume (host.withLedger p) w).1, (s.resume (host.withLedger p) w).2.forget) := by
  have h := s.twin_forget.resume (host.withLedger_twin p) w
  rw [w.rename_same] at h
  exact h.eq_forget Stretch.rename_same

end Site

namespace Desk

def Event.party : Event → Party
  | .call .. | .isClosed _ => .holder
  | _ => .pool

def forget (d : Desk (σ × Ledger)) : Desk σ := d.withWorld d.site.world.1

theorem twin_forget (d : Desk (σ × Ledger)) : d.Twin (fun p => p) Ledger.Watches d.forget :=
  ⟨d.site.twin_forget, rfl, rfl, rfl, (map_rename_same d.waiters).symm, rfl⟩

theorem Twin.eq_forget {d : Desk (σ × Ledger)} {d' : Desk σ}
    (h : d.Twin (fun p => p) Ledger.Watches d') : d' = d.forget := by
  have hwaiters : d'.waiters = d.waiters := h.waiters.trans (map_rename_same d.waiters)
  obtain ⟨site, held, gone, leases, waiters, begun⟩ := d'
  simp only [forget, withWorld, mk.injEq]
  exact ⟨h.site.eq_forget, h.isHeld, h.isOpen, h.leases, hwaiters, h.begun⟩

/-- Whatever happens, it happens in the same way without the ledger. -/
theorem step_forget (host : Host σ) (p : Party) (d : Desk (σ × Ledger)) (e : Event) :
    d.forget.step host e = (d.step (host.withLedger p) e).forget := by
  have h := d.twin_forget.step (host.withLedger_twin p) (fun _ _ h => h) e
  rw [e.rename_same] at h
  exact h.eq_forget

end Desk
end ConnPool
