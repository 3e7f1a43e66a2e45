import ConnPool.Proofs.Twins

namespace ConnPool

variable {σ τ α : Type}

namespace Desk

inductive Answer where
  | silence
  /-- The lease that a checkout ended with, or why it failed; none while it waits. -/
  | checkout (r : Option (Outcome Nat))
  | call (c : Call) (r : Outcome c.Answer)
  | isClosed (closed : Bool)
  | configure (r : Outcome Unit)

def serve (host : Host σ) (d : Desk σ) (e : Event) : Answer × Desk σ :=
  if e.isOfHolder && !d.isHeld then (.silence, d)
  else
    match e with
    | .checkout credentials => (d.checkout host credentials).map .checkout id
    | .resume n => (d.resume host n).map .checkout id
    | .release i => (.silence, d.release host i)
    | .call i c => (d.leases[i]?).elim (.silence, d) fun l => (d.call host l c).map (.call c) id
    | .isClosed i =>
      (d.leases[i]?).elim (.silence, d) fun l => (d.isClosed host l).map .isClosed id
    | .interrupt => (.silence, d.interrupt)
    | .shutdown => (.silence, d.shutdown host)
    | .drain => (.silence, d.drain host)
    | .configure setting => (d.configure host setting).map .configure id
    | .letGo => (.silence, d.letGo host)

theorem serve_snd (host : Host σ) (d : Desk σ) (e : Event) :
    (d.serve host e).2 = d.step host e := by
  unfold serve step
  split
  · rfl
  · cases e with
    | call i c | isClosed i =>
      dsimp only
      cases d.leases[i]? <;> rfl
    | _ => rfl

end Desk

/-- Desks of pools that are twins. The same leases are out, and the same checkouts wait but for
their passwords. -/
structure Desk.Twin (f : String → String) (R : σ → τ → Prop) (d : Desk σ) (d' : Desk τ) : Prop where
  site : d.site.Twin f R d'.site
  isHeld : d'.isHeld = d.isHeld
  isOpen : d'.isOpen = d.isOpen
  leases : d'.leases = d.leases
  waiters : d'.waiters = d.waiters.map (Waiter.rename f)
  begun : d'.begun = d.begun

structure Desk.Twins (f : String → String) (R : σ → τ → Prop) (r : α × Desk σ) (r' : α × Desk τ) :
    Prop where
  answer : r'.1 = r.1
  desk : r.2.Twin f R r'.2

namespace Desk

variable {f : String → String} {R : σ → τ → Prop} {host : Host σ} {other : Host τ} {d : Desk σ}
  {d' : Desk τ}

theorem twin_ofPool (p : Pool) {w : σ} {v : τ} (hw : R w v) :
    (ofPool p w).Twin f R (ofPool (p.rename f) v) :=
  ⟨⟨rfl, hw⟩, rfl, rfl, rfl, rfl, rfl⟩

namespace Twin

theorem ofSite (h : d.Twin f R d') {s : Site σ} {t : Site τ} (hs : s.Twin f R t) :
    { d with site := s }.Twin f R { d' with site := t } := { h with site := hs }

theorem ofWaiters (h : d.Twin f R d') {vs vs' : List Waiter} (hv : vs' = vs.map (Waiter.rename f)) :
    { d with waiters := vs }.Twin f R { d' with waiters := vs' } := { h with waiters := hv }

theorem ofBegun (h : d.Twin f R d') (n : Nat) :
    { d with begun := n }.Twin f R { d' with begun := n } := { h with begun := rfl }

theorem isValid (h : d.Twin f R d') (l : Lease) : d'.isValid l = d.isValid l := by
  unfold Desk.isValid Desk.pool
  rw [h.site.flags]

theorem find? (h : d.Twin f R d') (id : Nat) :
    d'.waiters.find? (·.id == id) = (d.waiters.find? (·.id == id)).map (Waiter.rename f) := by
  rw [h.waiters]
  exact List.find?_map ..

theorem wakeAll (h : d.Twin f R d') : d.wakeAll.Twin f R d'.wakeAll :=
  { h with waiters := by simp [Desk.wakeAll, h.waiters, Waiter.rename] }

theorem markReleased (h : d.Twin f R d') (i : Nat) :
    (d.markReleased i).Twin f R (d'.markReleased i) :=
  { h with leases := by simp only [Desk.markReleased, h.leases] }

theorem afterStretch (h : d.Twin f R d') (id : Nat) {r : Stretch × Site σ} {r' : Stretch × Site τ}
    (hr : Site.Twins f R (Stretch.rename f) r r') :
    Twins f R (Desk.afterStretch d id r) (Desk.afterStretch d' id r') := by
  obtain ⟨x, s⟩ := r
  obtain ⟨x', t⟩ := r'
  obtain rfl : x' = x.rename f := hr.answer
  have hs : s.Twin f R t := hr.site
  match x with
  | .done (.ok g) =>
    exact ⟨congrArg (fun ls => some (Except.ok (List.length ls))) h.leases,
      { h.ofSite hs with leases := congrArg (fun ls => ls ++ [Lease.mk g false]) h.leases }⟩
  | .done (.error e) => exact ⟨rfl, h.ofSite hs⟩
  | .waits w =>
    have hwaiters : d'.waiters ++ [Waiter.mk id (w.rename f) false] =
        (d.waiters ++ [Waiter.mk id w false]).map (Waiter.rename f) := by
      simp [h.waiters, Waiter.rename]
    exact ⟨rfl, (h.ofSite hs).ofWaiters hwaiters⟩

variable (hh : Host.Twin f R host other)

include hh

theorem checkout (h : d.Twin f R d') (credentials : Option (String × String)) :
    Twins f R (d.checkout host credentials)
      (d'.checkout other (credentials.map fun (username, password) => (username, f password))) := by
  unfold Desk.checkout
  rw [h.begun]
  exact (h.ofBegun _).afterStretch _ (h.site.begin hh credentials)

theorem drain (h : d.Twin f R d') : (d.drain host).Twin f R (d'.drain other) :=
  h.ofSite (h.site.drain hh)

theorem closeUnused (h : d.Twin f R d') : (d.closeUnused host).Twin f R (d'.closeUnused other) := by
  have hempty : d'.waiters.isEmpty = d.waiters.isEmpty := by rw [h.waiters, List.isEmpty_map]
  unfold Desk.closeUnused
  rw [h.isOpen, h.isHeld, hempty]
  split
  · exact { drain hh h with isOpen := rfl }
  · exact h

theorem resume (h : d.Twin f R d') (id : Nat) :
    Twins f R (d.resume host id) (d'.resume other id) := by
  unfold Desk.resume
  rw [h.find? id]
  cases d.waiters.find? (·.id == id) with
  | none => exact ⟨rfl, h⟩
  | some w =>
    have herased : d'.waiters.eraseP (·.id == id) =
        (d.waiters.eraseP (·.id == id)).map (Waiter.rename f) := by
      rw [h.waiters]
      exact List.eraseP_map ..
    have hafter := (h.ofWaiters herased).afterStretch id (h.site.resume hh w.waiting)
    exact ⟨hafter.answer, closeUnused hh hafter.desk⟩

theorem giveBack (hf : f.Injective) (h : d.Twin f R d') (l : Lease) :
    (d.giveBack host l).Twin f R (d'.giveBack other l) := by
  have hback := h.site.giveBack hh hf l.grant.flag
  have hnext := h.ofSite hback.site
  unfold Desk.giveBack
  dsimp only
  rw [hback.answer, id]
  split
  · exact hnext.wakeAll
  · exact hnext

theorem closeOrphan (h : d.Twin f R d') (l : Lease) :
    (d.closeOrphan host l).Twin f R (d'.closeOrphan other l) := by
  unfold Desk.closeOrphan
  rw [h.isValid l]
  split
  · exact h.ofSite ((h.site.revoke _).settle (hh.close _))
  · exact h

theorem release (hf : f.Injective) (h : d.Twin f R d') (i : Nat) :
    (d.release host i).Twin f R (d'.release other i) := by
  unfold Desk.release
  rw [h.leases, h.isOpen]
  cases d.leases[i]? with
  | none => exact h
  | some l =>
    dsimp only
    split
    · exact h
    · split
      · exact giveBack hh hf (h.markReleased i) l
      · exact closeOrphan hh (h.markReleased i) l

theorem call (h : d.Twin f R d') (l : Lease) (k : Call) :
    Twins f R (d.call host l k) (d'.call other l k) := by
  have hrun := h.site.run (hh.call l.grant.conn k)
  unfold Desk.call
  rw [h.isValid l]
  split
  · exact ⟨hrun.answer, h.ofSite hrun.site⟩
  · exact ⟨rfl, h⟩

theorem isClosed (h : d.Twin f R d') (l : Lease) :
    Twins f R (d.isClosed host l) (d'.isClosed other l) := by
  have hclosed := hh.isClosed l.grant.conn _ _ h.site.world
  unfold Desk.isClosed
  rw [h.isValid l]
  split
  · exact ⟨rfl, h⟩
  · exact ⟨hclosed.1, h.ofSite ⟨h.site.pool, hclosed.2⟩⟩

theorem shutdown (h : d.Twin f R d') : (d.shutdown host).Twin f R (d'.shutdown other) :=
  (h.ofSite (h.site.interrupt.drain hh)).wakeAll

theorem configure (h : d.Twin f R d') (setting : Pool.Setting) :
    Twins f R (d.configure host setting) (d'.configure other (setting.rename f)) := by
  have hset := h.site.configure hh setting
  exact ⟨hset.answer, h.ofSite hset.site⟩

theorem letGo (h : d.Twin f R d') : (d.letGo host).Twin f R (d'.letGo other) :=
  closeUnused hh { h with isHeld := rfl }

/-- Whatever happens to twins is answered alike and leaves twins. -/
theorem serve (hf : f.Injective) (h : d.Twin f R d') (e : Event) :
    Twins f R (d.serve host e) (d'.serve other (e.rename f)) := by
  have hholder : (e.rename f).isOfHolder = e.isOfHolder := by cases e <;> rfl
  unfold Desk.serve
  rw [h.isHeld, h.leases, hholder]
  split
  · exact ⟨rfl, h⟩
  · cases e with
    | checkout credentials =>
      have hcheckout := checkout hh h credentials
      exact ⟨congrArg Answer.checkout hcheckout.answer, hcheckout.desk⟩
    | resume id =>
      have hresume := resume hh h id
      exact ⟨congrArg Answer.checkout hresume.answer, hresume.desk⟩
    | release i => exact ⟨rfl, release hh hf h i⟩
    | call i c =>
      dsimp only [Event.rename]
      cases d.leases[i]? with
      | none => exact ⟨rfl, h⟩
      | some l =>
        have hcall := call hh h l c
        exact ⟨congrArg (Answer.call c) hcall.answer, hcall.desk⟩
    | isClosed i =>
      dsimp only [Event.rename]
      cases d.leases[i]? with
      | none => exact ⟨rfl, h⟩
      | some l =>
        have hclosed := isClosed hh h l
        exact ⟨congrArg Answer.isClosed hclosed.answer, hclosed.desk⟩
    | interrupt => exact ⟨rfl, (h.ofSite h.site.interrupt).wakeAll⟩
    | shutdown => exact ⟨rfl, shutdown hh h⟩
    | drain => exact ⟨rfl, drain hh h⟩
    | configure setting =>
      have hset := configure hh h setting
      exact ⟨congrArg Answer.configure hset.answer, hset.desk⟩
    | letGo => exact ⟨rfl, letGo hh h⟩

theorem step (hf : f.Injective) (h : d.Twin f R d') (e : Event) :
    (d.step host e).Twin f R (d'.step other (e.rename f)) := by
  have hserved := (serve hh hf h e).desk
  rwa [serve_snd, serve_snd] at hserved

end Twin
end Desk

end ConnPool
