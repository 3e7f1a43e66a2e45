import ConnPool.Proofs.History
import ConnPool.Proofs.Tracking
import ConnPool.World

namespace ConnPool

/-- Of all leases on a connection one at most is valid, and none if the connection has no holder. -/
structure Exclusive (x : Scene) : Prop extends Traced x where
  granted_opened : ∀ g ∈ x.grants, g.conn ∈ x.ledger.opened
  one_valid : ∀ g ∈ x.grants, ∀ g' ∈ x.grants, g.conn = g'.conn →
    x.flags.isValid g.flag = true → x.flags.isValid g'.flag = true → g.flag = g'.flag
  unheld_free : ∀ g ∈ x.grants, x.flags.isValid g.flag = true → g.conn ∉ x.unheld

namespace Exclusive

variable {x y : Scene}

/-- Where nothing is handed out and no connection loses its holder. -/
theorem of_fewer (h : Exclusive x) (ho : Orderly x) (hn : y.ledger.OpensNew) (hm : Move x y)
    (hg : y.grants = x.grants) (hu : y.unheld ⊆ x.unheld) : Exclusive y where
  toTraced := h.toTraced.move ho hn hm
  granted_opened g hmem := hm.opened_of (h.granted_opened g (hg ▸ hmem))
  one_valid g hmem g' hmem' hc hv hv' :=
    h.one_valid g (hg ▸ hmem) g' (hg ▸ hmem') hc (hm.valid_of hv) (hm.valid_of hv')
  unheld_free g hmem hv hc := h.unheld_free g (hg ▸ hmem) (hm.valid_of hv) (hu hc)

/-- The only valid lease on a connection taken from its holder has the flag of its record. -/
theorem flag_of_taken (h : Exclusive x) (ho : Orderly x) {r : Record} (hr : r ∈ x.hand.taken)
    {g : Grant} (hg : g ∈ x.grants) (hc : g.conn = r.conn)
    (hv : x.flags.isValid g.flag = true) : g.flag = r.flag := by
  obtain ⟨l, hl, hf, hlc⟩ := ho.taken r hr
  have hvalid : x.flags.isValid r.flag = true :=
    ho.valid_of_record (List.mem_append_left _ (Hand.mem_records_of_taken hr))
  have hgl := h.one_valid g hg l.grant (List.mem_map_of_mem hl) (hc.trans hlc.symm) hv (hf ▸ hvalid)
  exact hgl.trans hf

theorem move (h : Exclusive x) (ho : Orderly x) (hn : y.ledger.OpensNew) (hm : Move x y) :
    Exclusive y := by
  have hm' := hm
  cases hm with
  | takeIdle r rest empty front =>
    exact h.of_fewer ho hn hm' rfl (by simp [Scene.unheld, empty, front, Hand.unheld])
  | «open» c driver url properties empty none_idle room =>
    have hopened := Ledger.opened_cons ⟨.pool, c, .opened driver url properties⟩ x.ledger
    refine ⟨h.toTraced.move ho hn hm', fun g hg => hm'.opened_of (h.granted_opened g hg),
      h.one_valid, fun g hg _ hc => ?_⟩
    have hc : g.conn = c := by
      simpa [Scene.unheld, Scene.write, Hand.unheld, none_idle] using hc
    exact Traced.new_of_opens hn hopened (hc ▸ h.granted_opened g hg)
  | forsake c hand =>
    exact h.of_fewer ho hn hm' rfl (by simp [Scene.unheld, hand, Hand.unheld])
  | wrap c id now hand =>
    exact h.of_fewer ho hn hm' rfl
      (by simp [Scene.unheld, Scene.write, hand, Hand.unheld, Record.fresh])
  | claim r rest empty front =>
    exact h.of_fewer ho hn hm' rfl (by simp [Scene.unheld, empty, Hand.unheld])
  | takeBack i l r empty lease unreleased found =>
    exact h.of_fewer ho hn hm' (x.grants_markReleased i)
      (by simp [Scene.unheld, Scene.markReleased, empty, Hand.unheld])
  | stale i l empty lease unreleased missing =>
    exact h.of_fewer ho hn hm' (x.grants_markReleased i) (List.Subset.refl _)
  | contact e current byPool contact => exact h.of_fewer ho hn hm' rfl (List.Subset.refl _)
  | use e l empty lease valid conn byHolder contact =>
    exact h.of_fewer ho hn hm' rfl (List.Subset.refl _)
  | renew r now hand =>
    refine ⟨h.toTraced.move ho hn hm', h.granted_opened, fun g hg g' hg' hc hv hv' =>
      h.one_valid g hg g' hg' hc (hm'.valid_of hv) (hm'.valid_of hv'), fun g hg hv hc => ?_⟩
    simp only [Scene.unheld, Hand.unheld, Record.renew, List.cons_append, List.nil_append,
      List.mem_cons] at hc
    rcases hc with hc | hc
    -- the one valid lease on this connection has just lost its flag
    · have hf := h.flag_of_taken ho (by simp [hand]) hg hc (hm'.valid_of hv)
      simp [hf] at hv
    · exact h.unheld_free g hg (hm'.valid_of hv) (List.mem_append_right _ hc)
  | grant r code now hand kept =>
    have hr : r.conn ∈ x.unheld := by simp [Scene.unheld, hand, Hand.unheld]
    have hfree : r.conn ∉ x.idle.map (·.conn) := by
      have := h.once
      simp only [Scene.conns, hand, Hand.conns, List.singleton_append, List.nodup_cons,
        List.map_append, List.mem_append] at this
      exact fun hc => this.1 (.inl hc)
    have hmem : ∀ g ∈ x.grants ++ [⟨r.conn, r.id, r.flag⟩],
        g ∈ x.grants ∨ g = ⟨r.conn, r.id, r.flag⟩ := by simp
    have hgrants : (Scene.grants { x with
        active := x.active ++ [(r.withTypeCode code).checkedOut now]
        leases := x.leases ++ [⟨⟨r.conn, r.id, r.flag⟩, false⟩], hand := .empty }) =
          x.grants ++ [⟨r.conn, r.id, r.flag⟩] := by simp [Scene.grants]
    refine ⟨h.toTraced.move ho hn hm', fun g hg => ?_, fun g hg g' hg' hc hv hv' => ?_,
      fun g hg hv hc => ?_⟩
    · rcases hmem g (hgrants ▸ hg) with hg | rfl
      · exact h.granted_opened g hg
      · exact h.opened _ (by simp [Scene.conns, hand, Hand.conns])
    · rcases hmem g (hgrants ▸ hg) with hg | rfl <;> rcases hmem g' (hgrants ▸ hg') with hg' | rfl
      · exact h.one_valid g hg g' hg' hc hv hv'
      -- a valid older lease on a connection that had no holder
      · exact absurd (hc ▸ hr) (h.unheld_free g hg hv)
      · exact absurd (hc ▸ hr) (h.unheld_free g' hg' hv')
      · rfl
    · rcases hmem g (hgrants ▸ hg) with hg | rfl
      · exact h.unheld_free g hg hv (List.mem_append_right _ hc)
      · exact hfree hc
  | keep r hand kept room =>
    exact h.of_fewer ho hn hm' rfl (by simp [Scene.unheld, hand, Hand.unheld])
  | reject r hand parted =>
    refine h.of_fewer ho hn hm' rfl ?_
    rcases hand with hand | hand <;> simp [Scene.unheld, hand, Hand.unheld]
  | retire r hand =>
    exact h.of_fewer ho hn hm' rfl (by simp [Scene.unheld, hand, Hand.unheld])
  | clear source config empty =>
    exact h.of_fewer ho hn hm' rfl (by simp [Scene.unheld, Hand.unheld])
  | revoke r rest hand =>
    exact h.of_fewer ho hn hm' rfl (by simp [Scene.unheld, hand, Hand.unheld])
  | dismiss c rest hand parted =>
    exact h.of_fewer ho hn hm' rfl (by simp [Scene.unheld, hand, Hand.unheld])

theorem of_path (h : Exclusive x) (ho : Orderly x) (hn : y.ledger.OpensNew) (hp : Path x y) :
    Exclusive y :=
  hp.keeps ho hn h fun _ _ ho hn h hm => h.move ho hn hm

end Exclusive

namespace Desk

variable {σ : Type}

/-- Every connection checked out has one holder, the others have none, and calls of anybody else
do not reach any connection that the pool keeps track of. -/
structure HeldAlone (d : Desk σ) : Prop where
  one_valid : ∀ (i j : Nat) (l m : Lease), d.leases[i]? = some l → d.leases[j]? = some m →
    l.grant.conn = m.grant.conn → d.isValid l = true → d.isValid m = true → i = j
  idle_unheld : ∀ r ∈ d.pool.idle, ∀ l ∈ d.leases, l.grant.conn = r.conn → d.isValid l = false
  active_held : ∀ r ∈ d.pool.active, d.pool.flags.isValid r.flag = true ∧
    ∃ (i : Nat) (l : Lease), d.leases[i]? = some l ∧ l.released = false ∧
      l.grant.flag = r.flag ∧ l.grant.conn = r.conn ∧
      ∀ (j : Nat) (m : Lease), d.leases[j]? = some m → m.grant.flag = r.flag → j = i
  others_fail : ∀ l ∈ d.leases, l.grant.conn ∈ d.tracked →
    (∀ r ∈ d.pool.active, r.flag ≠ l.grant.flag) →
    ∀ (host : Host σ) (k : Call), d.call host l k = (.fail .connectionInvalidated, d)

theorem call_of_invalid (host : Host σ) {d : Desk σ} {l : Lease} (h : d.isValid l = false)
    (k : Call) : d.call host l k = (.fail .connectionInvalidated, d) := by
  simp [call, h]

section

variable {d : Desk (σ × Ledger)}

theorem one_valid_of_exclusive (hs : Orderly d.scene) (he : Exclusive d.scene) {i j : Nat}
    {l m : Lease} (hi : d.leases[i]? = some l) (hj : d.leases[j]? = some m)
    (hc : l.grant.conn = m.grant.conn) (hl : d.isValid l = true) (hm : d.isValid m = true) :
    i = j := by
  refine hs.lease_index hi hj ?_
  exact he.one_valid l.grant (List.mem_map_of_mem (List.mem_of_getElem? hi)) m.grant
    (List.mem_map_of_mem (List.mem_of_getElem? hj)) hc hl hm

theorem idle_unheld_of_exclusive (he : Exclusive d.scene) {r : Record} (hr : r ∈ d.pool.idle)
    {l : Lease} (hl : l ∈ d.leases) (hc : l.grant.conn = r.conn) : d.isValid l = false := by
  refine Bool.eq_false_iff.mpr fun hv => ?_
  refine he.unheld_free l.grant (List.mem_map_of_mem hl) hv ?_
  rw [hc]
  exact List.mem_map_of_mem hr

/-- On the connection of an active record, only the lease with its flag is valid. -/
theorem flag_of_valid (hs : Orderly d.scene) (he : Exclusive d.scene) {r : Record}
    (hr : r ∈ d.pool.active) {l : Lease} (hl : l ∈ d.leases) (hc : l.grant.conn = r.conn)
    (hv : d.isValid l = true) : r.flag = l.grant.flag := by
  obtain ⟨m, hm, -, hf, hmc⟩ := hs.held r hr
  have hvalid : d.pool.flags.isValid r.flag = true :=
    hs.valid_of_record (List.mem_append_right _ (List.mem_append_right _ hr))
  have hml := he.one_valid m.grant (List.mem_map_of_mem hm) l.grant (List.mem_map_of_mem hl)
    (hmc.trans hc.symm) (hf ▸ hvalid) hv
  exact hf.symm.trans hml

theorem heldAlone_of_exclusive (hs : Orderly d.scene) (he : Exclusive d.scene) :
    d.forget.HeldAlone where
  one_valid i j l m hi hj hc hl hm := one_valid_of_exclusive hs he hi hj hc hl hm
  idle_unheld r hr l hl hc := idle_unheld_of_exclusive he hr hl hc
  active_held r hr := by
    obtain ⟨l, hl, hu, hf, hc⟩ := hs.held r hr
    obtain ⟨i, hi⟩ := List.mem_iff_getElem?.mp hl
    refine ⟨hs.valid_of_record (List.mem_append_right _ (List.mem_append_right _ hr)),
      i, l, hi, hu, hf, hc, fun j m hj hm => ?_⟩
    exact hs.lease_index hj hi (hm.trans hf.symm)
  others_fail l hl hc hother host k := by
    refine call_of_invalid host (Bool.eq_false_iff.mpr fun hv => ?_) k
    obtain ⟨r, hr, hrc⟩ := List.mem_map.mp hc
    rcases List.mem_append.mp hr with hr | hr
    · exact Bool.false_ne_true ((idle_unheld_of_exclusive he hr hl hrc.symm).symm.trans hv)
    · exact hother r hr (flag_of_valid hs he hr hl hrc.symm hv)

end

theorem start_exclusive (source : Source) (config : PoolConfig) (w : σ) :
    Exclusive (start source config w).watched.scene :=
  ⟨⟨.nil, nofun⟩, nofun, nofun, nofun⟩

/-- With drivers that open new connections only, every connection has one holder at most, whatever
happens at the pool and whatever the connections answer. -/
theorem run_heldAlone (host : Host σ) (source : Source) (config : PoolConfig) (w : σ)
    (es : List Event) (hn : ((start source config w).ledger host es).OpensNew) :
    ((start source config w).run host es).HeldAlone := by
  have hs := start_sound source config w
  have hx := start_exclusive source config w
  rw [run_eq_forget]
  exact heldAlone_of_exclusive (hs.history host es).orderly
    (hx.of_path hs.orderly hn (hs.history_path host es))

/-- The second checkout claims the connection of the first one. -/
theorem heldAlone_after_claim :
    let d :=
      start { driver := "mock", url := "mock:db" } { maxActive := 1, maxCheckoutTime := 0 } {}
    (d.ledger World.host [.checkout none, .checkout none]).OpensNew ∧
      (d.run World.host [.checkout none, .checkout none]).leases.map (·.grant.conn) = [0, 0] ∧
      (d.run World.host [.checkout none, .checkout none]).HeldAlone :=
  ⟨by decide, by decide, run_heldAlone World.host _ _ _ _ (by decide)⟩

end Desk
end ConnPool
