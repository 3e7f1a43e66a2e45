import ConnPool.Proofs.Exclusive
import Mathlib.Data.List.Nodup

namespace ConnPool

/-- What the pool took on is tracked or parted with, and what it keeps is not parted with. -/
structure Custody (x : Scene) : Prop extends Traced x where
  numbered_opened : ∀ c ∈ x.ledger.numbered, c ∈ x.ledger.opened
  /-- A connection just opened was not taken on yet. -/
  opened_new : ∀ c, x.hand = .opened c → c ∉ x.ledger.numbered
  kept : ∀ r ∈ x.idle ++ x.active, x.ledger.parted r.conn = false
  gone : ∀ c ∈ x.ledger.numbered, c ∉ x.conns → x.ledger.parted c = true

namespace Custody

variable {x y : Scene}

/-- A connection that was taken on leaves only by being parted with. -/
theorem parted_of_leaves (h : Custody x) (ho : Orderly x) (hm : Move x y) {c : ConnId}
    (hc : c ∈ x.ledger.numbered) (hy : c ∉ y.conns) : x.ledger.parted c = true := by
  by_cases hx : c ∈ x.conns
  · rcases hm.conns_cases ho with ⟨hp, -⟩ | ⟨b, hp, -, hleave⟩ | ⟨b, hp, -⟩
    · exact absurd (hp.symm.subset hx) hy
    · rcases List.mem_cons.mp (hp.subset hx) with rfl | hb
      · rcases hleave with hhand | hparted
        · exact absurd hc (h.opened_new c hhand)
        · exact hparted
      · exact absurd hb hy
    · exact absurd (hp.symm.subset (List.mem_cons_of_mem b hx)) hy
  · exact h.gone c hc hx

theorem move (h : Custody x) (ho : Orderly x) (hn : y.ledger.OpensNew) (hm : Move x y) :
    Custody y where
  toTraced := h.toTraced.move ho hn hm
  numbered_opened c hc := by
    rcases hm.numbered_cases with hs | ⟨b, hhand, -, hs⟩
    · exact hm.opened_of (h.numbered_opened c (hs ▸ hc))
    · rcases List.mem_cons.mp (hs ▸ hc) with rfl | hc
      · exact hm.opened_of (h.opened _ (by simp [Scene.conns, hhand, Hand.conns]))
      · exact hm.opened_of (h.numbered_opened c hc)
  opened_new c hc := by
    obtain ⟨hs, hhand | hopens⟩ := hm.opened_cases hc
    · exact hs ▸ h.opened_new c hhand
    · exact fun hc => Traced.new_of_opens hn hopens (h.numbered_opened c (hs ▸ hc))
  kept r hr := by
    have hy := h.toTraced.move ho hn hm
    rw [hm.parted_of_not_mem fun hc => hy.hand_apart hc hr rfl]
    rcases hm.lists_cases hr with ⟨q, hq, hqr⟩ | hparted
    · exact hqr ▸ h.kept q hq
    · exact hparted
  gone c hc hy := by
    have hhand : c ∉ y.hand.conns := fun hm => hy (List.mem_append_left _ hm)
    rw [hm.parted_of_not_mem hhand]
    rcases hm.numbered_cases with hs | ⟨b, -, hb, hs⟩
    · exact h.parted_of_leaves ho hm (hs ▸ hc) hy
    · rcases List.mem_cons.mp (hs ▸ hc) with rfl | hc
      · exact absurd hb hhand
      · exact h.parted_of_leaves ho hm hc hy

theorem of_path (h : Custody x) (ho : Orderly x) (hn : y.ledger.OpensNew) (hp : Path x y) :
    Custody y :=
  hp.keeps ho hn h fun _ _ ho hn h hm => h.move ho hn hm

end Custody

/-- The pool is done with a connection: from one scene to the next it neither tracks it nor hands
it out nor deals with it. -/
structure DoneWith (c : ConnId) (x y : Scene) : Prop where
  opened : c ∈ y.ledger.opened
  untracked : c ∉ y.conns
  dealings : y.ledger.dealings c = x.ledger.dealings c
  grants : ∃ new, y.grants = x.grants ++ new ∧ ∀ g ∈ new, g.conn ≠ c

namespace DoneWith

variable {c : ConnId} {x y z : Scene}

theorem start (ho : c ∈ x.ledger.opened) (hc : c ∉ x.conns) : DoneWith c x x :=
  ⟨ho, hc, rfl, [], by simp⟩

theorem move (h : DoneWith c x y) (ho : Orderly y) (hn : z.ledger.OpensNew) (hm : Move y z) :
    DoneWith c x z := by
  have hz : c ∉ z.conns := by
    intro hc
    rcases hm.conns_cases ho with ⟨hp, -⟩ | ⟨b, hp, -⟩ | ⟨b, hp, hopens⟩
    · exact h.untracked (hp.subset hc)
    · exact h.untracked (hp.symm.subset (List.mem_cons_of_mem b hc))
    · rcases List.mem_cons.mp (hp.subset hc) with rfl | hc
      · exact Traced.new_of_opens hn hopens h.opened
      · exact h.untracked hc
  refine ⟨hm.opened_of h.opened, hz, ?_, ?_⟩
  · rw [hm.dealings_of_not_mem fun hc => hz (List.mem_append_left _ hc)]
    exact h.dealings
  · obtain ⟨new, hg, hnew⟩ := h.grants
    rcases hm.grants_cases with hs | ⟨r, hhand, hs⟩
    · exact ⟨new, hs.trans hg, hnew⟩
    · refine ⟨new ++ [⟨r.conn, r.id, r.flag⟩], by rw [hs, hg, List.append_assoc], fun g hg => ?_⟩
      rcases List.mem_append.mp hg with hg | hg
      · exact hnew g hg
      · obtain rfl := List.mem_singleton.mp hg
        rintro rfl
        exact h.untracked (by simp [Scene.conns, hhand, Hand.conns])

theorem of_path (h : DoneWith c x y) (ho : Orderly y) (hn : z.ledger.OpensNew) (hp : Path y z) :
    DoneWith c x z :=
  hp.keeps ho hn h fun _ _ ho hn h hm => h.move ho hn hm

end DoneWith

namespace Desk

variable {σ : Type}

/-- How often a connection is idle and active, and whether the pool has parted with it. -/
def IsAt (d : Desk σ) (j : Ledger) (c : ConnId) (idle active : Nat) (parted : Bool) : Prop :=
  (d.pool.idle.map (·.conn)).count c = idle ∧ (d.pool.active.map (·.conn)).count c = active ∧
    j.parted c = parted

/-- A connection taken on is idle, or active, or discarded. -/
theorem isAt_of_custody {d : Desk (σ × Ledger)} (h : Custody d.scene) {c : ConnId}
    (hc : c ∈ d.site.world.2.numbered) :
    d.IsAt d.site.world.2 c 1 0 false ∨ d.IsAt d.site.world.2 c 0 1 false ∨
      d.IsAt d.site.world.2 c 0 0 true ∧ c ∉ d.tracked := by
  have honce : (d.pool.idle.map (·.conn) ++ d.pool.active.map (·.conn)).Nodup := by
    rw [← List.map_append]
    exact h.once
  obtain ⟨hidle, hactive, hapart⟩ := List.nodup_append.mp honce
  by_cases hi : c ∈ d.pool.idle.map (·.conn)
  · obtain ⟨r, hr, rfl⟩ := List.mem_map.mp hi
    have hnot : r.conn ∉ d.pool.active.map (·.conn) := fun ha => hapart _ hi _ ha rfl
    exact .inl ⟨List.count_eq_one_of_mem hidle hi, List.count_eq_zero_of_not_mem hnot,
      h.kept r (List.mem_append_left _ hr)⟩
  · by_cases ha : c ∈ d.pool.active.map (·.conn)
    · obtain ⟨r, hr, rfl⟩ := List.mem_map.mp ha
      exact .inr (.inl ⟨List.count_eq_zero_of_not_mem hi, List.count_eq_one_of_mem hactive ha,
        h.kept r (List.mem_append_right _ hr)⟩)
    · have hnot : c ∉ d.tracked := by
        rw [tracked, List.map_append]
        exact fun hm => (List.mem_append.mp hm).elim hi ha
      exact .inr (.inr ⟨⟨List.count_eq_zero_of_not_mem hi, List.count_eq_zero_of_not_mem ha,
        h.gone c hc hnot⟩, hnot⟩)

theorem start_custody (source : Source) (config : PoolConfig) (w : σ) :
    Custody (start source config w).watched.scene :=
  ⟨⟨.nil, nofun⟩, nofun, nofun, nofun, nofun⟩

/-- Whatever happens, a connection that the pool took on is idle once, or active once, or discarded
by closing it or finding it closed. A discarded one the pool never tracks, hands out or deals with
again. -/
theorem run_custody (host : Host σ) (source : Source) (config : PoolConfig) (w : σ)
    (es : List Event) (hn : ((start source config w).ledger host es).OpensNew) (c : ConnId)
    (hc : c ∈ ((start source config w).ledger host es).numbered) :
    let d := start source config w
    (d.run host es).IsAt (d.ledger host es) c 1 0 false ∨
      (d.run host es).IsAt (d.ledger host es) c 0 1 false ∨
      (d.run host es).IsAt (d.ledger host es) c 0 0 true ∧
        ∀ fs : List Event, (d.ledger host (es ++ fs)).OpensNew →
          c ∉ (d.run host (es ++ fs)).tracked ∧
          (d.ledger host (es ++ fs)).dealings c = (d.ledger host es).dealings c ∧
          ∃ new, (d.run host (es ++ fs)).leases.map (·.grant) =
              (d.run host es).leases.map (·.grant) ++ new ∧ ∀ g ∈ new, g.conn ≠ c := by
  intro d
  have hs := start_sound source config w
  have hd : (d.watched.history host es).Sound := hs.history host es
  have hx : Custody (d.watched.history host es).scene :=
    (start_custody source config w).of_path hs.orderly hn (hs.history_path host es)
  rw [run_eq_forget]
  rcases isAt_of_custody hx hc with hidle | hactive | ⟨hgone, hnot⟩
  · exact .inl hidle
  · exact .inr (.inl hactive)
  · refine .inr (.inr ⟨hgone, fun fs hn' => ?_⟩)
    rw [ledger, history_append] at hn'
    rw [run_eq_forget, ledger, history_append]
    have hdone := (DoneWith.start (hx.numbered_opened c hc) hnot).of_path hd.orderly hn'
      (hd.history_path host fs)
    exact ⟨hdone.untracked, hdone.dealings, hdone.grants⟩

/-- A pool that keeps no connections closes what comes back, and opens another one next time. -/
theorem custody_after_overflow :
    let d := start { driver := "mock", url := "mock:db" } { maxIdle := 0 } {}
    let es := [.checkout none, .release 0]
    (d.run World.host es).IsAt (d.ledger World.host es) 0 0 0 true ∧
      (d.ledger World.host (es ++ [.checkout none])).OpensNew ∧
      0 ∉ (d.run World.host (es ++ [.checkout none])).tracked := by
  intro d es
  have hbefore : (d.ledger World.host es).OpensNew := by decide
  have hc : 0 ∈ (d.ledger World.host es).numbered := by decide
  have hn : (d.ledger World.host (es ++ [.checkout none])).OpensNew := by decide
  rcases run_custody World.host _ _ _ es hbefore 0 hc with hidle | hactive | ⟨hgone, hnever⟩
  · exact absurd hidle.1 (by decide)
  · exact absurd hactive.2.1 (by decide)
  · exact ⟨hgone, hn, (hnever [.checkout none] hn).1⟩

end Desk
end ConnPool
