import ConnPool.Proofs.Exclusive

namespace ConnPool

/-- The limits in force, with the connection in hand. -/
structure Capacity (x : Scene) : Prop where
  total : x.hand.size + (x.idle.length + x.active.length) ≤ x.config.maxActive.toNat
  idle : x.idle.length ≤ x.config.maxIdle.toNat

namespace Capacity

variable {x y : Scene}

/-- Where connections are only moved about or let go, under the same limits. -/
theorem of_le (h : Capacity x) (hc : y.config = x.config)
    (ht : y.hand.size + (y.idle.length + y.active.length) ≤
      x.hand.size + (x.idle.length + x.active.length))
    (hi : y.idle.length ≤ x.idle.length) : Capacity y where
  total := hc ▸ Nat.le_trans ht h.total
  idle := hc ▸ Nat.le_trans hi h.idle

/-- Every move stays within the limits: one that opens a connection looks for room first, and one
that keeps a connection looks for room among the idle ones. -/
theorem move (h : Capacity x) (hm : Move x y) : Capacity y := by
  cases hm with
  | takeIdle r rest empty front =>
    refine h.of_le rfl ?_ (by simp [front])
    simp only [front, empty, Hand.size, List.length_cons]
    omega
  | «open» c driver url properties empty none_idle room =>
    refine ⟨?_, h.idle⟩
    simp only [Scene.write, Hand.size, none_idle, List.length_nil]
    omega
  | forsake c hand => exact h.of_le rfl (by simp [hand, Hand.size]) (Nat.le_refl _)
  | wrap c id now hand => exact h.of_le rfl (by simp [Scene.write, hand, Hand.size]) (Nat.le_refl _)
  | claim r rest empty front =>
    refine h.of_le rfl ?_ (Nat.le_refl _)
    simp only [front, empty, Hand.size, List.length_cons]
    omega
  | takeBack i l r empty lease unreleased found =>
    refine h.of_le rfl ?_ (Nat.le_refl _)
    have hlen := (perm_of_find? found).length_eq
    simp only [Scene.markReleased, Hand.size, List.length_cons] at hlen ⊢
    omega
  | stale i l empty lease unreleased missing => exact h.of_le rfl (Nat.le_refl _) (Nat.le_refl _)
  | contact e current byPool contact => exact h.of_le rfl (Nat.le_refl _) (Nat.le_refl _)
  | use e l empty lease valid conn byHolder contact =>
    exact h.of_le rfl (Nat.le_refl _) (Nat.le_refl _)
  | renew r now hand =>
    refine h.of_le rfl ?_ (Nat.le_refl _)
    cases hx : x.hand <;> simp_all [Hand.size, Hand.taken]
  | grant r code now hand kept =>
    refine h.of_le rfl ?_ (Nat.le_refl _)
    simp only [hand, Hand.size, List.length_append, List.length_singleton]
    omega
  | keep r hand kept room =>
    have ht := h.total
    simp only [hand, Hand.size] at ht
    refine ⟨?_, ?_⟩ <;> simp only [Hand.size, List.length_append, List.length_singleton] <;> omega
  | reject r hand parted => exact h.of_le rfl (by simp [Hand.size]) (Nat.le_refl _)
  | retire r hand => exact h.of_le rfl (by simp [Hand.size]) (Nat.le_refl _)
  | clear source config empty => exact ⟨Nat.zero_le _, Nat.zero_le _⟩
  | revoke r rest hand => exact h.of_le rfl (by simp [Hand.size]) (Nat.le_refl _)
  | dismiss c rest hand parted => exact h.of_le rfl (by simp [Hand.size]) (Nat.le_refl _)

theorem of_path (h : Capacity x) (hp : Path x y) : Capacity y := by
  induction hp with
  | refl => exact h
  | tail _ hm ih => exact ih.move hm

end Capacity

namespace Desk

variable {σ : Type}

theorem start_capacity (source : Source) (config : PoolConfig) (w : σ) :
    Capacity (start source config w).watched.scene := ⟨Nat.zero_le _, Nat.zero_le _⟩

theorem run_total_le (host : Host σ) (source : Source) (config : PoolConfig) (w : σ)
    (es : List Event) :
    ((start source config w).run host es).pool.idle.length +
        ((start source config w).run host es).pool.active.length ≤
      ((start source config w).run host es).pool.config.maxActive.toNat := by
  have hpath := (start_sound source config w).history_path host es
  have hc := (start_capacity source config w).of_path hpath
  rw [run_eq_forget]
  exact Nat.le_trans (Nat.le_add_left _ _) hc.total

theorem run_active_le (host : Host σ) (source : Source) (config : PoolConfig) (w : σ)
    (es : List Event) :
    ((start source config w).run host es).pool.active.length ≤
      ((start source config w).run host es).pool.config.maxActive.toNat :=
  Nat.le_trans (Nat.le_add_left _ _) (run_total_le host source config w es)

/-- The limits in force bound the connections, whatever happens at the pool; with drivers that open
new connections only, those are different ones. -/
theorem run_withinLimits (host : Host σ) (source : Source) (config : PoolConfig) (w : σ)
    (es : List Event) :
    let d := (start source config w).run host es
    d.pool.idle.length + d.pool.active.length ≤ d.pool.config.maxActive.toNat ∧
      d.pool.active.length ≤ d.pool.config.maxActive.toNat ∧
      d.pool.idle.length ≤ d.pool.config.maxIdle.toNat ∧
      (((start source config w).ledger host es).OpensNew → d.tracked.Nodup) := by
  intro d
  have hs := start_sound source config w
  have hp := hs.history_path host es
  have hd : d = ((start source config w).watched.history host es).forget := run_eq_forget host _ es
  have hc := (start_capacity source config w).of_path hp
  have htotal : d.pool.idle.length + d.pool.active.length ≤ d.pool.config.maxActive.toNat :=
    hd ▸ Nat.le_trans (Nat.le_add_left _ _) hc.total
  refine ⟨htotal, by omega, hd ▸ hc.idle, fun hn => ?_⟩
  exact hd ▸ ((start_exclusive source config w).of_path hs.orderly hn hp).once

/-- Two connections are opened, one comes back, and then there is room for one only. -/
theorem withinLimits_after_shrinking :
    let d := start { driver := "mock", url := "mock:db" } { maxActive := 2 } {}
    let es :=
      [.checkout none, .checkout none, .release 0, .configure (.maxActive 1), .checkout none]
    (d.ledger World.host es).OpensNew ∧ (d.run World.host es).pool.active.length = 1 ∧
      (d.run World.host es).tracked.Nodup :=
  ⟨by decide, by decide, (run_withinLimits World.host _ _ _ _).2.2.2 (by decide)⟩

end Desk
end ConnPool
