import ConnPool.Proofs.Capacity
import ConnPool.Proofs.Later
import Mathlib.Data.List.Induction

namespace ConnPool

/-- From a world on, no clock reading is less than an earlier one. -/
def Host.KeepsTime {σ : Type} (host : Host σ) (w : σ) : Prop :=
  ∀ u v, host.Later w u → host.Later (host.now u).2 v → (host.now u).1 ≤ (host.now v).1

namespace Site

variable {σ : Type} {host : Host σ} {w : σ} {s t u : Site σ} {n : Nat} {c : Checkout} {q r : Record}

theorem giveBack_active (host : Host σ) (s : Site σ) (flag : FlagId) :
    (s.giveBack host flag).2.pool.active.Sublist s.pool.active := by
  have hback := s.giveBack_takesBack host flag
  generalize (s.giveBack host flag).1 = b, (s.giveBack host flag).2.pool = p at hback
  cases hback with
  | missing _ found alike => exact alike.active ▸ List.Sublist.refl _
  | lost _ r found settings idle active => exact active ▸ List.eraseP_sublist
  | kept _ r r' found settings conn idle active => exact active ▸ List.eraseP_sublist

theorem Takes.active_suffix {p : Pool} (h : s.Takes host p) : p.active <:+ s.pool.active := by
  cases h with
  | idle r front active => exact active ▸ List.suffix_rfl
  | opened none_idle room idle active => exact active ▸ List.suffix_rfl
  | claimed q claims idle active => exact active ▸ List.suffix_cons _ _

theorem Misses.active_suffix (h : s.Misses host n t) : t.pool.active <:+ s.pool.active := by
  induction h with
  | none s => exact List.suffix_rfl
  | more miss _ ih => exact ih.trans miss.takes.2.active_suffix

/-- The oldest checkout stands in front, and none was made after a reading that is still to come. -/
structure Ordered (host : Host σ) (w : σ) (s : Site σ) : Prop where
  later : host.Later w s.world
  sorted : s.pool.active.Pairwise fun p q => p.checkoutAt ≤ q.checkoutAt
  past : ∀ p ∈ s.pool.active, ∀ v, host.Later s.world v → p.checkoutAt ≤ (host.now v).1

namespace Ordered

theorem sublist (h : Ordered host w s) (hb : s.Before host t)
    (hs : t.pool.active.Sublist s.pool.active) : Ordered host w t where
  later := Relation.ReflTransGen.trans h.later hb
  sorted := h.sorted.sublist hs
  past p hp v hv := h.past p (hs.subset hp) v (Relation.ReflTransGen.trans hb hv)

/-- A checkout is stamped by the latest reading. -/
theorem grant (h : Ordered host w s) (hclock : host.KeepsTime w) (c : Checkout) (r : Record) :
    Ordered host w (s.grant host c r).2 := by
  obtain ⟨code, hactive⟩ := grant_active host s c r
  have hroll := before_settle host s (Action.advances_rollbackIfNeeded host r.conn)
  generalize hrolled : s.settle (host.rollbackIfNeeded r.conn) = rolled at hactive hroll
  have hworld : (s.grant host c r).2.world = (host.now (host.now rolled.world).2).2 := by
    rw [← hrolled]
    rfl
  have hlater : host.Later w rolled.world := Relation.ReflTransGen.trans h.later hroll
  have hend : host.Later (host.now rolled.world).2 (s.grant host c r).2.world := by
    rw [hworld]
    exact .single .now
  refine ⟨(hlater.tail .now).trans hend, ?_, fun p hp v hv => ?_⟩
  · rw [hactive]
    refine List.pairwise_append.mpr ⟨h.sorted, List.pairwise_singleton _ _, fun p hp q hq => ?_⟩
    rw [List.mem_singleton.mp hq]
    exact h.past p hp rolled.world hroll
  · rw [hactive] at hp
    rcases List.mem_append.mp hp with hp | hp
    · exact h.past p hp v (((hroll.tail .now).trans hend).trans hv)
    · rw [List.mem_singleton.mp hp]
      exact hclock rolled.world v hlater (hend.trans hv)

theorem ending (h : Ordered host w s) (hclock : host.KeepsTime w) {r : Stretch × Site σ}
    (hend : Ending host c s r) : Ordered host w r.2 := by
  cases hend with
  | failed f t found =>
    have hpool : t.pool = s.pool := (look_of_eq found).error
    exact h.sublist (before_found found) (by rw [hpool])
  | waiting t found =>
    obtain ⟨-, -, -, hpool⟩ := (look_of_eq found).mustWait
    have halike := wait_alike host t c
    refine h.sublist ((before_found found).trans (t.before_wait host c)) ?_
    rw [halike.active, hpool]
  | granted q t u found valid =>
    have hu : Ordered host w u :=
      h.sublist (before_answer found valid) (takes_of_found found valid).2.active_suffix.sublist
    exact hu.grant hclock c q
  | exhausted t miss => exact h.sublist miss.before miss.takes.2.active_suffix.sublist

/-- While the clock does not go back, it is kept. -/
theorem kept (hclock : host.KeepsTime w) : Kept host (Ordered host w) where
  same s t hs hb h := h.sublist hb (by rw [hs.active])
  proceed s c h := by
    obtain ⟨n, t, -, hmisses, hend⟩ :=
      acquire_ends host (s.pool.config.badConnectionLimit - c.bad) c s
    exact (h.sublist hmisses.before hmisses.active_suffix.sublist).ending hclock hend
  giveBack s flag h := h.sublist (before_giveBack host s flag) (giveBack_active host s flag)
  drain s p h := by
    refine h.sublist (before_drain host ⟨p, s.world⟩) ?_
    rw [(drain_lists host ⟨p, s.world⟩).2]
    exact List.nil_sublist _

end Ordered

/-- What leaves the active connections at a look that finds a candidate. -/
theorem Takes.active_cases {p : Pool} (h : s.Takes host p) :
    p.active = s.pool.active ∨ ∃ q, s.Claims host q ∧ s.pool.active = q :: p.active := by
  cases h with
  | idle r front active => exact .inl active
  | opened none_idle room idle active => exact .inl active
  | claimed q claims idle active => exact .inr ⟨q, claims, active⟩

theorem Ending.active_cases {r : Stretch × Site σ} (h : Ending host c s r) :
    s.pool.active <+: r.2.pool.active ∨
      ∃ q rest, s.Claims host q ∧ s.pool.active = q :: rest ∧ rest <+: r.2.pool.active := by
  rcases h.lists with halike | ⟨p, -, htakes, -, -, hlonger⟩
  · exact .inl (halike.active ▸ List.prefix_rfl)
  · rcases htakes.active_cases with hsame | ⟨q, hclaims, hfront⟩
    · exact .inl (hsame ▸ hlonger)
    · exact .inr ⟨q, p.active, hclaims, hfront, hlonger⟩

/-- In a stretch nothing leaves the active connections but one that a look claims. -/
theorem acquire_active (host : Host σ) (spare : Nat) (c : Checkout) (s : Site σ)
    (hcap : s.pool.active.length ≤ s.pool.config.maxActive.toNat) :
    s.pool.active <+: (acquire host spare c s).2.pool.active ∨
      ∃ k u q rest, k ≤ spare ∧ s.Misses host k u ∧ u.Claims host q ∧
        u.pool.active = s.pool.active ∧ s.pool.active = q :: rest ∧
        rest <+: (acquire host spare c s).2.pool.active := by
  obtain ⟨n, t, hn, hmisses, hend⟩ := acquire_ends host spare c s
  rcases hmisses.active_cases hcap with hsame | ⟨q, k, u, hk, hbefore, hclaims, hu, hfront⟩
  · rcases hend.active_cases with hkept | ⟨q, rest, hclaims, hfront, hrest⟩
    · exact .inl (hsame ▸ hkept)
    · exact .inr ⟨n, t, q, rest, hn, hmisses, hclaims, hsame, hsame ▸ hfront, hrest⟩
  · rcases hend.active_cases with hkept | ⟨p, rest, hclaims', -, -⟩
    · exact .inr ⟨k, u, q, t.pool.active, Nat.le_trans hk hn, hbefore, hclaims, hu, hfront, hkept⟩
    -- the first claim has left room, so nothing is claimed after it
    · have hfull := hclaims'.full
      rw [hmisses.settings.config] at hfull
      rw [hfront, List.length_cons] at hcap
      exact absurd hcap (Nat.not_le_of_lt (Nat.lt_succ_of_le hfull))

/-- A stretch that waits has just looked at the pool, and nobody was overdue then. -/
theorem acquire_waits_early (host : Host σ) (spare : Nat) (c : Checkout) (s : Site σ) {x : Waiting}
    (h : (acquire host spare c s).1 = .waits x) :
    ∃ k u, k ≤ spare ∧ s.Misses host k u ∧
      (acquire host spare c s).2.pool.active = u.pool.active ∧
      ∀ q, u.pool.active.head? = some q → ¬ u.IsOverdue host q := by
  obtain ⟨n, t, hn, hmisses, hend⟩ := acquire_ends host spare c s
  generalize acquire host spare c s = r at h hend
  cases hend with
  | waiting u found =>
    obtain ⟨-, -, hearly, hpool⟩ := (look_of_eq found).mustWait
    have halike := wait_alike host u { c with bad := c.bad + n }
    exact ⟨n, t, hn, hmisses, halike.active.trans (by rw [hpool]), hearly⟩
  | _ => cases h

end Site

namespace Desk

variable {σ : Type} {host : Host σ} {d : Desk σ} {e : Event}

/-- In the stretch that runs in an event, the pool is looked at in this state. -/
def LooksAt (host : Host σ) (d : Desk σ) (e : Event) (u : Site σ) : Prop :=
  ∃ (s : Site σ) (c : Checkout) (k : Nat), d.stretch? host e = some (s.proceed host c) ∧
    s.world = (d.site.now host).2.world ∧ d.pool.Alike s.pool ∧
    k ≤ s.pool.config.badConnectionLimit - c.bad ∧ s.Misses host k u

/-- A look may claim a connection: none is idle and no place is free, and its holder has had it for
too long, and for longest. -/
structure MayClaim (host : Host σ) (d : Desk σ) (u : Site σ) (q : Record) : Prop where
  none_idle : u.pool.idle = []
  active : u.pool.active = d.pool.active
  full : d.pool.config.maxActive.toNat ≤ d.pool.active.length
  overdue : d.pool.config.maxCheckoutTime.toNat * nanosPerMilli < (u.now host).1 - q.checkoutAt
  longest : ∀ p ∈ d.pool.active, q.checkoutAt ≤ p.checkoutAt

/-- A record is active, and its holder can use the connection. -/
def Holds (p : Pool) (q : Record) : Prop := q ∈ p.active ∧ p.flags.isValid q.flag = true

instance (p : Pool) (q : Record) : Decidable (Holds p q) := inferInstanceAs (Decidable (_ ∧ _))

theorem mayClaim_of_lost {w : σ} {r : Stretch × Site σ} (hord : d.site.Ordered host w)
    (hcap : d.pool.active.length ≤ d.pool.config.maxActive.toNat)
    (hruns : d.stretch? host e = some r) {q : Record} (hq : q ∈ d.pool.active)
    (hlost : q ∉ r.2.pool.active) :
    d.pool.active.head? = some q ∧ ∃ u, d.LooksAt host e u ∧ d.MayClaim host u q := by
  obtain ⟨s, hw, hs, ⟨c, rfl⟩ | rfl⟩ := stretch_cases hruns
  · have hcap' : s.pool.active.length ≤ s.pool.config.maxActive.toNat := by
      rw [hs.active, hs.config]
      exact hcap
    rcases Site.acquire_active host (s.pool.config.badConnectionLimit - c.bad) c s hcap' with
      hkept | ⟨k, u, p, rest, hk, hmisses, hclaims, hu, hfront, hrest⟩
    · exact absurd (hkept.subset (hs.active.symm ▸ hq)) hlost
    · have hfront : d.pool.active = p :: rest := hs.active.symm.trans hfront
      have hactive : u.pool.active = d.pool.active := hu.trans hs.active
      have hconfig : u.pool.config = d.pool.config := hmisses.settings.config.trans hs.config
      have hqp : q = p := by
        rw [hfront] at hq
        rcases List.mem_cons.mp hq with hqp | hq
        · exact hqp
        · exact absurd (hrest.subset hq) hlost
      subst hqp
      refine ⟨by rw [hfront, List.head?_cons], u, ⟨s, c, k, hruns, hw, hs, hk, hmisses⟩, ?_⟩
      refine ⟨hclaims.none_idle, hactive, ?_, ?_, fun p hp => ?_⟩
      · rw [← hconfig, ← hactive]
        exact hclaims.full
      · rw [← hconfig]
        exact hclaims.overdue
      · have hsorted := hord.sorted
        rw [← pool, hfront] at hsorted
        rw [hfront] at hp
        rcases List.mem_cons.mp hp with rfl | hp
        · exact Nat.le_refl _
        · exact (List.pairwise_cons.mp hsorted).1 p hp
  · exact absurd (hs.active.symm ▸ hq) hlost

theorem none_overdue_of_waits {w : σ} {x : Waiting} {t : Site σ} (hord : d.site.Ordered host w)
    (hruns : d.stretch? host e = some (.waits x, t)) :
    ∃ u, d.LooksAt host e u ∧ u.pool.active = t.pool.active ∧ ∀ q ∈ u.pool.active,
      (u.now host).1 - q.checkoutAt ≤ d.pool.config.maxCheckoutTime.toNat * nanosPerMilli := by
  obtain ⟨s, hw, hs, ⟨c, hc⟩ | hc⟩ := stretch_cases hruns
  · have hx : (s.proceed host c).1 = .waits x := by rw [← hc]
    have ht : (s.proceed host c).2 = t := by rw [← hc]
    obtain ⟨k, u, hk, hmisses, hactive, hearly⟩ := Site.acquire_waits_early host _ c s hx
    rw [← Site.proceed, ht] at hactive
    refine ⟨u, ⟨s, c, k, hc ▸ hruns, hw, hs, hk, hmisses⟩, hactive.symm, fun q hq => ?_⟩
    have hconfig : u.pool.config = d.pool.config := hmisses.settings.config.trans hs.config
    have hsorted : u.pool.active.Pairwise fun p q => p.checkoutAt ≤ q.checkoutAt :=
      hord.sorted.sublist (hs.active ▸ hmisses.active_suffix.sublist)
    cases hfront : u.pool.active with
    | nil => simp [hfront] at hq
    | cons p rest =>
      rw [hfront] at hq hsorted
      have hp := hearly p (by rw [hfront, List.head?_cons])
      rw [Site.IsOverdue, hconfig] at hp
      have hle : p.checkoutAt ≤ q.checkoutAt := by
        rcases List.mem_cons.mp hq with rfl | hq
        · exact Nat.le_refl _
        · exact (List.pairwise_cons.mp hsorted).1 q hq
      omega
  · cases congrArg Prod.fst hc

theorem run_ordered (host : Host σ) (source : Source) (config : PoolConfig) (w : σ)
    (hclock : host.KeepsTime w) (es : List Event) :
    ((start source config w).run host es).site.Ordered host w := by
  induction es using List.reverseRecOn with
  | nil => exact ⟨.refl, .nil, nofun⟩
  | append_singleton es e ih =>
    rw [run_concat]
    exact (Site.Ordered.kept hclock).step ih e

/-- As long as the clock does not go back, the active connections stand in the order in which they
were checked out. A stretch of a checkout takes a connection from one holder at most, and only where
none is idle, no place is free, and that holder has had it for too long and for longest; and a
checkout waits only where nobody has had a connection for too long. -/
theorem run_claims_longest_overdue (host : Host σ) (source : Source) (config : PoolConfig) (w : σ)
    (es : List Event) (hclock : host.KeepsTime w) :
    let d := (start source config w).run host es
    d.pool.active.Pairwise (fun p q => p.checkoutAt ≤ q.checkoutAt) ∧
      ∀ e r, d.stretch? host e = some r →
        (∀ q ∈ d.pool.active, ¬ Holds r.2.pool q →
          ∃ u, d.LooksAt host e u ∧ d.MayClaim host u q) ∧
        (∀ p ∈ d.pool.active, ∀ q ∈ d.pool.active,
          ¬ Holds r.2.pool p → ¬ Holds r.2.pool q → p = q) ∧
        ∀ x, r.1 = .waits x →
          ∃ u, d.LooksAt host e u ∧ u.pool.active = r.2.pool.active ∧ ∀ q ∈ u.pool.active,
            (u.now host).1 - q.checkoutAt ≤
              d.pool.config.maxCheckoutTime.toNat * nanosPerMilli := by
  intro d
  have hord : d.site.Ordered host w := run_ordered host source config w hclock es
  refine ⟨hord.sorted, fun e r hruns => ?_⟩
  have hsound := (start_sound source config w).history host es
  have hvalid : ∀ q ∈ r.2.pool.active, r.2.pool.flags.isValid q.flag = true := by
    have hd : d = ((start source config w).watched.history host es).forget :=
      run_eq_forget host _ es
    exact hsound.stretch_valid (hd ▸ hruns)
  have hlost : ∀ q ∈ d.pool.active, ¬ Holds r.2.pool q →
      d.pool.active.head? = some q ∧ ∃ u, d.LooksAt host e u ∧ d.MayClaim host u q := by
    intro q hq hh
    have hcap := run_active_le host source config w es
    exact mayClaim_of_lost hord hcap hruns hq fun ha => hh ⟨ha, hvalid q ha⟩
  refine ⟨fun q hq hh => (hlost q hq hh).2, fun p hp q hq hhp hhq => ?_, fun x hx => ?_⟩
  · exact Option.some.inj ((hlost p hp hhp).1.symm.trans (hlost q hq hhq).1)
  · have hruns : d.stretch? host e = some (.waits x, r.2) :=
      hruns.trans (congrArg some (Prod.ext hx rfl))
    exact none_overdue_of_waits hord hruns

end Desk

namespace World

def reached (w : World) : Nat := w.clock.time + w.clock.late

theorem connect_clock (driver url : String) (p : Properties) (w : World) :
    (connect driver url p w).2.clock = w.clock := by
  unfold connect
  split
  · unfold addSqlite
    dsimp only
    split <;> rfl
  · unfold connectScripted
    dsimp only
    split <;> rfl

theorem call_clock (c : ConnId) (k : Call) (w : World) : (call c k w).2.clock = w.clock := by
  unfold call
  split
  · rfl
  · rename_i s _
    cases s.line? k <;> rfl
  · rfl

theorem close_clock (c : ConnId) (w : World) : (close c w).2.clock = w.clock := by
  unfold close
  split <;> rfl

theorem reached_le_of_leads {w u : World} (h : host.Leads w u) : w.reached ≤ u.reached := by
  have hsame : ∀ v : World, v.clock = w.clock → w.reached ≤ v.reached :=
    fun v hv => Nat.le_of_eq (by rw [reached, reached, hv])
  cases h with
  | now =>
    show w.clock.time + w.clock.late ≤ w.clock.read.2.time + w.clock.read.2.late
    unfold Clock.read
    split <;> simp
  | serial c => exact hsame _ rfl
  | connect driver url properties => exact hsame _ (connect_clock driver url properties w)
  | call c k => exact hsame _ (call_clock c k w)
  | close c => exact hsame _ (close_clock c w)
  | isClosed c => exact hsame _ rfl

theorem reached_le_of_later {w u : World} (h : host.Later w u) : w.reached ≤ u.reached := by
  induction h with
  | refl => exact Nat.le_refl _
  | tail _ hlead ih => exact Nat.le_trans ih (reached_le_of_leads hlead)

/-- What is read is what has been reached then. -/
theorem now_eq_reached (w : World) : (host.now w).1 = (host.now w).2.reached := rfl

/-- The clock of this world does not go back. -/
theorem keepsTime (w : World) : host.KeepsTime w := by
  intro u v _ hv
  have hnow : host.Later v (host.now v).2 := .single .now
  rw [now_eq_reached, now_eq_reached]
  exact reached_le_of_later (hv.trans hnow)

end World

namespace Desk

/-- Of two holders, both overdue, the third checkout takes the connection from one. -/
theorem mayClaim_of_third :
    let d := (start { driver := "mock", url := "mock:db" }
      { maxActive := 2, maxCheckoutTime := 0 } {}).run World.host [.checkout none, .checkout none]
    World.host.KeepsTime ({} : World) ∧ d.pool.active.length = 2 ∧
      ∃ q ∈ d.pool.active, ∃ r, d.stretch? World.host (.checkout none) = some r ∧
        ¬ Holds r.2.pool q ∧
        ∃ u, d.LooksAt World.host (.checkout none) u ∧ d.MayClaim World.host u q := by
  intro d
  have hclock : World.host.KeepsTime ({} : World) := World.keepsTime {}
  have hruns : d.stretch? World.host (.checkout none) = some (d.site.begin World.host none) := rfl
  have hlost : ∃ q ∈ d.pool.active, ¬ Holds (d.site.begin World.host none).2.pool q := by decide
  obtain ⟨q, hq, hh⟩ := hlost
  obtain ⟨-, hstretch⟩ := run_claims_longest_overdue World.host _ _ _ _ hclock
  exact ⟨hclock, rfl, q, hq, _, hruns, hh, (hstretch _ _ hruns).1 q hq hh⟩

end Desk
end ConnPool
