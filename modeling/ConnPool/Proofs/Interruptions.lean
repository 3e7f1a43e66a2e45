import ConnPool.Proofs.Later
import ConnPool.Proofs.Waiting
import Mathlib.Data.List.Nodup

namespace ConnPool

/-- A stretch as it goes after one more interruption: a wait begins with a higher count. -/
def Stretch.interrupted : Stretch → Stretch
  | .done r => .done r
  | .waits w => .waits { w with generation := w.generation + 1 }

namespace Site

variable {σ : Type} (host : Host σ) (s : Site σ)

theorem create_interrupt : s.interrupt.create host =
    ((s.create host).1, (s.create host).2.interrupt) := by
  have hrun : s.interrupt.run (s.pool.source.openDefault host) =
      ((s.run (s.pool.source.openDefault host)).1,
        (s.run (s.pool.source.openDefault host)).2.interrupt) := rfl
  unfold create
  rw [show s.interrupt.pool.source = s.pool.source from rfl, hrun]
  cases s.run (s.pool.source.openDefault host) with
  | mk o t => cases o <;> rfl

theorem claim_interrupt (oldest : Record) (rest : List Record) :
    s.interrupt.claim host oldest rest =
      ((s.claim host oldest rest).1, (s.claim host oldest rest).2.interrupt) := rfl

theorem nextCandidate_interrupt : s.interrupt.nextCandidate host =
    ((s.nextCandidate host).1, (s.nextCandidate host).2.interrupt) := by
  have hidle : s.interrupt.pool.idle = s.pool.idle := rfl
  have hactive : s.interrupt.pool.active = s.pool.active := rfl
  have hconfig : s.interrupt.pool.config = s.pool.config := rfl
  cases hi : s.pool.idle with
  | cons r rest =>
    rw [nextCandidate_of_idle hi, nextCandidate_of_idle (hidle.trans hi)]
    rfl
  | nil =>
    by_cases hm : s.pool.active.length < s.pool.config.maxActive.toNat
    · rw [nextCandidate_of_room hi hm, nextCandidate_of_room (hidle.trans hi) hm,
        create_interrupt]
    · cases ha : s.pool.active with
      | nil =>
        have hm : ¬ 0 < s.pool.config.maxActive.toNat := by simpa [ha] using hm
        rw [nextCandidate_of_empty hi ha hm,
          nextCandidate_of_empty (hidle.trans hi) (hactive.trans ha) hm]
      | cons oldest rest =>
        have hm : ¬ (oldest :: rest).length < s.pool.config.maxActive.toNat := by
          simpa [ha] using hm
        have hnow : s.interrupt.now host = ((s.now host).1, (s.now host).2.interrupt) := rfl
        rw [nextCandidate_of_full hi ha hm,
          nextCandidate_of_full (hidle.trans hi) (hactive.trans ha) hm, hnow, hconfig,
          claim_interrupt]
        split <;> rfl

theorem ping_interrupt (r : Record) :
    s.interrupt.ping host r = ((s.ping host r).1, (s.ping host r).2.interrupt) := by
  cases hc : (host.isClosed r.conn s.world).1 with
  | true =>
    rw [ping_of_closed hc, ping_of_closed (s := s.interrupt) hc]
    rfl
  | false =>
    cases hp : s.pool.config.pingEnabled with
    | false =>
      rw [ping_of_disabled hc hp, ping_of_disabled (s := s.interrupt) hc hp]
      rfl
    | true =>
      by_cases ht : s.isFresh host r
      · rw [ping_of_fresh hc hp ht, ping_of_fresh (s := s.interrupt) hc hp ht]
        rfl
      · rw [ping_of_stale hc hp ht, ping_of_stale (s := s.interrupt) hc hp ht]
        have hrun : run ((s.interrupt.asked host r).now host).2 (s.interrupt.pinging host r) =
            ((run ((s.asked host r).now host).2 (s.pinging host r)).1,
              (run ((s.asked host r).now host).2 (s.pinging host r)).2.interrupt) := rfl
        rw [hrun]
        cases run ((s.asked host r).now host).2 (s.pinging host r) with
        | mk o t => cases o <;> rfl

theorem validate_interrupt (r : Record) :
    s.interrupt.validate host r = ((s.validate host r).1, (s.validate host r).2.interrupt) := by
  cases hv : s.pool.flags.isValid r.flag with
  | true => rw [validate_of_valid hv, validate_of_valid (s := s.interrupt) hv, ping_interrupt]
  | false => rw [validate_of_invalid hv, validate_of_invalid (s := s.interrupt) hv]

theorem wait_interrupt (c : Checkout) : s.interrupt.wait host c =
    ({ (s.wait host c).1 with generation := (s.wait host c).1.generation + 1 },
      (s.wait host c).2.interrupt) := by
  unfold wait
  cases c.counted <;> rfl

/-- A checkout that does not wait runs on as if there had been no interruption. -/
theorem acquire_interrupt (spare : Nat) (c : Checkout) (s : Site σ) :
    acquire host spare c s.interrupt =
      ((acquire host spare c s).1.interrupted, (acquire host spare c s).2.interrupt) := by
  have hnext := nextCandidate_interrupt host s
  cases hn : s.nextCandidate host with
  | mk o t =>
    rw [hn] at hnext
    match o with
    | .error f =>
      rw [acquire_of_error spare c hn, acquire_of_error spare c hnext]
      rfl
    | .ok .mustWait =>
      rw [acquire_of_wait spare c hn, acquire_of_wait spare c hnext, wait_interrupt]
      rfl
    | .ok (.ready r) =>
      have hvalid := validate_interrupt host t r
      cases hv : t.validate host r with
      | mk b u =>
        rw [hv] at hvalid
        cases b with
        | true =>
          rw [acquire_of_good spare c hn hv, acquire_of_good spare c hnext hvalid]
          rfl
        | false =>
          rw [acquire_of_bad spare c hn hv, acquire_of_bad spare c hnext hvalid]
          cases spare with
          | zero => rfl
          | succ spare => exact acquire_interrupt spare { c with bad := c.bad + 1 } u.countBad

theorem begin_interrupt (credentials : Option (String × String)) :
    s.interrupt.begin host credentials =
      ((s.begin host credentials).1.interrupted, (s.begin host credentials).2.interrupt) :=
  acquire_interrupt host _ _ (s.now host).2

theorem discards_interrupt (rs : List Record) (s : Site σ) :
    rs.foldl (fun s r => s.discard host r) s.interrupt =
      (rs.foldl (fun s r => s.discard host r) s).interrupt := by
  induction rs generalizing s with
  | nil => rfl
  | cons r rs ih => exact ih (s.discard host r)

theorem drain_interrupt : s.interrupt.drain host = (s.drain host).interrupt :=
  discards_interrupt host (s.pool.active.reverse ++ s.pool.idle.reverse)
    (s.modify fun p => { p with expected := p.source.typeCode, active := [], idle := [] })

theorem wait_generation (host : Host σ) (s : Site σ) (c : Checkout) :
    (s.wait host c).1.generation = (s.wait host c).2.pool.generation := by
  unfold wait
  split <;> rfl

variable {host} {s} {spare : Nat} {c : Checkout}

/-- A wait begins with the number of interruptions so far. -/
theorem acquire_waits_generation {x : Waiting} (h : (acquire host spare c s).1 = .waits x) :
    x.generation = (acquire host spare c s).2.pool.generation := by
  obtain ⟨n, t, -, -, hend⟩ := acquire_ends host spare c s
  generalize acquire host spare c s = r at h hend
  cases hend with
  | waiting u found =>
    obtain rfl := Stretch.waits.inj h
    exact wait_generation host u _
  | _ => cases h

/-- A stretch that looks at the pool fails because too many connections are bad, or because none
can be opened. -/
theorem acquire_fails {f : Failure} (h : (acquire host spare c s).1 = .done (.error f)) :
    f = .error .poolExhausted ∨
      ∃ w, host.Later s.world w ∧ (s.pool.source.openDefault host w).1 = .error f := by
  obtain ⟨n, t, -, hmisses, hend⟩ := acquire_ends host spare c s
  generalize acquire host spare c s = r at h hend
  cases hend with
  | failed g u found =>
    obtain rfl := Except.error.inj (Stretch.done.inj h)
    have hlook := look_of_eq found
    cases hlook with
    | refused _ w none_idle room fails =>
      refine .inr ⟨t.world, hmisses.before, ?_⟩
      rw [← hmisses.settings.source, fails]
  | exhausted u miss =>
    exact .inl (Except.error.inj (Stretch.done.inj h)).symm
  | _ => cases h

end Site

namespace Desk

variable {σ : Type} {host : Host σ} {d : Desk σ} {e : Event} {v : Waiter}

/-- Whether an event ends all waits: an interruption or a shutdown, by the holder of the pool. -/
def interrupts (d : Desk σ) : Event → Bool
  | .interrupt | .shutdown => d.isHeld
  | _ => false

/-- The number of interruptions while one event after the other happens. -/
def interruptions (host : Host σ) : Desk σ → List Event → Nat
  | _, [] => 0
  | d, e :: es => (d.interrupts e).toNat + interruptions host (d.step host e) es

theorem run_append (host : Host σ) (d : Desk σ) (fs gs : List Event) :
    d.run host (fs ++ gs) = (d.run host fs).run host gs := List.foldl_append

theorem interruptions_append (host : Host σ) (d : Desk σ) (fs gs : List Event) :
    d.interruptions host (fs ++ gs) =
      d.interruptions host fs + (d.run host fs).interruptions host gs := by
  induction fs generalizing d with
  | nil => simp [interruptions, run]
  | cons e fs ih =>
    rw [List.cons_append, interruptions, interruptions, ih, Nat.add_assoc]
    rfl

theorem interruptions_le (host : Host σ) (d : Desk σ) (gs : List Event) :
    d.interruptions host gs ≤ gs.length := by
  induction gs generalizing d with
  | nil => exact Nat.le_refl 0
  | cons e gs ih =>
    have hone := Bool.toNat_le (d.interrupts e)
    have hrest := ih (d.step host e)
    simp only [interruptions, List.length_cons]
    omega

theorem interruptions_pos {gs : List Event} (h : d.interruptions host gs ≠ 0) :
    ∃ hs e ks, gs = hs ++ e :: ks ∧ (d.run host hs).interrupts e = true := by
  induction gs generalizing d with
  | nil => exact absurd rfl h
  | cons e gs ih =>
    cases he : d.interrupts e with
    | true => exact ⟨[], e, gs, rfl, he⟩
    | false =>
      have hrest : (d.step host e).interruptions host gs ≠ 0 := by
        simpa [interruptions, he] using h
      obtain ⟨hs, f, ks, rfl, hf⟩ := ih hrest
      exact ⟨e :: hs, f, ks, rfl, hf⟩

theorem stretch_settings {r : Stretch × Site σ} (h : d.stretch? host e = some r) :
    d.pool.SameSettings r.2.pool := by
  obtain ⟨s, -, hs, ⟨c, rfl⟩ | rfl⟩ := stretch_cases h
  · exact hs.toSameSettings.trans (Site.acquire_settings host _ c s)
  · exact hs.toSameSettings

/-- Only a change of a setting changes the settings. -/
theorem step_unconfigured (host : Host σ) (d : Desk σ) (he : ∀ setting, e ≠ .configure setting) :
    (d.step host e).pool.source = d.pool.source ∧
      (d.step host e).pool.config = d.pool.config := by
  have hdrain (s : Site σ) : (s.drain host).pool.source = s.pool.source ∧
      (s.drain host).pool.config = s.pool.config := by
    rw [Site.drain_pool]
    exact ⟨rfl, rfl⟩
  have hclose (d : Desk σ) : (d.closeUnused host).pool.source = d.pool.source ∧
      (d.closeUnused host).pool.config = d.pool.config := by
    unfold closeUnused
    split
    · exact hdrain d.site
    · exact ⟨rfl, rfl⟩
  have heffect := d.step_effect host e
  generalize d.step host e = d' at heffect
  cases heffect with
  | nothing _ none_goes_on => exact ⟨rfl, rfl⟩
  | begun credentials held =>
    have hset := stretch_settings (stretch_of_held host held credentials)
    rw [pool, afterStretch_site]
    exact ⟨hset.source, hset.config⟩
  | resumed id v waiter =>
    have hset := stretch_settings (stretch_of_waiter host waiter)
    rw [(hclose _).1, (hclose _).2, pool, afterStretch_site]
    exact ⟨hset.source, hset.config⟩
  | returned i l lease out isOpen =>
    have hset := (d.site.giveBack_takesBack host l.grant.flag).same
    rw [pool, giveBack_site]
    exact ⟨hset.source, hset.config⟩
  | orphaned i l lease out gone =>
    unfold closeOrphan
    split <;> exact ⟨rfl, rfl⟩
  | called i k l lease valid => exact ⟨rfl, rfl⟩
  | asked i l lease out valid => exact ⟨rfl, rfl⟩
  | interrupted held => exact ⟨rfl, rfl⟩
  | shut held => exact hdrain d.site.interrupt
  | drained held => exact hdrain d.site
  | configured setting p held set => exact absurd rfl (he setting)
  | letGo held => exact hclose { d with isHeld := false }

theorem closeUnused_generation (host : Host σ) (d : Desk σ) :
    (d.closeUnused host).pool.generation = d.pool.generation := by
  unfold closeUnused
  split
  · show (d.site.drain host).pool.generation = _
    rw [Site.drain_pool]
    rfl
  · rfl

/-- An event counts the interruption that it is, and no other event does. -/
theorem step_generation (host : Host σ) (d : Desk σ) (e : Event) :
    (d.step host e).pool.generation =
      d.pool.generation + UInt64.ofNat (d.interrupts e).toNat := by
  have hdrain (s : Site σ) : (s.drain host).pool.generation = s.pool.generation := by
    rw [Site.drain_pool]
  have heffect := d.step_effect host e
  generalize hd : d.step host e = d' at heffect
  cases heffect with
  | nothing _ none_goes_on =>
    cases hi : d.interrupts e with
    | false => simp
    | true =>
      have hgeneration : (d.step host e).pool.generation = d.pool.generation + 1 := by
        cases e with
        | interrupt =>
          have hheld : d.isHeld = true := hi
          simp [step, hheld, interrupt, wakeAll, pool, Site.interrupt, Site.modify]
        | shutdown =>
          have hheld : d.isHeld = true := hi
          simp [step, hheld, shutdown, wakeAll, pool, hdrain, Site.interrupt, Site.modify]
        | _ => cases hi
      rwa [hd] at hgeneration
  | begun credentials held =>
    rw [pool, afterStretch_site]
    simpa [interrupts] using (stretch_settings (stretch_of_held host held credentials)).generation
  | resumed id u waiter =>
    rw [closeUnused_generation, pool, afterStretch_site]
    simpa [interrupts] using (stretch_settings (stretch_of_waiter host waiter)).generation
  | returned i l lease out isOpen =>
    rw [pool, giveBack_site]
    have hset := (d.site.giveBack_takesBack host l.grant.flag).same
    show (d.site.giveBack host l.grant.flag).2.pool.generation = _
    simpa [interrupts, pool] using hset.generation
  | orphaned i l lease out gone =>
    unfold closeOrphan
    split <;> simp [interrupts, markReleased, pool, Site.settle, Site.revoke, Site.modify]
  | called i k l lease valid => simp [interrupts, pool, Site.run]
  | asked i l lease out valid => simp [interrupts, pool]
  | interrupted held =>
    simp [interrupts, held, interrupt, wakeAll, pool, Site.interrupt, Site.modify]
  | shut held =>
    simp [interrupts, held, shutdown, wakeAll, pool, hdrain, Site.interrupt, Site.modify]
  | drained held => simp [interrupts, drain, pool, hdrain]
  | configured setting p held set =>
    have hset : p.generation = d.pool.generation := by
      obtain ⟨source, config, rfl⟩ := Pool.set_ok set
      rfl
    simp [interrupts, drain, pool, hdrain, hset]
  | letGo held =>
    rw [closeUnused_generation]
    simp [interrupts, pool]

theorem run_generation (host : Host σ) (d : Desk σ) (es : List Event) :
    (d.run host es).pool.generation =
      d.pool.generation + UInt64.ofNat (d.interruptions host es) := by
  induction es generalizing d with
  | nil => simp [run, interruptions]
  | cons e es ih =>
    have hrun : d.run host (e :: es) = (d.step host e).run host es := rfl
    rw [hrun, ih, step_generation, interruptions, UInt64.ofNat_add, UInt64.add_assoc]

def Waits (d : Desk σ) (id : Nat) (w : Waiting) : Prop :=
  ∃ v ∈ d.waiters, v.id = id ∧ v.waiting = w

section

variable {id : Nat} {w : Waiting} {gs : List Event}

theorem Waits.find (h : d.Waits id w) (hn : d.Numbered) :
    ∃ v, d.waiters.find? (·.id == id) = some v ∧ v.waiting = w := by
  obtain ⟨v, hv, rfl, rfl⟩ := h
  cases hf : d.waiters.find? (·.id == v.id) with
  | none => simpa using List.find?_eq_none.mp hf v hv
  | some u =>
    have hid : u.id = v.id := by simpa using List.find?_some hf
    have hu : u ∈ d.waiters := List.mem_of_find?_eq_some hf
    exact ⟨u, rfl, congrArg (·.waiting) (List.inj_on_of_nodup_map hn.once hu hv hid)⟩

theorem Waits.of_map {d' : Desk σ} (h : d.Waits id w)
    (hw : d'.waiters = d.waiters ∨ d'.waiters = d.wakeAll.waiters) : d'.Waits id w := by
  obtain ⟨v, hv, hid, hwait⟩ := h
  rcases hw with hw | hw
  · exact ⟨v, hw ▸ hv, hid, hwait⟩
  · exact ⟨{ v with woken := true }, hw ▸ List.mem_map_of_mem hv, hid, hwait⟩

theorem Waits.of_wakeAll (h : d.wakeAll.Waits id w) : d.Waits id w := by
  obtain ⟨v, hv, hid, hwait⟩ := h
  obtain ⟨u, hu, rfl⟩ := List.mem_map.mp hv
  exact ⟨u, hu, hid, hwait⟩

theorem waits_closeUnused : (d.closeUnused host).Waits id w ↔ d.Waits id w := by
  rw [Waits, Waits, (closeUnused_waiters host d).1]

theorem waits_giveBack {l : Lease} : (d.giveBack host l).Waits id w ↔ d.Waits id w := by
  have hw := (giveBack_waiters host d l).2
  split at hw
  · exact ⟨fun h => (h.of_map (.inl hw.symm) : d.wakeAll.Waits id w).of_wakeAll,
      fun h => h.of_map (.inr hw)⟩
  · rw [Waits, Waits, hw]

theorem Waits.afterStretch (h : d.Waits id w) (k : Nat) (r : Stretch × Site σ) :
    (afterStretch d k r).2.Waits id w := by
  obtain ⟨v, hv, hwait⟩ := h
  obtain ⟨-, hw | ⟨x, -, hw⟩⟩ := afterStretch_waiters d k r
  · exact ⟨v, hw ▸ hv, hwait⟩
  · exact ⟨v, hw ▸ List.mem_append_left _ hv, hwait⟩

theorem waits_afterStretch {k : Nat} {r : Stretch × Site σ}
    (h : (Desk.afterStretch d k r).2.Waits id w) : d.Waits id w ∨ id = k ∧ r.1 = .waits w := by
  obtain ⟨v, hv, hid, hwait⟩ := h
  obtain ⟨-, hw | ⟨x, hr, hw⟩⟩ := afterStretch_waiters d k r
  · exact .inl ⟨v, hw ▸ hv, hid, hwait⟩
  · rw [hw] at hv
    rcases List.mem_append.mp hv with hv | hv
    · exact .inl ⟨v, hv, hid, hwait⟩
    · obtain rfl := List.mem_singleton.mp hv
      exact .inr ⟨hid.symm, hwait ▸ hr⟩

/-- A blocked checkout stays blocked until it goes on itself. -/
theorem Waits.step (h : d.Waits id w) (host : Host σ) (he : e ≠ .resume id) :
    (d.step host e).Waits id w := by
  have heffect := d.step_effect host e
  generalize d.step host e = d' at heffect
  cases heffect with
  | nothing _ none_goes_on => exact h
  | begun credentials held => exact Waits.afterStretch (d := { d with begun := d.begun + 1 }) h _ _
  | resumed k u waiter =>
    obtain ⟨v, hv, hid, hwait⟩ := h
    refine waits_closeUnused.mpr (Waits.afterStretch ⟨v, ?_, hid, hwait⟩ _ _)
    have hne : v.id ≠ k := fun hk => he (by rw [← hk, hid])
    exact (List.mem_eraseP_of_neg (by simpa using hne)).mpr hv
  | returned i l lease out isOpen => exact waits_giveBack.mpr h
  | orphaned i l lease out gone => exact h.of_map (.inl (closeOrphan_waiters host _ l).2)
  | called i k l lease valid => exact h
  | asked i l lease out valid => exact h
  | interrupted held => exact h.of_map (.inr rfl)
  | shut held => exact h.of_map (.inr rfl)
  | drained held => exact h
  | configured setting p held set => exact h
  | letGo held => exact waits_closeUnused.mpr h

/-- A checkout that is blocked was blocked before and has not gone on, or has just begun to wait. -/
theorem waits_cases (hn : d.Numbered) (h : (d.step host e).Waits id w) :
    d.Waits id w ∧ e ≠ .resume id ∨
      d.runs? e = some id ∧
        ∃ s, d.stretch? host e = some (.waits w, s) ∧ (d.step host e).pool = s.pool := by
  have hafter := h
  have heffect := d.step_effect host e
  generalize d.step host e = d' at h hafter heffect
  cases heffect with
  | nothing _ none_goes_on =>
    refine .inl ⟨h, ?_⟩
    obtain ⟨v, hv, rfl, -⟩ := h
    exact none_goes_on v hv
  | begun credentials held =>
    rcases waits_afterStretch h with h | ⟨rfl, hw⟩
    · exact .inl ⟨h, by simp⟩
    · rw [pool, afterStretch_site]
      exact .inr ⟨if_pos held, _, (stretch_of_held host held credentials).trans
        (congrArg some (Prod.ext hw rfl)), rfl⟩
  | resumed k u waiter =>
    obtain ⟨v, hv, -, -⟩ := waits_closeUnused.mp hafter
    rcases waits_afterStretch (waits_closeUnused.mp h) with ⟨v, hv, hid, hwait⟩ | ⟨rfl, hw⟩
    · obtain ⟨hv, hne⟩ := hn.others waiter v hv
      exact .inl ⟨⟨v, hv, hid, hwait⟩, fun he => hne (hid.trans (Event.resume.inj he).symm)⟩
    · rw [closeUnused_of_waiter hv, pool, afterStretch_site]
      have hid : u.id = id := by simpa using List.find?_some waiter
      refine .inr ⟨?_, _, (stretch_of_waiter host waiter).trans
        (congrArg some (Prod.ext hw rfl)), rfl⟩
      rw [runs?, waiter, Option.map_some, hid]
  | returned i l lease out isOpen =>
    exact .inl ⟨waits_giveBack (d := d.markReleased i).mp h, by simp⟩
  | orphaned i l lease out gone =>
    exact .inl ⟨h.of_map (.inl (closeOrphan_waiters host (d.markReleased i) l).2.symm), by simp⟩
  | called i k l lease valid => exact .inl ⟨h, by simp⟩
  | asked i l lease out valid => exact .inl ⟨h, by simp⟩
  | interrupted held => exact .inl ⟨h.of_wakeAll, by simp⟩
  | shut held => exact .inl ⟨h.of_wakeAll, by simp⟩
  | drained held => exact .inl ⟨h, by simp⟩
  | configured setting p held set => exact .inl ⟨h, by simp⟩
  | letGo held => exact .inl ⟨waits_closeUnused (d := { d with isHeld := false }).mp h, by simp⟩

theorem Waits.run (h : d.Waits id w) (host : Host σ) (hgs : .resume id ∉ gs) :
    (d.run host gs).Waits id w := by
  induction gs generalizing d with
  | nil => exact h
  | cons e gs ih =>
    have hne : e ≠ .resume id := fun he => hgs (he ▸ List.mem_cons_self)
    exact ih (h.step host hne) fun hm => hgs (List.mem_cons_of_mem _ hm)

/-- Since a wait began, its checkout has not gone on, and what it noted was the number of
interruptions by then. -/
theorem Waits.since {es : List Event} (hn : d.Numbered) (hnone : d.waiters = [])
    (h : (d.run host es).Waits id w) :
    ∃ fs gs, es = fs ++ gs ∧ (d.run host fs).Waits id w ∧ .resume id ∉ gs ∧
      (d.run host fs).pool.generation = w.generation := by
  induction es using List.reverseRecOn with
  | nil =>
    obtain ⟨v, hv, -⟩ := h
    have hv : v ∈ d.waiters := hv
    rw [hnone] at hv
    exact absurd hv List.not_mem_nil
  | append_singleton es e ih =>
    rw [run_concat] at h
    rcases waits_cases (hn.run host es) h with ⟨hbefore, hne⟩ | ⟨-, s, hruns, hpool⟩
    · obtain ⟨fs, gs, rfl, hfs, hgs, hgeneration⟩ := ih hbefore
      exact ⟨fs, gs ++ [e], by simp, hfs, by simpa using ⟨hgs, hne.symm⟩, hgeneration⟩
    · refine ⟨es ++ [e], [], by simp, run_concat host d es e ▸ h, List.not_mem_nil, ?_⟩
      rw [run_concat, hpool]
      obtain ⟨u, -, -, ⟨c, hc⟩ | hc⟩ := stretch_cases hruns
      · have hw : (u.proceed host c).1 = .waits w := by rw [← hc]
        have hs : (u.proceed host c).2 = s := by rw [← hc]
        rw [← hs]
        exact (Site.acquire_waits_generation hw).symm
      · cases congrArg Prod.fst hc

end

/-- The desk once a blocked checkout has failed: the clock was read, and how long it waited is
counted. -/
def abandoned (host : Host σ) (d : Desk σ) (id : Nat) (w : Waiting) : Desk σ :=
  { d with
    site := ⟨{ d.pool with tally := { d.pool.tally with
      waitTime := d.pool.tally.waitTime + ((host.now d.site.world).1 - w.since) } },
      (host.now d.site.world).2⟩
    waiters := d.waiters.eraseP (·.id == id) }

/-- What interruptions do to a pool that has come to where it is by these events. -/
structure InterruptsExactly (host : Host σ) (d : Desk σ) (es : List Event) : Prop where
  /-- Whoever is blocked then fails whenever it goes on, whatever the pool has got by then. The
  interruptions are counted in 64 bits: there must not be too many while it is blocked. -/
  blocked_fail : ∀ (e : Event) (gs : List Event) (id : Nat) (w : Waiting),
    (d.run host es).interrupts e = true → (d.run host es).Waits id w → .resume id ∉ gs →
    (∀ fs ks, es ++ e :: gs = fs ++ ks → (d.run host fs).Waits id w → .resume id ∉ ks →
      (d.run host fs).interruptions host ks < UInt64.size) →
    (d.run host (es ++ e :: gs)).Waits id w ∧
      (d.run host (es ++ e :: gs)).resume host id =
        (some (.fail .poolUnknown),
          ((d.run host (es ++ e :: gs)).abandoned host id w).closeUnused host)
  /-- It need not wait for its deadline. -/
  blocked_woken : ∀ e : Event, (d.run host es).interrupts e = true →
    ((d.run host es).step host e).waiters =
      (d.run host es).waiters.map fun v => { v with woken := true }
  /-- Whoever comes afterwards fares as without the interruption; a shutdown is also a drain. -/
  begun_alike : ∀ credentials,
    ((d.run host es).step host .interrupt).stretch? host (.checkout credentials) =
      ((d.run host es).stretch? host (.checkout credentials)).map
        (fun r => (r.1.interrupted, r.2.interrupt)) ∧
    ((d.run host es).step host .shutdown).stretch? host (.checkout credentials) =
      (((d.run host es).step host .drain).stretch? host (.checkout credentials)).map
        fun r => (r.1.interrupted, r.2.interrupt)
  /-- Nothing else changes. -/
  only_counts : (d.run host es).isHeld = true →
    (d.run host es).step host .interrupt =
      { d.run host es with
        site := ⟨{ (d.run host es).pool with generation := (d.run host es).pool.generation + 1 },
          (d.run host es).site.world⟩
        waiters := (d.run host es).waiters.map fun v => { v with woken := true } }
  /-- Nobody else fails like that, but for an error that comes from the driver. -/
  only_blocked : ∀ (e : Event) (s : Site σ),
    (d.run host es).stretch? host e = some (.done (.fail .poolUnknown), s) →
    (∃ id w fs i gs, e = .resume id ∧ es = fs ++ i :: gs ∧ (d.run host fs).Waits id w ∧
      (d.run host fs).interrupts i = true ∧ .resume id ∉ i :: gs) ∨
    ∃ v, host.Later (d.run host es).site.world v ∧
      ((d.run host es).pool.source.openDefault host v).1 = .fail .poolUnknown

section

variable {id : Nat} {w : Waiting}

theorem stretch_after_interrupt (host : Host σ) (d : Desk σ)
    (credentials : Option (String × String)) :
    (d.step host .interrupt).stretch? host (.checkout credentials) =
      (d.stretch? host (.checkout credentials)).map fun r => (r.1.interrupted, r.2.interrupt) := by
  cases hheld : d.isHeld with
  | false => simp [step, Event.isOfHolder, stretch?, hheld]
  | true =>
    simp [step, interrupt, wakeAll, stretch?, hheld, Site.begin_interrupt]

theorem stretch_after_shutdown (host : Host σ) (d : Desk σ)
    (credentials : Option (String × String)) :
    (d.step host .shutdown).stretch? host (.checkout credentials) =
      ((d.step host .drain).stretch? host (.checkout credentials)).map
        fun r => (r.1.interrupted, r.2.interrupt) := by
  cases hheld : d.isHeld with
  | false => simp [step, Event.isOfHolder, stretch?, hheld]
  | true =>
    simp [step, shutdown, drain, wakeAll, stretch?, hheld, Site.drain_interrupt,
      Site.begin_interrupt]

theorem resume_of_interrupted (hn : d.Numbered) (h : d.Waits id w)
    (hne : d.pool.generation ≠ w.generation) : d.resume host id =
      (some (.fail .poolUnknown), (d.abandoned host id w).closeUnused host) := by
  obtain ⟨v, hv, rfl⟩ := h.find hn
  have hruns : d.site.resume host v.waiting = (.done (.fail .poolUnknown), d.site.waited host _) :=
    Site.resume_of_other hne
  rw [resume, hv]
  dsimp only
  rw [hruns]
  rfl

/-- After an interruption the count is another one than any blocked checkout has noted. -/
theorem generation_ne (hn : d.Numbered) (hnone : d.waiters = []) {es gs : List Event}
    (h : (d.run host es).Waits id w) (hi : (d.run host es).interrupts e = true)
    (hgs : .resume id ∉ gs)
    (hfew : ∀ fs ks, es ++ e :: gs = fs ++ ks → (d.run host fs).Waits id w → .resume id ∉ ks →
      (d.run host fs).interruptions host ks < UInt64.size) :
    (d.run host (es ++ e :: gs)).pool.generation ≠ w.generation := by
  obtain ⟨fs, ks, rfl, hfs, hks, hgeneration⟩ := h.since hn hnone
  have hne : e ≠ .resume id := by
    rintro rfl
    cases hi
  have hcount : (d.run host fs).interruptions host (ks ++ e :: gs) < UInt64.size :=
    hfew fs (ks ++ e :: gs) (by simp) hfs (by simpa using ⟨hks, hne.symm, hgs⟩)
  have hsome : (d.run host fs).interruptions host (ks ++ e :: gs) ≠ 0 := by
    rw [run_append] at hi
    rw [interruptions_append, interruptions, hi, Bool.toNat_true]
    omega
  rw [List.append_assoc, run_append, run_generation, hgeneration]
  intro he
  have hsum := congrArg UInt64.toNat he
  rw [UInt64.toNat_add, UInt64.toNat_ofNat_of_lt' hcount] at hsum
  have hw := w.generation.toNat_lt
  have hsize : UInt64.size = 18446744073709551616 := rfl
  omega

/-- What a wait noted is not the count any more: an interruption fell into it. -/
theorem Waits.interrupted (hn : d.Numbered) (hnone : d.waiters = []) {es : List Event}
    (h : (d.run host es).Waits id w) (hne : (d.run host es).pool.generation ≠ w.generation) :
    ∃ fs i gs, es = fs ++ i :: gs ∧ (d.run host fs).Waits id w ∧
      (d.run host fs).interrupts i = true ∧ .resume id ∉ i :: gs := by
  obtain ⟨fs, gs, rfl, hfs, hgs, hgeneration⟩ := h.since hn hnone
  have hsome : (d.run host fs).interruptions host gs ≠ 0 := by
    intro hzero
    rw [run_append, run_generation, hzero, hgeneration] at hne
    exact hne (by simp)
  obtain ⟨hs, i, ks, rfl, hi⟩ := interruptions_pos hsome
  simp only [List.mem_append, not_or] at hgs
  refine ⟨fs ++ hs, i, ks, by simp, ?_, ?_, hgs.2⟩
  · rw [run_append]
    exact hfs.run host hgs.1
  · rwa [run_append]

/-- A stretch that looks at the pool fails like that only if the driver does. -/
theorem driver_fails {s t : Site σ} {c : Checkout} (hb : d.site.Before host t)
    (ht : t.pool.source = d.pool.source)
    (h : t.proceed host c = (.done (.fail .poolUnknown), s)) :
    ∃ v, host.Later d.site.world v ∧
      (d.pool.source.openDefault host v).1 = .fail .poolUnknown := by
  rcases Site.acquire_fails (congrArg Prod.fst h) with hf | ⟨v, hv, hf⟩
  · cases hf
  · exact ⟨v, Relation.ReflTransGen.trans hb hv, ht ▸ hf⟩

theorem interrupted_of_fails (hn : d.Numbered) (hnone : d.waiters = []) {es : List Event}
    {s : Site σ} (h : (d.run host es).stretch? host e = some (.done (.fail .poolUnknown), s)) :
    (∃ id w fs i gs, e = .resume id ∧ es = fs ++ i :: gs ∧ (d.run host fs).Waits id w ∧
      (d.run host fs).interrupts i = true ∧ .resume id ∉ i :: gs) ∨
    ∃ v, host.Later (d.run host es).site.world v ∧
      ((d.run host es).pool.source.openDefault host v).1 = .fail .poolUnknown := by
  cases e with
  | checkout credentials =>
    simp only [stretch?] at h
    split at h
    · exact .inr (driver_fails (Site.before_now host _) rfl (Option.some.inj h))
    · cases h
  | resume id =>
    obtain ⟨v, hv, h⟩ := Option.map_eq_some_iff.mp h
    have hwaits : (d.run host es).Waits id v.waiting :=
      ⟨v, List.mem_of_find?_eq_some hv, by simpa using List.find?_some hv, rfl⟩
    by_cases hg : (d.run host es).pool.generation = v.waiting.generation
    · rw [Site.resume_of_same hg] at h
      have hread : (d.run host es).site.Before host
          ((d.run host es).site.waited host v.waiting) := Site.before_now host _
      exact .inr (driver_fails hread rfl h)
    · obtain ⟨fs, i, gs, hes, hfs, hi, hgs⟩ := hwaits.interrupted hn hnone hg
      exact .inl ⟨id, v.waiting, fs, i, gs, rfl, hes, hfs, hi, hgs⟩
  | _ => cases h

end

/-- Interruptions and shutdowns end exactly the waits that they fall into. -/
theorem run_interruptsExactly (host : Host σ) (source : Source) (config : PoolConfig) (w : σ)
    (es : List Event) : (start source config w).InterruptsExactly host es := by
  have hstart := start_numbered source config w
  have hn := hstart.run host es
  refine ⟨fun e gs id x hi hwait hgs hfew => ?_, fun e hi => ?_, fun credentials => ?_,
    fun hheld => ?_, fun e s hs => ?_⟩
  · have hne : e ≠ .resume id := by
      rintro rfl
      cases hi
    have hlater : ((start source config w).run host (es ++ e :: gs)).Waits id x := by
      rw [run_append]
      exact hwait.run host (by simpa using ⟨hne.symm, hgs⟩)
    refine ⟨hlater, resume_of_interrupted (hstart.run host _) hlater ?_⟩
    exact generation_ne hstart rfl hwait hi hgs hfew
  · cases e with
    | interrupt =>
      have hheld : ((start source config w).run host es).isHeld = true := hi
      simp [step, hheld, interrupt, wakeAll]
    | shutdown =>
      have hheld : ((start source config w).run host es).isHeld = true := hi
      simp [step, hheld, shutdown, wakeAll]
    | _ => cases hi
  · exact ⟨stretch_after_interrupt host _ credentials, stretch_after_shutdown host _ credentials⟩
  · simp [step, hheld, interrupt, wakeAll, Site.interrupt, Site.modify, pool]
  · exact interrupted_of_fails hstart rfl hs

/-- A checkout that was interrupted fails beside a connection that has come back. -/
theorem interruptsExactly_beside_idle :
    let d := start { driver := "mock", url := "mock:db" } { maxActive := 1 } {}
    let later := d.run World.host [.checkout none, .checkout none, .interrupt, .release 0]
    later.pool.idle.length = 1 ∧ (later.resume World.host 1).1 = some (.fail .poolUnknown) := by
  intro d later
  have hv : ∃ v ∈ (d.run World.host [.checkout none, .checkout none]).waiters, v.id = 1 := by
    decide
  obtain ⟨v, hv, hid⟩ := hv
  have hexact := run_interruptsExactly World.host { driver := "mock", url := "mock:db" }
    { maxActive := 1 } {} [.checkout none, .checkout none]
  obtain ⟨-, hfails⟩ := hexact.blocked_fail .interrupt [.release 0] 1 v.waiting (by decide)
    ⟨v, hv, hid, rfl⟩ (by simp) fun fs ks hes _ _ => by
      have hlength := congrArg List.length hes
      simp only [List.length_append, List.length_cons, List.length_nil] at hlength
      have hsize : UInt64.size = 18446744073709551616 := rfl
      refine Nat.lt_of_le_of_lt (interruptions_le World.host _ ks) ?_
      omega
  exact ⟨by decide, congrArg Prod.fst hfails⟩

end Desk
end ConnPool
