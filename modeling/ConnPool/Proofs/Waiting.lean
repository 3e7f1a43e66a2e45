import ConnPool.Proofs.Capacity
import ConnPool.Proofs.Effects
import ConnPool.Proofs.Stretches
import Mathlib.Data.List.Induction

namespace ConnPool

namespace Desk

variable {σ : Type} {host : Host σ} {d : Desk σ} {v : Waiter} {e : Event}

/-- A checkout waits, and nothing has woken it. -/
def Sleeps (d : Desk σ) (v : Waiter) : Prop := v ∈ d.waiters ∧ v.woken = false

/-- As many connections are checked out as may be. -/
def IsFull (d : Desk σ) : Prop := d.pool.config.maxActive.toNat ≤ d.pool.active.length

/-- A checkout sleeps beside a free place. -/
def Strands (d : Desk σ) : Prop :=
  (∃ v ∈ d.waiters, v.woken = false) ∧ d.pool.active.length < d.pool.config.maxActive.toNat

instance (d : Desk σ) : Decidable d.Strands := inferInstanceAs (Decidable (_ ∧ _))

structure Numbered (d : Desk σ) : Prop where
  once : (d.waiters.map (·.id)).Nodup
  begun : ∀ v ∈ d.waiters, v.id < d.begun

theorem Numbered.congr {d' : Desk σ} (h : d.Numbered)
    (hw : d'.waiters.map (·.id) = d.waiters.map (·.id)) (hb : d'.begun = d.begun) :
    d'.Numbered where
  once := hw ▸ h.once
  begun u hu := by
    have hm : u.id ∈ d.waiters.map (·.id) := hw ▸ List.mem_map_of_mem hu
    obtain ⟨v, hv, he⟩ := List.mem_map.mp hm
    rw [hb, ← he]
    exact h.begun v hv

theorem wakeAll_ids (d : Desk σ) : d.wakeAll.waiters.map (·.id) = d.waiters.map (·.id) := by
  simp [wakeAll, Function.comp_def]

theorem not_sleeps_wakeAll (d : Desk σ) : ¬ d.wakeAll.Sleeps v := by
  intro ⟨hv, ha⟩
  obtain ⟨u, -, rfl⟩ := List.mem_map.mp hv
  cases ha

theorem closeUnused_waiters (host : Host σ) (d : Desk σ) :
    (d.closeUnused host).waiters = d.waiters ∧ (d.closeUnused host).begun = d.begun := by
  unfold closeUnused
  split <;> exact ⟨rfl, rfl⟩

theorem closeUnused_of_waiter (hv : v ∈ d.waiters) : d.closeUnused host = d := by
  have hne : d.waiters ≠ [] := List.ne_nil_of_mem hv
  simp [closeUnused, hne]

/-- A stretch that ends by waiting puts its checkout behind the others. -/
theorem afterStretch_waiters (d : Desk σ) (id : Nat) (r : Stretch × Site σ) :
    (afterStretch d id r).2.begun = d.begun ∧
      ((afterStretch d id r).2.waiters = d.waiters ∨
        ∃ w, r.1 = .waits w ∧
          (afterStretch d id r).2.waiters = d.waiters ++ [⟨id, w, false⟩]) := by
  obtain ⟨(f | g) | w, s⟩ := r
  · exact ⟨rfl, .inl rfl⟩
  · exact ⟨rfl, .inl rfl⟩
  · exact ⟨rfl, .inr ⟨w, rfl, rfl⟩⟩

theorem giveBack_waiters (host : Host σ) (d : Desk σ) (l : Lease) :
    (d.giveBack host l).begun = d.begun ∧
      (d.giveBack host l).waiters =
        if (d.site.giveBack host l.grant.flag).1 then d.wakeAll.waiters else d.waiters := by
  unfold giveBack
  dsimp only
  split <;> exact ⟨rfl, rfl⟩

theorem closeOrphan_waiters (host : Host σ) (d : Desk σ) (l : Lease) :
    (d.closeOrphan host l).begun = d.begun ∧ (d.closeOrphan host l).waiters = d.waiters := by
  unfold closeOrphan
  split <;> exact ⟨rfl, rfl⟩

/-- A checkout that is not waiting, or not any more, may come to wait. -/
theorem Numbered.afterStretch (h : d.Numbered) {id : Nat} (hid : ∀ v ∈ d.waiters, v.id ≠ id)
    (hb : id < d.begun) (r : Stretch × Site σ) : (afterStretch d id r).2.Numbered := by
  obtain ⟨hbegun, hw | ⟨w, -, hw⟩⟩ := afterStretch_waiters d id r
  · exact h.congr (by rw [hw]) hbegun
  · refine ⟨?_, fun v hv => ?_⟩
    · rw [hw, List.map_append, List.map_singleton]
      refine List.nodup_append.mpr ⟨h.once, by simp, ?_⟩
      intro i hi j hj
      obtain ⟨v, hv, rfl⟩ := List.mem_map.mp hi
      rw [List.mem_singleton.mp hj]
      exact hid v hv
    · rw [hw] at hv
      rw [hbegun]
      rcases List.mem_append.mp hv with hv | hv
      · exact h.begun v hv
      · rw [List.mem_singleton.mp hv]
        exact hb

/-- Of the checkouts that wait, none but the one that goes on has its number. -/
theorem Numbered.others (h : d.Numbered) {id : Nat} {u : Waiter}
    (hu : d.waiters.find? (·.id == id) = some u) :
    ∀ v ∈ d.waiters.eraseP (·.id == id), v ∈ d.waiters ∧ v.id ≠ id := by
  intro v hv
  have hid : u.id = id := by simpa using List.find?_some hu
  have hp := (perm_of_find? hu).map (·.id)
  have hnot : u.id ∉ (d.waiters.eraseP (·.id == id)).map (·.id) :=
    (List.nodup_cons.mp (hp.nodup_iff.mp h.once)).1
  refine ⟨List.mem_of_mem_eraseP hv, fun he => hnot ?_⟩
  exact List.mem_map.mpr ⟨v, hv, he.trans hid.symm⟩

theorem Numbered.step (h : d.Numbered) (host : Host σ) (e : Event) :
    (d.step host e).Numbered := by
  have heffect := d.step_effect host e
  generalize d.step host e = d' at heffect
  cases heffect with
  | nothing _ none_goes_on => exact h
  | begun credentials held =>
    have hnext : Numbered { d with begun := d.begun + 1 } :=
      ⟨h.once, fun v hv => Nat.lt_succ_of_lt (h.begun v hv)⟩
    exact hnext.afterStretch (fun v hv => Nat.ne_of_lt (h.begun v hv)) (Nat.lt_succ_self _) _
  | resumed id u waiter =>
    have hid : u.id = id := by simpa using List.find?_some waiter
    have hothers := h.others waiter
    have hleft : Numbered { d with waiters := d.waiters.eraseP (·.id == id) } := by
      refine ⟨?_, fun v hv => h.begun v (hothers v hv).1⟩
      exact (List.eraseP_sublist.map _).nodup h.once
    have hb : id < d.begun := hid ▸ h.begun u (List.mem_of_find?_eq_some waiter)
    obtain ⟨hw, hbegun⟩ := closeUnused_waiters host
      (Desk.afterStretch { d with waiters := d.waiters.eraseP (·.id == id) } id
        (d.site.resume host u.waiting)).2
    exact (hleft.afterStretch (fun v hv => (hothers v hv).2) hb _).congr (by rw [hw]) hbegun
  | returned i l lease out isOpen =>
    obtain ⟨hb, hw⟩ := giveBack_waiters host (d.markReleased i) l
    refine h.congr ?_ hb
    rw [hw]
    split
    · exact wakeAll_ids d
    · rfl
  | orphaned i l lease out gone =>
    obtain ⟨hb, hw⟩ := closeOrphan_waiters host (d.markReleased i) l
    exact h.congr (congrArg (List.map (·.id)) hw) hb
  | called i k l lease valid => exact h.congr rfl rfl
  | asked i l lease out valid => exact h.congr rfl rfl
  | interrupted held => exact h.congr (wakeAll_ids d) rfl
  | shut held => exact h.congr (wakeAll_ids d) rfl
  | drained held => exact h.congr rfl rfl
  | configured setting p held set => exact h.congr rfl rfl
  | letGo held =>
    obtain ⟨hw, hb⟩ := closeUnused_waiters host { d with isHeld := false }
    exact h.congr (congrArg (List.map (·.id)) hw) hb

theorem Numbered.run (h : d.Numbered) (host : Host σ) (es : List Event) :
    (d.run host es).Numbered := by
  induction es generalizing d with
  | nil => exact h
  | cons e es ih => exact ih (h.step host e)

theorem start_numbered (source : Source) (config : PoolConfig) (w : σ) :
    (start source config w).Numbered := ⟨.nil, nofun⟩

inductive FreesQuietly (host : Host σ) (d : Desk σ) : Event → Prop where
  /-- A connection comes back and does not become idle: it is bad, or it is not kept. -/
  | returned (i : Nat) (l : Lease) (lease : d.leases[i]? = some l) (out : l.released = false)
      (isOpen : d.isOpen = true) (active : ∃ r ∈ d.pool.active, r.flag = l.grant.flag)
      (unkept : (d.step host (.release i)).pool.idle = d.pool.idle) :
      FreesQuietly host d (.release i)
  | drained (held : d.isHeld = true) : FreesQuietly host d .drain
  | configured (setting : Pool.Setting) (p : Pool) (held : d.isHeld = true)
      (set : d.pool.set setting = .ok p) : FreesQuietly host d (.configure setting)
  /-- A checkout takes a connection from its holder and then fails. -/
  | lost (e : Event) (f : Failure) (s : Site σ)
      (fails : d.stretch? host e = some (.done (.error f), s))
      (shorter : s.pool.active.length < d.pool.active.length) : FreesQuietly host d e

inductive Meanwhile (host : Host σ) (d : Desk σ) (e : Event) (p : Pool) : Prop where
  | same (idle : p.idle = d.pool.idle) (active : p.active = d.pool.active)
      (config : p.config = d.pool.config)
  | stretch (r : Stretch × Site σ) (runs : d.stretch? host e = some r) (after : p = r.2.pool)
  | emptied (idle : p.idle = []) (frees : d.FreesQuietly host e)
  | freed (idle : p.idle = d.pool.idle) (frees : d.FreesQuietly host e)

theorem sleeps_afterStretch {id : Nat} {r : Stretch × Site σ}
    (h : (afterStretch d id r).2.Sleeps v) : d.Sleeps v ∨ ∃ w, r.1 = .waits w := by
  obtain ⟨-, hw | ⟨w, hr, -⟩⟩ := afterStretch_waiters d id r
  · exact .inl ⟨hw ▸ h.1, h.2⟩
  · exact .inr ⟨w, hr⟩

/-- A checkout sleeps on when a connection comes back and does not become idle. -/
theorem meanwhile_returned {i : Nat} {l : Lease} (hl : d.leases[i]? = some l)
    (hu : l.released = false) (ho : d.isOpen = true)
    (h : ((d.markReleased i).giveBack host l).Sleeps v) :
    d.Sleeps v ∧ d.Meanwhile host (.release i) ((d.markReleased i).giveBack host l).pool := by
  obtain ⟨-, hw⟩ := giveBack_waiters host (d.markReleased i) l
  rw [Sleeps, hw] at h
  split at h
  · exact absurd h (not_sleeps_wakeAll _)
  · rename_i hunkept
    have hfalse : (d.site.giveBack host l.grant.flag).1 = false := Bool.eq_false_iff.mpr hunkept
    have hback := d.site.giveBack_takesBack host l.grant.flag
    rw [hfalse] at hback
    refine ⟨h, ?_⟩
    rw [pool, giveBack_site]
    cases hback with
    | missing _ found alike => exact .same alike.idle alike.active alike.config
    | lost _ r found settings idle active =>
      have hr : r ∈ d.pool.active := List.mem_of_find?_eq_some found
      have hflag : r.flag = l.grant.flag := by simpa using List.find?_some found
      have hstep : d.step host (.release i) = (d.markReleased i).giveBack host l := by
        simp [step, release, Event.isOfHolder, hl, hu, ho]
      refine .freed idle (.returned i l hl hu ho ⟨r, hr, hflag⟩ ?_)
      rw [hstep, pool, giveBack_site]
      exact idle

/-- A checkout that sleeps slept before, or the one that ran has looked at the pool and waits. -/
theorem sleeps_cases (hn : d.Numbered) (h : (d.step host e).Sleeps v) :
    (∃ w s, d.stretch? host e = some (.waits w, s) ∧ (d.step host e).pool = s.pool) ∨
      d.Sleeps v ∧ e ≠ .resume v.id ∧ d.Meanwhile host e (d.step host e).pool := by
  have heffect := d.step_effect host e
  generalize d.step host e = d' at h heffect
  cases heffect with
  | nothing _ none_goes_on => exact .inr ⟨h, none_goes_on v h.1, .same rfl rfl rfl⟩
  | begun credentials held =>
    have hruns := stretch_of_held host held credentials
    rw [pool, afterStretch_site]
    rcases sleeps_afterStretch h with hs | ⟨w, hw⟩
    · exact .inr ⟨hs, by simp, .stretch _ hruns rfl⟩
    · exact .inl ⟨w, _, hruns.trans (congrArg some (Prod.ext hw rfl)), rfl⟩
  | resumed id u waiter =>
    have hruns := stretch_of_waiter host waiter
    obtain ⟨hwaiters, -⟩ := closeUnused_waiters host (afterStretch
      { d with waiters := d.waiters.eraseP (·.id == id) } id (d.site.resume host u.waiting)).2
    have hs : (afterStretch { d with waiters := d.waiters.eraseP (·.id == id) } id
        (d.site.resume host u.waiting)).2.Sleeps v := ⟨hwaiters ▸ h.1, h.2⟩
    rw [closeUnused_of_waiter hs.1, pool, afterStretch_site]
    rcases sleeps_afterStretch hs with hs | ⟨w, hw⟩
    · obtain ⟨hv, hid⟩ := hn.others waiter v hs.1
      exact .inr ⟨⟨hv, hs.2⟩, fun he => hid (Event.resume.inj he).symm, .stretch _ hruns rfl⟩
    · exact .inl ⟨w, _, hruns.trans (congrArg some (Prod.ext hw rfl)), rfl⟩
  | returned i l lease out isOpen =>
    obtain ⟨hs, hpool⟩ := meanwhile_returned lease out isOpen h
    exact .inr ⟨hs, by simp, hpool⟩
  | orphaned i l lease out gone =>
    obtain ⟨-, hw⟩ := closeOrphan_waiters host (d.markReleased i) l
    refine .inr ⟨⟨hw ▸ h.1, h.2⟩, by simp, ?_⟩
    unfold closeOrphan
    split <;> exact .same rfl rfl rfl
  | called i k l lease valid => exact .inr ⟨h, by simp, .same rfl rfl rfl⟩
  | asked i l lease out valid => exact .inr ⟨h, by simp, .same rfl rfl rfl⟩
  | interrupted held => exact absurd h (not_sleeps_wakeAll _)
  | shut held => exact absurd h (not_sleeps_wakeAll _)
  | drained held => exact .inr ⟨h, by simp, .emptied (d.site.drain_lists host).1 (.drained held)⟩
  | configured setting p held set =>
    exact .inr ⟨h, by simp, .emptied (Site.drain_lists host { d.site with pool := p }).1
      (.configured setting p held set)⟩
  | letGo held =>
    obtain ⟨hw, -⟩ := closeUnused_waiters host { d with isHeld := false }
    have hs : d.Sleeps v := ⟨hw ▸ h.1, h.2⟩
    have hopen : closeUnused host { d with isHeld := false } = { d with isHeld := false } :=
      closeUnused_of_waiter hs.1
    rw [hopen]
    exact .inr ⟨hs, by simp, .same rfl rfl rfl⟩

/-- No event puts a connection beside a checkout that goes on sleeping. -/
theorem Meanwhile.idle_suffix {p : Pool} (h : d.Meanwhile host e p) : p.idle <:+ d.pool.idle := by
  cases h with
  | same idle active config => exact idle ▸ List.suffix_rfl
  | stretch r runs after => exact after ▸ stretch_idle_suffix runs
  | emptied idle frees => exact idle ▸ List.nil_suffix
  | freed idle frees => exact idle ▸ List.suffix_rfl

/-- A place becomes free beside a sleeping checkout only where nobody is woken. -/
theorem Meanwhile.full {p : Pool} (h : d.Meanwhile host e p) (hidle : d.pool.idle = [])
    (hfull : d.pool.active.length = d.pool.config.maxActive.toNat) :
    p.config.maxActive.toNat ≤ p.active.length ∨ d.FreesQuietly host e := by
  cases h with
  | same idle active config => exact .inl (Nat.le_of_eq (by rw [config, active, hfull]))
  | stretch r runs after =>
    rw [after]
    rcases stretch_full runs hidle hfull with hf | ⟨f, hf, hlt⟩
    · exact .inl hf
    · exact .inr (.lost e f r.2 (runs.trans (congrArg some (Prod.ext hf rfl))) hlt)
  | emptied idle frees => exact .inr frees
  | freed idle frees => exact .inr frees

/-- No connection is idle while a checkout sleeps. -/
def Restless (d : Desk σ) : Prop := ∀ v, d.Sleeps v → d.pool.idle = []

theorem Restless.step (h : d.Restless) (hn : d.Numbered) (host : Host σ) (e : Event) :
    (d.step host e).Restless := by
  intro v hv
  rcases sleeps_cases hn hv with ⟨w, s, hruns, hpool⟩ | ⟨hs, -, hmean⟩
  · rw [hpool]
    exact (stretch_waits hruns).1
  · have hidle := hmean.idle_suffix
    rw [h v hs] at hidle
    exact List.suffix_nil.mp hidle

theorem run_restless (host : Host σ) (source : Source) (config : PoolConfig) (w : σ)
    (es : List Event) : ((start source config w).run host es).Restless := by
  induction es using List.reverseRecOn with
  | nil => exact fun _ _ => rfl
  | append_singleton es e ih =>
    rw [run_concat]
    exact ih.step ((start_numbered source config w).run host es) host e

/-- No connection is idle while a checkout sleeps that nothing has woken. -/
theorem run_idle_empty_of_sleeps (host : Host σ) (source : Source) (config : PoolConfig) (w : σ)
    (es : List Event) (v : Waiter) (hv : v ∈ ((start source config w).run host es).waiters)
    (hw : v.woken = false) : ((start source config w).run host es).pool.idle = [] :=
  run_restless host source config w es v ⟨hv, hw⟩

/-- A checkout waits for the only place, is woken by a return, and waits again because another one
was faster. -/
theorem idle_empty_beside_overtaken :
    let d := (start { driver := "mock", url := "mock:db" } { maxActive := 1 } {}).run World.host
      [.checkout none, .checkout none, .release 0, .checkout none, .resume 1]
    (∃ v ∈ d.waiters, v.woken = false) ∧ d.pool.idle = [] := by
  intro d
  have hv : ∃ v ∈ d.waiters, v.woken = false := by decide
  obtain ⟨v, hm, hw⟩ := hv
  exact ⟨⟨v, hm, hw⟩, run_idle_empty_of_sleeps World.host _ _ _ _ v hm hw⟩

/-- While a checkout sleeps all places are taken, or one came free quietly since it fell asleep. -/
theorem full_or_freed (host : Host σ) (source : Source) (config : PoolConfig) (w : σ)
    (es : List Event) (v : Waiter) (hv : ((start source config w).run host es).Sleeps v) :
    ((start source config w).run host es).IsFull ∨
      ∃ fs e gs, es = fs ++ e :: gs ∧ ((start source config w).run host fs).Sleeps v ∧
        (∀ f ∈ e :: gs, f ≠ .resume v.id) ∧
        ((start source config w).run host fs).FreesQuietly host e := by
  induction es using List.reverseRecOn with
  | nil => exact absurd hv.1 List.not_mem_nil
  | append_singleton es e ih =>
    rw [run_concat] at hv ⊢
    rcases sleeps_cases ((start_numbered source config w).run host es) hv with
      ⟨u, s, hruns, hpool⟩ | ⟨hs, hne, hmean⟩
    · rw [IsFull, hpool]
      exact .inl (stretch_waits hruns).2
    · rcases ih hs with hfull | ⟨fs, f, gs, rfl, hfs, hgs, hfrees⟩
      · have hle := run_active_le host source config w es
        have hidle := run_restless host source config w es v hs
        rcases hmean.full hidle (Nat.le_antisymm hle hfull) with hfull | hfrees
        · exact .inl hfull
        · exact .inr ⟨es, e, [], rfl, hs, by simpa using hne, hfrees⟩
      · refine .inr ⟨fs, f, gs ++ [e], by simp, hfs, fun g hg => ?_, hfrees⟩
        rw [← List.cons_append] at hg
        rcases List.mem_append.mp hg with hg | hg
        · exact hgs g hg
        · rw [List.mem_singleton.mp hg]
          exact hne

/-- A connection that joins the idle ones, an interruption and a shutdown wake all. -/
theorem all_woken (hn : d.Numbered) (h : d.pool.idle.length < (d.step host e).pool.idle.length ∨
      d.isHeld = true ∧ (e = .interrupt ∨ e = .shutdown)) :
    ∀ v ∈ (d.step host e).waiters, v.woken = true := by
  intro v hv
  by_contra hw
  have hs : (d.step host e).Sleeps v := ⟨hv, Bool.eq_false_iff.mpr hw⟩
  rcases h with hlt | ⟨hheld, rfl | rfl⟩
  · rcases sleeps_cases hn hs with ⟨u, s, hruns, hpool⟩ | ⟨-, -, hmean⟩
    · rw [hpool, (stretch_waits hruns).1] at hlt
      exact absurd hlt (Nat.not_lt_zero _)
    · exact Nat.not_lt_of_le hmean.idle_suffix.length_le hlt
  · have hstep : d.step host .interrupt = d.interrupt := by simp [step, hheld]
    exact not_sleeps_wakeAll _ (hstep ▸ hs)
  · have hstep : d.step host .shutdown = d.shutdown host := by simp [step, hheld]
    exact not_sleeps_wakeAll _ (hstep ▸ hs)

/-- Where a checkout sleeps, all places are taken, or one came free quietly since it fell asleep:
by a return that left nothing idle, a drain, a change of settings, or another checkout that claimed
a connection and failed. Whatever else lets connections be reused wakes all that sleep. -/
theorem run_full_or_freedQuietly (host : Host σ) (source : Source) (config : PoolConfig) (w : σ)
    (es : List Event) :
    let d := start source config w
    (∀ v, (d.run host es).Sleeps v → (d.run host es).IsFull ∨
      ∃ fs e gs, es = fs ++ e :: gs ∧ (d.run host fs).Sleeps v ∧
        (∀ f ∈ e :: gs, f ≠ .resume v.id) ∧ (d.run host fs).FreesQuietly host e) ∧
    ∀ e, ((d.run host es).pool.idle.length < ((d.run host es).step host e).pool.idle.length ∨
        (d.run host es).isHeld = true ∧ (e = .interrupt ∨ e = .shutdown)) →
      ∀ v ∈ ((d.run host es).step host e).waiters, v.woken = true := by
  intro d
  refine ⟨fun v hv => full_or_freed host source config w es v hv, fun e he => ?_⟩
  exact all_woken ((start_numbered source config w).run host es) he

/-- A connection that is not kept leaves a place that the sleeping checkout does not see. -/
theorem freedQuietly_by_overflow :
    let d := start { driver := "mock", url := "mock:db" } { maxActive := 1, maxIdle := 0 } {}
    let es := [.checkout none, .checkout none, .release 0, .call 0 .commit]
    (∃ v, (d.run World.host es).Sleeps v) ∧ ¬ (d.run World.host es).IsFull ∧
      ∃ fs e gs, es = fs ++ e :: gs ∧ (d.run World.host fs).FreesQuietly World.host e := by
  intro d es
  have hv : ∃ v ∈ (d.run World.host es).waiters, v.woken = false := by decide
  have hfree : ¬ (d.run World.host es).IsFull := by
    unfold IsFull
    decide
  obtain ⟨v, hm, hw⟩ := hv
  have hs : (d.run World.host es).Sleeps v := ⟨hm, hw⟩
  refine ⟨⟨v, hs⟩, hfree, ?_⟩
  rcases (run_full_or_freedQuietly World.host _ _ _ es).1 v hs with
    hfull | ⟨fs, e, gs, hes, -, -, hfrees⟩
  · exact absurd hfull hfree
  · exact ⟨fs, e, gs, hes, hfrees⟩

def hurried : Host World :=
  { World.host with
    now := fun w => ((World.readClock w).1 * nanosPerMilli, (World.readClock w).2) }

theorem strands_after_freeing :
    let source : Source := { driver := "mock", url := "mock:db" }
    let config : PoolConfig := { maxActive := 1, timeToWait := 0 }
    let pinging : PoolConfig := { config with
      maxIdle := 0, tolerance := 0, maxCheckoutTime := 5, pingEnabled := true, pingNotUsedFor := 1 }
    let failing : World := { script := { next := [[.query]] } }
    -- a connection comes back and is not kept: there is no room for it, or its code is another one
    ((start source { config with maxIdle := 0 } {}).run World.host
      [.checkout none, .checkout none, .release 0]).Strands ∧
    ((start source config {}).run World.host
      [.checkout (some ("scott", "tiger")), .checkout none, .release 0]).Strands ∧
    -- it is bad
    ((start source pinging failing).run hurried
      [.checkout none, .checkout none, .release 0]).Strands ∧
    ((start source config {}).run World.host [.checkout none, .checkout none, .drain]).Strands ∧
    ((start source config {}).run World.host
      [.checkout none, .checkout none, .configure (.maxIdle 3)]).Strands ∧
    -- it is claimed, and then it is bad
    ((start source pinging failing).run hurried
      [.checkout none, .checkout none, .checkout none]).Strands := by
  refine ⟨?_, ?_, ?_, ?_, ?_, ?_⟩ <;> decide

end Desk
end ConnPool
