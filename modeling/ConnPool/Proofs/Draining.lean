import ConnPool.Proofs.Openings
import ConnPool.Proofs.Capacity
import ConnPool.Proofs.Ended

namespace ConnPool

namespace Ledger

/-- What rolling back a connection writes down: a connection is rolled back exactly if it says that
its statements are not committed one by one. -/
inductive RollsBack (c : ConnId) : Ledger → Prop where
  | unknown (f : Failure) : RollsBack c [⟨.pool, c, .called .autoCommit (.error f)⟩]
  | committed : RollsBack c [⟨.pool, c, .called .autoCommit (.ok true)⟩]
  | needed (answer : Outcome Unit) :
      RollsBack c
        [⟨.pool, c, .called .rollback answer⟩, ⟨.pool, c, .called .autoCommit (.ok false)⟩]

inductive Discarded (c : ConnId) : Ledger → Prop where
  | intro (es : Ledger) (rolled : RollsBack c es) (answer : Outcome Unit) :
      Discarded c (⟨.pool, c, .closed answer⟩ :: es)

inductive Discards : List ConnId → Ledger → Prop where
  | nil : Discards [] []
  | cons {c : ConnId} {cs : List ConnId} {es j : Ledger} (first : Discarded c es)
      (rest : Discards cs j) : Discards (c :: cs) (es ++ j)

def about (j : Ledger) (c : ConnId) : Ledger := j.filter fun e => e.conn == c

variable {b c : ConnId} {cs cs' : List ConnId} {es j j' : Ledger}

theorem RollsBack.conn (h : RollsBack c es) : ∀ e ∈ es, e.conn = c := by
  cases h <;> simp

theorem Discarded.conn (h : Discarded c es) : ∀ e ∈ es, e.conn = c := by
  cases h with
  | intro es rolled answer =>
    intro e he
    rcases List.mem_cons.mp he with rfl | he
    · rfl
    · exact rolled.conn e he

theorem about_of_conn (h : ∀ e ∈ es, e.conn = c) : es.about c = es :=
  List.filter_eq_self.mpr fun e he => by simpa using h e he

theorem about_of_other (h : ∀ e ∈ es, e.conn = c) (hne : c ≠ b) : es.about b = [] := by
  refine List.filter_eq_nil_iff.mpr fun e he => ?_
  rw [h e he]
  simpa using hne

theorem about_append (j j' : Ledger) (c : ConnId) :
    about (j ++ j') c = j.about c ++ j'.about c := List.filter_append ..

theorem Discards.append (h : Discards cs j) (h' : Discards cs' j') :
    Discards (cs ++ cs') (j ++ j') := by
  induction h with
  | nil => exact h'
  | cons first rest ih =>
    rw [List.cons_append, List.append_assoc]
    exact .cons first ih

/-- Nothing is done with any other connection. -/
theorem Discards.about_of_not_mem (h : Discards cs j) (hb : b ∉ cs) : j.about b = [] := by
  induction h with
  | nil => rfl
  | @cons c cs es j first rest ih =>
    have hne : c ≠ b := fun he => hb (he ▸ List.mem_cons_self)
    rw [about_append, about_of_other first.conn hne, ih fun hm => hb (List.mem_cons_of_mem _ hm)]
    rfl

/-- What is discarded once is discarded, and nothing else is done with it. -/
theorem Discards.about_of_mem (h : Discards cs j) (hn : cs.Nodup) (hc : c ∈ cs) :
    Discarded c (j.about c) := by
  induction h with
  | nil => exact absurd hc List.not_mem_nil
  | @cons b cs es j first rest ih =>
    obtain ⟨hnew, hrest⟩ := List.nodup_cons.mp hn
    rw [about_append]
    rcases List.mem_cons.mp hc with rfl | hc
    · rwa [about_of_conn first.conn, rest.about_of_not_mem hnew, List.append_nil]
    · have hne : b ≠ c := fun he => hnew (he ▸ hc)
      rw [about_of_other first.conn hne]
      exact ih hrest hc

end Ledger

/-- Of the flags, exactly those of the records are revoked. -/
theorem Flags.isValid_revokes (rs : List Record) (f : Flags) (i : FlagId) :
    (rs.foldl (fun f r => f.revoke r.flag) f).isValid i = true ↔
      f.isValid i = true ∧ ∀ r ∈ rs, r.flag ≠ i := by
  induction rs generalizing f with
  | nil => simp
  | cons r rs ih =>
    rw [List.foldl_cons, ih]
    simp only [isValid_revoke, Bool.and_eq_true, bne_iff_ne, List.forall_mem_cons]
    constructor
    · rintro ⟨⟨hne, hv⟩, hrs⟩
      exact ⟨hv, Ne.symm hne, hrs⟩
    · rintro ⟨hv, hne, hrs⟩
      exact ⟨⟨Ne.symm hne, hv⟩, hrs⟩

section

variable {σ : Type} (host : Host σ)

theorem Action.rollbackIfNeeded_wrote (c : ConnId) (w : σ × Ledger) :
    ∃ es, ((host.withLedger .pool).rollbackIfNeeded c w).2.2 = es ++ w.2 ∧
      Ledger.RollsBack c es := by
  rw [Host.rollbackIfNeeded, Action.bind_apply]
  cases hr : (host.withLedger .pool).call c .autoCommit w with
  | mk r v =>
    have hv : v.2 = ⟨.pool, c, .called .autoCommit r⟩ :: w.2 := Action.call_wrote hr
    cases r with
    | error f => exact ⟨[_], hv, .unknown f⟩
    | ok committed =>
      cases committed with
      | true => exact ⟨[_], hv, .committed⟩
      | false =>
        refine ⟨[_, _], ?_, .needed (host.call c .rollback v.1).1⟩
        show ⟨.pool, c, .called .rollback (host.call c .rollback v.1).1⟩ :: v.2 = _
        rw [hv]
        rfl

end

namespace Site

variable {σ : Type} (host : Host σ) (s : Site (σ × Ledger))

theorem discard_wrote (r : Record) :
    ∃ es, (s.discard (host.withLedger .pool) r).world.2 = es ++ s.world.2 ∧
      Ledger.Discarded r.conn es := by
  obtain ⟨es, hes, hrolled⟩ := Action.rollbackIfNeeded_wrote host r.conn s.world
  let rolled := (s.revoke r.flag).settle ((host.withLedger .pool).rollbackIfNeeded r.conn)
  refine ⟨_, ?_, .intro es hrolled (host.close r.conn rolled.world.1).1⟩
  rw [List.cons_append, ← hes]
  rfl

theorem discards_wrote (rs : List Record) (s : Site (σ × Ledger)) :
    ∃ j, (rs.foldl (fun s r => s.discard (host.withLedger .pool) r) s).world.2 = j ++ s.world.2 ∧
      Ledger.Discards (rs.map (·.conn)).reverse j := by
  induction rs generalizing s with
  | nil => exact ⟨[], rfl, .nil⟩
  | cons r rs ih =>
    obtain ⟨es, hes, hfirst⟩ := discard_wrote host s r
    obtain ⟨j, hj, hrest⟩ := ih (s.discard (host.withLedger .pool) r)
    refine ⟨j ++ es, ?_, ?_⟩
    · rw [List.foldl_cons, hj, hes, List.append_assoc]
    · rw [List.map_cons, List.reverse_cons]
      have hone : Ledger.Discards [r.conn] es := by
        simpa using Ledger.Discards.cons hfirst .nil
      exact hrest.append hone

theorem drain_wrote :
    ∃ j, (s.drain (host.withLedger .pool)).world.2 = j ++ s.world.2 ∧
      Ledger.Discards ((s.pool.idle ++ s.pool.active).map (·.conn)) j := by
  obtain ⟨j, hj, hdiscards⟩ := discards_wrote host (s.pool.active.reverse ++ s.pool.idle.reverse)
    (s.modify fun p => { p with expected := p.source.typeCode, active := [], idle := [] })
  rw [← List.reverse_append, List.map_reverse, List.reverse_reverse] at hdiscards
  exact ⟨j, hj, hdiscards⟩

end Site

namespace Desk

variable {σ : Type}

variable {host : Host σ} {d : Desk σ} {e : Event} {s : Site σ}

theorem closeUnused_gone (hopen : d.isOpen = true) (hgone : (d.closeUnused host).isOpen = false) :
    d.isHeld = false ∧ d.waiters = [] := by
  unfold closeUnused at hgone
  split at hgone
  · rename_i hc
    simpa [hopen] using hc
  · rw [hopen] at hgone
    cases hgone

theorem done_of_none_waits {id : Nat} {r : Stretch × Site σ}
    (h : (afterStretch d id r).2.waiters = []) :
    (∃ o, r = (.done o, r.2)) ∧ d.waiters = [] := by
  obtain ⟨(f | g) | w, s⟩ := r
  · exact ⟨⟨_, rfl⟩, h⟩
  · exact ⟨⟨_, rfl⟩, h⟩
  · simp [afterStretch] at h

/-- A pool that goes away is drained. -/
theorem drainsFrom_of_gone (hopen : d.isOpen = true) (hgone : (d.step host e).isOpen = false) :
    ∃ s, d.DrainsFrom host e s := by
  have heffect := d.step_effect host e
  generalize d.step host e = d' at hgone heffect
  have hnot : d'.isOpen = d.isOpen → False := fun he => by
    rw [he, hopen] at hgone
    cases hgone
  cases heffect with
  | resumed id v waiter =>
    have hstill : (afterStretch { d with waiters := d.waiters.eraseP (·.id == id) } id
        (d.site.resume host v.waiting)).2.isOpen = true :=
      (afterStretch_isOpen id _).trans hopen
    obtain ⟨hheld, hnone⟩ := closeUnused_gone hstill hgone
    obtain ⟨⟨o, ho⟩, halone⟩ := done_of_none_waits hnone
    refine ⟨_, .resume id o (d.site.resume host v.waiting).2 ?_ hopen halone ?_⟩
    · rw [ho] at hheld
      cases o <;> exact hheld
    · rw [← ho]
      exact stretch_of_waiter host waiter
  | letGo held =>
    obtain ⟨-, halone⟩ := closeUnused_gone (d := { d with isHeld := false }) hopen hgone
    exact ⟨_, .letGo held hopen halone⟩
  | begun credentials held => exact (hnot (afterStretch_isOpen _ _)).elim
  | returned i l lease out isOpen => exact (hnot (giveBack_isOpen host _)).elim
  | orphaned i l lease out gone =>
    rw [hopen] at gone
    cases gone
  | _ => exact (hnot rfl).elim

/-- A pool that is gone does not come back. -/
theorem step_gone (hs : d.Settled) (hgone : d.isOpen = false) (host : Host σ) (e : Event) :
    (d.step host e).isOpen = false := by
  obtain ⟨hheld, hnone, -, -⟩ := hs hgone
  have hunheld : d.isHeld ≠ true := Bool.eq_false_iff.mp hheld
  have heffect := d.step_effect host e
  generalize d.step host e = d' at heffect
  cases heffect with
  | nothing _ none_goes_on => exact hgone
  | begun credentials held => exact absurd held hunheld
  | resumed id v waiter => simp [hnone] at waiter
  | returned i l lease out isOpen =>
    rw [hgone] at isOpen
    cases isOpen
  | orphaned i l lease out gone =>
    unfold closeOrphan
    split <;> exact hgone
  | called i k l lease valid => exact hgone
  | asked i l lease out valid => exact hgone
  | interrupted held => exact absurd held hunheld
  | shut held => exact absurd held hunheld
  | drained held => exact absurd held hunheld
  | configured setting p held set => exact absurd held hunheld
  | letGo held => exact absurd held hunheld

theorem history_gone {d : Desk (σ × Ledger)} {host : Host σ} (h : d.Sound)
    (hgone : d.isOpen = false) (gs : List Event) : (d.history host gs).isOpen = false := by
  induction gs generalizing d with
  | nil => exact hgone
  | cons e gs ih => exact ih (h.step host e) (step_gone h.settled hgone _ e)

/-- What a drain makes of a pool. -/
structure Drained (s : Site (σ × Ledger)) (d : Desk (σ × Ledger)) : Prop where
  idle : d.pool.idle = []
  active : d.pool.active = []
  invalid : ∀ l ∈ d.leases, (∃ r ∈ s.pool.active, r.flag = l.grant.flag) → d.isValid l = false
  tally : d.pool.tally = s.pool.tally
  /-- Every connection tracked is discarded, and where drivers open new connections only, it is
  discarded once. No other one is spoken to. -/
  wrote : ∃ j : Ledger, d.site.world.2 = j ++ s.world.2 ∧
    j.Discards ((s.pool.idle ++ s.pool.active).map (·.conn)) ∧
    (s.world.2.OpensNew → ∀ c ∈ (s.pool.idle ++ s.pool.active).map (·.conn),
      (j.about c).Discarded c) ∧
    ∀ c, c ∉ (s.pool.idle ++ s.pool.active).map (·.conn) → j.about c = []

section

variable {d d' : Desk (σ × Ledger)} {s : Site (σ × Ledger)} {host : Host σ} {e : Event}

/-- With drivers that open new connections only, none is discarded twice. -/
theorem DrainsFrom.once (h : d.DrainsFrom (host.withLedger .pool) e s) (ho : Orderly d.scene)
    (hx : d.site.world.2.OpensNew → Exclusive d.scene) (hn : s.world.2.OpensNew) :
    ((s.pool.idle ++ s.pool.active).map (·.conn)).Nodup := by
  by_cases he : ∃ id, e = .resume id
  · obtain ⟨id, rfl⟩ := he
    cases h with
    | resume id o s unheld isOpen alone runs =>
      have hpath := stretch_path runs
      exact ((hx (hn.of_suffix hpath.ledger_suffix)).of_path ho hn hpath).once
  · obtain ⟨hworld, hidle, hactive, -⟩ := h.before fun id hid => he ⟨id, hid⟩
    rw [hidle, hactive]
    exact (hx (hworld ▸ hn)).once

theorem drained_of_site (hd : d'.site = s.drain (host.withLedger .pool))
    (honce : s.world.2.OpensNew → ((s.pool.idle ++ s.pool.active).map (·.conn)).Nodup) :
    Drained s d' := by
  obtain ⟨hidle, hactive⟩ := s.drain_lists (host.withLedger .pool)
  obtain ⟨j, hj, hdiscards⟩ := s.drain_wrote host
  refine ⟨by rw [pool, hd, hidle], by rw [pool, hd, hactive], fun l _ hl => ?_, ?_,
    j, by rw [hd, hj], hdiscards, fun hn c hc => hdiscards.about_of_mem (honce hn) hc,
    fun c hc => hdiscards.about_of_not_mem hc⟩
  · obtain ⟨r, hr, hflag⟩ := hl
    refine Bool.eq_false_iff.mpr fun hv => ?_
    rw [isValid, pool, hd, Site.drain_pool] at hv
    have hrs := ((Flags.isValid_revokes _ _ _).mp hv).2
    exact hrs r (List.mem_append_left _ (List.mem_reverse.mpr hr)) hflag
  · rw [pool, hd, Site.drain_pool]

theorem release_of_gone (h : d.Sound) (hgone : d.isOpen = false) (i : Nat) :
    (d.release (host.withLedger .pool) i).site = d.site := by
  unfold release
  cases hl : d.leases[i]? with
  | none => rfl
  | some l =>
    dsimp only
    split
    · rfl
    · rename_i hu
      have hinvalid := d.invalid_of_gone h.orderly h.settled hgone (List.mem_of_getElem? hl)
        (by simpa using hu)
      have hkeep : (d.markReleased i).closeOrphan (host.withLedger .pool) l = d.markReleased i :=
        if_neg (Bool.eq_false_iff.mp hinvalid)
      rw [if_neg (Bool.eq_false_iff.mp hgone), hkeep]
      rfl

end

/-- A drain is complete, whatever fails, and so is what happens when the pool goes away. Once it has
gone, whatever is still out is invalid, and giving it back does nothing. -/
theorem run_drained (host : Host σ) (source : Source) (config : PoolConfig) (w : σ)
    (es : List Event) :
    let d := (start source config w).watched.history host es
    (∀ e, d.Drains e ∨ d.isOpen = true ∧ (d.step (host.withLedger .pool) e).isOpen = false →
      ∃ s, d.DrainsFrom (host.withLedger .pool) e s ∧
        Drained s (d.step (host.withLedger .pool) e) ∧
        ((∀ id, e ≠ .resume id) → s.world = d.site.world ∧ s.pool.idle = d.pool.idle ∧
          s.pool.active = d.pool.active ∧ s.pool.tally = d.pool.tally)) ∧
    (d.isOpen = false → ∀ gs, let later := d.history host gs
      later.isOpen = false ∧
      (∀ l ∈ later.leases, l.released = false → later.isValid l = false) ∧
      ∀ i, (later.step (host.withLedger .pool) (.release i)).site = later.site) := by
  intro d
  have hstart := start_sound source config w
  have hd : d.Sound := hstart.history host es
  refine ⟨fun e he => ?_, fun hgone gs => ?_⟩
  · have hfrom : ∃ s, d.DrainsFrom (host.withLedger .pool) e s := by
      rcases he with hdrains | ⟨hopen, hgone⟩
      · exact drainsFrom_of_drains hdrains
      · exact drainsFrom_of_gone hopen hgone
    obtain ⟨s, hs⟩ := hfrom
    have hx : d.site.world.2.OpensNew → Exclusive d.scene := fun hn =>
      (start_exclusive source config w).of_path hstart.orderly hn (hstart.history_path host es)
    exact ⟨s, hs, drained_of_site hs.site (hs.once hd.orderly hx), hs.before⟩
  · intro later
    have hlater : later.Sound := hd.history host gs
    have hstill : later.isOpen = false := history_gone hd hgone gs
    refine ⟨hstill, fun l hl hu => ?_, fun i => release_of_gone hlater hstill i⟩
    exact later.invalid_of_gone hlater.orderly hlater.settled hstill hl hu

/-- The pool goes away while one connection is out and one is idle. -/
theorem drained_by_letGo :
    let d := (start { driver := "mock", url := "mock:db" } {} {}).watched.history World.host
      [.checkout none, .checkout none, .release 0]
    d.tracked = [0, 1] ∧ ∃ s, d.DrainsFrom (World.host.withLedger .pool) .letGo s ∧
      Drained s (d.step (World.host.withLedger .pool) .letGo) := by
  intro d
  have hgone : (d.step (World.host.withLedger .pool) .letGo).isOpen = false := by decide
  obtain ⟨hdrained, -⟩ := run_drained World.host { driver := "mock", url := "mock:db" } {} {}
    [.checkout none, .checkout none, .release 0]
  obtain ⟨s, hs, hd, -⟩ := hdrained .letGo (.inr ⟨by decide, hgone⟩)
  exact ⟨by decide, s, hs, hd⟩

end Desk
end ConnPool
