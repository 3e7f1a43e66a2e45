import ConnPool.Proofs.Draining

namespace ConnPool

def Deed.isClosing : Deed → Bool
  | .closed _ => true
  | _ => false

namespace Ledger

variable {c : ConnId} {cs : List ConnId} {es j : Ledger}

def closings (j : Ledger) : List ConnId :=
  (j.filter fun e => e.party == .pool && e.deed.isClosing).map (·.conn)

theorem closings_cons (e : Entry) (j : Ledger) : closings (e :: j) =
    if e.party == .pool && e.deed.isClosing then e.conn :: j.closings else j.closings := by
  simp only [closings, List.filter_cons]
  split <;> simp

theorem closings_append (j j' : Ledger) : closings (j ++ j') = j.closings ++ j'.closings := by
  simp [closings]

theorem opened_append (j j' : Ledger) : opened (j ++ j') = j.opened ++ j'.opened := by
  simp [opened]

theorem RollsBack.closings (h : RollsBack c es) : es.closings = [] ∧ es.opened = [] := by
  cases h <;> exact ⟨rfl, rfl⟩

theorem Discarded.closings (h : Discarded c es) : es.closings = [c] ∧ es.opened = [] := by
  cases h with
  | intro es rolled answer =>
    obtain ⟨hclosings, hopened⟩ := rolled.closings
    rw [closings_cons, opened_cons, hclosings, hopened]
    exact ⟨rfl, rfl⟩

/-- Each connection that is discarded is closed. -/
theorem Discards.closings (h : Discards cs j) : j.closings = cs ∧ j.opened = [] := by
  induction h with
  | nil => exact ⟨rfl, rfl⟩
  | cons first rest ih =>
    rw [closings_append, opened_append, first.closings.1, first.closings.2, ih.1, ih.2]
    exact ⟨rfl, rfl⟩

end Ledger

namespace Action

variable {σ α : Type} {p : Party} {c : ConnId} (host : Host σ)

/-- A step that neither opens nor closes a connection. -/
def Spares (a : Action (σ × Ledger) α) : Prop :=
  ∀ opened closings, a.Keeps fun w => w.2.opened = opened ∧ w.2.closings = closings

theorem Spares.same {a : Action (σ × Ledger) α} (h : a.Spares) (w : σ × Ledger) :
    (a w).2.2.opened = w.2.opened ∧ (a w).2.2.closings = w.2.closings :=
  h _ _ w ⟨rfl, rfl⟩

theorem spares_call (k : Call) : ((host.withLedger p).call c k).Spares := by
  rintro opened closings w ⟨rfl, rfl⟩
  exact ⟨Ledger.opened_cons ⟨p, c, .called k (host.call c k w.1).1⟩ w.2,
    by simp [Host.withLedger, Ledger.closings_cons, Deed.isClosing]⟩

theorem spares_rollbackIfNeeded : ((host.withLedger p).rollbackIfNeeded c).Spares :=
  fun opened closings => keeps_rollbackIfNeeded _ fun k => spares_call host k opened closings

theorem spares_configure (s : Source) : (s.configure (host.withLedger p) c).Spares :=
  fun opened closings => keeps_configure _ (fun k => spares_call host k opened closings) s

end Action

/-- A source opens one connection at most, and closes none. -/
theorem Source.open_closings {σ : Type} (host : Host σ) (s : Source)
    (username password : Option String) {w w' : σ × Ledger} {r : Outcome ConnId}
    (h : s.open (host.withLedger .pool) username password w = (r, w')) :
    w'.2.closings = w.2.closings ∧
      ((∃ f, r = .error f) ∧ w'.2.opened = w.2.opened ∨
        ∃ c, w'.2.opened = c :: w.2.opened ∧ ∀ b, r = .ok b → b = c) := by
  unfold Source.open at h
  split at h
  · rw [Action.bind_apply] at h
    cases hc : host.connect s.driver s.url (s.propertiesFor username password) w.1 with
    | mk o v =>
      cases o with
      | error f =>
        rw [Host.withLedger_connect_error hc] at h
        obtain ⟨rfl, rfl⟩ := Prod.mk.inj h
        exact ⟨rfl, .inl ⟨⟨f, rfl⟩, rfl⟩⟩
      | ok c =>
        rw [Host.withLedger_connect_ok hc] at h
        dsimp only at h
        obtain ⟨hopened, hclosings⟩ := (Action.spares_configure (p := .pool) (c := c) host s).same
          (v, ⟨.pool, c, .opened s.driver s.url (s.propertiesFor username password)⟩ :: w.2)
        rw [Action.bind_apply] at h
        split at h
        · rename_i hok
          rw [hok] at hopened hclosings
          obtain ⟨rfl, rfl⟩ := Prod.mk.inj h
          exact ⟨hclosings, .inr ⟨c, hopened, fun b hb => (Except.ok.inj hb).symm⟩⟩
        · rename_i herr
          rw [herr] at hopened hclosings
          obtain ⟨rfl, rfl⟩ := Prod.mk.inj h
          exact ⟨hclosings, .inr ⟨c, hopened, nofun⟩⟩
  · obtain ⟨rfl, rfl⟩ := Prod.mk.inj h
    exact ⟨rfl, .inl ⟨⟨_, rfl⟩, rfl⟩⟩

namespace Site

variable {σ : Type} {host : Host σ} {s t : Site (σ × Ledger)} {r : Record} {b : Bool}

/-- A connection is closed by a ping that fails, not by finding it closed. -/
theorem ping_closings (h : s.ping (host.withLedger .pool) r = (b, t)) :
    t.world.2.opened = s.world.2.opened ∧ t.world.2.closings =
      if b || (host.isClosed r.conn s.world.1).1 then s.world.2.closings
      else r.conn :: s.world.2.closings := by
  cases hc : (host.isClosed r.conn s.world.1).1 with
  | true =>
    have hclosed : ((host.withLedger .pool).isClosed r.conn s.world).1 = true := hc
    rw [ping_of_closed hclosed] at h
    obtain ⟨rfl, rfl⟩ := Prod.mk.inj h
    exact ⟨rfl, rfl⟩
  | false =>
    have hopen : ((host.withLedger .pool).isClosed r.conn s.world).1 = false := hc
    cases hp : s.pool.config.pingEnabled with
    | false =>
      rw [ping_of_disabled hopen hp] at h
      obtain ⟨rfl, rfl⟩ := Prod.mk.inj h
      exact ⟨rfl, rfl⟩
    | true =>
      by_cases ht : s.isFresh (host.withLedger .pool) r
      · rw [ping_of_fresh hopen hp ht] at h
        obtain ⟨rfl, rfl⟩ := Prod.mk.inj h
        exact ⟨rfl, rfl⟩
      · rw [ping_of_stale hopen hp ht] at h
        have hspares : (s.pinging (host.withLedger .pool) r).Spares :=
          fun opened closings => (Action.spares_call host _ opened closings).bind fun _ =>
            Action.spares_rollbackIfNeeded host opened closings
        have hping :=
          hspares.same ((s.asked (host.withLedger .pool) r).now (host.withLedger .pool)).2.world
        unfold run at h
        cases ho : s.pinging (host.withLedger .pool) r
            ((s.asked (host.withLedger .pool) r).now (host.withLedger .pool)).2.world with
        | mk o w =>
          rw [ho] at h hping
          cases o with
          | ok a =>
            obtain ⟨rfl, rfl⟩ := Prod.mk.inj h
            exact hping
          | error f =>
            obtain ⟨rfl, rfl⟩ := Prod.mk.inj h
            exact ⟨hping.1, congrArg (r.conn :: ·) hping.2⟩

theorem validate_closings (h : s.validate (host.withLedger .pool) r = (b, t)) :
    t.world.2.opened = s.world.2.opened ∧
      (t.world.2.closings = s.world.2.closings ∨
        b = false ∧ t.world.2.closings = r.conn :: s.world.2.closings) := by
  cases hv : s.pool.flags.isValid r.flag with
  | false =>
    rw [validate_of_invalid hv] at h
    obtain ⟨rfl, rfl⟩ := Prod.mk.inj h
    exact ⟨rfl, .inl rfl⟩
  | true =>
    rw [validate_of_valid hv] at h
    obtain ⟨hopened, hclosings⟩ := ping_closings h
    refine ⟨hopened, ?_⟩
    rw [hclosings]
    split
    · exact .inl rfl
    · rename_i hb
      exact .inr ⟨by cases b <;> simp_all, rfl⟩

theorem takenBack_closings (host : Host σ) (s : Site (σ × Ledger)) (r : Record) :
    (s.takenBack (host.withLedger .pool) r).world.2.opened = s.world.2.opened ∧
      (s.takenBack (host.withLedger .pool) r).world.2.closings = s.world.2.closings :=
  (Action.spares_rollbackIfNeeded host).same _

/-- A good connection that comes back is put behind the idle ones, or closed. -/
theorem giveBack_closings {flag : FlagId} (hf : s.pool.activeWith? flag = some r)
    (hv : (s.modify (·.removeActive flag)).validate (host.withLedger .pool) r = (true, t)) :
    (s.giveBack (host.withLedger .pool) flag).2.world.2.closings =
        (if s.pool.keeps r then [] else [r.conn]) ++ s.world.2.closings ∧
      ∃ q : Record, q.conn = r.conn ∧ (s.giveBack (host.withLedger .pool) flag).2.pool.idle =
        s.pool.idle ++ if s.pool.keeps r then [q] else [] := by
  have hpool : t.pool = s.pool.removeActive flag := pool_of_validate hv
  have hidle : t.pool.idle = s.pool.idle := by rw [hpool, Pool.removeActive]
  have hkeeps : (t.takenBack (host.withLedger .pool) r).pool.keeps r = s.pool.keeps r := by
    show t.pool.keeps r = _
    rw [hpool]
    rfl
  have hsame : (t.takenBack (host.withLedger .pool) r).world.2.closings = s.world.2.closings := by
    rw [(t.takenBack_closings host r).2]
    rcases (validate_closings hv).2 with hclosings | ⟨hfalse, -⟩
    · exact hclosings
    · cases hfalse
  rw [giveBack_of_good hf hv, hkeeps]
  cases s.pool.keeps r with
  | true =>
    refine ⟨hsame, ((t.takenBack (host.withLedger .pool) r).rewrap (host.withLedger .pool) r).1,
      rfl, ?_⟩
    rw [← hidle]
    rfl
  | false =>
    refine ⟨congrArg (r.conn :: ·) hsame, r, rfl, ?_⟩
    rw [← hidle]
    exact (List.append_nil _).symm

def conns {τ : Type} (s : Site τ) : List ConnId := (s.pool.idle ++ s.pool.active).map (·.conn)

/-- Each time that a connection is in hand, kept or closed, it was opened for that. -/
def Covered (s : Site (σ × Ledger)) (hand : List ConnId) : Prop :=
  (s.world.2.closings ++ (hand ++ s.conns)).Subperm s.world.2.opened

namespace Covered

variable {u : Site (σ × Ledger)} {hand rest : List ConnId} {n : Nat} {c : Checkout}

/-- Where nothing is opened or closed, what is in hand or kept may be let go. -/
theorem moved (h : s.Covered hand)
    (hw : t.world.2.opened = s.world.2.opened ∧ t.world.2.closings = s.world.2.closings)
    (hle : (rest ++ t.conns).Subperm (hand ++ s.conns)) : t.Covered rest := by
  rw [Covered, hw.1, hw.2]
  exact ((List.subperm_append_left _).mpr hle).trans h

theorem kept (h : s.Covered hand) (hlists : s.pool.SameConnections t.pool)
    (hw : t.world.2.opened = s.world.2.opened ∧ t.world.2.closings = s.world.2.closings) :
    t.Covered hand :=
  h.moved hw (by rw [conns, conns, hlists.idle, hlists.active])

theorem create (h : s.Covered []) {w : σ × Ledger} {o : Outcome ConnId}
    (ho : s.pool.source.openDefault (host.withLedger .pool) s.world = (o, w)) :
    (⟨s.pool, w⟩ : Site (σ × Ledger)).Covered o.toOption.toList := by
  obtain ⟨hclosings, ⟨⟨f, rfl⟩, hopened⟩ | ⟨b, hopened, hok⟩⟩ := Source.open_closings host _ _ _ ho
  · exact h.moved ⟨hopened, hclosings⟩ (List.Subperm.refl _)
  · have hhand : o.toOption.toList.Subperm [b] := by
      cases o with
      | error f => exact List.nil_subperm
      | ok a => exact hok a rfl ▸ List.Subperm.refl _
    rw [Covered, hclosings, hopened]
    have hmore : (s.world.2.closings ++ (o.toOption.toList ++ s.conns)).Subperm
        (b :: (s.world.2.closings ++ s.conns)) :=
      ((List.subperm_append_left _).mpr ((List.subperm_append_right _).mpr hhand)).trans
        List.perm_middle.subperm
    exact hmore.trans ((List.subperm_cons b).mpr h)

/-- What a look at the pool finds is in hand. -/
theorem found (h : s.Covered [])
    (hn : s.nextCandidate (host.withLedger .pool) = (.ok (.ready r), t)) :
    t.Covered [r.conn] := by
  have hlook := look_of_eq hn
  cases hlook with
  | idle r rest front =>
    refine h.moved ⟨rfl, rfl⟩ (List.Perm.subperm ?_)
    simp only [conns, modify, front, List.cons_append, List.map_cons, List.nil_append]
    exact .refl _
  | opened b w none_idle room opens => exact h.create opens
  | claimed oldest rest none_idle full front overdue =>
    refine h.moved ((Action.spares_rollbackIfNeeded host).same _) (List.Perm.subperm ?_)
    simp only [conns, claim, rewrap, settle, modify, count, now, none_idle, front, List.nil_append,
      List.map_cons, List.cons_append]
    exact .refl _

theorem answered (h : s.Covered [r.conn])
    (hv : s.validate (host.withLedger .pool) r = (b, t)) :
    t.Covered (if b then [r.conn] else []) := by
  obtain ⟨hopened, hclosings⟩ := validate_closings hv
  have hpool : t.conns = s.conns := by rw [conns, conns, pool_of_validate hv]
  rcases hclosings with hsame | ⟨rfl, hclosed⟩
  · refine h.moved ⟨hopened, hsame⟩ ?_
    rw [hpool]
    split
    · exact List.Subperm.refl _
    · exact (List.sublist_cons_self _ _).subperm
  · rw [Covered, hclosed, hopened, hpool]
    exact List.perm_middle.symm.subperm.trans h

theorem miss (h : s.Covered []) (hm : s.Miss (host.withLedger .pool) t) : t.Covered [] := by
  obtain ⟨r, t, u, found, invalid⟩ := hm
  exact (h.found found).answered invalid

theorem misses (h : s.Covered []) (hm : s.Misses (host.withLedger .pool) n t) : t.Covered [] := by
  induction hm with
  | none s => exact h
  | more miss _ ih => exact ih (h.miss miss)

theorem grant (h : s.Covered [r.conn]) (c : Checkout) :
    (s.grant (host.withLedger .pool) c r).2.Covered [] := by
  refine h.moved ((Action.spares_rollbackIfNeeded host).same _) (List.Perm.subperm ?_)
  simp only [conns, Site.grant, settle, modify, Site.count, now, Record.checkedOut,
    Record.withTypeCode, List.map_append, List.map_cons, List.map_nil, List.nil_append,
    ← List.append_assoc]
  exact List.perm_append_singleton _ _

theorem ending (h : s.Covered []) {r : Stretch × Site (σ × Ledger)}
    (hend : Ending (host.withLedger .pool) c s r) : r.2.Covered [] := by
  cases hend with
  | failed f t found =>
    cases look_of_eq found with
    | refused f w none_idle room fails => exact h.create fails
  | waiting t found =>
    have hworld : (t.wait (host.withLedger .pool) c).2.world.2 = s.world.2 := by
      have ht : t.world.2 = s.world.2 := by
        cases look_of_eq found <;> rfl
      rw [← ht, wait]
      split <;> rfl
    obtain ⟨-, -, -, hpool⟩ := (look_of_eq found).mustWait
    have halike := wait_alike (host.withLedger .pool) t c
    rw [hpool] at halike
    exact h.kept halike.sameConnections (by rw [hworld]; exact ⟨rfl, rfl⟩)
  | granted q t u found valid => exact ((h.found found).answered valid).grant c
  | exhausted t miss => exact h.miss miss

theorem proceed (h : s.Covered []) (c : Checkout) :
    (s.proceed (host.withLedger .pool) c).2.Covered [] := by
  obtain ⟨n, t, -, hmisses, hend⟩ := acquire_ends (host.withLedger .pool)
    (s.pool.config.badConnectionLimit - c.bad) c s
  exact (h.misses hmisses).ending hend

theorem begin (h : s.Covered []) (credentials : Option (String × String)) :
    (s.begin (host.withLedger .pool) credentials).2.Covered [] := by
  have hnow : (s.now (host.withLedger .pool)).2.Covered [] := h
  exact hnow.proceed _

theorem resume (h : s.Covered []) (w : Waiting) :
    (s.resume (host.withLedger .pool) w).2.Covered [] := by
  have hwaited : (s.waited (host.withLedger .pool) w).Covered [] := h
  by_cases hg : s.pool.generation = w.generation
  · rw [resume_of_same hg]
    exact hwaited.proceed _
  · rw [resume_of_other hg]
    exact hwaited

/-- A connection that comes back is dropped, closed or kept. -/
theorem giveBack (h : s.Covered []) (flag : FlagId) :
    (s.giveBack (host.withLedger .pool) flag).2.Covered [] := by
  cases hf : s.pool.activeWith? flag with
  | none =>
    rw [giveBack_of_missing hf]
    exact h
  | some r =>
    have htaken : (s.modify (·.removeActive flag)).Covered [r.conn] := by
      refine h.moved ⟨rfl, rfl⟩ (List.Perm.subperm ?_)
      have hperm := ((perm_of_find? hf).append_left s.pool.idle).trans List.perm_middle
      exact (hperm.symm.map (·.conn))
    cases hv : (s.modify (·.removeActive flag)).validate (host.withLedger .pool) r with
    | mk b t =>
      have ht := htaken.answered hv
      cases b with
      | false =>
        rw [giveBack_of_bad hf hv]
        exact ht
      | true =>
        rw [giveBack_of_good hf hv]
        have hback : (t.takenBack (host.withLedger .pool) r).Covered [r.conn] :=
          ht.kept ⟨rfl, rfl, rfl, rfl, rfl⟩ (t.takenBack_closings host r)
        split
        · refine hback.moved ⟨rfl, rfl⟩ (List.Perm.subperm ?_)
          simp only [conns, modify, rewrap, now, Pool.addIdle, Record.renew, List.map_append,
            List.map_cons, List.nil_append, List.append_assoc, List.cons_append]
          exact List.perm_middle
        · exact List.perm_middle.symm.subperm.trans hback

/-- A drain closes what was kept. -/
theorem drain (h : s.Covered []) : (s.drain (host.withLedger .pool)).Covered [] := by
  obtain ⟨j, hj, hdiscards⟩ := s.drain_wrote host
  obtain ⟨hclosings, hopened⟩ := hdiscards.closings
  obtain ⟨hidle, hactive⟩ := s.drain_lists (host.withLedger .pool)
  have hnone : (s.drain (host.withLedger .pool)).conns = [] := by
    rw [conns, hidle, hactive]
    rfl
  rw [Covered, hnone, hj, Ledger.closings_append, Ledger.opened_append, hclosings, hopened,
    List.append_nil, List.append_nil]
  exact List.perm_append_comm.subperm.trans h

end Covered

end Site

namespace Desk

variable {σ : Type} {host : Host σ}

theorem covered_closeUnused {d : Desk (σ × Ledger)} (h : d.site.Covered []) :
    (d.closeUnused (host.withLedger .pool)).site.Covered [] := by
  unfold closeUnused
  split
  · exact h.drain
  · exact h

theorem covered_step {d : Desk (σ × Ledger)} (h : d.site.Covered []) (hs : d.Sound) (e : Event) :
    (d.step (host.withLedger e.party) e).site.Covered [] := by
  have heffect := d.step_effect (host.withLedger e.party) e
  generalize d.step (host.withLedger e.party) e = d' at heffect
  cases heffect with
  | nothing _ none_goes_on => exact h
  | begun credentials held =>
    rw [afterStretch_site]
    exact h.begin credentials
  | resumed id v waiter =>
    refine covered_closeUnused ?_
    rw [afterStretch_site]
    exact h.resume v.waiting
  | returned i l lease out isOpen =>
    rw [giveBack_site]
    exact h.giveBack l.grant.flag
  | orphaned i l lease out gone =>
    have hinvalid := d.invalid_of_gone hs.orderly hs.settled gone (List.mem_of_getElem? lease) out
    have hkeep : (d.markReleased i).closeOrphan (host.withLedger .pool) l = d.markReleased i :=
      if_neg (Bool.eq_false_iff.mp hinvalid)
    show ((d.markReleased i).closeOrphan (host.withLedger .pool) l).site.Covered []
    rw [hkeep]
    exact h
  | called i k l lease valid =>
    exact h.kept ⟨rfl, rfl, rfl, rfl, rfl⟩ ((Action.spares_call host k).same _)
  | asked i l lease out valid => exact h
  | interrupted held => exact h
  | shut held =>
    have hinterrupted : d.site.interrupt.Covered [] := h
    exact hinterrupted.drain
  | drained held => exact h.drain
  | configured setting p held set =>
    obtain ⟨source, config, rfl⟩ := Pool.set_ok set
    have hset : Site.Covered { d.site with pool := { d.pool with source, config } } [] := h
    exact hset.drain
  | letGo held => exact covered_closeUnused (d := { d with isHeld := false }) h

theorem history_covered (host : Host σ) (source : Source) (config : PoolConfig) (w : σ)
    (es : List Event) :
    ((start source config w).watched.history host es).site.Covered [] := by
  induction es using List.reverseRecOn with
  | nil => exact List.nil_subperm
  | append_singleton es e ih =>
    rw [history_append]
    exact covered_step ih ((start_sound source config w).history host es) e

theorem closings_later (source : Source) (config : PoolConfig) (w : σ) {es : List Event}
    {c : ConnId} (hc : c ∈ ((start source config w).ledger host es).closings) (fs : List Event) :
    c ∈ ((start source config w).ledger host (es ++ fs)).closings := by
  have hsound := (start_sound source config w).history host es
  obtain ⟨j, hj⟩ := (hsound.history_path host fs).ledger_suffix
  rw [ledger, history_append]
  have hmore : (((start source config w).watched.history host es).history host fs).site.world.2 =
      j ++ (start source config w).ledger host es := hj.symm
  rw [hmore, Ledger.closings_append]
  exact List.mem_append_right _ hc

/-- Where drivers open new connections only, none is closed twice, and none that is kept. -/
theorem run_closings (host : Host σ) (source : Source) (config : PoolConfig) (w : σ)
    (es : List Event) (hn : ((start source config w).ledger host es).OpensNew) :
    (((start source config w).ledger host es).closings ++
      ((start source config w).run host es).tracked).Nodup := by
  obtain ⟨cs, hperm, hsub⟩ := history_covered host source config w es
  rw [run_eq_forget]
  exact hperm.nodup_iff.mp (hn.sublist hsub)

end Desk
end ConnPool
