import ConnPool.Proofs.History
import ConnPool.Proofs.Later
import ConnPool.Proofs.Leases
import ConnPool.World

namespace ConnPool

/-- What the pool did with a connection applied the settings of a source, and nothing else was done
with it. -/
structure Source.Configures (s : Source) (c : ConnId) (j : Ledger) : Prop where
  contacts : ∀ e ∈ j, e.party = .pool ∧ e.conn = c ∧ e.deed.isContact = true
  timeout : ∀ ms, s.networkTimeout = some ms →
    ⟨.pool, c, .called (.setNetworkTimeout ms) (.ok ())⟩ ∈ j
  /-- A connection that is in the mode already is left in it. -/
  autoCommit : ∀ on, s.autoCommit = some on →
    ⟨.pool, c, .called .autoCommit (.ok on)⟩ ∈ j ∨
      ⟨.pool, c, .called (.setAutoCommit on) (.ok ())⟩ ∈ j
  isolation : ∀ level, s.isolation = some level →
    ⟨.pool, c, .called (.setIsolation level) (.ok ())⟩ ∈ j

def Source.opening (s : Source) (c : ConnId) : Entry :=
  ⟨.pool, c, .opened s.driver s.url (s.propertiesFor s.username s.password)⟩

/-- The pool opened a connection as a source says, configured it, and took it on. -/
def Ledger.OpenedWith (j : Ledger) (s : Source) (c : ConnId) : Prop :=
  ∃ later meanwhile earlier : Ledger,
    j = later ++ ⟨.pool, c, .numbered⟩ :: (meanwhile ++ s.opening c :: earlier) ∧
      s.Configures c meanwhile

/-- It did so after an earlier ledger was written. -/
def Ledger.OpenedSince (j earlier : Ledger) (s : Source) (c : ConnId) : Prop :=
  ∃ new : Ledger, j = new ++ earlier ∧ new.OpenedWith s c

theorem Ledger.OpenedWith.later {j : Ledger} {s : Source} {c : ConnId} (h : j.OpenedWith s c)
    (es : Ledger) : Ledger.OpenedWith (es ++ j) s c := by
  obtain ⟨later, meanwhile, earlier, rfl, hconf⟩ := h
  exact ⟨es ++ later, meanwhile, earlier, (List.append_assoc _ _ _).symm, hconf⟩

theorem Ledger.OpenedSince.later {j j' base : Ledger} {s : Source} {c : ConnId}
    (h : j.OpenedSince base s c) (hj : j <:+ j') : j'.OpenedSince base s c := by
  obtain ⟨new, rfl, hopened⟩ := h
  obtain ⟨es, rfl⟩ := hj
  exact ⟨es ++ new, (List.append_assoc _ _ _).symm, hopened.later es⟩

/-- A connection that was opened, configured and taken on just now. -/
theorem Ledger.openedSince_of_opening {j base meanwhile : Ledger} {s : Source} {c : ConnId}
    (hj : base <:+ j) (hconf : s.Configures c meanwhile) :
    Ledger.OpenedSince (⟨.pool, c, .numbered⟩ :: (meanwhile ++ s.opening c :: j)) base s c := by
  obtain ⟨old, rfl⟩ := hj
  refine ⟨⟨.pool, c, .numbered⟩ :: (meanwhile ++ s.opening c :: old), ?_,
    [], meanwhile, old, rfl, hconf⟩
  rw [List.cons_append, List.append_assoc, List.cons_append]

namespace Action

variable {σ α β : Type}

theorem bind_ok {x : Action σ α} {f : α → Action σ β} {w w' : σ} {b : β}
    (h : (x >>= f) w = (.ok b, w')) : ∃ a v, x w = (.ok a, v) ∧ f a v = (.ok b, w') := by
  cases hx : x w with
  | mk r v =>
    cases r with
    | error e =>
      rw [bind_of_error hx] at h
      cases congrArg Prod.fst h
    | ok a =>
      rw [bind_of_ok hx] at h
      exact ⟨a, v, rfl, h⟩

theorem call_wrote {host : Host σ} {p : Party} {c : ConnId} {k : Call} {w w' : σ × Ledger}
    {r : Outcome k.Answer} (h : (host.withLedger p).call c k w = (r, w')) :
    w'.2 = ⟨p, c, .called k r⟩ :: w.2 := by
  obtain ⟨hr, rfl⟩ := Prod.mk.inj h
  show ⟨p, c, .called k (host.call c k w.1).1⟩ :: w.2 = _
  rw [hr]

end Action

namespace Source

variable {σ : Type} {host : Host σ} {s : Source} {c : ConnId} {w w' : σ × Ledger}

theorem applyTimeout_wrote
    (h : s.applyTimeout (host.withLedger .pool) c w = (.ok (), w')) :
    ∃ es, w'.2 = es ++ w.2 ∧ ∀ ms, s.networkTimeout = some ms →
      ⟨.pool, c, .called (.setNetworkTimeout ms) (.ok ())⟩ ∈ es := by
  unfold applyTimeout at h
  cases ht : s.networkTimeout with
  | none =>
    rw [ht] at h
    obtain ⟨-, rfl⟩ := Prod.mk.inj h
    exact ⟨[], rfl, nofun⟩
  | some ms =>
    rw [ht] at h
    refine ⟨[_], Action.call_wrote h, fun ms' hms => ?_⟩
    obtain rfl := Option.some.inj hms
    exact List.mem_singleton_self _

theorem applyAutoCommit_wrote
    (h : s.applyAutoCommit (host.withLedger .pool) c w = (.ok (), w')) :
    ∃ es, w'.2 = es ++ w.2 ∧ ∀ on, s.autoCommit = some on →
      ⟨.pool, c, .called .autoCommit (.ok on)⟩ ∈ es ∨
        ⟨.pool, c, .called (.setAutoCommit on) (.ok ())⟩ ∈ es := by
  unfold applyAutoCommit at h
  cases ha : s.autoCommit with
  | none =>
    rw [ha] at h
    obtain ⟨-, rfl⟩ := Prod.mk.inj h
    exact ⟨[], rfl, nofun⟩
  | some on =>
    rw [ha] at h
    obtain ⟨now, v, hnow, hset⟩ := Action.bind_ok h
    have hread := Action.call_wrote hnow
    split at hset
    · rename_i heq
      obtain ⟨-, rfl⟩ := Prod.mk.inj hset
      refine ⟨[_], hread, fun on' hon => .inl ?_⟩
      obtain rfl := Option.some.inj hon
      rw [heq]
      exact List.mem_singleton_self _
    · refine ⟨[_, _], by rw [Action.call_wrote hset, hread]; rfl, fun on' hon => .inr ?_⟩
      obtain rfl := Option.some.inj hon
      exact List.mem_cons_self

theorem applyIsolation_wrote
    (h : s.applyIsolation (host.withLedger .pool) c w = (.ok (), w')) :
    ∃ es, w'.2 = es ++ w.2 ∧ ∀ level, s.isolation = some level →
      ⟨.pool, c, .called (.setIsolation level) (.ok ())⟩ ∈ es := by
  unfold applyIsolation at h
  cases hi : s.isolation with
  | none =>
    rw [hi] at h
    obtain ⟨-, rfl⟩ := Prod.mk.inj h
    exact ⟨[], rfl, nofun⟩
  | some level =>
    rw [hi] at h
    refine ⟨[_], Action.call_wrote h, fun level' hlevel => ?_⟩
    obtain rfl := Option.some.inj hlevel
    exact List.mem_singleton_self _

theorem configure_wrote (h : s.configure (host.withLedger .pool) c w = (.ok (), w')) :
    ∃ es, w'.2 = es ++ w.2 ∧ s.Configures c es := by
  obtain ⟨es, he, hes⟩ := Action.speaksTo_configure (p := .pool) (c := c) host s w
  obtain ⟨_, u, htimeout, h'⟩ := Action.bind_ok h
  obtain ⟨_, v, hauto, hisolation⟩ := Action.bind_ok h'
  obtain ⟨fs, hfs, htimeout⟩ := applyTimeout_wrote htimeout
  obtain ⟨gs, hgs, hauto⟩ := applyAutoCommit_wrote hauto
  obtain ⟨hs, hhs, hisolation⟩ := applyIsolation_wrote hisolation
  have hall : w'.2 = (hs ++ (gs ++ fs)) ++ w.2 := by
    rw [hhs, hgs, hfs, List.append_assoc, List.append_assoc]
  have heq : es = hs ++ (gs ++ fs) := by
    rw [h] at he
    exact List.append_cancel_right (he.symm.trans hall)
  subst heq
  refine ⟨_, hall, hes, fun ms hms => ?_, fun on hon => ?_, fun level hlevel => ?_⟩
  · exact List.mem_append_right _ (List.mem_append_right _ (htimeout ms hms))
  · refine (hauto on hon).imp ?_ ?_ <;>
      exact fun hm => List.mem_append_right _ (List.mem_append_left _ hm)
  · exact List.mem_append_left _ (hisolation level hlevel)

/-- A connection that a source opened was configured. -/
theorem openDefault_wrote (h : s.openDefault (host.withLedger .pool) w = (.ok c, w')) :
    ∃ es, w'.2 = es ++ s.opening c :: w.2 ∧ s.Configures c es := by
  unfold openDefault «open» at h
  split at h
  · obtain ⟨c', v, hconnect, h⟩ := Action.bind_ok h
    obtain ⟨_, u, hconf, h⟩ := Action.bind_ok h
    obtain ⟨hc, rfl⟩ := Prod.mk.inj h
    obtain rfl := Except.ok.inj hc
    obtain ⟨es, hes, hconf⟩ := configure_wrote hconf
    refine ⟨es, ?_, hconf⟩
    rw [hes]
    cases ho : host.connect s.driver s.url (s.propertiesFor s.username s.password) w.1 with
    | mk o x =>
      cases o with
      | error f =>
        rw [Host.withLedger_connect_error ho] at hconnect
        cases congrArg Prod.fst hconnect
      | ok b =>
        rw [Host.withLedger_connect_ok ho] at hconnect
        obtain ⟨hb, rfl⟩ := Prod.mk.inj hconnect
        obtain rfl := Except.ok.inj hb
        rfl
  · cases congrArg Prod.fst h

end Source

/-- Worlds that come later have longer ledgers. -/
theorem Host.ledger_suffix {σ : Type} {host : Host σ} {p : Party} {w u : σ × Ledger}
    (h : (host.withLedger p).Later w u) : w.2 <:+ u.2 := by
  induction h with
  | refl => exact List.suffix_rfl
  | @tail v u _ hlead ih =>
    refine ih.trans ?_
    cases hlead with
    | now => exact List.suffix_rfl
    | serial c => exact List.suffix_cons _ _
    | call c k => exact List.suffix_cons _ _
    | close c => exact List.suffix_cons _ _
    | isClosed c => exact List.suffix_cons _ _
    | connect driver url properties =>
      cases hc : host.connect driver url properties v.1 with
      | mk o x =>
        cases o with
        | error f =>
          have hsame : ((host.withLedger p).connect driver url properties v).2.2 = v.2 := by
            rw [Host.withLedger_connect_error hc]
          exact hsame ▸ List.suffix_rfl
        | ok c =>
          rw [Host.withLedger_connect_ok hc]
          exact List.suffix_cons _ _

namespace Site

variable {σ : Type} {host : Host σ} {base : Ledger} {s t u : Site (σ × Ledger)} {n : Nat}
  {c : Checkout}

/-- Of a connection that comes back, the pool keeps no more than itself. -/
theorem giveBack_conns {τ : Type} (host : Host τ) (s : Site τ) (flag : FlagId) :
    s.pool.SameSettings (s.giveBack host flag).2.pool ∧
      ∀ q ∈ (s.giveBack host flag).2.pool.idle ++ (s.giveBack host flag).2.pool.active,
        ∃ r ∈ s.pool.idle ++ s.pool.active, r.conn = q.conn := by
  have hback := s.giveBack_takesBack host flag
  generalize (s.giveBack host flag).1 = b, (s.giveBack host flag).2.pool = p at hback ⊢
  cases hback with
  | missing _ found alike =>
    rw [alike.idle, alike.active]
    exact ⟨alike.toSameSettings, fun q hq => ⟨q, hq, rfl⟩⟩
  | lost _ r found settings idle active =>
    refine ⟨settings, fun q hq => ⟨q, ?_, rfl⟩⟩
    rw [idle, active] at hq
    exact List.mem_append.mpr ((List.mem_append.mp hq).imp_right List.mem_of_mem_eraseP)
  | kept _ r r' found settings conn idle active =>
    refine ⟨settings, fun q hq => ?_⟩
    rw [idle, active] at hq
    simp only [List.mem_append, List.mem_singleton] at hq
    rcases hq with (hq | rfl) | hq
    · exact ⟨q, List.mem_append_left _ hq, rfl⟩
    · exact ⟨r, List.mem_append_right _ (List.mem_of_find?_eq_some found), conn.symm⟩
    · exact ⟨q, List.mem_append_right _ (List.mem_of_mem_eraseP hq), rfl⟩

theorem drain_source {τ : Type} (host : Host τ) (s : Site τ) :
    (s.drain host).pool.source = s.pool.source ∧
      (s.drain host).pool.expected = s.pool.source.typeCode := by
  rw [drain_pool]
  exact ⟨rfl, rfl⟩

/-- All connections were opened under the settings in force since a ledger was written. -/
structure UpToDate (base : Ledger) (s : Site (σ × Ledger)) : Prop where
  since : base <:+ s.world.2
  expected : s.pool.expected = s.pool.source.typeCode
  opened : ∀ r ∈ s.pool.idle ++ s.pool.active,
    s.world.2.OpenedSince base s.pool.source r.conn

namespace UpToDate

/-- Later on the connections are up to date that stay or have just been opened. -/
theorem later (h : UpToDate base s) {p : Party} (hb : s.Before (host.withLedger p) t)
    (hsource : t.pool.source = s.pool.source) (hexpected : t.pool.expected = s.pool.expected)
    (hconns : ∀ r ∈ t.pool.idle ++ t.pool.active,
      (∃ q ∈ s.pool.idle ++ s.pool.active, q.conn = r.conn) ∨
        t.world.2.OpenedSince base s.pool.source r.conn) : UpToDate base t where
  since := h.since.trans (Host.ledger_suffix hb)
  expected := by rw [hexpected, hsource, h.expected]
  opened r hr := by
    rw [hsource]
    rcases hconns r hr with ⟨q, hq, hc⟩ | hopened
    · exact hc ▸ (h.opened q hq).later (Host.ledger_suffix hb)
    · exact hopened

theorem same (h : UpToDate base s) {p : Party} (hb : s.Before (host.withLedger p) t)
    (hs : s.pool.SameConnections t.pool) : UpToDate base t := by
  refine h.later hb hs.source hs.expected fun r hr => .inl ⟨r, ?_, rfl⟩
  rwa [hs.idle, hs.active] at hr

/-- A candidate is up to date, too. -/
theorem found (h : UpToDate base s) {r : Record}
    (hn : s.nextCandidate (host.withLedger .pool) = (.ok (.ready r), t)) :
    UpToDate base t ∧ t.world.2.OpenedSince base t.pool.source r.conn := by
  have hb := before_found hn
  have hlook := look_of_eq hn
  cases hlook with
  | idle r rest front =>
    have hr : r ∈ s.pool.idle ++ s.pool.active := by rw [front]; exact List.mem_cons_self
    refine ⟨h.later hb rfl rfl fun q hq => .inl ⟨q, ?_, rfl⟩, h.opened r hr⟩
    rw [front]
    exact List.mem_cons_of_mem _ hq
  | opened c w none_idle room opens =>
    obtain ⟨es, hes, hconf⟩ := Source.openDefault_wrote opens
    have hopened := Ledger.openedSince_of_opening h.since hconf
    rw [← hes] at hopened
    exact ⟨h.later hb rfl rfl fun q hq => .inl ⟨q, hq, rfl⟩, hopened⟩
  | claimed oldest rest none_idle full front overdue =>
    have hr : oldest ∈ s.pool.idle ++ s.pool.active := by
      rw [front]
      exact List.mem_append_right _ List.mem_cons_self
    refine ⟨h.later hb rfl rfl fun q hq => .inl ⟨q, ?_, rfl⟩,
      (h.opened oldest hr).later (Host.ledger_suffix hb)⟩
    rw [front]
    exact List.mem_append.mpr ((List.mem_append.mp hq).imp_right (List.mem_cons_of_mem _))

theorem answered (h : UpToDate base s) {r : Record} {b : Bool}
    (hn : s.nextCandidate (host.withLedger .pool) = (.ok (.ready r), t))
    (hv : t.validate (host.withLedger .pool) r = (b, u)) :
    UpToDate base u ∧ u.world.2.OpenedSince base u.pool.source r.conn := by
  obtain ⟨ht, hr⟩ := h.found hn
  have hpool := pool_of_validate hv
  have hb := before_of_validate hv
  refine ⟨ht.same hb (hpool ▸ ⟨rfl, rfl, rfl, rfl, rfl⟩), ?_⟩
  rw [hpool]
  exact hr.later (Host.ledger_suffix hb)

theorem miss (h : UpToDate base s) (hm : s.Miss (host.withLedger .pool) t) : UpToDate base t := by
  obtain ⟨r, t, u, found, invalid⟩ := hm
  obtain ⟨hu, -⟩ := h.answered found invalid
  exact ⟨hu.since, hu.expected, hu.opened⟩

theorem misses (h : UpToDate base s) (hm : s.Misses (host.withLedger .pool) n t) :
    UpToDate base t := by
  induction hm with
  | none s => exact h
  | more miss _ ih => exact ih (h.miss miss)

theorem grant (h : UpToDate base s) {r : Record}
    (hr : s.world.2.OpenedSince base s.pool.source r.conn) (c : Checkout) :
    UpToDate base (s.grant (host.withLedger .pool) c r).2 := by
  have hb := s.before_grant (host.withLedger .pool) c r
  obtain ⟨code, hactive⟩ := grant_active (host.withLedger .pool) s c r
  refine h.later hb rfl rfl fun q hq => ?_
  rw [hactive, ← List.append_assoc] at hq
  rcases List.mem_append.mp hq with hq | hq
  · exact .inl ⟨q, hq, rfl⟩
  · rw [List.mem_singleton.mp hq]
    exact .inr (hr.later (Host.ledger_suffix hb))

theorem ending (h : UpToDate base s) {r : Stretch × Site (σ × Ledger)}
    (hend : Ending (host.withLedger .pool) c s r) : UpToDate base r.2 := by
  cases hend with
  | failed f t found =>
    have hpool : t.pool = s.pool := (look_of_eq found).error
    exact h.same (before_found found) (hpool ▸ ⟨rfl, rfl, rfl, rfl, rfl⟩)
  | waiting t found =>
    obtain ⟨-, -, -, hpool⟩ := (look_of_eq found).mustWait
    have halike := wait_alike (host.withLedger .pool) t c
    have hb := (before_found found).trans (t.before_wait (host.withLedger .pool) c)
    rw [hpool] at halike
    exact h.same hb halike.sameConnections
  | granted q t u found valid =>
    obtain ⟨hu, hq⟩ := h.answered found valid
    exact hu.grant hq c
  | exhausted t miss => exact h.miss miss

theorem giveBack (h : UpToDate base s) (flag : FlagId) :
    UpToDate base (s.giveBack (host.withLedger .pool) flag).2 := by
  obtain ⟨hset, hconns⟩ := giveBack_conns (host.withLedger .pool) s flag
  exact h.later (s.before_giveBack (host.withLedger .pool) flag) hset.source hset.expected
    fun r hr => .inl (hconns r hr)

theorem of_empty (hbase : base <:+ s.world.2)
    (hexpected : s.pool.expected = s.pool.source.typeCode) (hidle : s.pool.idle = [])
    (hactive : s.pool.active = []) : UpToDate base s :=
  ⟨hbase, hexpected, by rw [hidle, hactive]; exact nofun⟩

/-- A drain leaves no connection, and the code of the source in force. -/
theorem drain (host : Host σ) (s : Site (σ × Ledger))
    (hbase : base <:+ (s.drain (host.withLedger .pool)).world.2) :
    UpToDate base (s.drain (host.withLedger .pool)) := by
  obtain ⟨hidle, hactive⟩ := s.drain_lists (host.withLedger .pool)
  obtain ⟨hsource, hexpected⟩ := s.drain_source (host.withLedger .pool)
  exact of_empty hbase (hexpected.trans (by rw [hsource])) hidle hactive

theorem kept (host : Host σ) (base : Ledger) : Kept (host.withLedger .pool) (UpToDate base) where
  same s t hs hb h := h.same hb hs
  proceed s c h := by
    obtain ⟨n, t, -, hmisses, hend⟩ := acquire_ends (host.withLedger .pool)
      (s.pool.config.badConnectionLimit - c.bad) c s
    exact (h.misses hmisses).ending hend
  giveBack s flag h := h.giveBack flag
  drain s p h := by
    have hb := before_drain (host.withLedger .pool) ⟨p, s.world⟩
    exact drain host ⟨p, s.world⟩ (h.since.trans (Host.ledger_suffix hb))

end UpToDate
end Site

namespace Desk

variable {σ : Type} {host : Host σ} {base : Ledger}

/-- Whatever happens at a desk, its connections are up to date. -/
theorem upToDate_step {d : Desk (σ × Ledger)} (h : d.site.UpToDate base) (e : Event) :
    (d.step (host.withLedger e.party) e).site.UpToDate base := by
  cases hp : e.party with
  | pool => exact (Site.UpToDate.kept host base).step h e
  | holder =>
    have heffect := d.step_effect (host.withLedger .holder) e
    generalize d.step (host.withLedger .holder) e = d' at heffect
    cases heffect with
    | nothing _ none_goes_on => exact h
    | called i k l lease valid =>
      have hb : d.site.Before (host.withLedger .holder)
          (d.site.run ((host.withLedger .holder).call l.grant.conn k)).2 :=
        .single (.call l.grant.conn k)
      exact h.same hb ⟨rfl, rfl, rfl, rfl, rfl⟩
    | asked i l lease out valid =>
      have hb : d.site.Before (host.withLedger .holder)
          ⟨d.pool, ((host.withLedger .holder).isClosed l.grant.conn d.site.world).2⟩ :=
        .single (.isClosed l.grant.conn)
      exact h.same hb ⟨rfl, rfl, rfl, rfl, rfl⟩
    | _ => cases hp

/-- An event drains the pool. -/
def Drains (d : Desk σ) : Event → Prop
  | .shutdown | .drain => d.isHeld = true
  | .configure setting => d.isHeld = true ∧ ∃ p, d.pool.set setting = .ok p
  | _ => False

inductive DrainsFrom (host : Host σ) (d : Desk σ) : Event → Site σ → Prop where
  | drain (held : d.isHeld = true) : DrainsFrom host d .drain d.site
  | shutdown (held : d.isHeld = true) : DrainsFrom host d .shutdown d.site.interrupt
  | configure (setting : Pool.Setting) (p : Pool) (held : d.isHeld = true)
      (set : d.pool.set setting = .ok p) : DrainsFrom host d (.configure setting) ⟨p, d.site.world⟩
  | letGo (held : d.isHeld = true) (isOpen : d.isOpen = true) (alone : d.waiters = []) :
      DrainsFrom host d .letGo d.site
  /-- The last checkout that waited at a pool that nobody holds is over. -/
  | resume (id : Nat) (o : Outcome Grant) (s : Site σ) (unheld : d.isHeld = false)
      (isOpen : d.isOpen = true) (alone : d.waiters.eraseP (·.id == id) = [])
      (runs : d.stretch? host (.resume id) = some (.done o, s)) :
      DrainsFrom host d (.resume id) s

section

variable {d : Desk σ} {e : Event} {s : Site σ}

theorem DrainsFrom.site (h : d.DrainsFrom host e s) : (d.step host e).site = s.drain host := by
  cases h with
  | drain held => simp [step, held, Desk.drain]
  | shutdown held => simp [step, held, Desk.shutdown, wakeAll]
  | configure setting p held set =>
    have hset : d.site.pool.set setting = .ok p := set
    simp [step, held, Desk.configure, Site.configure, hset]
  | letGo held isOpen alone =>
    simp [step, held, Desk.letGo, closeUnused, isOpen, alone, Desk.drain]
  | resume id o s unheld isOpen alone runs =>
    obtain ⟨v, hv, hr⟩ := Option.map_eq_some_iff.mp runs
    have hstep : d.step host (.resume id) = (d.resume host id).2 := rfl
    rw [hstep, Desk.resume, hv]
    dsimp only
    rw [hr]
    cases o <;> simp [afterStretch, closeUnused, unheld, isOpen, alone, Desk.drain]

/-- But for a checkout that goes on, nothing happens before. -/
theorem DrainsFrom.before (h : d.DrainsFrom host e s) (he : ∀ id, e ≠ .resume id) :
    s.world = d.site.world ∧ s.pool.idle = d.pool.idle ∧ s.pool.active = d.pool.active ∧
      s.pool.tally = d.pool.tally := by
  cases h with
  | drain held => exact ⟨rfl, rfl, rfl, rfl⟩
  | shutdown held => exact ⟨rfl, rfl, rfl, rfl⟩
  | configure setting p held set =>
    obtain ⟨source, config, rfl⟩ := Pool.set_ok set
    exact ⟨rfl, rfl, rfl, rfl⟩
  | letGo held isOpen alone => exact ⟨rfl, rfl, rfl, rfl⟩
  | resume id o s unheld isOpen alone runs => exact absurd rfl (he id)

theorem drainsFrom_of_drains (h : d.Drains e) : ∃ s, d.DrainsFrom host e s := by
  cases e with
  | drain => exact ⟨_, .drain h⟩
  | shutdown => exact ⟨_, .shutdown h⟩
  | configure setting =>
    obtain ⟨held, p, hp⟩ := h
    exact ⟨_, .configure setting p held hp⟩
  | _ => cases h

end

def JustDrained (host : Host σ) (d : Desk σ) (es : List Event) : Prop :=
  es = [] ∨ ∃ fs e, es = fs ++ [e] ∧ (d.run host fs).Drains e

theorem start_upToDate (source : Source) (config : PoolConfig) (w : σ) {fs : List Event}
    (hd : (start source config w).JustDrained host fs) :
    ((start source config w).watched.history host fs).site.UpToDate
      ((start source config w).ledger host fs) := by
  rcases hd with rfl | ⟨es, e, rfl, hdrains⟩
  · exact .of_empty List.suffix_rfl rfl rfl rfl
  · rw [run_eq_forget] at hdrains
    rw [ledger, history_append]
    generalize (start source config w).watched.history host es = d at hdrains
    have hdrains : d.Drains e := by cases e <;> exact hdrains
    have hpool : e.party = .pool := by cases e <;> first | rfl | cases hdrains
    obtain ⟨s, hs⟩ : ∃ s, d.DrainsFrom (host.withLedger .pool) e s :=
      drainsFrom_of_drains hdrains
    have hsite : (d.history host [e]).site = s.drain (host.withLedger .pool) := by
      rw [← hs.site, ← hpool]
      rfl
    rw [hsite]
    exact .drain host s List.suffix_rfl

theorem history_upToDate (source : Source) (config : PoolConfig) (w : σ) {fs : List Event}
    (hd : (start source config w).JustDrained host fs) (gs : List Event) :
    ((start source config w).watched.history host (fs ++ gs)).site.UpToDate
      ((start source config w).ledger host fs) := by
  rw [history_append]
  have h := start_upToDate source config w hd
  generalize (start source config w).watched.history host fs = d at h
  induction gs generalizing d with
  | nil => exact h
  | cons e gs ih => exact ih _ (upToDate_step h e)

section

variable {d : Desk σ} {e : Event}

theorem closeUnused_source (host : Host σ) (d : Desk σ) :
    d.site.Before host (d.closeUnused host).site ∧
      (d.closeUnused host).pool.source = d.pool.source := by
  unfold closeUnused
  split
  · exact ⟨d.site.before_drain host, (d.site.drain_source host).1⟩
  · exact ⟨.refl, rfl⟩

theorem stretch_of_leases {id : Nat} {r : Stretch × Site σ} {l : Lease}
    (h : (afterStretch d id r).2.leases = d.leases ++ [l]) : r = (.done (.ok l.grant), r.2) := by
  obtain ⟨(f | g) | x, s⟩ := r
  · simp [afterStretch] at h
  · have hl : l = ⟨g, false⟩ := by simpa [afterStretch] using h.symm
    rw [hl]
  · simp [afterStretch] at h

/-- A lease joins the others where the stretch of a checkout ends well. -/
theorem stretch_of_granted (host : Host σ) (d : Desk σ) {e : Event} {l : Lease}
    (h : (d.step host e).leases = d.leases ++ [l]) :
    ∃ s, d.stretch? host e = some (.done (.ok l.grant), s) ∧
      s.Before host (d.step host e).site ∧ (d.step host e).pool.source = s.pool.source := by
  have heffect := d.step_effect host e
  generalize d.step host e = d' at h heffect
  cases heffect with
  | begun credentials held =>
    have hr := stretch_of_leases h
    refine ⟨(d.site.begin host credentials).2, ?_, ?_, ?_⟩
    · rw [← hr]
      exact stretch_of_held host held credentials
    · rw [afterStretch_site]
      exact .refl
    · rw [pool, afterStretch_site]
  | resumed id v waiter =>
    rw [closeUnused_leases] at h
    have hr := stretch_of_leases (d := { d with waiters := d.waiters.eraseP (·.id == id) }) h
    obtain ⟨hb, hsource⟩ := closeUnused_source host
      (afterStretch { d with waiters := d.waiters.eraseP (·.id == id) } id
        (d.site.resume host v.waiting)).2
    rw [afterStretch_site] at hb
    refine ⟨(d.site.resume host v.waiting).2, ?_, hb, ?_⟩
    · rw [← hr]
      exact stretch_of_waiter host waiter
    · rw [hsource, pool, afterStretch_site]
  | returned i m lease out isOpen =>
    rw [giveBack_leases] at h
    simpa [markReleased] using congrArg List.length h
  | orphaned i m lease out gone =>
    rw [closeOrphan_leases] at h
    simpa [markReleased] using congrArg List.length h
  | letGo held =>
    rw [closeUnused_leases] at h
    simp at h
  | nothing _ none_goes_on => simp at h
  | _ => simp [drain, interrupt, shutdown, wakeAll] at h

/-- What a stretch hands out has just been found good. -/
theorem granted_of_stretch {g : Grant} {s : Site σ}
    (h : d.stretch? host e = some (.done (.ok g), s)) :
    ∃ t u c r, Site.validate host t r = (true, u) ∧
      (u.grant host c r).1 = g ∧ (u.grant host c r).2 = s := by
  obtain ⟨v, -, -, ⟨c, hc⟩ | hc⟩ := stretch_cases h
  · obtain ⟨n, t, -, -, hend⟩ :=
      Site.acquire_ends host (v.pool.config.badConnectionLimit - c.bad) c v
    rw [← Site.proceed, ← hc] at hend
    generalize hr : (Stretch.done (.ok g), s) = r at hend
    cases hend with
    | granted r t u found valid =>
      obtain ⟨hg, rfl⟩ := Prod.mk.inj hr
      obtain rfl := Except.ok.inj (Stretch.done.inj hg)
      exact ⟨t, u, { c with bad := c.bad + n }, r, valid, rfl, rfl⟩
    | _ => cases congrArg Prod.fst hr
  · cases congrArg Prod.fst hc

/-- It is active when the stretch ends. -/
theorem stretch_granted {g : Grant} {s : Site σ}
    (h : d.stretch? host e = some (.done (.ok g), s)) :
    e.party = .pool ∧ ∃ q ∈ s.pool.active, q.conn = g.conn := by
  have hparty : e.party = .pool := by cases e <;> first | rfl | cases h
  obtain ⟨t, u, c, r, -, rfl, rfl⟩ := granted_of_stretch h
  obtain ⟨code, hactive⟩ := Site.grant_active host u c r
  refine ⟨hparty, (r.withTypeCode code).checkedOut
    ((u.settle (host.rollbackIfNeeded r.conn)).now host).1, ?_, rfl⟩
  rw [hactive]
  exact List.mem_append_right _ (List.mem_singleton_self _)

end

/-- Whatever happens after a drain, the pool's code is that of its source, and its connections were
opened since then under the settings in force. So is any connection that is handed out next, to a
checkout that waited, too. -/
theorem run_openedSince_drain (host : Host σ) (source : Source) (config : PoolConfig) (w : σ)
    (fs gs : List Event) (hd : (start source config w).JustDrained host fs) :
    let d := start source config w
    let now := d.run host (fs ++ gs)
    now.pool.expected = now.pool.source.typeCode ∧
      (∀ c ∈ now.tracked,
        (d.ledger host (fs ++ gs)).OpenedSince (d.ledger host fs) now.pool.source c) ∧
      ∀ e l, (now.step host e).leases = now.leases ++ [l] →
        (d.ledger host (fs ++ gs ++ [e])).OpenedSince (d.ledger host fs)
          (now.step host e).pool.source l.grant.conn := by
  intro d now
  have hup := history_upToDate source config w hd gs
  have hnow : now = (d.watched.history host (fs ++ gs)).forget := run_eq_forget host _ _
  refine ⟨hnow ▸ hup.expected, fun c hc => ?_, fun e l hl => ?_⟩
  · rw [hnow] at hc ⊢
    obtain ⟨r, hr, rfl⟩ := List.mem_map.mp hc
    exact hup.opened r hr
  · rw [hnow, step_forget host e.party] at hl ⊢
    rw [ledger, history_append]
    obtain ⟨s, hruns, hb, hsource⟩ := stretch_of_granted (host.withLedger e.party)
      (d.watched.history host (fs ++ gs)) hl
    obtain ⟨hpool, q, hq, hconn⟩ := stretch_granted hruns
    rw [hpool] at hruns
    have hs := (Site.UpToDate.kept host _).stretch hup hruns
    have hopened := (hs.opened q (List.mem_append_right _ hq)).later (Host.ledger_suffix hb)
    rw [hconn, ← hsource] at hopened
    exact hopened

/-- A checkout waits while the pool gets another URL; what it is handed was opened there. -/
theorem openedSince_after_waiting :
    let d := start { driver := "mock", url := "mock:db" } { maxActive := 1 } {}
    let fs : List Event :=
      [.checkout none, .checkout none, .configure (.source (.url "mock:other"))]
    d.JustDrained World.host fs ∧
      (d.ledger World.host (fs ++ [.resume 1])).OpenedSince (d.ledger World.host fs)
        { driver := "mock", url := "mock:other" } 1 := by
  intro d fs
  have hd : d.JustDrained World.host fs :=
    .inr ⟨[.checkout none, .checkout none], _, rfl, by decide, _, rfl⟩
  have hlease : ((d.run World.host (fs ++ [])).step World.host (.resume 1)).leases =
      (d.run World.host (fs ++ [])).leases ++ [⟨⟨1, 2, 1⟩, false⟩] := by decide
  have hsource : ((d.run World.host (fs ++ [])).step World.host (.resume 1)).pool.source =
      { driver := "mock", url := "mock:other" } := by decide
  obtain ⟨-, -, hgrants⟩ := run_openedSince_drain World.host _ _ _ fs [] hd
  exact ⟨hd, hsource ▸ hgrants (.resume 1) _ hlease⟩

end Desk
end ConnPool
