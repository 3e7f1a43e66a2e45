import ConnPool.Proofs.Closings

namespace ConnPool

/-- The calls by which a source configures a connection that it opened. -/
inductive Source.Sets (s : Source) : Call → Prop where
  | timeout (ms : UInt64) (given : s.networkTimeout = some ms) : s.Sets (.setNetworkTimeout ms)
  | mode (on : Bool) (given : s.autoCommit = some on) : s.Sets .autoCommit
  | switch (on : Bool) (given : s.autoCommit = some on) : s.Sets (.setAutoCommit on)
  | level (l : Isolation) (given : s.isolation = some l) : s.Sets (.setIsolation l)

namespace Ledger

variable {P : Call → Prop} {c : ConnId} {f : Failure} {es j : Ledger}

/-- Calls of the pool on one connection that all succeeded. -/
def Succeeds (P : Call → Prop) (c : ConnId) (j : Ledger) : Prop :=
  ∀ e ∈ j, ∃ k a, P k ∧ e = ⟨.pool, c, .called k (.ok a)⟩

/-- Such calls, and a last one that failed. -/
inductive Stops (P : Call → Prop) (c : ConnId) (f : Failure) : Ledger → Prop where
  | intro (k : Call) (j : Ledger) (what : P k) (before : j.Succeeds P c) :
      Stops P c f (⟨.pool, c, .called k (.error f)⟩ :: j)

theorem Succeeds.nil : Succeeds P c [] := fun _ he => absurd he List.not_mem_nil

theorem Succeeds.append (h : es.Succeeds P c) (hj : j.Succeeds P c) : (es ++ j).Succeeds P c :=
  fun e he => (List.mem_append.mp he).elim (h e) (hj e)

theorem Stops.append (h : es.Stops P c f) (hj : j.Succeeds P c) : (es ++ j).Stops P c f := by
  obtain ⟨k, es, what, before⟩ := h
  exact .intro k (es ++ j) what (before.append hj)

inductive Tells {α : Type} (P : Call → Prop) (c : ConnId) : Outcome α → Ledger → Prop where
  | ok {j : Ledger} (a : α) (succeeds : j.Succeeds P c) : Tells P c (.ok a) j
  | error {j : Ledger} (f : Failure) (stops : j.Stops P c f) : Tells P c (.error f) j

theorem Tells.append {α : Type} {r : Outcome α} (h : es.Tells P c r) (hj : j.Succeeds P c) :
    (es ++ j).Tells P c r := by
  cases h with
  | ok a succeeds => exact .ok a (succeeds.append hj)
  | error f stops => exact .error f (stops.append hj)

theorem dealings_append (j j' : Ledger) (c : ConnId) :
    dealings (j ++ j') c = j.dealings c ++ j'.dealings c :=
  List.filter_append j j'

/-- What the pool closes it deals with. -/
theorem not_mem_closings (h : j.dealings c = []) : c ∉ j.closings := by
  intro hc
  obtain ⟨e, he, rfl⟩ := List.mem_map.mp hc
  obtain ⟨hm, hp⟩ := List.mem_filter.mp he
  simp only [Bool.and_eq_true] at hp
  have hd : e ∈ j.dealings e.conn := List.mem_filter.mpr ⟨hm, by simpa using hp.1⟩
  rw [h] at hd
  exact List.not_mem_nil hd

/-- The call that failed was the last thing done. -/
theorem Stops.parted (h : es.Stops P c f) (j : Ledger) : parted (es ++ j) c = false := by
  obtain ⟨k, es, -, -⟩ := h
  exact parted_self c _ _

/-- None of these calls opens or closes a connection. -/
theorem Succeeds.closings (h : j.Succeeds P c) : j.closings = [] ∧ j.opened = [] := by
  induction j with
  | nil => exact ⟨rfl, rfl⟩
  | cons e j ih =>
    obtain ⟨k, a, -, rfl⟩ := h e List.mem_cons_self
    rw [closings_cons, opened_cons]
    exact ih fun e he => h e (List.mem_cons_of_mem _ he)

theorem Stops.closings (h : j.Stops P c f) : j.closings = [] ∧ j.opened = [] := by
  obtain ⟨k, j, -, before⟩ := h
  rw [closings_cons, opened_cons]
  exact before.closings

/-- A connection was opened, a call that was to configure it failed, and the pool has not dealt
with it since. -/
structure LeftOpen (j : Ledger) (s : Source) (f : Failure) (c : ConnId) : Prop where
  setup : ∃ later calls earlier : Ledger, j = later ++ (calls ++ s.opening c :: earlier) ∧
    calls.Stops s.Sets c f ∧ later.dealings c = []
  open_still : c ∉ j.closings
  not_numbered : c ∉ j.numbered

end Ledger

namespace Action

variable {σ α β : Type} {P : Call → Prop} {c : ConnId}

/-- A step that calls a connection, any number of times, and fails where a call fails. -/
def Calls (P : Call → Prop) (c : ConnId) (a : Action (σ × Ledger) α) : Prop :=
  ∀ w, ∃ es : Ledger, (a w).2.2 = es ++ w.2 ∧ es.Tells P c (a w).1

theorem calls_pure (a : α) : Calls P c (Pure.pure a : Action (σ × Ledger) α) :=
  fun _ => ⟨[], rfl, .ok a .nil⟩

theorem calls_call (host : Host σ) {k : Call} (hk : P k) :
    Calls P c ((host.withLedger .pool).call c k) := by
  intro w
  refine ⟨[⟨.pool, c, .called k (host.call c k w.1).1⟩], rfl, ?_⟩
  show Ledger.Tells P c (host.call c k w.1).1 _
  cases (host.call c k w.1).1 with
  | ok a => exact .ok a fun e he => ⟨k, a, hk, List.mem_singleton.mp he⟩
  | error f => exact .error f (.intro k [] hk .nil)

theorem Calls.bind {x : Action (σ × Ledger) α} {f : α → Action (σ × Ledger) β}
    (hx : Calls P c x) (hf : ∀ a, Calls P c (f a)) : Calls P c (x >>= f) := by
  intro w
  obtain ⟨es, he, hes⟩ := hx w
  rw [bind_apply]
  cases hr : x w with
  | mk r v =>
    rw [hr] at he hes
    cases hes with
    | error g stops => exact ⟨es, he, .error g stops⟩
    | ok a succeeds =>
      obtain ⟨fs, hfs, hmore⟩ := hf a v
      refine ⟨fs ++ es, ?_, hmore.append succeeds⟩
      show (f a v).2.2 = _
      rw [hfs, he, List.append_assoc]

/-- Configuring a connection makes the calls that the settings ask for, up to one that fails. -/
theorem calls_configure (host : Host σ) (s : Source) :
    Calls s.Sets c (s.configure (host.withLedger .pool) c) := by
  refine .bind ?_ fun _ => .bind ?_ fun _ => ?_
  · unfold Source.applyTimeout
    split
    · exact calls_pure ()
    · rename_i ms given
      exact calls_call host (.timeout ms given)
  · unfold Source.applyAutoCommit
    split
    · exact calls_pure ()
    · rename_i on given
      refine (calls_call host (.mode on given)).bind fun now => ?_
      split
      · exact calls_pure ()
      · exact calls_call host (.switch on given)
  · unfold Source.applyIsolation
    split
    · exact calls_pure ()
    · rename_i l given
      exact calls_call host (.level l given)

end Action

/-- How opening a connection fails: the driver is not asked, it opens none, or the one it opened
cannot be configured and is left as it is. -/
inductive Source.Unopened {σ : Type} (host : Host σ) (s : Source)
    (username password : Option String) (w : σ × Ledger) : Failure → σ × Ledger → Prop where
  | refused (foreign : host.acceptsUrl s.driver s.url = false) :
      Unopened host s username password w (.error (.configuration (.foreignUrl s.driver s.url))) w
  | unconnected (f : Failure) (v : σ)
      (answer : host.connect s.driver s.url (s.propertiesFor username password) w.1 =
        (.error f, v)) : Unopened host s username password w f (v, w.2)
  | unconfigured (f : Failure) (c : ConnId) (v u : σ) (calls : Ledger)
      (answer : host.connect s.driver s.url (s.propertiesFor username password) w.1 = (.ok c, v))
      (stops : calls.Stops s.Sets c f) :
      Unopened host s username password w f (u, calls ++
        ⟨.pool, c, .opened s.driver s.url (s.propertiesFor username password)⟩ :: w.2)

theorem Source.open_failed {σ : Type} {host : Host σ} {s : Source}
    {username password : Option String} {w w' : σ × Ledger} {f : Failure}
    (h : s.open (host.withLedger .pool) username password w = (.error f, w')) :
    s.Unopened host username password w f w' := by
  unfold Source.open at h
  split at h
  · rw [Action.bind_apply] at h
    cases hc : host.connect s.driver s.url (s.propertiesFor username password) w.1 with
    | mk o v =>
      cases o with
      | error g =>
        rw [Host.withLedger_connect_error hc] at h
        obtain ⟨hg, rfl⟩ := Prod.mk.inj h
        obtain rfl := Except.error.inj hg
        exact .unconnected g v hc
      | ok c =>
        rw [Host.withLedger_connect_ok hc] at h
        dsimp only at h
        obtain ⟨calls, hcalls, hends⟩ := Action.calls_configure (c := c) host s
          (v, ⟨.pool, c, .opened s.driver s.url (s.propertiesFor username password)⟩ :: w.2)
        rw [Action.bind_apply] at h
        split at h
        · cases congrArg Prod.fst h
        · rename_i g u herr
          rw [herr] at hcalls hends
          cases hends with
          | error _ stops =>
            obtain ⟨hg, rfl⟩ := Prod.mk.inj h
            obtain rfl := Except.error.inj hg
            obtain ⟨u, j⟩ := u
            obtain rfl : j = _ := hcalls
            exact .unconfigured g c v u calls hc stops
  · rename_i foreign
    obtain ⟨hf, rfl⟩ := Prod.mk.inj h
    obtain rfl := Except.error.inj hf
    exact .refused (Bool.eq_false_iff.mpr foreign)

/-- With its own credentials, all that is new in the ledger is about one connection. -/
theorem Source.Unopened.ledger_cases {σ : Type} {host : Host σ} {s : Source} {w w' : σ × Ledger}
    {f : Failure} {c : ConnId} (h : s.Unopened host s.username s.password w f w')
    (hc : c ∈ w'.2.opened) :
    w.2 <:+ w'.2 ∧ (c ∈ w.2.opened ∨ ∃ calls : Ledger, calls.Stops s.Sets c f ∧
      w'.2 = calls ++ s.opening c :: w.2) := by
  cases h with
  | refused foreign => exact ⟨List.suffix_rfl, .inl hc⟩
  | unconnected f v answer => exact ⟨List.suffix_rfl, .inl hc⟩
  | unconfigured f b v u calls answer stops =>
    refine ⟨⟨calls ++ [s.opening b], by simp [Source.opening]⟩, ?_⟩
    rw [Ledger.opened_append, stops.closings.2, List.nil_append] at hc
    rcases List.mem_cons.mp hc with rfl | hc
    · exact .inr ⟨calls, stops, rfl⟩
    · exact .inl hc

/-- The ledger has grown, and each connection that was opened meanwhile has been taken on. -/
structure Ledger.TakesOn (j j' : Ledger) : Prop where
  suffix : j <:+ j'
  numbered : ∀ c ∈ j'.opened, c ∈ j.opened ∨ c ∈ j'.numbered

namespace Ledger.TakesOn

variable {j j' j'' : Ledger}

theorem of_opened (hs : j <:+ j') (ho : j'.opened = j.opened) : j.TakesOn j' :=
  ⟨hs, fun _ hc => .inl (ho ▸ hc)⟩

theorem trans (h : j.TakesOn j') (h' : j'.TakesOn j'') : j.TakesOn j'' where
  suffix := h.suffix.trans h'.suffix
  numbered c hc := by
    rcases h'.numbered c hc with hc | hc
    · refine (h.numbered c hc).imp_right fun hc => ?_
      exact ((h'.suffix.sublist.filter _).map _).subset hc
    · exact .inr hc

end Ledger.TakesOn

namespace Site

variable {σ : Type} {host : Host σ} {s t : Site (σ × Ledger)} {r : Record} {n : Nat}

theorem found_takesOn (h : s.nextCandidate (host.withLedger .pool) = (.ok (.ready r), t)) :
    s.world.2.TakesOn t.world.2 := by
  have hsuffix := Host.ledger_suffix (before_found h)
  cases look_of_eq h with
  | idle r rest front => exact .of_opened hsuffix rfl
  | opened c w none_idle room opens =>
    refine ⟨hsuffix, fun b hb => ?_⟩
    obtain ⟨-, ⟨⟨f, hf⟩, -⟩ | ⟨a, hopened, hok⟩⟩ := Source.open_closings host _ _ _ opens
    · cases hf
    · obtain rfl := hok c rfl
      have hb : b ∈ w.2.opened := by simpa [wrap, now, Host.withLedger, Ledger.opened_cons,
        Deed.isOpening] using hb
      rw [hopened] at hb
      rcases List.mem_cons.mp hb with rfl | hb
      · exact .inr (by simp [wrap, now, Host.withLedger, Ledger.numbered_cons, Deed.isNumbering])
      · exact .inl hb
  | claimed oldest rest none_idle full front overdue =>
    exact .of_opened hsuffix ((Action.spares_rollbackIfNeeded host).same _).1

theorem answered_takesOn {b : Bool} {u : Site (σ × Ledger)}
    (h : s.nextCandidate (host.withLedger .pool) = (.ok (.ready r), t))
    (hv : t.validate (host.withLedger .pool) r = (b, u)) : s.world.2.TakesOn u.world.2 :=
  (found_takesOn h).trans
    (.of_opened (Host.ledger_suffix (before_of_validate hv)) (validate_closings hv).1)

theorem misses_takesOn (h : s.Misses (host.withLedger .pool) n t) :
    s.world.2.TakesOn t.world.2 := by
  induction h with
  | none s => exact .of_opened List.suffix_rfl rfl
  | more miss _ ih =>
    obtain ⟨r, t, u, found, invalid⟩ := miss
    have hmiss := answered_takesOn found invalid
    exact hmiss.trans ih

/-- The last look of a stretch may fail to open a connection. -/
theorem ending_takesOn {c : Checkout} {x : Stretch × Site (σ × Ledger)}
    (h : Ending (host.withLedger .pool) c s x) :
    s.world.2.TakesOn x.2.world.2 ∨ ∃ f, x.1 = .done (.error f) ∧ x.2.pool = s.pool ∧
      s.pool.source.Unopened host s.pool.source.username s.pool.source.password s.world f
        x.2.world := by
  cases h with
  | failed f t found =>
    cases look_of_eq found with
    | refused f w none_idle room fails =>
      exact .inr ⟨f, rfl, rfl, Source.open_failed fails⟩
  | waiting t found =>
    have hw : (t.wait (host.withLedger .pool) c).2.world.2 = s.world.2 := by
      have ht : t.world.2 = s.world.2 := by
        cases look_of_eq found <;> rfl
      rw [← ht, wait]
      split <;> rfl
    exact .inl (.of_opened (hw ▸ List.suffix_rfl) (by rw [hw]))
  | granted q t u found valid =>
    have hgrant : u.world.2.TakesOn (u.grant (host.withLedger .pool) c q).2.world.2 :=
      .of_opened (Host.ledger_suffix (u.before_grant (host.withLedger .pool) c q))
        ((Action.spares_rollbackIfNeeded host).same _).1
    exact .inl ((answered_takesOn found valid).trans hgrant)
  | exhausted t miss => exact .inl (misses_takesOn (.more miss (.none t)))

end Site

namespace Desk

variable {σ : Type} {host : Host σ} {d : Desk (σ × Ledger)} {e : Event}
  {r : Stretch × Site (σ × Ledger)}

/-- A connection that a checkout opened was taken on, or the checkout ended because it could not be
configured. -/
theorem stretch_opened (h : d.stretch? (host.withLedger .pool) e = some r)
    (hcovered : d.site.Covered []) (hn : r.2.world.2.OpensNew) {c : ConnId}
    (hc : c ∈ r.2.world.2.opened) (hnew : c ∉ d.site.world.2.opened) :
    c ∈ r.2.world.2.numbered ∨
      ∃ f, r.1 = .done (.error f) ∧ c ∉ r.2.world.2.closings ∧ c ∉ r.2.conns ∧
        ∃ calls earlier : Ledger, r.2.world.2 = calls ++ d.pool.source.opening c :: earlier ∧
          calls.Stops d.pool.source.Sets c f := by
  obtain ⟨s, hworld, hs, hr⟩ := stretch_cases h
  have hledger : s.world.2 = d.site.world.2 := congrArg (·.2) hworld
  rw [← hledger] at hnew
  have htaken : s.world.2.TakesOn r.2.world.2 → c ∈ r.2.world.2.numbered :=
    fun ht => (ht.numbered c hc).resolve_left hnew
  rcases hr with ⟨k, hk⟩ | rfl
  · obtain ⟨n, t, -, hmisses, hend⟩ := Site.acquire_ends (host.withLedger .pool)
      (s.pool.config.badConnectionLimit - k.bad) k s
    rw [← Site.proceed, ← hk] at hend
    have hbefore := Site.misses_takesOn hmisses
    rcases Site.ending_takesOn hend with ht | ⟨f, hf, hpool, hunopened⟩
    · exact .inl (htaken (hbefore.trans ht))
    · have hsource : t.pool.source = d.pool.source := hmisses.settings.source.trans hs.source
      have hkept : t.Covered [] :=
        (hcovered.kept hs.sameConnections (by rw [hledger]; exact ⟨rfl, rfl⟩)).misses hmisses
      rw [hsource] at hunopened
      obtain ⟨hsuffix, ht | ⟨calls, stops, hcalls⟩⟩ := hunopened.ledger_cases hc
      · refine .inl (((hsuffix.sublist.filter _).map _).subset ?_)
        exact (hbefore.numbered c ht).resolve_left hnew
      · -- what was closed or is kept had been opened before, so this connection is neither
        have hfresh : c ∉ t.world.2.opened := by
          rw [hcalls, Ledger.OpensNew, Ledger.opened_append, stops.closings.2] at hn
          exact (List.nodup_cons.mp hn).1
        have hold : ∀ b, b ∈ t.world.2.closings ++ t.conns → b ∈ t.world.2.opened :=
          fun b hb => hkept.subset hb
        refine .inr ⟨f, hf, ?_, ?_, calls, t.world.2, hcalls, stops⟩
        · rw [hcalls, Ledger.closings_append, stops.closings.1]
          exact fun hb => hfresh (hold c (List.mem_append_left _ hb))
        · rw [Site.conns, hpool]
          exact fun hb => hfresh (hold c (List.mem_append_right _ hb))
  · exact .inl (htaken (.of_opened List.suffix_rfl rfl))

/-- What follows the stretch in its event is a path of moves, too. -/
theorem step_path_of_stretch (h : d.stretch? (host.withLedger .pool) e = some r) :
    Path (r.2.scene (d.leases ++ r.1.leases) .empty)
      (d.step (host.withLedger e.party) e).scene := by
  cases e with
  | checkout credentials =>
    simp only [stretch?] at h
    split at h
    · rename_i held
      obtain rfl := Option.some.inj h
      have hstep : d.step (host.withLedger .pool) (.checkout credentials) =
          (d.checkout (host.withLedger .pool) credentials).2 := by simp [step, held]
      show Path _ (d.step (host.withLedger .pool) (.checkout credentials)).scene
      rw [hstep, checkout, afterStretch_scene]
    · cases h
  | resume id =>
    obtain ⟨v, hv, rfl⟩ := Option.map_eq_some_iff.mp h
    show Path _ (d.resume (host.withLedger .pool) id).2.scene
    unfold resume
    rw [hv]
    have hclose := closeUnused_path host (afterStretch
      { d with waiters := d.waiters.eraseP (·.id == id) } id
      (d.site.resume (host.withLedger .pool) v.waiting)).2
    rw [afterStretch_scene] at hclose
    exact hclose
  | _ => cases h

/-- A connection that a checkout opened, and that is neither taken on nor tracked when its stretch
ends, has been given up: whatever happens later, the pool does not deal with it. -/
theorem doneWith_of_stretch (hd : d.Sound) (h : d.stretch? (host.withLedger .pool) e = some r)
    {c : ConnId} (hc : c ∈ r.2.world.2.opened) (hgone : c ∉ r.2.conns) (fs : List Event)
    (hn : (d.history host (e :: fs)).site.world.2.OpensNew) :
    DoneWith c (r.2.scene (d.leases ++ r.1.leases) .empty) (d.history host (e :: fs)).scene := by
  have horderly := hd.orderly.path (stretch_path h)
  have hrest := (step_path_of_stretch h).trans ((hd.step host e).history_path host fs)
  exact (DoneWith.start hc hgone).of_path horderly hn hrest

theorem leftOpen_of_stretch (hd : d.Sound) (hx : Custody d.scene) (hcovered : d.site.Covered [])
    (h : d.stretch? (host.withLedger .pool) e = some r) (fs : List Event)
    (hn : (d.history host (e :: fs)).site.world.2.OpensNew) {c : ConnId}
    (hc : c ∈ r.2.world.2.opened) (hnew : c ∉ d.site.world.2.opened) :
    c ∈ r.2.world.2.numbered ∨ ∃ f, r.1 = .done (.error f) ∧
      (d.history host (e :: fs)).site.world.2.LeftOpen d.pool.source f c ∧
      c ∉ (d.history host (e :: fs)).tracked := by
  have hrest := (step_path_of_stretch h).trans ((hd.step host e).history_path host fs)
  have hsuffix : r.2.world.2 <:+ (d.history host (e :: fs)).site.world.2 := Path.ledger_suffix hrest
  rcases stretch_opened h hcovered (hn.of_suffix hsuffix) hc hnew with
    hnum | ⟨f, hf, hclosings, hgone, calls, earlier, hcalls, hstops⟩
  · exact .inl hnum
  · right
    have hdone := doneWith_of_stretch hd h hc hgone fs hn
    have hcustody := hx.of_path hd.orderly hn (hd.history_path host (e :: fs))
    have hdealings : (d.history host (e :: fs)).site.world.2.dealings c =
        r.2.world.2.dealings c := hdone.dealings
    obtain ⟨later, hlater⟩ := hsuffix
    have hnone : Ledger.dealings later c = [] := by
      rw [← hlater, Ledger.dealings_append] at hdealings
      exact List.append_left_eq_self.mp hdealings
    refine ⟨f, hf, ⟨⟨later, calls, earlier, by rw [← hlater, hcalls], hstops, hnone⟩, ?_, ?_⟩,
      hdone.untracked⟩
    · rw [← hlater, Ledger.closings_append]
      refine fun hm => (List.mem_append.mp hm).elim (fun hm => ?_) hclosings
      exact Ledger.not_mem_closings hnone hm
    · -- what the pool took on and does not track it has parted with, but here a call came last
      intro hnum
      have hparted := hcustody.gone c hnum hdone.untracked
      have hlast : r.2.world.2.parted c = false := by rw [hcalls, hstops.parted]
      have hsame : (d.history host (e :: fs)).scene.ledger.parted c = r.2.world.2.parted c := by
        rw [Ledger.parted, Ledger.parted]
        exact congrArg (fun j => j.head?.any (·.deed.isParting)) hdealings
      rw [hsame, hlast] at hparted
      cases hparted

end Desk

/-- A source that fails to open a connection closes none: its driver was not asked or opened none,
or a call that was to configure the connection failed and was the last one made on it. Where a
pool opens connections, each one that it does not take on ended its checkout in that way, and is not
closed or tracked ever after. -/
theorem failed_open_leavesOpen {σ : Type} (host : Host σ) :
    (∀ (s : Source) (username password : Option String) (w w' : σ × Ledger) (f : Failure),
      s.open (host.withLedger .pool) username password w = (.error f, w') →
        s.Unopened host username password w f w') ∧
    ∀ (source : Source) (config : PoolConfig) (w : σ) (es : List Desk.Event) (e : Desk.Event)
      (r : Stretch × Site (σ × Ledger)) (fs : List Desk.Event),
      let d := Desk.start source config w
      let now := d.watched.history host es
      now.stretch? (host.withLedger .pool) e = some r →
      (d.ledger host (es ++ e :: fs)).OpensNew →
      ∀ c ∈ r.2.world.2.opened, c ∉ now.site.world.2.opened → c ∉ r.2.world.2.numbered →
        ∃ f, r.1 = .done (.error f) ∧
          (d.ledger host (es ++ e :: fs)).LeftOpen now.pool.source f c ∧
          c ∉ (d.run host (es ++ e :: fs)).tracked := by
  refine ⟨fun s username password w w' f h => Source.open_failed h, ?_⟩
  intro source config w es e r fs d now hr hn c hc hnew hnum
  rw [Desk.run_eq_forget, Desk.ledger, Desk.history_append]
  rw [Desk.ledger, Desk.history_append] at hn
  have hstart := Desk.start_sound source config w
  have hold : now.site.world.2.OpensNew :=
    hn.of_suffix ((hstart.history host es).history_path host (e :: fs)).ledger_suffix
  have hcustody : Custody now.scene :=
    (Desk.start_custody source config w).of_path hstart.orderly hold (hstart.history_path host es)
  have hcovered := Desk.history_covered host source config w es
  exact (Desk.leftOpen_of_stretch (hstart.history host es) hcustody hcovered hr fs hn hc
    hnew).resolve_left hnum

/-- The first connection cannot be given its isolation level. The pool opens another one for the
next checkout, takes it back and shuts down, and still has not closed the first. -/
theorem leftOpen_after_setIsolation :
    let source : Source := { driver := "mock", url := "mock:db", isolation := some .serializable }
    let w : World := { script := { next := [[.setIsolation]] } }
    let d := Desk.start source {} w
    let f : Failure := .error (.driver "injected set_isolation")
    (∃ w', source.openDefault (World.host.withLedger .pool) (w, []) = (.error f, w') ∧
      source.Unopened World.host none none (w, []) f w') ∧
    (d.ledger World.host [.checkout none, .checkout none, .release 0, .shutdown]).LeftOpen
      source f 0 := by
  intro source w d f
  obtain ⟨hopen, hpool⟩ := failed_open_leavesOpen World.host
  have hfails : source.openDefault (World.host.withLedger .pool) (w, []) =
      (.error f, (source.openDefault (World.host.withLedger .pool) (w, [])).2) :=
    Prod.ext (by decide) rfl
  refine ⟨⟨_, hfails, hopen source none none (w, []) _ f hfails⟩, ?_⟩
  have hends : (d.watched.site.begin (World.host.withLedger .pool) none).1 = .done (.error f) := by
    subst source w d f
    rfl
  obtain ⟨g, hg, hleft, -⟩ := hpool source {} w [] (.checkout none) _
    [.checkout none, .release 0, .shutdown] (Desk.stretch_of_held _ rfl none) (by decide)
    0 (by decide) (by decide) (by decide)
  obtain rfl : f = g := Except.error.inj (Stretch.done.inj (hends.symm.trans hg))
  exact hleft

end ConnPool
