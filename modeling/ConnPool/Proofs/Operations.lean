import ConnPool.Proofs.Branches
import ConnPool.Proofs.Scene

namespace ConnPool

theorem Path.contacts (x : Scene) {c : ConnId} (hc : x.hand.current? = some c) (es : Ledger)
    (hes : ∀ e ∈ es, e.party = .pool ∧ e.conn = c ∧ e.deed.isContact = true) :
    Path x { x with ledger := es ++ x.ledger } := by
  induction es with
  | nil => exact .refl
  | cons e es ih =>
    obtain ⟨hp, hcn, hd⟩ := hes e (by simp)
    exact (ih fun e' he' => hes e' (by simp [he'])).tail
      (.contact e (by simpa [hcn] using hc) hp hd)

/-- A source that opens a connection writes that down, and then at most speaks to it. -/
theorem Source.open_ledger {σ : Type} (host : Host σ) (s : Source)
    (username password : Option String) {w w' : σ × Ledger} {r : Outcome ConnId}
    (h : s.open (host.withLedger .pool) username password w = (r, w')) :
    ((∃ f, r = .error f) ∧ w'.2 = w.2) ∨
    ∃ c driver url properties, ∃ es : Ledger,
      (∀ e ∈ es, e.party = .pool ∧ e.conn = c ∧ e.deed.isContact = true) ∧
      w'.2 = es ++ ⟨.pool, c, .opened driver url properties⟩ :: w.2 ∧
      ∀ c', r = .ok c' → c' = c := by
  unfold Source.open at h
  split at h
  · rw [Action.bind_apply] at h
    cases hc : host.connect s.driver s.url (s.propertiesFor username password) w.1 with
    | mk o v =>
      cases o with
      | error f =>
        rw [Host.withLedger_connect_error hc] at h
        obtain ⟨rfl, rfl⟩ := Prod.mk.inj h
        exact .inl ⟨⟨f, rfl⟩, rfl⟩
      | ok c =>
        right
        rw [Host.withLedger_connect_ok hc] at h
        dsimp only at h
        obtain ⟨es, he, hes⟩ := Action.speaksTo_configure (p := .pool) (c := c) host s
          (v, ⟨.pool, c, .opened s.driver s.url (s.propertiesFor username password)⟩ :: w.2)
        refine ⟨c, s.driver, s.url, s.propertiesFor username password, es, hes, ?_⟩
        rw [Action.bind_apply] at h
        split at h
        · rename_i hok
          simp only [Action.pure_apply, Prod.mk.injEq] at h
          obtain ⟨rfl, rfl⟩ := h
          exact ⟨(congrArg (·.2.2) hok).symm.trans he, fun c' hc' => (Except.ok.inj hc').symm⟩
        · rename_i herr
          obtain ⟨rfl, rfl⟩ := Prod.mk.inj h
          exact ⟨(congrArg (·.2.2) herr).symm.trans he, by simp⟩
  · obtain ⟨rfl, rfl⟩ := Prod.mk.inj h
    exact .inl ⟨⟨_, rfl⟩, rfl⟩

namespace Site

variable {σ : Type} (host : Host σ) (s : Site (σ × Ledger)) {ls : List Lease} {h : Hand}

def scene (ls : List Lease) (h : Hand) : Scene :=
  { idle := s.pool.idle, active := s.pool.active, flags := s.pool.flags
    source := s.pool.source, config := s.pool.config, expected := s.pool.expected
    leases := ls, ledger := s.world.2, hand := h }

/-- The scene that the path starts from may be given in another form. -/
theorem settle_path {x : Scene} {α : Type} {a : Action (σ × Ledger) α} {c : ConnId}
    (hx : x = s.scene ls h) (ha : a.SpeaksTo .pool c) (hc : h.current? = some c) :
    Path x ((s.settle a).scene ls h) := by
  subst hx
  obtain ⟨es, he, hes⟩ := ha s.world
  have hp := Path.contacts (s.scene ls h) hc es hes
  simpa [scene, settle, Action.settle, he] using hp

variable (ls)

def handOfRecord : Outcome Record → Hand
  | .ok r => .free r
  | .error _ => .empty

theorem create_path (hi : s.pool.idle = [])
    (ha : s.pool.active.length < s.pool.config.maxActive.toNat) :
    Path (s.scene ls .empty)
      ((s.create (host.withLedger .pool)).2.scene ls
        (handOfRecord (s.create (host.withLedger .pool)).1)) := by
  unfold create run
  cases hr : s.pool.source.openDefault (host.withLedger .pool) s.world with
  | mk r w =>
    rcases Source.open_ledger host _ _ _ hr with
      ⟨⟨f, rfl⟩, hw⟩ | ⟨c, driver, url, properties, es, hes, hw, hok⟩
    · simpa [scene, hw, handOfRecord] using Relation.ReflTransGen.refl
    · have hopen := Relation.ReflTransGen.single
        (Move.open (x := s.scene ls .empty) c driver url properties rfl hi ha)
      have hconf := hopen.trans (Path.contacts _ rfl es hes)
      cases r with
      | error f => simpa [scene, Scene.write, hw, handOfRecord] using hconf.tail (.forsake c rfl)
      | ok c' =>
        obtain rfl := hok c' rfl
        let time := (⟨s.pool, w⟩ : Site (σ × Ledger)).now (host.withLedger .pool)
        have hwrap := hconf.tail
          (.wrap c' ((host.withLedger .pool).serial c' time.2.world).1 time.1 rfl)
        simpa [scene, Scene.write, hw, handOfRecord, wrap, now, time, Host.withLedger] using hwrap

def handOfCandidate : Outcome Candidate → Hand
  | .ok (.ready r) => .free r
  | _ => .empty

theorem rewrap_path {r : Record} (hr : h.taken = [r]) :
    Path (s.scene ls h)
      ((s.rewrap (host.withLedger .pool) r).2.scene ls
        (.free (s.rewrap (host.withLedger .pool) r).1)) :=
  .single (.renew r (s.now (host.withLedger .pool)).1 hr)

theorem claim_path (oldest : Record) (rest : List Record) (ha : s.pool.active = oldest :: rest) :
    Path (s.scene ls .empty)
      ((s.claim (host.withLedger .pool) oldest rest).2.scene ls
        (.free (s.claim (host.withLedger .pool) oldest rest).1)) := by
  refine .trans (.single (.claim oldest rest rfl ha)) ?_
  unfold claim
  exact .trans (settle_path _ rfl (Action.speaksTo_rollbackIfNeeded host) rfl)
    (rewrap_path host _ ls rfl)

theorem nextCandidate_path :
    Path (s.scene ls .empty)
      ((s.nextCandidate (host.withLedger .pool)).2.scene ls
        (handOfCandidate (s.nextCandidate (host.withLedger .pool)).1)) := by
  cases hi : s.pool.idle with
  | cons r rest =>
    rw [nextCandidate_of_idle hi]
    exact .single (.takeIdle r rest rfl hi)
  | nil =>
    by_cases hm : s.pool.active.length < s.pool.config.maxActive.toNat
    · have hc := create_path host s ls hi hm
      rw [nextCandidate_of_room hi hm]
      cases hr : (s.create (host.withLedger .pool)).1 with
      | ok r => simpa [hr, handOfRecord, handOfCandidate, Except.map] using hc
      | error f => simpa [hr, handOfRecord, handOfCandidate, Except.map] using hc
    · cases ha : s.pool.active with
      | nil =>
        rw [nextCandidate_of_empty hi ha (by simpa [ha] using hm)]
        exact .refl
      | cons oldest rest =>
        rw [nextCandidate_of_full hi ha (by simpa [ha] using hm)]
        split
        · exact claim_path host (s.now (host.withLedger .pool)).2 ls oldest rest ha
        · exact .refl

theorem pinging_speaksTo (r : Record) :
    (s.pinging (host.withLedger .pool) r).SpeaksTo .pool r.conn :=
  (Action.speaksTo_call host _).bind fun _ => Action.speaksTo_rollbackIfNeeded host

/-- A ping only speaks to the connection, and parts with one that is bad. -/
theorem ping_path (r : Record) (hc : h.current? = some r.conn) :
    Path (s.scene ls h) ((s.ping (host.withLedger .pool) r).2.scene ls h) ∧
      ((s.ping (host.withLedger .pool) r).1 = false →
        (s.ping (host.withLedger .pool) r).2.world.2.parted r.conn = true) := by
  have hask : Path (s.scene ls h) ((s.asked (host.withLedger .pool) r).scene ls h) :=
    .single (.contact ⟨.pool, r.conn, .asked (host.isClosed r.conn s.world.1).1⟩ hc rfl rfl)
  cases hclosed : ((host.withLedger .pool).isClosed r.conn s.world).1 with
  | true =>
    rw [ping_of_closed hclosed]
    refine ⟨hask, fun _ => ?_⟩
    have hanswer : (host.isClosed r.conn s.world.1).1 = true := hclosed
    simp [asked, Host.withLedger, hanswer, Deed.isParting]
  | false =>
    cases hp : s.pool.config.pingEnabled with
    | false =>
      rw [ping_of_disabled hclosed hp]
      exact ⟨hask, by simp⟩
    | true =>
      by_cases ht : s.isFresh (host.withLedger .pool) r
      · rw [ping_of_fresh hclosed hp ht]
        exact ⟨hask, by simp⟩
      · rw [ping_of_stale hclosed hp ht]
        have hping := hask.trans (settle_path
          ((s.asked (host.withLedger .pool) r).now (host.withLedger .pool)).2 rfl
          (s.pinging_speaksTo host r) hc)
        cases hr : run _ (s.pinging (host.withLedger .pool) r) with
        | mk o s' =>
          have hs : s' = settle _ (s.pinging (host.withLedger .pool) r) := (congrArg (·.2) hr).symm
          rw [← hs] at hping
          cases o with
          | ok a => exact ⟨hping, by simp⟩
          | error f =>
            exact ⟨hping.trans (settle_path s' rfl (Action.speaksTo_close host) hc),
              fun _ => Action.parted_close host _⟩

theorem validate_path (r : Record) (hc : h.current? = some r.conn) :
    Path (s.scene ls h) ((s.validate (host.withLedger .pool) r).2.scene ls h) ∧
      ((s.validate (host.withLedger .pool) r).1 = false →
        (s.validate (host.withLedger .pool) r).2.pool.flags.isValid r.flag = true →
        (s.validate (host.withLedger .pool) r).2.world.2.parted r.conn = true) := by
  cases hv : s.pool.flags.isValid r.flag with
  | true =>
    rw [validate_of_valid hv]
    obtain ⟨hp, hf⟩ := ping_path host s ls r hc
    exact ⟨hp, fun hb _ => hf hb⟩
  | false =>
    rw [validate_of_invalid hv]
    exact ⟨.refl, fun _ ht => absurd ht (by simp [hv])⟩

theorem grant_path (c : Checkout) (r : Record) :
    Path (s.scene ls (.free r))
      ((s.grant (host.withLedger .pool) c r).2.scene
        (ls ++ [⟨(s.grant (host.withLedger .pool) c r).1, false⟩]) .empty) := by
  have hroll := settle_path s (x := s.scene ls (.free r)) rfl
    (Action.speaksTo_rollbackIfNeeded (p := .pool) (c := r.conn) host) rfl
  have hkept := Action.parted_rollbackIfNeeded (c := r.conn) host s.world
  generalize hs : s.settle ((host.withLedger .pool).rollbackIfNeeded r.conn) = rolled at hroll
  have hgrant := hroll.tail (.grant r (codeFor rolled.pool c)
    (rolled.now (host.withLedger .pool)).1 rfl (by rw [← hs]; exact hkept))
  unfold grant
  rw [hs]
  exact hgrant

variable {ls}

theorem wait_scene (c : Checkout) :
    (s.wait (host.withLedger .pool) c).2.scene ls h = s.scene ls h := by
  unfold wait
  split <;> rfl

end Site

def Stretch.leases : Stretch → List Lease
  | .done (.ok g) => [⟨g, false⟩]
  | _ => []

namespace Site

variable {σ : Type} (host : Host σ) (s : Site (σ × Ledger)) (ls : List Lease)

/-- One look at the pool ends the stretch, or finds a bad candidate and leaves it alone. -/
theorem acquire_look (spare : Nat) (c : Checkout) :
    Path (s.scene ls .empty)
      ((acquire (host.withLedger .pool) spare c s).2.scene
        (ls ++ (acquire (host.withLedger .pool) spare c s).1.leases) .empty) ∨
    ∃ s' : Site (σ × Ledger), Path (s.scene ls .empty) (s'.scene ls .empty) ∧
      acquire (host.withLedger .pool) spare c s =
        match spare with
        | 0 => (.done (.fail .poolExhausted), s')
        | spare + 1 => acquire (host.withLedger .pool) spare { c with bad := c.bad + 1 } s' := by
  have hn := nextCandidate_path host s ls
  cases hc : s.nextCandidate (host.withLedger .pool) with
  | mk o s' =>
    rw [hc] at hn
    match o with
    | .error f =>
      left
      rw [acquire_of_error spare c hc]
      simpa [Stretch.leases, handOfCandidate] using hn
    | .ok .mustWait =>
      left
      rw [acquire_of_wait spare c hc]
      simpa [Stretch.leases, handOfCandidate, wait_scene] using hn
    | .ok (.ready r) =>
      obtain ⟨hv, hparted⟩ := validate_path host s' ls (h := .free r) r rfl
      cases hb : s'.validate (host.withLedger .pool) r with
      | mk b s'' =>
        rw [hb] at hv hparted
        cases b with
        | true =>
          left
          rw [acquire_of_good spare c hc hb]
          exact (hn.trans hv).trans (grant_path host s'' ls c r)
        | false =>
          right
          exact ⟨s''.countBad, (hn.trans hv).tail (.reject r (.inl rfl) (hparted rfl)),
            acquire_of_bad spare c hc hb⟩

theorem acquire_path (spare : Nat) (c : Checkout) :
    Path (s.scene ls .empty)
      ((acquire (host.withLedger .pool) spare c s).2.scene
        (ls ++ (acquire (host.withLedger .pool) spare c s).1.leases) .empty) := by
  -- a look that meets a bad connection leaves nothing in hand, so the next one can begin
  induction spare generalizing c s with
  | zero =>
    rcases acquire_look host s ls 0 c with hp | ⟨s', hp, he⟩
    · exact hp
    · rw [he]
      simpa [Stretch.leases, Outcome.fail] using hp
  | succ spare ih =>
    rcases acquire_look host s ls (spare + 1) c with hp | ⟨s', hp, he⟩
    · exact hp
    · rw [he]
      exact hp.trans (ih s' { c with bad := c.bad + 1 })

variable {ls}

theorem proceed_path {x : Scene} (hx : x = s.scene ls .empty) (c : Checkout) :
    Path x
      ((s.proceed (host.withLedger .pool) c).2.scene
        (ls ++ (s.proceed (host.withLedger .pool) c).1.leases) .empty) := by
  subst hx
  exact acquire_path host s ls _ c

theorem begin_path (credentials : Option (String × String)) :
    Path (s.scene ls .empty)
      ((s.begin (host.withLedger .pool) credentials).2.scene
        (ls ++ (s.begin (host.withLedger .pool) credentials).1.leases) .empty) :=
  proceed_path host (s.now (host.withLedger .pool)).2 rfl _

theorem resume_path (w : Waiting) :
    Path (s.scene ls .empty)
      ((s.resume (host.withLedger .pool) w).2.scene
        (ls ++ (s.resume (host.withLedger .pool) w).1.leases) .empty) := by
  by_cases hg : s.pool.generation = w.generation
  · rw [resume_of_same hg]
    exact proceed_path host _ (by rfl) w.checkout
  · rw [resume_of_other hg]
    simp only [Stretch.leases, Outcome.fail, List.append_nil]
    exact .refl

/-- A lease is marked as released, and its record is kept, closed or, where it is bad, left. -/
theorem giveBack_path {i : Nat} {l : Lease} (hl : ls[i]? = some l) (hu : l.released = false) :
    Path (s.scene ls .empty)
      ((s.giveBack (host.withLedger .pool) l.grant.flag).2.scene
        (ls.modify i fun l => { l with released := true }) .empty) := by
  cases hf : s.pool.activeWith? l.grant.flag with
  | none =>
    rw [giveBack_of_missing hf]
    refine .single (.stale i l rfl hl hu fun r hr => ?_)
    simpa using List.find?_eq_none.mp hf r hr
  | some r =>
    have htake := Relation.ReflTransGen.single
      (Move.takeBack (x := s.scene ls .empty) i l r rfl hl hu hf)
    obtain ⟨hv, hparted⟩ := validate_path host (s.modify (·.removeActive l.grant.flag))
      (ls.modify i fun l => { l with released := true }) (h := .returned r) r rfl
    cases hb : (s.modify (·.removeActive l.grant.flag)).validate (host.withLedger .pool) r with
    | mk b s' =>
      rw [hb] at hv hparted
      cases b with
      | false =>
        rw [giveBack_of_bad hf hb]
        exact (htake.trans hv).tail (.reject r (.inr rfl) (hparted rfl))
      | true =>
        rw [giveBack_of_good hf hb]
        have hback := (htake.trans hv).trans (settle_path
          ((s'.now (host.withLedger .pool)).2.count fun t => { t with
            checkoutTime := t.checkoutTime +
              ((s'.now (host.withLedger .pool)).1 - r.checkoutAt) })
          rfl (Action.speaksTo_rollbackIfNeeded host) rfl)
        have hkept : (s'.takenBack (host.withLedger .pool) r).world.2.parted r.conn = false :=
          Action.parted_rollbackIfNeeded host _
        split
        · rename_i hk
          have hrenew := hback.trans (rewrap_path host _ _ rfl)
          refine hrenew.tail (.keep _ rfl hkept ?_)
          simp only [Pool.keeps, Bool.and_eq_true, decide_eq_true_eq] at hk
          exact hk.1
        · have hclose := (hback.trans (settle_path _ rfl (Action.speaksTo_close host) rfl)).tail
            (.retire r rfl)
          exact hclose.tail (.dismiss r.conn [] rfl (Action.parted_close host _))

theorem discard_path (r : Record) (rs : List Record) :
    Path (s.scene ls (.out (r :: rs)))
      ((s.discard (host.withLedger .pool) r).scene ls (.out rs)) := by
  have hrevoke := Relation.ReflTransGen.single
    (Move.revoke (x := s.scene ls (.out (r :: rs))) r rs rfl)
  have hclose := (hrevoke.trans (settle_path (s.revoke r.flag) rfl
    (Action.speaksTo_rollbackIfNeeded host) rfl)).trans
      (settle_path _ rfl (Action.speaksTo_close host) rfl)
  exact hclose.tail (.dismiss r.conn rs rfl (Action.parted_close host _))

theorem discards_path (rs : List Record) :
    Path (s.scene ls (.out rs))
      ((rs.foldl (fun s r => s.discard (host.withLedger .pool) r) s).scene ls .empty) := by
  induction rs generalizing s with
  | nil => exact .refl
  | cons r rs ih => exact (discard_path host s r rs).trans (ih _)

/-- Settings may have changed just before. -/
theorem drain_path (source : Source) (config : PoolConfig) (expected : TypeCode) :
    Path { s.scene ls .empty with source, config, expected }
      ((s.drain (host.withLedger .pool)).scene ls .empty) := by
  exact .head (.clear s.pool.source s.pool.config rfl)
    (discards_path host
      (s.modify fun p => { p with expected := p.source.typeCode, active := [], idle := [] })
      (s.pool.active.reverse ++ s.pool.idle.reverse))

end Site
end ConnPool
