import ConnPool.Pool.Desk
import ConnPool.Proofs.Branches
import Mathlib.Logic.Function.Defs

namespace ConnPool

section Renaming

variable (f : String → String)

def TypeCode.rename : TypeCode → TypeCode
  | .number n => .number n
  | .credentials url username password => .credentials url username (password.map f)

/-- Codes tell passwords apart, and so do those of other passwords. -/
theorem TypeCode.rename_inj {f : String → String} (hf : f.Injective) {a b : TypeCode} :
    a.rename f = b.rename f ↔ a = b := by
  cases a <;> cases b <;> simp [rename, (Option.map_injective hf).eq_iff]

def Record.rename (r : Record) : Record := { r with typeCode := r.typeCode.rename f }

def Source.rename (s : Source) : Source := { s with password := s.password.map f }

/-- The pool with every password in it replaced: its own, and those behind the codes. -/
def Pool.rename (p : Pool) : Pool :=
  { p with
    source := p.source.rename f
    idle := p.idle.map (·.rename f)
    active := p.active.map (·.rename f)
    expected := p.expected.rename f }

def Candidate.rename : Candidate → Candidate
  | .ready r => .ready (r.rename f)
  | .mustWait => .mustWait

def Checkout.rename (c : Checkout) : Checkout :=
  { c with credentials := c.credentials.map fun (username, password) => (username, f password) }

def Waiting.rename (w : Waiting) : Waiting := { w with checkout := w.checkout.rename f }

def Stretch.rename : Stretch → Stretch
  | .done r => .done r
  | .waits w => .waits (w.rename f)

def Waiter.rename (v : Waiter) : Waiter := { v with waiting := v.waiting.rename f }

def Source.Setting.rename : Source.Setting → Source.Setting
  | .password p => .password (p.map f)
  | s => s

def Pool.Setting.rename : Pool.Setting → Pool.Setting
  | .source s => .source (s.rename f)
  | s => s

def Desk.Event.rename : Desk.Event → Desk.Event
  | .checkout credentials =>
    .checkout (credentials.map fun (username, password) => (username, f password))
  | .configure setting => .configure (setting.rename f)
  | e => e

theorem Source.set_rename (s : Source) (setting : Source.Setting) :
    (s.rename f).set (setting.rename f) = (s.set setting).rename f := by cases setting <;> rfl

theorem Pool.set_rename (p : Pool) (setting : Pool.Setting) :
    (p.rename f).set (setting.rename f) = (p.set setting).map (Pool.rename f) := by
  cases setting with
  | source s =>
    exact congrArg (fun s => Except.ok { p.rename f with source := s }) (p.source.set_rename f s)
  | maxActive n =>
    show (p.config.withMaxActive n).map (p.rename f).withConfig =
      ((p.config.withMaxActive n).map p.withConfig).map (Pool.rename f)
    cases p.config.withMaxActive n <;> rfl
  | _ => rfl

theorem Pool.activeWith?_rename (p : Pool) (flag : FlagId) :
    (p.rename f).activeWith? flag = (p.activeWith? flag).map (Record.rename f) := List.find?_map ..

theorem Pool.removeActive_rename (p : Pool) (flag : FlagId) :
    (p.rename f).removeActive flag = (p.removeActive flag).rename f :=
  congrArg (fun rs => { p.rename f with active := rs }) (List.eraseP_map ..)

/-- Whether a connection is kept depends on which passwords are the same, not on what they are. -/
theorem Pool.keeps_rename {f : String → String} (hf : f.Injective) (p : Pool) (r : Record) :
    (p.rename f).keeps (r.rename f) = p.keeps r := by
  have hcode : (r.typeCode.rename f == p.expected.rename f) = (r.typeCode == p.expected) := by
    rw [Bool.eq_iff_iff, beq_iff_eq, beq_iff_eq, TypeCode.rename_inj hf]
  simp [keeps, rename, Record.rename, hcode]

end Renaming

variable {σ τ α β : Type}

namespace Action

/-- In worlds that are alike both steps answer the same, and leave worlds that are alike. -/
def Twin (R : σ → τ → Prop) (a : Action σ α) (b : Action τ α) : Prop :=
  ∀ w v, R w v → (b v).1 = (a w).1 ∧ R (a w).2 (b v).2

variable {R : σ → τ → Prop}

theorem twin_lift (r : Outcome α) : Twin R (lift r) (lift r) := fun _ _ h => ⟨rfl, h⟩

theorem twin_pure (a : α) : Twin R (Pure.pure a : Action σ α) (Pure.pure a) :=
  fun _ _ h => ⟨rfl, h⟩

theorem Twin.bind {x : Action σ α} {y : Action τ α} {k : α → Action σ β} {l : α → Action τ β}
    (hx : Twin R x y) (hk : ∀ a, Twin R (k a) (l a)) : Twin R (x >>= k) (y >>= l) := by
  intro w v h
  obtain ⟨hsame, hnext⟩ := hx w v h
  cases hr : x w with
  | mk r w' =>
    rw [hr] at hsame hnext
    have hy : y v = (r, (y v).2) := Prod.ext hsame rfl
    cases r with
    | error e =>
      rw [bind_of_error hr, bind_of_error hy]
      exact ⟨rfl, hnext⟩
    | ok a =>
      rw [bind_of_ok hr, bind_of_ok hy]
      exact hk a w' _ hnext

end Action

/-- Hosts that answer alike, in worlds that are alike; a password is another one for the second
host. -/
structure Host.Twin (f : String → String) (R : σ → τ → Prop) (host : Host σ) (other : Host τ) :
    Prop where
  now : ∀ w v, R w v → (other.now v).1 = (host.now w).1 ∧ R (host.now w).2 (other.now v).2
  instant : ∀ w v, R w v → other.instant v = host.instant w
  serial : ∀ c w v, R w v →
    (other.serial c v).1 = (host.serial c w).1 ∧ R (host.serial c w).2 (other.serial c v).2
  acceptsUrl : other.acceptsUrl = host.acceptsUrl
  connect : ∀ driver url (p : Properties),
    (host.connect driver url p).Twin R (other.connect driver url p)
  connect_as : ∀ driver url (p : Properties) password,
    (host.connect driver url (p.insert Source.passwordProperty password)).Twin R
      (other.connect driver url (p.insert Source.passwordProperty (f password)))
  call : ∀ c k, (host.call c k).Twin R (other.call c k)
  close : ∀ c, (host.close c).Twin R (other.close c)
  isClosed : ∀ c w v, R w v →
    (other.isClosed c v).1 = (host.isClosed c w).1 ∧ R (host.isClosed c w).2 (other.isClosed c v).2
  driverName : ∀ c w v, R w v → other.driverName c v = host.driverName c w

namespace Host.Twin

variable {f : String → String} {R : σ → τ → Prop} {host : Host σ} {other : Host τ}

theorem rollbackIfNeeded (hh : Host.Twin f R host other) (c : ConnId) :
    (host.rollbackIfNeeded c).Twin R (other.rollbackIfNeeded c) := by
  refine (hh.call c .autoCommit).bind fun committed => ?_
  cases committed
  · exact hh.call c .rollback
  · exact Action.twin_pure ()

theorem configure (hh : Host.Twin f R host other) (s : Source) (c : ConnId) :
    (s.configure host c).Twin R ((s.rename f).configure other c) := by
  refine .bind ?_ fun _ => .bind ?_ fun _ => ?_
  · unfold Source.applyTimeout
    dsimp only [Source.rename]
    split
    · exact Action.twin_pure ()
    · exact hh.call c _
  · unfold Source.applyAutoCommit
    dsimp only [Source.rename]
    split
    · exact Action.twin_pure ()
    · refine (hh.call c _).bind fun now => ?_
      split
      · exact Action.twin_pure ()
      · exact hh.call c _
  · unfold Source.applyIsolation
    dsimp only [Source.rename]
    split
    · exact Action.twin_pure ()
    · exact hh.call c _

theorem openDefault (hh : Host.Twin f R host other) (s : Source) :
    (s.openDefault host).Twin R ((s.rename f).openDefault other) := by
  have hconnect : (host.connect s.driver s.url (s.propertiesFor s.username s.password)).Twin R
      (other.connect s.driver s.url
        ((s.rename f).propertiesFor s.username (s.password.map f))) := by
    cases hp : s.password with
    | none => exact hh.connect s.driver s.url _
    | some password => exact hh.connect_as s.driver s.url _ password
  unfold Source.openDefault Source.open
  rw [hh.acceptsUrl]
  by_cases ha : host.acceptsUrl s.driver s.url = true
  · rw [if_pos ha,
      if_pos (show host.acceptsUrl (s.rename f).driver (s.rename f).url = true from ha)]
    exact hconnect.bind fun c => (hh.configure s c).bind fun _ => Action.twin_pure c
  · rw [if_neg ha,
      if_neg (show ¬ host.acceptsUrl (s.rename f).driver (s.rename f).url = true from ha)]
    exact Action.twin_lift _

end Host.Twin

/-- Pools in worlds that are alike, with the passwords of one renamed for the other. -/
structure Site.Twin (f : String → String) (R : σ → τ → Prop) (s : Site σ) (t : Site τ) : Prop where
  pool : t.pool = s.pool.rename f
  world : R s.world t.world

/-- What two operations come to that are done to twins: answers that are the same up to renaming,
and twins. -/
structure Site.Twins (f : String → String) (R : σ → τ → Prop) (g : α → β) (r : α × Site σ)
    (r' : β × Site τ) : Prop where
  answer : r'.1 = g r.1
  site : r.2.Twin f R r'.2

theorem Site.Twins.parts {f : String → String} {R : σ → τ → Prop} {g : α → β} {r : α × Site σ}
    {r' : β × Site τ} (h : Twins f R g r r') :
    ∃ a s t, r = (a, s) ∧ r' = (g a, t) ∧ s.Twin f R t :=
  ⟨r.1, r.2, r'.2, rfl, Prod.ext h.answer rfl, h.site⟩

namespace Site.Twin

variable {f : String → String} {R : σ → τ → Prop} {host : Host σ} {other : Host τ} {s : Site σ}
  {t : Site τ}

theorem split (h : s.Twin f R t) : ∃ v, t = ⟨s.pool.rename f, v⟩ ∧ R s.world v :=
  ⟨t.world, by rw [← h.pool], h.world⟩

theorem config (h : s.Twin f R t) : t.pool.config = s.pool.config :=
  (congrArg Pool.config h.pool).trans rfl

theorem flags (h : s.Twin f R t) : t.pool.flags = s.pool.flags :=
  (congrArg Pool.flags h.pool).trans rfl

theorem generation (h : s.Twin f R t) : t.pool.generation = s.pool.generation :=
  (congrArg Pool.generation h.pool).trans rfl

theorem idle (h : s.Twin f R t) : t.pool.idle = s.pool.idle.map (Record.rename f) :=
  congrArg Pool.idle h.pool

theorem active (h : s.Twin f R t) : t.pool.active = s.pool.active.map (Record.rename f) :=
  congrArg Pool.active h.pool

theorem modify (h : s.Twin f R t) {g g' : Pool → Pool}
    (hg : g' (s.pool.rename f) = (g s.pool).rename f) :
    (s.modify g).Twin f R (t.modify g') where
  pool := (congrArg g' h.pool).trans hg
  world := h.world

theorem count (h : s.Twin f R t) (g : Tally → Tally) : (s.count g).Twin f R (t.count g) :=
  h.modify rfl

theorem countBad (h : s.Twin f R t) : s.countBad.Twin f R t.countBad := h.count _

theorem revoke (h : s.Twin f R t) (flag : FlagId) : (s.revoke flag).Twin f R (t.revoke flag) :=
  h.modify rfl

theorem interrupt (h : s.Twin f R t) : s.interrupt.Twin f R t.interrupt := h.modify rfl

theorem putIdle (h : s.Twin f R t) (rs : List Record) :
    (s.modify fun p => { p with idle := rs }).Twin f R
      (t.modify fun p => { p with idle := rs.map (Record.rename f) }) := h.modify rfl

theorem putActive (h : s.Twin f R t) (rs : List Record) :
    (s.modify fun p => { p with active := rs }).Twin f R
      (t.modify fun p => { p with active := rs.map (Record.rename f) }) := h.modify rfl

theorem addActive (h : s.Twin f R t) (r : Record) :
    (s.modify fun p => { p with active := p.active ++ [r] }).Twin f R
      (t.modify fun p => { p with active := p.active ++ [r.rename f] }) :=
  h.modify (by simp [Pool.rename])

theorem addIdle (h : s.Twin f R t) (r : Record) :
    (s.modify (·.addIdle r)).Twin f R (t.modify (·.addIdle (r.rename f))) :=
  h.modify (by simp [Pool.rename, Pool.addIdle])

theorem settle (h : s.Twin f R t) {a : Action σ α} {b : Action τ α} (ha : a.Twin R b) :
    (s.settle a).Twin f R (t.settle b) where
  pool := h.pool
  world := (ha _ _ h.world).2

theorem run (h : s.Twin f R t) {a : Action σ α} {b : Action τ α} (ha : a.Twin R b) :
    Twins f R id (s.run a) (t.run b) where
  answer := (ha _ _ h.world).1
  site := ⟨h.pool, (ha _ _ h.world).2⟩

theorem codeFor (h : s.Twin f R t) (c : Checkout) :
    Site.codeFor t.pool (c.rename f) = (Site.codeFor s.pool c).rename f := by
  rw [h.pool]
  unfold Site.codeFor
  dsimp only [Checkout.rename]
  cases c.credentials <;> rfl

section

variable (hh : Host.Twin f R host other) (h : s.Twin f R t)

include hh h

theorem now : Twins f R id (s.now host) (t.now other) where
  answer := (hh.now _ _ h.world).1
  site := ⟨h.pool, (hh.now _ _ h.world).2⟩

/-- Both count the same time. -/
theorem timed (g : Nat → Tally → Tally) :
    ((s.now host).2.count (g (s.now host).1)).Twin f R
      ((t.now other).2.count (g (t.now other).1)) := by
  have htime := h.now hh
  rw [htime.answer]
  exact htime.site.count _

theorem wrap (c : ConnId) : Twins f R (Record.rename f) (s.wrap host c) (t.wrap other c) := by
  obtain ⟨v, rfl, hw⟩ := h.split
  have htime := hh.now _ _ hw
  have hnumber := hh.serial c _ _ htime.2
  refine ⟨?_, ⟨rfl, hnumber.2⟩⟩
  simp only [Site.wrap, Site.now]
  rw [htime.1, hnumber.1]
  rfl

theorem rewrap (r : Record) :
    Twins f R (Record.rename f) (s.rewrap host r) (t.rewrap other (r.rename f)) := by
  obtain ⟨v, rfl, hw⟩ := h.split
  have htime := hh.now _ _ hw
  refine ⟨?_, ⟨rfl, htime.2⟩⟩
  simp only [Site.rewrap, Site.now]
  rw [htime.1]
  rfl

theorem create : Twins f R (Except.map (Record.rename f)) (s.create host) (t.create other) := by
  have hopen : (s.pool.source.openDefault host).Twin R (t.pool.source.openDefault other) := by
    rw [h.pool]
    exact hh.openDefault s.pool.source
  obtain ⟨o, s', t', hs, ht, hsite⟩ := (h.run hopen).parts
  unfold Site.create
  rw [hs, ht]
  cases o with
  | error e => exact ⟨rfl, hsite⟩
  | ok c =>
    have hwrap := hsite.wrap hh c
    exact ⟨congrArg Except.ok hwrap.answer, hwrap.site⟩

theorem claim (oldest : Record) (rest : List Record) :
    Twins f R (Record.rename f) (s.claim host oldest rest)
      (t.claim other (oldest.rename f) (rest.map (Record.rename f))) := by
  have htime := h.now hh
  unfold Site.claim
  dsimp only
  rw [htime.answer]
  exact (((htime.site.putActive rest).count _).settle (hh.rollbackIfNeeded oldest.conn)).rewrap hh
    oldest

theorem nextCandidate : Twins f R (Except.map (Candidate.rename f)) (s.nextCandidate host)
    (t.nextCandidate other) := by
  have hidle := h.idle
  have hactive := h.active
  have hconfig := h.config
  cases hi : s.pool.idle with
  | cons r rest =>
    rw [hi, List.map_cons] at hidle
    rw [nextCandidate_of_idle hi, nextCandidate_of_idle hidle]
    exact ⟨rfl, h.putIdle rest⟩
  | nil =>
    rw [hi, List.map_nil] at hidle
    by_cases hm : s.pool.active.length < s.pool.config.maxActive.toNat
    · have hm' : t.pool.active.length < t.pool.config.maxActive.toNat := by
        rw [hactive, hconfig, List.length_map]
        exact hm
      have hcreate := h.create hh
      rw [nextCandidate_of_room hi hm, nextCandidate_of_room hidle hm']
      refine ⟨?_, hcreate.site⟩
      rw [hcreate.answer]
      cases (s.create host).1 <;> rfl
    · cases ha : s.pool.active with
      | nil =>
        rw [ha, List.map_nil] at hactive
        have hm : ¬ 0 < s.pool.config.maxActive.toNat := by simpa [ha] using hm
        rw [nextCandidate_of_empty hi ha hm, nextCandidate_of_empty hidle hactive (hconfig ▸ hm)]
        exact ⟨rfl, h⟩
      | cons oldest rest =>
        rw [ha, List.map_cons] at hactive
        have hm : ¬ (oldest :: rest).length < s.pool.config.maxActive.toNat := by
          simpa [ha] using hm
        have hm' : ¬ (oldest.rename f :: rest.map (Record.rename f)).length <
            t.pool.config.maxActive.toNat := by
          simpa [hconfig] using hm
        have htime := h.now hh
        have hclaim := htime.site.claim hh oldest rest
        rw [nextCandidate_of_full hi ha hm, nextCandidate_of_full hidle hactive hm', htime.answer,
          hconfig]
        show Twins f R _ (if (s.now host).1 - oldest.checkoutAt > _ then _ else _)
          (if (s.now host).1 - oldest.checkoutAt > _ then _ else _)
        split
        · exact ⟨congrArg (Except.ok ∘ Candidate.ready) hclaim.answer, hclaim.site⟩
        · exact ⟨rfl, htime.site⟩

theorem asked (r : Record) : (s.asked host r).Twin f R (t.asked other (r.rename f)) where
  pool := h.pool
  world := (hh.isClosed r.conn _ _ h.world).2

theorem pinging (r : Record) : (s.pinging host r).Twin R (t.pinging other (r.rename f)) := by
  unfold Site.pinging
  rw [h.config]
  exact (hh.call r.conn _).bind fun _ => hh.rollbackIfNeeded r.conn

theorem ping (r : Record) : Twins f R id (s.ping host r) (t.ping other (r.rename f)) := by
  have hconfig := h.config
  have hclosed := (hh.isClosed r.conn _ _ h.world).1
  have hasked := h.asked hh r
  have htime := hasked.now hh
  cases hc : (host.isClosed r.conn s.world).1 with
  | true =>
    rw [ping_of_closed hc, ping_of_closed (r := r.rename f) (hclosed.trans hc)]
    exact ⟨rfl, hasked⟩
  | false =>
    have hc' : (other.isClosed (r.rename f).conn t.world).1 = false := hclosed.trans hc
    cases hp : s.pool.config.pingEnabled with
    | false =>
      rw [ping_of_disabled hc hp, ping_of_disabled hc' (hconfig ▸ hp)]
      exact ⟨rfl, hasked⟩
    | true =>
      have hfresh : t.isFresh other (r.rename f) ↔ s.isFresh host r := by
        unfold isFresh
        rw [htime.answer, hconfig]
        rfl
      by_cases hf : s.isFresh host r
      · rw [ping_of_fresh hc hp hf, ping_of_fresh hc' (hconfig ▸ hp) (hfresh.mpr hf)]
        exact ⟨rfl, htime.site⟩
      · rw [ping_of_stale hc hp hf, ping_of_stale hc' (hconfig ▸ hp) (mt hfresh.mp hf)]
        obtain ⟨o, s', t', hs, ht, hsite⟩ := (htime.site.run (h.pinging hh r)).parts
        rw [hs, ht]
        cases o with
        | error e => exact ⟨rfl, hsite.settle (hh.close r.conn)⟩
        | ok a => exact ⟨rfl, hsite⟩

theorem validate (r : Record) :
    Twins f R id (s.validate host r) (t.validate other (r.rename f)) := by
  cases hv : s.pool.flags.isValid r.flag with
  | true =>
    rw [validate_of_valid hv, validate_of_valid (r := r.rename f) (h.flags ▸ hv)]
    exact h.ping hh r
  | false =>
    rw [validate_of_invalid hv, validate_of_invalid (r := r.rename f) (h.flags ▸ hv)]
    exact ⟨rfl, h⟩

theorem grant (c : Checkout) (r : Record) :
    Twins f R id (s.grant host c r) (t.grant other (c.rename f) (r.rename f)) := by
  have hset := h.settle (hh.rollbackIfNeeded r.conn)
  have htime := hset.now hh
  unfold Site.grant
  dsimp only [Record.rename]
  rw [htime.answer, hset.codeFor c]
  have hadded := (htime.site.addActive ((r.withTypeCode (Site.codeFor
    (s.settle (host.rollbackIfNeeded r.conn)).pool c)).checkedOut
      ((s.settle (host.rollbackIfNeeded r.conn)).now host).1)).count
        fun t => { t with requestCount := t.requestCount + 1 }
  have hcounted := hadded.timed hh fun ended t =>
    { t with requestTime := t.requestTime + (ended - c.started) }
  exact ⟨rfl, hcounted⟩

theorem wait (c : Checkout) :
    Twins f R (Waiting.rename f) (s.wait host c) (t.wait other (c.rename f)) := by
  have hcounted : Site.Twin f R
      (if c.counted then s else s.count fun t => { t with hadToWait := t.hadToWait + 1 })
      (if (c.rename f).counted then t
        else t.count fun t => { t with hadToWait := t.hadToWait + 1 }) := by
    have hsame : (c.rename f).counted = c.counted := rfl
    rw [hsame]
    split
    · exact h
    · exact h.count _
  unfold Site.wait
  dsimp only
  generalize (if c.counted then s else _ : Site σ) = s' at hcounted ⊢
  generalize (if (c.rename f).counted then t else _ : Site τ) = t' at hcounted ⊢
  have htime := hcounted.now hh
  refine ⟨?_, htime.site⟩
  rw [hcounted.pool, hh.instant _ _ hcounted.world, htime.answer]
  rfl

end

section

variable (hh : Host.Twin f R host other)

include hh

theorem acquire (spare : Nat) (c : Checkout) {s : Site σ} {t : Site τ} (h : s.Twin f R t) :
    Twins f R (Stretch.rename f) (Site.acquire host spare c s)
      (Site.acquire other spare (c.rename f) t) := by
  obtain ⟨o, s', t', hs, ht, hsite⟩ := (h.nextCandidate hh).parts
  match o with
  | .error e =>
    rw [acquire_of_error spare c hs, acquire_of_error spare _ ht]
    exact ⟨rfl, hsite⟩
  | .ok .mustWait =>
    have hwait := hsite.wait hh c
    rw [acquire_of_wait spare c hs, acquire_of_wait spare _ ht]
    exact ⟨congrArg Stretch.waits hwait.answer, hwait.site⟩
  | .ok (.ready r) =>
    obtain ⟨good, u, u', hv, hv', hu⟩ := (hsite.validate hh r).parts
    cases good with
    | true =>
      have hgrant := hu.grant hh c r
      rw [acquire_of_good spare c hs hv, acquire_of_good spare _ ht hv']
      exact ⟨congrArg (Stretch.done ∘ Except.ok) hgrant.answer, hgrant.site⟩
    | false =>
      rw [acquire_of_bad spare c hs hv, acquire_of_bad spare _ ht hv']
      cases spare with
      | zero => exact ⟨rfl, hu.countBad⟩
      | succ spare => exact acquire spare { c with bad := c.bad + 1 } hu.countBad

theorem proceed (h : s.Twin f R t) (c : Checkout) :
    Twins f R (Stretch.rename f) (s.proceed host c) (t.proceed other (c.rename f)) := by
  unfold Site.proceed
  rw [h.config]
  exact acquire hh _ c h

theorem begin (h : s.Twin f R t) (credentials : Option (String × String)) :
    Twins f R (Stretch.rename f) (s.begin host credentials)
      (t.begin other (credentials.map fun (username, password) => (username, f password))) := by
  have htime := h.now hh
  unfold Site.begin
  dsimp only
  rw [htime.answer]
  exact htime.site.proceed hh { credentials, started := (s.now host).1 }

theorem resume (h : s.Twin f R t) (w : Waiting) :
    Twins f R (Stretch.rename f) (s.resume host w) (t.resume other (w.rename f)) := by
  have hwaited : (s.waited host w).Twin f R (t.waited other (w.rename f)) :=
    h.timed hh fun now t => { t with waitTime := t.waitTime + (now - w.since) }
  by_cases hg : s.pool.generation = w.generation
  · rw [resume_of_same hg, resume_of_same (w := w.rename f) (h.generation.trans hg)]
    exact hwaited.proceed hh w.checkout
  · rw [resume_of_other hg, resume_of_other (w := w.rename f) (h.generation ▸ hg)]
    exact ⟨rfl, hwaited⟩

theorem takenBack (h : s.Twin f R t) (r : Record) :
    (s.takenBack host r).Twin f R (t.takenBack other (r.rename f)) := by
  have hcounted := h.timed hh fun now t =>
    { t with checkoutTime := t.checkoutTime + (now - r.checkoutAt) }
  exact hcounted.settle (hh.rollbackIfNeeded r.conn)

theorem giveBack (hf : f.Injective) (h : s.Twin f R t) (flag : FlagId) :
    Twins f R id (s.giveBack host flag) (t.giveBack other flag) := by
  have hfound : t.pool.activeWith? flag = (s.pool.activeWith? flag).map (Record.rename f) := by
    rw [h.pool, Pool.activeWith?_rename]
  have hremoved : (s.modify (·.removeActive flag)).Twin f R (t.modify (·.removeActive flag)) :=
    h.modify (s.pool.removeActive_rename f flag)
  cases hs : s.pool.activeWith? flag with
  | none =>
    rw [hs, Option.map_none] at hfound
    rw [giveBack_of_missing hs, giveBack_of_missing hfound]
    exact ⟨rfl, h.countBad⟩
  | some r =>
    rw [hs, Option.map_some] at hfound
    obtain ⟨good, u, u', hv, hv', hu⟩ := (hremoved.validate hh r).parts
    cases good with
    | false =>
      rw [giveBack_of_bad hs hv, giveBack_of_bad hfound hv']
      exact ⟨rfl, hu.countBad⟩
    | true =>
      have htaken := takenBack hh hu r
      have hfresh := htaken.rewrap hh r
      have hkept : (u'.takenBack other (r.rename f)).pool.keeps (r.rename f) =
          (u.takenBack host r).pool.keeps r := by
        rw [htaken.pool, Pool.keeps_rename hf]
      rw [giveBack_of_good hs hv, giveBack_of_good hfound hv', hkept]
      split
      · refine ⟨rfl, ?_⟩
        dsimp only
        rw [hfresh.answer]
        exact hfresh.site.addIdle _
      · exact ⟨rfl, (htaken.settle (hh.close r.conn)).revoke r.flag⟩

theorem discard (h : s.Twin f R t) (r : Record) :
    (s.discard host r).Twin f R (t.discard other (r.rename f)) :=
  ((h.revoke r.flag).settle (hh.rollbackIfNeeded r.conn)).settle (hh.close r.conn)

theorem discards (rs : List Record) {s : Site σ} {t : Site τ} (h : s.Twin f R t) :
    (rs.foldl (fun s r => s.discard host r) s).Twin f R
      ((rs.map (Record.rename f)).foldl (fun s r => s.discard other r) t) := by
  induction rs generalizing s t with
  | nil => exact h
  | cons r rs ih => exact ih (discard hh h r)

theorem drain (h : s.Twin f R t) : (s.drain host).Twin f R (t.drain other) := by
  have htracked : t.pool.active.reverse ++ t.pool.idle.reverse =
      (s.pool.active.reverse ++ s.pool.idle.reverse).map (Record.rename f) := by
    simp [h.active, h.idle]
  unfold Site.drain
  dsimp only
  rw [htracked]
  exact discards hh _ (h.modify rfl)

theorem configure (h : s.Twin f R t) (setting : Pool.Setting) :
    Twins f R id (s.configure host setting) (t.configure other (setting.rename f)) := by
  have hset := s.pool.set_rename f setting
  unfold Site.configure
  rw [h.pool, hset]
  cases s.pool.set setting with
  | error e => exact ⟨rfl, h⟩
  | ok p => exact ⟨rfl, drain hh ⟨rfl, h.world⟩⟩

end

end Site.Twin

end ConnPool
