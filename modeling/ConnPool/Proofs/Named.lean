import ConnPool.Proofs.Attempts
import ConnPool.Proofs.Credentials
import ConnPool.Proofs.Passwords

namespace ConnPool

def Checkout.naming (c : Checkout) (user : String × String) : Checkout :=
  { c with credentials := some user }

def Waiting.naming (w : Waiting) (user : String × String) : Waiting :=
  { w with checkout := w.checkout.naming user }

def Stretch.naming (user : String × String) : Stretch → Stretch
  | .waits w => .waits (w.naming user)
  | r => r

def Waiter.naming (n : Nat) (user : String × String) (v : Waiter) : Waiter :=
  if v.id = n then { v with waiting := v.waiting.naming user } else v

theorem Waiter.naming_id (n : Nat) (user : String × String) (v : Waiter) :
    (v.naming n user).id = v.id := by
  unfold naming
  split <;> rfl

/-- The user and password that a pool opens its connections with, and stamps them for. -/
structure Pool.OpensFor (p : Pool) (user : String × String) : Prop where
  coded : p.IsCoded
  own : p.source.IsOwn (some user)

theorem Pool.OpensFor.same {p q : Pool} {user : String × String} (h : p.OpensFor user)
    (hs : p.SameSettings q) : q.OpensFor user where
  coded := by rw [IsCoded, hs.expected, hs.source, h.coded]
  own := by
    rw [hs.source]
    exact h.own

namespace Site

variable {σ : Type} (host : Host σ) {s t : Site σ} {user : String × String} {c : Checkout}

theorem codeFor_naming {p : Pool} (h : p.OpensFor user) (hc : c.credentials = none) :
    codeFor p (c.naming user) = codeFor p c := by
  rw [codeFor_of_coded h.coded, codeFor_of_coded h.coded, hc]
  exact (p.source.codeOf_eq_iff (some user)).mpr h.own

theorem grant_naming (h : s.pool.OpensFor user) (hc : c.credentials = none) (r : Record) :
    s.grant host (c.naming user) r = s.grant host c r := by
  have hcode : codeFor (s.settle (host.rollbackIfNeeded r.conn)).pool (c.naming user) =
      codeFor (s.settle (host.rollbackIfNeeded r.conn)).pool c := codeFor_naming h hc
  have hstarted : (c.naming user).started = c.started := rfl
  unfold grant
  dsimp only
  rw [hcode, hstarted]

theorem wait_naming (s : Site σ) (c : Checkout) :
    s.wait host (c.naming user) = ((s.wait host c).1.naming user, (s.wait host c).2) := by
  unfold wait
  have hcounted : (c.naming user).counted = c.counted := rfl
  rw [hcounted]
  cases c.counted <;> rfl

/-- Bad candidates, claims and waits go the same way. -/
theorem acquire_naming (spare : Nat) (c : Checkout) (s : Site σ) (h : s.pool.OpensFor user)
    (hc : c.credentials = none) :
    acquire host spare (c.naming user) s =
      ((acquire host spare c s).1.naming user, (acquire host spare c s).2) := by
  cases hn : s.nextCandidate host with
  | mk o t =>
    match o with
    | .error f =>
      rw [acquire_of_error spare _ hn, acquire_of_error spare c hn]
      rfl
    | .ok .mustWait =>
      rw [acquire_of_wait spare _ hn, acquire_of_wait spare c hn, wait_naming]
      rfl
    | .ok (.ready r) =>
      cases hv : t.validate host r with
      | mk b u =>
        have hu : u.pool.OpensFor user := h.same (takes_of_found hn hv).1
        cases b with
        | true =>
          rw [acquire_of_good spare _ hn hv, acquire_of_good spare c hn hv,
            grant_naming host hu hc]
          rfl
        | false =>
          rw [acquire_of_bad spare _ hn hv, acquire_of_bad spare c hn hv]
          cases spare with
          | zero => rfl
          | succ spare =>
            have hcounted : u.countBad.pool.OpensFor user := hu.same ⟨rfl, rfl, rfl, rfl⟩
            exact acquire_naming spare { c with bad := c.bad + 1 } u.countBad hcounted hc

theorem proceed_naming (s : Site σ) (h : s.pool.OpensFor user) (hc : c.credentials = none) :
    s.proceed host (c.naming user) =
      ((s.proceed host c).1.naming user, (s.proceed host c).2) :=
  acquire_naming host _ c s h hc

theorem begin_naming (s : Site σ) (h : s.pool.OpensFor user) :
    s.begin host (some user) = ((s.begin host none).1.naming user, (s.begin host none).2) :=
  proceed_naming host (s.now host).2 h (c := { credentials := none, started := (s.now host).1 }) rfl

theorem resume_naming (s : Site σ) (h : s.pool.OpensFor user) {w : Waiting}
    (hw : w.checkout.credentials = none) :
    s.resume host (w.naming user) =
      ((s.resume host w).1.naming user, (s.resume host w).2) := by
  have hwaited : (s.waited host w).pool.OpensFor user := h.same ⟨rfl, rfl, rfl, rfl⟩
  by_cases hg : s.pool.generation = w.generation
  · rw [resume_of_same hg, resume_of_same (w := w.naming user) hg]
    exact proceed_naming host (s.waited host w) hwaited hw
  · rw [resume_of_other hg, resume_of_other (w := w.naming user) hg]
    rfl

end Site

namespace Desk

variable {σ : Type} {host : Host σ} {d : Desk σ} {n id : Nat} {user : String × String} {e : Event}

/-- The desk, with one checkout made for a user and password, should it wait. -/
def naming (d : Desk σ) (n : Nat) (user : String × String) : Desk σ :=
  { d with waiters := d.waiters.map (Waiter.naming n user) }

theorem naming_find? (d : Desk σ) (n : Nat) (user : String × String) (id : Nat) :
    (d.naming n user).waiters.find? (·.id == id) =
      (d.waiters.find? (·.id == id)).map (Waiter.naming n user) := by
  have hid : ((·.id == id) ∘ Waiter.naming n user) = (·.id == id) :=
    funext fun v => by rw [Function.comp_apply, v.naming_id]
  rw [naming, List.find?_map, hid]

theorem naming_eraseP (d : Desk σ) (n : Nat) (user : String × String) (id : Nat) :
    { d.naming n user with waiters := (d.naming n user).waiters.eraseP (·.id == id) } =
      naming { d with waiters := d.waiters.eraseP (·.id == id) } n user := by
  have hid : ((·.id == id) ∘ Waiter.naming n user) = (·.id == id) :=
    funext fun v => by rw [Function.comp_apply, v.naming_id]
  simp only [naming, List.eraseP_map, hid]

theorem naming_wakeAll (d : Desk σ) (n : Nat) (user : String × String) :
    (d.naming n user).wakeAll = d.wakeAll.naming n user := by
  have hwoken : ∀ v : Waiter, { v.naming n user with woken := true } =
      Waiter.naming n user { v with woken := true } := by
    intro v
    unfold Waiter.naming
    split <;> rfl
  simp only [wakeAll, naming, List.map_map]
  congr 1
  exact List.map_congr_left fun v _ => hwoken v

/-- Nobody has that number. -/
theorem naming_of_none (h : ∀ v ∈ d.waiters, v.id ≠ n) : d.naming n user = d := by
  have hsame : d.waiters.map (Waiter.naming n user) = d.waiters :=
    (List.map_congr_left fun v hv => if_neg (h v hv)).trans (List.map_id _)
  rw [naming, hsame]

/-- A stretch of another checkout. -/
theorem naming_afterStretch (h : id ≠ n) (user : String × String) (r : Stretch × Site σ) :
    afterStretch (d.naming n user) id r =
      ((afterStretch d id r).1, (afterStretch d id r).2.naming n user) := by
  obtain ⟨(f | g) | w, s⟩ := r
  · rfl
  · rfl
  · have hnew : Waiter.naming n user ⟨id, w, false⟩ = ⟨id, w, false⟩ := if_neg h
    simp [afterStretch, naming, hnew]

/-- A stretch of the checkout itself. -/
theorem naming_afterStretch_self (user : String × String) (r : Stretch × Site σ) :
    afterStretch (d.naming n user) n (r.1.naming user, r.2) =
      ((afterStretch d n r).1, (afterStretch d n r).2.naming n user) := by
  obtain ⟨(f | g) | w, s⟩ := r
  · rfl
  · rfl
  · have hnew : Waiter.naming n user ⟨n, w, false⟩ = ⟨n, w.naming user, false⟩ := if_pos rfl
    simp [afterStretch, naming, Stretch.naming, hnew]

theorem naming_closeUnused (host : Host σ) (d : Desk σ) (n : Nat) (user : String × String) :
    (d.naming n user).closeUnused host = (d.closeUnused host).naming n user := by
  unfold closeUnused
  simp only [naming, List.isEmpty_map]
  split <;> rfl

/-- While the checkout waits, it may be made for the user and password. -/
structure Nameable (d : Desk σ) (n : Nat) (user : String × String) : Prop where
  numbered : d.Numbered
  begun : n < d.begun
  waits : ∀ w, d.Waits n w → w.checkout.credentials = none ∧ d.pool.OpensFor user

theorem Nameable.resume (h : d.Nameable n user) (host : Host σ) (id : Nat) :
    (d.naming n user).resume host id =
      ((d.resume host id).1, (d.resume host id).2.naming n user) := by
  unfold Desk.resume
  rw [naming_find?]
  cases hv : d.waiters.find? (·.id == id) with
  | none => rfl
  | some v =>
    have hid : v.id = id := by simpa using List.find?_some hv
    dsimp only [Option.map_some]
    by_cases hn : id = n
    · subst hn
      obtain ⟨hnone, hopens⟩ := h.waits v.waiting ⟨v, List.mem_of_find?_eq_some hv, hid, rfl⟩
      have hnamed : v.naming id user = { v with waiting := v.waiting.naming user } := if_pos hid
      have hresume : d.site.resume host (v.waiting.naming user) =
          ((d.site.resume host v.waiting).1.naming user, (d.site.resume host v.waiting).2) :=
        d.site.resume_naming host hopens hnone
      have hsite : (d.naming id user).site = d.site := rfl
      rw [hnamed, naming_eraseP, hsite, hresume, naming_afterStretch_self, naming_closeUnused]
    · have hnamed : v.naming n user = v := if_neg (hid ▸ hn)
      have hsite : (d.naming n user).site = d.site := rfl
      rw [hnamed, naming_eraseP, hsite, naming_afterStretch hn, naming_closeUnused]

theorem naming_giveBack (host : Host σ) (d : Desk σ) (n : Nat) (user : String × String)
    (l : Lease) :
    (d.naming n user).giveBack host l = (d.giveBack host l).naming n user := by
  have hsite : (d.naming n user).site = d.site := rfl
  unfold giveBack
  dsimp only
  rw [hsite]
  split
  · exact naming_wakeAll { d with site := (d.site.giveBack host l.grant.flag).2 } n user
  · rfl

theorem naming_release (host : Host σ) (d : Desk σ) (n : Nat) (user : String × String) (i : Nat) :
    (d.naming n user).release host i = (d.release host i).naming n user := by
  have hleases : (d.naming n user).leases = d.leases := rfl
  have hopen : (d.naming n user).isOpen = d.isOpen := rfl
  unfold release
  rw [hleases, hopen]
  cases d.leases[i]? with
  | none => rfl
  | some l =>
    dsimp only
    cases l.released with
    | true => rfl
    | false =>
      cases d.isOpen with
      | true => exact naming_giveBack host (d.markReleased i) n user l
      | false =>
        show ((d.markReleased i).naming n user).closeOrphan host l = _
        unfold closeOrphan
        have hvalid : ((d.markReleased i).naming n user).isValid l = (d.markReleased i).isValid l :=
          rfl
        rw [hvalid]
        simp only [Bool.false_eq_true, if_false]
        split <;> rfl

/-- Whatever happens, it is answered alike. -/
theorem Nameable.serve (h : d.Nameable n user) (host : Host σ) (e : Event) :
    (d.naming n user).serve host e = ((d.serve host e).1, (d.serve host e).2.naming n user) := by
  have hsite : (d.naming n user).site = d.site := rfl
  have hheld : (d.naming n user).isHeld = d.isHeld := rfl
  have hleases : (d.naming n user).leases = d.leases := rfl
  unfold Desk.serve
  rw [hheld, hleases]
  split
  · rfl
  · cases e with
    | checkout credentials =>
      have hne : d.begun ≠ n := Nat.ne_of_gt h.begun
      have hafter := naming_afterStretch (d := { d with begun := d.begun + 1 }) hne user
        (d.site.begin host credentials)
      exact congrArg (Prod.map Answer.checkout id) hafter
    | resume k => exact congrArg (Prod.map Answer.checkout id) (h.resume host k)
    | release i => exact congrArg (Prod.mk Answer.silence) (naming_release host d n user i)
    | call i k =>
      dsimp only
      cases d.leases[i]? with
      | none => rfl
      | some l =>
        dsimp only [Option.elim]
        unfold Desk.call
        have hvalid : (d.naming n user).isValid l = d.isValid l := rfl
        rw [hvalid, hsite]
        split <;> rfl
    | isClosed i =>
      dsimp only
      cases d.leases[i]? with
      | none => rfl
      | some l =>
        dsimp only [Option.elim]
        unfold Desk.isClosed
        have hvalid : (d.naming n user).isValid l = d.isValid l := rfl
        rw [hvalid, hsite]
        split <;> rfl
    | interrupt =>
      exact congrArg (Prod.mk Answer.silence)
        (naming_wakeAll { d with site := d.site.interrupt } n user)
    | shutdown =>
      exact congrArg (Prod.mk Answer.silence)
        (naming_wakeAll { d with site := d.site.interrupt.drain host } n user)
    | drain => rfl
    | configure setting => rfl
    | letGo =>
      exact congrArg (Prod.mk Answer.silence)
        (naming_closeUnused host { d with isHeld := false } n user)

theorem Nameable.step_eq (h : d.Nameable n user) (host : Host σ) (e : Event) :
    (d.naming n user).step host e = (d.step host e).naming n user := by
  rw [← serve_snd, ← serve_snd, h.serve]

/-- The checkout's own number, when it begins. -/
theorem serve_own (hn : d.Numbered) (host : Host σ) (hheld : d.isHeld = true)
    (h : d.pool.OpensFor user) :
    d.serve host (.checkout (some user)) = ((d.serve host (.checkout none)).1,
      (d.serve host (.checkout none)).2.naming d.begun user) := by
  have hothers : ∀ v ∈ d.waiters, v.id ≠ d.begun := fun v hv => Nat.ne_of_lt (hn.begun v hv)
  have hnext : naming { d with begun := d.begun + 1 } d.begun user =
      { d with begun := d.begun + 1 } := naming_of_none hothers
  have hafter := naming_afterStretch_self (d := { d with begun := d.begun + 1 }) (n := d.begun)
    user (d.site.begin host none)
  rw [hnext, ← d.site.begin_naming host h] at hafter
  unfold serve
  simp only [Event.isOfHolder, hheld, Bool.not_true, Bool.and_false, Bool.false_eq_true, if_false]
  exact congrArg (Prod.map Answer.checkout id) hafter

theorem coded_kept (host : Host σ) : Site.Kept host fun s => s.pool.IsCoded where
  same s t hs _ h := by rw [Pool.IsCoded, hs.expected, hs.source, h]
  proceed s c h := by
    have hset := Site.acquire_settings host (s.pool.config.badConnectionLimit - c.bad) c s
    rw [Pool.IsCoded, Site.proceed, hset.expected, hset.source, h]
  giveBack s flag h := by
    have hset := (s.giveBack_conns host flag).1
    rw [Pool.IsCoded, hset.expected, hset.source, h]
  drain s p h := by
    obtain ⟨hsource, hexpected⟩ := Site.drain_source host ⟨p, s.world⟩
    rw [Pool.IsCoded, hexpected, hsource]

/-- The checkout goes on waiting under the same settings, or begins to wait again. -/
theorem Nameable.step (h : d.Nameable n user) (host : Host σ)
    (he : ∀ setting, e = .configure setting → ∀ w, ¬ d.Waits n w) :
    (d.step host e).Nameable n user where
  numbered := h.numbered.step host e
  begun := Nat.lt_of_lt_of_le h.begun (d.begun_le_step host e)
  waits w hw := by
    rcases waits_cases h.numbered hw with ⟨hbefore, -⟩ | ⟨hruns, s, hstretch, hpool⟩
    · obtain ⟨hnone, hopens⟩ := h.waits w hbefore
      refine ⟨hnone, (coded_kept host).step hopens.coded e, ?_⟩
      rw [(step_unconfigured host d fun setting hc => he setting hc w hbefore).1]
      exact hopens.own
    · rw [hpool]
      cases e with
      | checkout credentials =>
        simp only [runs?] at hruns
        split at hruns
        · exact absurd (Option.some.inj hruns) (Nat.ne_of_gt h.begun)
        · cases hruns
      | resume k =>
        obtain ⟨v, hv, hr⟩ := Option.map_eq_some_iff.mp hstretch
        have hid : v.id = n := by simpa [runs?, hv] using hruns
        obtain ⟨hnone, hopens⟩ := h.waits v.waiting ⟨v, List.mem_of_find?_eq_some hv, hid, rfl⟩
        have hstamps := d.site.resume_stamps host v.waiting hopens.coded
        rw [hr] at hstamps
        exact ⟨(hstamps.waits w rfl).trans hnone, hopens.same (stretch_settings hstretch)⟩
      | _ => cases hruns

/-- A checkout that has just begun. -/
theorem nameable_checkout (hn : d.Numbered) (host : Host σ) (hheld : d.isHeld = true)
    (h : d.pool.OpensFor user) : (d.step host (.checkout none)).Nameable d.begun user where
  numbered := hn.step host _
  begun := by
    have hbegun : (d.step host (.checkout none)).begun = d.begun + 1 := by
      simp only [Desk.step, Event.isOfHolder, hheld, Bool.not_true, Bool.and_false,
        Bool.false_eq_true, if_false]
      exact (afterStretch_waiters _ _ _).1
    rw [hbegun]
    exact Nat.lt_succ_self d.begun
  waits w hw := by
    rcases waits_cases hn hw with ⟨⟨v, hv, hid, -⟩, -⟩ | ⟨-, s, hstretch, hpool⟩
    · exact absurd hid (Nat.ne_of_lt (hn.begun v hv))
    · have hbegin := (stretch_of_held host hheld none).symm.trans hstretch
      have hstamps := d.site.begin_stamps host none h.coded
      rw [Option.some.inj hbegin] at hstamps
      rw [hpool]
      exact ⟨hstamps.waits w rfl, h.same (stretch_settings hstretch)⟩

/-- No setting is changed while that checkout waits. -/
def Undisturbed (host : Host σ) (d : Desk σ) (n : Nat) (gs : List Event) : Prop :=
  ∀ fs setting rest, gs = fs ++ .configure setting :: rest → ∀ w, ¬ (d.run host fs).Waits n w

section

variable {gs : List Event}

theorem Undisturbed.head (h : d.Undisturbed host n (e :: gs)) (setting : Pool.Setting)
    (he : e = .configure setting) (w : Waiting) : ¬ d.Waits n w :=
  h [] setting gs (by rw [he]; rfl) w

theorem Undisturbed.tail (h : d.Undisturbed host n (e :: gs)) :
    (d.step host e).Undisturbed host n gs :=
  fun fs setting rest hgs => h (e :: fs) setting rest (by rw [hgs]; rfl)

theorem Nameable.trace (h : d.Nameable n user) (hq : d.Undisturbed host n gs) :
    (d.naming n user).trace host gs = d.trace host gs := by
  induction gs generalizing d with
  | nil => rfl
  | cons e gs ih =>
    rw [Desk.trace, Desk.trace, h.serve, h.step_eq, ih (h.step host hq.head) hq.tail]
    rfl

theorem Nameable.history {d : Desk (σ × Ledger)} (h : d.Nameable n user)
    (hq : d.forget.Undisturbed host n gs) :
    (d.naming n user).history host gs = (d.history host gs).naming n user := by
  induction gs generalizing d with
  | nil => rfl
  | cons e gs ih =>
    have hnext := hq.tail
    rw [step_forget host e.party] at hnext
    show ((d.naming n user).step (host.withLedger e.party) e).history host gs = _
    rw [h.step_eq]
    exact ih (h.step (host.withLedger e.party) hq.head) hnext

end

/-- After the same beginning, events go the way that other events go. Of a checkout that still waits
the state notes a user and password; once it has ended, there is no difference left. -/
structure GoesLike (host : Host σ) (d : Desk σ) (es named plain : List Event) (n : Nat)
    (user : String × String) : Prop where
  /-- The answers, the texts of errors, and what the pool and its leases show of themselves. -/
  seen : (d.run host es).trace host named = (d.run host es).trace host plain
  /-- What is done with connections, and what they answer. -/
  dealt : d.ledger host (es ++ named) = d.ledger host (es ++ plain)
  state : d.run host (es ++ named) = (d.run host (es ++ plain)).naming n user
  ended : (∀ w, ¬ (d.run host (es ++ plain)).Waits n w) →
    d.run host (es ++ named) = d.run host (es ++ plain)

theorem step_own (hn : d.Numbered) (host : Host σ) (hheld : d.isHeld = true)
    (h : d.pool.OpensFor user) : d.step host (.checkout (some user)) =
      (d.step host (.checkout none)).naming d.begun user := by
  rw [← serve_snd, ← serve_snd, serve_own hn host hheld h]

theorem trace_checkout_own (hn : d.Numbered) (hheld : d.isHeld = true) (h : d.pool.OpensFor user)
    {gs : List Event} (hq : (d.step host (.checkout none)).Undisturbed host d.begun gs) :
    d.trace host (.checkout (some user) :: gs) = d.trace host (.checkout none :: gs) := by
  rw [Desk.trace, Desk.trace, serve_own hn host hheld h, step_own hn host hheld h,
    (nameable_checkout hn host hheld h).trace hq]
  rfl

theorem history_checkout_own {d : Desk (σ × Ledger)} (hn : d.Numbered) (hheld : d.isHeld = true)
    (h : d.pool.OpensFor user) {gs : List Event}
    (hq : (d.forget.step host (.checkout none)).Undisturbed host d.begun gs) :
    d.history host (.checkout (some user) :: gs) =
      (d.history host (.checkout none :: gs)).naming d.begun user := by
  rw [step_forget host .pool] at hq
  show (d.step (host.withLedger .pool) (.checkout (some user))).history host gs = _
  rw [step_own hn (host.withLedger .pool) hheld h]
  exact (nameable_checkout hn (host.withLedger .pool) hheld h).history hq

/-- A checkout that names the user and password of the source goes the way of the checkout that
names none, whether it waits or not, as long as no setting is changed while it waits. -/
theorem run_checkout_own (host : Host σ) (source : Source) (config : PoolConfig) (w : σ)
    (es : List Event) (username password : String) (gs : List Event)
    (hheld : ((start source config w).run host es).isHeld = true)
    (husername : ((start source config w).run host es).pool.source.username = some username)
    (hpassword : ((start source config w).run host es).pool.source.password = some password)
    (hquiet : ((start source config w).run host (es ++ [.checkout none])).Undisturbed host
      ((start source config w).run host es).begun gs) :
    (start source config w).GoesLike host es (.checkout (some (username, password)) :: gs)
      (.checkout none :: gs) ((start source config w).run host es).begun (username, password) := by
  generalize hd : start source config w = d at *
  have hnow : d.run host es = (d.watched.history host es).forget := run_eq_forget host d es
  have hopens : (d.run host es).pool.OpensFor (username, password) :=
    ⟨hd ▸ run_coded host source config w es, husername, hpassword⟩
  have hnumbered : (d.run host es).Numbered :=
    (hd ▸ start_numbered source config w : d.Numbered).run host es
  rw [run_concat] at hquiet
  have hhistory : d.watched.history host (es ++ .checkout (some (username, password)) :: gs) =
      (d.watched.history host (es ++ .checkout none :: gs)).naming (d.run host es).begun
        (username, password) := by
    rw [history_append, history_append]
    rw [hnow] at hquiet hopens hnumbered hheld ⊢
    exact history_checkout_own ⟨hnumbered.once, hnumbered.begun⟩ hheld hopens hquiet
  have hstate : d.run host (es ++ .checkout (some (username, password)) :: gs) =
      (d.run host (es ++ .checkout none :: gs)).naming (d.run host es).begun
        (username, password) := by
    rw [run_eq_forget, run_eq_forget, hhistory]
    rfl
  refine ⟨trace_checkout_own hnumbered hheld hopens hquiet, ?_, hstate, fun hended => ?_⟩
  · rw [ledger, ledger, hhistory]
    rfl
  · rw [hstate]
    exact naming_of_none fun v hv hid => hended v.waiting ⟨v, hv, hid, rfl⟩

/-- The checkout waits for a connection that comes back, and is handed that one. -/
theorem goesLike_after_waiting :
    let d := start
      { driver := "mock", url := "mock:db", username := some "sa", password := some "secret" }
      { maxActive := 1 } {}
    d.GoesLike World.host [.checkout none]
        (.checkout (some ("sa", "secret")) :: [.release 0, .resume 1, .release 1])
        (.checkout none :: [.release 0, .resume 1, .release 1]) 1 ("sa", "secret") ∧
      (d.run World.host [.checkout none, .checkout none]).waiters.length = 1 := by
  intro d
  have hquiet : (d.run World.host ([.checkout none] ++ [.checkout none])).Undisturbed World.host
      (d.run World.host [.checkout none]).begun [.release 0, .resume 1, .release 1] := by
    intro fs setting rest hgs
    have hm : Event.configure setting ∈ [.release 0, .resume 1, .release 1] :=
      hgs ▸ List.mem_append_right fs List.mem_cons_self
    simp at hm
  exact ⟨run_checkout_own World.host _ _ _ [.checkout none] "sa" "secret" _ (by decide) (by decide)
    (by decide) hquiet, by decide⟩

end Desk
end ConnPool
