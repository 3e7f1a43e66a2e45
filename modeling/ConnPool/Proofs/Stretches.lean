import ConnPool.Proofs.Branches
import ConnPool.Proofs.Effects

namespace ConnPool

namespace Site

variable {σ : Type} {host : Host σ} {s t u : Site σ}

/-- Whether a record has been checked out for too long, as the clock is read now. -/
def IsOverdue (host : Host σ) (s : Site σ) (r : Record) : Prop :=
  s.pool.config.maxCheckoutTime.toNat * nanosPerMilli < (s.now host).1 - r.checkoutAt

inductive Look (host : Host σ) (s : Site σ) : Outcome Candidate × Site σ → Prop where
  | idle (r : Record) (rest : List Record) (front : s.pool.idle = r :: rest) :
      Look host s (.ok (.ready r), s.modify fun p => { p with idle := rest })
  | opened (c : ConnId) (w : σ) (none_idle : s.pool.idle = [])
      (room : s.pool.active.length < s.pool.config.maxActive.toNat)
      (opens : s.pool.source.openDefault host s.world = (.ok c, w)) :
      Look host s (.ok (.ready ((⟨s.pool, w⟩ : Site σ).wrap host c).1),
        ((⟨s.pool, w⟩ : Site σ).wrap host c).2)
  | refused (f : Failure) (w : σ) (none_idle : s.pool.idle = [])
      (room : s.pool.active.length < s.pool.config.maxActive.toNat)
      (fails : s.pool.source.openDefault host s.world = (.error f, w)) :
      Look host s (.error f, ⟨s.pool, w⟩)
  | claimed (oldest : Record) (rest : List Record) (none_idle : s.pool.idle = [])
      (full : s.pool.config.maxActive.toNat ≤ s.pool.active.length)
      (front : s.pool.active = oldest :: rest) (overdue : s.IsOverdue host oldest) :
      Look host s (.ok (.ready ((s.now host).2.claim host oldest rest).1),
        ((s.now host).2.claim host oldest rest).2)
  /-- There is nobody to wait for, and no room either. -/
  | barred (none_idle : s.pool.idle = []) (none_active : s.pool.active = [])
      (full : s.pool.config.maxActive.toNat ≤ s.pool.active.length) :
      Look host s (.ok .mustWait, s)
  | early (oldest : Record) (rest : List Record) (none_idle : s.pool.idle = [])
      (full : s.pool.config.maxActive.toNat ≤ s.pool.active.length)
      (front : s.pool.active = oldest :: rest) (early : ¬ s.IsOverdue host oldest) :
      Look host s (.ok .mustWait, (s.now host).2)

theorem nextCandidate_look (host : Host σ) (s : Site σ) : s.Look host (s.nextCandidate host) := by
  cases hi : s.pool.idle with
  | cons r rest =>
    rw [nextCandidate_of_idle hi]
    exact .idle r rest hi
  | nil =>
    by_cases hm : s.pool.active.length < s.pool.config.maxActive.toNat
    · rw [nextCandidate_of_room hi hm]
      unfold create run
      cases hr : s.pool.source.openDefault host s.world with
      | mk o w =>
        cases o with
        | error f => exact .refused f w hi hm hr
        | ok c => exact .opened c w hi hm hr
    · have hfull := Nat.le_of_not_lt hm
      cases ha : s.pool.active with
      | nil =>
        rw [nextCandidate_of_empty hi ha (by simpa [ha] using hm)]
        exact .barred hi ha hfull
      | cons oldest rest =>
        rw [nextCandidate_of_full hi ha (by simpa [ha] using hm)]
        split
        · rename_i ho
          exact .claimed oldest rest hi hfull ha ho
        · rename_i ho
          exact .early oldest rest hi hfull ha ho

theorem look_of_eq {o : Outcome Candidate} (h : s.nextCandidate host = (o, t)) :
    s.Look host (o, t) := h ▸ nextCandidate_look host s

/-- A look at the pool finds a bad candidate, which is left alone. -/
inductive Miss (host : Host σ) (s : Site σ) : Site σ → Prop where
  | bad (r : Record) (t u : Site σ) (found : s.nextCandidate host = (.ok (.ready r), t))
      (invalid : t.validate host r = (false, u)) : Miss host s u.countBad

inductive Misses (host : Host σ) : Site σ → Nat → Site σ → Prop where
  | none (s : Site σ) : Misses host s 0 s
  | more {s t u : Site σ} {n : Nat} (miss : s.Miss host t) (rest : Misses host t n u) :
      Misses host s (n + 1) u

inductive Ending (host : Host σ) (c : Checkout) (s : Site σ) : Stretch × Site σ → Prop where
  | failed (f : Failure) (t : Site σ) (found : s.nextCandidate host = (.error f, t)) :
      Ending host c s (.done (.error f), t)
  | waiting (t : Site σ) (found : s.nextCandidate host = (.ok .mustWait, t)) :
      Ending host c s (.waits (t.wait host c).1, (t.wait host c).2)
  | granted (r : Record) (t u : Site σ) (found : s.nextCandidate host = (.ok (.ready r), t))
      (valid : t.validate host r = (true, u)) :
      Ending host c s (.done (.ok (u.grant host c r).1), (u.grant host c r).2)
  | exhausted (t : Site σ) (miss : s.Miss host t) :
      Ending host c s (.done (.fail .poolExhausted), t)

theorem acquire_ends (host : Host σ) (spare : Nat) (c : Checkout) (s : Site σ) :
    ∃ n t, n ≤ spare ∧ s.Misses host n t ∧
      Ending host { c with bad := c.bad + n } t (acquire host spare c s) := by
  cases hn : s.nextCandidate host with
  | mk o t =>
    match o with
    | .error f =>
      rw [acquire_of_error spare c hn]
      exact ⟨0, s, Nat.zero_le _, .none s, .failed f t hn⟩
    | .ok .mustWait =>
      rw [acquire_of_wait spare c hn]
      exact ⟨0, s, Nat.zero_le _, .none s, .waiting t hn⟩
    | .ok (.ready r) =>
      cases hv : t.validate host r with
      | mk b u =>
        cases b with
        | true =>
          rw [acquire_of_good spare c hn hv]
          exact ⟨0, s, Nat.zero_le _, .none s, .granted r t u hn hv⟩
        | false =>
          rw [acquire_of_bad spare c hn hv]
          have hmiss : s.Miss host u.countBad := .bad r t u hn hv
          cases spare with
          | zero => exact ⟨0, s, Nat.le_refl _, .none s, .exhausted _ hmiss⟩
          | succ spare =>
            obtain ⟨n, v, hle, hrest, hend⟩ :=
              acquire_ends host spare { c with bad := c.bad + 1 } u.countBad
            refine ⟨n + 1, v, Nat.succ_le_succ hle, .more hmiss hrest, ?_⟩
            have hbad : c.bad + 1 + n = c.bad + (n + 1) := by omega
            simpa only [hbad] using hend

structure Claims (host : Host σ) (s : Site σ) (q : Record) : Prop where
  none_idle : s.pool.idle = []
  full : s.pool.config.maxActive.toNat ≤ s.pool.active.length
  front : s.pool.active.head? = some q
  overdue : s.IsOverdue host q

/-- What a look that finds a candidate takes out of the lists of a pool. -/
inductive Takes (host : Host σ) (s : Site σ) (p : Pool) : Prop where
  | idle (r : Record) (front : s.pool.idle = r :: p.idle) (active : p.active = s.pool.active)
  | opened (none_idle : s.pool.idle = [])
      (room : s.pool.active.length < s.pool.config.maxActive.toNat) (idle : p.idle = [])
      (active : p.active = s.pool.active)
  | claimed (q : Record) (claims : s.Claims host q) (idle : p.idle = [])
      (active : s.pool.active = q :: p.active)

theorem Look.takes {r : Record} (h : s.Look host (.ok (.ready r), t)) :
    s.pool.SameSettings t.pool ∧ s.Takes host t.pool := by
  cases h with
  | idle r rest front => exact ⟨⟨rfl, rfl, rfl, rfl⟩, .idle r front rfl⟩
  | opened c w none_idle room opens =>
    exact ⟨⟨rfl, rfl, rfl, rfl⟩, .opened none_idle room none_idle rfl⟩
  | claimed oldest rest none_idle full front overdue =>
    have hclaims : s.Claims host oldest := ⟨none_idle, full, by rw [front]; rfl, overdue⟩
    exact ⟨⟨rfl, rfl, rfl, rfl⟩, .claimed oldest hclaims none_idle front⟩

/-- Validating the candidate changes nothing about that. -/
theorem takes_of_found {r : Record} {b : Bool} (found : s.nextCandidate host = (.ok (.ready r), t))
    (answer : t.validate host r = (b, u)) :
    s.pool.SameSettings u.pool ∧ s.Takes host u.pool := by
  have hpool := pool_of_validate answer
  rw [hpool]
  exact (look_of_eq found).takes

theorem Miss.takes (h : s.Miss host t) : s.pool.SameSettings t.pool ∧ s.Takes host t.pool := by
  obtain ⟨r, t, u, found, invalid⟩ := h
  obtain ⟨hsame, htakes⟩ := takes_of_found found invalid
  refine ⟨⟨hsame.source, hsame.config, hsame.expected, hsame.generation⟩, ?_⟩
  cases htakes with
  | idle r front active => exact .idle r front active
  | opened none_idle room idle active => exact .opened none_idle room idle active
  | claimed q claims idle active => exact .claimed q claims idle active

theorem Takes.idle_suffix {p : Pool} (h : s.Takes host p) : p.idle <:+ s.pool.idle := by
  cases h with
  | idle r front active => exact front ▸ List.suffix_cons _ _
  | opened none_idle room idle active => exact idle ▸ List.nil_suffix
  | claimed q claims idle active => exact idle ▸ List.nil_suffix

namespace Misses

variable {n : Nat}

theorem settings (h : s.Misses host n t) : s.pool.SameSettings t.pool := by
  induction h with
  | none s => exact .refl _
  | more miss _ ih => exact miss.takes.1.trans ih

theorem idle_suffix (h : s.Misses host n t) : t.pool.idle <:+ s.pool.idle := by
  induction h with
  | none s => exact List.suffix_rfl
  | more miss _ ih => exact ih.trans miss.takes.2.idle_suffix

/-- Where there is room, nothing is claimed. -/
theorem active_of_room (h : s.Misses host n t)
    (hroom : s.pool.active.length < s.pool.config.maxActive.toNat) :
    t.pool.active = s.pool.active := by
  induction h with
  | none s => rfl
  | more miss _ ih =>
    obtain ⟨hsame, htakes⟩ := miss.takes
    rw [hsame.config] at ih
    cases htakes with
    | idle r front active => rw [ih (active ▸ hroom), active]
    | opened none_idle room idle active => rw [ih (active ▸ hroom), active]
    | claimed q claims idle active => exact absurd hroom (Nat.not_lt_of_le claims.full)

/-- One of the looks claims a record, and leaves the others as they are. -/
def Claimed (host : Host σ) (s t : Site σ) (n : Nat) (q : Record) : Prop :=
  ∃ k u, k ≤ n ∧ s.Misses host k u ∧ u.Claims host q ∧ u.pool.active = s.pool.active ∧
    s.pool.active = q :: t.pool.active

theorem Claimed.later {q : Record} (m : s.Miss host t) (ha : t.pool.active = s.pool.active)
    (h : Claimed host t u n q) : Claimed host s u (n + 1) q := by
  obtain ⟨k, v, hk, hmisses, hclaims, hv, hq⟩ := h
  exact ⟨k + 1, v, Nat.succ_le_succ hk, .more m hmisses, hclaims, hv.trans ha, ha.symm.trans hq⟩

/-- So one record is claimed at most. -/
theorem active_cases (h : s.Misses host n t)
    (hcap : s.pool.active.length ≤ s.pool.config.maxActive.toNat) :
    t.pool.active = s.pool.active ∨ ∃ q, Claimed host s t n q := by
  induction h with
  | none s => exact .inl rfl
  | @more s v t n miss rest ih =>
    obtain ⟨hsame, htakes⟩ := miss.takes
    rw [hsame.config] at ih
    cases htakes with
    | idle r front active =>
      exact (ih (active ▸ hcap)).imp (·.trans active) fun ⟨q, hq⟩ => ⟨q, hq.later miss active⟩
    | opened none_idle room idle active =>
      exact (ih (active ▸ hcap)).imp (·.trans active) fun ⟨q, hq⟩ => ⟨q, hq.later miss active⟩
    | claimed q claims idle active =>
      have hroom : v.pool.active.length < v.pool.config.maxActive.toNat := by
        rw [hsame.config]
        rw [active, List.length_cons] at hcap
        exact hcap
      refine .inr ⟨q, 0, s, Nat.zero_le _, .none s, claims, rfl, ?_⟩
      rw [rest.active_of_room hroom, active]

end Misses

section Lists

variable {c : Checkout} {r : Stretch × Site σ}

/-- A connection is handed out at the end of the active ones. -/
theorem grant_active (host : Host σ) (s : Site σ) (c : Checkout) (r : Record) :
    ∃ code, (s.grant host c r).2.pool.active = s.pool.active ++ [(r.withTypeCode code).checkedOut
      ((s.settle (host.rollbackIfNeeded r.conn)).now host).1] := ⟨_, rfl⟩

theorem wait_alike (host : Host σ) (s : Site σ) (c : Checkout) :
    s.pool.Alike (s.wait host c).2.pool := by
  unfold wait
  split <;> exact ⟨⟨rfl, rfl, rfl, rfl⟩, rfl, rfl, rfl⟩

theorem Look.error {f : Failure} (h : s.Look host (.error f, t)) : t.pool = s.pool := by
  cases h with
  | refused f w none_idle room fails => rfl

/-- A checkout waits where nothing is idle and nothing can be opened or claimed. -/
theorem Look.mustWait (h : s.Look host (.ok .mustWait, t)) :
    s.pool.idle = [] ∧ s.pool.config.maxActive.toNat ≤ s.pool.active.length ∧
      (∀ q, s.pool.active.head? = some q → ¬ s.IsOverdue host q) ∧ t.pool = s.pool := by
  cases h with
  | barred none_idle none_active full =>
    exact ⟨none_idle, full, by simp [none_active], rfl⟩
  | early oldest rest none_idle full front early =>
    refine ⟨none_idle, full, fun q hq => ?_, rfl⟩
    rw [front, List.head?_cons] at hq
    exact Option.some.inj hq ▸ early

/-- The last look leaves the lists as they are, or takes out of them, and then a connection may have
been handed out. -/
theorem Ending.lists (h : Ending host c s r) :
    s.pool.Alike r.2.pool ∨
      ∃ p : Pool, s.pool.SameSettings p ∧ s.Takes host p ∧ p.SameSettings r.2.pool ∧
        r.2.pool.idle = p.idle ∧ p.active <+: r.2.pool.active := by
  cases h with
  | failed f t found =>
    have hpool : t.pool = s.pool := (look_of_eq found).error
    exact .inl (hpool ▸ ⟨⟨rfl, rfl, rfl, rfl⟩, rfl, rfl, rfl⟩)
  | waiting t found =>
    obtain ⟨-, -, -, hpool⟩ := (look_of_eq found).mustWait
    exact .inl (hpool ▸ wait_alike host t c)
  | granted q t u found valid =>
    obtain ⟨hset, htakes⟩ := takes_of_found found valid
    obtain ⟨code, hactive⟩ := grant_active host u c q
    have hlonger : u.pool.active <+: (u.grant host c q).2.pool.active :=
      hactive ▸ List.prefix_append _ _
    exact .inr ⟨u.pool, hset, htakes, ⟨rfl, rfl, rfl, rfl⟩, rfl, hlonger⟩
  | exhausted t miss =>
    obtain ⟨hset, htakes⟩ := miss.takes
    exact .inr ⟨t.pool, hset, htakes, .refl _, rfl, List.prefix_rfl⟩

theorem Ending.settings (h : Ending host c s r) : s.pool.SameSettings r.2.pool := by
  rcases h.lists with halike | ⟨p, hset, -, hset', -, -⟩
  · exact halike.toSameSettings
  · exact hset.trans hset'

theorem Ending.idle_suffix (h : Ending host c s r) : r.2.pool.idle <:+ s.pool.idle := by
  rcases h.lists with halike | ⟨p, -, htakes, -, hidle, -⟩
  · exact halike.idle ▸ List.suffix_rfl
  · exact hidle ▸ htakes.idle_suffix

variable (host) (spare : Nat) (c : Checkout) (s : Site σ)

theorem acquire_settings : s.pool.SameSettings (acquire host spare c s).2.pool := by
  obtain ⟨n, t, -, hmisses, hend⟩ := acquire_ends host spare c s
  exact hmisses.settings.trans hend.settings

theorem acquire_idle_suffix : (acquire host spare c s).2.pool.idle <:+ s.pool.idle := by
  obtain ⟨n, t, -, hmisses, hend⟩ := acquire_ends host spare c s
  exact hend.idle_suffix.trans hmisses.idle_suffix

variable {host} {spare} {c} {s}

/-- A stretch that ends by waiting leaves nothing idle and no room. -/
theorem acquire_waits {w : Waiting} (h : (acquire host spare c s).1 = .waits w) :
    (acquire host spare c s).2.pool.idle = [] ∧
      (acquire host spare c s).2.pool.config.maxActive.toNat ≤
        (acquire host spare c s).2.pool.active.length := by
  obtain ⟨n, t, -, -, hend⟩ := acquire_ends host spare c s
  generalize acquire host spare c s = r at h hend
  cases hend with
  | waiting u found =>
    obtain ⟨hidle, hfull, -, hpool⟩ := (look_of_eq found).mustWait
    have halike := wait_alike host u { c with bad := c.bad + n }
    rw [halike.idle, halike.config, halike.active, hpool]
    exact ⟨hidle, hfull⟩
  | _ => cases h

/-- A stretch that begins without room and ends with a connection leaves no room either: where it
claimed a record that turned out bad, it opened a connection instead. -/
theorem acquire_granted {g : Grant} (h : (acquire host spare c s).1 = .done (.ok g))
    (hidle : s.pool.idle = []) (hfull : s.pool.active.length = s.pool.config.maxActive.toNat) :
    (acquire host spare c s).2.pool.active.length = s.pool.active.length := by
  obtain ⟨n, t, -, hmisses, hend⟩ := acquire_ends host spare c s
  generalize acquire host spare c s = r at h hend
  cases hend with
  | granted q v u found valid =>
    obtain ⟨code, hgrant⟩ := grant_active host u { c with bad := c.bad + n } q
    have hidle' : t.pool.idle = [] := List.suffix_nil.mp (hidle ▸ hmisses.idle_suffix)
    have hmax := hmisses.settings.config
    rw [hgrant, List.length_append, List.length_singleton]
    rcases hmisses.active_cases (Nat.le_of_eq hfull) with hsame | ⟨q', -, -, -, -, -, -, hq⟩
    · cases (takes_of_found found valid).2 with
      | idle r front active => exact absurd (hidle'.symm.trans front) (by simp)
      | opened none_idle room idle active =>
        rw [hsame, hmax, hfull] at room
        exact absurd room (Nat.lt_irrefl _)
      | claimed r claims idle active => rw [← hsame, active, List.length_cons]
    · have hlen : s.pool.active.length = t.pool.active.length + 1 := by rw [hq, List.length_cons]
      cases (takes_of_found found valid).2 with
      | idle r front active => exact absurd (hidle'.symm.trans front) (by simp)
      | opened none_idle room idle active => rw [active, hlen]
      | claimed r claims idle active =>
        have hno := claims.full
        rw [hmax] at hno
        omega
  | _ => cases h

end Lists

end Site

namespace Desk

variable {σ : Type} {host : Host σ} {d : Desk σ} {e : Event} {r : Stretch × Site σ}

/-- A stretch of a checkout begins with a clock reading. It looks at the pool unless an interruption
has ended the checkout. -/
theorem stretch_cases (h : d.stretch? host e = some r) :
    ∃ s : Site σ, s.world = (d.site.now host).2.world ∧ d.pool.Alike s.pool ∧
      ((∃ c, r = s.proceed host c) ∨ r = (.done (.fail .poolUnknown), s)) := by
  cases e with
  | checkout credentials =>
    simp only [stretch?] at h
    split at h
    · obtain rfl := Option.some.inj h
      exact ⟨(d.site.now host).2, rfl, ⟨.refl _, rfl, rfl, rfl⟩, .inl ⟨_, rfl⟩⟩
    · cases h
  | resume id =>
    obtain ⟨v, -, rfl⟩ := Option.map_eq_some_iff.mp h
    refine ⟨d.site.waited host v.waiting, rfl, ⟨⟨rfl, rfl, rfl, rfl⟩, rfl, rfl, rfl⟩, ?_⟩
    by_cases hg : d.site.pool.generation = v.waiting.generation
    · exact .inl ⟨v.waiting.checkout, Site.resume_of_same hg⟩
    · exact .inr (Site.resume_of_other hg)
  | _ => cases h

theorem stretch_idle_suffix (h : d.stretch? host e = some r) : r.2.pool.idle <:+ d.pool.idle := by
  obtain ⟨s, -, hs, ⟨c, rfl⟩ | rfl⟩ := stretch_cases h
  · exact hs.idle ▸ Site.acquire_idle_suffix host _ c s
  · exact hs.idle ▸ List.suffix_rfl

theorem stretch_waits {w : Waiting} {s : Site σ} (h : d.stretch? host e = some (.waits w, s)) :
    s.pool.idle = [] ∧ s.pool.config.maxActive.toNat ≤ s.pool.active.length := by
  obtain ⟨u, -, -, ⟨c, hc⟩ | hc⟩ := stretch_cases h
  · have hw : (u.proceed host c).1 = .waits w := by rw [← hc]
    have hsite : (u.proceed host c).2 = s := by rw [← hc]
    exact hsite ▸ Site.acquire_waits hw
  · cases congrArg Prod.fst hc

/-- Where no connection is idle and no place is free, none becomes free, unless the checkout fails
after it took a connection from its holder. -/
theorem stretch_full (h : d.stretch? host e = some r) (hidle : d.pool.idle = [])
    (hfull : d.pool.active.length = d.pool.config.maxActive.toNat) :
    r.2.pool.config.maxActive.toNat ≤ r.2.pool.active.length ∨
      ∃ f, r.1 = .done (.error f) ∧ r.2.pool.active.length < d.pool.active.length := by
  obtain ⟨s, -, hs, ⟨c, rfl⟩ | rfl⟩ := stretch_cases h
  · have hfull' : s.pool.active.length = s.pool.config.maxActive.toNat := by
      rw [hs.active, hs.config, hfull]
    have hmax : (s.proceed host c).2.pool.config = d.pool.config :=
      (Site.acquire_settings host _ c s).config.trans hs.config
    cases hr : (s.proceed host c).1 with
    | waits w => exact .inl (Site.acquire_waits hr).2
    | done o =>
      cases o with
      | ok g =>
        have hlen : (s.proceed host c).2.pool.active.length = s.pool.active.length :=
          Site.acquire_granted hr (hs.idle.trans hidle) hfull'
        exact .inl (Nat.le_of_eq (by rw [hmax, hlen, hs.active, hfull]))
      | error f =>
        by_cases hle : d.pool.active.length ≤ (s.proceed host c).2.pool.active.length
        · exact .inl (by rw [hmax, ← hfull]; exact hle)
        · exact .inr ⟨f, rfl, Nat.lt_of_not_le hle⟩
  · exact .inl (Nat.le_of_eq (by rw [hs.config, hs.active, hfull]))

end Desk
end ConnPool
