import ConnPool.Proofs.Interruptions
import ConnPool.Proofs.Trials

namespace ConnPool

namespace Site

variable {σ : Type} {host : Host σ} {s t u : Site σ} {r : Record} {c : Checkout}

/-- The connection of a record is open, and answers a ping where one is due. -/
structure Answers (host : Host σ) (s : Site σ) (r : Record) : Prop where
  isOpen : (host.isClosed r.conn s.world).1 = false
  /-- The query succeeds, and so does the rollback after it unless statements are committed one by
  one. -/
  pinged : s.pool.config.pingEnabled = true → ¬ s.isFresh host r →
    ∃ rows v committed w,
      host.call r.conn (.query s.pool.config.pingQuery []) ((s.asked host r).now host).2.world =
        (.ok rows, v) ∧
      host.call r.conn .autoCommit v = (.ok committed, w) ∧
      (committed = false → (host.call r.conn .rollback w).1 = .ok ())

theorem rollbackIfNeeded_ok_iff (host : Host σ) (c : ConnId) (v : σ) :
    (host.rollbackIfNeeded c v).1 = .ok () ↔
      ∃ committed w, host.call c .autoCommit v = (.ok committed, w) ∧
        (committed = false → (host.call c .rollback w).1 = .ok ()) := by
  unfold Host.rollbackIfNeeded
  cases hc : host.call c .autoCommit v with
  | mk o w =>
    cases o with
    | error f => simp [Action.bind_of_error hc]
    | ok committed =>
      rw [Action.bind_of_ok hc]
      cases committed <;> simp

theorem pinging_ok_iff (host : Host σ) (s : Site σ) (r : Record) (v : σ) :
    (s.pinging host r v).1 = .ok () ↔
      ∃ rows w committed x,
        host.call r.conn (.query s.pool.config.pingQuery []) v = (.ok rows, w) ∧
        host.call r.conn .autoCommit w = (.ok committed, x) ∧
        (committed = false → (host.call r.conn .rollback x).1 = .ok ()) := by
  unfold pinging
  cases hq : host.call r.conn (.query s.pool.config.pingQuery []) v with
  | mk o w =>
    cases o with
    | error f => simp [Action.bind_of_error hq]
    | ok rows =>
      rw [Action.bind_of_ok hq, rollbackIfNeeded_ok_iff]
      simp

theorem ping_iff_answers (host : Host σ) (s : Site σ) (r : Record) :
    (s.ping host r).1 = true ↔ s.Answers host r := by
  cases hc : (host.isClosed r.conn s.world).1 with
  | true =>
    rw [ping_of_closed hc]
    refine ⟨nofun, fun h => ?_⟩
    rw [h.isOpen] at hc
    cases hc
  | false =>
    cases hp : s.pool.config.pingEnabled with
    | false =>
      rw [ping_of_disabled hc hp]
      exact ⟨fun _ => ⟨hc, fun h => by rw [hp] at h; cases h⟩, fun _ => rfl⟩
    | true =>
      by_cases ht : s.isFresh host r
      · rw [ping_of_fresh hc hp ht]
        exact ⟨fun _ => ⟨hc, fun _ h => absurd ht h⟩, fun _ => rfl⟩
      · rw [ping_of_stale hc hp ht]
        have hping := pinging_ok_iff host s r ((s.asked host r).now host).2.world
        unfold run
        cases ho : s.pinging host r ((s.asked host r).now host).2.world with
        | mk o w =>
          rw [ho] at hping
          cases o with
          | ok a => exact ⟨fun _ => ⟨hc, fun _ _ => hping.mp rfl⟩, fun _ => rfl⟩
          | error f => exact ⟨nofun, fun h => absurd (hping.mpr (h.pinged hp ht)) (by simp)⟩

theorem validate_iff (host : Host σ) (s : Site σ) (r : Record) :
    (s.validate host r).1 = true ↔ s.pool.flags.isValid r.flag = true ∧ s.Answers host r := by
  cases hv : s.pool.flags.isValid r.flag with
  | true => simp [validate_of_valid hv, ping_iff_answers]
  | false => simp [validate_of_invalid hv]

end Site

namespace Trial

variable {σ : Type} (host : Host σ)

def misses (xs : List (Trial σ)) : Nat := xs.countP fun x => !x.passes host

theorem misses_append (xs ys : List (Trial σ)) :
    misses host (xs ++ ys) = misses host xs + misses host ys := List.countP_append

end Trial

namespace Site

variable {σ : Type} {host : Host σ} {s t : Site σ} {c : Checkout} {spare : Nat}
  {xs : List (Trial σ)} {r : Stretch × Site σ}

theorem Rejects.misses (h : s.Rejects host xs t) : Trial.misses host xs = xs.length :=
  List.countP_eq_length.mpr fun x hx => by simp [(h.leavesIntact.failed x hx).2]

theorem Rejects.looks (h : s.Rejects host xs t) : s.Misses host xs.length t := by
  induction h with
  | none s => exact .none s
  | more found invalid _ ih => exact .more (.bad _ _ _ found invalid) ih

namespace Course

theorem length_le (h : s.Course host spare c xs r) : xs.length ≤ spare + 1 := by
  cases h with
  | failed f few rejects found => exact Nat.le_succ_of_le few
  | waits few rejects found => exact Nat.le_succ_of_le few
  | granted q few rejects found valid =>
    rw [List.length_append, List.length_singleton]
    exact Nat.succ_le_succ few
  | exhausted many rejects => exact Nat.le_of_eq many

/-- The last candidate, which is good, is not among those that are counted. -/
theorem misses_of_granted {t u v : Site σ} {q : Record} (rejects : s.Rejects host xs t)
    (valid : u.validate host q = (true, v)) :
    Trial.misses host (xs ++ [⟨t, u, q⟩]) = xs.length := by
  have hpasses : Trial.passes host ⟨t, u, q⟩ = true := congrArg Prod.fst valid
  rw [Trial.misses_append, rejects.misses]
  simp [Trial.misses, hpasses]

theorem exhausted_of_misses (h : s.Course host spare c xs r)
    (hmisses : Trial.misses host xs = spare + 1) : r.1 = .done (.fail .poolExhausted) := by
  cases h with
  | failed f few rejects found =>
    rw [rejects.misses] at hmisses
    omega
  | waits few rejects found =>
    rw [rejects.misses] at hmisses
    omega
  | granted q few rejects found valid =>
    rw [misses_of_granted rejects valid] at hmisses
    omega
  | exhausted many rejects => rfl

theorem misses_of_exhausted (h : s.Course host spare c xs r)
    (hr : r.1 = .done (.fail .poolExhausted)) :
    Trial.misses host xs = spare + 1 ∨
      ∃ w, host.Later s.world w ∧ (s.pool.source.openDefault host w).1 = .fail .poolExhausted := by
  cases h with
  | failed f few rejects found =>
    obtain rfl := Except.error.inj (Stretch.done.inj hr)
    cases look_of_eq found with
    | refused _ w none_idle room fails =>
      refine .inr ⟨_, rejects.looks.before, ?_⟩
      rw [← rejects.looks.settings.source, fails]
      rfl
  | waits few rejects found => cases hr
  | granted q few rejects found valid => cases hr
  | exhausted many rejects => exact .inl (rejects.misses.trans many)

theorem last_of_granted (h : s.Course host spare c xs r) {g : Grant} (hr : r.1 = .done (.ok g)) :
    ∃ ys x, xs = ys ++ [x] ∧ x.IsFound host ∧ x.after.pool.flags.isValid x.record.flag = true ∧
      x.after.Answers host x.record ∧ g = ⟨x.record.conn, x.record.id, x.record.flag⟩ := by
  cases h with
  | failed f few rejects found => cases hr
  | waits few rejects found => cases hr
  | granted q few rejects found valid =>
    obtain rfl := Except.ok.inj (Stretch.done.inj hr)
    obtain ⟨hflag, hanswers⟩ := (validate_iff host _ q).mp (congrArg Prod.fst valid)
    exact ⟨_, _, rfl, found, hflag, hanswers, rfl⟩
  | exhausted many rejects => cases hr

theorem counts (h : s.Course host spare c xs r) : r.2.pool.tally.badConnections =
    s.pool.tally.badConnections + Trial.misses host xs := by
  cases h with
  | failed f few rejects found =>
    rw [rejects.misses, ← rejects.badConnections]
    exact congrArg (·.tally.badConnections) (look_of_eq found).error
  | @waits _ t u few rejects found =>
    obtain ⟨-, -, -, hpool⟩ := (look_of_eq found).mustWait
    have hwait (c : Checkout) : (u.wait host c).2.pool.tally.badConnections =
        u.pool.tally.badConnections := by
      unfold wait
      cases c.counted <;> rfl
    rw [rejects.misses, ← rejects.badConnections, hwait, hpool]
  | @granted ys t u v q few rejects found valid =>
    have hgrant (c : Checkout) : (v.grant host c q).2.pool.tally.badConnections =
        v.pool.tally.badConnections := rfl
    have hfound := (Trial.IsFound.takes (x := ⟨t, u, q⟩) found).badConnections
    rw [misses_of_granted rejects valid, ← rejects.badConnections, hgrant, pool_of_validate valid]
    exact hfound
  | exhausted many rejects => rw [rejects.misses, rejects.badConnections]

end Course

end Site

namespace Desk

variable {σ : Type} {host : Host σ} {d : Desk σ} {e : Event} {id limit : Nat}
  {xs : List (Trial σ)}

/-- The candidates that the checkout of that number tries while one event after the other
happens. -/
def triedBy (host : Host σ) (id : Nat) : Desk σ → List Event → List (Trial σ)
  | _, [] => []
  | d, e :: es =>
    (if d.runs? e = some id then d.trials host e else []) ++ triedBy host id (d.step host e) es

theorem triedBy_concat (host : Host σ) (id : Nat) (d : Desk σ) (es : List Event) (e : Event) :
    d.triedBy host id (es ++ [e]) = d.triedBy host id es ++
      if (d.run host es).runs? e = some id then (d.run host es).trials host e else [] := by
  induction es generalizing d with
  | nil => exact List.append_nil _
  | cons f es ih =>
    rw [List.cons_append, triedBy, triedBy, ih, List.append_assoc]
    rfl

/-- A stretch of a checkout that has tried some candidates before, within the limit in force. -/
structure Attempt (host : Host σ) (d : Desk σ) (e : Event) (limit : Nat) (xs : List (Trial σ))
    (r : Stretch × Site σ) : Prop where
  /-- It would not be running any more if one of them had been good. -/
  all_bad : Trial.misses host xs = xs.length
  few : (xs ++ d.trials host e).length ≤ limit + 1
  /-- The pool is looked at again and again, until a look ends the stretch. An interrupted checkout
  does not look. -/
  ends : (∃ s c t n, d.looking? host e = some (s, c) ∧ n ≤ limit ∧ s.Misses host n t ∧
    Site.Ending host { c with bad := c.bad + n } t r) ∨
    d.looking? host e = none ∧ r.1 = .done (.fail .poolUnknown)
  exhausted : Trial.misses host (xs ++ d.trials host e) = limit + 1 →
    r.1 = .done (.fail .poolExhausted)
  /-- The driver may happen to answer with the same error. -/
  only_exhausted : r.1 = .done (.fail .poolExhausted) →
    Trial.misses host (xs ++ d.trials host e) = limit + 1 ∨
      ∃ w, host.Later d.site.world w ∧
        (d.pool.source.openDefault host w).1 = .fail .poolExhausted
  /-- What is handed out is the candidate that was tried last, and it is good. -/
  granted : ∀ g, r.1 = .done (.ok g) → ∃ ys x, d.trials host e = ys ++ [x] ∧ x.IsFound host ∧
    x.after.pool.flags.isValid x.record.flag = true ∧ x.after.Answers host x.record ∧
    g = ⟨x.record.conn, x.record.id, x.record.flag⟩
  counted : r.2.pool.tally.badConnections =
    d.pool.tally.badConnections + Trial.misses host (d.trials host e)

structure GivesUp (host : Host σ) (d : Desk σ) (id limit : Nat) (es : List Event) : Prop where
  few : (d.triedBy host id es).length ≤ limit + 1
  stretches : ∀ fs e gs, es = fs ++ e :: gs → (d.run host fs).runs? e = some id →
    ∃ r, (d.run host fs).stretch? host e = some r ∧
      (d.run host fs).Attempt host e limit (d.triedBy host id fs) r

structure Trying (host : Host σ) (d : Desk σ) (id limit : Nat) (xs : List (Trial σ)) : Prop where
  numbered : d.Numbered
  /-- Nothing is tried before it begins. -/
  fresh : d.begun ≤ id → xs = []
  few : xs.length ≤ limit + 1
  /-- While it waits it remembers how many there were. -/
  waits : ∀ w, d.Waits id w →
    w.checkout.bad = xs.length ∧ xs.length ≤ limit ∧ Trial.misses host xs = xs.length

theorem stretch_of_runs (host : Host σ) (h : d.runs? e = some id) :
    ∃ r, d.stretch? host e = some r := by
  cases e with
  | checkout credentials =>
    rw [runs?] at h
    split at h
    · rename_i hheld
      exact ⟨_, stretch_of_held host hheld credentials⟩
    · cases h
  | resume k =>
    obtain ⟨v, hv, -⟩ := Option.map_eq_some_iff.mp h
    exact ⟨_, stretch_of_waiter host hv⟩
  | _ => cases h

/-- The number of a checkout is given to no other one. -/
theorem begun_le_step (host : Host σ) (d : Desk σ) (e : Event) :
    d.begun ≤ (d.step host e).begun := by
  have heffect := d.step_effect host e
  generalize d.step host e = d' at heffect
  cases heffect with
  | begun credentials held =>
    rw [(afterStretch_waiters _ _ _).1]
    exact Nat.le_succ _
  | resumed k v waiter =>
    rw [(closeUnused_waiters host _).2, (afterStretch_waiters _ _ _).1]
  | returned i l lease out isOpen =>
    rw [(giveBack_waiters host _ l).1]
    exact Nat.le_refl _
  | orphaned i l lease out gone =>
    rw [(closeOrphan_waiters host _ l).1]
    exact Nat.le_refl _
  | letGo held => rw [(closeUnused_waiters host _).2]
  | _ => exact Nat.le_refl _

theorem lt_begun_of_runs (host : Host σ) (hn : d.Numbered) (h : d.runs? e = some id) :
    id < (d.step host e).begun := by
  cases e with
  | checkout credentials =>
    rw [runs?] at h
    split at h
    · rename_i hheld
      obtain rfl := Option.some.inj h
      have hstep : d.step host (.checkout credentials) = (d.checkout host credentials).2 := by
        simp [step, hheld]
      rw [hstep, checkout, (afterStretch_waiters _ _ _).1]
      exact Nat.lt_succ_self _
    · cases h
  | resume k =>
    obtain ⟨v, hv, rfl⟩ := Option.map_eq_some_iff.mp h
    exact Nat.lt_of_lt_of_le (hn.begun v (List.mem_of_find?_eq_some hv)) (d.begun_le_step host _)
  | _ => cases h

/-- A checkout that waits runs in no other event than the end of its wait. -/
theorem Waits.resumes {w : Waiting} (h : d.Waits id w) (hn : d.Numbered)
    (hruns : d.runs? e = some id) : e = .resume id := by
  cases e with
  | checkout credentials =>
    rw [runs?] at hruns
    split at hruns
    · obtain rfl := Option.some.inj hruns
      obtain ⟨v, hv, hid, -⟩ := h
      exact absurd (hid ▸ hn.begun v hv) (Nat.lt_irrefl _)
    · cases hruns
  | resume k =>
    obtain ⟨v, hv, rfl⟩ := Option.map_eq_some_iff.mp hruns
    have hk : v.id = k := by simpa using List.find?_some hv
    rw [hk]
  | _ => cases hruns

namespace Trying

/-- What a checkout knows of the candidates when it looks at the pool. -/
theorem of_runs (h : d.Trying host id limit xs) (hruns : d.runs? e = some id) :
    (∀ s c, d.looking? host e = some (s, c) → c.bad = xs.length) ∧ xs.length ≤ limit ∧
      Trial.misses host xs = xs.length := by
  cases e with
  | checkout credentials =>
    rw [runs?] at hruns
    split at hruns
    · rename_i hheld
      obtain rfl := h.fresh (Nat.le_of_eq (Option.some.inj hruns))
      refine ⟨fun s c hc => ?_, Nat.zero_le _, rfl⟩
      rw [looking?, if_pos hheld] at hc
      cases hc
      rfl
    · cases hruns
  | resume k =>
    obtain ⟨v, hv, hid⟩ := Option.map_eq_some_iff.mp hruns
    obtain ⟨hbad, hle, hmisses⟩ := h.waits v.waiting ⟨v, List.mem_of_find?_eq_some hv, hid, rfl⟩
    refine ⟨fun s c hc => ?_, hle, hmisses⟩
    rw [looking?, hv, Option.bind_some] at hc
    split at hc
    · cases hc
      exact hbad
    · cases hc
  | _ => cases hruns

/-- A stretch that looks at the pool is a course. -/
theorem attempt (h : d.Trying host id limit xs) (hruns : d.runs? e = some id)
    (hlimit : d.pool.config.badConnectionLimit = limit) {r : Stretch × Site σ}
    (hr : d.stretch? host e = some r) : d.Attempt host e limit xs r := by
  obtain ⟨hbad, hle, hmisses⟩ := h.of_runs hruns
  obtain ⟨s, hworld, hs, htally, ⟨c, hlooking, hproceed, hcourse⟩ | ⟨hnone, rfl⟩⟩ :=
    stretch_course hr
  · obtain rfl : limit = s.pool.config.badConnectionLimit := by rw [← hlimit, hs.config]
    have hspare : xs.length + (s.pool.config.badConnectionLimit - c.bad) =
        s.pool.config.badConnectionLimit := by
      rw [hbad s c hlooking]
      omega
    have hlater : host.Later d.site.world s.world := hworld ▸ d.site.before_now host
    have hends := Site.acquire_ends host (s.pool.config.badConnectionLimit - c.bad) c s
    rw [← hspare]
    refine ⟨hmisses, ?_, ?_, fun hall => ?_, fun hfails => ?_, fun g => hcourse.last_of_granted, ?_⟩
    · rw [List.length_append, Nat.add_assoc]
      exact Nat.add_le_add_left hcourse.length_le _
    · obtain ⟨n, t, hn, hlooks, hend⟩ := hends
      exact .inl ⟨s, c, t, n, hlooking, Nat.le_trans hn (Nat.le_add_left _ _), hlooks,
        hproceed ▸ hend⟩
    · rw [Trial.misses_append, hmisses, Nat.add_assoc] at hall
      exact hcourse.exhausted_of_misses (Nat.add_left_cancel hall)
    · rw [Trial.misses_append, hmisses, Nat.add_assoc]
      refine (hcourse.misses_of_exhausted hfails).imp (congrArg (xs.length + ·)) ?_
      rintro ⟨w, hw, hopen⟩
      exact ⟨w, Relation.ReflTransGen.trans hlater hw, hs.source ▸ hopen⟩
    · rw [hcourse.counts, htally]
  · have hempty : d.trials host e = [] := by rw [trials, hnone]; rfl
    have hsame : xs ++ d.trials host e = xs := by rw [hempty, List.append_nil]
    refine ⟨hmisses, ?_, .inr ⟨hnone, rfl⟩, fun hall => ?_, fun hfails => ?_, fun g hg => ?_, ?_⟩
    · rw [hsame]
      exact Nat.le_succ_of_le hle
    · rw [hsame] at hall
      omega
    · cases hfails
    · cases hg
    · rw [hempty, htally]
      rfl

/-- A checkout that waits after a stretch has met only bad candidates in it. -/
theorem of_waits (h : d.Trying host id limit xs) (hruns : d.runs? e = some id)
    (hlimit : d.pool.config.badConnectionLimit = limit) {w : Waiting} {t : Site σ}
    (hr : d.stretch? host e = some (.waits w, t)) :
    w.checkout.bad = (xs ++ d.trials host e).length ∧ (xs ++ d.trials host e).length ≤ limit ∧
      Trial.misses host (xs ++ d.trials host e) = (xs ++ d.trials host e).length := by
  obtain ⟨hbad, hle, hmisses⟩ := h.of_runs hruns
  obtain ⟨s, -, hs, -, ⟨c, hlooking, -, hcourse⟩ | ⟨-, hfails⟩⟩ := stretch_course hr
  · have hlimit' : s.pool.config.badConnectionLimit = limit := by rw [← hlimit, hs.config]
    rw [hlimit', hbad s c hlooking] at hcourse
    generalize d.trials host e = ys at hcourse
    generalize hw : ((.waits w, t) : Stretch × Site σ) = r at hcourse
    cases hcourse with
    | waits few rejects found =>
      obtain rfl := Stretch.waits.inj (congrArg Prod.fst hw)
      rw [Trial.misses_append, hmisses, rejects.misses, List.length_append]
      refine ⟨?_, by omega, rfl⟩
      rw [← hbad s c hlooking]
      unfold Site.wait
      rfl
    | _ => cases congrArg Prod.fst hw
  · cases congrArg Prod.fst hfails

/-- A stretch of the checkout adds to its candidates. -/
theorem step (h : d.Trying host id limit xs) (e : Event)
    (hlimit : d.runs? e = some id → d.pool.config.badConnectionLimit = limit) :
    (d.step host e).Trying host id limit
      (xs ++ if d.runs? e = some id then d.trials host e else []) := by
  have hnumbered := h.numbered.step host e
  by_cases hruns : d.runs? e = some id
  · rw [if_pos hruns]
    obtain ⟨r, hr⟩ := stretch_of_runs host hruns
    have hbegun := lt_begun_of_runs host h.numbered hruns
    refine ⟨hnumbered, fun hlate => absurd hlate (Nat.not_le_of_lt hbegun),
      (h.attempt hruns (hlimit hruns) hr).few, fun w hw => ?_⟩
    rcases waits_cases h.numbered hw with ⟨hbefore, hne⟩ | ⟨-, t, hwaits, -⟩
    · exact absurd (hbefore.resumes h.numbered hruns) hne
    · exact h.of_waits hruns (hlimit hruns) hwaits
  · rw [if_neg hruns, List.append_nil]
    refine ⟨hnumbered, fun hlate => h.fresh (Nat.le_trans (d.begun_le_step host e) hlate), h.few,
      fun w hw => ?_⟩
    rcases waits_cases h.numbered hw with ⟨hbefore, -⟩ | ⟨hruns', -⟩
    · exact h.waits w hbefore
    · exact absurd hruns' hruns

theorem start (host : Host σ) (hn : d.Numbered) (hid : d.begun ≤ id) (limit : Nat) :
    d.Trying host id limit [] where
  numbered := hn
  fresh _ := rfl
  few := Nat.zero_le _
  waits w hw := by
    obtain ⟨v, hv, hv', -⟩ := hw
    exact absurd (hv' ▸ hn.begun v hv) (Nat.not_lt_of_le hid)

theorem run {es : List Event} (h : d.Trying host id limit [])
    (hlimit : ∀ fs e gs, es = fs ++ e :: gs → (d.run host fs).runs? e = some id →
      (d.run host fs).pool.config.badConnectionLimit = limit) :
    (d.run host es).Trying host id limit (d.triedBy host id es) := by
  induction es using List.reverseRecOn with
  | nil => exact h
  | append_singleton es e ih =>
    rw [run_concat, triedBy_concat]
    refine (ih fun fs f gs hes => ?_).step e (hlimit es e [] rfl)
    exact hlimit fs f (gs ++ [e]) (by rw [hes, List.append_assoc, List.cons_append])

end Trying

/-- Whatever the pool is like when a checkout begins, and whatever happens to it until then: it
tries no more candidates than one beyond the limit, and fails once it has. -/
theorem run_givesUp (host : Host σ) (d : Desk σ) (id limit : Nat) (es : List Event)
    (hn : d.Numbered) (hid : d.begun ≤ id)
    (hlimit : ∀ fs e gs, es = fs ++ e :: gs → (d.run host fs).runs? e = some id →
      (d.run host fs).pool.config.badConnectionLimit = limit) :
    d.GivesUp host id limit es := by
  have hstart := Trying.start host hn hid limit
  refine ⟨(hstart.run hlimit).few, fun fs e gs hes hruns => ?_⟩
  obtain ⟨r, hr⟩ := stretch_of_runs host hruns
  have htrying : (d.run host fs).Trying host id limit (d.triedBy host id fs) :=
    hstart.run fun fs' f gs' hfs =>
      hlimit fs' f (gs' ++ e :: gs) (by rw [hes, hfs, List.append_assoc, List.cons_append])
  exact ⟨r, hr, htrying.attempt hruns (hlimit fs e gs hes hruns) hr⟩

/-- Every connection that is opened is closed. -/
theorem givesUp_on_closed :
    let d := start { driver := "mock", url := "mock:db" } { maxIdle := 0, tolerance := 1 }
      { script := { always := [.closed] } }
    d.GivesUp World.host 0 1 [.checkout none] ∧
      (d.triedBy World.host 0 [.checkout none]).length = 2 ∧
      (d.checkout World.host none).1 = some (.fail .poolExhausted) := by
  intro d
  refine ⟨run_givesUp World.host d 0 1 _ (start_numbered _ _ _) (Nat.le_refl 0) ?_, by decide,
    by decide⟩
  intro fs e gs hes _
  cases fs with
  | nil => decide
  | cons f fs => simp at hes

end Desk
end ConnPool
