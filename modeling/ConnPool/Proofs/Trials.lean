import ConnPool.Proofs.Stretches
import ConnPool.World
import Mathlib.Data.List.Infix

namespace ConnPool

def Tally.AlikeButWait (t u : Tally) : Prop := u = { t with waitTime := u.waitTime }

structure Trial (σ : Type) where
  /-- The pool that was looked at. -/
  before : Site σ
  /-- The pool once the candidate was taken out. -/
  after : Site σ
  record : Record

namespace Trial

variable {σ : Type} (host : Host σ) (x : Trial σ)

def IsFound : Prop := x.before.nextCandidate host = (.ok (.ready x.record), x.after)

def passes : Bool := (x.after.validate host x.record).1

def idle? : Option Record := x.before.pool.idle.head?

def claimed? : Option Record :=
  if x.before.pool.idle = [] ∧
      x.before.pool.config.maxActive.toNat ≤ x.before.pool.active.length then
    x.before.pool.active.head?
  else none

/-- All that a look does to a pool where it finds a candidate. -/
structure Takes : Prop where
  settings : x.before.pool.SameSettings x.after.pool
  idle : x.before.pool.idle = x.idle?.toList ++ x.after.pool.idle
  active : x.before.pool.active = x.claimed?.toList ++ x.after.pool.active
  flags : ∀ flag, x.after.pool.flags.isValid flag =
    (x.before.pool.flags.isValid flag && x.claimed?.all (flag != ·.flag))
  requestCount : x.after.pool.tally.requestCount = x.before.pool.tally.requestCount
  requestTime : x.after.pool.tally.requestTime = x.before.pool.tally.requestTime
  badConnections : x.after.pool.tally.badConnections = x.before.pool.tally.badConnections
  of_idle : ∀ r, x.idle? = some r → x.record = r
  of_claimed : ∀ q, x.claimed? = some q →
    x.before.Claims host q ∧ ∃ flag now, x.record = q.renew flag now

variable {host} {x}

theorem claimed?_of_idle {r : Record} {rest : List Record} (h : x.before.pool.idle = r :: rest) :
    x.claimed? = none := if_neg fun hfull => by simp [h] at hfull

theorem claimed?_of_room
    (h : x.before.pool.active.length < x.before.pool.config.maxActive.toNat) :
    x.claimed? = none := if_neg fun hfull => Nat.not_le_of_lt h hfull.2

theorem IsFound.takes (h : x.IsFound host) : x.Takes host := by
  obtain ⟨s, t, r⟩ := x
  have hlook : s.Look host (.ok (.ready r), t) := Site.look_of_eq h
  cases hlook with
  | idle _ rest front =>
    have hidle : idle? ⟨s, s.modify fun p => { p with idle := rest }, r⟩ = some r := by
      rw [idle?, front, List.head?_cons]
    have hclaimed : claimed? ⟨s, s.modify fun p => { p with idle := rest }, r⟩ = none :=
      claimed?_of_idle front
    refine ⟨⟨rfl, rfl, rfl, rfl⟩, ?_, ?_, fun flag => ?_, rfl, rfl, rfl, fun q hq => ?_, ?_⟩
    · rw [hidle]
      exact front
    · rw [hclaimed]
      rfl
    · rw [hclaimed]
      exact (Bool.and_true _).symm
    · exact Option.some.inj (hidle.symm.trans hq)
    · rw [hclaimed]
      nofun
  | opened c w none_idle room opens =>
    refine ⟨⟨rfl, rfl, rfl, rfl⟩, ?_, ?_, fun flag => ?_, rfl, rfl, rfl, ?_, ?_⟩
    · rw [idle?, none_idle]
      exact none_idle.symm
    · rw [claimed?_of_room room]
      rfl
    · rw [claimed?_of_room room]
      exact (Bool.and_true _).symm
    · rw [idle?, none_idle]
      nofun
    · rw [claimed?_of_room room]
      nofun
  | claimed oldest rest none_idle full front overdue =>
    let taken := (s.now host).2.claim host oldest rest
    have hclaimed : claimed? ⟨s, taken.2, taken.1⟩ = some oldest := by
      rw [claimed?, if_pos ⟨none_idle, full⟩, front, List.head?_cons]
    have hflags (flag : FlagId) : taken.2.pool.flags.isValid flag =
        (flag != oldest.flag && s.pool.flags.isValid flag) :=
      Flags.isValid_revoke _ oldest.flag flag
    refine ⟨⟨rfl, rfl, rfl, rfl⟩, ?_, ?_, fun flag => ?_, rfl, rfl, rfl, ?_, fun q hq => ?_⟩
    · rw [idle?, none_idle]
      exact none_idle.symm
    · rw [hclaimed]
      exact front
    · rw [hclaimed, hflags, Bool.and_comm]
      rfl
    · rw [idle?, none_idle]
      nofun
    · obtain rfl := Option.some.inj (hclaimed.symm.trans hq)
      exact ⟨⟨none_idle, full, by rw [front, List.head?_cons], overdue⟩, _, _, rfl⟩

end Trial

namespace Site

variable {σ : Type} {host : Host σ} {s t : Site σ} {xs : List (Trial σ)}

/-- The candidates that are tried until a good one is found, there is none, or more than `spare`
have been bad. -/
def trials (host : Host σ) : Nat → Site σ → List (Trial σ)
  | spare, s =>
    match s.nextCandidate host with
    | (.ok (.ready r), t) =>
      ⟨s, t, r⟩ ::
        match t.validate host r with
        | (true, _) => []
        | (false, u) =>
          match spare with
          | 0 => []
          | spare + 1 => trials host spare u.countBad
    | _ => []

inductive Rejects (host : Host σ) : Site σ → List (Trial σ) → Site σ → Prop where
  | none (s : Site σ) : Rejects host s [] s
  | more {s t u v : Site σ} {r : Record} {xs : List (Trial σ)}
      (found : s.nextCandidate host = (.ok (.ready r), t))
      (invalid : t.validate host r = (false, u)) (rest : Rejects host u.countBad xs v) :
      Rejects host s (⟨s, t, r⟩ :: xs) v

/-- How a checkout goes that has met some bad candidates before: what it tries, and what comes of
it. -/
inductive Course (host : Host σ) (spare : Nat) (c : Checkout) (s : Site σ) :
    List (Trial σ) → Stretch × Site σ → Prop where
  | failed {xs : List (Trial σ)} {t u : Site σ} (f : Failure) (few : xs.length ≤ spare)
      (rejects : s.Rejects host xs t) (found : t.nextCandidate host = (.error f, u)) :
      Course host spare c s xs (.done (.error f), u)
  | waits {xs : List (Trial σ)} {t u : Site σ} (few : xs.length ≤ spare)
      (rejects : s.Rejects host xs t) (found : t.nextCandidate host = (.ok .mustWait, u)) :
      Course host spare c s xs
        (.waits (u.wait host { c with bad := c.bad + xs.length }).1,
          (u.wait host { c with bad := c.bad + xs.length }).2)
  | granted {xs : List (Trial σ)} {t u v : Site σ} (r : Record) (few : xs.length ≤ spare)
      (rejects : s.Rejects host xs t) (found : t.nextCandidate host = (.ok (.ready r), u))
      (valid : u.validate host r = (true, v)) :
      Course host spare c s (xs ++ [⟨t, u, r⟩])
        (.done (.ok (v.grant host { c with bad := c.bad + xs.length } r).1),
          (v.grant host { c with bad := c.bad + xs.length } r).2)
  | exhausted {xs : List (Trial σ)} {t : Site σ} (many : xs.length = spare + 1)
      (rejects : s.Rejects host xs t) : Course host spare c s xs (.done (.fail .poolExhausted), t)

/-- One more bad candidate comes before. -/
theorem Course.more {u : Site σ} {q : Record} {spare : Nat} {c : Checkout}
    {r : Stretch × Site σ} (found : s.nextCandidate host = (.ok (.ready q), t))
    (invalid : t.validate host q = (false, u))
    (h : u.countBad.Course host spare { c with bad := c.bad + 1 } xs r) :
    s.Course host (spare + 1) c (⟨s, t, q⟩ :: xs) r := by
  have hbad (n : Nat) : c.bad + 1 + n = c.bad + (n + 1) := by omega
  cases h with
  | failed f few rejects found' =>
    exact .failed f (Nat.succ_le_succ few) (.more found invalid rejects) found'
  | waits few rejects found' =>
    simp only [hbad]
    exact .waits (Nat.succ_le_succ few) (.more found invalid rejects) found'
  | granted r few rejects found' valid =>
    simp only [hbad]
    exact .granted r (Nat.succ_le_succ few) (.more found invalid rejects) found' valid
  | exhausted many rejects =>
    exact .exhausted (congrArg (· + 1) many) (.more found invalid rejects)

theorem acquire_course (host : Host σ) (spare : Nat) (c : Checkout) (s : Site σ) :
    s.Course host spare c (s.trials host spare) (acquire host spare c s) := by
  cases hn : s.nextCandidate host with
  | mk o t =>
    match o with
    | .error f =>
      rw [acquire_of_error spare c hn, trials, hn]
      exact .failed f (Nat.zero_le _) (.none s) hn
    | .ok .mustWait =>
      rw [acquire_of_wait spare c hn, trials, hn]
      exact .waits (Nat.zero_le _) (.none s) hn
    | .ok (.ready r) =>
      cases hv : t.validate host r with
      | mk b u =>
        cases b with
        | true =>
          rw [acquire_of_good spare c hn hv, trials, hn]
          simp only [hv]
          exact .granted r (Nat.zero_le _) (.none s) hn hv
        | false =>
          rw [acquire_of_bad spare c hn hv, trials, hn]
          simp only [hv]
          cases spare with
          | zero => exact .exhausted rfl (.more hn hv (.none _))
          | succ spare => exact .more hn hv (acquire_course host spare _ u.countBad)

/-- What is left of a pool once candidates were tried and failed: nothing has joined its lists, and
what has left them, in front, are these candidates. -/
structure LeavesIntact (host : Host σ) (s t : Site σ) (xs : List (Trial σ)) : Prop where
  requestCount : t.pool.tally.requestCount = s.pool.tally.requestCount
  requestTime : t.pool.tally.requestTime = s.pool.tally.requestTime
  idle : s.pool.idle = xs.filterMap Trial.idle? ++ t.pool.idle
  active : s.pool.active = xs.filterMap Trial.claimed? ++ t.pool.active
  /-- Only those whom a connection was taken from cannot use it any more. -/
  flags : ∀ flag, t.pool.flags.isValid flag =
    (s.pool.flags.isValid flag && (xs.filterMap Trial.claimed?).all (flag != ·.flag))
  failed : ∀ x ∈ xs, x.IsFound host ∧ x.passes host = false
  of_idle : ∀ x ∈ xs, ∀ r, x.idle? = some r → x.record = r
  /-- They had held it for too long. -/
  of_claimed : ∀ x ∈ xs, ∀ q, x.claimed? = some q →
    x.before.Claims host q ∧ ∃ flag now, x.record = q.renew flag now

namespace LeavesIntact

theorem same {u : Site σ} (h : s.LeavesIntact host t xs) (hu : u.pool = t.pool) :
    s.LeavesIntact host u xs where
  requestCount := hu ▸ h.requestCount
  requestTime := hu ▸ h.requestTime
  idle := hu ▸ h.idle
  active := hu ▸ h.active
  flags := hu ▸ h.flags
  failed := h.failed
  of_idle := h.of_idle
  of_claimed := h.of_claimed

theorem refl (host : Host σ) (s : Site σ) : s.LeavesIntact host s [] where
  requestCount := rfl
  requestTime := rfl
  idle := rfl
  active := rfl
  flags _ := (Bool.and_true _).symm
  failed _ hx := absurd hx List.not_mem_nil
  of_idle _ hx := absurd hx List.not_mem_nil
  of_claimed _ hx := absurd hx List.not_mem_nil

/-- What was looked at may have read the clock and counted a wait before. -/
theorem from_alike {p : Site σ} (h : s.LeavesIntact host t xs) (hp : p.pool.Alike s.pool)
    (htally : p.pool.tally.AlikeButWait s.pool.tally) :
    p.LeavesIntact host t xs where
  requestCount := by rw [h.requestCount, htally]
  requestTime := by rw [h.requestTime, htally]
  idle := hp.idle ▸ h.idle
  active := hp.active ▸ h.active
  flags := hp.flags ▸ h.flags
  failed := h.failed
  of_idle := h.of_idle
  of_claimed := h.of_claimed

/-- One more bad candidate comes before. -/
theorem more {u v : Site σ} {r : Record} (found : s.nextCandidate host = (.ok (.ready r), t))
    (invalid : t.validate host r = (false, u)) (h : u.countBad.LeavesIntact host v xs) :
    s.LeavesIntact host v (⟨s, t, r⟩ :: xs) := by
  have hx : Trial.Takes host ⟨s, t, r⟩ := Trial.IsFound.takes found
  have hpool : u.pool = t.pool := pool_of_validate invalid
  refine ⟨?_, ?_, ?_, ?_, fun flag => ?_, ?_, ?_, ?_⟩
  · have hrest : v.pool.tally.requestCount = u.pool.tally.requestCount := h.requestCount
    rw [hrest, hpool]
    exact hx.requestCount
  · have hrest : v.pool.tally.requestTime = u.pool.tally.requestTime := h.requestTime
    rw [hrest, hpool]
    exact hx.requestTime
  · have hrest : u.pool.idle = xs.filterMap Trial.idle? ++ v.pool.idle := h.idle
    rw [hx.idle, ← hpool, hrest, List.filterMap_cons]
    cases Trial.idle? ⟨s, t, r⟩ <;> rfl
  · have hrest : u.pool.active = xs.filterMap Trial.claimed? ++ v.pool.active := h.active
    rw [hx.active, ← hpool, hrest, List.filterMap_cons]
    cases Trial.claimed? ⟨s, t, r⟩ <;> rfl
  · have hrest : v.pool.flags.isValid flag =
        (u.pool.flags.isValid flag && (xs.filterMap Trial.claimed?).all (flag != ·.flag)) :=
      h.flags flag
    rw [hrest, hpool, hx.flags, List.filterMap_cons, Bool.and_assoc]
    cases Trial.claimed? ⟨s, t, r⟩ <;> rfl
  · exact List.forall_mem_cons.mpr ⟨⟨found, congrArg Prod.fst invalid⟩, h.failed⟩
  · exact List.forall_mem_cons.mpr ⟨hx.of_idle, h.of_idle⟩
  · exact List.forall_mem_cons.mpr ⟨hx.of_claimed, h.of_claimed⟩

end LeavesIntact

theorem Rejects.leavesIntact (h : s.Rejects host xs t) : s.LeavesIntact host t xs := by
  induction h with
  | none s => exact .refl host s
  | more found invalid _ ih => exact ih.more found invalid

theorem Rejects.badConnections (h : s.Rejects host xs t) :
    t.pool.tally.badConnections = s.pool.tally.badConnections + xs.length := by
  induction h with
  | none s => rfl
  | @more s t u v r xs found invalid _ ih =>
    have hx : Trial.Takes host ⟨s, t, r⟩ := Trial.IsFound.takes found
    have hcount : u.pool.tally.badConnections = s.pool.tally.badConnections := by
      rw [pool_of_validate invalid]
      exact hx.badConnections
    have hone : u.countBad.pool.tally.badConnections = u.pool.tally.badConnections + 1 := rfl
    rw [ih, hone, hcount, List.length_cons]
    omega

/-- A stretch that fails has found only bad candidates. -/
theorem Course.leavesIntact {spare : Nat} {c : Checkout} {f : Failure}
    (h : s.Course host spare c xs (.done (.error f), t)) : s.LeavesIntact host t xs := by
  generalize hr : ((.done (.error f), t) : Stretch × Site σ) = r at h
  cases h with
  | failed g few rejects found =>
    obtain ⟨-, rfl⟩ := Prod.mk.inj hr
    exact rejects.leavesIntact.same (look_of_eq found).error
  | exhausted many rejects =>
    obtain ⟨-, rfl⟩ := Prod.mk.inj hr
    exact rejects.leavesIntact
  | waits few rejects found => cases congrArg Prod.fst hr
  | granted r few rejects found valid => cases congrArg Prod.fst hr

end Site

namespace Desk

variable {σ : Type} {host : Host σ} {d : Desk σ} {e : Event}

/-- The checkout that looks at the pool in an event, and what it looks at. A checkout that was
interrupted looks no more. -/
def looking? (host : Host σ) (d : Desk σ) : Event → Option (Site σ × Checkout)
  | .checkout credentials =>
    if d.isHeld then
      some ((d.site.now host).2, { credentials, started := (d.site.now host).1 })
    else none
  | .resume id => (d.waiters.find? (·.id == id)).bind fun v =>
    if d.pool.generation = v.waiting.generation then
      some (d.site.waited host v.waiting, v.waiting.checkout)
    else none
  | _ => none

def trials (host : Host σ) (d : Desk σ) (e : Event) : List (Trial σ) :=
  (d.looking? host e).elim [] fun (s, c) =>
    s.trials host (s.pool.config.badConnectionLimit - c.bad)

/-- A stretch either looks at the pool or has been interrupted. -/
theorem stretch_course {r : Stretch × Site σ} (h : d.stretch? host e = some r) :
    ∃ s : Site σ, s.world = (d.site.now host).2.world ∧ d.pool.Alike s.pool ∧
      d.pool.tally.AlikeButWait s.pool.tally ∧
      ((∃ c, d.looking? host e = some (s, c) ∧ r = s.proceed host c ∧
          s.Course host (s.pool.config.badConnectionLimit - c.bad) c (d.trials host e) r) ∨
        d.looking? host e = none ∧ r = (.done (.fail .poolUnknown), s)) := by
  cases e with
  | checkout credentials =>
    simp only [stretch?] at h
    split at h
    · rename_i hheld
      obtain rfl := Option.some.inj h
      have hlooking : d.looking? host (.checkout credentials) =
          some ((d.site.now host).2, { credentials, started := (d.site.now host).1 }) :=
        if_pos hheld
      refine ⟨(d.site.now host).2, rfl, ⟨.refl _, rfl, rfl, rfl⟩, rfl,
        .inl ⟨_, hlooking, rfl, ?_⟩⟩
      rw [trials, hlooking]
      exact Site.acquire_course host _ _ _
    · cases h
  | resume id =>
    obtain ⟨v, hv, rfl⟩ := Option.map_eq_some_iff.mp h
    refine ⟨d.site.waited host v.waiting, rfl, ⟨⟨rfl, rfl, rfl, rfl⟩, rfl, rfl, rfl⟩, rfl, ?_⟩
    by_cases hg : d.site.pool.generation = v.waiting.generation
    · have hlooking : d.looking? host (.resume id) =
          some (d.site.waited host v.waiting, v.waiting.checkout) := by
        rw [looking?, hv]
        exact if_pos hg
      have hr : d.site.resume host v.waiting =
          (d.site.waited host v.waiting).proceed host v.waiting.checkout := Site.resume_of_same hg
      refine .inl ⟨v.waiting.checkout, hlooking, hr, ?_⟩
      rw [trials, hlooking, hr]
      exact Site.acquire_course host _ _ _
    · have hlooking : d.looking? host (.resume id) = none := by
        rw [looking?, hv]
        exact if_neg hg
      exact .inr ⟨hlooking, Site.resume_of_other hg⟩
  | _ => cases h

/-- A stretch of a checkout that fails, however it does and whatever drivers and connections answer,
leaves the pool intact. -/
theorem stretch_failed_leavesIntact (host : Host σ) (d : Desk σ) (e : Event) (f : Failure)
    (t : Site σ) (h : d.stretch? host e = some (.done (.error f), t)) :
    d.site.LeavesIntact host t (d.trials host e) := by
  obtain ⟨s, -, hs, htally, ⟨c, -, -, hcourse⟩ | ⟨hnone, hr⟩⟩ := stretch_course h
  · exact hcourse.leavesIntact.from_alike hs htally
  · obtain ⟨-, rfl⟩ := Prod.mk.inj hr
    rw [trials, hnone]
    exact (Site.LeavesIntact.refl host t).from_alike hs htally

theorem afterStretch_fails {id : Nat} {r : Stretch × Site σ} {f : Failure}
    (h : (afterStretch d id r).1 = some (.error f)) : r.1 = .done (.error f) := by
  obtain ⟨(g | g) | w, s⟩ := r
  · cases h
    rfl
  · cases h
  · cases h

/-- A connection that was held for too long turns out to be closed, and no other can be opened. -/
theorem leavesIntact_after_claim :
    let pool : Pool := .ofSource { driver := "mock", url := "mock:db" }
      { maxActive := 1, maxCheckoutTime := 0 }
    let world : World := { script := { next := [[], [.refuse]] } }
    let d := (ofPool pool world).step World.host (.checkout none)
    let closed (c : Scripted) : Scripted := { c with isClosed := true }
    let d := d.withWorld (d.site.world.modifyScripted 0 closed)
    ∃ f t, d.stretch? World.host (.checkout none) = some (.done (.error f), t) ∧
      d.site.LeavesIntact World.host t (d.trials World.host (.checkout none)) ∧
      ((d.trials World.host (.checkout none)).filterMap Trial.claimed?).length = 1 := by
  intro pool world e closed d
  have hout : (d.checkout World.host none).1 =
      some (.fail (.connection "connection refused: mock:db")) := by decide
  have hruns : d.stretch? World.host (.checkout none) =
      some (.done (.fail (.connection "connection refused: mock:db")),
        (d.site.begin World.host none).2) := by
    rw [stretch_of_held World.host (by decide)]
    exact congrArg some (Prod.ext (afterStretch_fails hout) rfl)
  exact ⟨_, _, hruns, stretch_failed_leavesIntact World.host d _ _ _ hruns, by decide⟩

end Desk
end ConnPool
