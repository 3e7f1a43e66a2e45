import ConnPool.Pool.Release

namespace ConnPool.Site

variable {σ : Type} {host : Host σ} {s s' s'' : Site σ} {r : Record}

theorem nextCandidate_of_idle {rest : List Record} (hi : s.pool.idle = r :: rest) :
    s.nextCandidate host = (.ok (.ready r), s.modify fun p => { p with idle := rest }) := by
  simp only [nextCandidate, hi]

theorem nextCandidate_of_room (hi : s.pool.idle = [])
    (ha : s.pool.active.length < s.pool.config.maxActive.toNat) :
    s.nextCandidate host = ((s.create host).1.map .ready, (s.create host).2) := by
  simp only [nextCandidate, hi, ha, if_true]

theorem nextCandidate_of_empty (hi : s.pool.idle = []) (ha : s.pool.active = [])
    (hm : ¬ 0 < s.pool.config.maxActive.toNat) : s.nextCandidate host = (.ok .mustWait, s) := by
  simp only [nextCandidate, hi, ha, List.length_nil, hm, if_false]

theorem nextCandidate_of_full {oldest : Record} {rest : List Record} (hi : s.pool.idle = [])
    (ha : s.pool.active = oldest :: rest)
    (hm : ¬ (oldest :: rest).length < s.pool.config.maxActive.toNat) :
    s.nextCandidate host =
      if (s.now host).1 - oldest.checkoutAt >
          s.pool.config.maxCheckoutTime.toNat * nanosPerMilli then
        (.ok (.ready ((s.now host).2.claim host oldest rest).1),
          ((s.now host).2.claim host oldest rest).2)
      else (.ok .mustWait, (s.now host).2) := by
  simp only [nextCandidate, hi, ha, hm, if_false]

def asked (host : Host σ) (s : Site σ) (r : Record) : Site σ :=
  { s with world := (host.isClosed r.conn s.world).2 }

def pinging (host : Host σ) (s : Site σ) (r : Record) : Action σ Unit := do
  let _ ← host.call r.conn (.query s.pool.config.pingQuery [])
  host.rollbackIfNeeded r.conn

def isFresh (host : Host σ) (s : Site σ) (r : Record) : Prop :=
  ((s.asked host r).now host).1 - r.lastUsedAt ≤
    s.pool.config.pingNotUsedFor.toNat * nanosPerMilli

theorem ping_of_closed (h : (host.isClosed r.conn s.world).1 = true) :
    s.ping host r = (false, s.asked host r) := by
  simp only [ping, asked, h, if_true]

theorem ping_of_disabled (h : (host.isClosed r.conn s.world).1 = false)
    (hp : s.pool.config.pingEnabled = false) : s.ping host r = (true, s.asked host r) := by
  simp only [ping, asked, h, hp, Bool.false_eq_true, if_false]

theorem ping_of_fresh (h : (host.isClosed r.conn s.world).1 = false)
    (hp : s.pool.config.pingEnabled = true) (ht : s.isFresh host r) :
    s.ping host r = (true, ((s.asked host r).now host).2) := by
  unfold ping
  dsimp only
  rw [if_neg (by simp [h]), if_pos hp]
  exact if_pos ht

theorem ping_of_stale (h : (host.isClosed r.conn s.world).1 = false)
    (hp : s.pool.config.pingEnabled = true) (ht : ¬ s.isFresh host r) :
    s.ping host r =
      match ((s.asked host r).now host).2.run (s.pinging host r) with
      | (.ok _, s) => (true, s)
      | (.error _, s) => (false, s.settle (host.close r.conn)) := by
  unfold ping
  dsimp only
  rw [if_neg (by simp [h]), if_pos hp]
  exact if_neg ht

theorem validate_of_valid (h : s.pool.flags.isValid r.flag = true) :
    s.validate host r = s.ping host r := if_pos h

theorem validate_of_invalid (h : s.pool.flags.isValid r.flag = false) :
    s.validate host r = (false, s) := if_neg (by simp [h])

/-- Validation asks the connection only. -/
theorem ping_pool (host : Host σ) (s : Site σ) (r : Record) :
    (s.ping host r).2.pool = s.pool := by
  cases hc : (host.isClosed r.conn s.world).1 with
  | true => rw [ping_of_closed hc, asked]
  | false =>
    cases hp : s.pool.config.pingEnabled with
    | false => rw [ping_of_disabled hc hp, asked]
    | true =>
      by_cases ht : s.isFresh host r
      · rw [ping_of_fresh hc hp ht]
        rfl
      · rw [ping_of_stale hc hp ht, run]
        cases (s.pinging host r _).1 <;> rfl

theorem validate_pool (host : Host σ) (s : Site σ) (r : Record) :
    (s.validate host r).2.pool = s.pool := by
  cases hv : s.pool.flags.isValid r.flag with
  | true => rw [validate_of_valid hv, ping_pool]
  | false => rw [validate_of_invalid hv]

theorem pool_of_validate {b : Bool} (h : s.validate host r = (b, s')) : s'.pool = s.pool := by
  rw [← validate_pool host s r, h]

theorem acquire_of_error {f : Failure} (spare : Nat) (c : Checkout)
    (hn : s.nextCandidate host = (.error f, s')) :
    acquire host spare c s = (.done (.error f), s') := by
  rw [acquire, hn]

theorem acquire_of_wait (spare : Nat) (c : Checkout)
    (hn : s.nextCandidate host = (.ok .mustWait, s')) :
    acquire host spare c s = (.waits (s'.wait host c).1, (s'.wait host c).2) := by
  rw [acquire, hn]

theorem acquire_of_good (spare : Nat) (c : Checkout)
    (hn : s.nextCandidate host = (.ok (.ready r), s'))
    (hv : s'.validate host r = (true, s'')) :
    acquire host spare c s = (.done (.ok (s''.grant host c r).1), (s''.grant host c r).2) := by
  rw [acquire, hn]
  simp only [hv]

theorem acquire_of_bad (spare : Nat) (c : Checkout)
    (hn : s.nextCandidate host = (.ok (.ready r), s'))
    (hv : s'.validate host r = (false, s'')) :
    acquire host spare c s =
      match spare with
      | 0 => (.done (.fail .poolExhausted), s''.countBad)
      | spare + 1 => acquire host spare { c with bad := c.bad + 1 } s''.countBad := by
  rw [acquire, hn]
  simp only [hv]
  rfl

def waited (host : Host σ) (s : Site σ) (w : Waiting) : Site σ :=
  (s.now host).2.count fun t => { t with waitTime := t.waitTime + ((s.now host).1 - w.since) }

theorem resume_of_same {w : Waiting} (h : s.pool.generation = w.generation) :
    s.resume host w = (s.waited host w).proceed host w.checkout := if_pos h

theorem resume_of_other {w : Waiting} (h : ¬ s.pool.generation = w.generation) :
    s.resume host w = (.done (.fail .poolUnknown), s.waited host w) := if_neg h

def takenBack (host : Host σ) (s : Site σ) (r : Record) : Site σ :=
  ((s.now host).2.count fun t =>
    { t with checkoutTime := t.checkoutTime + ((s.now host).1 - r.checkoutAt) }).settle
      (host.rollbackIfNeeded r.conn)

theorem giveBack_of_missing {flag : FlagId} (hf : s.pool.activeWith? flag = none) :
    s.giveBack host flag = (false, s.countBad) := by
  rw [giveBack, hf]

theorem giveBack_of_bad {flag : FlagId} (hf : s.pool.activeWith? flag = some r)
    (hv : (s.modify (·.removeActive flag)).validate host r = (false, s')) :
    s.giveBack host flag = (false, s'.countBad) := by
  rw [giveBack, hf]
  simp only [hv]

theorem giveBack_of_good {flag : FlagId} (hf : s.pool.activeWith? flag = some r)
    (hv : (s.modify (·.removeActive flag)).validate host r = (true, s')) :
    s.giveBack host flag =
      if (s'.takenBack host r).pool.keeps r then
        (true, ((s'.takenBack host r).rewrap host r).2.modify
          (·.addIdle ((s'.takenBack host r).rewrap host r).1))
      else (false, ((s'.takenBack host r).settle (host.close r.conn)).revoke r.flag) := by
  rw [giveBack, hf]
  simp only [hv]
  rfl

/-- Of a pool that discards records, only their flags change. -/
theorem discards_pool (host : Host σ) (rs : List Record) (s : Site σ) :
    (rs.foldl (fun s r => s.discard host r) s).pool =
      { s.pool with flags := rs.foldl (fun f r => f.revoke r.flag) s.pool.flags } := by
  induction rs generalizing s with
  | nil => rfl
  | cons r rs ih =>
    rw [List.foldl_cons, ih]
    rfl

theorem drain_pool (host : Host σ) (s : Site σ) :
    (s.drain host).pool = { s.pool with
      expected := s.pool.source.typeCode, active := [], idle := []
      flags := (s.pool.active.reverse ++ s.pool.idle.reverse).foldl
        (fun f r => f.revoke r.flag) s.pool.flags } :=
  discards_pool host _ _

theorem drain_lists (host : Host σ) (s : Site σ) :
    (s.drain host).pool.idle = [] ∧ (s.drain host).pool.active = [] := by
  rw [drain_pool]
  exact ⟨rfl, rfl⟩

end ConnPool.Site
