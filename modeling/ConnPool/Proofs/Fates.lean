import ConnPool.Proofs.Operations
import ConnPool.Proofs.Reclaiming
import ConnPool.Proofs.Waiting
import Mathlib.Algebra.GroupWithZero.Nat

namespace ConnPool

inductive Fate where
  /-- Another checkout took its connection. -/
  | claimed (time : Nat)
  /-- It came back good. -/
  | returned (time : Nat)
  /-- It came back bad. -/
  | spoiled
  | drained

/-- Checkouts that succeed go by their flags and by the times from which they count. -/
inductive Note where
  | granted (flag : FlagId) (since : Nat)
  | ended (flag : FlagId) (since : Nat) (fate : Fate)
  /-- A candidate was bad. -/
  | rejected
  /-- A lease came back whose record was not active any more. -/
  | stale
  /-- The checkout of that number had to wait. -/
  | blocked (id : Nat)

namespace Note

def granted? : Note → Option (FlagId × Nat)
  | granted flag since => some (flag, since)
  | _ => none

def ended? : Note → Option (FlagId × Nat)
  | ended flag since _ => some (flag, since)
  | _ => none

def blocked? : Note → Option Nat
  | blocked id => some id
  | _ => none

def isClaim : Note → Bool
  | ended _ _ (.claimed _) => true
  | _ => false

def isReturn : Note → Bool
  | ended _ _ (.returned _) | ended _ _ .spoiled => true
  | _ => false

def isDrain : Note → Bool
  | ended _ _ .drained => true
  | _ => false

def isBad : Note → Bool
  | rejected | stale | ended _ _ .spoiled => true
  | _ => false

def overdue : Note → Nat
  | ended _ since (.claimed time) => time - since
  | _ => 0

/-- How long a connection was held that was claimed or came back good. -/
def held : Note → Nat
  | ended _ since (.claimed time) | ended _ since (.returned time) => time - since
  | _ => 0

end Note

abbrev Story := List Note

namespace Story

def granted (ns : Story) : List (FlagId × Nat) := ns.filterMap Note.granted?

def ended (ns : Story) : List (FlagId × Nat) := ns.filterMap Note.ended?

def blocked (ns : Story) : List Nat := ns.filterMap Note.blocked?

def heldTime (ns : Story) : Nat := (ns.map Note.held).sum

def overdueTime (ns : Story) : Nat := (ns.map Note.overdue).sum

variable (ns ms : Story) (n : Note)

@[simp] theorem granted_append : granted (ns ++ ms) = ns.granted ++ ms.granted :=
  List.filterMap_append

@[simp] theorem ended_append : ended (ns ++ ms) = ns.ended ++ ms.ended := List.filterMap_append

@[simp] theorem blocked_append : blocked (ns ++ ms) = ns.blocked ++ ms.blocked :=
  List.filterMap_append

@[simp] theorem heldTime_append : heldTime (ns ++ ms) = ns.heldTime + ms.heldTime := by
  simp [heldTime]

@[simp] theorem overdueTime_append : overdueTime (ns ++ ms) = ns.overdueTime + ms.overdueTime := by
  simp [overdueTime]

theorem overdueTime_le : ns.overdueTime ≤ ns.heldTime := by
  induction ns with
  | nil => exact Nat.le_refl 0
  | cons n ns ih =>
    have hn : n.overdue ≤ n.held := by
      match n with
      | .ended _ _ (.claimed _) => exact Nat.le_refl _
      | .ended _ _ (.returned _) | .ended _ _ .spoiled | .ended _ _ .drained => exact Nat.zero_le _
      | .granted .. | .rejected | .stale | .blocked _ => exact Nat.zero_le _
    simp only [overdueTime, heldTime, List.map_cons, List.sum_cons] at ih ⊢
    exact Nat.add_le_add hn ih

end Story

def Record.stamp (r : Record) : FlagId × Nat := (r.flag, r.checkoutAt)

namespace Site

section

variable {σ : Type} (host : Host σ) (s : Site σ)

def lookStory : Story :=
  match s.pool.idle, s.pool.active with
  | [], oldest :: _ =>
    let time := s.now host
    if s.pool.config.maxActive.toNat ≤ s.pool.active.length ∧
        s.pool.config.maxCheckoutTime.toNat * nanosPerMilli < time.1 - oldest.checkoutAt then
      [.ended oldest.flag oldest.checkoutAt (.claimed (time.2.now host).1)]
    else []
  | _, _ => []

def acquireStory : Nat → Site σ → Story
  | spare, s =>
    s.lookStory host ++
      match s.nextCandidate host with
      | (.ok (.ready r), s) =>
        match s.validate host r with
        | (true, s) => [.granted r.flag ((s.settle (host.rollbackIfNeeded r.conn)).now host).1]
        | (false, s) =>
          .rejected ::
            match spare with
            | 0 => []
            | spare + 1 => acquireStory spare s.countBad
      | _ => []

def proceedStory (c : Checkout) : Story :=
  s.acquireStory host (s.pool.config.badConnectionLimit - c.bad)

def resumeStory (w : Waiting) : Story :=
  if s.pool.generation = w.generation then (s.waited host w).proceedStory host w.checkout else []

def giveBackStory (flag : FlagId) : Story :=
  match s.pool.activeWith? flag with
  | none => [.stale]
  | some r =>
    match (s.modify (·.removeActive flag)).validate host r with
    | (false, _) => [.ended r.flag r.checkoutAt .spoiled]
    | (true, s) => [.ended r.flag r.checkoutAt (.returned (s.now host).1)]

def drainStory : Story := s.pool.active.map fun r => .ended r.flag r.checkoutAt .drained

end

end Site

namespace Tally

def plain (t : Tally) : Tally := { t with requestTime := 0, waitTime := 0, hadToWait := 0 }

def enter (t : Tally) : Note → Tally
  | .granted .. => { t with requestCount := t.requestCount + 1 }
  | .ended _ since (.claimed time) => { t with
      claimedOverdue := t.claimedOverdue + 1
      overdueCheckoutTime := t.overdueCheckoutTime + (time - since)
      checkoutTime := t.checkoutTime + (time - since) }
  | .ended _ since (.returned time) => { t with checkoutTime := t.checkoutTime + (time - since) }
  | .ended _ _ .spoiled | .rejected | .stale => { t with badConnections := t.badConnections + 1 }
  | .ended _ _ .drained | .blocked _ => t

theorem plain_enter (t : Tally) (n : Note) : (t.enter n).plain = t.plain.enter n := by
  match n with
  | .ended _ _ (.claimed _) | .ended _ _ (.returned _) | .ended _ _ .spoiled => rfl
  | .ended _ _ .drained | .granted .. | .rejected | .stale | .blocked _ => rfl

end Tally

def Story.tally (ns : Story) : Tally :=
  { requestCount := ns.granted.length
    checkoutTime := ns.heldTime
    claimedOverdue := ns.countP Note.isClaim
    overdueCheckoutTime := ns.overdueTime
    badConnections := ns.countP Note.isBad }

theorem Story.tally_concat (ns : Story) (n : Note) : tally (ns ++ [n]) = ns.tally.enter n := by
  have hcount (p : Note → Bool) : List.countP p (ns ++ [n]) = ns.countP p + [n].countP p :=
    List.countP_append
  rw [tally, granted_append, heldTime_append, overdueTime_append, hcount, hcount,
    List.length_append]
  match n with
  | .ended _ _ (.claimed _) | .ended _ _ (.returned _) | .ended _ _ .spoiled => rfl
  | .ended _ _ .drained | .granted .. | .rejected | .stale | .blocked _ => rfl

namespace Story

variable (ns : Story) (rs : List Record)

theorem tally_drained :
    tally (ns ++ rs.map fun r => .ended r.flag r.checkoutAt .drained) = ns.tally := by
  induction rs generalizing ns with
  | nil => rw [List.map_nil, List.append_nil]
  | cons r rs ih =>
    have hrest := ih (ns ++ [.ended r.flag r.checkoutAt .drained])
    rw [List.append_assoc, tally_concat] at hrest
    exact hrest

theorem blocked_drained :
    blocked (rs.map fun r => .ended r.flag r.checkoutAt .drained) = [] := by
  simp [blocked, Note.blocked?]

theorem granted_drained :
    granted (rs.map fun r => .ended r.flag r.checkoutAt .drained) = [] := by
  simp [granted, Note.granted?]

theorem ended_drained :
    ended (rs.map fun r => .ended r.flag r.checkoutAt .drained) = rs.map Record.stamp := by
  induction rs with
  | nil => rfl
  | cons r rs ih =>
    rw [List.map_cons, List.map_cons, ← ih]
    rfl

end Story

namespace Site

/-- The counters of a pool tell the same story, and so do its active connections: every checkout
that succeeded is one of them, or it has ended once. -/
structure Accounted {σ : Type} (s : Site σ) (ns : Story) : Prop where
  tally : s.pool.tally.plain = ns.tally
  parted : ns.granted.Perm (s.pool.active.map Record.stamp ++ ns.ended)

namespace Accounted

variable {σ : Type} {host : Host σ} {s t u : Site σ} {ns : Story} {r : Record}

theorem same (h : Accounted s ns) (ht : t.pool.tally.plain = s.pool.tally.plain)
    (ha : t.pool.active = s.pool.active) : Accounted t ns :=
  ⟨ht.trans h.tally, ha ▸ h.parted⟩

theorem enter (h : Accounted s ns) {n : Note}
    (ht : t.pool.tally.plain = (s.pool.tally.enter n).plain)
    (hp : Story.granted (ns ++ [n]) |>.Perm (t.pool.active.map Record.stamp ++
      Story.ended (ns ++ [n]))) : Accounted t (ns ++ [n]) := by
  refine ⟨?_, hp⟩
  rw [ht, Tally.plain_enter, h.tally, Story.tally_concat]

/-- A note of something else than a checkout that succeeds or ends. -/
theorem aside (h : Accounted s ns) {n : Note}
    (ht : t.pool.tally.plain = (s.pool.tally.enter n).plain)
    (ha : t.pool.active = s.pool.active) (hg : n.granted? = none) (he : n.ended? = none) :
    Accounted t (ns ++ [n]) := by
  refine h.enter ht ?_
  have hgranted : Story.granted [n] = [] := by simp [Story.granted, hg]
  have hended : Story.ended [n] = [] := by simp [Story.ended, he]
  rw [Story.granted_append, Story.ended_append, hgranted, hended, List.append_nil,
    List.append_nil, ha]
  exact h.parted

/-- A checkout ends when its record leaves the active ones. -/
theorem ends (h : Accounted s ns) {f : Fate}
    (ht : t.pool.tally.plain = (s.pool.tally.enter (.ended r.flag r.checkoutAt f)).plain)
    (hp : s.pool.active.Perm (r :: t.pool.active)) :
    Accounted t (ns ++ [.ended r.flag r.checkoutAt f]) := by
  refine h.enter ht ?_
  have hgranted : Story.granted [.ended r.flag r.checkoutAt f] = [] := rfl
  have hended : Story.ended [.ended r.flag r.checkoutAt f] = [r.stamp] := rfl
  rw [Story.granted_append, Story.ended_append, hgranted, hended, List.append_nil,
    ← List.append_assoc]
  have hactive := (hp.map Record.stamp).append_right ns.ended
  exact (h.parted.trans hactive).trans (List.perm_append_singleton _ _).symm

/-- A checkout succeeds when its record joins them. -/
theorem grant (h : Accounted s ns) (host : Host σ) (c : Checkout) (r : Record) :
    Accounted (s.grant host c r).2
      (ns ++ [.granted r.flag ((s.settle (host.rollbackIfNeeded r.conn)).now host).1]) := by
  refine h.enter rfl ?_
  obtain ⟨code, hactive⟩ := grant_active host s c r
  generalize ((s.settle (host.rollbackIfNeeded r.conn)).now host).1 = time at hactive ⊢
  have hgranted : Story.granted [.granted r.flag time] = [(r.flag, time)] := rfl
  have hended : Story.ended [.granted r.flag time] = [] := rfl
  rw [hactive, Story.granted_append, Story.ended_append, hgranted, hended, List.append_nil,
    List.map_append, List.append_assoc]
  refine (h.parted.append_right _).trans ?_
  rw [List.append_assoc]
  exact List.perm_append_comm.append_left _

theorem lookStory_of_room (h : s.pool.active.length < s.pool.config.maxActive.toNat) :
    s.lookStory host = [] := by
  unfold lookStory
  split
  · exact if_neg fun hfull => Nat.not_le_of_lt h hfull.1
  · rfl

theorem look (h : Accounted s ns) {o : Outcome Candidate} (found : s.nextCandidate host = (o, t)) :
    Accounted t (ns ++ s.lookStory host) := by
  have hlook := look_of_eq found
  cases hlook with
  | idle r rest front =>
    have hstory : s.lookStory host = [] := by simp [lookStory, front]
    rw [hstory, List.append_nil]
    exact h.same rfl rfl
  | opened c w none_idle room opens =>
    rw [lookStory_of_room room, List.append_nil]
    exact h.same rfl rfl
  | refused f w none_idle room fails =>
    rw [lookStory_of_room room, List.append_nil]
    exact h.same rfl rfl
  | claimed oldest rest none_idle full front overdue =>
    have hstory : s.lookStory host = [.ended oldest.flag oldest.checkoutAt
        (.claimed ((s.now host).2.now host).1)] := by
      rw [lookStory, none_idle, front]
      rw [front] at full
      exact if_pos ⟨full, overdue⟩
    rw [hstory]
    exact h.ends rfl (front ▸ .refl _)
  | barred none_idle none_active full =>
    have hstory : s.lookStory host = [] := by simp [lookStory, none_active]
    rw [hstory, List.append_nil]
    exact h
  | early oldest rest none_idle full front early =>
    have hstory : s.lookStory host = [] := by
      rw [lookStory, none_idle, front]
      exact if_neg fun hover => early hover.2
    rw [hstory, List.append_nil]
    exact h.same rfl rfl

theorem acquire {s : Site σ} {ns : Story} (h : Accounted s ns) (host : Host σ) (spare : Nat)
    (c : Checkout) : Accounted (acquire host spare c s).2 (ns ++ acquireStory host spare s) := by
  cases hn : s.nextCandidate host with
  | mk o t =>
    have ht := h.look hn
    match o with
    | .error f =>
      rw [acquire_of_error spare c hn, acquireStory, hn, List.append_nil]
      exact ht
    | .ok .mustWait =>
      rw [acquire_of_wait spare c hn, acquireStory, hn, List.append_nil]
      have halike := wait_alike host t c
      refine ht.same ?_ halike.active
      unfold wait
      split <;> rfl
    | .ok (.ready r) =>
      cases hv : t.validate host r with
      | mk b u =>
        have hu : Accounted u (ns ++ s.lookStory host) := by
          have hpool := pool_of_validate hv
          exact ht.same (by rw [hpool]) (by rw [hpool])
        cases b with
        | true =>
          rw [acquire_of_good spare c hn hv, acquireStory, hn]
          simp only [hv]
          rw [← List.append_assoc]
          exact hu.grant host c r
        | false =>
          have hbad : Accounted u.countBad (ns ++ s.lookStory host ++ [.rejected]) :=
            hu.aside rfl rfl rfl rfl
          rw [acquire_of_bad spare c hn hv, acquireStory, hn]
          simp only [hv]
          cases spare with
          | zero =>
            rw [← List.append_assoc]
            exact hbad
          | succ spare =>
            have hrest := hbad.acquire host spare { c with bad := c.bad + 1 }
            rw [List.append_assoc, List.append_assoc] at hrest
            exact hrest

theorem giveBack (h : Accounted s ns) (host : Host σ) (flag : FlagId) :
    Accounted (s.giveBack host flag).2 (ns ++ s.giveBackStory host flag) := by
  cases hf : s.pool.activeWith? flag with
  | none =>
    rw [giveBack_of_missing hf, giveBackStory, hf]
    exact h.aside rfl rfl rfl rfl
  | some r =>
    rw [giveBackStory, hf]
    cases hv : (s.modify (·.removeActive flag)).validate host r with
    | mk b t =>
      have hpool := pool_of_validate hv
      have htally : t.pool.tally = s.pool.tally := by rw [hpool]; rfl
      have hactive : t.pool.active = s.pool.active.eraseP (·.flag == flag) := by rw [hpool]; rfl
      have hp : s.pool.active.Perm (r :: t.pool.active) := hactive ▸ perm_of_find? hf
      simp only [hv]
      cases b with
      | false =>
        rw [giveBack_of_bad hf hv]
        exact h.ends (by rw [← htally]; rfl) hp
      | true =>
        rw [giveBack_of_good hf hv]
        split <;> exact h.ends (by rw [← htally]; rfl) hp

theorem drain (h : Accounted s ns) (host : Host σ) :
    Accounted (s.drain host) (ns ++ s.drainStory) := by
  refine ⟨?_, ?_⟩
  · rw [drain_pool, drainStory, Story.tally_drained]
    exact h.tally
  · rw [drain_pool, drainStory, Story.granted_append, Story.ended_append, Story.granted_drained,
      Story.ended_drained, List.append_nil]
    exact h.parted.trans List.perm_append_comm

end Accounted

section

variable {σ : Type} {host : Host σ} {s t : Site σ} {c : Checkout} {flag : FlagId} {n : Nat}

theorem acquireStory_granted (host : Host σ) (spare : Nat) (c : Checkout) (s : Site σ) :
    (acquireStory host spare s).granted.map (·.1) =
      (acquire host spare c s).1.leases.map (·.grant.flag) ∧
      (acquireStory host spare s).blocked = [] := by
  have hlook : (s.lookStory host).granted = [] ∧ (s.lookStory host).blocked = [] := by
    unfold lookStory
    split
    · dsimp only
      split <;> exact ⟨rfl, rfl⟩
    · exact ⟨rfl, rfl⟩
  rw [acquireStory, Story.granted_append, Story.blocked_append, hlook.1, hlook.2]
  cases hn : s.nextCandidate host with
  | mk o t =>
    match o with
    | .error f =>
      rw [acquire_of_error spare c hn]
      exact ⟨rfl, rfl⟩
    | .ok .mustWait =>
      rw [acquire_of_wait spare c hn]
      exact ⟨rfl, rfl⟩
    | .ok (.ready r) =>
      cases hv : t.validate host r with
      | mk b u =>
        simp only [hv]
        cases b with
        | true =>
          rw [acquire_of_good spare c hn hv]
          exact ⟨rfl, rfl⟩
        | false =>
          rw [acquire_of_bad spare c hn hv]
          cases spare with
          | zero => exact ⟨rfl, rfl⟩
          | succ spare =>
            exact acquireStory_granted host spare { c with bad := c.bad + 1 } u.countBad

theorem giveBackStory_granted (host : Host σ) (s : Site σ) (flag : FlagId) :
    (s.giveBackStory host flag).granted = [] ∧ (s.giveBackStory host flag).blocked = [] := by
  unfold giveBackStory
  split
  · exact ⟨rfl, rfl⟩
  · split <;> exact ⟨rfl, rfl⟩

theorem Look.hadToWait {o : Outcome Candidate} (h : s.Look host (o, t)) :
    t.pool.tally.hadToWait = s.pool.tally.hadToWait := by
  cases h <;> rfl

theorem Miss.hadToWait (h : s.Miss host t) :
    t.pool.tally.hadToWait = s.pool.tally.hadToWait := by
  obtain ⟨r, v, u, found, invalid⟩ := h
  have hpool := pool_of_validate invalid
  show u.pool.tally.hadToWait = _
  rw [hpool, (look_of_eq found).hadToWait]

theorem Misses.hadToWait (h : s.Misses host n t) :
    t.pool.tally.hadToWait = s.pool.tally.hadToWait := by
  induction h with
  | none s => rfl
  | more miss _ ih => exact ih.trans miss.hadToWait

/-- A checkout that comes to wait is counted once. -/
theorem acquire_hadToWait (host : Host σ) (spare : Nat) (c : Checkout) (s : Site σ) :
    (∃ w, (acquire host spare c s).1 = .waits w ∧ w.checkout.counted = true ∧
      (acquire host spare c s).2.pool.tally.hadToWait =
        s.pool.tally.hadToWait + if c.counted then 0 else 1) ∨
    (∃ o, (acquire host spare c s).1 = .done o) ∧
      (acquire host spare c s).2.pool.tally.hadToWait = s.pool.tally.hadToWait := by
  obtain ⟨n, t, -, hmisses, hend⟩ := acquire_ends host spare c s
  rw [← hmisses.hadToWait]
  generalize acquire host spare c s = r at hend
  cases hend with
  | failed f u found => exact .inr ⟨⟨_, rfl⟩, (look_of_eq found).hadToWait⟩
  | waiting u found =>
    refine .inl ⟨_, rfl, rfl, ?_⟩
    rw [← (look_of_eq found).hadToWait]
    unfold wait
    cases c.counted <;> rfl
  | granted r u v found valid =>
    have hpool := pool_of_validate valid
    refine .inr ⟨⟨_, rfl⟩, ?_⟩
    show v.pool.tally.hadToWait = _
    rw [hpool, (look_of_eq found).hadToWait]
  | exhausted u miss => exact .inr ⟨⟨_, rfl⟩, miss.hadToWait⟩

theorem giveBack_hadToWait (host : Host σ) (s : Site σ) (flag : FlagId) :
    (s.giveBack host flag).2.pool.tally.hadToWait = s.pool.tally.hadToWait := by
  cases hf : s.pool.activeWith? flag with
  | none =>
    rw [giveBack_of_missing hf]
    rfl
  | some r =>
    cases hv : (s.modify (·.removeActive flag)).validate host r with
    | mk b t =>
      have hpool := pool_of_validate hv
      have ht : t.pool.tally.hadToWait = s.pool.tally.hadToWait := by
        rw [hpool]
        rfl
      rw [← ht]
      cases b with
      | false =>
        rw [giveBack_of_bad hf hv]
        rfl
      | true =>
        rw [giveBack_of_good hf hv]
        split <;> rfl

end

end Site

/-- What was claimed was held for longer than that, and nothing came back before it was handed
out. -/
def Note.Lasted (least : Nat) : Note → Prop
  | .ended _ since (.claimed time) => since + least < time
  | .ended _ since (.returned time) => since ≤ time
  | _ => True

theorem Note.Lasted.mono {n : Note} {least most : Nat} (h : n.Lasted most) (hle : least ≤ most) :
    n.Lasted least := by
  match n with
  | .ended _ since (.claimed time) =>
    have hlong : since + most < time := h
    show since + least < time
    omega
  | .ended _ _ (.returned _) => exact h
  | .ended _ _ .spoiled | .ended _ _ .drained => trivial
  | .granted .. | .rejected | .stale | .blocked _ => trivial

namespace Site.Ordered

variable {σ : Type} {host : Host σ} {w : σ} {s : Site σ}

theorem lookStory_lasted (h : Ordered host w s) (hclock : host.KeepsTime w) :
    ∀ n ∈ s.lookStory host,
      n.Lasted (s.pool.config.maxCheckoutTime.toNat * nanosPerMilli) := by
  unfold lookStory
  split
  · dsimp only
    split
    · rename_i hover
      intro n hn
      obtain rfl := List.mem_singleton.mp hn
      have hread : (s.now host).1 ≤ ((s.now host).2.now host).1 :=
        hclock s.world (s.now host).2.world h.later .refl
      have hlong := hover.2
      show _ + _ < ((s.now host).2.now host).1
      omega
    · exact fun n hn => absurd hn List.not_mem_nil
  · exact fun n hn => absurd hn List.not_mem_nil

theorem acquireStory_lasted {s : Site σ} (h : Ordered host w s) (hclock : host.KeepsTime w)
    (spare : Nat) : ∀ n ∈ s.acquireStory host spare,
      n.Lasted (s.pool.config.maxCheckoutTime.toNat * nanosPerMilli) := by
  rw [acquireStory]
  refine List.forall_mem_append.mpr ⟨h.lookStory_lasted hclock, ?_⟩
  cases hn : s.nextCandidate host with
  | mk o t =>
    match o with
    | .error f | .ok .mustWait => exact fun n hn => absurd hn List.not_mem_nil
    | .ok (.ready r) =>
      cases hv : t.validate host r with
      | mk b u =>
        simp only [hv]
        cases b with
        | true =>
          intro n hn
          rw [List.mem_singleton.mp hn]
          trivial
        | false =>
          refine List.forall_mem_cons.mpr ⟨trivial, ?_⟩
          cases spare with
          | zero => exact fun n hn => absurd hn List.not_mem_nil
          | succ spare =>
            have hmiss : s.Miss host u.countBad := .bad r t u hn hv
            have hu := h.sublist hmiss.before hmiss.takes.2.active_suffix.sublist
            have hrest := hu.acquireStory_lasted hclock spare
            rwa [hmiss.takes.1.config] at hrest

theorem giveBackStory_lasted (h : Ordered host w s) (flag : FlagId) (least : Nat) :
    ∀ n ∈ s.giveBackStory host flag, n.Lasted least := by
  intro n hn
  cases hf : s.pool.activeWith? flag with
  | none =>
    rw [giveBackStory, hf] at hn
    rw [List.mem_singleton.mp hn]
    trivial
  | some r =>
    rw [giveBackStory, hf] at hn
    cases hv : (s.modify (·.removeActive flag)).validate host r with
    | mk b t =>
      have hvalid := before_of_validate hv
      simp only [hv] at hn
      cases b with
      | false =>
        rw [List.mem_singleton.mp hn]
        trivial
      | true =>
        rw [List.mem_singleton.mp hn]
        exact h.past r (List.mem_of_find?_eq_some hf) t.world hvalid

end Site.Ordered

namespace Story

variable {ns : Story} {least : Nat}

theorem countP_claims_mul_le (h : ∀ n ∈ ns, n.Lasted least) :
    ns.countP Note.isClaim * least ≤ ns.overdueTime := by
  induction ns with
  | nil => simp
  | cons n ns ih =>
    obtain ⟨hn, hns⟩ := List.forall_mem_cons.mp h
    have hrest := ih hns
    have hcons : overdueTime (n :: ns) = n.overdue + overdueTime ns := List.sum_cons
    rw [hcons, List.countP_cons]
    match n with
    | .ended _ since (.claimed time) =>
      have hlong : since + least < time := hn
      show (ns.countP Note.isClaim + 1) * least ≤ (time - since) + overdueTime ns
      rw [Nat.add_mul, Nat.one_mul]
      omega
    | .ended _ _ (.returned _) | .ended _ _ .spoiled | .ended _ _ .drained =>
      exact Nat.le_add_left_of_le hrest
    | .granted .. | .rejected | .stale | .blocked _ => exact Nat.le_add_left_of_le hrest

/-- Every end is one of those. -/
theorem length_ended (ns : Story) : ns.ended.length =
    ns.countP Note.isClaim + ns.countP Note.isReturn + ns.countP Note.isDrain := by
  induction ns with
  | nil => rfl
  | cons n ns ih =>
    have hcons : (ended (n :: ns)).length = (ended [n]).length + (ended ns).length := by
      rw [← List.length_append, ← ended_append]
      rfl
    rw [hcons, ih, List.countP_cons, List.countP_cons, List.countP_cons]
    match n with
    | .ended _ _ (.claimed _) | .ended _ _ (.returned _) =>
      simp [ended, Note.ended?, Note.isClaim, Note.isReturn, Note.isDrain]
      omega
    | .ended _ _ .spoiled | .ended _ _ .drained =>
      simp [ended, Note.ended?, Note.isClaim, Note.isReturn, Note.isDrain]
      omega
    | .granted .. | .rejected | .stale | .blocked _ =>
      simp [ended, Note.ended?, Note.isClaim, Note.isReturn, Note.isDrain]

end Story
end ConnPool
