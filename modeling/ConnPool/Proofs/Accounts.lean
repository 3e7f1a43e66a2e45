import ConnPool.Proofs.Fates
import ConnPool.Proofs.Leases
import Mathlib.Data.Finset.Card
import Mathlib.Data.Finset.Dedup
import Mathlib.Data.List.Infix

namespace ConnPool

theorem card_toFinset_concat (l : List Nat) (a : Nat) :
    (l ++ [a]).toFinset.card = l.toFinset.card + if a ∈ l then 0 else 1 := by
  have hinsert : (l ++ [a]).toFinset = insert a l.toFinset := by
    ext b
    simp
  rw [hinsert]
  split
  · rename_i ha
    rw [Finset.insert_eq_self.mpr (List.mem_toFinset.mpr ha), Nat.add_zero]
  · rename_i ha
    rw [Finset.card_insert_of_notMem fun hm => ha (List.mem_toFinset.mp hm)]

def Stretch.story (id : Nat) : Stretch → Story
  | .done _ => []
  | .waits _ => [.blocked id]

namespace Desk

variable {σ : Type}

def closeStory (d : Desk σ) : Story :=
  if d.isOpen && !d.isHeld && d.waiters.isEmpty then d.site.drainStory else []

def eventStory (host : Host σ) (d : Desk σ) (e : Event) : Story :=
  if e.isOfHolder && !d.isHeld then []
  else
    match e with
    | .checkout credentials =>
      (d.site.now host).2.proceedStory host { credentials, started := (d.site.now host).1 } ++
        (d.site.begin host credentials).1.story d.begun
    | .resume id =>
      match d.waiters.find? (·.id == id) with
      | none => []
      | some v =>
        let r := d.site.resume host v.waiting
        d.site.resumeStory host v.waiting ++ r.1.story id ++
          (afterStretch { d with waiters := d.waiters.eraseP (·.id == id) } id r).2.closeStory
    | .release i =>
      match d.leases[i]? with
      | none => []
      | some l =>
        if l.released || !d.isOpen then [] else d.site.giveBackStory host l.grant.flag
    | .shutdown | .drain => d.site.drainStory
    | .configure setting => (d.site.pool.set setting).toOption.elim [] fun _ => d.site.drainStory
    | .letGo => closeStory { d with isHeld := false }
    | .call .. | .isClosed _ | .interrupt => []

/-- What becomes of checkouts while one event after the other happens. -/
def story (host : Host σ) : Desk σ → List Event → Story
  | _, [] => []
  | d, e :: es => d.eventStory host e ++ story host (d.step host e) es

theorem story_concat (host : Host σ) (d : Desk σ) (es : List Event) (e : Event) :
    d.story host (es ++ [e]) = d.story host es ++ (d.run host es).eventStory host e := by
  induction es generalizing d with
  | nil => simp [story, run]
  | cons f es ih =>
    rw [List.cons_append, story, story, ih, List.append_assoc]
    rfl

structure Balanced (d : Desk σ) (ns : Story) : Prop where
  accounted : d.site.Accounted ns
  leases : ns.granted.map (·.1) = d.leases.map (·.grant.flag)
  waited : d.pool.tally.hadToWait = ns.blocked.toFinset.card
  counted : ∀ v ∈ d.waiters, v.waiting.checkout.counted = true ∧ v.id ∈ ns.blocked
  begun : ∀ id ∈ ns.blocked, id < d.begun

namespace Balanced

variable {host : Host σ} {d d' : Desk σ} {e : Event} {ns ms : Story}

/-- Where nothing is handed out and nobody begins to wait. -/
theorem aside (h : d.Balanced ns) (hsite : d'.site.Accounted (ns ++ ms)) (hg : ms.granted = [])
    (hb : ms.blocked = []) (hwait : d'.pool.tally.hadToWait = d.pool.tally.hadToWait)
    (hl : d'.leases.map (·.grant.flag) = d.leases.map (·.grant.flag))
    (hw : ∀ v ∈ d'.waiters, ∃ u ∈ d.waiters, u.id = v.id ∧ u.waiting = v.waiting)
    (hbegun : d'.begun = d.begun) : d'.Balanced (ns ++ ms) where
  accounted := hsite
  leases := by rw [Story.granted_append, hg, List.append_nil, hl, h.leases]
  waited := by rw [Story.blocked_append, hb, List.append_nil, hwait, h.waited]
  counted v hv := by
    obtain ⟨u, hu, hid, hwaiting⟩ := hw v hv
    obtain ⟨hcounted, hblocked⟩ := h.counted u hu
    rw [Story.blocked_append, hb, List.append_nil, ← hid, ← hwaiting]
    exact ⟨hcounted, hblocked⟩
  begun id hid := by
    rw [Story.blocked_append, hb, List.append_nil] at hid
    rw [hbegun]
    exact h.begun id hid

theorem same_waiters (d : Desk σ) :
    ∀ v ∈ d.waiters, ∃ u ∈ d.waiters, u.id = v.id ∧ u.waiting = v.waiting :=
  fun v hv => ⟨v, hv, rfl, rfl⟩

theorem wakeAll_waiters (d : Desk σ) :
    ∀ v ∈ d.wakeAll.waiters, ∃ u ∈ d.waiters, u.id = v.id ∧ u.waiting = v.waiting := by
  intro v hv
  obtain ⟨u, hu, rfl⟩ := List.mem_map.mp hv
  exact ⟨u, hu, rfl, rfl⟩

/-- Where the story says nothing. -/
theorem quiet (h : d.Balanced ns) (ht : d'.pool.tally = d.pool.tally)
    (ha : d'.pool.active = d.pool.active)
    (hl : d'.leases.map (·.grant.flag) = d.leases.map (·.grant.flag))
    (hw : ∀ v ∈ d'.waiters, ∃ u ∈ d.waiters, u.id = v.id ∧ u.waiting = v.waiting)
    (hbegun : d'.begun = d.begun) : d'.Balanced (ns ++ []) := by
  refine h.aside ?_ rfl rfl (by rw [ht]) hl hw hbegun
  rw [List.append_nil]
  exact h.accounted.same (congrArg Tally.plain ht) ha

/-- Where the pool is drained, after its settings may have changed. -/
theorem drain (h : d.Balanced ns) (host : Host σ) {s : Site σ} (hd : d'.site = s.drain host)
    (ht : s.pool.tally = d.pool.tally) (ha : s.pool.active = d.pool.active)
    (hl : d'.leases = d.leases)
    (hw : ∀ v ∈ d'.waiters, ∃ u ∈ d.waiters, u.id = v.id ∧ u.waiting = v.waiting)
    (hbegun : d'.begun = d.begun) : d'.Balanced (ns ++ d.site.drainStory) := by
  have hstory : s.drainStory = d.site.drainStory := by
    rw [Site.drainStory, ha]
    rfl
  have hs : s.Accounted ns := h.accounted.same (congrArg Tally.plain ht) ha
  refine h.aside ?_ (Story.granted_drained _) (Story.blocked_drained _) ?_ (by rw [hl]) hw hbegun
  · rw [hd, ← hstory]
    exact hs.drain host
  · rw [pool, hd, Site.drain_pool]
    exact congrArg (·.hadToWait) ht

theorem closeUnused (h : d.Balanced ns) (host : Host σ) :
    (d.closeUnused host).Balanced (ns ++ d.closeStory) := by
  unfold Desk.closeUnused closeStory
  split
  · exact h.drain host rfl rfl rfl rfl (same_waiters d) rfl
  · rw [List.append_nil]
    exact h

/-- After a stretch of a checkout that ends. -/
theorem afterDone (h : d.Balanced ns) {id : Nat} {o : Outcome Grant} {s : Site σ}
    (hsite : s.Accounted (ns ++ ms))
    (hleases : ms.granted.map (·.1) = (Stretch.done o).leases.map (·.grant.flag))
    (hb : ms.blocked = []) (hwait : s.pool.tally.hadToWait = d.pool.tally.hadToWait) :
    (afterStretch d id (.done o, s)).2.Balanced (ns ++ ms) := by
  have hblocked : Story.blocked (ns ++ ms) = ns.blocked := by
    rw [Story.blocked_append, hb, List.append_nil]
  cases o with
  | error f =>
    refine ⟨hsite, ?_, ?_, hblocked ▸ h.counted, hblocked ▸ h.begun⟩
    · rw [Story.granted_append, List.map_append, hleases, h.leases]
      exact List.append_nil _
    · rw [hblocked, ← h.waited]
      exact hwait
  | ok g =>
    refine ⟨hsite, ?_, ?_, hblocked ▸ h.counted, hblocked ▸ h.begun⟩
    · rw [Story.granted_append, List.map_append, hleases, h.leases]
      exact List.map_append.symm
    · rw [hblocked, ← h.waited]
      exact hwait

/-- After a stretch of a checkout that waits, for the first time or again. -/
theorem afterWaits (h : d.Balanced ns) {id : Nat} {w : Waiting} {s : Site σ} (hid : id < d.begun)
    (hsite : s.Accounted (ns ++ ms)) (hg : ms.granted = []) (hb : ms.blocked = [])
    (hcounted : w.checkout.counted = true)
    (hwait : s.pool.tally.hadToWait =
      d.pool.tally.hadToWait + if id ∈ ns.blocked then 0 else 1) :
    (afterStretch d id (.waits w, s)).2.Balanced (ns ++ (ms ++ [.blocked id])) := by
  have hblocked : Story.blocked (ns ++ (ms ++ [.blocked id])) = ns.blocked ++ [id] := by
    rw [Story.blocked_append, Story.blocked_append, hb]
    rfl
  refine ⟨?_, ?_, ?_, fun v hv => ?_, fun k hk => ?_⟩
  · rw [← List.append_assoc]
    exact hsite.aside rfl rfl rfl rfl
  · rw [Story.granted_append, Story.granted_append, hg]
    exact (congrArg _ (List.append_nil _)).trans h.leases
  · rw [hblocked, card_toFinset_concat, ← h.waited]
    exact hwait
  · rw [hblocked]
    rcases List.mem_append.mp hv with hv | hv
    · obtain ⟨hc, hm⟩ := h.counted v hv
      exact ⟨hc, List.mem_append_left _ hm⟩
    · obtain rfl := List.mem_singleton.mp hv
      exact ⟨hcounted, List.mem_append_right _ (List.mem_singleton_self _)⟩
  · rw [hblocked] at hk
    rcases List.mem_append.mp hk with hk | hk
    · exact h.begun k hk
    · rw [List.mem_singleton.mp hk]
      exact hid

theorem afterStretch (h : d.Balanced ns) {id : Nat} (hid : id < d.begun) (s : Site σ) (spare : Nat)
    (c : Checkout) (hs : s.pool.tally.hadToWait = d.pool.tally.hadToWait)
    (hcounted : c.counted = true ↔ id ∈ ns.blocked) (haccounted : s.Accounted ns) :
    (afterStretch d id (Site.acquire host spare c s)).2.Balanced
      (ns ++ (s.acquireStory host spare ++ (Site.acquire host spare c s).1.story id)) := by
  have hsite := haccounted.acquire host spare c
  obtain ⟨hgranted, hblocked⟩ := Site.acquireStory_granted host spare c s
  have hwait := Site.acquire_hadToWait host spare c s
  generalize Site.acquire host spare c s = r at hsite hgranted hwait
  obtain ⟨x, t⟩ := r
  rcases hwait with ⟨w, rfl, hw, hcount⟩ | ⟨⟨o, rfl⟩, hcount⟩
  · have hg : (s.acquireStory host spare).granted = [] := List.map_eq_nil_iff.mp hgranted
    refine h.afterWaits hid hsite hg hblocked hw ?_
    rw [hcount, hs]
    simp only [hcounted]
  · rw [show (Stretch.done o).story id = [] from rfl, List.append_nil]
    exact h.afterDone hsite hgranted hblocked (hcount.trans hs)

theorem checkout (h : d.Balanced ns) (host : Host σ) (credentials : Option (String × String)) :
    (d.checkout host credentials).2.Balanced
      (ns ++ ((d.site.now host).2.proceedStory host
          { credentials, started := (d.site.now host).1 } ++
        (d.site.begin host credentials).1.story d.begun)) := by
  have hnext : Balanced { d with begun := d.begun + 1 } ns :=
    ⟨h.accounted, h.leases, h.waited, h.counted, fun k hk => Nat.lt_succ_of_lt (h.begun k hk)⟩
  refine hnext.afterStretch (Nat.lt_succ_self _) (d.site.now host).2 _ _ rfl ?_
    (h.accounted.same rfl rfl)
  exact ⟨nofun, fun hm => absurd (h.begun _ hm) (Nat.lt_irrefl _)⟩

theorem resume (h : d.Balanced ns) (hn : d.Numbered) (host : Host σ) {id : Nat} {v : Waiter}
    (hv : d.waiters.find? (·.id == id) = some v) :
    (Desk.afterStretch { d with waiters := d.waiters.eraseP (·.id == id) } id
      (d.site.resume host v.waiting)).2.Balanced
        (ns ++ (d.site.resumeStory host v.waiting ++
          (d.site.resume host v.waiting).1.story id)) := by
  have hm : v ∈ d.waiters := List.mem_of_find?_eq_some hv
  have hid : v.id = id := by simpa using List.find?_some hv
  obtain ⟨hcounted, hblocked⟩ := h.counted v hm
  have hleft : Balanced { d with waiters := d.waiters.eraseP (·.id == id) } ns :=
    ⟨h.accounted, h.leases, h.waited, fun u hu => h.counted u (List.mem_of_mem_eraseP hu), h.begun⟩
  have hwaited : (d.site.waited host v.waiting).Accounted ns := h.accounted.same rfl rfl
  by_cases hg : d.site.pool.generation = v.waiting.generation
  · rw [Site.resume_of_same hg, Site.resumeStory, if_pos hg]
    exact hleft.afterStretch (hid ▸ hn.begun v hm) _ _ _ rfl
      ⟨fun _ => hid ▸ hblocked, fun _ => hcounted⟩ hwaited
  · rw [Site.resume_of_other hg, Site.resumeStory, if_neg hg]
    have hsame : (d.site.waited host v.waiting).Accounted (ns ++ []) := by
      rwa [List.append_nil]
    exact hleft.afterDone hsame rfl rfl rfl

theorem markReleased (h : d.Balanced ns) (i : Nat) : (d.markReleased i).Balanced ns := by
  refine ⟨h.accounted, ?_, h.waited, h.counted, h.begun⟩
  have hgrants := congrArg (List.map (·.flag)) (Lease.grants_modify d.leases i)
  rw [h.leases]
  simpa [Desk.markReleased, Function.comp_def] using hgrants.symm

theorem giveBack (h : d.Balanced ns) (host : Host σ) (l : Lease) :
    (d.giveBack host l).Balanced (ns ++ d.site.giveBackStory host l.grant.flag) := by
  obtain ⟨hg, hb⟩ := Site.giveBackStory_granted host d.site l.grant.flag
  obtain ⟨hbegun, hw⟩ := giveBack_waiters host d l
  refine h.aside ?_ hg hb ?_ (by rw [giveBack_leases]) ?_ hbegun
  · rw [giveBack_site]
    exact h.accounted.giveBack host l.grant.flag
  · rw [pool, giveBack_site]
    exact Site.giveBack_hadToWait host d.site l.grant.flag
  · rw [hw]
    split
    · exact wakeAll_waiters d
    · exact same_waiters d

theorem closeOrphan (h : d.Balanced ns) (host : Host σ) (l : Lease) :
    (d.closeOrphan host l).Balanced (ns ++ []) := by
  unfold Desk.closeOrphan
  split <;> exact h.quiet rfl rfl rfl (same_waiters d) rfl

theorem release (h : d.Balanced ns) (host : Host σ) (i : Nat) :
    (d.release host i).Balanced (ns ++ d.eventStory host (.release i)) := by
  have hstory : d.eventStory host (.release i) =
      match d.leases[i]? with
      | none => []
      | some l =>
        if l.released || !d.isOpen then [] else d.site.giveBackStory host l.grant.flag := rfl
  rw [hstory]
  unfold Desk.release
  cases d.leases[i]? with
  | none => exact h.quiet rfl rfl rfl (same_waiters d) rfl
  | some l =>
    dsimp only
    cases l.released with
    | true => exact h.quiet rfl rfl rfl (same_waiters d) rfl
    | false =>
      cases d.isOpen with
      | false => exact (h.markReleased i).closeOrphan host l
      | true => exact (h.markReleased i).giveBack host l

theorem step (h : d.Balanced ns) (hn : d.Numbered) (host : Host σ) (e : Event) :
    (d.step host e).Balanced (ns ++ d.eventStory host e) := by
  unfold Desk.step eventStory
  split
  · exact h.quiet rfl rfl rfl (same_waiters d) rfl
  · cases e with
    | checkout credentials => exact h.checkout host credentials
    | resume id =>
      dsimp only
      unfold Desk.resume
      cases hv : d.waiters.find? (·.id == id) with
      | none => exact h.quiet rfl rfl rfl (same_waiters d) rfl
      | some v =>
        have hclosed := (h.resume hn host hv).closeUnused host
        rw [List.append_assoc] at hclosed
        exact hclosed
    | release i => exact h.release host i
    | call i k =>
      dsimp only
      cases d.leases[i]? with
      | none => exact h.quiet rfl rfl rfl (same_waiters d) rfl
      | some l =>
        dsimp only [Option.elim]
        unfold Desk.call
        split <;> exact h.quiet rfl rfl rfl (same_waiters d) rfl
    | isClosed i =>
      dsimp only
      cases d.leases[i]? with
      | none => exact h.quiet rfl rfl rfl (same_waiters d) rfl
      | some l =>
        dsimp only [Option.elim]
        unfold Desk.isClosed
        split <;> exact h.quiet rfl rfl rfl (same_waiters d) rfl
    | interrupt => exact h.quiet rfl rfl rfl (wakeAll_waiters d) rfl
    | shutdown => exact h.drain host rfl rfl rfl rfl (wakeAll_waiters d) rfl
    | drain => exact h.drain host rfl rfl rfl rfl (same_waiters d) rfl
    | configure setting =>
      dsimp only
      unfold Desk.configure Site.configure
      cases hset : d.site.pool.set setting with
      | error f => exact h.quiet rfl rfl rfl (same_waiters d) rfl
      | ok p =>
        obtain ⟨source, config, rfl⟩ := Pool.set_ok hset
        exact h.drain host rfl rfl rfl rfl (same_waiters d) rfl
    | letGo =>
      have hfree : Balanced { d with isHeld := false } ns :=
        ⟨h.accounted, h.leases, h.waited, h.counted, h.begun⟩
      exact hfree.closeUnused host

end Balanced

section

variable {host : Host σ} {d : Desk σ} {w : σ} {ns : Story}

theorem drainStory_lasted (s : Site σ) (least : Nat) : ∀ n ∈ s.drainStory, n.Lasted least := by
  intro n hn
  obtain ⟨r, -, rfl⟩ := List.mem_map.mp hn
  trivial

theorem closeStory_lasted (d : Desk σ) (least : Nat) : ∀ n ∈ d.closeStory, n.Lasted least := by
  unfold closeStory
  split
  · exact drainStory_lasted d.site least
  · exact fun n hn => absurd hn List.not_mem_nil

theorem stretchStory_lasted (id : Nat) (x : Stretch) (least : Nat) :
    ∀ n ∈ x.story id, n.Lasted least := by
  intro n hn
  cases x with
  | done o => exact absurd hn List.not_mem_nil
  | waits w =>
    rw [List.mem_singleton.mp hn]
    trivial

theorem eventStory_lasted (hord : d.site.Ordered host w) (hclock : host.KeepsTime w) (e : Event) :
    ∀ n ∈ d.eventStory host e,
      n.Lasted (d.pool.config.maxCheckoutTime.toNat * nanosPerMilli) := by
  have hread : (d.site.now host).2.Ordered host w :=
    hord.sublist (d.site.before_now host) (List.Sublist.refl _)
  have hnone : ∀ n ∈ ([] : Story), n.Lasted (d.pool.config.maxCheckoutTime.toNat * nanosPerMilli) :=
    fun n hn => absurd hn List.not_mem_nil
  unfold eventStory
  split
  · exact hnone
  · cases e with
    | checkout credentials =>
      refine List.forall_mem_append.mpr ⟨?_, stretchStory_lasted _ _ _⟩
      exact hread.acquireStory_lasted hclock _
    | resume id =>
      dsimp only
      cases d.waiters.find? (·.id == id) with
      | none => exact hnone
      | some v =>
        refine List.forall_mem_append.mpr ⟨List.forall_mem_append.mpr ⟨?_,
          stretchStory_lasted _ _ _⟩, closeStory_lasted _ _⟩
        unfold Site.resumeStory
        split
        · have hwaited : (d.site.waited host v.waiting).Ordered host w :=
            hord.sublist (d.site.before_now host) (List.Sublist.refl _)
          exact hwaited.acquireStory_lasted hclock _
        · exact hnone
    | release i =>
      dsimp only
      cases d.leases[i]? with
      | none => exact hnone
      | some l =>
        dsimp only
        split
        · exact hnone
        · exact hord.giveBackStory_lasted l.grant.flag _
    | shutdown => exact drainStory_lasted _ _
    | drain => exact drainStory_lasted _ _
    | configure setting =>
      dsimp only
      cases d.site.pool.set setting with
      | error f => exact hnone
      | ok p => exact drainStory_lasted _ _
    | letGo => exact closeStory_lasted _ _
    | _ => exact hnone

end

theorem run_balanced (host : Host σ) (source : Source) (config : PoolConfig) (w : σ)
    (es : List Event) :
    ((start source config w).run host es).Balanced ((start source config w).story host es) := by
  induction es using List.reverseRecOn with
  | nil => exact ⟨⟨rfl, .nil⟩, rfl, rfl, nofun, nofun⟩
  | append_singleton es e ih =>
    rw [run_concat, story_concat]
    exact ih.step ((start_numbered source config w).run host es) host e

/-- While the clock does not go back and the limit is never lower, every claim comes after it. -/
theorem run_lasted (host : Host σ) (source : Source) (config : PoolConfig) (w : σ)
    (hclock : host.KeepsTime w) {least : Nat} (es : List Event)
    (hlimit : ∀ fs, fs <+: es → least ≤
      ((start source config w).run host fs).pool.config.maxCheckoutTime.toNat * nanosPerMilli) :
    ∀ n ∈ (start source config w).story host es, n.Lasted least := by
  induction es using List.reverseRecOn with
  | nil => exact fun n hn => absurd hn List.not_mem_nil
  | append_singleton es e ih =>
    rw [story_concat]
    refine List.forall_mem_append.mpr ⟨ih fun fs hfs => ?_, fun n hn => ?_⟩
    · exact hlimit fs (hfs.trans (List.prefix_append _ _))
    · have hord := run_ordered host source config w hclock es
      exact (eventStory_lasted hord hclock e n hn).mono (hlimit es (List.prefix_append _ _))

end Desk

/-- The counters do not wrap, and the times are below 2^64 milliseconds. -/
structure Tally.Fits (t : Tally) : Prop where
  requestCount : t.requestCount < UInt64.size
  claimedOverdue : t.claimedOverdue < UInt64.size
  hadToWait : t.hadToWait < UInt64.size
  badConnections : t.badConnections < UInt64.size
  checkoutTime : t.checkoutTime / nanosPerMilli < UInt64.size
  overdueCheckoutTime : t.overdueCheckoutTime / nanosPerMilli < UInt64.size

namespace Pool

variable {p : Pool}

theorem toNat_millis {ns : Nat} (h : ns / nanosPerMilli < UInt64.size) :
    (millis ns).toNat = ns / nanosPerMilli := by
  have hsize : UInt64.size = 18446744073709551616 := rfl
  rw [millis, Nat.min_eq_left (by omega), UInt64.toNat_ofNat_of_lt' h]

/-- The report shows what has been counted, times in whole milliseconds. -/
structure Reports (p : Pool) : Prop where
  requestCount : p.stats.requestCount.toNat = p.tally.requestCount
  claimedOverdue : p.stats.claimedOverdue.toNat = p.tally.claimedOverdue
  hadToWait : p.stats.hadToWait.toNat = p.tally.hadToWait
  badConnections : p.stats.badConnections.toNat = p.tally.badConnections
  checkoutTime : p.stats.checkoutTime.toNat = p.tally.checkoutTime / nanosPerMilli
  overdueCheckoutTime :
    p.stats.overdueCheckoutTime.toNat = p.tally.overdueCheckoutTime / nanosPerMilli

theorem reports_of_fits (h : p.tally.Fits) : p.Reports where
  requestCount := UInt64.toNat_ofNat_of_lt' h.requestCount
  claimedOverdue := UInt64.toNat_ofNat_of_lt' h.claimedOverdue
  hadToWait := UInt64.toNat_ofNat_of_lt' h.hadToWait
  badConnections := UInt64.toNat_ofNat_of_lt' h.badConnections
  checkoutTime := toNat_millis h.checkoutTime
  overdueCheckoutTime := toNat_millis h.overdueCheckoutTime

/-- Cutting times to milliseconds, and their sum to a whole average, does not get below a bound that
is a whole number of milliseconds itself. -/
theorem Reports.le_average (h : p.Reports) {limit : UInt64} (hsome : 0 < p.tally.claimedOverdue)
    (hlong : p.tally.claimedOverdue * (limit.toNat * nanosPerMilli) ≤ p.tally.overdueCheckoutTime) :
    limit ≤ p.stats.averageOverdueCheckoutTime := by
  have hcount : p.stats.claimedOverdue ≠ 0 := by
    intro hzero
    have hn := h.claimedOverdue
    rw [hzero] at hn
    exact Nat.ne_of_lt hsome hn
  rw [PoolStats.averageOverdueCheckoutTime, PoolStats.average, if_neg hcount,
    UInt64.le_iff_toNat_le, UInt64.toNat_div, h.overdueCheckoutTime, h.claimedOverdue]
  have hpos : 0 < nanosPerMilli := by decide
  rw [Nat.le_div_iff_mul_le hsome, Nat.le_div_iff_mul_le hpos, Nat.mul_right_comm]
  calc limit.toNat * nanosPerMilli * p.tally.claimedOverdue
      = p.tally.claimedOverdue * (limit.toNat * nanosPerMilli) := Nat.mul_comm _ _
    _ ≤ p.tally.overdueCheckoutTime := hlong

end Pool

namespace Desk

variable {σ : Type}

/-- The counters of a pool against the story of its checkouts. -/
structure Accounts (d : Desk σ) (ns : Story) : Prop where
  /-- The checkouts that succeeded have leases, each one its own. -/
  leases : ns.granted.map (·.1) = d.leases.map (·.grant.flag)
  distinct : (ns.granted.map (·.1)).Nodup
  /-- Each of them is out, or has ended once. -/
  parted : ns.granted.Perm (d.pool.active.map Record.stamp ++ ns.ended)
  served : d.pool.tally.requestCount = d.leases.length
  requests : d.pool.tally.requestCount = d.pool.active.length + d.pool.tally.claimedOverdue +
    ns.countP Note.isReturn + ns.countP Note.isDrain
  claims : d.pool.tally.claimedOverdue = ns.countP Note.isClaim
  waited : d.pool.tally.hadToWait = ns.blocked.toFinset.card
  bad : d.pool.tally.badConnections = ns.countP Note.isBad
  held : d.pool.tally.checkoutTime = ns.heldTime
  overdue : d.pool.tally.overdueCheckoutTime = ns.overdueTime
  overdue_le : d.pool.tally.overdueCheckoutTime ≤ d.pool.tally.checkoutTime

theorem Balanced.accounts {d : Desk σ} {ns : Story} (h : d.Balanced ns)
    (honce : (d.leases.map (·.grant.flag)).Nodup) : d.Accounts ns := by
  have htally := h.accounted.tally
  have hrequests : d.pool.tally.requestCount = ns.granted.length :=
    congrArg (·.requestCount) htally
  have hclaims : d.pool.tally.claimedOverdue = ns.countP Note.isClaim :=
    congrArg (·.claimedOverdue) htally
  have hheld : d.pool.tally.checkoutTime = ns.heldTime := congrArg (·.checkoutTime) htally
  have hoverdue : d.pool.tally.overdueCheckoutTime = ns.overdueTime :=
    congrArg (·.overdueCheckoutTime) htally
  refine ⟨h.leases, h.leases ▸ honce, h.accounted.parted, ?_, ?_, hclaims, h.waited,
    congrArg (·.badConnections) htally, hheld, hoverdue, ?_⟩
  · have hlength := congrArg List.length h.leases
    simpa [hrequests] using hlength
  · have hlength := h.accounted.parted.length_eq
    rw [List.length_append, List.length_map, Story.length_ended] at hlength
    rw [hrequests, hlength, hclaims, pool]
    omega
  · rw [hheld, hoverdue]
    exact ns.overdueTime_le

/-- Every checkout is accounted for, each exactly once. While the clock does not go back, times are
times in which a connection was really held; and where the limit for them was never changed, the
connections claimed were held for longer on average. -/
theorem run_accounts (host : Host σ) (source : Source) (config : PoolConfig) (w : σ)
    (es : List Event) :
    let d := (start source config w).run host es
    let ns := (start source config w).story host es
    d.Accounts ns ∧ (d.pool.tally.Fits → d.pool.Reports) ∧
      (host.KeepsTime w → (∀ n ∈ ns, n.Lasted 0) ∧
        (d.pool.tally.Fits → 0 < d.pool.tally.claimedOverdue →
          (∀ fs, fs <+: es → ((start source config w).run host fs).pool.config = config) →
          config.maxCheckoutTime ≤ d.pool.stats.averageOverdueCheckoutTime)) := by
  intro d ns
  have hbalanced : d.Balanced ns := run_balanced host source config w es
  have honce : (d.leases.map (·.grant.flag)).Nodup := by
    have hd : d = ((start source config w).watched.history host es).forget :=
      run_eq_forget host _ es
    rw [hd]
    exact ((start_sound source config w).history host es).orderly.marked.lease_once
  have haccounts := hbalanced.accounts honce
  refine ⟨haccounts, Pool.reports_of_fits, fun hclock => ⟨?_, fun hfits hsome hconfig => ?_⟩⟩
  · exact run_lasted host source config w hclock es fun fs _ => Nat.zero_le _
  · have hlasted : ∀ n ∈ ns, n.Lasted (config.maxCheckoutTime.toNat * nanosPerMilli) :=
      run_lasted host source config w hclock es fun fs hfs => by rw [hconfig fs hfs]
    refine (Pool.reports_of_fits hfits).le_average hsome ?_
    rw [haccounts.claims, haccounts.overdue]
    exact Story.countP_claims_mul_le hlasted

theorem hurried_keepsTime (w : World) : hurried.KeepsTime w := by
  have hleads : ∀ u v : World, hurried.Leads u v → World.host.Leads u v := by
    intro u v h
    cases h with
    | now => exact .now
    | serial c => exact .serial c
    | connect driver url properties => exact .connect driver url properties
    | call c k => exact .call c k
    | close c => exact .close c
    | isClosed c => exact .isClosed c
  intro u v hu hv
  exact Nat.mul_le_mul_right _ (World.keepsTime w u v (Relation.ReflTransGen.mono hleads _ _ hu)
    (Relation.ReflTransGen.mono hleads _ _ hv))

/-- The second checkout claims the connection of the first one, and both holders give it back. -/
theorem accounts_after_claim :
    let source : Source := { driver := "mock", url := "mock:db" }
    let config : PoolConfig := { maxActive := 1, maxCheckoutTime := 2 }
    let es : List Event := [.checkout none, .checkout none, .release 0, .release 1]
    hurried.KeepsTime ({} : World) ∧
      ((start source config {}).run hurried es).pool.tally.claimedOverdue = 1 ∧
      ((start source config {}).run hurried es).Accounts
        ((start source config {}).story hurried es) ∧
      config.maxCheckoutTime ≤
        ((start source config {}).run hurried es).pool.stats.averageOverdueCheckoutTime := by
  intro source config es
  have hclaimed : ((start source config {}).run hurried es).pool.tally.claimedOverdue = 1 := by
    decide
  have hfits : ((start source config {}).run hurried es).pool.tally.Fits :=
    ⟨by decide, by decide, by decide, by decide, by decide, by decide⟩
  have hconfig : ∀ fs ∈ es.inits,
      ((start source config {}).run hurried fs).pool.config = config := by
    decide
  obtain ⟨haccounts, -, hclock⟩ := run_accounts hurried source config {} es
  obtain ⟨-, haverage⟩ := hclock (hurried_keepsTime {})
  refine ⟨hurried_keepsTime {}, hclaimed, haccounts, haverage hfits ?_ fun fs hfs => ?_⟩
  · rw [hclaimed]
    exact Nat.one_pos
  · exact hconfig fs ((List.mem_inits _ _).mpr hfs)

end Desk
end ConnPool
