import ConnPool.Proofs.Effects
import ConnPool.Proofs.Flags
import ConnPool.Proofs.Operations
import ConnPool.Proofs.Watching

namespace ConnPool

/-- A change of a setting leaves everything but the settings as it is. -/
theorem Pool.set_ok {p q : Pool} {setting : Pool.Setting} (h : p.set setting = .ok q) :
    ∃ source config, q = { p with source, config } := by
  cases setting with
  | maxActive n =>
    cases hc : p.config.withMaxActive n with
    | error f => simp [Pool.set, hc, Except.map] at h
    | ok config =>
      simp only [Pool.set, hc, Except.map, Except.ok.injEq] at h
      exact ⟨p.source, config, h.symm⟩
  | _ =>
    obtain rfl := Except.ok.inj h
    exact ⟨_, _, rfl⟩

namespace Desk

variable {σ : Type} (host : Host σ)

def start (source : Source) (config : PoolConfig) (w : σ) : Desk σ :=
  .ofPool (.ofSource source config) w

def run (d : Desk σ) (es : List Event) : Desk σ := es.foldl (fun d e => d.step host e) d

theorem run_concat (host : Host σ) (d : Desk σ) (es : List Event) (e : Event) :
    d.run host (es ++ [e]) = (d.run host es).step host e := by
  simp [run]

/-- One event after the other, with a ledger of what is done with the connections. -/
def history (d : Desk (σ × Ledger)) (es : List Event) : Desk (σ × Ledger) :=
  es.foldl (fun d e => d.step (host.withLedger e.party) e) d

def watched (d : Desk σ) : Desk (σ × Ledger) := d.withWorld (d.site.world, [])

/-- What is done with connections while one event after the other happens. -/
def ledger (d : Desk σ) (es : List Event) : Ledger := (d.watched.history host es).site.world.2

/-- With the ledger left out, the history is the run. -/
theorem history_forget (d : Desk (σ × Ledger)) (es : List Event) :
    (d.history host es).forget = d.forget.run host es := by
  induction es generalizing d with
  | nil => rfl
  | cons e es ih =>
    rw [run, List.foldl_cons, step_forget host e.party]
    exact ih _

theorem run_eq_forget (d : Desk σ) (es : List Event) :
    d.run host es = (d.watched.history host es).forget :=
  (history_forget host d.watched es).symm

theorem history_append (d : Desk (σ × Ledger)) (es fs : List Event) :
    d.history host (es ++ fs) = (d.history host es).history host fs :=
  List.foldl_append

def scene (d : Desk (σ × Ledger)) : Scene := d.site.scene d.leases .empty

def tracked {τ : Type} (d : Desk τ) : List ConnId := (d.pool.idle ++ d.pool.active).map (·.conn)

/-- A pool that is gone has no connections, and nobody asks it for any. -/
def Settled {τ : Type} (d : Desk τ) : Prop :=
  d.isOpen = false →
    d.isHeld = false ∧ d.waiters = [] ∧ d.pool.idle = [] ∧ d.pool.active = []

section Paths

variable (d : Desk (σ × Ledger))

theorem afterStretch_scene (id : Nat) (r : Stretch × Site (σ × Ledger)) :
    (afterStretch d id r).2.scene = r.2.scene (d.leases ++ r.1.leases) .empty := by
  obtain ⟨(f | g) | w, s⟩ := r <;> simp [afterStretch, scene, Stretch.leases]

theorem checkout_path (credentials : Option (String × String)) :
    Path d.scene (d.checkout (host.withLedger .pool) credentials).2.scene := by
  rw [checkout, afterStretch_scene]
  exact d.site.begin_path host credentials

theorem drain_path : Path d.scene (d.drain (host.withLedger .pool)).scene :=
  d.site.drain_path host d.pool.source d.pool.config d.pool.expected

theorem closeUnused_path : Path d.scene (d.closeUnused (host.withLedger .pool)).scene := by
  unfold closeUnused
  split
  · exact d.drain_path host
  · exact .refl

theorem resume_path (id : Nat) :
    Path d.scene (d.resume (host.withLedger .pool) id).2.scene := by
  unfold resume
  split
  · exact .refl
  · rename_i w hw
    refine .trans ?_ (closeUnused_path host _)
    rw [afterStretch_scene]
    exact d.site.resume_path host w.waiting

theorem giveBack_path {i : Nat} {l : Lease} (hl : d.leases[i]? = some l)
    (hu : l.released = false) :
    Path d.scene ((d.markReleased i).giveBack (host.withLedger .pool) l).scene := by
  have hp := d.site.giveBack_path host hl hu
  unfold giveBack
  dsimp only
  split <;> exact hp

/-- Once the pool is gone, no lease that is out is valid. -/
theorem invalid_of_gone {l : Lease} (ho : Orderly d.scene) (hs : d.Settled)
    (hgone : d.isOpen = false) (hl : l ∈ d.leases) (hu : l.released = false) :
    d.isValid l = false := by
  obtain ⟨-, -, -, hactive⟩ := hs hgone
  refine Bool.eq_false_iff.mpr fun hv => ?_
  obtain ⟨r, hr, -⟩ := ho.live l hl hu hv
  have hr : r ∈ d.pool.active := by simpa [scene, Site.scene, Hand.records, pool] using hr
  rw [hactive] at hr
  exact List.not_mem_nil hr

/-- So its connection is left alone. -/
theorem closeOrphan_path {i : Nat} {l : Lease} (ho : Orderly d.scene) (hs : d.Settled)
    (hgone : d.isOpen = false) (hl : d.leases[i]? = some l) (hu : l.released = false) :
    Path d.scene ((d.markReleased i).closeOrphan (host.withLedger .pool) l).scene := by
  have hinvalid := d.invalid_of_gone ho hs hgone (List.mem_of_getElem? hl) hu
  obtain ⟨-, -, -, hactive⟩ := hs hgone
  have hkeep : (d.markReleased i).closeOrphan (host.withLedger .pool) l = d.markReleased i :=
    if_neg (Bool.eq_false_iff.mp hinvalid)
  rw [hkeep]
  refine .single (.stale i l rfl hl hu fun r hr => ?_)
  have hr : r ∈ d.pool.active := hr
  rw [hactive] at hr
  exact absurd hr List.not_mem_nil

theorem release_path (ho : Orderly d.scene) (hs : d.Settled) (i : Nat) :
    Path d.scene (d.release (host.withLedger .pool) i).scene := by
  unfold release
  cases hl : d.leases[i]? with
  | none => exact .refl
  | some l =>
    dsimp only
    split
    · exact .refl
    · rename_i hu
      have hu : l.released = false := by simpa using hu
      split
      · exact d.giveBack_path host hl hu
      · rename_i hgone
        exact d.closeOrphan_path host ho hs (by simpa using hgone) hl hu

theorem call_path {l : Lease} (hl : l ∈ d.leases) (k : Call) :
    Path d.scene (d.call (host.withLedger .holder) l k).2.scene := by
  unfold call
  split
  · rename_i hv
    let answer := (host.call l.grant.conn k d.site.world.1).1
    exact .single (.use ⟨.holder, l.grant.conn, .called k answer⟩ l rfl hl hv rfl rfl rfl)
  · exact .refl

theorem isClosed_path {l : Lease} (hl : l ∈ d.leases) :
    Path d.scene (d.isClosed (host.withLedger .holder) l).2.scene := by
  unfold isClosed
  split
  · exact .refl
  · rename_i hv
    have hv : l.released = false ∧ d.isValid l = true := by simpa using hv
    let answer := (host.isClosed l.grant.conn d.site.world.1).1
    exact .single (.use ⟨.holder, l.grant.conn, .asked answer⟩ l rfl hl hv.2 rfl rfl rfl)

theorem configure_path (setting : Pool.Setting) :
    Path d.scene (d.configure (host.withLedger .pool) setting).2.scene := by
  unfold configure Site.configure
  cases hset : d.site.pool.set setting with
  | error f => exact .refl
  | ok p =>
    obtain ⟨source, config, rfl⟩ := Pool.set_ok hset
    exact Site.drain_path host { d.site with pool := { d.site.pool with source, config } }
      d.pool.source d.pool.config d.pool.expected

theorem step_path (ho : Orderly d.scene) (hs : d.Settled) (e : Event) :
    Path d.scene (d.step (host.withLedger e.party) e).scene := by
  unfold step
  split
  · exact .refl
  · cases e with
    | checkout credentials => exact d.checkout_path host credentials
    | resume id => exact d.resume_path host id
    | release i => exact d.release_path host ho hs i
    | call i k =>
      dsimp only
      cases hl : d.leases[i]? with
      | none => exact .refl
      | some l => exact d.call_path host (List.mem_of_getElem? hl) k
    | isClosed i =>
      dsimp only
      cases hl : d.leases[i]? with
      | none => exact .refl
      | some l => exact d.isClosed_path host (List.mem_of_getElem? hl)
    | interrupt => exact .refl
    | shutdown =>
      exact Site.drain_path host d.site.interrupt d.pool.source d.pool.config d.pool.expected
    | drain => exact d.drain_path host
    | configure setting => exact d.configure_path host setting
    | letGo => exact closeUnused_path host { d with isHeld := false }

end Paths

section Settled

variable {d : Desk σ}

theorem settled_of_isOpen (h : d.isOpen = true) : d.Settled := by
  simp [Settled, h]

theorem Settled.closeUnused (h : d.Settled) : (d.closeUnused host).Settled := by
  unfold Desk.closeUnused
  split
  · rename_i hc
    simp only [Bool.and_eq_true, Bool.not_eq_true', List.isEmpty_iff] at hc
    obtain ⟨hidle, hactive⟩ := d.site.drain_lists host
    exact fun _ => ⟨hc.1.2, hc.2, hidle, hactive⟩
  · exact h

theorem afterStretch_isOpen (id : Nat) (r : Stretch × Site σ) :
    (afterStretch d id r).2.isOpen = d.isOpen := by
  obtain ⟨(f | g) | w, s⟩ := r <;> rfl

theorem giveBack_isOpen (l : Lease) : (d.giveBack host l).isOpen = d.isOpen := by
  unfold giveBack
  dsimp only
  split <;> rfl

theorem Settled.resume (h : d.Settled) (id : Nat) : (d.resume host id).2.Settled := by
  unfold Desk.resume
  split
  · exact h
  · rename_i w hw
    refine Settled.closeUnused host ?_
    cases ho : d.isOpen with
    | true => exact settled_of_isOpen ((afterStretch_isOpen id _).trans (by simp))
    | false => simp [(h ho).2.1] at hw

theorem Settled.release (h : d.Settled) (i : Nat) : (d.release host i).Settled := by
  unfold Desk.release
  split
  · exact h
  · split
    · exact h
    · split
      · rename_i ho
        exact settled_of_isOpen ((giveBack_isOpen host _).trans ho)
      · unfold closeOrphan
        split <;> exact h

theorem Settled.call (h : d.Settled) (l : Lease) (k : Call) : (d.call host l k).2.Settled := by
  unfold Desk.call
  split <;> exact h

theorem Settled.isClosed (h : d.Settled) (l : Lease) : (d.isClosed host l).2.Settled := by
  unfold Desk.isClosed
  split <;> exact h

theorem Settled.drain (h : d.Settled) : (d.drain host).Settled := by
  obtain ⟨hidle, hactive⟩ := d.site.drain_lists host
  exact fun ho => ⟨(h ho).1, (h ho).2.1, hidle, hactive⟩

theorem Settled.configure (h : d.Settled) (setting : Pool.Setting) :
    (d.configure host setting).2.Settled := by
  unfold Desk.configure Site.configure
  split
  · exact h
  · rename_i p hp
    obtain ⟨hidle, hactive⟩ := Site.drain_lists host { d.site with pool := p }
    exact fun ho => ⟨(h ho).1, (h ho).2.1, hidle, hactive⟩

theorem Settled.step (h : d.Settled) (e : Event) : (d.step host e).Settled := by
  unfold Desk.step
  split
  · exact h
  · rename_i hheld
    cases e with
    | checkout credentials =>
      cases ho : d.isOpen with
      | true => exact settled_of_isOpen ((afterStretch_isOpen _ _).trans ho)
      | false => simp [Event.isOfHolder, (h ho).1] at hheld
    | resume id => exact h.resume host id
    | release i => exact h.release host i
    | call i k =>
      dsimp only
      cases d.leases[i]? with
      | none => exact h
      | some l => exact h.call host l k
    | isClosed i =>
      dsimp only
      cases d.leases[i]? with
      | none => exact h
      | some l => exact h.isClosed host l
    | interrupt => exact fun ho => ⟨(h ho).1, by simp [Desk.interrupt, wakeAll, (h ho).2.1],
        (h ho).2.2.1, (h ho).2.2.2⟩
    | shutdown =>
      obtain ⟨hidle, hactive⟩ := d.site.interrupt.drain_lists host
      exact fun ho => ⟨(h ho).1, by simp [Desk.shutdown, wakeAll, (h ho).2.1], hidle, hactive⟩
    | drain => exact h.drain host
    | configure setting => exact h.configure host setting
    | letGo =>
      refine Settled.closeUnused host fun ho => ?_
      exact ⟨rfl, (h ho).2⟩

end Settled

variable {d : Desk (σ × Ledger)}

/-- What is true between two events, whatever drivers and connections do. -/
structure Sound (d : Desk (σ × Ledger)) : Prop where
  orderly : Orderly d.scene
  settled : d.Settled

theorem start_sound (source : Source) (config : PoolConfig) (w : σ) :
    (start source config w).watched.Sound where
  orderly := ⟨⟨nofun, nofun, nofun, .nil, nofun, .nil⟩, nofun, nofun, nofun, nofun, nofun⟩
  settled := settled_of_isOpen rfl

theorem Sound.step (h : d.Sound) (e : Event) : (d.step (host.withLedger e.party) e).Sound where
  orderly := h.orderly.path (d.step_path host h.orderly h.settled e)
  settled := h.settled.step _ e

theorem Sound.history (h : d.Sound) (es : List Event) : (d.history host es).Sound := by
  induction es generalizing d with
  | nil => exact h
  | cons e es ih => exact ih (h.step host e)

theorem Sound.history_path (h : d.Sound) (es : List Event) :
    Path d.scene (d.history host es).scene := by
  induction es generalizing d with
  | nil => exact .refl
  | cons e es ih => exact (d.step_path host h.orderly h.settled e).trans (ih (h.step host e))

section

variable {host} {e : Event}

theorem stretch_forget (host : Host σ) (d : Desk (σ × Ledger)) (e : Event) :
    d.forget.stretch? host e =
      (d.stretch? (host.withLedger .pool) e).map fun r => (r.1, r.2.forget) := by
  have hsite : d.forget.site = d.site.forget := rfl
  cases e with
  | checkout credentials =>
    have hheld : d.forget.isHeld = d.isHeld := rfl
    rw [stretch?, stretch?, hheld, hsite, d.site.begin_forget host .pool]
    cases d.isHeld <;> rfl
  | resume id =>
    have hwaiters : d.forget.waiters = d.waiters := rfl
    rw [stretch?, stretch?, hwaiters, hsite]
    cases d.waiters.find? (·.id == id) with
    | none => rfl
    | some v => exact congrArg some (d.site.resume_forget host .pool v.waiting)
  | _ => rfl

theorem stretch_path {r : Stretch × Site (σ × Ledger)}
    (h : d.stretch? (host.withLedger .pool) e = some r) :
    Path d.scene (r.2.scene (d.leases ++ r.1.leases) .empty) := by
  cases e with
  | checkout credentials =>
    simp only [stretch?] at h
    split at h
    · obtain rfl := Option.some.inj h
      exact d.site.begin_path host credentials
    · cases h
  | resume id =>
    obtain ⟨v, -, rfl⟩ := Option.map_eq_some_iff.mp h
    exact d.site.resume_path host v.waiting
  | _ => cases h

/-- Records that are active after a stretch have valid flags. -/
theorem Sound.stretch_valid (hs : d.Sound) {r : Stretch × Site σ}
    (h : d.forget.stretch? host e = some r) :
    ∀ q ∈ r.2.pool.active, r.2.pool.flags.isValid q.flag = true := by
  rw [stretch_forget] at h
  obtain ⟨r', hr', rfl⟩ := Option.map_eq_some_iff.mp h
  have horderly := hs.orderly.path (stretch_path hr')
  intro q hq
  exact horderly.valid_of_record (List.mem_append_right _ (List.mem_append_right _ hq))

end

end Desk
end ConnPool
