import ConnPool.Proofs.Custody
import ConnPool.Proofs.Leases
import Mathlib.Data.List.Induction

namespace ConnPool

namespace Move

variable {x y : Scene}

theorem next_le (h : Move x y) : x.flags.next ≤ y.flags.next := by
  cases h with
  | wrap c id now hand => exact Nat.le_succ _
  | renew r now hand => exact Nat.le_succ _
  | _ => exact Nat.le_refl _

/-- Only flags of records are revoked. -/
theorem valid_stays (h : Move x y) {f : FlagId} (hf : f ∉ x.recordFlags)
    (hv : x.flags.isValid f = true) : y.flags.isValid f = true := by
  have hne : ∀ r ∈ x.hand.records, f ≠ r.flag := fun r hr he =>
    hf (List.mem_map.mpr ⟨r, List.mem_append_left _ hr, he.symm⟩)
  cases h with
  | renew r now hand =>
    simpa [hv] using hne r (Hand.mem_records_of_taken (by simp [hand]))
  | retire r hand => simpa [hv] using hne r (by simp [hand, Hand.records])
  | revoke r rest hand => simpa [hv] using hne r (by simp [hand, Hand.records])
  | _ => exact hv

/-- The records are those from before, but for one that has the next flag. -/
theorem recordFlags_of (h : Move x y) {f : FlagId} (hf : f ∈ y.recordFlags) :
    f ∈ x.recordFlags ∨ f = x.flags.next := by
  obtain ⟨r, hr, rfl⟩ := List.mem_map.mp hf
  cases h with
  | wrap c id now hand =>
    rcases List.mem_cons.mp hr with rfl | hr
    · exact .inr rfl
    · exact .inl (List.mem_map_of_mem (List.mem_append_right _ hr))
  | renew q now hand =>
    rcases List.mem_cons.mp hr with rfl | hr
    · exact .inr rfl
    · exact .inl (List.mem_map_of_mem (List.mem_append_right _ hr))
  | grant q code now hand kept =>
    simp only [Scene.records, Hand.records, List.nil_append, ← List.append_assoc, List.mem_append,
      List.mem_singleton] at hr
    rcases hr with hr | rfl
    · exact .inl (List.mem_map_of_mem (List.mem_append_right _ (List.mem_append.mpr hr)))
    · refine .inl (List.mem_map.mpr ⟨q, ?_, rfl⟩)
      simp [Scene.records, hand, Hand.records]
  | takeBack i l q empty lease unreleased found =>
    have hp := (perm_of_find? found).mem_iff (a := r)
    refine .inl (List.mem_map_of_mem ?_)
    simp only [Scene.records, Hand.records, Scene.markReleased, List.mem_append, List.mem_cons,
      List.not_mem_nil, or_false] at hr hp ⊢
    tauto
  | clear source config empty =>
    refine .inl (List.mem_map_of_mem ?_)
    simp only [Scene.records, Hand.records, List.mem_append, List.mem_reverse, List.not_mem_nil,
      or_false] at hr ⊢
    exact .inr hr.symm
  | takeIdle q rest empty front | claim q rest empty front =>
    refine .inl (List.mem_map_of_mem ?_)
    simp only [Scene.records, Hand.records, front, List.mem_append, List.mem_cons,
      List.not_mem_nil, or_false] at hr ⊢
    tauto
  | keep q hand kept room | retire q hand | revoke q rest hand =>
    refine .inl (List.mem_map_of_mem ?_)
    simp only [Scene.records, Hand.records, hand, List.mem_append, List.mem_cons,
      List.not_mem_nil, or_false, false_or] at hr ⊢
    tauto
  | reject q hand parted =>
    exact .inl (List.mem_map_of_mem (List.mem_append_right _ hr))
  | «open» c driver url properties empty none_idle room =>
    exact .inl (List.mem_map_of_mem (List.mem_append_right _ hr))
  | forsake c hand => exact .inl (List.mem_map_of_mem (List.mem_append_right _ hr))
  | dismiss c rest hand parted =>
    refine .inl (List.mem_map_of_mem ?_)
    simpa [Scene.records, Hand.records, hand] using hr
  | stale i l empty lease unreleased missing => exact .inl (List.mem_map_of_mem hr)
  | contact e current byPool contact => exact .inl (List.mem_map_of_mem hr)
  | use e l empty lease valid conn byHolder contact => exact .inl (List.mem_map_of_mem hr)

end Move

/-- A valid flag without a record. -/
structure Stray (f : FlagId) (x : Scene) : Prop where
  old : f < x.flags.next
  unrecorded : f ∉ x.recordFlags
  valid : x.flags.isValid f = true

theorem Stray.move {f : FlagId} {x y : Scene} (h : Stray f x) (hm : Move x y) : Stray f y where
  old := Nat.lt_of_lt_of_le h.old hm.next_le
  unrecorded hf := (hm.recordFlags_of hf).elim h.unrecorded (Nat.ne_of_lt h.old)
  valid := hm.valid_stays h.unrecorded h.valid

theorem Stray.of_path {f : FlagId} {x y : Scene} (h : Stray f x) (hp : Path x y) : Stray f y := by
  induction hp with
  | refl => exact h
  | tail _ hm ih => exact ih.move hm

theorem Path.valid_of {x y : Scene} (hp : Path x y) {f : FlagId}
    (hv : y.flags.isValid f = true) : x.flags.isValid f = true := by
  induction hp with
  | refl => exact hv
  | tail _ hm ih => exact ih (hm.valid_of hv)

/-- The leases there were keep their places and what was granted. -/
theorem Path.grants_prefix {x y : Scene} (hp : Path x y) : x.grants <+: y.grants := by
  induction hp with
  | refl => exact List.prefix_rfl
  | tail _ hm ih =>
    refine ih.trans ?_
    rcases hm.grants_cases with hs | ⟨r, -, hs⟩
    · exact hs ▸ List.prefix_rfl
    · exact hs ▸ List.prefix_append _ _

namespace Site

variable {σ : Type} {host : Host σ} {s s' : Site σ} {flag : FlagId} {r : Record}

/-- A lease whose connection is good loses its flag, whether the connection is kept or not. -/
theorem isValid_giveBack_of_good (hf : s.pool.activeWith? flag = some r)
    (hg : (s.modify (·.removeActive flag)).validate host r = (true, s')) :
    (s.giveBack host flag).2.pool.flags.isValid flag = false := by
  have hflag : r.flag = flag := by simpa using List.find?_some hf
  rw [giveBack_of_good hf hg]
  split
  · simp [rewrap, modify, Pool.addIdle, hflag]
  · simp [revoke, modify, hflag]

end Site

namespace Desk

section

variable {σ : Type} (host : Host σ) (d : Desk σ)

/-- Whether the pool would find the connection of a lease bad, were the lease given back now: it
says that it is closed, or does not answer a ping. -/
def findsBad (i : Nat) : Bool :=
  d.isOpen && (d.leases[i]?).any fun l => !l.released &&
    (d.pool.activeWith? l.grant.flag).any fun r =>
      !((d.site.modify (·.removeActive l.grant.flag)).validate host r).1

variable {d} {host} {i : Nat} {l : Lease}

theorem findsBad_iff : d.findsBad host i = true ↔ d.isOpen = true ∧ ∃ l r,
    d.leases[i]? = some l ∧ l.released = false ∧ d.pool.activeWith? l.grant.flag = some r ∧
      ((d.site.modify (·.removeActive l.grant.flag)).validate host r).1 = false := by
  simp only [findsBad, Bool.and_eq_true, Option.any_eq_true, Bool.not_eq_true']
  constructor
  · rintro ⟨ho, l, hl, hu, r, hr, hb⟩
    exact ⟨ho, l, r, hl, hu, hr, hb⟩
  · rintro ⟨ho, l, r, hl, hu, hr, hb⟩
    exact ⟨ho, l, hl, hu, r, hr, hb⟩

end

section Ended

variable {σ : Type} {host : Host σ} {d : Desk (σ × Ledger)} {i : Nat} {l : Lease}

theorem release_site {host : Host (σ × Ledger)} (hl : d.leases[i]? = some l)
    (hu : l.released = false) (ho : d.isOpen = true) :
    (d.release host i).site = (d.site.giveBack host l.grant.flag).2 := by
  have hopen : (d.markReleased i).isOpen = true := ho
  rw [release, hl]
  simp only [hu, ho, Bool.false_eq_true, if_false, if_true, giveBack]
  split <;> rfl

/-- A lease that is given back and still valid came back while its connection was bad. -/
theorem findsBad_of_valid (h : d.Sound) (hl : d.leases[i]? = some l) (hu : l.released = false)
    (hv : (d.release (host.withLedger .pool) i).isValid l = true) :
    d.findsBad (host.withLedger .pool) i = true := by
  have hbefore : d.isValid l = true :=
    (d.release_path host h.orderly h.settled i).valid_of hv
  obtain ⟨q, hq, hqf⟩ := h.orderly.live l (List.mem_of_getElem? hl) hu hbefore
  have hq : q ∈ d.pool.active := by simpa [scene, Site.scene, Hand.records, pool] using hq
  have ho : d.isOpen = true := by
    by_contra hgone
    rw [(h.settled (by simpa using hgone)).2.2.2] at hq
    exact List.not_mem_nil hq
  cases hf : d.pool.activeWith? l.grant.flag with
  | none => exact absurd hqf (by simpa using List.find?_eq_none.mp hf q hq)
  | some r =>
    refine findsBad_iff.mpr ⟨ho, l, r, hl, hu, hf, Bool.eq_false_iff.mpr fun hg => ?_⟩
    have hdead := Site.isValid_giveBack_of_good hf (Prod.ext hg rfl)
    rw [isValid, pool, release_site hl hu ho, hdead] at hv
    exact Bool.false_ne_true hv

/-- A connection that is found bad takes its record with it, and leaves the flag behind. -/
theorem stray_of_findsBad (h : d.Sound) (hl : d.leases[i]? = some l)
    (hb : d.findsBad (host.withLedger .pool) i = true) :
    Stray l.grant.flag (d.release (host.withLedger .pool) i).scene := by
  obtain ⟨ho, m, r, hm, hu, hf, hbad⟩ := findsBad_iff.mp hb
  obtain rfl := Option.some.inj (hl.symm.trans hm)
  have hpool : (d.release (host.withLedger .pool) i).site.pool =
      (Site.countBad (d.site.modify (·.removeActive l.grant.flag))).pool := by
    rw [release_site hl hu ho, Site.giveBack_of_bad hf (Prod.ext hbad rfl)]
    simp only [Site.countBad, Site.count, Site.modify, Site.validate_pool]
  have hmarked := h.orderly.marked
  have hflag : r.flag = l.grant.flag := by simpa using List.find?_some hf
  have hrecords : d.scene.recordFlags.Perm (l.grant.flag ::
      (d.pool.idle ++ d.pool.active.eraseP (·.flag == l.grant.flag)).map (·.flag)) := by
    rw [← hflag]
    have hp := (perm_of_find? hf).append_left d.pool.idle
    rw [hflag]
    exact ((hp.trans List.perm_middle).map (·.flag)).trans (by rw [List.map_cons, hflag])
  have hown := (hmarked.perm hrecords)
  refine ⟨?_, ?_, ?_⟩
  · simp only [scene, Site.scene, hpool]
    exact hown.record_old _ List.mem_cons_self
  · simp only [scene, Scene.recordFlags, Scene.records, Site.scene, hpool]
    exact (List.nodup_cons.mp hown.record_once).1
  · simp only [scene, Site.scene, hpool]
    exact hown.record_valid _ List.mem_cons_self

theorem findsBad_forget (host : Host σ) (d : Desk (σ × Ledger)) (i : Nat) :
    d.forget.findsBad host i = d.findsBad (host.withLedger .pool) i := by
  have hv (flag : FlagId) (r : Record) :
      (d.forget.site.modify (·.removeActive flag)).validate host r =
        (((d.site.modify (·.removeActive flag)).validate (host.withLedger .pool) r).1,
          ((d.site.modify (·.removeActive flag)).validate (host.withLedger .pool) r).2.forget) :=
    Site.validate_forget host .pool (d.site.modify (·.removeActive flag)) r
  simp only [findsBad, hv]
  rfl

def ReturnedBad (host : Host σ) (d : Desk σ) (es : List Event) (i : Nat) : Prop :=
  ∃ fs gs, es = fs ++ .release i :: gs ∧ (d.run host fs).findsBad host i = true

/-- A place keeps its grant. -/
theorem grant_of_path {d' : Desk (σ × Ledger)} {m : Lease} (hp : Path d.scene d'.scene)
    (hl : d.leases[i]? = some l) (hm : d'.leases[i]? = some m) : l.grant = m.grant := by
  have hl' : d.scene.grants[i]? = some l.grant := by
    simp [Scene.grants, scene, Site.scene, hl]
  have hm' : d'.scene.grants[i]? = some m.grant := by
    simp [Scene.grants, scene, Site.scene, hm]
  obtain ⟨new, hs⟩ := hp.grants_prefix
  rw [← hs, List.getElem?_append_left (List.getElem?_eq_some_iff.mp hl').1, hl'] at hm'
  exact Option.some.inj hm'

/-- The flag of a lease that was returned while its connection was bad is left behind. -/
theorem stray_of_returnedBad (h : d.Sound) {es : List Event}
    (hb : ReturnedBad host d.forget es i) (hl : (d.history host es).leases[i]? = some l) :
    Stray l.grant.flag (d.history host es).scene := by
  obtain ⟨fs, gs, rfl, hbad⟩ := hb
  rw [← history_forget, findsBad_forget] at hbad
  have hsound := h.history host fs
  obtain ⟨-, m, -, hm, -⟩ := findsBad_iff.mp hbad
  have hstray := stray_of_findsBad hsound hm hbad
  rw [history_append] at hl ⊢
  have hrest := (hsound.step host (.release i)).history_path host gs
  rw [← grant_of_path (hsound.history_path host (.release i :: gs)) hm hl]
  exact hstray.of_path hrest

/-- A lease that was given back and is still valid was returned while its connection was bad. -/
theorem returnedBad_of_valid (h : d.Sound) (hnone : d.leases = []) (es : List Event)
    (hl : (d.history host es).leases[i]? = some l) (hr : l.released = true)
    (hv : (d.history host es).isValid l = true) : ReturnedBad host d.forget es i := by
  -- from the last event back: a flag that is valid now was valid before
  induction es using List.reverseRecOn generalizing l with
  | nil => simp [history, hnone] at hl
  | append_singleton es e ih =>
    have hsound := h.history host es
    rw [history_append] at hl hv
    have hbefore : (d.history host es).isValid l = true :=
      ((d.history host es).step_path host hsound.orderly hsound.settled e).valid_of hv
    rcases step_released _ _ hl hr with hm | ⟨rfl, m, hm, hu, hg⟩
    · obtain ⟨fs, gs, rfl, hbad⟩ := ih hm hr hbefore
      exact ⟨fs, gs ++ [e], by simp, hbad⟩
    · refine ⟨es, [], rfl, ?_⟩
      rw [← history_forget, findsBad_forget]
      refine findsBad_of_valid hsound hm hu ?_
      rw [isValid, hg]
      exact hv

end Ended

section Dead

variable {σ : Type}

/-- No call through a lease gets through. -/
def Rejects (d : Desk σ) (l : Lease) : Prop :=
  d.isValid l = false ∧
    ∀ (host : Host σ) (k : Call), d.call host l k = (.fail .connectionInvalidated, d)

/-- Every call through a lease reaches its connection. -/
def Reaches (d : Desk σ) (l : Lease) : Prop :=
  d.isValid l = true ∧
    ∀ (host : Host σ) (k : Call), d.call host l k =
      ((host.call l.grant.conn k d.site.world).1,
        { d with site := ⟨d.pool, (host.call l.grant.conn k d.site.world).2⟩ })

theorem rejects_of_invalid {d : Desk σ} {l : Lease} (h : d.isValid l = false) : d.Rejects l :=
  ⟨h, fun host k => call_of_invalid host h k⟩

theorem reaches_of_valid {d : Desk σ} {l : Lease} (h : d.isValid l = true) : d.Reaches l := by
  refine ⟨h, fun host k => ?_⟩
  rw [call, if_pos h]
  rfl

/-- A lease that was given back, or whose connection was claimed or drained, is dead for good, but
for the case that its connection was bad when it came back: then it works for good. -/
theorem run_dead_or_returnedBad (host : Host σ) (source : Source) (config : PoolConfig) (w : σ)
    (es : List Event) (i : Nat) (l : Lease)
    (hl : ((start source config w).run host es).leases[i]? = some l)
    (hended : l.released = true ∨
      ∀ r ∈ ((start source config w).run host es).pool.active, r.flag ≠ l.grant.flag) :
    let d := start source config w
    ¬ d.ReturnedBad host es i ∧ (∀ fs : List Event, (d.run host (es ++ fs)).Rejects l) ∨
      d.ReturnedBad host es i ∧ (∀ fs : List Event, (d.run host (es ++ fs)).Reaches l) := by
  intro d
  have hstart := start_sound source config w
  have hd : (d.watched.history host es).Sound := hstart.history host es
  rw [run_eq_forget] at hl hended
  by_cases hb : d.ReturnedBad host es i
  -- its flag has no record any more, and only flags of records are revoked
  · refine .inr ⟨hb, fun fs => ?_⟩
    have hstray := stray_of_returnedBad (d := d.watched) hstart hb hl
    rw [run_eq_forget, history_append]
    exact reaches_of_valid (hstray.of_path (hd.history_path host fs)).valid
  · refine .inl ⟨hb, fun fs => ?_⟩
    rw [run_eq_forget, history_append]
    refine rejects_of_invalid (Bool.eq_false_iff.mpr fun hv => hb ?_)
    have hv : (d.watched.history host es).isValid l = true := (hd.history_path host fs).valid_of hv
    cases hr : l.released with
    | true => exact returnedBad_of_valid (d := d.watched) hstart rfl es hl hr hv
    | false =>
      obtain ⟨r, hmem, hf⟩ := hd.orderly.live l (List.mem_of_getElem? hl) hr hv
      rcases hended with hr' | hgone
      · exact absurd hr' (by simp [hr])
      · exact absurd hf (hgone r hmem)

end Dead

end Desk

/-- A world in which every scripted connection is closed from outside once it was asked. -/
def World.fickle : Host World :=
  { World.host with isClosed := fun c w =>
      (w.isClosed c, { w with connections := w.connections.map fun
        | .scripted s => .scripted { s with isClosed := true }
        | s => s }) }

namespace Desk

/-- The connection is closed while it is checked out. -/
theorem reaches_after_bad_return :
    let d := start { driver := "mock", url := "mock:db" } {} {}
    let es := [.checkout none, .release 0]
    (d.run World.fickle es).leases = [⟨⟨0, 1, 0⟩, true⟩] ∧
      ∀ fs : List Event, (d.run World.fickle (es ++ fs)).Reaches ⟨⟨0, 1, 0⟩, true⟩ := by
  intro d es
  have hl : (d.run World.fickle es).leases[0]? = some ⟨⟨0, 1, 0⟩, true⟩ := by decide
  have hb : d.ReturnedBad World.fickle es 0 := ⟨[.checkout none], [], rfl, by decide⟩
  rcases run_dead_or_returnedBad World.fickle _ _ _ es 0 _ hl (.inl rfl) with
    ⟨hgood, -⟩ | ⟨-, hreach⟩
  · exact absurd hb hgood
  · exact ⟨by decide, hreach⟩

end Desk
end ConnPool
