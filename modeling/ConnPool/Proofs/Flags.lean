import ConnPool.Proofs.Scene
import Mathlib.Data.List.Perm.Subperm

namespace ConnPool

theorem perm_of_find? {α : Type} {p : α → Bool} {l : List α} {a : α} (h : l.find? p = some a) :
    l.Perm (a :: l.eraseP p) := by
  induction l with
  | nil => simp at h
  | cons b l ih =>
    by_cases hb : p b = true
    · simp only [List.find?_cons, hb, Option.some.injEq] at h
      subst a
      rw [List.eraseP_cons_of_pos hb]
    · simp only [List.find?_cons, hb] at h
      rw [List.eraseP_cons_of_neg hb]
      exact ((ih h).cons b).trans (.swap a b _)

/-- Flags in use, of records and of leases, against those minted and revoked. -/
structure Marked (f : Flags) (records leases : List FlagId) : Prop where
  revoked_old : ∀ i ∈ f.revoked, i < f.next
  record_old : ∀ i ∈ records, i < f.next
  record_valid : ∀ i ∈ records, f.isValid i = true
  record_once : records.Nodup
  lease_old : ∀ i ∈ leases, i < f.next
  lease_once : leases.Nodup

namespace Marked

variable {f : Flags} {rs rs' ls : List FlagId} {i : FlagId}

theorem subperm (h : Marked f rs ls) (hs : rs'.Subperm rs) : Marked f rs' ls where
  revoked_old := h.revoked_old
  record_old j hj := h.record_old j (hs.subset hj)
  record_valid j hj := h.record_valid j (hs.subset hj)
  record_once := by
    obtain ⟨l, hp, hl⟩ := hs
    exact hp.nodup_iff.mp (hl.nodup h.record_once)
  lease_old := h.lease_old
  lease_once := h.lease_once

theorem perm (h : Marked f rs ls) (hp : rs.Perm rs') : Marked f rs' ls := h.subperm hp.symm.subperm

theorem next_valid (h : Marked f rs ls) : f.isValid f.next = true := by
  simp only [Flags.isValid, Bool.not_eq_true', List.contains_eq_mem, decide_eq_false_iff_not]
  exact fun hm => Nat.lt_irrefl _ (h.revoked_old _ hm)

theorem mint (h : Marked f rs ls) : Marked f.mint (f.next :: rs) ls where
  revoked_old j hj := Nat.lt_succ_of_lt (h.revoked_old j hj)
  record_old j hj := by
    rcases List.mem_cons.mp hj with rfl | hj
    · exact Nat.lt_succ_self _
    · exact Nat.lt_succ_of_lt (h.record_old j hj)
  record_valid j hj := by
    rcases List.mem_cons.mp hj with rfl | hj
    · exact h.next_valid
    · exact h.record_valid j hj
  record_once :=
    List.nodup_cons.mpr ⟨fun hm => Nat.lt_irrefl _ (h.record_old _ hm), h.record_once⟩
  lease_old j hj := Nat.lt_succ_of_lt (h.lease_old j hj)
  lease_once := h.lease_once

theorem revoke (h : Marked f (i :: rs) ls) : Marked (f.revoke i) rs ls where
  revoked_old j hj := by
    rcases List.mem_cons.mp hj with rfl | hj
    · exact h.record_old j (by simp)
    · exact h.revoked_old j hj
  record_old j hj := h.record_old j (by simp [hj])
  record_valid j hj := by
    have hne : j ≠ i := fun he => (List.nodup_cons.mp h.record_once).1 (he ▸ hj)
    simp [hne, h.record_valid j (by simp [hj])]
  record_once := (List.nodup_cons.mp h.record_once).2
  lease_old := h.lease_old
  lease_once := h.lease_once

theorem grant (h : Marked f rs ls) (hr : i ∈ rs) (hl : i ∉ ls) : Marked f rs (ls ++ [i]) where
  revoked_old := h.revoked_old
  record_old := h.record_old
  record_valid := h.record_valid
  record_once := h.record_once
  lease_old j hj := by
    rcases List.mem_append.mp hj with hj | hj
    · exact h.lease_old j hj
    · exact h.record_old j (List.mem_singleton.mp hj ▸ hr)
  lease_once := by
    rw [List.nodup_append]
    refine ⟨h.lease_once, List.nodup_cons.mpr ⟨by simp, List.nodup_nil⟩, ?_⟩
    intro a ha b hb he
    exact hl (List.mem_singleton.mp hb ▸ he ▸ ha)

end Marked

namespace Scene

variable {x : Scene} {i : Nat} {l m : Lease}

def spare (x : Scene) : List Record :=
  match x.hand with
  | .free r => r :: x.idle
  | _ => x.idle

theorem mem_spare_of_idle {r : Record} (hr : r ∈ x.idle) : r ∈ x.spare := by
  simp only [spare]
  split <;> simp [hr]

def recordFlags (x : Scene) : List FlagId := x.records.map (·.flag)

def leaseFlags (x : Scene) : List FlagId := x.leases.map (·.grant.flag)

theorem leaseFlags_markReleased (x : Scene) (i : Nat) :
    (x.markReleased i).leaseFlags = x.leaseFlags := by
  have := congrArg (List.map (·.flag)) (x.grants_markReleased i)
  simpa [leaseFlags, grants, List.map_map, Function.comp_def] using this

theorem markReleased_of_mem (hl : l ∈ x.leases) :
    ∃ m ∈ (x.markReleased i).leases, m.grant = l.grant := by
  have hg : l.grant ∈ x.grants := List.mem_map_of_mem hl
  rw [← grants_markReleased x i] at hg
  exact List.mem_map.mp hg

/-- A lease that is still out was there before, in another place. -/
theorem getElem?_of_markReleased (hm : m ∈ (x.markReleased i).leases) (hu : m.released = false) :
    ∃ j, j ≠ i ∧ x.leases[j]? = some m := by
  obtain ⟨j, hj⟩ := List.mem_iff_getElem?.mp hm
  simp only [markReleased, List.getElem?_modify] at hj
  split at hj
  · obtain ⟨l, _, rfl⟩ := Option.map_eq_some_iff.mp hj
    cases hu
  · rename_i hne
    exact ⟨j, fun he => hne he.symm, by simpa using hj⟩

theorem mem_of_markReleased (hm : m ∈ (x.markReleased i).leases) (hu : m.released = false) :
    m ∈ x.leases := by
  obtain ⟨j, _, hj⟩ := getElem?_of_markReleased hm hu
  exact List.mem_of_getElem? hj

theorem mem_markReleased (hm : m ∈ x.leases) (hne : x.leases[i]? ≠ some m) :
    m ∈ (x.markReleased i).leases := by
  obtain ⟨j, hj⟩ := List.mem_iff_getElem?.mp hm
  have hij : i ≠ j := fun he => hne (he ▸ hj)
  refine List.mem_iff_getElem?.mpr ⟨j, ?_⟩
  simp [markReleased, hij, hj]

end Scene

structure Orderly (x : Scene) : Prop where
  marked : Marked x.flags x.recordFlags x.leaseFlags
  /-- Nobody has the flag of a record that may be handed out. -/
  apart : ∀ r ∈ x.spare, r.flag ∉ x.leaseFlags
  held : ∀ r ∈ x.active, ∃ l ∈ x.leases,
    l.released = false ∧ l.grant.flag = r.flag ∧ l.grant.conn = r.conn
  taken : ∀ r ∈ x.hand.taken, ∃ l ∈ x.leases, l.grant.flag = r.flag ∧ l.grant.conn = r.conn
  returned : ∀ r, x.hand = .returned r → ∀ l ∈ x.leases, l.grant.flag = r.flag → l.released = true
  /-- A lease that is out and valid has its record in the pool. -/
  live : ∀ l ∈ x.leases, l.released = false → x.isValid l = true →
    ∃ r ∈ x.hand.records ++ x.active, r.flag = l.grant.flag

namespace Orderly

variable {x y : Scene}

/-- Where no flag changes hands, nothing else matters. -/
theorem frame (h : Orderly x) {j : Ledger} {hand : Hand} (hr : hand.records = x.hand.records)
    (hfree : ∀ r, hand ≠ .free r) (htaken : hand.taken = []) :
    Orderly { x with ledger := j, hand } where
  marked := by
    have he : Scene.recordFlags { x with ledger := j, hand } = x.recordFlags := by
      simp [Scene.recordFlags, Scene.records, hr]
    rw [he]
    exact h.marked
  apart r hm := by
    refine h.apart r (Scene.mem_spare_of_idle ?_)
    cases hand with
    | free r' => exact absurd rfl (hfree r')
    | _ => exact hm
  held := h.held
  taken r he := by simp [htaken] at he
  returned r he := by
    dsimp only at he
    subst he
    simp [Hand.taken] at htaken
  live l hl hu hv := by
    rw [hr]
    exact h.live l hl hu hv

theorem write (h : Orderly x) (e : Entry) : Orderly (x.write e) :=
  ⟨h.marked, h.apart, h.held, h.taken, h.returned, h.live⟩

theorem takeIdle (h : Orderly x) {r : Record} {rest : List Record} (empty : x.hand = .empty)
    (front : x.idle = r :: rest) : Orderly { x with idle := rest, hand := .free r } := by
  cases x
  dsimp only at empty front
  subst empty front
  refine ⟨h.marked, h.apart, h.held, nofun, nofun, ?_⟩
  intro l hl hu hv
  obtain ⟨q, hq, he⟩ := h.live l hl hu hv
  exact ⟨q, List.mem_cons_of_mem _ hq, he⟩

theorem wrap (h : Orderly x) {c : ConnId} (id now : Nat) (hand : x.hand = .opened c) :
    Orderly { x.write ⟨.pool, c, .numbered⟩ with
      flags := x.flags.mint, hand := .free (.fresh c id x.flags.next now) } := by
  cases x
  dsimp only at hand
  subst hand
  refine ⟨h.marked.mint, ?_, h.held, nofun, nofun, ?_⟩
  · intro q hq
    rcases List.mem_cons.mp hq with rfl | hq
    · exact fun hm => Nat.lt_irrefl _ (h.marked.lease_old _ hm)
    · exact h.apart q hq
  · intro l hl hu hv
    obtain ⟨q, hq, he⟩ := h.live l hl hu hv
    exact ⟨q, List.mem_cons_of_mem _ hq, he⟩

theorem claim (h : Orderly x) {r : Record} {rest : List Record} (empty : x.hand = .empty)
    (front : x.active = r :: rest) : Orderly { x with active := rest, hand := .claimed r } := by
  cases x
  dsimp only at empty front
  subst empty front
  refine ⟨h.marked.perm (List.perm_middle.map _), h.apart, ?_, ?_, nofun, h.live⟩
  · exact fun q hq => h.held q (List.mem_cons_of_mem _ hq)
  · intro q hq
    obtain rfl := List.mem_singleton.mp hq
    obtain ⟨l, hl, _, hf, hc⟩ := h.held q List.mem_cons_self
    exact ⟨l, hl, hf, hc⟩

theorem markReleased (h : Orderly x) (i : Nat)
    (hi : ∀ l, x.leases[i]? = some l → ∀ r ∈ x.active, r.flag ≠ l.grant.flag) :
    Orderly (x.markReleased i) where
  marked := by
    have := h.marked
    rwa [← x.leaseFlags_markReleased i] at this
  apart r hr := by
    have := h.apart r hr
    rwa [← x.leaseFlags_markReleased i] at this
  held r hr := by
    obtain ⟨l, hl, hu, hf, hc⟩ := h.held r hr
    exact ⟨l, Scene.mem_markReleased hl fun he => hi l he r hr hf.symm, hu, hf, hc⟩
  taken r he := by
    obtain ⟨l, hl, hf, hc⟩ := h.taken r he
    obtain ⟨m, hm, hg⟩ := Scene.markReleased_of_mem (i := i) hl
    exact ⟨m, hm, hg ▸ hf, hg ▸ hc⟩
  returned r he l hl hf := by
    by_contra hu
    simp only [Bool.not_eq_true] at hu
    exact Bool.false_ne_true (hu ▸ h.returned r he l (Scene.mem_of_markReleased hl hu) hf)
  live l hl hu hv := h.live l (Scene.mem_of_markReleased hl hu) hu hv

theorem valid_of_record (h : Orderly x) {r : Record} (hr : r ∈ x.records) :
    x.flags.isValid r.flag = true :=
  h.marked.record_valid _ (List.mem_map_of_mem hr)

/-- A flag belongs to one lease only. -/
theorem lease_index (h : Orderly x) {i j : Nat} {l m : Lease} (hi : x.leases[i]? = some l)
    (hj : x.leases[j]? = some m) (hf : l.grant.flag = m.grant.flag) : i = j := by
  have hlt : i < x.leaseFlags.length := by
    simpa [Scene.leaseFlags] using (List.getElem?_eq_some_iff.mp hi).1
  refine (List.getElem?_inj hlt h.marked.lease_once).mp ?_
  simp [Scene.leaseFlags, hi, hj, hf]

theorem takeBack (h : Orderly x) {i : Nat} {l : Lease} {r : Record} (empty : x.hand = .empty)
    (lease : x.leases[i]? = some l) (found : x.active.find? (·.flag == l.grant.flag) = some r) :
    Orderly { x.markReleased i with
      active := x.active.eraseP (·.flag == l.grant.flag), hand := .returned r } := by
  have hperm := perm_of_find? found
  have hflag : r.flag = l.grant.flag := by simpa using List.find?_some found
  have hrecords : x.recordFlags.Perm
      (r.flag :: (x.idle ++ x.active.eraseP (·.flag == l.grant.flag)).map (·.flag)) := by
    simp only [Scene.recordFlags, Scene.records, empty, Hand.records, List.nil_append]
    exact ((hperm.append_left _).trans List.perm_middle).map _
  refine ⟨?_, ?_, ?_, ?_, ?_, ?_⟩
  · have := h.marked.perm hrecords
    rwa [← x.leaseFlags_markReleased i] at this
  · intro q hq
    have := h.apart q (Scene.mem_spare_of_idle hq)
    rwa [← x.leaseFlags_markReleased i] at this
  · intro q hq
    -- no other active record has this flag, so the lease of `q` is another one and is still out
    obtain ⟨m, hm, hu, hf, hc⟩ := h.held q (hperm.symm.subset (List.mem_cons_of_mem _ hq))
    refine ⟨m, Scene.mem_markReleased hm fun he => ?_, hu, hf, hc⟩
    obtain rfl := Option.some.inj (lease.symm.trans he)
    refine (List.nodup_cons.mp (hrecords.nodup_iff.mp h.marked.record_once)).1 ?_
    exact List.mem_map.mpr ⟨q, List.mem_append_right _ hq, hf.symm.trans hflag.symm⟩
  · intro q hq
    obtain rfl := List.mem_singleton.mp hq
    obtain ⟨m, hm, _, hf, hc⟩ := h.held q (hperm.symm.subset List.mem_cons_self)
    obtain ⟨m', hm', hg⟩ := Scene.markReleased_of_mem (i := i) hm
    exact ⟨m', hm', hg ▸ hf, hg ▸ hc⟩
  · rintro q ⟨⟩ m hm hf
    by_contra hu
    obtain ⟨j, hne, hj⟩ := Scene.getElem?_of_markReleased hm (by simpa using hu)
    exact hne (h.lease_index hj lease (hf.trans hflag))
  · intro m hm hu hv
    obtain ⟨q, hq, he⟩ := h.live m (Scene.mem_of_markReleased hm hu) hu hv
    simp only [empty, Hand.records, List.nil_append] at hq
    exact ⟨q, hperm.subset hq, he⟩

theorem renew (h : Orderly x) {r : Record} (now : Nat) (hand : x.hand.taken = [r]) :
    Orderly { x with
      flags := x.flags.mint.revoke r.flag, hand := .free (r.renew x.flags.next now) } := by
  have hrecords := Hand.records_of_taken hand
  have hmarked : Marked x.flags (r.flag :: (x.idle ++ x.active).map (·.flag)) x.leaseFlags := by
    have := h.marked
    rwa [Scene.recordFlags, Scene.records, hrecords] at this
  refine ⟨(hmarked.mint.perm (.swap _ _ _)).revoke, ?_, h.held, nofun, nofun, ?_⟩
  · intro q hq
    rcases List.mem_cons.mp hq with rfl | hq
    · exact fun hm => Nat.lt_irrefl _ (h.marked.lease_old _ hm)
    · exact h.apart q (Scene.mem_spare_of_idle hq)
  · intro l hl hu hv
    simp only [Scene.isValid, Flags.isValid_revoke, Flags.isValid_mint, Bool.and_eq_true,
      bne_iff_ne] at hv
    obtain ⟨q, hq, he⟩ := h.live l hl hu hv.2
    rw [hrecords] at hq
    rcases List.mem_cons.mp hq with rfl | hq
    · exact absurd he.symm hv.1
    · exact ⟨q, List.mem_cons_of_mem _ hq, he⟩

theorem grant (h : Orderly x) {r : Record} (code : TypeCode) (now : Nat) (hand : x.hand = .free r) :
    Orderly { x with
      active := x.active ++ [(r.withTypeCode code).checkedOut now]
      leases := x.leases ++ [⟨⟨r.conn, r.id, r.flag⟩, false⟩], hand := .empty } := by
  have honce : r.flag ∉ (x.idle ++ x.active).map (·.flag) := by
    have := h.marked.record_once
    rw [Scene.recordFlags, Scene.records, hand] at this
    exact (List.nodup_cons.mp this).1
  cases x
  dsimp only at hand
  subst hand
  have hfree := h.apart r List.mem_cons_self
  refine ⟨?_, ?_, ?_, nofun, nofun, ?_⟩
  · have := (h.marked.grant List.mem_cons_self hfree).perm (List.perm_append_singleton _ _).symm
    simpa [Scene.recordFlags, Scene.records, Scene.leaseFlags, Hand.records, Record.checkedOut,
      Record.withTypeCode] using this
  · intro q hq hm
    simp only [Scene.leaseFlags, List.map_append, List.mem_append, List.map_cons, List.map_nil,
      List.mem_singleton] at hm
    rcases hm with hm | hm
    · exact h.apart q (List.mem_cons_of_mem _ hq) hm
    · exact honce (List.mem_map.mpr ⟨q, List.mem_append_left _ hq, hm⟩)
  · intro q hq
    rcases List.mem_append.mp hq with hq | hq
    · obtain ⟨l, hl, hrest⟩ := h.held q hq
      exact ⟨l, List.mem_append_left _ hl, hrest⟩
    · obtain rfl := List.mem_singleton.mp hq
      exact ⟨⟨⟨r.conn, r.id, r.flag⟩, false⟩, by simp, rfl, rfl, rfl⟩
  · intro l hl hu hv
    rcases List.mem_append.mp hl with hl | hl
    · obtain ⟨q, hq, he⟩ := h.live l hl hu hv
      rcases List.mem_cons.mp hq with rfl | hq
      · exact ⟨(q.withTypeCode code).checkedOut now, by simp, he⟩
      · exact ⟨q, List.mem_append_right _ (List.mem_append_left _ hq), he⟩
    · obtain rfl := List.mem_singleton.mp hl
      exact ⟨(r.withTypeCode code).checkedOut now, by simp, rfl⟩

theorem keep (h : Orderly x) {r : Record} (hand : x.hand = .free r) :
    Orderly { x with idle := x.idle ++ [r], hand := .empty } := by
  have hrecords : x.recordFlags.Perm ((x.idle ++ [r] ++ x.active).map (·.flag)) := by
    simp only [Scene.recordFlags, Scene.records, hand, Hand.records]
    rw [← List.append_assoc]
    exact (List.perm_append_comm.append_right _).map _
  refine ⟨h.marked.perm hrecords, ?_, h.held, by simp [Hand.taken], by simp, ?_⟩
  · intro q hq
    refine h.apart q ?_
    simp only [Scene.spare, hand]
    simpa [or_comm] using List.mem_append.mp hq
  · intro l hl hu hv
    obtain ⟨q, hq, he⟩ := h.live l hl hu hv
    rcases List.mem_append.mp hq with hq | hq
    · simp only [hand, Hand.records, List.mem_singleton] at hq
      subst hq
      exact absurd (List.mem_map.mpr ⟨l, hl, he.symm⟩) (h.apart q (by simp [Scene.spare, hand]))
    · exact ⟨q, hq, he⟩

/-- A record that is let go leaves no lease behind that is out. -/
theorem live_of_let_go (h : Orderly x) {r : Record} (hand : x.hand = .free r ∨ x.hand = .returned r)
    {l : Lease} (hl : l ∈ x.leases) (hu : l.released = false) (hv : x.isValid l = true) :
    ∃ q ∈ x.active, q.flag = l.grant.flag := by
  obtain ⟨q, hq, he⟩ := h.live l hl hu hv
  rcases List.mem_append.mp hq with hq | hq
  · have hqr : q = r := by
      rcases hand with hand | hand <;> simpa [hand, Hand.records] using hq
    subst hqr
    rcases hand with hand | hand
    · exact absurd (List.mem_map.mpr ⟨l, hl, he.symm⟩) (h.apart q (by simp [Scene.spare, hand]))
    · exact absurd (h.returned q hand l hl he.symm) (by simp [hu])
  · exact ⟨q, hq, he⟩

theorem reject (h : Orderly x) {r : Record} (hand : x.hand = .free r ∨ x.hand = .returned r) :
    Orderly { x with hand := .empty } where
  marked := by
    refine h.marked.subperm (List.Sublist.subperm ?_)
    exact (List.sublist_append_right _ _).map _
  apart q hq := h.apart q (Scene.mem_spare_of_idle hq)
  held := h.held
  taken := nofun
  returned := nofun
  live _ hl hu hv := h.live_of_let_go hand hl hu hv

/-- The first record in hand goes, and its flag is revoked. -/
theorem revokeFirst (h : Orderly x) {r : Record} {rs : List Record} {hand : Hand}
    (hx : x.hand.records = r :: rs) (hr : hand.records = rs) (hfree : ∀ r, hand ≠ .free r)
    (htaken : hand.taken = []) : Orderly { x with flags := x.flags.revoke r.flag, hand } where
  marked := by
    have hm := h.marked
    rw [Scene.recordFlags, Scene.records, hx, ← hr] at hm
    exact hm.revoke
  apart q hq := by
    refine h.apart q (Scene.mem_spare_of_idle ?_)
    cases hand with
    | free r' => exact absurd rfl (hfree r')
    | _ => exact hq
  held := h.held
  taken q hq := by simp [htaken] at hq
  returned q hq := by
    dsimp only at hq
    subst hq
    simp [Hand.taken] at htaken
  live l hl hu hv := by
    simp only [Scene.isValid, Flags.isValid_revoke, Bool.and_eq_true, bne_iff_ne] at hv
    obtain ⟨q, hq, he⟩ := h.live l hl hu hv.2
    rw [hx] at hq
    rcases List.mem_cons.mp hq with rfl | hq
    · exact absurd he.symm hv.1
    · exact ⟨q, by rwa [hr], he⟩

theorem clear (h : Orderly x) (source : Source) (config : PoolConfig) (empty : x.hand = .empty) :
    Orderly { x with
      idle := [], active := [], source, config, expected := source.typeCode
      hand := .out (x.active.reverse ++ x.idle.reverse) } := by
  cases x
  dsimp only at empty
  subst empty
  refine ⟨h.marked.perm ?_, nofun, nofun, nofun, nofun, ?_⟩
  · refine List.Perm.map _ ?_
    simp only [Scene.records, Hand.records, List.nil_append, List.append_nil]
    exact (drained_perm _ _).symm
  · intro l hl hu hv
    obtain ⟨q, hq, he⟩ := h.live l hl hu hv
    have hq : q ∈ _ := hq
    exact ⟨q, by simpa [Hand.records] using .inl hq, he⟩

theorem move (h : Orderly x) (hm : Move x y) : Orderly y := by
  cases hm with
  | takeIdle r rest empty front => exact h.takeIdle empty front
  | «open» c driver url properties empty none_idle room =>
    exact h.frame (by simp [empty, Hand.records]) (by simp) rfl
  | forsake c hand => exact h.frame (by simp [hand, Hand.records]) (by simp) rfl
  | wrap c id now hand => exact h.wrap id now hand
  | claim r rest empty front => exact h.claim empty front
  | takeBack i l r empty lease unreleased found => exact h.takeBack empty lease found
  | stale i l empty lease unreleased missing =>
    refine h.markReleased i fun m hm q hq => ?_
    obtain rfl := Option.some.inj (lease.symm.trans hm)
    exact missing q hq
  | contact e current byPool contact => exact h.write e
  | use e l empty lease valid conn byHolder contact => exact h.write e
  | renew r now hand => exact h.renew now hand
  | grant r code now hand kept => exact h.grant code now hand
  | keep r hand kept room => exact h.keep hand
  | reject r hand parted => exact h.reject hand
  | retire r hand => exact h.revokeFirst (by rw [hand]; rfl) rfl (by simp) rfl
  | clear source config empty => exact h.clear source config empty
  | revoke r rest hand => exact h.revokeFirst (by rw [hand]; rfl) rfl (by simp) rfl
  | dismiss c rest hand parted => exact h.frame (by simp [hand, Hand.records]) (by simp) rfl

theorem path (h : Orderly x) (hp : Path x y) : Orderly y := by
  induction hp with
  | refl => exact h
  | tail _ hm ih => exact ih.move hm

end Orderly

/-- An invariant of drivers that open new connections only. -/
theorem Path.keeps {P : Scene → Prop} {x y : Scene} (hp : Path x y) (ho : Orderly x)
    (hn : y.ledger.OpensNew) (hx : P x)
    (hmove : ∀ x y, Orderly x → y.ledger.OpensNew → P x → Move x y → P y) : P y := by
  induction hp with
  | refl => exact hx
  | tail hz hm ih => exact hmove _ _ (ho.path hz) hn (ih (hn.of_suffix hm.ledger_suffix)) hm

end ConnPool
