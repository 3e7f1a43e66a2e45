import ConnPool.Proofs.Draining
import ConnPool.Proofs.Interruptions

namespace ConnPool.Desk

variable {σ : Type}

/-- The lease that the pool takes back in an event: one that is out, from a pool that is there. -/
def takesBack? (d : Desk σ) : Event → Option Nat
  | .release i => if d.isOpen && (d.leases[i]?).any (!·.released) then some i else none
  | _ => none

/-- The leases that the pool takes back while one event after the other happens. -/
def returns (host : Host σ) : Desk σ → List Event → List Nat
  | _, [] => []
  | d, e :: es => (d.takesBack? e).toList ++ returns host (d.step host e) es

theorem returns_concat (host : Host σ) (d : Desk σ) (es : List Event) (e : Event) :
    d.returns host (es ++ [e]) = d.returns host es ++ ((d.run host es).takesBack? e).toList := by
  induction es generalizing d with
  | nil => simp [returns, run]
  | cons f es ih =>
    rw [List.cons_append, returns, returns, ih, List.append_assoc]
    rfl

variable {d : Desk σ} {host : Host σ} {e : Event} {i : Nat} {l : Lease}

theorem takesBack?_eq_some (h : d.takesBack? e = some i) :
    e = .release i ∧ d.isOpen = true ∧ ∃ l, d.leases[i]? = some l ∧ l.released = false := by
  cases e with
  | release j =>
    simp only [takesBack?] at h
    split at h
    · rename_i hc
      obtain rfl := Option.some.inj h
      simp only [Bool.and_eq_true, Option.any_eq_true, Bool.not_eq_true'] at hc
      exact ⟨rfl, hc⟩
    · cases h
  | _ => cases h

theorem takesBack?_of_out (hl : d.leases[i]? = some l) (hout : l.released = false)
    (hopen : d.isOpen = true) : d.takesBack? (.release i) = some i := by
  simp [takesBack?, hl, hout, hopen]

theorem release_of_released (hl : d.leases[i]? = some l) (hr : l.released = true)
    (host : Host σ) : d.release host i = d := by
  rw [release, hl]
  exact if_pos hr

theorem release_of_open (hl : d.leases[i]? = some l) (hout : l.released = false)
    (hopen : d.isOpen = true) (host : Host σ) :
    d.release host i = (d.markReleased i).giveBack host l := by
  rw [release, hl]
  simp only [hout, hopen, Bool.false_eq_true, if_false, if_true]

theorem release_of_closed (hl : d.leases[i]? = some l) (hout : l.released = false)
    (hgone : d.isOpen = false) (host : Host σ) :
    d.release host i = (d.markReleased i).closeOrphan host l := by
  rw [release, hl]
  simp only [hout, hgone, Bool.false_eq_true, if_false]

theorem markReleased_lease (hl : d.leases[i]? = some l) :
    (d.markReleased i).leases[i]? = some { l with released := true } := by
  simp [markReleased, hl]

theorem release_marks (hl : d.leases[i]? = some l) (hout : l.released = false) (host : Host σ) :
    (d.release host i).leases = (d.markReleased i).leases := by
  cases hopen : d.isOpen with
  | true => rw [release_of_open hl hout hopen, giveBack_leases]
  | false => rw [release_of_closed hl hout hopen, closeOrphan_leases]

/-- Other leases are left alone. -/
theorem release_lease (host : Host σ) (d : Desk σ) {j : Nat} (hne : i ≠ j) :
    (d.release host i).leases[j]? = d.leases[j]? := by
  rcases d.release_leases host i with hsame | ⟨l, -, -, hmarked⟩
  · rw [hsame]
  · rw [hmarked, markReleased, List.getElem?_modify]
    simp [hne]

/-- A lease that has been given back is left alone. -/
theorem step_keeps_released (hl : d.leases[i]? = some l) (hr : l.released = true) (host : Host σ)
    (e : Event) : (d.step host e).leases[i]? = some l := by
  by_cases he : ∃ j, e = .release j
  · obtain ⟨j, rfl⟩ := he
    show (d.release host j).leases[i]? = some l
    by_cases hji : j = i
    · rw [hji, release_of_released hl hr, hl]
    · rw [release_lease host d hji, hl]
  · obtain ⟨new, hs, -⟩ := d.step_leases host e fun j hj => he ⟨j, hj⟩
    rw [hs, List.getElem?_append_left (List.getElem?_eq_some_iff.mp hl).1, hl]

theorem run_keeps_released (hl : d.leases[i]? = some l) (hr : l.released = true) (host : Host σ)
    (gs : List Event) : (d.run host gs).leases[i]? = some l := by
  induction gs generalizing d with
  | nil => exact hl
  | cons e gs ih => exact ih (step_keeps_released hl hr host e)

/-- By induction on what has happened: what was taken back is marked, so it is not taken back
again. -/
theorem returns_once (host : Host σ) (d : Desk σ) (es : List Event) :
    (d.returns host es).Nodup ∧
      ∀ i ∈ d.returns host es, ∃ l, (d.run host es).leases[i]? = some l ∧ l.released = true := by
  induction es using List.reverseRecOn with
  | nil => exact ⟨.nil, nofun⟩
  | append_singleton es e ih =>
    obtain ⟨honce, hmarked⟩ := ih
    have hkept : ∀ i ∈ d.returns host es,
        ∃ l, (d.run host (es ++ [e])).leases[i]? = some l ∧ l.released = true := by
      intro i hi
      obtain ⟨l, hl, hr⟩ := hmarked i hi
      exact ⟨l, run_concat host d es e ▸ step_keeps_released hl hr host e, hr⟩
    rw [returns_concat]
    cases hb : (d.run host es).takesBack? e with
    | none =>
      rw [Option.toList_none, List.append_nil]
      exact ⟨honce, hkept⟩
    | some i =>
      obtain ⟨rfl, -, l, hl, hout⟩ := takesBack?_eq_some hb
      have hnew : i ∉ d.returns host es := by
        intro hi
        obtain ⟨m, hm, hr⟩ := hmarked i hi
        obtain rfl := Option.some.inj (hl.symm.trans hm)
        exact Bool.false_ne_true (hout.symm.trans hr)
      rw [Option.toList_some]
      refine ⟨List.nodup_append.mpr ⟨honce, List.nodup_singleton i, fun j hj k hk => ?_⟩, ?_⟩
      · rw [List.mem_singleton.mp hk]
        exact fun hji => hnew (hji ▸ hj)
      · intro j hj
        rcases List.mem_append.mp hj with hj | hj
        · exact hkept j hj
        · rw [List.mem_singleton.mp hj, run_concat]
          refine ⟨{ l with released := true }, ?_, rfl⟩
          show ((d.run host es).release host i).leases[i]? = _
          rw [release_marks hl hout, markReleased_lease hl]

/-- A lease that has lost its connection comes back: it is marked, a bad connection is counted, and
that is all. -/
theorem release_of_missing (hl : d.leases[i]? = some l) (hout : l.released = false)
    (hopen : d.isOpen = true) (hmissing : ∀ r ∈ d.pool.active, r.flag ≠ l.grant.flag)
    (host : Host σ) :
    d.release host i = { d.markReleased i with site := d.site.countBad } := by
  have hf : d.site.pool.activeWith? l.grant.flag = none :=
    List.find?_eq_none.mpr fun r hr => by simpa using hmissing r hr
  have hsite : (d.markReleased i).site = d.site := rfl
  rw [release_of_open hl hout hopen, giveBack, hsite, Site.giveBack_of_missing hf]
  rfl

/-- Once the pool has gone, no lease is valid, and so nobody speaks to its connection. -/
theorem run_release_of_gone (host : Host σ) (source : Source) (config : PoolConfig) (w : σ)
    (es : List Event) (hl : ((start source config w).run host es).leases[i]? = some l)
    (hout : l.released = false) (hgone : ((start source config w).run host es).isOpen = false)
    (other : Host σ) : ((start source config w).run host es).release other i =
      ((start source config w).run host es).markReleased i := by
  have hsound := (start_sound source config w).history host es
  have hinvalid : ((start source config w).run host es).isValid l = false := by
    rw [run_eq_forget] at hl hgone ⊢
    exact invalid_of_gone _ hsound.orderly hsound.settled hgone (List.mem_of_getElem? hl) hout
  rw [release_of_closed hl hout hgone]
  exact if_neg (Bool.eq_false_iff.mp hinvalid)

structure ReturnsOnce (host : Host σ) (d : Desk σ) (es : List Event) (i : Nat) (l : Lease) :
    Prop where
  /-- The pool does not take a lease back twice. -/
  once : (d.returns host es).count i ≤ 1
  /-- What has not been given back has not been taken back either. -/
  out : l.released = false → i ∉ d.returns host es
  /-- The first time that a lease is given back, the pool takes it back, if it is still there. -/
  first : l.released = false → (d.run host es).isOpen = true →
    d.returns host (es ++ [.release i]) = d.returns host es ++ [i] ∧
      d.run host (es ++ [.release i]) = ((d.run host es).markReleased i).giveBack host l
  /-- If it is not, nothing is done, whatever drivers and connections there are. -/
  gone : l.released = false → (d.run host es).isOpen = false → ∀ other : Host σ,
    (d.run host es).step other (.release i) = (d.run host es).markReleased i
  /-- A lease that has lost its connection, whoever has it now, comes back: only a bad connection is
  counted, whatever drivers and connections there are. -/
  stale : l.released = false → (d.run host es).isOpen = true →
    (∀ r ∈ (d.run host es).pool.active, r.flag ≠ l.grant.flag) → ∀ other : Host σ,
      (d.run host es).step other (.release i) =
        { (d.run host es).markReleased i with site := (d.run host es).site.countBad }
  /-- From then on giving it back does nothing, whatever drivers and connections there are. -/
  again : ∀ (gs : List Event) (other : Host σ),
    (d.run host (es ++ .release i :: gs)).step other (.release i) =
      d.run host (es ++ .release i :: gs)

/-- A lease is given back once, and a stale one disturbs nobody. -/
theorem run_returnsOnce (host : Host σ) (source : Source) (config : PoolConfig) (w : σ)
    (es : List Event) (i : Nat) (l : Lease)
    (hl : ((start source config w).run host es).leases[i]? = some l) :
    (start source config w).ReturnsOnce host es i l := by
  obtain ⟨honce, hmarked⟩ := returns_once host (start source config w) es
  refine {
    once := List.nodup_iff_count_le_one.mp honce i
    out := fun hout hi => ?_
    first := fun hout hopen => ⟨?_, ?_⟩
    gone := fun hout hgone other => run_release_of_gone host source config w es hl hout hgone other
    stale := fun hout hopen hmissing other => release_of_missing hl hout hopen hmissing other
    again := fun gs other => ?_ }
  · obtain ⟨m, hm, hr⟩ := hmarked i hi
    obtain rfl := Option.some.inj (hl.symm.trans hm)
    exact Bool.false_ne_true (hout.symm.trans hr)
  · rw [returns_concat, takesBack?_of_out hl hout hopen, Option.toList_some]
  · rw [run_concat]
    exact release_of_open hl hout hopen host
  · have hnext : ∃ m, ((start source config w).run host (es ++ [.release i])).leases[i]? = some m ∧
        m.released = true := by
      rw [run_concat]
      show ∃ m, (((start source config w).run host es).release host i).leases[i]? = some m ∧ _
      cases hr : l.released with
      | true => exact ⟨l, (release_of_released hl hr host).symm ▸ hl, hr⟩
      | false => exact ⟨{ l with released := true }, by
          rw [release_marks hl hr, markReleased_lease hl], rfl⟩
    obtain ⟨m, hm, hr⟩ := hnext
    have hlater := run_keeps_released hm hr host gs
    rw [← run_append, List.append_assoc] at hlater
    exact release_of_released hlater hr other

/-- The connection of the first lease is claimed, and held by the second one, when the first one
comes back. -/
theorem returnsOnce_after_claim :
    let d :=
      start { driver := "mock", url := "mock:db" } { maxActive := 1, maxCheckoutTime := 0 } {}
    let es : List Event := [.checkout none, .checkout none]
    d.ReturnsOnce World.host es 0 ⟨⟨0, 1, 0⟩, false⟩ ∧
      (d.run World.host es).isOpen = true ∧
      (∀ r ∈ (d.run World.host es).pool.active, r.flag ≠ 0) ∧
      (d.run World.host es).leases[1]? = some ⟨⟨0, 1, 1⟩, false⟩ := by
  intro d es
  have hl : (d.run World.host es).leases[0]? = some ⟨⟨0, 1, 0⟩, false⟩ := by decide
  exact ⟨run_returnsOnce World.host _ _ _ es 0 _ hl, by decide, by decide, by decide⟩

end ConnPool.Desk
