import ConnPool.Pool.Desk

namespace ConnPool.Desk

variable {σ : Type} (host : Host σ) (d : Desk σ)

def Extends (ls ms : List Lease) : Prop := ∃ new, ms = ls ++ new ∧ ∀ l ∈ new, l.released = false

theorem Extends.same (ls : List Lease) : Extends ls ls := ⟨[], by simp⟩

theorem afterStretch_leases (id : Nat) (r : Stretch × Site σ) :
    Extends d.leases (afterStretch d id r).2.leases := by
  obtain ⟨(f | g) | w, s⟩ := r
  · exact .same _
  · exact ⟨[⟨g, false⟩], rfl, by simp⟩
  · exact .same _

theorem closeUnused_leases : (d.closeUnused host).leases = d.leases := by
  unfold closeUnused
  split <;> rfl

theorem resume_leases (id : Nat) : Extends d.leases (d.resume host id).2.leases := by
  unfold resume
  split
  · exact .same _
  · dsimp only
    rw [closeUnused_leases]
    exact afterStretch_leases _ id _

theorem giveBack_leases (l : Lease) : (d.giveBack host l).leases = d.leases := by
  unfold giveBack
  dsimp only
  split <;> rfl

theorem closeOrphan_leases (l : Lease) : (d.closeOrphan host l).leases = d.leases := by
  unfold closeOrphan
  split <;> rfl

/-- Giving back a lease marks that lease, if it is out, and changes no other. -/
theorem release_leases (i : Nat) : (d.release host i).leases = d.leases ∨
    ∃ l, d.leases[i]? = some l ∧ l.released = false ∧
      (d.release host i).leases = (d.markReleased i).leases := by
  unfold release
  cases hl : d.leases[i]? with
  | none => exact .inl rfl
  | some l =>
    dsimp only
    split
    · exact .inl rfl
    · rename_i hu
      refine .inr ⟨l, rfl, by simpa using hu, ?_⟩
      split
      · exact giveBack_leases host _ l
      · exact closeOrphan_leases host _ l

theorem call_leases (l : Lease) (k : Call) : (d.call host l k).2.leases = d.leases := by
  unfold call
  split <;> rfl

theorem isClosed_leases (l : Lease) : (d.isClosed host l).2.leases = d.leases := by
  unfold isClosed
  split <;> rfl

/-- In an event other than giving back a lease, leases only join. -/
theorem step_leases (e : Event) (he : ∀ i, e ≠ .release i) :
    Extends d.leases (d.step host e).leases := by
  unfold step
  split
  · exact .same _
  · cases e with
    | checkout credentials => exact afterStretch_leases _ _ _
    | resume id => exact d.resume_leases host id
    | release i => exact absurd rfl (he i)
    | call i k =>
      dsimp only
      cases d.leases[i]? with
      | none => exact .same _
      | some l => exact (d.call_leases host l k) ▸ .same _
    | isClosed i =>
      dsimp only
      cases d.leases[i]? with
      | none => exact .same _
      | some l => exact (d.isClosed_leases host l) ▸ .same _
    | interrupt => exact .same _
    | shutdown => exact .same _
    | drain => exact .same _
    | configure setting => exact .same _
    | letGo =>
      show Extends d.leases (closeUnused host { d with isHeld := false }).leases
      rw [closeUnused_leases]
      exact .same _

/-- A lease is given back by an event of its own. -/
theorem step_released {e : Event} {i : Nat} {l : Lease}
    (hl : (d.step host e).leases[i]? = some l) (hr : l.released = true) :
    d.leases[i]? = some l ∨ e = .release i ∧
      ∃ m, d.leases[i]? = some m ∧ m.released = false ∧ m.grant = l.grant := by
  by_cases he : ∃ j, e = .release j
  · obtain ⟨j, rfl⟩ := he
    have hj : (d.step host (.release j)).leases = (d.release host j).leases := rfl
    rw [hj] at hl
    rcases d.release_leases host j with hs | ⟨m, hm, hu, hs⟩
    · exact .inl (hs ▸ hl)
    · rw [hs, markReleased, List.getElem?_modify] at hl
      split at hl
      · rename_i hji
        subst hji
        rw [hm] at hl
        obtain rfl := Option.some.inj hl
        exact .inr ⟨rfl, m, hm, hu, rfl⟩
      · exact .inl (by simpa using hl)
  · obtain ⟨new, hs, hnew⟩ := d.step_leases host e fun j hj => he ⟨j, hj⟩
    rw [hs] at hl
    by_cases hi : i < d.leases.length
    · exact .inl (by rwa [List.getElem?_append_left hi] at hl)
    · rw [List.getElem?_append_right (Nat.le_of_not_lt hi)] at hl
      simp [hnew l (List.mem_of_getElem? hl)] at hr

end ConnPool.Desk
