import ConnPool.Proofs.Flags

namespace ConnPool

namespace Move

variable {x y : Scene}

/-- The connections tracked stay, or one leaves that could not be configured or was parted with,
or one joins that was just opened. -/
theorem conns_cases (h : Move x y) (ho : Orderly x) :
    (y.conns.Perm x.conns ∧ y.ledger.opened = x.ledger.opened) ∨
    (∃ c, x.conns.Perm (c :: y.conns) ∧ y.ledger = x.ledger ∧
      (x.hand = .opened c ∨ x.ledger.parted c = true)) ∨
    ∃ c, y.conns.Perm (c :: x.conns) ∧ y.ledger.opened = c :: x.ledger.opened := by
  cases h with
  | takeIdle r rest empty front =>
    refine .inl ⟨?_, rfl⟩
    simp [Scene.conns, empty, front, Hand.conns]
  | «open» c driver url properties empty none_idle room =>
    refine .inr (.inr ⟨c, ?_, Ledger.opened_cons _ _⟩)
    simp [Scene.conns, Scene.write, empty, Hand.conns]
  | forsake c hand =>
    refine .inr (.inl ⟨c, ?_, rfl, .inl hand⟩)
    simp [Scene.conns, hand, Hand.conns]
  | wrap c id now hand =>
    refine .inl ⟨?_, Ledger.opened_cons _ _⟩
    simp [Scene.conns, Scene.write, hand, Hand.conns, Record.fresh]
  | claim r rest empty front =>
    refine .inl ⟨?_, rfl⟩
    simpa [Scene.conns, empty, front, Hand.conns] using List.perm_middle.symm
  | takeBack i l r empty lease unreleased found =>
    refine .inl ⟨?_, rfl⟩
    have hp := ((perm_of_find? found).symm.append_left x.idle).map (·.conn)
    simpa [Scene.conns, Scene.markReleased, empty, Hand.conns] using
      (List.perm_middle.symm.map _).trans hp
  | stale i l empty lease unreleased missing => exact .inl ⟨.refl _, rfl⟩
  | contact e current byPool contact => exact .inl ⟨.refl _, Ledger.opened_contact contact _⟩
  | use e l empty lease valid conn byHolder contact =>
    exact .inl ⟨.refl _, Ledger.opened_contact contact _⟩
  | renew r now hand =>
    refine .inl ⟨?_, rfl⟩
    cases hx : x.hand <;> simp_all [Scene.conns, Hand.conns, Hand.taken, Record.renew]
  | grant r code now hand kept =>
    refine .inl ⟨?_, rfl⟩
    simpa [Scene.conns, hand, Hand.conns, Record.checkedOut, Record.withTypeCode] using
      List.perm_append_singleton r.conn (x.idle.map (·.conn) ++ x.active.map (·.conn))
  | keep r hand kept room =>
    refine .inl ⟨?_, rfl⟩
    simp [Scene.conns, hand, Hand.conns]
  | reject r hand parted =>
    have hr : r ∈ x.records := by
      rcases hand with hand | hand <;> simp [Scene.records, hand, Hand.records]
    refine .inr (.inl ⟨r.conn, ?_, rfl, .inr (parted (ho.valid_of_record hr))⟩)
    rcases hand with hand | hand <;> simp [Scene.conns, hand, Hand.conns]
  | retire r hand =>
    refine .inl ⟨?_, rfl⟩
    simp [Scene.conns, hand, Hand.conns]
  | clear source config empty =>
    refine .inl ⟨?_, rfl⟩
    simpa [Scene.conns, empty, Hand.conns] using (drained_perm x.idle x.active).map (·.conn)
  | revoke r rest hand =>
    refine .inl ⟨?_, rfl⟩
    simp [Scene.conns, hand, Hand.conns]
  | dismiss c rest hand parted =>
    refine .inr (.inl ⟨c, ?_, rfl, .inr parted⟩)
    simp [Scene.conns, hand, Hand.conns]

/-- The pool deals only with the connection in hand, and takes it on only where it is new. -/
theorem ledger_cases (h : Move x y) :
    y.ledger = x.ledger ∨
    ∃ e, y.ledger = e :: x.ledger ∧ (e.party = .pool → e.conn ∈ y.hand.conns) ∧
      (e.deed.isNumbering = true → e.party = .pool ∧ x.hand = .opened e.conn) := by
  cases h with
  | «open» c driver url properties empty none_idle room =>
    exact .inr ⟨_, rfl, by simp [Hand.conns], by simp [Deed.isNumbering]⟩
  | wrap c id now hand =>
    exact .inr ⟨_, rfl, by simp [Hand.conns, Record.fresh], fun _ => ⟨rfl, hand⟩⟩
  | contact e current byPool contact =>
    refine .inr ⟨e, rfl, fun _ => Hand.current?_mem current, fun hd => ?_⟩
    cases he : e.deed <;> simp_all [Deed.isNumbering, Deed.isContact]
  | use e l empty lease valid conn byHolder contact =>
    refine .inr ⟨e, rfl, by simp [byHolder], fun hd => ?_⟩
    cases he : e.deed <;> simp_all [Deed.isNumbering, Deed.isContact]
  | _ => exact .inl rfl

theorem numbered_cases (h : Move x y) :
    y.ledger.numbered = x.ledger.numbered ∨
    ∃ c, x.hand = .opened c ∧ c ∈ y.hand.conns ∧ y.ledger.numbered = c :: x.ledger.numbered := by
  rcases h.ledger_cases with he | ⟨e, he, hpool, hnum⟩
  · exact .inl (by rw [he])
  · rw [he, Ledger.numbered_cons]
    split
    · rename_i hd
      exact .inr ⟨e.conn, (hnum hd).2, hpool (hnum hd).1, rfl⟩
    · exact .inl rfl

/-- What others do, or the pool does with the connection in hand, is no dealing with any other. -/
theorem dealings_of_not_mem (h : Move x y) {c : ConnId} (hc : c ∉ y.hand.conns) :
    y.ledger.dealings c = x.ledger.dealings c := by
  rcases h.ledger_cases with he | ⟨e, he, hpool, -⟩
  · rw [he]
  · rw [he]
    refine Ledger.dealings_other (fun hp hec => hc ?_) _
    exact hec ▸ hpool hp

theorem parted_of_not_mem (h : Move x y) {c : ConnId} (hc : c ∉ y.hand.conns) :
    y.ledger.parted c = x.ledger.parted c := by
  rw [Ledger.parted, h.dealings_of_not_mem hc, Ledger.parted]

/-- Only what the pool has just spoken to joins the lists, and it was not parted with. -/
theorem lists_cases (h : Move x y) {r : Record} (hr : r ∈ y.idle ++ y.active) :
    (∃ q ∈ x.idle ++ x.active, q.conn = r.conn) ∨ x.ledger.parted r.conn = false := by
  cases h with
  | takeIdle q rest empty front =>
    exact .inl ⟨r, by rw [front]; exact List.mem_cons_of_mem _ hr, rfl⟩
  | claim q rest empty front =>
    refine .inl ⟨r, List.mem_append.mpr ((List.mem_append.mp hr).imp_right fun hr => ?_), rfl⟩
    exact front ▸ List.mem_cons_of_mem _ hr
  | takeBack i l q empty lease unreleased found =>
    refine .inl ⟨r, List.mem_append.mpr ((List.mem_append.mp hr).imp_right fun hr => ?_), rfl⟩
    exact List.mem_of_mem_eraseP hr
  | grant q code now hand kept =>
    simp only [← List.append_assoc, List.mem_append, List.mem_singleton] at hr
    rcases hr with hr | rfl
    · exact .inl ⟨r, List.mem_append.mpr hr, rfl⟩
    · exact .inr kept
  | keep q hand kept room =>
    simp only [List.mem_append, List.mem_singleton] at hr
    rcases hr with (hr | rfl) | hr
    · exact .inl ⟨r, List.mem_append_left _ hr, rfl⟩
    · exact .inr kept
    · exact .inl ⟨r, List.mem_append_right _ hr, rfl⟩
  | clear source config empty => exact absurd hr List.not_mem_nil
  | _ => exact .inl ⟨r, hr, rfl⟩

/-- Only a connection just opened is in hand without a record. -/
theorem opened_cases (h : Move x y) {c : ConnId} (hc : y.hand = .opened c) :
    y.ledger.numbered = x.ledger.numbered ∧
      (x.hand = .opened c ∨ y.ledger.opened = c :: x.ledger.opened) := by
  cases h with
  | «open» b driver url properties empty none_idle room =>
    obtain rfl := Hand.opened.inj hc
    exact ⟨Ledger.numbered_cons _ _, .inr (Ledger.opened_cons _ _)⟩
  | stale i l empty lease unreleased missing => exact ⟨rfl, .inl hc⟩
  | contact e current byPool contact => exact ⟨Ledger.numbered_contact contact _, .inl hc⟩
  | use e l empty lease valid conn byHolder contact =>
    exact ⟨Ledger.numbered_contact contact _, .inl hc⟩
  | _ => cases hc

/-- Only a record in hand that nobody holds is handed out. -/
theorem grants_cases (h : Move x y) :
    y.grants = x.grants ∨
    ∃ r, x.hand = .free r ∧ y.grants = x.grants ++ [⟨r.conn, r.id, r.flag⟩] := by
  cases h with
  | takeBack i l r empty lease unreleased found => exact .inl (x.grants_markReleased i)
  | stale i l empty lease unreleased missing => exact .inl (x.grants_markReleased i)
  | grant r code now hand kept => exact .inr ⟨r, hand, by simp [Scene.grants]⟩
  | _ => exact .inl rfl

/-- A flag never becomes valid again. -/
theorem valid_of (h : Move x y) {i : FlagId} (hv : y.flags.isValid i = true) :
    x.flags.isValid i = true := by
  cases h with
  | renew r now hand | retire r hand | revoke r rest hand =>
    simp only [Flags.isValid_revoke, Flags.isValid_mint, Bool.and_eq_true] at hv
    exact hv.2
  | _ => exact hv

theorem opened_of (h : Move x y) {c : ConnId} (hc : c ∈ x.ledger.opened) : c ∈ y.ledger.opened :=
  ((h.ledger_suffix.sublist.filter _).map _).subset hc

end Move

/-- Every tracked connection was opened, and none is tracked twice. -/
structure Traced (x : Scene) : Prop where
  once : x.conns.Nodup
  opened : ∀ c ∈ x.conns, c ∈ x.ledger.opened

namespace Traced

variable {x y : Scene}

/-- A connection that is just being opened is new to the pool. -/
theorem new_of_opens (hn : y.ledger.OpensNew) {c : ConnId}
    (ho : y.ledger.opened = c :: x.ledger.opened) : c ∉ x.ledger.opened := by
  rw [Ledger.OpensNew, ho] at hn
  exact (List.nodup_cons.mp hn).1

theorem move (h : Traced x) (ho : Orderly x) (hn : y.ledger.OpensNew) (hm : Move x y) :
    Traced y := by
  rcases hm.conns_cases ho with ⟨hp, hj⟩ | ⟨c, hp, hj, -⟩ | ⟨c, hp, hj⟩
  · exact ⟨hp.nodup_iff.mpr h.once, fun c hc => hj ▸ h.opened c (hp.subset hc)⟩
  · refine ⟨(List.nodup_cons.mp (hp.nodup_iff.mp h.once)).2, fun b hb => ?_⟩
    exact hj ▸ h.opened b (hp.symm.subset (List.mem_cons_of_mem c hb))
  · have hnew : c ∉ x.conns := fun hc => new_of_opens hn hj (h.opened c hc)
    refine ⟨hp.nodup_iff.mpr (List.nodup_cons.mpr ⟨hnew, h.once⟩), fun b hb => ?_⟩
    rw [hj]
    rcases List.mem_cons.mp (hp.subset hb) with rfl | hb
    · exact List.mem_cons_self
    · exact List.mem_cons_of_mem _ (h.opened b hb)

/-- What is in hand is in neither list. -/
theorem hand_apart (h : Traced x) {c : ConnId} (hc : c ∈ x.hand.conns) {r : Record}
    (hr : r ∈ x.idle ++ x.active) : c ≠ r.conn := by
  have hd := (List.nodup_append.mp h.once).2.2
  exact hd c hc r.conn (List.mem_map_of_mem hr)

end Traced
end ConnPool
