import ConnPool.Proofs.Caches
import ConnPool.Proofs.Handles

namespace ConnPool.Sqlite

namespace Databases

variable {x y : Databases} {s t : Seat} {i j : ConnId}

theorem seat?_eq_some :
    x.seat? i = some s ↔ x.handles i = some s.handle ∧ x.caches[s.handle.cache]? = some s.cache := by
  unfold seat?
  cases x.handles i with
  | none => simp
  | some h =>
    cases found : x.caches[h.cache]? with
    | none =>
      simp only [Option.bind_some, found, Option.map_none, reduceCtorEq, Option.some.injEq, false_iff]
      rintro ⟨rfl, missing⟩
      cases found.symm.trans missing
    | some c =>
      obtain ⟨c', h'⟩ := s
      simp only [Option.bind_some, found, Option.map_some, Option.some.injEq, Seat.mk.injEq]
      constructor
      · rintro ⟨rfl, rfl⟩
        exact ⟨rfl, found⟩
      · rintro ⟨rfl, same⟩
        exact ⟨Option.some.inj (found.symm.trans same), rfl⟩

theorem inTransaction_of_seat (found : x.seat? i = some s) :
    x.inTransaction i = s.inTransaction i := by
  obtain ⟨handle, -⟩ := seat?_eq_some.1 found
  rw [inTransaction, cache, found, handle]
  rfl

theorem cache_of_seat (found : x.seat? i = some s) : x.cache i = s.cache := by
  rw [cache, found]
  rfl

theorem seat?_putSeat (found : x.seat? i = some s) (place : t.handle.cache = s.handle.cache) :
    (x.putSeat i t).seat? i = some t := by
  obtain ⟨-, cache⟩ := seat?_eq_some.1 found
  have there : t.handle.cache < x.caches.length := by
    rw [place]
    exact (List.getElem?_eq_some_iff.1 cache).1
  refine seat?_eq_some.2 ⟨if_pos rfl, ?_⟩
  exact List.getElem?_set_self there

theorem atSeat_of_seat {α : Type} (found : x.seat? i = some s) (missing : α) (f : Seat → α × Seat) :
    x.atSeat i missing f = ((f s).1, x.putSeat i (f s).2) := by
  rw [atSeat, found]

theorem atSeat_cases {α : Type} (i : ConnId) (x : Databases) (missing : α) (f : Seat → α × Seat) :
    (x.atSeat i missing f = (missing, x)) ∨
      ∃ s, x.seat? i = some s ∧ x.atSeat i missing f = ((f s).1, x.putSeat i (f s).2) := by
  unfold atSeat
  cases x.seat? i with
  | none => exact .inl rfl
  | some s => exact .inr ⟨s, rfl, rfl⟩

def observer (i : ConnId) : Observer Databases Tables where
  own x := (x.cache i).own i
  committed x := (x.cache i).kept
  journaled x := ((x.cache i).journal != .off) = true

theorem observer_clean (i : ConnId) (x : Databases) : (observer i).Clean (library i) x := by
  intro idle
  refine Cache.own_of_not_writer (Bool.eq_false_iff.2 fun writer => ?_)
  have within : x.inTransaction i = true := by simp [inTransaction, writer]
  cases within.symm.trans idle

section

variable {α : Type} {missing : α} {f : Seat → α × Seat}

theorem atSeat_same (same : ∀ s, x.seat? i = some s → s.Same i (f s).2)
    (turns : ∀ s : Seat, s.Turns i (f s).2) : (observer i).Same x (x.atSeat i missing f).2 := by
  rcases x.atSeat_cases i missing f with none | ⟨s, found, some⟩
  · rw [none]
    exact ⟨rfl, rfl, .rfl⟩
  · obtain ⟨own, kept, journaled⟩ := same s found
    have after := cache_of_seat (seat?_putSeat found (turns s).place)
    have before := cache_of_seat found
    rw [some]
    refine ⟨?_, ?_, ?_⟩
    · simpa only [observer, after, before] using own
    · simpa only [observer, after, before] using kept
    · simp only [observer, after, before, journaled]

theorem atSeat_inTransaction (same : ∀ s, (f s).2.inTransaction i = s.inTransaction i)
    (turns : ∀ s : Seat, s.Turns i (f s).2) :
    (x.atSeat i missing f).2.inTransaction i = x.inTransaction i := by
  rcases x.atSeat_cases i missing f with none | ⟨s, found, some⟩
  · rw [none]
  · rw [some, inTransaction_of_seat (seat?_putSeat found (turns s).place),
      inTransaction_of_seat found, same]

/-- What succeeds has been done at the seat of the handle. -/
theorem seat_of_ok {ε : Type} {fault : ε} {r : α} {f : Seat → Except ε α × Seat}
    (turns : ∀ s : Seat, s.Turns i (f s).2) (done : x.atSeat i (.error fault) f = (.ok r, y)) :
    ∃ s, x.seat? i = some s ∧ (f s).1 = .ok r ∧ y.inTransaction i = (f s).2.inTransaction i := by
  rcases x.atSeat_cases i (.error fault) f with none | ⟨s, found, some⟩
  · cases (congrArg Prod.fst none).symm.trans (congrArg Prod.fst done)
  · obtain ⟨ok, rfl⟩ := Prod.mk.inj (some.symm.trans done)
    exact ⟨s, found, ok, inTransaction_of_seat (seat?_putSeat found (turns s).place)⟩

theorem atSeat_kept (kept : ∀ s, x.seat? i = some s → (f s).2.cache.kept = s.cache.kept)
    (turns : ∀ s : Seat, s.Turns i (f s).2) :
    ((x.atSeat i missing f).2.cache i).kept = (x.cache i).kept := by
  rcases x.atSeat_cases i missing f with none | ⟨s, found, some⟩
  · rw [none]
  · rw [some, cache_of_seat (seat?_putSeat found (turns s).place), cache_of_seat found,
      kept s found]

end

theorem transacts (i : ConnId) : (library i).Transacts (observer i) Tables.engine.IsPlain where
  begins {x y} idle begun := by
    obtain ⟨s, found, ok, after⟩ := seat_of_ok (Seat.turns_control .begin) begun
    exact after.trans (Seat.begin_within ((inTransaction_of_seat found).symm.trans idle) ok)
  begins_same {x} idle :=
    atSeat_same (fun s found => Seat.begin_same ((inTransaction_of_seat found).symm.trans idle))
      fun s => s.turns_control .begin
  ends {c x y} ne within ended := by
    obtain ⟨s, found, ok, after⟩ := seat_of_ok (Seat.turns_control c) ended
    exact after.trans (Seat.end_idle ne ((inTransaction_of_seat found).symm.trans within) ok)
  ends_clean _ _ := observer_clean i _
  ends_kept {c x r y} ne within journaled ended failed := by
    obtain rfl : ((library i).control c x).2 = y := congrArg Prod.snd ended
    refine atSeat_kept (fun s found => ?_) (Seat.turns_control c)
    have answer := congrArg Prod.fst (atSeat_of_seat found (.error noHandle) (Seat.control i c))
    refine Seat.end_kept ne ((inTransaction_of_seat found).symm.trans within) ?_ fun commit ok => ?_
    · rw [← cache_of_seat found]
      exact journaled
    · exact failed commit ((congrArg Prod.fst ended).symm.trans (answer.trans ok))
  runs {sql params x r y} plain within run := by
    obtain rfl : ((library i).run sql params x).2 = y := congrArg Prod.snd run
    exact (atSeat_inTransaction (Seat.run_inTransaction plain params)
      (Seat.turns_run sql params)).trans within
  runs_clean _ _ := observer_clean i _
  runs_kept {sql params x} plain within _ :=
    atSeat_kept (fun s found => Seat.run_kept plain params
      ((inTransaction_of_seat found).symm.trans within)) (Seat.turns_run sql params)
  runs_alone {sql params x} plain idle :=
    (atSeat_inTransaction (Seat.run_inTransaction plain params) (Seat.turns_run sql params)).trans idle
  waits ms x := atSeat_inTransaction (Seat.setBusyTimeout_inTransaction ms) fun s => s.turns_onOwn
  waits_same ms x := atSeat_same (fun s _ => s.setBusyTimeout_same ms) fun s => s.turns_onOwn
  isolates v x := atSeat_inTransaction (Seat.setPragma_inTransaction _ v) (Seat.turns_setPragma _ v)
  isolates_same v x := atSeat_same (fun s _ => s.readUncommitted_same v) (Seat.turns_setPragma _ v)

/-- Nobody else can get at databases in memory. -/
def all : Handles Databases Tables where
  library := library
  observer := observer
  shown i x := ((x.seat? i).map (·.shown i)).getD {}
  readsUncommitted i x := (x.seat? i).any (·.handle.settings.readUncommitted) = true
  outside _ _ := False

end Databases
end ConnPool.Sqlite
