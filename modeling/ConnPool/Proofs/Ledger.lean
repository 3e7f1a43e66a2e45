import ConnPool.Source

namespace ConnPool

/-- A connection is dealt with by the pool itself or by the holder of a lease. -/
inductive Party where
  | pool
  | holder
  deriving DecidableEq

inductive Deed where
  | opened (driver url : String) (properties : Properties)
  /-- A pool takes the connection on. -/
  | numbered
  | called (k : Call) (answer : Outcome k.Answer)
  | asked (isClosed : Bool)
  | closed (answer : Outcome Unit)

namespace Deed

def isOpening : Deed → Bool
  | .opened .. => true
  | _ => false

def isNumbering : Deed → Bool
  | .numbered => true
  | _ => false

/-- Whether the connection itself is spoken to. -/
def isContact : Deed → Bool
  | .called .. | .asked _ | .closed _ => true
  | _ => false

/-- After such a deed nothing is left to do: the connection was closed, or said that it is. -/
def isParting : Deed → Bool
  | .closed _ => true
  | .asked isClosed => isClosed
  | _ => false

end Deed

structure Entry where
  party : Party
  conn : ConnId
  deed : Deed

/-- The latest entry stands in front. -/
abbrev Ledger := List Entry

namespace Ledger

def opened (j : Ledger) : List ConnId := (j.filter (·.deed.isOpening)).map (·.conn)

def numbered (j : Ledger) : List ConnId := (j.filter (·.deed.isNumbering)).map (·.conn)

def dealings (j : Ledger) (c : ConnId) : Ledger := j.filter fun e => e.party == .pool && e.conn == c

/-- Whether the last thing that the pool did with a connection was to part with it. -/
def parted (j : Ledger) (c : ConnId) : Bool := (j.dealings c).head?.any (·.deed.isParting)

/-- Drivers open new connections: none was opened twice. -/
def OpensNew (j : Ledger) : Prop := j.opened.Nodup

instance (j : Ledger) : Decidable j.OpensNew := inferInstanceAs (Decidable j.opened.Nodup)

theorem opened_cons (e : Entry) (j : Ledger) :
    opened (e :: j) = if e.deed.isOpening then e.conn :: j.opened else j.opened := by
  simp only [opened, List.filter_cons]
  split <;> simp

theorem numbered_cons (e : Entry) (j : Ledger) :
    numbered (e :: j) = if e.deed.isNumbering then e.conn :: j.numbered else j.numbered := by
  simp only [numbered, List.filter_cons]
  split <;> simp

theorem opened_contact {e : Entry} (h : e.deed.isContact = true) (j : Ledger) :
    opened (e :: j) = j.opened := by
  cases hd : e.deed <;> simp_all [opened_cons, Deed.isContact, Deed.isOpening]

theorem numbered_contact {e : Entry} (h : e.deed.isContact = true) (j : Ledger) :
    numbered (e :: j) = j.numbered := by
  cases hd : e.deed <;> simp_all [numbered_cons, Deed.isContact, Deed.isNumbering]

/-- What is done with other connections, or by others than the pool, does not count. -/
theorem dealings_other {e : Entry} {c : ConnId} (h : e.party = .pool → e.conn ≠ c) (j : Ledger) :
    dealings (e :: j) c = j.dealings c := by
  simp only [dealings, List.filter_cons]
  split <;> simp_all

@[simp] theorem parted_self (c : ConnId) (x : Deed) (j : Ledger) :
    parted (⟨.pool, c, x⟩ :: j) c = x.isParting := by
  simp [parted, dealings]

/-- What was new stays new whatever is opened later. -/
theorem OpensNew.of_suffix {j j' : Ledger} (h : OpensNew j') (hs : j <:+ j') : OpensNew j :=
  List.Nodup.sublist ((hs.sublist.filter _).map _) h

end Ledger

def Host.withLedger {σ : Type} (host : Host σ) (p : Party) : Host (σ × Ledger) where
  now w := ((host.now w.1).1, (host.now w.1).2, w.2)
  instant w := host.instant w.1
  serial c w := ((host.serial c w.1).1, (host.serial c w.1).2, ⟨p, c, .numbered⟩ :: w.2)
  acceptsUrl := host.acceptsUrl
  connect driver url properties w :=
    match host.connect driver url properties w.1 with
    | (.ok c, v) => (.ok c, v, ⟨p, c, .opened driver url properties⟩ :: w.2)
    | (.error f, v) => (.error f, v, w.2)
  call c k w :=
    let r := host.call c k w.1
    (r.1, r.2, ⟨p, c, .called k r.1⟩ :: w.2)
  close c w :=
    let r := host.close c w.1
    (r.1, r.2, ⟨p, c, .closed r.1⟩ :: w.2)
  isClosed c w :=
    let r := host.isClosed c w.1
    (r.1, r.2, ⟨p, c, .asked r.1⟩ :: w.2)
  driverName c w := host.driverName c w.1

theorem Host.withLedger_connect_ok {σ : Type} {host : Host σ} {p : Party} {driver url : String}
    {properties : Properties} {w : σ × Ledger} {c : ConnId} {v : σ}
    (h : host.connect driver url properties w.1 = (.ok c, v)) :
    (host.withLedger p).connect driver url properties w =
      (.ok c, v, ⟨p, c, .opened driver url properties⟩ :: w.2) := by
  simp [withLedger, h]

theorem Host.withLedger_connect_error {σ : Type} {host : Host σ} {p : Party} {driver url : String}
    {properties : Properties} {w : σ × Ledger} {f : Failure} {v : σ}
    (h : host.connect driver url properties w.1 = (.error f, v)) :
    (host.withLedger p).connect driver url properties w = (.error f, v, w.2) := by
  simp [withLedger, h]

namespace Action

variable {σ α β : Type} {p : Party} {c : ConnId}

theorem bind_apply (x : Action σ α) (f : α → Action σ β) (w : σ) :
    (x >>= f) w = match x w with
      | (.ok a, w) => f a w
      | (.error e, w) => (.error e, w) := rfl

/-- A step that does nothing but speak to one connection. -/
def SpeaksTo (p : Party) (c : ConnId) (a : Action (σ × Ledger) α) : Prop :=
  ∀ w, ∃ es : Ledger, (a w).2.2 = es ++ w.2 ∧
    ∀ e ∈ es, e.party = p ∧ e.conn = c ∧ e.deed.isContact = true

theorem speaksTo_pure (a : α) : SpeaksTo p c (Pure.pure a : Action (σ × Ledger) α) :=
  fun _ => ⟨[], rfl, by simp⟩

theorem SpeaksTo.bind {x : Action (σ × Ledger) α} {f : α → Action (σ × Ledger) β}
    (hx : SpeaksTo p c x) (hf : ∀ a, SpeaksTo p c (f a)) : SpeaksTo p c (x >>= f) := by
  intro w
  obtain ⟨es, he, hes⟩ := hx w
  rw [bind_apply]
  cases hr : x w with
  | mk r w' =>
    rw [hr] at he
    cases r with
    | error e => exact ⟨es, he, hes⟩
    | ok a =>
      obtain ⟨fs, hf, hfs⟩ := hf a w'
      refine ⟨fs ++ es, ?_, ?_⟩
      · show (f a w').2.2 = _
        rw [hf, he, List.append_assoc]
      · intro e hm
        rcases List.mem_append.mp hm with hm | hm
        · exact hfs e hm
        · exact hes e hm

variable (host : Host σ)

theorem speaksTo_call (k : Call) : SpeaksTo p c ((host.withLedger p).call c k) :=
  fun w => ⟨[⟨p, c, .called k (host.call c k w.1).1⟩], rfl, by simp [Deed.isContact]⟩

theorem speaksTo_close : SpeaksTo p c ((host.withLedger p).close c) :=
  fun w => ⟨[⟨p, c, .closed (host.close c w.1).1⟩], rfl, by simp [Deed.isContact]⟩

theorem speaksTo_rollbackIfNeeded : SpeaksTo p c ((host.withLedger p).rollbackIfNeeded c) := by
  refine (speaksTo_call host _).bind fun committed => ?_
  split
  · exact speaksTo_pure ()
  · exact speaksTo_call host _

theorem speaksTo_configure (s : Source) : SpeaksTo p c (s.configure (host.withLedger p) c) := by
  refine .bind ?_ fun _ => .bind ?_ fun _ => ?_
  · unfold Source.applyTimeout
    split
    · exact speaksTo_pure ()
    · exact speaksTo_call host _
  · unfold Source.applyAutoCommit
    split
    · exact speaksTo_pure ()
    · refine (speaksTo_call host _).bind fun now => ?_
      split
      · exact speaksTo_pure ()
      · exact speaksTo_call host _
  · unfold Source.applyIsolation
    split
    · exact speaksTo_pure ()
    · exact speaksTo_call host _

/-- Rolling back asks for the mode at least, so it is no parting. -/
theorem parted_rollbackIfNeeded (w : σ × Ledger) :
    Ledger.parted ((host.withLedger .pool).rollbackIfNeeded c w).2.2 c = false := by
  rw [Host.rollbackIfNeeded, bind_apply]
  cases hr : (host.withLedger .pool).call c .autoCommit w with
  | mk r w' =>
    have hw : w'.2 = ⟨.pool, c, .called .autoCommit (host.call c .autoCommit w.1).1⟩ :: w.2 :=
      (congrArg (·.2.2) hr).symm
    cases r with
    | error e => simp [hw, Deed.isParting]
    | ok committed => cases committed <;> simp [hw, Host.withLedger, Deed.isParting]

theorem parted_close (w : σ × Ledger) :
    Ledger.parted ((host.withLedger .pool).close c w).2.2 c = true := by
  simp [Host.withLedger, Deed.isParting]

end Action
end ConnPool
