import ConnPool.Proofs.Openings
import ConnPool.Proofs.Transactions
import ConnPool.Sqlite.Driver

namespace ConnPool.Sqlite

variable {ℓ κ : Type}

/-- All handles of a library, and what can be told of each. -/
structure Handles (ℓ κ : Type) where
  library : ConnId → Library ℓ
  observer : ConnId → Observer ℓ κ
  /-- What queries find. -/
  shown : ConnId → ℓ → κ
  /-- Queries may find what other handles have not committed. -/
  readsUncommitted : ConnId → ℓ → Prop
  /-- What is done to databases without any of the handles. -/
  outside : ℓ → ℓ → Prop

/-- Configuring a connection is setting how long it waits, and switches. -/
theorem configure_keeps {lib : Library ℓ} {P : Connection ℓ → Prop}
    (waits : ∀ ms, (Connection.setBusyTimeout ms lib).Keeps P)
    (switches : ∀ name value, (Connection.setPragma name value lib).Keeps P) (p : Properties) :
    (configure lib p).Keeps P := by
  unfold configure
  generalize p.get? "journal_mode" = journal
  refine (Action.keeps_lift _).bind fun timeout => ?_
  rcases timeout with _ | ms
  on_goal 2 => refine (waits ms).bind fun _ => ?_
  all_goals
    refine (Action.keeps_lift _).bind fun on => ?_
    refine (switches _ _).bind fun _ => ?_
    cases journal with
    | none => exact Action.keeps_pure ()
    | some mode => exact switches _ _

namespace Handles

section

variable (H : Handles ℓ κ) (i : ConnId)

/-- What goes on without a handle. -/
inductive Elsewhere : ℓ → ℓ → Prop where
  | handle {j : ConnId} {s t : ℓ} (other : j ≠ i) (step : (H.library j).Step s t) : Elsewhere s t
  | outside {s t : ℓ} (moved : H.outside s t) : Elsewhere s t

abbrev Meanwhile : ℓ → ℓ → Prop := Relation.ReflTransGen (H.Elsewhere i)

/-- A handle without a transaction, which has nothing of its own. -/
structure Idle (s : ℓ) : Prop where
  within : (H.library i).inTransaction s = false
  own : (H.observer i).own s = (H.observer i).committed s

/-- How handles are opened, and how far they disturb each other. -/
structure Lawful (plain : String → Prop) : Prop where
  transacts : ∀ i, (H.library i).Transacts (H.observer i) plain
  opensInMemory : ∀ {i s t}, (H.library i).openInMemory s = (.ok (), t) → H.Idle i t
  opensPath : ∀ {i path s t}, (H.library i).openPath path s = (.ok (), t) → H.Idle i t
  switches : ∀ {i s} name value, H.Idle i s → H.Idle i ((H.library i).setPragma name value s).2
  within : ∀ {i s t}, H.Elsewhere i s t → (H.library i).inTransaction t = (H.library i).inTransaction s
  clean : ∀ {i s t}, H.Elsewhere i s t → (H.observer i).Clean (H.library i) s →
    (H.observer i).Clean (H.library i) t
  reads : ∀ {i s}, ¬ H.readsUncommitted i s → H.shown i s = (H.observer i).own s

end

variable {H : Handles ℓ κ} {plain : String → Prop} {i : ConnId} {s t : ℓ}

theorem Lawful.within_meanwhile (h : H.Lawful plain) (moved : H.Meanwhile i s t) :
    (H.library i).inTransaction t = (H.library i).inTransaction s := by
  induction moved with
  | refl => rfl
  | tail _ step ih => exact (h.within step).trans ih

theorem Lawful.clean_meanwhile (h : H.Lawful plain) (moved : H.Meanwhile i s t)
    (clean : (H.observer i).Clean (H.library i) s) : (H.observer i).Clean (H.library i) t := by
  induction moved with
  | refl => exact clean
  | tail _ step ih => exact h.clean step ih

section

variable (h : H.Lawful plain)
include h

end
end Handles

theorem Connection.keeps_withHandle {α : Type} {P : ℓ → Prop} {f : Action ℓ α} (h : f.Keeps P) :
    (withHandle f).Keeps fun c => P c.store := by
  intro c hc
  unfold withHandle
  split
  · exact hc
  · exact h c.store hc

def Library.Preserves (lib : Library ℓ) (P : ℓ → Prop) : Prop := ∀ {s t}, lib.Step s t → P s → P t

section

variable {lib : Library ℓ} {P : ℓ → Prop} {s t : ℓ} (h : lib.Preserves P)
include h

namespace Connection

theorem keeps_setBusyTimeout (ms : UInt64) :
    (setBusyTimeout ms lib).Keeps fun c => P c.store := by
  refine keeps_withHandle ?_
  split
  · exact fun s hs => h (.setBusyTimeout _ s) hs
  · exact Action.keeps_lift _

theorem keeps_setPragma (name value : String) :
    (setPragma name value lib).Keeps fun c => P c.store :=
  keeps_withHandle fun s hs => h (.setPragma name value s) hs

end Connection

theorem keeps_configure (p : Properties) : (configure lib p).Keeps fun c => P c.store :=
  configure_keeps (Connection.keeps_setBusyTimeout h) (Connection.keeps_setPragma h) p

theorem keeps_open (path : String) : («open» lib path).Keeps P := by
  intro s hs
  unfold «open»
  dsimp only
  split
  · exact h (.openInMemory s) hs
  · split
    · exact hs
    · exact h (.openPath path s) hs

/-- Opening a connection does nothing that its handle cannot do. -/
theorem keeps_connect (url : String) (p : Properties) : (connect lib url p).Keeps P := by
  unfold connect
  refine (Action.keeps_lift _).bind fun path => (keeps_open h path).bind fun _ s hs => ?_
  have configured := keeps_configure h p ⟨{}, s⟩ hs
  -- a handle that could not be configured is closed
  split <;> rename_i done <;> rw [done] at configured
  · exact configured
  · exact h (.close _) configured

end

namespace Connection

/-- While a connection is open its transactions go with its mode, and without one it finds what is
committed. -/
structure Tidy (lib : Library ℓ) (o : Observer ℓ κ) (c : Connection ℓ) : Prop where
  settled : c.Settled lib
  clean : c.isClosed = false → o.Clean lib c.store

variable {lib : Library ℓ} {o : Observer ℓ κ} {plain : String → Prop} {c : Connection ℓ} {k : Call}

theorem tidy_of_closed (closed : c.isClosed = true) : c.Tidy lib o where
  settled opened := by cases closed.symm.trans opened
  clean opened := by cases closed.symm.trans opened

theorem Tidy.call (h : lib.Transacts o plain) (tidy : c.Tidy lib o)
    (statement : ∀ sql ∈ k.sql?, plain sql) : (c.call lib k).2.Tidy lib o where
  settled := tidy.settled.call h statement
  clean opened := by
    rw [call_isClosed] at opened
    rw [call_store lib opened]
    exact effect_clean h statement (tidy.clean opened)

theorem Tidy.close (lib : Library ℓ) (o : Observer ℓ κ) (c : Connection ℓ) :
    (c.close lib).2.Tidy lib o := tidy_of_closed (close_isClosed lib c)

variable {H : Handles ℓ κ} {i : ConnId} {st : Status} {s t : ℓ}

theorem Tidy.meanwhile (h : H.Lawful plain) (moved : H.Meanwhile i s t)
    (tidy : Tidy (H.library i) (H.observer i) ⟨st, s⟩) :
    Tidy (H.library i) (H.observer i) ⟨st, t⟩ where
  settled opened on := (h.within_meanwhile moved).trans (tidy.settled opened on)
  clean opened := h.clean_meanwhile moved (tidy.clean opened)

theorem Tidy.of_idle (idle : H.Idle i s) : Tidy (H.library i) (H.observer i) ⟨st, s⟩ where
  settled _ _ := idle.within
  clean _ _ := idle.own

end Connection
end ConnPool.Sqlite
