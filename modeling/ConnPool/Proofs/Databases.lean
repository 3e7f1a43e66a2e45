import ConnPool.Proofs.Draining
import ConnPool.Proofs.SharedDatabases
import ConnPool.World

namespace ConnPool

open Sqlite (Connection Databases Handles Library Status)

def Deed.sql? : Deed → Option String
  | .called k _ => k.sql?
  | _ => none

/-- Nobody ran a statement on the connection but plain ones. -/
def Ledger.PlainOn (plain : String → Prop) (c : ConnId) (j : Ledger) : Prop :=
  ∀ e ∈ j.about c, ∀ sql ∈ e.deed.sql?, plain sql

instance (plain : String → Prop) [DecidablePred plain] (c : ConnId) (j : Ledger) :
    Decidable (j.PlainOn plain c) :=
  inferInstanceAs (Decidable (∀ e ∈ j.about c, ∀ sql ∈ e.deed.sql?, plain sql))

theorem Ledger.PlainOn.of_cons {plain : String → Prop} {c : ConnId} {e : Entry} {j : Ledger}
    (h : Ledger.PlainOn plain c (e :: j)) : j.PlainOn plain c :=
  fun e' mem => h e' (((List.sublist_cons_self e j).filter _).mem mem)

structure View (σ ℓ κ : Type) extends Handles ℓ κ where
  status? : σ → ConnId → Option Status
  store : σ → ℓ

namespace View

variable {σ ℓ κ : Type} (V : View σ ℓ κ)

/-- For a connection nothing happens between two worlds, but elsewhere. -/
structure Passes (c : ConnId) (w v : σ) : Prop where
  status : V.status? v c = V.status? w c
  store : ∀ s, V.status? w c = some s → V.Meanwhile c (V.store w) (V.store v)

/-- Something is done with a connection. Others may be at their databases just before and after. -/
structure Does {α : Type} (c : ConnId) (a : Library ℓ → Action (Connection ℓ) α) (w : σ)
    (r : Outcome α × σ) : Prop where
  others : ∀ b, c ≠ b → V.Passes b w r.2
  missing : V.status? w c = none → V.status? r.2 c = none
  done : ∀ s, V.status? w c = some s → ∃ t d, V.Meanwhile c (V.store w) t ∧
    a (V.library c) ⟨s, t⟩ = (r.1, d) ∧ V.status? r.2 c = some d.toStatus ∧
      V.Meanwhile c d.store (V.store r.2)

theorem Does.of_found {V : View σ ℓ κ} {α : Type} {c : ConnId}
    {a : Library ℓ → Action (Connection ℓ) α} {w : σ} {r : Outcome α × σ} (does : V.Does c a w r)
    {s : Status} (found : V.status? r.2 c = some s) :
    ∃ s₀ t d, V.status? w c = some s₀ ∧ V.Meanwhile c (V.store w) t ∧
      a (V.library c) ⟨s₀, t⟩ = (r.1, d) ∧ d.toStatus = s ∧ V.Meanwhile c d.store (V.store r.2) := by
  cases before : V.status? w c with
  | none => cases found.symm.trans (does.missing before)
  | some s₀ =>
    obtain ⟨t, d, moved, did, status, left⟩ := does.done s₀ before
    exact ⟨s₀, t, d, rfl, moved, did, (Option.some.inj (found.symm.trans status)).symm, left⟩

end View

/-- Some of the connections of a host are connections to databases. -/
structure Host.Serves {σ ℓ κ : Type} (host : Host σ) (V : View σ ℓ κ) : Prop where
  now : ∀ w c, V.Passes c w (host.now w).2
  serial : ∀ b w c, V.Passes c w (host.serial b w).2
  isClosed : ∀ b w c, V.Passes c w (host.isClosed b w).2
  refused : ∀ {driver url properties w f v},
    host.connect driver url properties w = (.error f, v) → ∀ c, V.Passes c w v
  connected : ∀ {driver url properties w b v},
    host.connect driver url properties w = (.ok b, v) →
      (∀ c, b ≠ c → V.Passes c w v) ∧
      ∀ s, V.status? v b = some s → ∃ t u,
        Sqlite.connect (V.library b) url properties t = (.ok (), u) ∧ V.Meanwhile b u (V.store v)
  call : ∀ c k w, V.Does c (fun lib => Connection.call lib k) w (host.call c k w)
  close : ∀ c w, V.Does c Connection.close w (host.close c w)
  saysClosed : ∀ {w c s}, V.status? w c = some s → (host.isClosed c w).1 = s.isClosed

namespace Host.Serves

variable {σ ℓ κ : Type} {host : Host σ} {V : View σ ℓ κ} {plain : String → Prop}

/-- As long as only plain statements are run, the connections that were opened are tidy. -/
def Tidied (V : View σ ℓ κ) (plain : String → Prop) (w : σ × Ledger) : Prop :=
  ∀ c ∈ w.2.opened, w.2.PlainOn plain c → ∀ s, V.status? w.1 c = some s →
    Connection.Tidy (V.library c) (V.observer c) ⟨s, V.store w.1⟩

theorem tidy_of_passes (laws : V.Lawful plain) {c : ConnId} {w v : σ} (passes : V.Passes c w v)
    (tidy : ∀ s, V.status? w c = some s →
      Connection.Tidy (V.library c) (V.observer c) ⟨s, V.store w⟩) {s : Status}
    (found : V.status? v c = some s) :
    Connection.Tidy (V.library c) (V.observer c) ⟨s, V.store v⟩ := by
  rw [passes.status] at found
  exact (tidy s found).meanwhile laws (passes.store s found)

/-- An entry about one connection does nothing to the others. -/
theorem Tidied.entry (laws : V.Lawful plain) {w : σ × Ledger} {v : σ} {p : Party} {b : ConnId}
    {deed : Deed} (tidied : Tidied V plain w) (others : ∀ c, b ≠ c → V.Passes c w.1 v)
    (itself : Ledger.PlainOn plain b (⟨p, b, deed⟩ :: w.2) → b ∈ Ledger.opened (⟨p, b, deed⟩ :: w.2) →
      ∀ s, V.status? v b = some s → Connection.Tidy (V.library b) (V.observer b) ⟨s, V.store v⟩) :
    Tidied V plain (v, ⟨p, b, deed⟩ :: w.2) := by
  intro c opened statements s found
  by_cases same : b = c
  · subst same
    exact itself statements opened s found
  · have earlier : c ∈ w.2.opened := by
      rw [Ledger.opened_cons] at opened
      split at opened
      · exact (List.mem_cons.1 opened).resolve_left fun eq => same eq.symm
      · exact opened
    exact tidy_of_passes laws (others c same) (tidied c earlier statements.of_cons) found

end Host.Serves

def Physical.status? : Physical → Option Status
  | .sqlite s => some s
  | .scripted _ => none

namespace World

def status? (w : World) (c : ConnId) : Option Status :=
  (w.connections[c]?).bind Physical.status?

def view : View World Databases Sqlite.Tables := { Databases.all with status?, store := databases }

variable {w v : World} {b c : ConnId} {x y : Physical} {s : Status}

theorem status?_eq_some : w.status? c = some s ↔ w.connections[c]? = some (.sqlite s) := by
  unfold status?
  cases w.connections[c]? with
  | none => simp
  | some y => cases y <;> simp [Physical.status?]

/-- A connection joins the others. -/
theorem status?_append (joined : v.connections = w.connections ++ [x]) :
    v.status? w.connections.length = x.status? ∧
      ∀ c, w.connections.length ≠ c → v.status? c = w.status? c := by
  unfold status?
  rw [joined]
  refine ⟨by simp, fun c other => ?_⟩
  rcases Nat.lt_or_gt_of_ne other with beyond | there
  · rw [List.getElem?_eq_none (by simp; omega), List.getElem?_eq_none (Nat.le_of_lt beyond)]
  · rw [List.getElem?_append_left there]

theorem passes_of_same (connections : v.status? c = w.status? c)
    (databases : v.databases = w.databases) : view.Passes c w v where
  status := connections
  store s _ := by
    show view.Meanwhile c w.databases v.databases
    rw [databases]

/-- What is done with one connection to a database is done elsewhere for the others. -/
theorem preserves_meanwhile (other : b ≠ c) (x : Databases) :
    (Databases.library b).Preserves (view.Meanwhile c x) := fun step moved =>
  moved.tail (.handle other step)

/-- What a driver opens joins the others: a connection to a database that was opened for it, or
another connection. -/
theorem connect_adds {driver url : String} {p : Properties}
    (h : connect driver url p w = (.ok b, v)) :
    b = w.connections.length ∧ ∃ x, v.connections = w.connections ++ [x] ∧
      (driver = Connection.driverName ∧ x = .sqlite {} ∧
          Sqlite.connect (Databases.library b) url p w.databases = (.ok (), v.databases) ∨
        driver ≠ Connection.driverName ∧ x.status? = none ∧ v.databases = w.databases) := by
  unfold connect at h
  split at h
  · rename_i sqlite
    unfold addSqlite at h
    dsimp only at h
    split at h
    · rename_i ok
      obtain ⟨eq, rfl⟩ := Prod.mk.inj h
      obtain rfl := Except.ok.inj eq
      exact ⟨rfl, _, rfl, .inl ⟨sqlite, rfl, Prod.ext ok rfl⟩⟩
    · cases congrArg Prod.fst h
  · rename_i other
    unfold connectScripted at h
    dsimp only at h
    split at h
    · cases congrArg Prod.fst h
    · obtain ⟨eq, rfl⟩ := Prod.mk.inj h
      obtain rfl := Except.ok.inj eq
      exact ⟨rfl, _, rfl, .inr ⟨other, rfl, rfl⟩⟩

/-- A connection to a database that was opened just now is one that the driver gave. -/
theorem status?_of_connect {driver url : String} {p : Properties}
    (h : connect driver url p w = (.ok b, v)) : v.status? b = some s ↔
      driver = Connection.driverName ∧ s = {} ∧
        Sqlite.connect (Databases.library b) url p w.databases = (.ok (), v.databases) := by
  obtain ⟨rfl, x, joined, ⟨sqlite, rfl, connected⟩ | ⟨other, none, -⟩⟩ := connect_adds h
  · rw [(status?_append joined).1]
    simp [Physical.status?, sqlite, connected, eq_comm]
  · rw [(status?_append joined).1, none]
    simp [other]

theorem bound_of_status (found : w.status? c = some s) : w.connections.length ≠ c := by
  have there := (List.getElem?_eq_some_iff.1 (status?_eq_some.1 found)).1
  exact fun eq => Nat.lt_irrefl _ (eq ▸ there)

theorem connected {driver url : String} {p : Properties} (h : connect driver url p w = (.ok b, v)) :
    (∀ c, b ≠ c → view.Passes c w v) ∧
      ∀ s, v.status? b = some s → ∃ t u,
        Sqlite.connect (Databases.library b) url p t = (.ok (), u) ∧
          view.Meanwhile b u v.databases := by
  refine ⟨fun c other => ?_, fun s found => ?_⟩
  · obtain ⟨rfl, x, joined, ⟨-, -, opened⟩ | ⟨-, -, databases⟩⟩ := connect_adds h
    · refine ⟨(status?_append joined).2 c other, fun s _ => ?_⟩
      have moved := Sqlite.keeps_connect (preserves_meanwhile other w.databases) url p w.databases
        .refl
      rwa [opened] at moved
    · exact passes_of_same ((status?_append joined).2 c other) databases
  · exact ⟨w.databases, _, ((status?_of_connect h).1 found).2.2, .refl⟩

theorem refused {driver url : String} {p : Properties} {f : Failure}
    (h : connect driver url p w = (.error f, v)) (c : ConnId) : view.Passes c w v := by
  unfold connect at h
  split at h
  · unfold addSqlite at h
    dsimp only at h
    split at h
    · cases congrArg Prod.fst h
    · obtain ⟨-, rfl⟩ := Prod.mk.inj h
      exact ⟨rfl, fun s found => Sqlite.keeps_connect
        (preserves_meanwhile (bound_of_status found) w.databases) url p w.databases .refl⟩
  · unfold connectScripted at h
    dsimp only at h
    split at h
    · obtain ⟨-, rfl⟩ := Prod.mk.inj h
      exact passes_of_same rfl rfl
    · cases congrArg Prod.fst h

end World
end ConnPool
