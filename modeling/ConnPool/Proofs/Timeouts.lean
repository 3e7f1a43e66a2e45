import ConnPool.Proofs.Databases
import ConnPool.Proofs.Trials

namespace ConnPool

namespace Action

variable {σ α β : Type} {x : Action σ α} {f : α → Action σ β} {w : σ} {text : String}

/-- Whatever goes wrong in a step is reported as an error. -/
def Reports (x : Action σ α) : Prop := ∀ w text, (x w).1 ≠ .error (.panic text)

theorem bind_error_iff {e : Failure} :
    ((x >>= f) w).1 = .error e ↔
      (x w).1 = .error e ∨ ∃ a v, x w = (.ok a, v) ∧ (f a v).1 = .error e := by
  cases hx : x w with
  | mk r v =>
    cases r with
    | error g => simp [bind_of_error hx]
    | ok a => simp [bind_of_ok hx]

theorem reports_pure (a : α) : (Pure.pure a : Action σ α).Reports := fun _ _ => nofun

theorem reports_lift {r : Outcome α} (h : ∀ text, r ≠ .error (.panic text)) :
    (lift r : Action σ α).Reports := fun _ => h

theorem Reports.bind (hx : x.Reports) (hf : ∀ a, (f a).Reports) : (x >>= f).Reports := by
  intro w text h
  obtain h | ⟨a, v, -, h⟩ := bind_error_iff.mp h
  · exact hx w text h
  · exact hf a v text h

/-- Only the first of two steps can abort. -/
theorem bind_panic_iff_left (hf : ∀ a, (f a).Reports) :
    ((x >>= f) w).1 = .error (.panic text) ↔ (x w).1 = .error (.panic text) := by
  rw [bind_error_iff, or_iff_left]
  rintro ⟨a, v, -, h⟩
  exact hf a v text h

/-- Only the second of two steps can abort. -/
theorem bind_panic_iff_right (hx : x.Reports) :
    ((x >>= f) w).1 = .error (.panic text) ↔
      ∃ a v, x w = (.ok a, v) ∧ (f a v).1 = .error (.panic text) := by
  rw [bind_error_iff, or_iff_right (hx w text)]

end Action

theorem Outcome.map_panic_iff {α β : Type} {r : Outcome α} {g : α → β} {text : String} :
    r.map g = .error (.panic text) ↔ r = .error (.panic text) := by
  cases r <;> simp [Except.map]

namespace Sqlite

/-- More milliseconds than a connection can be told to wait. -/
def TooLong (ms : UInt64) : Prop := longestTimeout < ms.toNat

instance (ms : UInt64) : Decidable (TooLong ms) :=
  inferInstanceAs (Decidable (longestTimeout < ms.toNat))

variable {ℓ : Type}

namespace Connection

variable {α : Type} {c : Connection ℓ} {text : String}

theorem withHandle_panic_iff {f : Action ℓ α} : (withHandle f c).1 = .error (.panic text) ↔
    c.isClosed = false ∧ (f c.store).1 = .error (.panic text) := by
  cases closed : c.isClosed with
  | true => simp [withHandle_of_closed closed, Outcome.fail]
  | false => simp [withHandle_of_open closed]

theorem reports_withHandle {f : Action ℓ α} (h : f.Reports) : (withHandle f).Reports :=
  fun c text panics => h c.store text (withHandle_panic_iff.1 panics).2

theorem reports_reporting (error : String → Error) (f : ℓ → Except String Unit × ℓ) :
    (reporting error f).Reports := by
  intro s text
  unfold reporting
  cases (f s).1 <;> rintro ⟨⟩

variable (lib : Library ℓ)

/-- A connection refuses no time to wait, but aborts on one that is too long unless it is closed. -/
theorem setBusyTimeout_panic_iff (ms : UInt64) (c : Connection ℓ) (text : String) :
    (setBusyTimeout ms lib c).1 = .error (.panic text) ↔
      (c.isClosed = false ∧ TooLong ms) ∧ text = "too big" := by
  rw [setBusyTimeout, withHandle_panic_iff, TooLong, ← Nat.not_le]
  by_cases fits : ms.toNat ≤ longestTimeout
  · have reports := reports_reporting
      (fun text => .connection ("Failed to set busy timeout: " ++ text))
      (lib.setBusyTimeout ms.toNat) c.store text
    rw [if_pos fits]
    exact iff_of_false (fun panics => reports panics.2) fun long => long.1.2 fits
  · rw [if_neg fits]
    constructor
    · rintro ⟨opened, panics⟩
      cases panics
      exact ⟨⟨opened, fits⟩, rfl⟩
    · rintro ⟨⟨opened, -⟩, rfl⟩
      exact ⟨opened, rfl⟩

theorem reports_setPragma (name value : String) : (setPragma name value lib).Reports :=
  reports_withHandle (reports_reporting _ _)

theorem reports_beginIfNeeded (on : Bool) : (beginIfNeeded lib on).Reports := by
  intro s text
  unfold beginIfNeeded
  split
  · exact reports_reporting _ _ s text
  · nofun

theorem reports_endTransaction (e : Control) : (endTransaction lib e).Reports := by
  intro s text
  unfold endTransaction
  split
  · exact reports_reporting _ _ s text
  · nofun

theorem reports_runStatement {sql : String} {params : List Value}
    {answer : Except Fault Reply → Nat → Outcome α}
    (h : ∀ r n text, answer r n ≠ .error (.panic text)) :
    (runStatement lib sql params answer).Reports := by
  intro c
  have performs : (perform lib sql params answer).Reports := fun s => h _ _
  exact reports_withHandle ((reports_beginIfNeeded lib c.autoCommit).bind fun _ => performs) c

theorem executed_reports (r : Except Fault Reply) (n : Nat) (text : String) :
    executed r n ≠ .error (.panic text) := by
  rcases r with f | ⟨columns, _ | ⟨row, rows⟩⟩ | _ <;> nofun

theorem queried_reports (r : Except Fault Reply) (n : Nat) (text : String) :
    queried r n ≠ .error (.panic text) := by
  rcases r with f | ⟨columns, rows⟩ | _ <;> nofun

theorem reports_setAutoCommit (on : Bool) : (setAutoCommit lib on).Reports := by
  intro c text panics
  have reports : (switching lib on).Reports := by
    cases on with
    | true => exact reports_endTransaction lib .commit
    | false => exact Action.reports_pure ()
  cases switched : withHandle (switching lib on) c with
  | mk r d =>
    cases r with
    | ok _ => cases (congrArg Prod.fst (setAutoCommit_of_ok switched)).symm.trans panics
    | error f =>
      have failed := (congrArg Prod.fst (setAutoCommit_of_error switched)).symm.trans panics
      exact reports_withHandle reports c text ((congrArg Prod.fst switched).trans failed)

theorem reports_setIsolation (level : Isolation) : (setIsolation lib level).Reports := by
  cases level with
  | serializable => exact reports_setPragma lib _ _
  | readUncommitted => exact reports_setPragma lib _ _
  | _ => exact Action.reports_lift nofun

theorem reports_call {k : Call} (other : ∀ ms, k ≠ .setNetworkTimeout ms) :
    (call lib k).Reports := by
  cases k with
  | execute sql params => exact reports_runStatement lib executed_reports
  | query sql params => exact reports_runStatement lib queried_reports
  | autoCommit => exact fun c => reports_withHandle (Action.reports_pure c.autoCommit) c
  | setAutoCommit on => exact reports_setAutoCommit lib on
  | commit => exact reports_withHandle (reports_endTransaction lib .commit)
  | rollback => exact reports_withHandle (reports_endTransaction lib .rollback)
  | setIsolation level => exact reports_setIsolation lib level
  | setNetworkTimeout ms => exact absurd rfl (other ms)

/-- The only call that aborts is the one that sets a time to wait. -/
theorem call_panic_iff (k : Call) (c : Connection ℓ) (text : String) :
    (c.call lib k).1 = .error (.panic text) ↔
      (∃ ms, k = .setNetworkTimeout ms ∧ c.isClosed = false ∧ TooLong ms) ∧ text = "too big" := by
  by_cases waits : ∃ ms, k = .setNetworkTimeout ms
  · obtain ⟨ms, rfl⟩ := waits
    refine (setBusyTimeout_panic_iff lib ms c text).trans ?_
    simp
  · have other : ∀ ms, k ≠ .setNetworkTimeout ms := not_exists.mp waits
    refine iff_of_false (reports_call lib other c text) ?_
    rintro ⟨⟨ms, h, -⟩, -⟩
    exact other ms h

end Connection

section Driver

variable (lib : Library ℓ) {p : Properties} {url text : String} {s : ℓ}

theorem busyTimeoutOf_reports (p : Properties) (text : String) :
    busyTimeoutOf p ≠ .error (.panic text) := by
  unfold busyTimeoutOf
  split
  · nofun
  · split <;> nofun

theorem foreignKeysOf_reports (p : Properties) (text : String) :
    foreignKeysOf p ≠ .error (.panic text) := by
  unfold foreignKeysOf
  split <;> nofun

theorem pathOf_reports (url text : String) : pathOf url ≠ .error (.panic text) := by
  unfold pathOf
  dsimp only
  split
  · nofun
  · split <;> nofun

theorem reports_open (path : String) : («open» lib path).Reports := by
  intro s text
  unfold «open»
  dsimp only
  split
  · exact Connection.reports_reporting _ _ s text
  · split
    · nofun
    · exact Connection.reports_reporting _ _ s text

def configureRest (p : Properties) : Action (Connection ℓ) Unit := do
  let on ← .lift (foreignKeysOf p)
  Connection.setPragma "foreign_keys" (if on then "ON" else "OFF") lib
  (p.get? "journal_mode").elim (pure ()) fun mode => Connection.setPragma "journal_mode" mode lib

theorem configure_eq (p : Properties) :
    configure lib p = (do
      let ms ← .lift (busyTimeoutOf p)
      ms.elim (pure ()) fun ms => Connection.setBusyTimeout ms lib
      configureRest lib p) := by
  unfold configure configureRest
  congr 1
  funext ms
  cases ms <;> cases p.get? "journal_mode" <;> rfl

theorem reports_configureRest (p : Properties) : (configureRest lib p).Reports := by
  refine (Action.reports_lift (foreignKeysOf_reports p)).bind fun on => ?_
  refine (Connection.reports_setPragma lib _ _).bind fun _ => ?_
  cases p.get? "journal_mode" with
  | none => exact Action.reports_pure ()
  | some mode => exact Connection.reports_setPragma lib _ _

theorem configure_panic_iff {c : Connection ℓ} (opened : c.isClosed = false) :
    (configure lib p c).1 = .error (.panic text) ↔
      (∃ ms, busyTimeoutOf p = .ok (some ms) ∧ TooLong ms) ∧ text = "too big" := by
  rw [configure_eq, Action.bind_panic_iff_right (Action.reports_lift (busyTimeoutOf_reports p))]
  cases busyTimeoutOf p with
  | error f => simp [Action.lift]
  | ok timeout =>
    have rest : ∀ u : Unit, (configureRest lib p).Reports := fun _ => reports_configureRest lib p
    cases timeout with
    | none =>
      have reports : ((pure () >>= fun _ => configureRest lib p : Action _ Unit) c).1 ≠
          .error (.panic text) := (Action.reports_pure ()).bind rest c text
      simpa [Action.lift] using reports
    | some ms =>
      have sets : ((Connection.setBusyTimeout ms lib >>= fun _ => configureRest lib p) c).1 =
          .error (.panic text) ↔ TooLong ms ∧ text = "too big" := by
        rw [Action.bind_panic_iff_left rest, Connection.setBusyTimeout_panic_iff]
        simp [opened]
      simpa [Action.lift] using sets

/-- The database that a URL names can be opened. -/
def Leads (url : String) (s : ℓ) : Prop :=
  ∃ path t, pathOf url = .ok path ∧ «open» lib path s = (.ok (), t)

/-- The database of a URL can be opened, and properties make its connections wait for too long. -/
def AsksTooLong (url : String) (p : Properties) (s : ℓ) : Prop :=
  Leads lib url s ∧ ∃ ms, busyTimeoutOf p = .ok (some ms) ∧ TooLong ms

def configured (p : Properties) : Action ℓ Unit := fun s =>
  match configure lib p { store := s } with
  | (.ok _, c) => (.ok (), c.store)
  | (.error f, c) => (.error f, (lib.close c.store).2)

theorem configured_panic_iff : (configured lib p s).1 = .error (.panic text) ↔
    (∃ ms, busyTimeoutOf p = .ok (some ms) ∧ TooLong ms) ∧ text = "too big" := by
  rw [← configure_panic_iff (c := ⟨{}, s⟩) lib rfl]
  unfold configured
  split <;> rename_i done <;> simp [done]

theorem connect_panic_iff (url : String) (p : Properties) (s : ℓ) (text : String) :
    (connect lib url p s).1 = .error (.panic text) ↔
      AsksTooLong lib url p s ∧ text = "too big" := by
  have opens : connect lib url p =
      (Action.lift (pathOf url) >>= fun path => «open» lib path >>= fun _ => configured lib p) := rfl
  rw [opens, Action.bind_panic_iff_right (Action.reports_lift (pathOf_reports url))]
  constructor
  · rintro ⟨path, t, found, panics⟩
    obtain ⟨_, u, opened, panics⟩ := (Action.bind_panic_iff_right (reports_open lib path)).1 panics
    obtain ⟨asks, rfl⟩ := (configured_panic_iff lib).1 panics
    obtain ⟨given, rfl⟩ := Prod.mk.inj found
    exact ⟨⟨⟨path, u, given, opened⟩, asks⟩, rfl⟩
  · rintro ⟨⟨⟨path, u, given, opened⟩, asks⟩, rfl⟩
    refine ⟨path, s, Prod.ext given rfl, ?_⟩
    exact (Action.bind_panic_iff_right (reports_open lib path)).2
      ⟨(), u, opened, (configured_panic_iff lib).2 ⟨asks, rfl⟩⟩

theorem accepts_of_leads (leads : Leads lib url s) : acceptsUrl url = true := by
  obtain ⟨path, t, given, -⟩ := leads
  by_contra refused
  have unknown : (!acceptsUrl url) = true := by simpa using refused
  rw [pathOf, if_pos unknown] at given
  cases given

theorem leads_of_connect {t : ℓ} (connected : connect lib url p s = (.ok (), t)) :
    Leads lib url s := by
  obtain ⟨path, u, found, connected⟩ := Action.bind_ok connected
  obtain ⟨given, rfl⟩ := Prod.mk.inj found
  obtain ⟨_, v, opened, -⟩ := Action.bind_ok connected
  exact ⟨path, v, given, opened⟩

/-- Names of users and passwords mean nothing to databases. -/
theorem connect_propertiesFor (s : Source) (username password : Option String) (url : String) :
    connect lib url (s.propertiesFor username password) = connect lib url s.driverProperties := by
  have same {key : String} (user : key ≠ Source.userProperty)
      (secret : key ≠ Source.passwordProperty) :
      (s.propertiesFor username password).get? key = s.driverProperties.get? key := by
    unfold Source.propertiesFor
    cases username <;> cases password <;> simp [Properties.get?_insert, user, secret]
  unfold connect configure busyTimeoutOf foreignKeysOf
  rw [same (by decide) (by decide), same (by decide) (by decide), same (by decide) (by decide)]

end Driver
end Sqlite

namespace Scripted

theorem guardFault_reports (c : Scripted) (f : Script.Fault) (text : String) :
    c.guardFault f ≠ .error (.panic text) := by
  unfold guardFault
  split <;> nofun

theorem guardOpen_reports (c : Scripted) (f : Script.Fault) (text : String) :
    c.guardOpen f ≠ .error (.panic text) := by
  unfold guardOpen
  split
  · nofun
  · split
    · nofun
    · exact c.guardFault_reports f text

/-- Nothing that a script says aborts a call. -/
theorem call_reports (c : Scripted) (k : Call) (text : String) :
    (c.call k).1 ≠ .error (.panic text) := by
  cases k with
  | execute sql params => exact mt Outcome.map_panic_iff.mp (c.guardOpen_reports _ text)
  | query sql params => exact mt Outcome.map_panic_iff.mp (c.guardOpen_reports _ text)
  | autoCommit => exact mt Outcome.map_panic_iff.mp (c.guardFault_reports _ text)
  | setAutoCommit on =>
    have hguard := c.guardFault_reports .setAutoCommit text
    simp only [call]
    split
    · nofun
    · rename_i f hf
      rwa [hf] at hguard
  | commit => exact c.guardOpen_reports _ text
  | rollback => exact c.guardOpen_reports _ text
  | setIsolation level =>
    have hguard := c.guardFault_reports .setIsolation text
    cases hb : c.isBasic <;> simp [call, hb, hguard, Outcome.fail]
  | setNetworkTimeout ms =>
    have hguard := c.guardFault_reports .setNetworkTimeout text
    cases hb : c.isBasic <;> simp [call, hb, hguard, Outcome.fail]

end Scripted

namespace World

variable {w : World}

theorem call_panic_iff (c : ConnId) (k : Call) (w : World) (text : String) :
    (call c k w).1 = .error (.panic text) ↔
      (∃ ms s, k = .setNetworkTimeout ms ∧ w.status? c = some s ∧ s.isClosed = false ∧
        Sqlite.TooLong ms) ∧ text = "too big" := by
  cases there : w.connections[c]? with
  | none => simp [call, status?, there, Outcome.fail]
  | some y =>
    cases y with
    | scripted x =>
      have reports : (call c k w).1 ≠ .error (.panic text) := by
        rw [call, there]
        exact x.call_reports k text
      refine iff_of_false reports ?_
      rintro ⟨⟨ms, s, -, found, -⟩, -⟩
      cases there.symm.trans (status?_eq_some.1 found)
    | sqlite s =>
      have panics := Sqlite.Connection.call_panic_iff (Sqlite.Databases.library c) k
        ⟨s, w.databases⟩ text
      have found : w.status? c = some s := status?_eq_some.2 there
      have called : (call c k w).1 =
          (Sqlite.Connection.call (Sqlite.Databases.library c) k ⟨s, w.databases⟩).1 := by
        rw [call, there]
        rfl
      rw [called, panics]
      simp [found]

theorem reports_call {k : Call} (other : ∀ ms, k ≠ .setNetworkTimeout ms) (c : ConnId) :
    (call c k).Reports := by
  intro w text panics
  obtain ⟨⟨ms, s, rfl, -⟩, -⟩ := (call_panic_iff c k w text).1 panics
  exact other ms rfl

def nextHandle (w : World) : Sqlite.Library Sqlite.Databases :=
  Sqlite.Databases.library w.connections.length

theorem connect_panic_iff (driver url : String) (p : Properties) (w : World) (text : String) :
    (connect driver url p w).1 = .error (.panic text) ↔
      driver = Sqlite.Connection.driverName ∧
        (Sqlite.connect w.nextHandle url p w.databases).1 = .error (.panic text) := by
  unfold connect
  by_cases sqlite : driver = Sqlite.Connection.driverName
  · rw [if_pos sqlite, and_iff_right sqlite]
    unfold addSqlite nextHandle
    dsimp only
    split <;> rename_i done <;> simp [done]
  · rw [if_neg sqlite]
    unfold connectScripted
    dsimp only
    split <;> simp [sqlite, Outcome.fail]

theorem addSqlite_of_ok {opens : Sqlite.Library Sqlite.Databases → Action Sqlite.Databases Unit}
    {x : Sqlite.Databases} (opened : opens w.nextHandle w.databases = (.ok (), x)) :
    addSqlite opens w =
      (.ok w.connections.length, (({ w with databases := x } : World).add (.sqlite {})).2) := by
  have opened : opens (Sqlite.Databases.library w.connections.length) w.databases = _ := opened
  unfold addSqlite
  rw [opened]
  rfl

theorem connect_sqlite {driver url : String} {p : Properties} {x : Sqlite.Databases}
    (sqlite : driver = Sqlite.Connection.driverName)
    (connected : Sqlite.connect w.nextHandle url p w.databases = (.ok (), x)) :
    ∃ c v, connect driver url p w = (.ok c, v) ∧ v.status? c = some {} := by
  have done : connect driver url p w =
      (.ok w.connections.length, (({ w with databases := x } : World).add (.sqlite {})).2) := by
    rw [connect, if_pos sqlite, addSqlite_of_ok connected]
  refine ⟨_, _, done, (status?_of_connect done).2 ⟨sqlite, rfl, connected⟩⟩

end World

namespace Source

theorem reports_applyAutoCommit (s : Source) (c : ConnId) :
    (s.applyAutoCommit World.host c).Reports := by
  unfold applyAutoCommit
  cases s.autoCommit with
  | none => exact Action.reports_pure ()
  | some on =>
    have hnow : (World.host.call c .autoCommit).Reports := World.reports_call (by nofun) c
    refine hnow.bind fun now => ?_
    split
    · exact Action.reports_pure ()
    · exact World.reports_call (by nofun) c

theorem reports_applyIsolation (s : Source) (c : ConnId) :
    (s.applyIsolation World.host c).Reports := by
  unfold applyIsolation
  cases s.isolation with
  | none => exact Action.reports_pure ()
  | some level => exact World.reports_call (by nofun) c

/-- What a source sets on a connection aborts only on its time to wait. -/
theorem configure_panic_iff (s : Source) (c : ConnId) (w : World) (text : String) :
    (s.configure World.host c w).1 = .error (.panic text) ↔
      (∃ ms x, s.networkTimeout = some ms ∧ w.status? c = some x ∧ x.isClosed = false ∧
        Sqlite.TooLong ms) ∧ text = "too big" := by
  have rest : ∀ _ : Unit, (s.applyAutoCommit World.host c >>= fun _ =>
      s.applyIsolation World.host c).Reports := fun _ =>
    (s.reports_applyAutoCommit c).bind fun _ => s.reports_applyIsolation c
  unfold configure
  rw [Action.bind_panic_iff_left rest]
  unfold applyTimeout
  cases s.networkTimeout with
  | none => simp
  | some ms =>
    refine (World.call_panic_iff c (.setNetworkTimeout ms) w text).trans ?_
    simp

/-- A source of connections to databases makes the next one wait for too long, by its properties or,
once it is connected, by its own time-out. -/
def SetsTooLong (s : Source) (w : World) : Prop :=
  s.driver = Sqlite.Connection.driverName ∧
    (Sqlite.AsksTooLong w.nextHandle s.url s.driverProperties w.databases ∨
      (∃ x, Sqlite.connect w.nextHandle s.url s.driverProperties w.databases = (.ok (), x)) ∧
        ∃ ms, s.networkTimeout = some ms ∧ Sqlite.TooLong ms)

theorem SetsTooLong.accepts {s : Source} {w : World} (h : s.SetsTooLong w) :
    World.host.acceptsUrl s.driver s.url = true := by
  obtain ⟨sqlite, ⟨leads, -⟩ | ⟨⟨x, connected⟩, -⟩⟩ := h
  · exact (if_pos sqlite).trans (Sqlite.accepts_of_leads _ leads)
  · exact (if_pos sqlite).trans (Sqlite.accepts_of_leads _ (Sqlite.leads_of_connect _ connected))

/-- Opening a connection with a source aborts exactly if the source makes a connection to a database
wait for too long, whoever asks for it and whatever has happened before. -/
theorem open_panic_iff (s : Source) (username password : Option String) (w : World)
    (text : String) :
    (s.open World.host username password w).1 = .error (.panic text) ↔
      s.SetsTooLong w ∧ text = "too big" := by
  have connect := World.connect_panic_iff s.driver s.url (s.propertiesFor username password) w text
  rw [Sqlite.connect_propertiesFor, Sqlite.connect_panic_iff] at connect
  have set (c : ConnId) (v : World) :
      ((s.configure World.host c >>= fun _ => pure c : Action _ ConnId) v).1 =
        .error (.panic text) ↔ _ :=
    (Action.bind_panic_iff_left fun _ => Action.reports_pure c).trans
      (s.configure_panic_iff c v text)
  unfold «open»
  by_cases accepts : World.host.acceptsUrl s.driver s.url = true
  · rw [if_pos accepts, Action.bind_error_iff]
    constructor
    · rintro (panics | ⟨c, v, connected, panics⟩)
      · obtain ⟨sqlite, asks, rfl⟩ := connect.mp panics
        exact ⟨⟨sqlite, .inl asks⟩, rfl⟩
      · obtain ⟨⟨ms, x, given, found, -, long⟩, rfl⟩ := (set c v).mp panics
        obtain ⟨rfl, -⟩ := World.connect_adds connected
        obtain ⟨sqlite, -, opened⟩ := (World.status?_of_connect connected).1 found
        rw [Sqlite.connect_propertiesFor] at opened
        exact ⟨⟨sqlite, .inr ⟨⟨_, opened⟩, ms, given, long⟩⟩, rfl⟩
    · rintro ⟨⟨sqlite, asks | ⟨⟨x, opened⟩, ms, given, long⟩⟩, rfl⟩
      · exact .inl (connect.mpr ⟨sqlite, asks, rfl⟩)
      · rw [← Sqlite.connect_propertiesFor _ s username password] at opened
        obtain ⟨c, v, connected, found⟩ := World.connect_sqlite sqlite opened
        exact .inr ⟨c, v, connected, (set c v).mpr ⟨⟨ms, {}, given, found, rfl, long⟩, rfl⟩⟩
  · rw [if_neg accepts]
    exact iff_of_false nofun fun h => accepts h.1.accepts

end Source

namespace Site

variable {σ : Type} {host : Host σ} {s t u : Site σ} {n : Nat}

/-- A checkout goes on from one bad candidate to the next until it fails. -/
theorem acquire_of_misses {f : Failure} (h : s.Misses host n t)
    (fails : t.nextCandidate host = (.error f, u)) {spare : Nat} (few : n ≤ spare) (c : Checkout) :
    acquire host spare c s = (.done (.error f), u) := by
  -- every bad candidate uses up one of those that are spared
  induction h generalizing spare c with
  | none s => exact acquire_of_error spare c fails
  | more miss rest ih =>
    obtain ⟨r, t, u, found, invalid⟩ := miss
    obtain ⟨spare, rfl⟩ : ∃ m, spare = m + 1 := ⟨spare - 1, by omega⟩
    rw [acquire_of_bad _ c found invalid]
    exact ih fails (Nat.le_of_succ_le_succ few) _

structure Opens (s : Site σ) : Prop where
  none_idle : s.pool.idle = []
  room : s.pool.active.length < s.pool.config.maxActive.toNat

theorem Opens.fails {f : Failure} {w : σ} (h : s.Opens)
    (hf : s.pool.source.openDefault host s.world = (.error f, w)) :
    s.nextCandidate host = (.error f, ⟨s.pool, w⟩) := by
  rw [nextCandidate_of_room h.none_idle h.room, create, run, hf]
  rfl

/-- A look fails only where it opens a connection in vain. -/
theorem Look.opens {f : Failure} (h : s.Look host (.error f, t)) :
    s.Opens ∧ (s.pool.source.openDefault host s.world).1 = .error f := by
  cases h with
  | refused f w none_idle room fails => exact ⟨⟨none_idle, room⟩, congrArg Prod.fst fails⟩

end Site

namespace Desk

variable {σ : Type} {host : Host σ}

/-- At a site a checkout comes to open a connection: there is room for one, and if others were tried
before then all of them were bad, though not too many. -/
def ComesToOpen (host : Host σ) (d : Desk σ) (e : Event) (t : Site σ) : Prop :=
  ∃ s c n, d.looking? host e = some (s, c) ∧ n ≤ s.pool.config.badConnectionLimit - c.bad ∧
    s.Misses host n t ∧ t.Opens

theorem stretch_of_looking {d : Desk σ} {e : Event} {s : Site σ} {c : Checkout}
    (h : d.looking? host e = some (s, c)) : d.stretch? host e = some (s.proceed host c) := by
  cases e with
  | checkout credentials =>
    simp only [looking?] at h
    split at h
    · rename_i hheld
      obtain ⟨rfl, rfl⟩ := Prod.mk.inj (Option.some.inj h)
      exact stretch_of_held host hheld credentials
    · cases h
  | resume id =>
    obtain ⟨v, hv, h⟩ := Option.bind_eq_some_iff.mp h
    split at h
    · rename_i hg
      obtain ⟨rfl, rfl⟩ := Prod.mk.inj (Option.some.inj h)
      rw [stretch_of_waiter host hv]
      exact congrArg some (Site.resume_of_same hg)
    · cases h
  | _ => cases h

/-- A checkout aborts exactly if it comes to open a connection and the source makes that one wait
for too long. -/
theorem stretch_panic_iff (d : Desk World) (e : Event) (text : String) :
    (∃ t, d.stretch? World.host e = some (.done (.error (.panic text)), t)) ↔
      (∃ t, d.ComesToOpen World.host e t ∧ d.pool.source.SetsTooLong t.world) ∧
        text = "too big" := by
  constructor
  · rintro ⟨t, h⟩
    obtain ⟨s, -, hs, -, ⟨c, hlooking, hr, -⟩ | ⟨-, hr⟩⟩ := stretch_course h
    · obtain ⟨n, v, few, misses, hend⟩ :=
        Site.acquire_ends World.host (s.pool.config.badConnectionLimit - c.bad) c s
      have hsource : v.pool.source = d.pool.source := misses.settings.source.trans hs.source
      rw [← Site.proceed, ← hr] at hend
      cases hend with
      | failed f _ found =>
        obtain ⟨opens, hfails⟩ := (Site.look_of_eq found).opens
        obtain ⟨hlong, htext⟩ := (Source.open_panic_iff ..).mp hfails
        exact ⟨⟨v, ⟨s, c, n, hlooking, few, misses, opens⟩, hsource ▸ hlong⟩, htext⟩
    · cases congrArg Prod.fst hr
  · rintro ⟨⟨t, ⟨s, c, n, hlooking, few, misses, opens⟩, hlong⟩, htext⟩
    have hruns := stretch_of_looking hlooking
    obtain ⟨s', -, hs, -, ⟨c', hlooking', -⟩ | ⟨hnone, -⟩⟩ := stretch_course hruns
    · obtain ⟨rfl, rfl⟩ := Prod.mk.inj (Option.some.inj (hlooking.symm.trans hlooking'))
      have hsource : t.pool.source = d.pool.source := misses.settings.source.trans hs.source
      have hpanics : (t.pool.source.openDefault World.host t.world).1 = .error (.panic text) :=
        (Source.open_panic_iff ..).mpr ⟨hsource.symm ▸ hlong, htext⟩
      have hlook := opens.fails (Prod.ext hpanics rfl)
      rw [hruns, Site.proceed, Site.acquire_of_misses misses hlook few c]
      exact ⟨_, rfl⟩
    · cases hlooking.symm.trans hnone

end Desk

open Sqlite (AsksTooLong TooLong)

/-- Connecting to a database, calling a connection, opening one with a source and checking one out
of a pool abort exactly where a connection is told to wait for too long. Otherwise they succeed or
report an error. -/
theorem panic_iff_tooLong {ℓ : Type} (lib : Sqlite.Library ℓ) (text : String) :
    (∀ url p s, (Sqlite.connect lib url p s).1 = .error (.panic text) ↔
      AsksTooLong lib url p s ∧ text = "too big") ∧
    (∀ ms (c : Sqlite.Connection ℓ), (Sqlite.Connection.setBusyTimeout ms lib c).1 =
      .error (.panic text) ↔ (c.isClosed = false ∧ TooLong ms) ∧ text = "too big") ∧
    (∀ k (c : Sqlite.Connection ℓ), (c.call lib k).1 = .error (.panic text) ↔
      (∃ ms, k = .setNetworkTimeout ms ∧ c.isClosed = false ∧ TooLong ms) ∧ text = "too big") ∧
    (∀ (s : Source) username password w, (s.open World.host username password w).1 =
      .error (.panic text) ↔ s.SetsTooLong w ∧ text = "too big") ∧
    (∀ (d : Desk World) e,
      (∃ t, d.stretch? World.host e = some (.done (.error (.panic text)), t)) ↔
        (∃ t, d.ComesToOpen World.host e t ∧ d.pool.source.SetsTooLong t.world) ∧
          text = "too big") := by
  refine ⟨fun url p s => ?_, fun ms c => ?_, fun k c => ?_, fun s username password w => ?_,
    fun d e => ?_⟩
  · exact Sqlite.connect_panic_iff lib url p s text
  · exact Sqlite.Connection.setBusyTimeout_panic_iff lib ms c text
  · exact Sqlite.Connection.call_panic_iff lib k c text
  · exact s.open_panic_iff username password w text
  · exact d.stretch_panic_iff e text

/-- A pool whose connections are to wait a millisecond too long: the first checkout aborts. -/
theorem panic_at_first_checkout :
    let s : Source :=
      { driver := "sqlite", url := "sqlite::memory:", networkTimeout := some 2147483648 }
    let d : Desk World := .ofPool (.ofSource s {}) {}
    ∃ t, d.stretch? World.host (.checkout none) =
      some (.done (.error (.panic "too big")), t) := by
  intro s d
  have opened : (Sqlite.connect ({} : World).nextHandle s.url s.driverProperties {}).1.isOk =
      true := by
    decide +kernel
  have long : s.SetsTooLong {} := by
    cases connected : Sqlite.connect ({} : World).nextHandle s.url s.driverProperties {} with
    | mk r x =>
      cases r with
      | error f =>
        rw [connected] at opened
        cases opened
      | ok _ => exact ⟨rfl, .inr ⟨⟨x, connected⟩, 2147483648, rfl, by decide⟩⟩
  have comes : d.ComesToOpen World.host (.checkout none) (d.site.now World.host).2 :=
    ⟨_, _, 0, rfl, Nat.zero_le _, .none _, rfl, by decide⟩
  obtain ⟨-, -, -, -, checkout⟩ := panic_iff_tooLong ({} : World).nextHandle "too big"
  exact (checkout d _).mpr ⟨⟨_, comes, long⟩, rfl⟩

end ConnPool
