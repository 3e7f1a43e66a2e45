import ConnPool.Proofs.History
import ConnPool.Proofs.Serving
import ConnPool.Session.Holders

namespace ConnPool

def Failure.message : Failure → String
  | .error e => e.message
  | .panic text => text

section Shown

variable (f : String → String)

theorem Source.shown_rename (s : Source) : (s.rename f).shown = s.shown := by
  unfold Source.shown
  dsimp only [Source.rename]
  cases s.password <;> rfl

theorem Pool.stats_rename (p : Pool) : (p.rename f).stats = p.stats := by
  simp [Pool.stats, Pool.rename]

theorem Pool.shown_rename (p : Pool) : (p.rename f).shown = p.shown := by
  have hsource : (p.rename f).source.shown = p.source.shown := p.source.shown_rename f
  unfold Pool.shown
  rw [hsource, p.stats_rename f]
  rfl

end Shown

namespace Desk

variable {σ τ : Type}

def Answer.text? : Answer → Option String
  | .checkout (some (.error e)) => some e.message
  | .call _ (.error e) => some e.message
  | .configure (.error e) => some e.message
  | _ => none

def shownLease (host : Host σ) (d : Desk σ) (l : Lease) : String :=
  Text.showRecord "ConnectionProxy"
    [("id", Text.showNat l.grant.id),
     ("driver", Text.showText (host.driverName l.grant.conn d.site.world)),
     ("valid", Text.showBool (d.isValid l))]

structure View where
  stats : PoolStats
  report : String
  pool : String
  source : String
  leases : List String
  deriving DecidableEq

def view (host : Host σ) (d : Desk σ) : View where
  stats := d.pool.stats
  report := d.pool.stats.report
  pool := d.pool.shown
  source := d.pool.source.shown
  leases := d.leases.map (d.shownLease host)

/-- What there is to see of an event: the answer, the text of an error, and what is shown next. -/
structure Seen where
  answer : Answer
  text? : Option String
  next : View

def trace (host : Host σ) : Desk σ → List Event → List Seen
  | _, [] => []
  | d, e :: es =>
    ⟨(d.serve host e).1, (d.serve host e).1.text?, (d.step host e).view host⟩ ::
      (d.step host e).trace host es

namespace Twin

variable {f : String → String} {R : σ → τ → Prop} {host : Host σ} {other : Host τ} {d : Desk σ}
  {d' : Desk τ} (hh : Host.Twin f R host other)

include hh

theorem shownLease (h : d.Twin f R d') (l : Lease) :
    d'.shownLease other l = d.shownLease host l := by
  unfold Desk.shownLease
  rw [hh.driverName _ _ _ h.site.world, h.isValid l]

theorem view (h : d.Twin f R d') : d'.view other = d.view host := by
  have hpool : d'.pool = d.pool.rename f := h.site.pool
  have hsource : (d.pool.rename f).source.shown = d.pool.source.shown :=
    d.pool.source.shown_rename f
  have hleases : d'.leases.map (d'.shownLease other) = d.leases.map (d.shownLease host) := by
    rw [h.leases]
    exact List.map_congr_left fun l _ => shownLease hh h l
  unfold Desk.view
  rw [hpool, hleases, d.pool.stats_rename f, d.pool.shown_rename f, hsource]

/-- By induction on what happens: events are answered alike and leave twins, which look alike. -/
theorem trace (hf : f.Injective) {d : Desk σ} {d' : Desk τ} (h : d.Twin f R d') (es : List Event) :
    d'.trace other (es.map (Event.rename f)) = d.trace host es := by
  induction es generalizing d d' with
  | nil => rfl
  | cons e es ih =>
    have hnext := step hh hf h e
    rw [List.map_cons, Desk.trace, Desk.trace, (serve hh hf h e).answer, view hh hnext, ih hnext]

end Twin

end Desk

/-- Sessions show leases in the same way. -/
theorem Session.shown_eq_shownLease {s : Session} {n i : Nat} {l : Lease} (m : Manner)
    (h : s.lease? n i = some l) :
    s.shown (.lease n i m) = (s.desk n).shownLease World.host l := by
  simp only [Session.shown, Desk.shownLease, Session.id?, Session.driverName, Session.connection?,
    Session.isValid, h, Option.map_some, Option.getD_some, Option.any_some]
  rfl

namespace Sqlite

variable {ℓ : Type} (lib : Library ℓ)

theorem configure_insert_password (p : Properties) (password : String) :
    configure lib (p.insert Source.passwordProperty password) = configure lib p := by
  have hget {k : String} (hk : k ≠ Source.passwordProperty) :
      (p.insert Source.passwordProperty password).get? k = p.get? k := by
    rw [Properties.get?_insert, if_neg hk]
  unfold configure busyTimeoutOf foreignKeysOf
  rw [hget (by decide), hget (by decide), hget (by decide)]

/-- Databases have no passwords. -/
theorem connect_insert_password (url : String) (p : Properties) (password : String) :
    connect lib url (p.insert Source.passwordProperty password) = connect lib url p := by
  unfold connect
  rw [configure_insert_password]

end Sqlite

namespace World

def AlikeButLog (w v : World) : Prop := ∃ log, v = { w with log }

variable (f : String → String)

theorem connectScripted_twin (driver url : String) (p q : Properties) :
    (connectScripted driver url p).Twin AlikeButLog (connectScripted driver url q) := by
  rintro w _ ⟨log, rfl⟩
  unfold connectScripted
  dsimp only
  split
  · exact ⟨rfl, _, rfl⟩
  · exact ⟨rfl, _, rfl⟩

theorem addSqlite_twin (opens : Sqlite.Library Sqlite.Databases → Action Sqlite.Databases Unit) :
    (addSqlite opens).Twin AlikeButLog (addSqlite opens) := by
  rintro w _ ⟨log, rfl⟩
  unfold addSqlite
  dsimp only
  split
  · exact ⟨rfl, log, rfl⟩
  · exact ⟨rfl, log, rfl⟩

/-- Properties that databases open alike with are alike to all drivers. -/
theorem connect_twin (driver url : String) {p q : Properties}
    (h : ∀ lib : Sqlite.Library Sqlite.Databases,
      Sqlite.connect lib url q = Sqlite.connect lib url p) :
    (connect driver url p).Twin AlikeButLog (connect driver url q) := by
  unfold connect
  split
  · rw [funext h]
    exact addSqlite_twin _
  · exact connectScripted_twin driver url p q

theorem call_twin (c : ConnId) (k : Call) : (call c k).Twin AlikeButLog (call c k) := by
  rintro w _ ⟨log, rfl⟩
  unfold call
  dsimp only
  cases w.connections[c]? with
  | none => exact ⟨rfl, log, rfl⟩
  | some x =>
    cases x with
    | scripted x =>
      dsimp only
      cases x.line? k with
      | none => exact ⟨rfl, log, rfl⟩
      | some line => exact ⟨rfl, _, rfl⟩
    | sqlite x => exact ⟨rfl, log, rfl⟩

theorem close_twin (c : ConnId) : (close c).Twin AlikeButLog (close c) := by
  rintro w _ ⟨log, rfl⟩
  unfold close
  dsimp only
  cases w.connections[c]? with
  | none => exact ⟨rfl, log, rfl⟩
  | some x =>
    cases x with
    | scripted x => exact ⟨rfl, _, rfl⟩
    | sqlite x => exact ⟨rfl, log, rfl⟩

/-- The drivers of this world do not mind passwords; only the notes tell of them. -/
theorem host_twin : Host.Twin f AlikeButLog host host where
  now := by
    rintro w _ ⟨log, rfl⟩
    exact ⟨rfl, log, rfl⟩
  instant := by
    rintro w _ ⟨log, rfl⟩
    rfl
  serial := by
    rintro c w _ ⟨log, rfl⟩
    exact ⟨rfl, log, rfl⟩
  acceptsUrl := rfl
  connect driver url p := connect_twin driver url fun _ => rfl
  connect_as driver url p password := by
    refine connect_twin driver url fun lib => ?_
    rw [Sqlite.connect_insert_password, Sqlite.connect_insert_password]
  call := call_twin
  close := close_twin
  isClosed := by
    rintro c w _ ⟨log, rfl⟩
    exact ⟨rfl, log, rfl⟩
  driverName := by
    rintro c w _ ⟨log, rfl⟩
    rfl

end World

namespace Desk

variable {σ τ : Type}

/-- Where hosts do not mind passwords, nobody sees of a pool whether all its passwords have been
renamed, as long as different ones stay different. -/
theorem trace_rename {f : String → String} (hf : f.Injective) {R : σ → τ → Prop} {host : Host σ}
    {other : Host τ} (hh : Host.Twin f R host other) (source : Source) (config : PoolConfig) {w : σ}
    {v : τ} (hw : R w v) (es : List Event) :
    (start (source.rename f) config v).view other = (start source config w).view host ∧
      (start (source.rename f) config v).trace other (es.map (Event.rename f)) =
        (start source config w).trace host es := by
  have htwin : (start source config w).Twin f R (start (source.rename f) config v) :=
    twin_ofPool (.ofSource source config) hw
  exact ⟨htwin.view hh, htwin.trace hh hf es⟩

/-- A new password drains the pool. Another one that a checkout was made with closes its connection
when that comes back. -/
theorem trace_of_three_passwords :
    let f : String → String := fun password => password ++ "!"
    let source : Source := { driver := "mock", url := "mock:db", password := some "old" }
    let es : List Event :=
      [.checkout none, .release 0, .checkout (some ("sa", "mine")), .release 1,
        .configure (.source (.password (some "new"))), .checkout none]
    f.Injective ∧ World.AlikeButLog {} {} ∧
      (start (source.rename f) {} {}).view World.host = (start source {} {}).view World.host ∧
      (start (source.rename f) {} {}).trace World.host (es.map (Event.rename f)) =
        (start source {} {}).trace World.host es := by
  intro f source es
  have hf : f.Injective := fun a b h => by simpa [f] using h
  have hw : World.AlikeButLog {} {} := ⟨[], rfl⟩
  exact ⟨hf, hw, trace_rename hf (World.host_twin f) source {} hw es⟩

end Desk
end ConnPool
