import ConnPool.Factory

namespace ConnPool

inductive Assignment where
  /-- Properties may name the driver, but only the one that is in use. -/
  | driver (name : String)
  | url (s : String)
  | username (s : String)
  | password (s : String)
  | autoCommit (b : Bool)
  | isolation (l : Isolation)
  | networkTimeout (n : UInt64)
  | maxActive (n : UInt64)
  | maxIdle (n : UInt64)
  | maxCheckoutTime (n : UInt64)
  | timeToWait (n : UInt64)
  | tolerance (n : UInt64)
  | pingQuery (s : String)
  | pingEnabled (b : Bool)
  | pingNotUsedFor (n : UInt64)

namespace Assignment

def key : Assignment → String
  | .driver _ => "driver"
  | .url _ => "url"
  | .username _ => "username"
  | .password _ => "password"
  | .autoCommit _ => "auto_commit"
  | .isolation _ => "default_transaction_isolation_level"
  | .networkTimeout _ => "default_network_timeout_ms"
  | .maxActive _ => "max_active_connections"
  | .maxIdle _ => "max_idle_connections"
  | .maxCheckoutTime _ => "max_checkout_time_ms"
  | .timeToWait _ => "time_to_wait_ms"
  | .tolerance _ => "max_local_bad_connection_tolerance"
  | .pingQuery _ => "ping_query"
  | .pingEnabled _ => "ping_enabled"
  | .pingNotUsedFor _ => "ping_connections_not_used_for_ms"

def applyPool (p : PoolConfig) : Assignment → PoolConfig
  | .maxActive n => { p with maxActive := n }
  | .maxIdle n => { p with maxIdle := n }
  | .maxCheckoutTime n => { p with maxCheckoutTime := n }
  | .timeToWait n => { p with timeToWait := n }
  | .tolerance n => { p with tolerance := n }
  | .pingQuery s => { p with pingQuery := s }
  | .pingEnabled b => { p with pingEnabled := b }
  | .pingNotUsedFor n => { p with pingNotUsedFor := n }
  | _ => p

def apply (c : SourceConfig) : Assignment → SourceConfig
  | .driver _ => c
  | .url s => { c with url := s }
  | .username s => { c with username := some s }
  | .password s => { c with password := some s }
  | .autoCommit b => { c with autoCommit := some b }
  | .isolation l => { c with isolation := some l }
  | .networkTimeout n => { c with networkTimeout := some n }
  | a => { c with pool := a.applyPool c.pool }

theorem apply_comm {a b : Assignment} (h : a.key ≠ b.key) (c : SourceConfig) :
    b.apply (a.apply c) = a.apply (b.apply c) := by
  cases a <;> cases b <;> first | rfl | exact absurd rfl h

theorem apply_apply (a : Assignment) (c : SourceConfig) : a.apply (a.apply c) = a.apply c := by
  cases a <;> rfl

/-- No assignment looks at the driver's properties. -/
theorem apply_driverProperties (a : Assignment) (c : SourceConfig) (d : Properties) :
    a.apply { c with driverProperties := d } = { a.apply c with driverProperties := d } := by
  cases a <;> rfl

end Assignment

def Assignment.ToPool (a : Assignment) : Prop :=
  ∀ c : SourceConfig, a.apply c = { c with pool := a.applyPool c.pool }

/-- Whatever the settings of the pool are, the property is one assignment to them, or it is refused
for one reason. -/
theorem PoolConfig.withProperty_uniform (key value : String) :
    (∃ a : Assignment, a.key = key ∧ a.ToPool ∧
      ∀ p : PoolConfig, p.withProperty key value = .ok (a.applyPool p)) ∨
    ∃ e, ∀ p : PoolConfig, p.withProperty key value = .error e := by
  have read {α : Type} (r : Except Error α) (set : α → Assignment)
      (named : ∀ x, (set x).key = key) (toPool : ∀ x, (set x).ToPool) :
      (∃ a : Assignment, a.key = key ∧ a.ToPool ∧
        ∀ p, (r.map fun x => (set x).applyPool p) = .ok (a.applyPool p)) ∨
      ∃ e, ∀ p, (r.map fun x => (set x).applyPool p) = .error e := by
    cases r with
    | error e => exact .inr ⟨e, fun _ => rfl⟩
    | ok x => exact .inl ⟨set x, named x, toPool x, fun _ => rfl⟩
  unfold PoolConfig.withProperty
  split
  case h_1 =>
    cases readNumberProperty "max_active_connections" value with
    | error e => exact .inr ⟨e, fun _ => rfl⟩
    | ok n =>
      -- The one number that is read and refused all the same.
      by_cases zero : n = 0
      · exact .inr ⟨.configuration .noCapacity, fun _ => if_pos zero⟩
      · exact .inl ⟨.maxActive n, rfl, fun _ => rfl, fun _ => if_neg zero⟩
  case h_2 => exact read _ .maxIdle (fun _ => rfl) fun _ _ => rfl
  case h_3 => exact read _ .maxCheckoutTime (fun _ => rfl) fun _ _ => rfl
  case h_4 => exact read _ .timeToWait (fun _ => rfl) fun _ _ => rfl
  case h_5 => exact read _ .tolerance (fun _ => rfl) fun _ _ => rfl
  case h_6 => exact .inl ⟨.pingQuery value, rfl, fun _ => rfl, fun _ => rfl⟩
  case h_7 => exact read _ .pingEnabled (fun _ => rfl) fun _ _ => rfl
  case h_8 => exact read _ .pingNotUsedFor (fun _ => rfl) fun _ _ => rfl
  case h_9 => exact .inr ⟨.unknownProperty key, fun _ => rfl⟩

namespace Factory

/-- In this factory the setter makes the assignment, whatever the settings are. -/
def Assigns (f : Factory) (x : Setter) (a : Assignment) : Prop :=
  ∀ c, x (f.withConfig c) = (.ok (), f.withConfig (a.apply c))

/-- In this factory the setter fails and leaves the settings, whatever they are. -/
def Rejects (f : Factory) (x : Setter) (e : Error) : Prop :=
  ∀ c, x (f.withConfig c) = (.error e, f.withConfig c)

theorem assigns_or_rejects_read {α : Type} (f : Factory) {key : String} (r : Except Error α)
    (set : α → Assignment) (named : ∀ x, (set x).key = key) :
    (∃ a, a.key = key ∧ f.Assigns (do let x ← r; modifyConfig (set x).apply) a) ∨
      ∃ e, f.Rejects (do let x ← r; modifyConfig (set x).apply) e := by
  cases r with
  | error e => exact .inr ⟨e, fun _ => rfl⟩
  | ok x => exact .inl ⟨set x, named x, fun _ => rfl⟩

theorem setPoolProperty_of_ok {a : Assignment} (toPool : a.ToPool) {key value : String}
    (taken : ∀ p : PoolConfig, p.withProperty key value = .ok (a.applyPool p)) (f : Factory) :
    setPoolProperty key value f = (.ok (), f.withConfig (a.apply f.config)) := by
  show (do let pool ← f.config.pool.withProperty key value
           modifyConfig fun c => { c with pool } : Setter) f = _
  rw [taken, toPool]
  rfl

theorem setPoolProperty_of_error {key value : String} {e : Error}
    (refused : ∀ p : PoolConfig, p.withProperty key value = .error e) (f : Factory) :
    setPoolProperty key value f = (.error e, f) := by
  show (do let pool ← f.config.pool.withProperty key value
           modifyConfig fun c => { c with pool } : Setter) f = _
  rw [refused]
  rfl

theorem assigns_or_rejects_pool (f : Factory) (key value : String) :
    (∃ a, a.key = key ∧ f.Assigns (setPoolProperty key value) a) ∨
      ∃ e, f.Rejects (setPoolProperty key value) e := by
  rcases PoolConfig.withProperty_uniform key value with ⟨a, named, toPool, reads⟩ | ⟨e, refuses⟩
  · exact .inl ⟨a, named, fun c => setPoolProperty_of_ok toPool reads (f.withConfig c)⟩
  · exact .inr ⟨e, fun c => setPoolProperty_of_error refuses (f.withConfig c)⟩

/-- In this factory the property is the assignment, whatever the settings are. -/
def Reads (f : Factory) (p : String × String) (a : Assignment) : Prop :=
  a.key = p.1 ∧ ∀ c, (f.withConfig c).setProperty p.1 p.2 = (.ok (), f.withConfig (a.apply c))

/-- This factory refuses the property and stays what it is, whatever the settings are. -/
def Refuses (f : Factory) (p : String × String) (e : Error) : Prop :=
  ∀ c, (f.withConfig c).setProperty p.1 p.2 = (.error e, f.withConfig c)

/-- Whether a property is taken, and what it does then, does not depend on the settings. One that is
not taken does nothing. -/
theorem reads_or_refuses (f : Factory) (p : String × String) :
    (∃ a, f.Reads p a) ∨ ∃ e, f.Refuses p e := by
  obtain ⟨key, value⟩ := p
  have key_cases : (∃ a, a.key = key ∧ f.Assigns (propertySetter key value) a) ∨
      ∃ e, f.Rejects (propertySetter key value) e := by
    unfold propertySetter
    split
    case h_1 =>
      by_cases same : value = f.driver
      · exact .inl ⟨.driver value, rfl, fun _ => congrFun (if_neg (not_not_intro same)) _⟩
      · exact .inr ⟨.configuration (.otherDriver value f.driver), fun _ => congrFun (if_pos same) _⟩
    case h_2 => exact .inl ⟨.url value, rfl, fun _ => rfl⟩
    case h_3 => exact .inl ⟨.username value, rfl, fun _ => rfl⟩
    case h_4 => exact .inl ⟨.password value, rfl, fun _ => rfl⟩
    case h_5 => exact f.assigns_or_rejects_read _ .autoCommit fun _ => rfl
    case h_6 => exact f.assigns_or_rejects_read _ .isolation fun _ => rfl
    case h_7 => exact f.assigns_or_rejects_read _ .networkTimeout fun _ => rfl
    case h_8 =>
      obtain ⟨kind, driver, config⟩ := f
      cases kind with
      | unpooled => exact .inr ⟨.unknownProperty key, fun _ => rfl⟩
      | pooled => exact assigns_or_rejects_pool _ key value
  rcases key_cases with ⟨a, named, assigns⟩ | ⟨e, rejects⟩
  · exact .inl ⟨a, named, assigns⟩
  · exact .inr ⟨e, rejects⟩

def put (f : Factory) (c : SourceConfig) (p : String × String) : SourceConfig :=
  ((f.withConfig c).setProperty p.1 p.2).2.config

theorem Reads.put {f : Factory} {p : String × String} {a : Assignment} (h : f.Reads p a)
    (c : SourceConfig) : f.put c p = a.apply c := by
  rw [Factory.put, h.2]
  rfl

theorem Refuses.put {f : Factory} {p : String × String} {e : Error} (h : f.Refuses p e)
    (c : SourceConfig) : f.put c p = c := by
  rw [Factory.put, h]
  rfl

theorem setProperty_withConfig (f : Factory) (c : SourceConfig) (p : String × String) :
    (f.withConfig c).setProperty p.1 p.2 =
      ((f.setProperty p.1 p.2).1, f.withConfig (f.put c p)) := by
  rcases f.reads_or_refuses p with ⟨a, reads⟩ | ⟨e, refuses⟩
  · have now : f.setProperty p.1 p.2 = (.ok (), f.withConfig (a.apply f.config)) :=
      reads.2 f.config
    rw [reads.2, reads.put, now]
  · have now : f.setProperty p.1 p.2 = (.error e, f) := refuses f.config
    rw [refuses, refuses.put, now]

/-- A property that is refused changes nothing, and would be refused with any other settings. -/
theorem refuses_of_error {f : Factory} {p : String × String} {e : Error}
    (refused : (f.setProperty p.1 p.2).1 = .error e) : f.Refuses p e := by
  rcases f.reads_or_refuses p with ⟨a, reads⟩ | ⟨e', refuses⟩
  · have now : f.setProperty p.1 p.2 = (.ok (), _) := reads.2 f.config
    cases (congrArg Prod.fst now).symm.trans refused
  · have now : f.setProperty p.1 p.2 = (.error e', f) := refuses f.config
    obtain rfl := Except.error.inj ((congrArg Prod.fst now).symm.trans refused)
    exact refuses

theorem put_comm (f : Factory) {p q : String × String} (h : p.1 ≠ q.1) (c : SourceConfig) :
    f.put (f.put c p) q = f.put (f.put c q) p := by
  rcases f.reads_or_refuses p with ⟨a, readsP⟩ | ⟨e, refusesP⟩
  · rcases f.reads_or_refuses q with ⟨b, readsQ⟩ | ⟨e, refusesQ⟩
    · have keys : a.key ≠ b.key := by rwa [readsP.1, readsQ.1]
      simp only [readsP.put, readsQ.put, Assignment.apply_comm keys]
    · simp only [refusesQ.put]
  · simp only [refusesP.put]

theorem put_put (f : Factory) (p : String × String) (c : SourceConfig) :
    f.put (f.put c p) p = f.put c p := by
  rcases f.reads_or_refuses p with ⟨a, reads⟩ | ⟨e, refuses⟩
  · simp only [reads.put, a.apply_apply]
  · simp only [refuses.put]

theorem put_driverProperties (f : Factory) (p : String × String) (c : SourceConfig)
    (d : Properties) :
    f.put { c with driverProperties := d } p = { f.put c p with driverProperties := d } := by
  rcases f.reads_or_refuses p with ⟨a, reads⟩ | ⟨e, refuses⟩
  · rw [reads.put, reads.put, a.apply_driverProperties]
  · rw [refuses.put, refuses.put]

end Factory
end ConnPool
