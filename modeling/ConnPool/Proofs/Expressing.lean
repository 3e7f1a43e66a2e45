import ConnPool.Proofs.Numerals
import ConnPool.Proofs.PropertyOrder

namespace ConnPool

def Isolation.WrittenBy (level : Isolation → String) : Prop :=
  ∀ l, level l = l.name ∨ level l = String.ofList (Text.ofInt l.code)

theorem Isolation.WrittenBy.ofText {level : Isolation → String} (h : WrittenBy level)
    (l : Isolation) : Isolation.ofText (level l) = .ok l := by
  rcases h l with name | code
  · rw [name, ofText_name]
  · rw [code, ofText_code]

theorem driverKey?_mark (k : String) : driverKey? (driverPropertyMark ++ k) = some k :=
  driverKey?_eq_some.2 rfl

namespace Assignment

def text (level : Isolation → String) : Assignment → String
  | .driver s | .url s | .username s | .password s | .pingQuery s => s
  | .autoCommit b | .pingEnabled b => Text.showBool b
  | .isolation l => level l
  | .networkTimeout n | .maxActive n | .maxIdle n | .maxCheckoutTime n | .timeToWait n
  | .tolerance n | .pingNotUsedFor n => Text.showNat n.toNat

def entry (level : Isolation → String) (a : Assignment) : String × String :=
  (a.key, a.text level)

theorem driverKey?_key (a : Assignment) : driverKey? a.key = none := by
  cases a <;> simp only [key] <;> rfl

def Allowed (driver : String) : Assignment → Prop
  | .driver name => name = driver
  | .maxActive n => n ≠ 0
  | _ => True

end Assignment

def Factory.ownKeys : List String :=
  ["driver", "url", "username", "password", "auto_commit", "default_transaction_isolation_level",
    "default_network_timeout_ms"]

theorem Factory.propertySetter_of_pooled {f : Factory} (pooled : f.kind = .pooled) {key : String}
    (other : key ∉ ownKeys) (value : String) :
    propertySetter key value f = setPoolProperty key value f := by
  unfold propertySetter
  split
  case h_8 =>
    obtain ⟨kind, driver, config⟩ := f
    obtain rfl := pooled
    rfl
  all_goals exact absurd (by decide) other

/-- What a factory of pools may be told it can be told: the text of the assignment is read as it. -/
theorem Factory.reads_entry {f : Factory} (pooled : f.kind = .pooled)
    {level : Isolation → String} (writes : Isolation.WrittenBy level) {a : Assignment}
    (allowed : a.Allowed f.driver) : f.Reads (a.entry level) a := by
  refine ⟨rfl, fun c => ?_⟩
  have pooled : (f.withConfig c).kind = .pooled := pooled
  cases a with
  | driver name => exact congrFun (if_neg (not_not_intro allowed)) _
  | maxActive n =>
    have positive : n ≠ 0 := allowed
    simp only [Assignment.entry, Assignment.key, Assignment.text, setProperty]
    rw [propertySetter_of_pooled pooled (by decide)]
    refine setPoolProperty_of_ok (fun _ => rfl) (fun p => ?_) _
    simp [PoolConfig.withProperty, readNumberProperty_showNat, bind, Except.bind, positive,
      Assignment.applyPool]
  | maxIdle n | maxCheckoutTime n | timeToWait n | tolerance n | pingNotUsedFor n | pingQuery s
  | pingEnabled b =>
    simp only [Assignment.entry, Assignment.key, Assignment.text, setProperty]
    rw [propertySetter_of_pooled pooled (by decide)]
    refine setPoolProperty_of_ok (fun _ => rfl) (fun p => ?_) _
    simp [PoolConfig.withProperty, readNumberProperty_showNat, readBoolProperty_showBool, Except.map,
      Assignment.applyPool]
  | _ =>
    simp only [Assignment.entry, Assignment.key, Assignment.text, setProperty, propertySetter,
      readNumberProperty_showNat, readBoolProperty_showBool, writes.ofText]
    rfl

def PoolConfig.assignments (p : PoolConfig) : List Assignment :=
  [.maxActive p.maxActive, .maxIdle p.maxIdle, .maxCheckoutTime p.maxCheckoutTime,
    .timeToWait p.timeToWait, .tolerance p.tolerance, .pingQuery p.pingQuery,
    .pingEnabled p.pingEnabled, .pingNotUsedFor p.pingNotUsedFor]

/-- The settings of a configuration; those that are left out have no assignment. -/
def SourceConfig.assignments (c : SourceConfig) : List Assignment :=
  [.url c.url] ++ c.username.toList.map .username ++ c.password.toList.map .password ++
    c.autoCommit.toList.map .autoCommit ++ c.isolation.toList.map .isolation ++
    c.networkTimeout.toList.map .networkTimeout ++ c.pool.assignments

theorem PoolConfig.foldl_assignments (p : PoolConfig) (c : SourceConfig) :
    p.assignments.foldl (fun c a => a.apply c) c = { c with pool := p } := by
  simp only [assignments, List.foldl_cons, List.foldl_nil, Assignment.apply, Assignment.applyPool]

namespace SourceConfig

variable (c : SourceConfig)

theorem allowed_assignments (driver : String) (room : c.pool.maxActive ≠ 0) :
    ∀ a ∈ c.assignments, a.Allowed driver := by
  intro a listed
  cases a with
  | driver name => simp [assignments, PoolConfig.assignments] at listed
  | maxActive n =>
    obtain rfl : n = c.pool.maxActive := by
      simpa [assignments, PoolConfig.assignments] using listed
    exact room
  | _ => trivial

theorem distinct_assignments : (c.assignments.map (·.key)).Nodup := by
  have optional {α : Type} (o : Option α) (set : α → Assignment) (key : String)
      (named : ∀ x, (set x).key = key) : ((o.toList.map set).map (·.key)).Sublist [key] := by
    cases o <;> simp [named]
  have all : (c.assignments.map (·.key)).Sublist (["url"] ++ ["username"] ++ ["password"] ++
      ["auto_commit"] ++ ["default_transaction_isolation_level"] ++
      ["default_network_timeout_ms"] ++ ["max_active_connections", "max_idle_connections",
        "max_checkout_time_ms", "time_to_wait_ms", "max_local_bad_connection_tolerance",
        "ping_query", "ping_enabled", "ping_connections_not_used_for_ms"]) := by
    simp only [assignments, List.map_append]
    refine ((((((List.Sublist.refl _).append ?_).append ?_).append ?_).append ?_).append ?_).append
      (.refl _)
    all_goals exact optional _ _ _ fun _ => rfl
  exact all.nodup (by decide)

theorem foldl_assignments :
    c.assignments.foldl (fun c a => a.apply c) {} = { c with driverProperties := .empty } := by
  rw [assignments, List.foldl_append, PoolConfig.foldl_assignments]
  obtain ⟨url, username, password, autoCommit, isolation, networkTimeout, driver, pool⟩ := c
  cases username <;> cases password <;> cases autoCommit <;> cases isolation <;>
    cases networkTimeout <;> rfl

variable (level : Isolation → String)

theorem toProperties_eq :
    c.toProperties level = c.assignments.map (·.entry level) ++
      c.driverProperties.entries.map fun e => (driverPropertyMark ++ e.1, e.2) := by
  simp only [toProperties, assignments, List.map_append, List.map_map]
  rfl

theorem settings_toProperties :
    settings (c.toProperties level) = c.assignments.map (·.entry level) := by
  have kept : settings (c.assignments.map (·.entry level)) = c.assignments.map (·.entry level) :=
    List.filter_eq_self.2 (by simp [Assignment.entry, Assignment.driverKey?_key])
  have dropped : settings (c.driverProperties.entries.map fun e =>
      (driverPropertyMark ++ e.1, e.2)) = [] :=
    List.filter_eq_nil_iff.2 (List.forall_mem_map.2 fun e _ => by simp [driverKey?_mark])
  rw [toProperties_eq, settings, List.filter_append]
  exact (congrArg₂ _ kept dropped).trans (List.append_nil _)

theorem forDriver_toProperties :
    forDriver (c.toProperties level) = c.driverProperties.entries := by
  rw [toProperties_eq, forDriver, List.filterMap_append]
  simp [List.filterMap_map, Assignment.entry, Assignment.driverKey?_key, driverKey?_mark]

theorem distinct_toProperties : ((c.toProperties level).map (·.1)).Nodup := by
  rw [toProperties_eq, List.map_append, List.map_map, List.map_map]
  refine List.nodup_append.2 ⟨c.distinct_assignments, ?_, ?_⟩
  · have injective : Function.Injective (driverPropertyMark ++ ·) := by
      intro k k' same
      have keys := congrArg driverKey? same
      simpa only [driverKey?_mark, Option.some.injEq] using keys
    have marked := c.driverProperties.sorted.distinct.map injective
    rwa [List.map_map] at marked
  · intro key setting marked entry same
    obtain ⟨a, -, rfl⟩ := List.mem_map.1 setting
    obtain ⟨e, -, rfl⟩ := List.mem_map.1 entry
    have key := a.driverKey?_key.symm.trans (congrArg driverKey? same)
    rw [Function.comp_apply, driverKey?_mark] at key
    cases key

end SourceConfig

namespace Factory

section Told

variable {f : Factory} (pooled : f.kind = .pooled) {level : Isolation → String}
  (writes : Isolation.WrittenBy level) {c : SourceConfig} (room : c.pool.maxActive ≠ 0)
include pooled writes room

theorem reads_assignments : ∀ a ∈ c.assignments, f.Reads (a.entry level) a :=
  fun a assigned => reads_entry pooled writes (c.allowed_assignments f.driver room a assigned)

theorem accepts_toProperties : ∀ p ∈ settings (c.toProperties level), f.Accepts p := by
  rw [c.settings_toProperties]
  refine List.forall_mem_map.2 fun a assigned => ?_
  exact congrArg Prod.fst ((reads_assignments pooled writes room a assigned).2 f.config)

theorem putAll_toProperties : f.putAll (c.toProperties level) {} = c := by
  have set : (settings (c.toProperties level)).foldl f.put {} =
      { c with driverProperties := .empty } := by
    rw [c.settings_toProperties, List.foldl_map, ← c.foldl_assignments]
    exact List.foldl_ext _ _ _ fun c' a assigned =>
      (reads_assignments pooled writes room a assigned).put c'
  simp only [putAll, set, c.forDriver_toProperties, Properties.ofList_entries]
  split
  case isTrue unlisted =>
    -- Without entries the factory keeps the properties it began with, which are none too.
    have empty : c.driverProperties = .empty := by
      rw [← c.driverProperties.ofList_entries, unlisted]
      rfl
    rw [← empty]
  case isFalse => rfl

end Told

/-- A new factory of pools that is told a configuration, in any order, has it. -/
theorem setProperties_toProperties (driver : String) {level : Isolation → String}
    (writes : Isolation.WrittenBy level) (c : SourceConfig) (room : 1 ≤ c.pool.maxActive)
    {ps : List (String × String)} (order : ps.Perm (c.toProperties level)) :
    ({ kind := .pooled, driver } : Factory).setProperties ps =
      (.ok (), { kind := .pooled, driver, config := c }) := by
  let f : Factory := { kind := .pooled, driver }
  have positive : c.pool.maxActive ≠ 0 := by
    intro zero
    rw [zero] at room
    exact absurd room (by decide)
  have taken : ∀ p ∈ settings ps, f.Accepts p := fun p listed =>
    accepts_toProperties rfl writes positive p ((order.filter _).mem_iff.1 listed)
  have run : f.setProperties ps = _ := setProperties_of_accepts taken {}
  rw [run, ← f.putAll_perm (c.distinct_toProperties level) order.symm,
    putAll_toProperties rfl writes positive]
  rfl

/-- Blanks, an empty password and keys that look like settings are kept as they are. -/
theorem setProperties_toProperties_reverse :
    let c : SourceConfig :=
      { url := " mock:db ", password := some "", isolation := some .serializable
        networkTimeout := some 18446744073709551615
        driverProperties := .ofList [("driver.url", "a"), ("url", " b")]
        pool := { maxActive := 1, pingEnabled := true } }
    let codes := fun l : Isolation => String.ofList (Text.ofInt l.code)
    let ps := (c.toProperties codes).reverse
    Isolation.WrittenBy codes ∧ 1 ≤ c.pool.maxActive ∧ ps.Perm (c.toProperties codes) ∧
    ({ kind := .pooled, driver := "mock" } : Factory).setProperties ps =
      (.ok (), { kind := .pooled, driver := "mock", config := c }) := by
  intro c codes ps
  have writes : Isolation.WrittenBy codes := fun _ => .inr rfl
  have room : 1 ≤ c.pool.maxActive := by decide
  have order : ps.Perm (c.toProperties codes) := List.reverse_perm _
  exact ⟨writes, room, order, setProperties_toProperties "mock" writes c room order⟩

end Factory
end ConnPool
