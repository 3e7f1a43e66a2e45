import ConnPool.Config.Source
import ConnPool.Proofs.Denoted
import ConnPool.Proofs.Integers

namespace ConnPool

namespace Json

/-- The keys of members, in their order; a key without characters is left out. -/
def keysOf (ms : List (Option String × Tree)) : List String := ms.filterMap (·.1)

theorem keysOf_cons {m : Option String × Tree} {k : String} (h : m.1 = some k)
    (ms : List (Option String × Tree)) : keysOf (m :: ms) = k :: keysOf ms := by
  rw [keysOf, List.filterMap_cons, h]
  rfl

theorem keysOf_record (fields : List (String × Tree)) :
    keysOf (fields.map fun (k, v) => (some k, v)) = fields.map (·.1) := by
  induction fields with
  | nil => rfl
  | cons f fields ih => exact congrArg (f.1 :: ·) ih

/-- Members with keys that have characters, in which no key of the given ones stands twice, and
each that stands there has a value that it may have. -/
structure Listed (keys : List String) (gives : String → Tree → Prop)
    (ms : List (Option String × Tree)) : Prop where
  named : ∀ m ∈ ms, m.1.isSome = true
  once : ∀ k ∈ keys, (keysOf ms).count k ≤ 1
  given : ∀ k ∈ keys, ∀ t, (some k, t) ∈ ms → gives k t

/-- The members of a record with all its keys. -/
theorem Listed.of_record {keys : List String} {gives : String → Tree → Prop}
    {fields : List (String × Tree)} (distinct : keys.Nodup) (all : fields.map (·.1) = keys)
    (given : ∀ f ∈ fields, gives f.1 f.2) :
    Listed keys gives (fields.map fun (k, v) => (some k, v)) where
  named m hm := by
    obtain ⟨f, -, rfl⟩ := List.mem_map.1 hm
    rfl
  once k _ := by
    rw [keysOf_record, all]
    exact List.nodup_iff_count.1 distinct k
  given k _ t hm := by
    obtain ⟨f, hf, same⟩ := List.mem_map.1 hm
    cases same
    exact given f hf

section
variable {α : Type} {fields : List (Field α)} {r : Reading}

/-- The field that a key finds has that key. -/
theorem find?_key {k : String} {f : Field α} (h : fields.find? (·.key == k) = some f) :
    f ∈ fields ∧ f.key = k :=
  ⟨List.mem_of_find?_eq_some h, by simpa using List.find?_some h⟩

/-- Reading is in the state of the fields met so far, in whatever order they come. -/
theorem readFields_of_listed (state : List String → α) (ms : List (Option String × Tree))
    (seen : List String) (named : ∀ m ∈ ms, m.1.isSome = true)
    (once : ∀ f ∈ fields, (keysOf ms).count f.key + seen.count f.key ≤ 1)
    (step : ∀ f ∈ fields, ∀ t, (some f.key, t) ∈ ms → ∀ seen,
      f.set r t (state seen) = some (state (f.key :: seen))) :
    ∃ seen', readFields fields r ms seen (state seen) = some (state seen', seen') ∧
      ∀ f ∈ fields, f.key ∈ seen' ↔ f.key ∈ seen ∨ f.key ∈ keysOf ms := by
  induction ms generalizing seen with
  | nil => exact ⟨seen, rfl, fun f _ => by simp [keysOf]⟩
  | cons m ms ih =>
    obtain ⟨key, t⟩ := m
    obtain ⟨k, rfl⟩ := Option.isSome_iff_exists.1 (named (key, t) List.mem_cons_self)
    rw [keysOf_cons rfl] at once ⊢
    have rest : ∀ seen, (∀ f ∈ fields, (keysOf ms).count f.key + seen.count f.key ≤ 1) →
        ∃ seen', readFields fields r ms seen (state seen) = some (state seen', seen') ∧
          ∀ f ∈ fields, f.key ∈ seen' ↔ f.key ∈ seen ∨ f.key ∈ keysOf ms :=
      fun seen once => ih seen (fun m hm => named m (List.mem_cons_of_mem _ hm)) once
        fun f hf t ht => step f hf t (List.mem_cons_of_mem _ ht)
    cases found : fields.find? (·.key == k) with
    | none =>
      have other : ∀ f ∈ fields, f.key ≠ k := by simpa using List.find?_eq_none.1 found
      have once' : ∀ f ∈ fields, (keysOf ms).count f.key + seen.count f.key ≤ 1 := by
        intro f hf
        have bound := once f hf
        rwa [List.count_cons_of_ne (other f hf).symm] at bound
      obtain ⟨seen', read, met⟩ := rest seen once'
      refine ⟨seen', by rw [readFields, found]; exact read, fun f hf => ?_⟩
      rw [met f hf, List.mem_cons]
      simp [other f hf]
    | some f =>
      obtain ⟨hf, rfl⟩ := find?_key found
      have fresh : f.key ∉ seen := by
        have bound := once f hf
        rw [List.count_cons_self] at bound
        exact List.count_eq_zero.1 (by omega)
      have once' : ∀ g ∈ fields, (keysOf ms).count g.key + (f.key :: seen).count g.key ≤ 1 := by
        intro g hg
        have bound := once g hg
        rw [List.count_cons] at bound ⊢
        omega
      obtain ⟨seen', read, met⟩ := rest (f.key :: seen) once'
      refine ⟨seen', ?_, fun g hg => ?_⟩
      · simp only [readFields, found, if_neg fresh, step f hf t List.mem_cons_self,
          Option.bind_eq_bind, Option.bind_some, read]
      · rw [met g hg, List.mem_cons, List.mem_cons, or_assoc, or_left_comm]

/-- A record is read from a document that lists some of its fields, if every value of a field takes
the record on to the state with that field. -/
theorem readPartial_of_listed (state : List String → α) {keys : List String}
    {gives : String → Tree → Prop} {ms : List (Option String × Tree)} {r' : Reading}
    (deep : r.inside? = some r') (known : fields.map (·.key) = keys)
    (step : ∀ f ∈ fields, ∀ t, gives f.key t → ∀ seen,
      f.set r' t (state seen) = some (state (f.key :: seen)))
    (same : ∀ as bs, (∀ k ∈ keys, k ∈ as ↔ k ∈ bs) → state as = state bs)
    (h : Listed keys gives ms) :
    readPartial fields (state []) r (.object ms) = some (state (keysOf ms)) := by
  subst known
  have once : ∀ f ∈ fields, (keysOf ms).count f.key + [].count f.key ≤ 1 :=
    fun f hf => h.once f.key (List.mem_map_of_mem hf)
  have step' : ∀ f ∈ fields, ∀ t, (some f.key, t) ∈ ms → ∀ seen,
      f.set r' t (state seen) = some (state (f.key :: seen)) :=
    fun f hf t ht => step f hf t (h.given f.key (List.mem_map_of_mem hf) t ht)
  obtain ⟨seen, read, met⟩ := readFields_of_listed state ms [] h.named once step'
  have listed : state seen = state (keysOf ms) := by
    apply same
    intro k hk
    obtain ⟨f, hf, rfl⟩ := List.mem_map.1 hk
    simpa using met f hf
  simp [readPartial, deep, read, listed]

/-- How a reading that succeeds takes a member: its key has characters, and either no field has that
key or the field has not been met and takes the value. -/
theorem readFields_cases {m : Option String × Tree} {ms : List (Option String × Tree)}
    {seen : List String} {x : α} {y : α × List String}
    (h : readFields fields r (m :: ms) seen x = some y) :
    ∃ k, m.1 = some k ∧
      ((fields.find? (·.key == k) = none ∧ readFields fields r ms seen x = some y) ∨
        ∃ f x', fields.find? (·.key == k) = some f ∧ k ∉ seen ∧ f.set r m.2 x = some x' ∧
          readFields fields r ms (k :: seen) x' = some y) := by
  obtain ⟨_ | k, t⟩ := m
  · simp [readFields] at h
  · refine ⟨k, rfl, ?_⟩
    unfold readFields at h
    cases found : fields.find? (·.key == k) with
    | none =>
      simp only [found] at h
      exact .inl ⟨rfl, h⟩
    | some f =>
      by_cases met : k ∈ seen
      · simp [found, met] at h
      · simp only [found, if_neg met, Option.bind_eq_bind, Option.bind_eq_some_iff] at h
        obtain ⟨x', set, rest⟩ := h
        exact .inr ⟨f, x', rfl, met, set, rest⟩

/-- After a reading that succeeds, a field stood once among the members, and not at all if it had
been met before. -/
theorem once_of_readFields {ms : List (Option String × Tree)} {seen : List String} {x : α}
    {y : α × List String} (h : readFields fields r ms seen x = some y) {f : Field α}
    (hf : f ∈ fields) :
    (keysOf ms).count f.key ≤ 1 ∧ (f.key ∈ seen → f.key ∉ keysOf ms) := by
  induction ms generalizing seen x with
  | nil => simp [keysOf]
  | cons m ms ih =>
    obtain ⟨k, key, ⟨found, rest⟩ | ⟨g, x', -, met, -, rest⟩⟩ := readFields_cases h
    · have other : f.key ≠ k := by simpa using List.find?_eq_none.1 found f hf
      rw [keysOf_cons key, List.count_cons_of_ne other.symm, List.mem_cons, not_or]
      obtain ⟨once, gone⟩ := ih rest
      exact ⟨once, fun seen => ⟨other, gone seen⟩⟩
    · obtain ⟨once, gone⟩ := ih rest
      rw [keysOf_cons key]
      by_cases here : f.key = k
      · subst here
        rw [List.count_cons_self, List.count_eq_zero.2 (gone List.mem_cons_self)]
        exact ⟨Nat.le_refl 1, fun seen => absurd seen met⟩
      · rw [List.count_cons_of_ne (Ne.symm here), List.mem_cons, not_or]
        exact ⟨once, fun seen => ⟨here, gone (List.mem_cons_of_mem k seen)⟩⟩

/-- After a reading that succeeds, the value of a field was taken. -/
theorem set_of_readFields {ms : List (Option String × Tree)} {seen : List String} {x : α}
    {y : α × List String} (h : readFields fields r ms seen x = some y) {k : String} {t : Tree}
    {f : Field α} (found : fields.find? (·.key == k) = some f) (member : (some k, t) ∈ ms) :
    ∃ x x', f.set r t x = some x' := by
  induction ms generalizing seen x with
  | nil => cases member
  | cons m ms ih =>
    obtain ⟨k', key, ⟨none, rest⟩ | ⟨g, x', found', -, set, rest⟩⟩ := readFields_cases h
    · rcases List.mem_cons.1 member with rfl | member
      · obtain rfl := Option.some.inj key
        rw [none] at found
        cases found
      · exact ih rest member
    · rcases List.mem_cons.1 member with rfl | member
      · obtain rfl := Option.some.inj key
        obtain rfl := Option.some.inj (found.symm.trans found')
        exact ⟨x, x', set⟩
      · exact ih rest member

theorem readPartial_eq_none {base : α} {ms : List (Option String × Tree)}
    (h : ∀ r y, readFields fields r ms [] base ≠ some y) :
    readPartial fields base r (.object ms) = none := by
  cases deep : r.inside? with
  | none => simp [readPartial, deep]
  | some r' => simp [readPartial, deep, Option.eq_none_iff_forall_ne_some.2 (h r')]

theorem readPartial_of_repeated {base : α} {ms : List (Option String × Tree)} {k : String}
    (known : k ∈ fields.map (·.key)) (twice : 2 ≤ (keysOf ms).count k) :
    readPartial fields base r (.object ms) = none := by
  apply readPartial_eq_none
  intro r y read
  obtain ⟨f, hf, rfl⟩ := List.mem_map.1 known
  have once := (once_of_readFields read hf).1
  omega

theorem readPartial_of_refused {base : α} {ms : List (Option String × Tree)} {k : String}
    {t : Tree} {f : Field α} (found : fields.find? (·.key == k) = some f)
    (member : (some k, t) ∈ ms) (refused : ∀ r x, f.set r t x = none) :
    readPartial fields base r (.object ms) = none := by
  apply readPartial_eq_none
  intro r y read
  obtain ⟨x, x', set⟩ := set_of_readFields read found member
  rw [refused] at set
  cases set

theorem readNullable_ofOption (read : Tree → Option α) (write : α → Tree)
    (null : read .null = none) (back : ∀ a, read (write a) = some a) (o : Option α) :
    readNullable read (.ofOption (o.map write)) = some o := by
  cases o with
  | none => rfl
  | some a =>
    have value : write a ≠ .null := by
      intro same
      have written := back a
      rw [same, null] at written
      cases written
    simp only [Option.map_some, Tree.ofOption, Option.getD_some]
    unfold readNullable
    split
    · contradiction
    · rw [back, Option.map_some]

end

theorem readText_text (s : String) : readText (.text s) = some s := rfl

theorem readTexts_texts {r r' : Reading} (deep : r.inside? = some r')
    (es : List (String × String)) :
    readTexts r (.record (es.map fun (k, v) => (k, .text v))) = some es := by
  simp only [readTexts, Tree.record, deep, Option.bind_eq_bind, Option.bind_some]
  induction es with
  | nil => rfl
  | cons e es ih =>
    simp only [List.map_cons, readTextMembers, readText_text, ih, Option.bind_eq_bind,
      Option.bind_some]

end Json

namespace PoolConfig
open Json

def keys : List String :=
  ["max_active_connections", "max_idle_connections", "max_checkout_time_ms", "time_to_wait_ms",
    "max_local_bad_connection_tolerance", "ping_query", "ping_enabled",
    "ping_connections_not_used_for_ms"]

def Gives (c : PoolConfig) (key : String) (t : Tree) : Prop :=
  match key with
  | "max_active_connections" => t = .nat c.maxActive.toNat
  | "max_idle_connections" => t = .nat c.maxIdle.toNat
  | "max_checkout_time_ms" => t = .nat c.maxCheckoutTime.toNat
  | "time_to_wait_ms" => t = .nat c.timeToWait.toNat
  | "max_local_bad_connection_tolerance" => t = .nat c.tolerance.toNat
  | "ping_query" => t = .text c.pingQuery
  | "ping_enabled" => t = .bool c.pingEnabled
  | "ping_connections_not_used_for_ms" => t = .nat c.pingNotUsedFor.toNat
  | _ => False

/-- Whether members list fields of the given settings, between any others. -/
def Lists (c : PoolConfig) (ms : List (Option String × Tree)) : Prop := Listed keys c.Gives ms

def overriding (c : PoolConfig) (listed : List String) : PoolConfig :=
  let base : PoolConfig := {}
  { maxActive := if "max_active_connections" ∈ listed then c.maxActive else base.maxActive
    maxIdle := if "max_idle_connections" ∈ listed then c.maxIdle else base.maxIdle
    maxCheckoutTime :=
      if "max_checkout_time_ms" ∈ listed then c.maxCheckoutTime else base.maxCheckoutTime
    timeToWait := if "time_to_wait_ms" ∈ listed then c.timeToWait else base.timeToWait
    tolerance :=
      if "max_local_bad_connection_tolerance" ∈ listed then c.tolerance else base.tolerance
    pingQuery := if "ping_query" ∈ listed then c.pingQuery else base.pingQuery
    pingEnabled := if "ping_enabled" ∈ listed then c.pingEnabled else base.pingEnabled
    pingNotUsedFor :=
      if "ping_connections_not_used_for_ms" ∈ listed then c.pingNotUsedFor
      else base.pingNotUsedFor }

theorem overriding_congr (c : PoolConfig) {as bs : List String}
    (h : ∀ k ∈ keys, k ∈ as ↔ k ∈ bs) : c.overriding as = c.overriding bs := by
  simp only [keys, List.forall_mem_cons] at h
  obtain ⟨h₁, h₂, h₃, h₄, h₅, h₆, h₇, h₈, -⟩ := h
  simp only [overriding, h₁, h₂, h₃, h₄, h₅, h₆, h₇, h₈]

theorem set_given (c : PoolConfig) {f : Json.Field PoolConfig} (hf : f ∈ fields) {r : Reading}
    {t : Tree} (given : c.Gives f.key t) (seen : List String) :
    f.set r t (c.overriding seen) = some (c.overriding (f.key :: seen)) := by
  simp only [fields, List.mem_cons, List.not_mem_nil, or_false] at hf
  rcases hf with rfl | rfl | rfl | rfl | rfl | rfl | rfl | rfl <;> simp only [Gives] at given <;>
    subst given <;> simp [overriding, readUInt64_nat, readText_text, readBool]

/-- Settings are read from a document that lists some of them. -/
theorem Lists.read {c : PoolConfig} {ms : List (Option String × Tree)} (h : c.Lists ms)
    {r r' : Reading} (deep : r.inside? = some r') :
    ofTree? r (.object ms) = some (c.overriding (keysOf ms)) :=
  readPartial_of_listed c.overriding deep rfl (fun _ hf _ given seen => c.set_given hf given seen)
    (fun _ _ => c.overriding_congr) h

end PoolConfig

namespace SourceConfig
open Json

def keys : List String :=
  ["url", "username", "password", "auto_commit", "default_transaction_isolation_level",
    "default_network_timeout_ms", "driver_properties", "pool"]

/-- The values that a document may have under a key to give the settings. What is not set is `null`;
an isolation level is a word or an object with that word as its only key; properties may come in any
order; the object of the pool has its own members, which list fields of the pool's settings. -/
def Gives (c : SourceConfig) (pool : List (Option String × Tree)) (key : String) (t : Tree) :
    Prop :=
  match key with
  | "url" => t = .text c.url
  | "username" => t = .ofOption (c.username.map .text)
  | "password" => t = .ofOption (c.password.map .text)
  | "auto_commit" => t = .ofOption (c.autoCommit.map .bool)
  | "default_transaction_isolation_level" =>
    t = .ofOption (c.isolation.map fun l => .text l.key) ∨
      ∃ l, c.isolation = some l ∧ t = .record [(l.key, .null)]
  | "default_network_timeout_ms" => t = .ofOption (c.networkTimeout.map fun n => .nat n.toNat)
  | "driver_properties" =>
    ∃ es, Properties.ofList es = c.driverProperties ∧
      t = .record (es.map fun (k, v) => (k, .text v))
  | "pool" => t = .object pool ∧ c.pool.Lists pool
  | _ => False

/-- Whether members list fields of the given settings, between any others, and `pool` are the
members of the object of the pool. -/
def Lists (c : SourceConfig) (pool ms : List (Option String × Tree)) : Prop :=
  Listed keys (c.Gives pool) ms

/-- The defaults, with the fields under the listed keys replaced; of the settings of the pool, those
under the keys that its own object lists. -/
def overriding (c : SourceConfig) (listed listedInPool : List String) : SourceConfig :=
  let base : SourceConfig := {}
  { url := if "url" ∈ listed then c.url else base.url
    username := if "username" ∈ listed then c.username else base.username
    password := if "password" ∈ listed then c.password else base.password
    autoCommit := if "auto_commit" ∈ listed then c.autoCommit else base.autoCommit
    isolation :=
      if "default_transaction_isolation_level" ∈ listed then c.isolation else base.isolation
    networkTimeout :=
      if "default_network_timeout_ms" ∈ listed then c.networkTimeout else base.networkTimeout
    driverProperties :=
      if "driver_properties" ∈ listed then c.driverProperties else base.driverProperties
    pool := if "pool" ∈ listed then c.pool.overriding listedInPool else base.pool }

theorem overriding_congr (c : SourceConfig) (listedInPool : List String) {as bs : List String}
    (h : ∀ k ∈ keys, k ∈ as ↔ k ∈ bs) :
    c.overriding as listedInPool = c.overriding bs listedInPool := by
  simp only [keys, List.forall_mem_cons] at h
  obtain ⟨h₁, h₂, h₃, h₄, h₅, h₆, h₇, h₈, -⟩ := h
  simp only [overriding, h₁, h₂, h₃, h₄, h₅, h₆, h₇, h₈]

theorem set_given (c : SourceConfig) {pool : List (Option String × Tree)}
    {f : Json.Field SourceConfig} (hf : f ∈ fields) {r r' : Reading}
    (deep : r.inside? = some r') (blank : r'.blank .null = true) {t : Tree}
    (given : c.Gives pool f.key t) (seen : List String) :
    f.set r t (c.overriding seen (keysOf pool)) =
      some (c.overriding (f.key :: seen) (keysOf pool)) := by
  have texts := readNullable_ofOption readText .text rfl readText_text
  have flags := readNullable_ofOption readBool .bool rfl fun _ => rfl
  have counts := readNullable_ofOption readUInt64 (fun n => .nat n.toNat) rfl readUInt64_nat
  have words := readNullable_ofOption (readWord Isolation.ofKey? r) (fun l => .text l.key) rfl
    Isolation.ofKey?_key
  simp only [fields, List.mem_cons, List.not_mem_nil, or_false] at hf
  rcases hf with rfl | rfl | rfl | rfl | rfl | rfl | rfl | rfl
  all_goals simp only [Gives] at given
  · simp [overriding, given, readText_text]
  · simp [overriding, given, texts]
  · simp [overriding, given, texts]
  · simp [overriding, given, flags]
  · rcases given with rfl | ⟨l, level, rfl⟩
    · simp [overriding, words]
    · simp [overriding, level, readNullable, readWord, Tree.record, deep, blank,
        Isolation.ofKey?_key]
  · simp [overriding, given, counts]
  · obtain ⟨es, same, rfl⟩ := given
    simp [overriding, readTexts_texts deep, same]
  · obtain ⟨rfl, lists⟩ := given
    simp [overriding, lists.read deep]

/-- Settings are read from a document that lists some of them. -/
theorem Lists.read {c : SourceConfig} {pool ms : List (Option String × Tree)}
    (h : c.Lists pool ms) :
    ofTree? .json (.object ms) = some (c.overriding (keysOf ms) (keysOf pool)) := by
  refine readPartial_of_listed (fun seen => c.overriding seen (keysOf pool)) rfl rfl
    (fun _ hf _ given seen => ?_) (fun _ _ => c.overriding_congr (keysOf pool)) h
  exact c.set_given hf rfl rfl given seen

/-- A field of the pool's settings that stands twice in the object of the pool is refused. -/
theorem ofTree?_of_repeated_in_pool {r : Reading} {pool ms : List (Option String × Tree)}
    {k : String} (member : (some "pool", .object pool) ∈ ms) (known : k ∈ PoolConfig.keys)
    (twice : 2 ≤ (keysOf pool).count k) : ofTree? r (.object ms) = none :=
  readPartial_of_refused rfl member fun r x => by
    have refused : PoolConfig.ofTree? r (.object pool) = none := readPartial_of_repeated known twice
    simp only [refused, Option.map_none]

end SourceConfig

section
open Json

/-- What a document that lists fields comes to, for the settings of a pool and of a source. -/
theorem ofJson_of_listed {ms : List (Option String × Tree)} {s : String}
    (text : (Tree.object ms).DenotedBy s) :
    (∀ c : PoolConfig, c.Lists ms → PoolConfig.ofJson s = .ok (c.overriding (keysOf ms))) ∧
      (∀ k ∈ PoolConfig.keys, 2 ≤ (keysOf ms).count k → PoolConfig.ofJson s = .error .json) ∧
      (∀ (c : SourceConfig) (pool : List (Option String × Tree)), c.Lists pool ms →
        SourceConfig.ofJson s = .ok (c.overriding (keysOf ms) (keysOf pool))) ∧
      (∀ k ∈ SourceConfig.keys, 2 ≤ (keysOf ms).count k → SourceConfig.ofJson s = .error .json) ∧
      ∀ pool, (some "pool", .object pool) ∈ ms → ∀ k ∈ PoolConfig.keys,
        2 ≤ (keysOf pool).count k → SourceConfig.ofJson s = .error .json := by
  simp only [PoolConfig.ofJson, SourceConfig.ofJson, text.parse, Option.bind_some]
  refine ⟨?_, ?_, ?_, ?_, ?_⟩
  · intro c lists
    rw [lists.read (r := .json) rfl]
    rfl
  · intro k known twice
    rw [PoolConfig.ofTree?, readPartial_of_repeated known twice]
    rfl
  · intro c pool lists
    rw [lists.read]
    rfl
  · intro k known twice
    rw [SourceConfig.ofTree?, readPartial_of_repeated known twice]
    rfl
  · intro pool member k known twice
    rw [SourceConfig.ofTree?_of_repeated_in_pool member known twice]
    rfl

/-- A document with an escape in a key, blanks, a member that no settings know, with half of a
surrogate pair in it, and a partial object for the pool. -/
def partialText : String :=
  "\x7b\"p\\u0069ng_enabled\" :true,\"\":[\"\\ud800\",0],\"pool\":\x7b\"ping_query\":\"a\"\x7d\x7d"

def partialPool : List (Option String × Tree) := [(some "ping_query", .text "a")]

def partialMembers : List (Option String × Tree) :=
  [(some "ping_enabled", .bool true),
    (some "", .array [.string none, .nat 0]),
    (some "pool", .object partialPool)]

theorem partialMembers_denotedBy : (Tree.object partialMembers).DenotedBy partialText := by
  apply Tree.parse_eq_some_iff.1
  simp only [Tree.parse, partialText, String.reduceToList]
  rfl

theorem ofJson_partialText :
    PoolConfig.ofJson partialText = .ok { pingEnabled := true } ∧
      SourceConfig.ofJson partialText = .ok { pool := { pingQuery := "a" } } := by
  obtain ⟨pool, -, source, -⟩ := ofJson_of_listed partialMembers_denotedBy
  have listsInPool : ({ pingQuery := "a" } : PoolConfig).Lists partialPool := by
    refine ⟨by decide, by decide, fun k _ t member => ?_⟩
    simp only [partialPool, List.mem_cons, Prod.mk.injEq, Option.some.injEq, List.not_mem_nil,
      or_false] at member
    obtain ⟨rfl, rfl⟩ := member
    rfl
  have lists : ({ pingEnabled := true } : PoolConfig).Lists partialMembers := by
    refine ⟨by decide, by decide, fun k known t member => ?_⟩
    simp only [partialMembers, List.mem_cons, Prod.mk.injEq, Option.some.injEq, List.not_mem_nil,
      or_false] at member
    rcases member with ⟨rfl, rfl⟩ | ⟨rfl, -⟩ | ⟨rfl, -⟩
    · rfl
    all_goals exact absurd known (by decide)
  have listsSource : ({ pool := { pingQuery := "a" } } : SourceConfig).Lists partialPool
      partialMembers := by
    refine ⟨by decide, by decide, fun k known t member => ?_⟩
    simp only [partialMembers, List.mem_cons, Prod.mk.injEq, Option.some.injEq, List.not_mem_nil,
      or_false] at member
    rcases member with ⟨rfl, -⟩ | ⟨rfl, -⟩ | ⟨rfl, rfl⟩
    · exact absurd known (by decide)
    · exact absurd known (by decide)
    · exact ⟨rfl, listsInPool⟩
  exact ⟨pool _ lists, source _ _ listsSource⟩

end

end ConnPool
