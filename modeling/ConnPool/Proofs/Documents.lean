import ConnPool.Proofs.Compact
import ConnPool.Proofs.Listing
import ConnPool.Stats

namespace ConnPool
open Json

namespace PoolConfig

/-- The members of the document of settings list every field of theirs. -/
theorem toTree_lists (c : PoolConfig) :
    ∃ ms, c.toTree = .object ms ∧ keysOf ms = keys ∧ c.Lists ms := by
  refine ⟨_, rfl, rfl, Listed.of_record (by decide) rfl ?_⟩
  simp only [List.forall_mem_cons]
  exact ⟨rfl, rfl, rfl, rfl, rfl, rfl, rfl, rfl, nofun⟩

theorem overriding_keys (c : PoolConfig) : c.overriding keys = c := by
  simp [overriding, keys]

theorem writable_toTree (c : PoolConfig) : c.toTree.Writable := by
  apply Tree.writable_record
  simp only [List.forall_mem_cons]
  exact ⟨Tree.writable_nat _, Tree.writable_nat _, Tree.writable_nat _, Tree.writable_nat _,
    Tree.writable_nat _, rfl, trivial, Tree.writable_nat _, nofun⟩

end PoolConfig

namespace SourceConfig

theorem toTree_lists (c : SourceConfig) :
    ∃ pool ms, c.toTree = .object ms ∧ keysOf ms = keys ∧ keysOf pool = PoolConfig.keys ∧
      c.Lists pool ms := by
  obtain ⟨pool, tree, listed, lists⟩ := c.pool.toTree_lists
  refine ⟨pool, _, rfl, rfl, listed, Listed.of_record (by decide) rfl ?_⟩
  simp only [List.forall_mem_cons]
  exact ⟨rfl, rfl, rfl, rfl, .inl rfl, rfl, ⟨_, Properties.ofList_entries _, rfl⟩, ⟨tree, lists⟩,
    nofun⟩

theorem overriding_keys (c : SourceConfig) : c.overriding keys PoolConfig.keys = c := by
  simp [overriding, keys, PoolConfig.overriding_keys]

theorem writable_toTree (c : SourceConfig) : c.toTree.Writable := by
  apply Tree.writable_record
  simp only [List.forall_mem_cons]
  refine ⟨rfl, ?_, ?_, ?_, ?_, ?_, ?_, c.pool.writable_toTree, nofun⟩
  · exact Tree.writable_ofOption .text (fun _ => rfl) c.username
  · exact Tree.writable_ofOption .text (fun _ => rfl) c.password
  · exact Tree.writable_ofOption .bool (fun _ => trivial) c.autoCommit
  · exact Tree.writable_ofOption (fun l => .text l.key) (fun _ => rfl) c.isolation
  · exact Tree.writable_ofOption (fun n => .nat n.toNat) (fun _ => Tree.writable_nat _)
      c.networkTimeout
  · refine Tree.writable_record fun f hf => ?_
    obtain ⟨e, _, rfl⟩ := List.mem_map.1 hf
    exact rfl

end SourceConfig

namespace PoolStats

theorem writable_toTree (s : PoolStats) : s.toTree.Writable := by
  refine Tree.writable_record fun f hf => ?_
  obtain ⟨e, _, rfl⟩ := List.mem_map.1 hf
  exact Tree.writable_nat _

theorem ofTree?_toTree (s : PoolStats) : ofTree? .json s.toTree = some s := by
  simp [ofTree?, toTree, entries, Tree.record, readWhole, fields, readFields, readUInt64_nat,
    Reading.inside?, Reading.json, nestingLimit]

end PoolStats

/-- Settings of a pool, settings of a source and statistics are read back from their documents. -/
theorem ofJson_toJsonText :
    (∀ c : PoolConfig, PoolConfig.ofJson c.toJsonText = .ok c) ∧
      (∀ c : SourceConfig, SourceConfig.ofJson c.toJsonText = .ok c) ∧
      ∀ s : PoolStats, PoolStats.ofJson s.toJsonText = .ok s := by
  refine ⟨fun c => ?_, fun c => ?_, fun s => ?_⟩
  · obtain ⟨ms, tree, listed, lists⟩ := c.toTree_lists
    have read : PoolConfig.ofTree? .json c.toTree = some c := by
      rw [tree, lists.read rfl, listed, c.overriding_keys]
    simp only [PoolConfig.ofJson, PoolConfig.toJsonText, c.writable_toTree.parse,
      Option.bind_some, read, Option.elim]
  · obtain ⟨pool, ms, tree, listed, listedInPool, lists⟩ := c.toTree_lists
    have read : SourceConfig.ofTree? .json c.toTree = some c := by
      rw [tree, lists.read, listed, listedInPool, c.overriding_keys]
    simp only [SourceConfig.ofJson, SourceConfig.toJsonText, c.writable_toTree.parse,
      Option.bind_some, read, Option.elim]
  · simp only [PoolStats.ofJson, PoolStats.toJsonText, s.writable_toTree.parse,
      Option.bind_some, s.ofTree?_toTree, Option.elim]

end ConnPool
