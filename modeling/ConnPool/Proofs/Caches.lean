import ConnPool.Proofs.PrivateDatabase
import ConnPool.Sqlite.Databases

namespace ConnPool.Sqlite

namespace Cache

variable {c c' : Cache} {i j : ConnId} {d : Database Tables}

theorem own_of_not_writer (h : c.isWriter i = false) : c.own i = c.kept := by simp [own, h]

theorem own_of_writer (h : c.isWriter i = true) : c.own i = c.live := by simp [own, h]

/-- Only one user writes at a time. -/
theorem isWriter_other (writer : c.isWriter i = true) (other : j ≠ i) : c.isWriter j = false := by
  cases found : c.writer with
  | none => simp [isWriter, found] at writer
  | some w =>
    have owner : w.owner = i := by simpa [isWriter, found] using writer
    simpa [isWriter, found, owner] using other.symm

/-- Caches between which nothing was committed, and no other user began to write or ended. -/
structure Near (i : ConnId) (c c' : Cache) : Prop where
  kept : c'.kept = c.kept
  journal : c'.journal = c.journal
  others : ∀ j ≠ i, c'.isWriter j = c.isWriter j

theorem Near.trans {c'' : Cache} (h : Near i c c') (h' : Near i c' c'') : Near i c c'' :=
  ⟨h'.kept.trans h.kept, h'.journal.trans h.journal,
    fun j other => (h'.others j other).trans (h.others j other)⟩

theorem near_start {writes : Bool} (started : c.start i writes = .ok c') : Near i c c' := by
  unfold start at started
  dsimp only at started
  split at started
  · cases started
  · rename_i free
    obtain rfl := Except.ok.inj started
    refine ⟨rfl, rfl, fun j other => ?_⟩
    cases upgrades : writes && !c.isWriter i with
    | false => rfl
    | true =>
      have nobody : c.writer = none := by
        cases found : c.writer with
        | none => rfl
        | some w => simp [upgrades, found] at free
      simpa [isWriter, nobody] using other.symm

theorem near_lock (c : Cache) (i : ConnId) (table : String) (forWriting : Bool) :
    Near i c (c.lock i table forWriting).2 := by
  unfold lock
  dsimp only
  split <;> exact ⟨rfl, rfl, fun _ _ => rfl⟩

theorem write_of_not_writer (writer : c.isWriter i = false) : c.write i d = c := by
  simp [write, writer]

theorem write_of_within (writer : c.isWriter i = true) (within : d.inTransaction = true) :
    c.write i d = { c with writer := some ⟨i, d.content, d.written⟩ } := by
  simp [write, writer, within]

theorem write_of_ended (writer : c.isWriter i = true) (ended : d.inTransaction = false) :
    c.write i d = { c with kept := d.content, writer := none } := by
  simp [write, writer, ended]

/-- What is put back is written, with locks given up before. -/
theorem put_eq (c : Cache) (i : ConnId) (d : Database Tables) :
    ∃ e : Cache, e.writer = c.writer ∧ e.kept = c.kept ∧
      c.put i d = { e.write i d with journal := d.settings.journal } := by
  unfold put
  cases d.inTransaction with
  | true => exact ⟨c, rfl, rfl, rfl⟩
  | false => exact ⟨c.release i, rfl, rfl, rfl⟩

/-- What is put back, as it is put back for the one that writes and for everybody else. -/
inductive Puts (i : ConnId) (d : Database Tables) (c c' : Cache) : Prop where
  | idle (writer : c.isWriter i = false) (kept : c'.kept = c.kept) (same : c'.writer = c.writer)
  | within (writer : c.isWriter i = true) (within : d.inTransaction = true)
      (kept : c'.kept = c.kept) (writes : c'.writer = some ⟨i, d.content, d.written⟩)
  | ended (writer : c.isWriter i = true) (ended : d.inTransaction = false)
      (kept : c'.kept = d.content) (nobody : c'.writer = none)

theorem put_puts (c : Cache) (i : ConnId) (d : Database Tables) : Puts i d c (c.put i d) := by
  obtain ⟨e, same, kept, put⟩ := c.put_eq i d
  have writes : e.isWriter i = c.isWriter i := by rw [isWriter, same, ← isWriter]
  rw [put]
  cases writer : c.isWriter i with
  | false =>
    rw [write_of_not_writer (writes.trans writer)]
    exact .idle writer kept same
  | true =>
    cases within : d.inTransaction with
    | true =>
      rw [write_of_within (writes.trans writer) within]
      exact .within writer within kept rfl
    | false =>
      rw [write_of_ended (writes.trans writer) within]
      exact .ended writer within rfl rfl

theorem put_isWriter (c : Cache) (i : ConnId) (d : Database Tables) :
    (c.put i d).isWriter i = (c.isWriter i && d.inTransaction) := by
  rcases c.put_puts i d with ⟨writer, -, same⟩ | ⟨writer, within, -, writes⟩ |
    ⟨writer, ended, -, nobody⟩
  · rw [writer, Bool.false_and, isWriter, same, ← isWriter, writer]
  · rw [writer, within]
    simp [isWriter, writes]
  · simp [isWriter, nobody, ended]

theorem put_others (c : Cache) (d : Database Tables) (other : j ≠ i) :
    (c.put i d).isWriter j = c.isWriter j := by
  rcases c.put_puts i d with ⟨-, -, same⟩ | ⟨writer, -, -, writes⟩ | ⟨writer, -, -, nobody⟩
  · rw [isWriter, same, ← isWriter]
  · rw [isWriter_other writer other]
    simpa [isWriter, writes] using other.symm
  · rw [isWriter_other writer other]
    simp [isWriter, nobody]

theorem put_kept (ended : d.inTransaction = false → c.isWriter i = true → d.content = c.kept) :
    (c.put i d).kept = c.kept := by
  rcases c.put_puts i d with ⟨-, kept, -⟩ | ⟨-, -, kept, -⟩ | ⟨writer, idle, kept, -⟩
  · exact kept
  · exact kept
  · exact kept.trans (ended idle writer)

/-- What nobody has changed is put back as it was. -/
theorem put_same (within : c.isWriter i = true → d.inTransaction = true)
    (content : d.content = c.own i) :
    (c.put i d).own i = c.own i ∧ (c.put i d).kept = c.kept := by
  rcases c.put_puts i d with ⟨writer, kept, same⟩ | ⟨writer, -, kept, writes⟩ | ⟨writer, ended, -, -⟩
  · have still : (c.put i d).isWriter i = false := by rw [put_isWriter, writer, Bool.false_and]
    rw [own_of_not_writer still, own_of_not_writer writer]
    exact ⟨kept, kept⟩
  · have still : (c.put i d).isWriter i = true := by simp [isWriter, writes]
    rw [own_of_writer still, live, writes]
    exact ⟨content, kept⟩
  · cases (within writer).symm.trans ended

end Cache

namespace Seat

variable {s t : Seat} {i j : ConnId} {d : Database Tables}

theorem put_inTransaction (t : Seat) (i : ConnId) (d : Database Tables) :
    (t.put i d).inTransaction i = d.inTransaction := by
  rw [inTransaction, put, Cache.put_isWriter]
  cases d.inTransaction <;> simp

/-- Seats between which nothing was committed, and no other handle began to write or ended. -/
structure Near (i : ConnId) (s t : Seat) : Prop where
  handle : t.handle = s.handle
  cache : s.cache.Near i t.cache

theorem near_refl (i : ConnId) (s : Seat) : Near i s s := ⟨rfl, rfl, rfl, fun _ _ => rfl⟩

theorem near_acquire (i : ConnId) (n : Need) (s : Seat) : Near i s (s.acquire i n).2 := by
  unfold acquire
  cases started : s.cache.start i n.forWriting with
  | error f => exact near_refl i s
  | ok c =>
    have near := Cache.near_start started
    dsimp only
    split
    · exact ⟨rfl, near⟩
    · exact ⟨rfl, near.trans (c.near_lock i n.table n.forWriting)⟩

/-- All that can be done with a seat: nothing, or a database is put back to it. -/
inductive Turns (i : ConnId) (s : Seat) : Seat → Prop where
  | stays : Turns i s s
  | puts {t : Seat} (near : Near i s t) (d : Database Tables) : Turns i s (t.put i d)

theorem Turns.place (h : Turns i s t) : t.handle.cache = s.handle.cache := by
  cases h with
  | stays => rfl
  | puts near d =>
    rw [put, near.handle]

theorem Turns.others (h : Turns i s t) (other : j ≠ i) :
    t.cache.isWriter j = s.cache.isWriter j := by
  cases h with
  | stays => rfl
  | puts near d => exact (Cache.put_others _ d other).trans (near.cache.others j other)

variable {α : Type} {f : Database Tables → α × Database Tables}

theorem turns_onOwn : Turns i s (s.onOwn i f).2 := .puts (near_refl i s) _

theorem turns_control (c : Control) (s : Seat) : Turns i s (s.control i c).2 := by
  unfold control
  split
  · exact .stays
  · exact turns_onOwn

theorem turns_setPragma (name value : String) (s : Seat) :
    Turns i s (s.setPragma i name value).2 := by
  unfold setPragma
  split
  · exact .stays
  · exact turns_onOwn

theorem turns_run (sql : String) (params : List Value) (s : Seat) :
    Turns i s (s.run i sql params).2 := by
  unfold run
  dsimp only
  split
  · exact .stays
  · split
    · exact turns_onOwn
    · split
      · exact .puts (near_refl i s) _
      · rename_i n _
        have near := near_acquire i n s
        split <;> rename_i acquired <;> rw [acquired] at near <;> exact .puts near _

/-- A plain statement neither opens nor ends the transaction that it finds. -/
theorem run_plain {sql : String} (plain : Tables.engine.IsPlain sql) (params : List Value)
    (s : Seat) : (s.run i sql params).2 = s ∨
      ∃ t d, Near i s t ∧ d.inTransaction = s.inTransaction i ∧
        (s.run i sql params).2 = t.put i d := by
  have within (t : Seat) (content : Tables) : Database.inTransaction
      (Tables.engine.library.run sql params (t.view (s.inTransaction i) content)).2 =
        s.inTransaction i := by
    refine (Database.run_same plain _ params).inTransaction.trans ?_
    unfold view Database.inTransaction
    split <;> simp_all
  unfold run
  rw [show Tables.engine.control? sql = none from plain]
  dsimp only
  split
  · exact .inl rfl
  · refine .inr ?_
    rw [if_neg (by simp)]
    split
    · exact ⟨s, _, near_refl i s, within s _, rfl⟩
    · rename_i n _
      have near := near_acquire i n s
      split <;> rename_i acquired <;> rw [acquired] at near
      · exact ⟨_, _, near, within _ _, rfl⟩
      · refine ⟨_, _, near, ?_, rfl⟩
        unfold Need.givenUp view Database.inTransaction
        split <;> split <;> simp_all

theorem view_inTransaction (s : Seat) (within : Bool) (content : Tables) :
    (s.view within content).inTransaction = within := by
  cases within <;> rfl

theorem view_kept (s : Seat) (content : Tables) : (s.view true content).kept = s.cache.kept := rfl

/-- What a handle finds as if it were the only one. -/
def mine (s : Seat) (i : ConnId) : Database Tables := s.view (s.inTransaction i) (s.cache.own i)

theorem mine_inTransaction (s : Seat) (i : ConnId) : (s.mine i).inTransaction = s.inTransaction i :=
  s.view_inTransaction _ _

theorem onOwn_eq (s : Seat) (i : ConnId) (f : Database Tables → α × Database Tables) :
    s.onOwn i f = ((f (s.mine i)).1, s.put i (f (s.mine i)).2) := rfl

theorem within_of_writer (writer : s.cache.isWriter i = true) : s.inTransaction i = true := by
  simp [inTransaction, writer]

theorem mine_kept (s : Seat) (i : ConnId) : (s.mine i).kept = s.cache.kept := by
  cases within : s.inTransaction i with
  | true => rw [mine, within, view_kept]
  | false =>
    have writer : s.cache.isWriter i = false :=
      Bool.eq_false_iff.2 fun writer => by cases (within_of_writer writer).symm.trans within
    rw [mine, within, Cache.own_of_not_writer writer]
    rfl

/-- Seats at which the same is found and kept. -/
structure Same (i : ConnId) (s t : Seat) : Prop where
  own : t.cache.own i = s.cache.own i
  kept : t.cache.kept = s.cache.kept
  journaled : (t.cache.journal != .off) = (s.cache.journal != .off)

theorem same_refl (i : ConnId) (s : Seat) : Same i s s := ⟨rfl, rfl, rfl⟩

theorem same_put (within : s.inTransaction i = true → d.inTransaction = true)
    (content : d.content = (s.mine i).content)
    (journaled : d.settings.journaled = (s.mine i).settings.journaled) : Same i s (s.put i d) :=
  have same := Cache.put_same (fun writer => within (within_of_writer writer)) content
  ⟨same.1, same.2, journaled⟩

theorem control_cases (c : Control) (s : Seat) :
    s.control i c = (.error schemaFault, s) ∨
      s.control i c = s.onOwn i (Tables.engine.library.control c) := by
  unfold control
  split
  · exact .inl rfl
  · exact .inr rfl

theorem begin_within (idle : s.inTransaction i = false) (ok : (s.control i .begin).1 = .ok ()) :
    (s.control i .begin).2.inTransaction i = true := by
  rcases control_cases (i := i) .begin s with same | own
  · rw [same] at ok
    cases ok
  · rw [own, onOwn_eq] at ok ⊢
    rw [put_inTransaction]
    refine Tables.engine.transacts.begins ((s.mine_inTransaction i).trans idle) ?_
    rw [← ok]

theorem begin_same (idle : s.inTransaction i = false) : Same i s (s.control i .begin).2 := by
  rcases control_cases (i := i) .begin s with same | own
  · rw [same]
    exact same_refl i s
  · have kept := Tables.engine.transacts.begins_same ((s.mine_inTransaction i).trans idle)
    rw [own]
    refine same_put (fun within => ?_) kept.own (Bool.eq_iff_iff.2 kept.journaled)
    cases idle.symm.trans within

theorem end_idle {c : Control} (ne : c ≠ .begin) (within : s.inTransaction i = true)
    (ok : (s.control i c).1 = .ok ()) : (s.control i c).2.inTransaction i = false := by
  rcases control_cases (i := i) c s with same | own
  · rw [same] at ok
    cases ok
  · rw [own, onOwn_eq] at ok ⊢
    rw [put_inTransaction]
    refine Tables.engine.transacts.ends ne ((s.mine_inTransaction i).trans within) ?_
    rw [← ok]

theorem end_kept {c : Control} (ne : c ≠ .begin) (within : s.inTransaction i = true)
    (journaled : (s.cache.journal != .off) = true)
    (failed : c = .commit → (s.control i c).1 ≠ .ok ()) :
    (s.control i c).2.cache.kept = s.cache.kept := by
  rcases control_cases (i := i) c s with same | own
  · rw [same]
  · rw [own] at failed ⊢
    have kept := Tables.engine.transacts.ends_kept ne ((s.mine_inTransaction i).trans within)
      journaled rfl failed
    refine Cache.put_kept fun ended _ => ?_
    exact (Database.kept_of_saved (Database.inTransaction_eq_false.1 ended)).symm.trans
      (kept.trans (s.mine_kept i))

theorem setBusyTimeout_same (ms : Nat) (s : Seat) : Same i s (s.setBusyTimeout i ms).2 :=
  same_put (s.mine_inTransaction i).trans rfl rfl

theorem setBusyTimeout_inTransaction (ms : Nat) (s : Seat) :
    (s.setBusyTimeout i ms).2.inTransaction i = s.inTransaction i :=
  (put_inTransaction s i _).trans (s.mine_inTransaction i)

theorem setPragma_cases (name value : String) (s : Seat) :
    s.setPragma i name value = (.error schemaFault, s) ∨
      s.setPragma i name value = s.onOwn i (Tables.engine.library.setPragma name value) := by
  unfold setPragma
  split
  · exact .inl rfl
  · exact .inr rfl

theorem setPragma_inTransaction (name value : String) (s : Seat) :
    (s.setPragma i name value).2.inTransaction i = s.inTransaction i := by
  rcases setPragma_cases (i := i) name value s with same | own
  · rw [same]
  · rw [own, onOwn_eq, put_inTransaction, ← mine_inTransaction]
    show Option.isSome _ = Option.isSome _
    rw [(Tables.engine.setPragma_content name value (s.mine i)).2]

theorem readUncommitted_same (value : String) (s : Seat) :
    Same i s (s.setPragma i "read_uncommitted" value).2 := by
  rcases setPragma_cases (i := i) "read_uncommitted" value s with same | own
  · rw [same]
    exact same_refl i s
  · have kept := Tables.engine.transacts.isolates_same value (s.mine i)
    have within := Tables.engine.transacts.isolates value (s.mine i)
    rw [own]
    exact same_put (fun w => within.trans ((s.mine_inTransaction i).trans w)) kept.own
      (Bool.eq_iff_iff.2 kept.journaled)

theorem run_inTransaction {sql : String} (plain : Tables.engine.IsPlain sql) (params : List Value)
    (s : Seat) : (s.run i sql params).2.inTransaction i = s.inTransaction i := by
  rcases run_plain (i := i) plain params s with same | ⟨t, d, -, within, put⟩
  · rw [same]
  · rw [put, put_inTransaction, within]

theorem run_kept {sql : String} (plain : Tables.engine.IsPlain sql) (params : List Value)
    (within : s.inTransaction i = true) :
    (s.run i sql params).2.cache.kept = s.cache.kept := by
  rcases run_plain (i := i) plain params s with same | ⟨t, d, near, still, put⟩
  · rw [same]
  · rw [put, ← near.cache.kept]
    exact Cache.put_kept fun ended _ => by cases ended.symm.trans (still.trans within)

end Seat

end ConnPool.Sqlite
