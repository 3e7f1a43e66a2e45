import ConnPool.Proofs.AtOnce
import ConnPool.Proofs.LibraryTwins
import ConnPool.Proofs.SharedDatabases

namespace ConnPool.Sqlite

namespace Database

variable {δ : Type} {engine : Engine δ} {d : Database δ}

/-- A database as it may be found between calls. -/
structure Sound (engine : Engine δ) (d : Database δ) : Prop where
  kept : engine.released d.kept = d.kept
  written : d.written = true → d.inTransaction = true

theorem settled_released {content content' : δ} (h : engine.settled content = .ok content') :
    content' = engine.released content := by
  unfold Engine.settled at h
  split at h
  · cases h
  · exact (Except.ok.inj h).symm

/-- All that can be done about transactions: nothing, a begin, or an end. -/
theorem control_cases (engine : Engine δ) (d : Database δ) (c : Control) :
    (d.control engine c).2 = d ∨
      d.saved = none ∧ (d.control engine c).2 = { d with saved := some d.content } ∨
        ∃ content, (content = engine.released d.content ∨ content = d.kept) ∧
          (d.control engine c).2 = { d with content, saved := none, written := false } := by
  cases saved : d.saved with
  | none =>
    cases c with
    | begin => exact .inr (.inl ⟨rfl, by simp [control, begin, saved]⟩)
    | commit | rollback => exact .inl (by simp [control, saved])
  | some first =>
    cases c with
    | begin => exact .inl (by simp [control, saved])
    | commit =>
      cases settled : engine.settled d.content with
      | error text => exact .inl (by simp [control, commit, saved, settled, Except.map])
      | ok content =>
        exact .inr (.inr ⟨content, .inl (settled_released settled), by
          simp [control, commit, saved, settled, Except.map]⟩)
    | rollback =>
      refine .inr (.inr ⟨(d.rollback engine).content, ?_, by simp [control, rollback, saved]⟩)
      cases journaled : d.settings.journaled with
      | true => exact .inr (rollback_content engine journaled)
      | false => exact .inl (by simp [rollback, saved, journaled])

section

variable (again : ∀ content, engine.released (engine.released content) = engine.released content)
include again

theorem Sound.reject (h : d.Sound engine) (content : δ) : (d.reject engine content).Sound engine := by
  unfold Database.reject
  dsimp only
  split
  · exact ⟨h.kept, id⟩
  · refine ⟨?_, id⟩
    cases saved : d.saved with
    | none => simpa [Database.kept, saved, Database.inTransaction] using again content
    | some content =>
      have kept := h.kept
      simpa [Database.kept, saved] using kept

theorem Sound.accept (h : d.Sound engine) (content : δ) (changes : Nat) :
    (d.accept engine content changes).2.Sound engine := by
  unfold Database.accept
  split
  · rename_i saved
    refine ⟨?_, fun _ => by simp [inTransaction, saved]⟩
    have kept := h.kept
    simpa [Database.kept, saved] using kept
  · rename_i saved
    split
    · rename_i content settled
      refine ⟨?_, h.written⟩
      rw [settled_released settled]
      simpa [Database.kept, saved] using again _
    · have rejected := h.reject again content
      exact ⟨rejected.kept, rejected.written⟩

theorem Sound.control (h : d.Sound engine) (c : Control) :
    (d.control engine c).2.Sound engine := by
  rcases d.control_cases engine c with stays | ⟨idle, begins⟩ | ⟨content, which, ends⟩
  · rw [stays]
    exact h
  · rw [begins]
    have kept := h.kept
    rw [kept_of_saved idle] at kept
    exact ⟨kept, fun _ => rfl⟩
  · rw [ends]
    refine ⟨?_, nofun⟩
    rcases which with rfl | rfl
    · exact again d.content
    · exact h.kept

theorem Sound.run (h : d.Sound engine) {sql : String} (statement : engine.control? sql = none)
    (params : List Value) : (d.run engine sql params).2.Sound engine := by
  simp only [Database.run, statement]
  split
  · exact h
  · exact h.accept again _ _
  · exact h.accept again _ _
  · exact ⟨h.kept, h.written⟩
  · have rejected := h.reject again
    exact ⟨(rejected _).kept, (rejected _).written⟩
  · exact ⟨h.kept, h.written⟩
  · exact h

end

/-- A database whose transaction, if there is one, has written nothing. -/
structure Unwritten (first : δ) (d : Database δ) : Prop where
  content : d.content = first
  kept : d.kept = first
  written : d.written = false

theorem Unwritten.control {first : δ} (h : d.Unwritten first)
    (released : engine.released first = first) (c : Control) :
    (d.control engine c).2.Unwritten first := by
  rcases d.control_cases engine c with stays | ⟨-, begins⟩ | ⟨content, which, ends⟩
  · rw [stays]
    exact h
  · rw [begins]
    exact ⟨h.content, h.content, h.written⟩
  · have same : content = first := by
      rcases which with rfl | rfl
      · rw [h.content, released]
      · exact h.kept
    rw [ends]
    exact ⟨same, same, rfl⟩

/-- A transaction returns to what was there before it, and to nothing else. -/
theorem control_saved (engine : Engine δ) (d : Database δ) (c : Control) :
    (d.control engine c).2.settings = d.settings ∧
      ((d.control engine c).2.saved = none ∨ (d.control engine c).2.saved = some d.kept) := by
  rcases d.control_cases engine c with stays | ⟨idle, begins⟩ | ⟨content, -, ends⟩
  · rw [stays]
    cases saved : d.saved with
    | none => exact ⟨rfl, .inl rfl⟩
    | some first => exact ⟨rfl, .inr (by rw [kept, saved]; rfl)⟩
  · rw [begins, kept_of_saved idle]
    exact ⟨rfl, .inr rfl⟩
  · rw [ends]
    exact ⟨rfl, .inl rfl⟩

end Database

namespace Statement

/-- A statement that is not said to write reads. -/
theorem perform_reads {settings : Settings} {s : Tables} {params : List Value}
    {statement : Statement} {effect : Effect Tables}
    (reads : ∀ n ∈ statement.need? settings.readOnly, n.forWriting = false)
    (performed : statement.perform settings s params = .ok effect) :
    ∃ columns rows, effect = .rows columns rows := by
  cases statement with
  | create table columns =>
    simp only [perform] at performed
    split at performed
    · cases performed
    · rename_i writable
      simp [need?, writable] at reads
  | insert table values => cases reads _ rfl
  | delete table => cases reads _ rfl
  | control c =>
    cases performed
    exact ⟨_, _, rfl⟩
  | pragma name =>
    simp only [perform] at performed
    split at performed <;> cases performed <;> exact ⟨_, _, rfl⟩
  | count table =>
    obtain ⟨t, -, performed⟩ := Tables.bind_ok performed
    cases performed
    exact ⟨_, _, rfl⟩
  | read table columns =>
    obtain ⟨t, -, performed⟩ := Tables.bind_ok performed
    cases performed
    exact ⟨_, _, rfl⟩
  | compute items =>
    obtain ⟨values, -, performed⟩ := Tables.bind_ok performed
    cases performed
    exact ⟨_, _, rfl⟩

end Statement

namespace Tables

theorem released_released (s : Tables) : s.released.released = s.released := rfl

theorem run_reads {settings : Settings} {s : Tables} {sql : String} {params : List Value}
    {effect : Effect Tables} (reads : ∀ n ∈ s.need? settings sql params, n.forWriting = false)
    (run : engine.run settings s sql params = .ok effect) :
    ∃ columns rows, effect = .rows columns rows := by
  simp only [engine] at run
  split at run
  · cases run
  · rename_i statement understood
    obtain ⟨_, prepared, run⟩ := bind_ok run
    split at run
    · rename_i count
      refine Statement.perform_reads (fun n need => reads n ?_) run
      simpa [need?, understood, prepared, count] using need
    · cases run

/-- A statement that needs nothing to write leaves all as it is, but for the rows counted. -/
theorem run_unwritten {d : Database Tables} {sql : String} {params : List Value}
    (plain : engine.IsPlain sql)
    (reads : ∀ n ∈ d.content.need? d.settings sql params, n.forWriting = false) :
    (d.run engine sql params).2.content = d.content ∧
      (d.run engine sql params).2.written = d.written := by
  simp only [Database.run, show engine.control? sql = none from plain]
  cases run : engine.run d.settings d.content sql params with
  | error f => cases f <;> exact ⟨rfl, rfl⟩
  | ok effect =>
    obtain ⟨columns, rows, rfl⟩ := run_reads reads run
    exact ⟨rfl, rfl⟩

end Tables

namespace Cache

variable {c : Cache} {i : ConnId}

/-- Whether a database is in memory or can be written is said once. -/
theorem put_fixed (c : Cache) (i : ConnId) (d : Database Tables) :
    (c.put i d).inMemory = c.inMemory ∧ (c.put i d).readOnly = c.readOnly := by
  have writes (e : Cache) : (e.write i d).inMemory = e.inMemory ∧
      (e.write i d).readOnly = e.readOnly := by
    unfold write
    split
    · exact ⟨rfl, rfl⟩
    · split <;> exact ⟨rfl, rfl⟩
  unfold put
  split
  · exact writes c
  · exact writes (c.release i)

/-- Nobody but one user does anything with a cache. -/
structure Alone (i : ConnId) (c : Cache) : Prop where
  writer : ∀ w ∈ c.writer, w.owner = i
  locks : ∀ l ∈ c.locks, l.owner = i
  pending : c.pending = false
  kept : c.kept.released = c.kept

theorem Alone.nobody (h : c.Alone i) (idle : c.isWriter i = false) : c.writer = none := by
  cases found : c.writer with
  | none => rfl
  | some w => simp [isWriter, found, h.writer w found] at idle

theorem Alone.own (h : c.Alone i) : c.own i = c.live := by
  cases writer : c.isWriter i with
  | true => exact own_of_writer writer
  | false =>
    rw [own_of_not_writer writer, live, h.nobody writer]
    rfl

theorem Alone.unlocked (h : c.Alone i) : c.isSchemaLocked i = false := by
  refine List.any_eq_false.2 fun l mem => ?_
  simp [h.locks l mem]

theorem Alone.release (h : c.Alone i) : (c.release i).Alone i where
  writer := h.writer
  locks l mem := h.locks l (List.mem_filter.1 mem).1
  pending := by
    show (c.pending && _ && _) = false
    rw [h.pending]
    rfl
  kept := h.kept

theorem Alone.write {d : Database Tables} (h : c.Alone i) (sound : d.Sound Tables.engine) :
    (c.write i d).Alone i := by
  cases writer : c.isWriter i with
  | false => rwa [write_of_not_writer writer]
  | true =>
    cases within : d.inTransaction with
    | true =>
      rw [write_of_within writer within]
      exact ⟨fun w writes => by cases writes; rfl, h.locks, h.pending, h.kept⟩
    | false =>
      rw [write_of_ended writer within]
      have kept := Database.kept_of_saved (Database.inTransaction_eq_false.1 within)
      exact ⟨nofun, h.locks, h.pending, kept ▸ sound.kept⟩

theorem Alone.put {d : Database Tables} (h : c.Alone i) (sound : d.Sound Tables.engine) :
    (c.put i d).Alone i := by
  have puts (e : Cache) (alone : e.Alone i) :
      ({ e.write i d with journal := d.settings.journal } : Cache).Alone i := by
    obtain ⟨writer, locks, pending, kept⟩ := alone.write sound
    exact ⟨writer, locks, pending, kept⟩
  unfold Cache.put
  split
  · exact puts c h
  · exact puts _ h.release

/-- What the only user puts back is what it will find. -/
theorem Alone.finds {d : Database Tables} (h : c.Alone i) (sound : d.Sound Tables.engine)
    (saved : d.saved = none ∨ d.saved = some c.kept)
    (idle : c.isWriter i = false → d.content = c.kept ∧ d.written = false) :
    (c.put i d).own i = d.content ∧
      (if d.inTransaction then some (c.put i d).kept else none) = d.saved ∧
      (c.put i d).writer.any (·.written) = d.written := by
  have returns (kept : d.inTransaction = true → (c.put i d).kept = c.kept) :
      (if d.inTransaction then some (c.put i d).kept else none) = d.saved := by
    rcases saved with none | some
    · simp [Database.inTransaction, none]
    · have within : d.inTransaction = true := by simp [Database.inTransaction, some]
      rw [if_pos within, kept within, some]
  have own := (h.put sound).own
  -- it does not write, or writes on, or has ended its transaction
  rcases c.put_puts i d with ⟨writer, kept, same⟩ | ⟨writer, within, kept, writes⟩ |
    ⟨writer, ended, kept, nobody⟩
  · obtain ⟨content, unwritten⟩ := idle writer
    have nobody := same.trans (h.nobody writer)
    refine ⟨?_, returns fun _ => kept, ?_⟩
    · rw [own, live, nobody, content]
      exact kept
    · rw [nobody, unwritten]
      rfl
  · refine ⟨?_, returns fun _ => kept, ?_⟩
    · rw [own, live, writes]
      rfl
    · rw [writes]
      rfl
  · refine ⟨?_, returns fun within => ?_, ?_⟩
    · rw [own, live, nobody]
      exact kept
    · cases ended.symm.trans within
    · rw [nobody]
      cases written : d.written with
      | false => rfl
      | true => cases ended.symm.trans (sound.written written)

/-- Nothing is in the way of the only user. -/
theorem Alone.start (h : c.Alone i) (writes : Bool) : ∃ locks writer,
    c.start i writes = .ok { c with locks, writer } ∧ (∀ l ∈ locks, l.owner = i) ∧
      (writer = c.writer ∧ (writes = true → c.isWriter i = true) ∨
        c.writer = none ∧ writer = some { owner := i, content := c.kept }) := by
  have free : ¬((!c.isActive i || writes && !c.isWriter i) && c.pending ||
      (writes && !c.isWriter i) && c.writer.isSome) = true := by
    cases writer : c.isWriter i with
    | true => simp [h.pending]
    | false => simp [h.pending, h.nobody writer]
  refine ⟨_, _, if_neg free, fun l mem => ?_, ?_⟩
  · split at mem
    · rcases List.mem_cons.1 mem with rfl | mem
      · rfl
      · exact h.locks l mem
    · exact h.locks l mem
  · cases writer : c.isWriter i with
    | true => exact .inl ⟨by simp, fun _ => rfl⟩
    | false =>
      cases writes with
      | true => exact .inr ⟨h.nobody writer, by simp⟩
      | false => exact .inl ⟨by simp, nofun⟩

theorem lock_of_own (own : ∀ l ∈ c.locks, l.owner = i) (table : String) (forWriting : Bool) :
    ∃ locks, c.lock i table forWriting = (.ok (), { c with locks }) ∧
      ∀ l ∈ locks, l.owner = i := by
  unfold lock
  rw [List.partition_eq_filter_filter]
  dsimp only
  rw [if_neg]
  · refine ⟨_, rfl, fun l mem => ?_⟩
    rcases List.mem_cons.1 mem with rfl | mem
    · rfl
    · exact own l (List.mem_filter.1 mem).1
  · rw [Bool.not_eq_true, List.any_eq_false]
    intro l mem
    simp [own l (List.mem_filter.1 mem).1]

end Cache

namespace Seat

variable {s t : Seat} {i : ConnId} {d : Database Tables}

theorem shown_of_alone (h : s.cache.Alone i) : s.shown i = s.cache.own i := by
  unfold shown
  split
  · exact h.own.symm
  · rfl

theorem mine_sound (h : s.cache.Alone i) : (s.mine i).Sound Tables.engine where
  kept := (s.mine_kept i).symm ▸ h.kept
  written written := by
    have writer : s.cache.isWriter i = true := by
      cases writer : s.cache.isWriter i with
      | true => rfl
      | false => simp [mine, view, h.nobody writer] at written
    exact (s.mine_inTransaction i).trans (within_of_writer writer)

theorem mine_put (h : s.cache.Alone i) (sound : d.Sound Tables.engine)
    (settings : d.settings = s.settings) (saved : d.saved = none ∨ d.saved = some s.cache.kept)
    (idle : s.cache.isWriter i = false → d.content = s.cache.kept ∧ d.written = false) :
    (s.put i d).mine i = d := by
  obtain ⟨content, returns, written⟩ := h.finds sound saved idle
  have same : (s.put i d).settings = d.settings := by
    have memory : (s.cache.put i d).inMemory = d.settings.inMemory :=
      (s.cache.put_fixed i d).1.trans (congrArg Settings.inMemory settings).symm
    have readOnly : (s.cache.put i d).readOnly = d.settings.readOnly :=
      (s.cache.put_fixed i d).2.trans (congrArg Settings.readOnly settings).symm
    have unfolded : (s.put i d).settings = { d.settings with
        inMemory := (s.cache.put i d).inMemory
        readOnly := (s.cache.put i d).readOnly } := rfl
    rw [unfolded, memory, readOnly]
  have found : (s.put i d).mine i =
      { content := (s.cache.put i d).own i
        saved := if (s.put i d).inTransaction i then some (s.cache.put i d).kept else none
        written := (s.cache.put i d).writer.any (·.written)
        settings := (s.put i d).settings
        changes := d.changes } := rfl
  rw [found, put_inTransaction, content, returns, written, same]

theorem acquire_alone (h : s.cache.Alone i) (n : Need) : ∃ locks writer,
    s.acquire i n = (.ok (), { s with cache := { s.cache with locks, writer } }) ∧
      (∀ l ∈ locks, l.owner = i) ∧
      (writer = s.cache.writer ∧ (n.forWriting = true → s.cache.isWriter i = true) ∨
        s.cache.writer = none ∧ writer = some { owner := i, content := s.cache.kept }) := by
  obtain ⟨locks, writer, started, own, writes⟩ := h.start n.forWriting
  unfold acquire
  rw [started]
  dsimp only
  split
  · exact ⟨locks, writer, rfl, own, writes⟩
  · obtain ⟨locks', locked, own'⟩ :=
      Cache.lock_of_own (c := { s.cache with locks, writer }) own n.table n.forWriting
    rw [locked]
    exact ⟨locks', writer, rfl, own', writes⟩

/-- What the only user needs it gets, and finds everything as before. -/
theorem acquire_mine (h : s.cache.Alone i) (n : Need) : ∃ t, s.acquire i n = (.ok (), t) ∧
    t.cache.Alone i ∧ t.cache.kept = s.cache.kept ∧ t.settings = s.settings ∧
      t.view (s.inTransaction i) (t.shown i) = s.mine i ∧
      (t.cache.isWriter i = false → s.cache.isWriter i = false ∧ n.forWriting = false) := by
  obtain ⟨locks, writer, acquired, own, writes⟩ := acquire_alone h n
  refine ⟨_, acquired, ?_⟩
  rcases writes with ⟨rfl, already⟩ | ⟨nobody, rfl⟩
  · have alone : ({ s.cache with locks } : Cache).Alone i := ⟨h.writer, own, h.pending, h.kept⟩
    refine ⟨alone, rfl, rfl, ?_, fun idle => ⟨idle, ?_⟩⟩
    · rw [shown_of_alone alone]
      rfl
    · cases writes : n.forWriting with
      | false => rfl
      | true => cases (already writes).symm.trans idle
  · have alone : ({ s.cache with
        locks, writer := some { owner := i, content := s.cache.kept } } : Cache).Alone i :=
      ⟨by simp, own, h.pending, h.kept⟩
    have idle : s.cache.isWriter i = false := by simp [Cache.isWriter, nobody]
    refine ⟨alone, rfl, rfl, ?_, fun idle => ?_⟩
    · rw [shown_of_alone alone, mine, Cache.own_of_not_writer idle]
      simp [view, Cache.own, Cache.live, Cache.isWriter, nobody]
      rfl
    · simp [Cache.isWriter] at idle

theorem unwritten_mine (h : s.cache.Alone i) (idle : s.cache.isWriter i = false) :
    (s.mine i).Unwritten s.cache.kept where
  content := Cache.own_of_not_writer idle
  kept := s.mine_kept i
  written := by simp [mine, view, h.nobody idle]

theorem mine_saved (s : Seat) (i : ConnId) :
    (s.mine i).saved = none ∨ (s.mine i).saved = some s.cache.kept := by
  unfold mine view
  dsimp only
  split
  · exact .inr rfl
  · exact .inl rfl

theorem control_alone (h : s.cache.Alone i) (c : Control) :
    ∃ t, s.control i c = ((Tables.engine.library.control c (s.mine i)).1, t) ∧
      t.cache.Alone i ∧ t.mine i = (Tables.engine.library.control c (s.mine i)).2 := by
  have sound := (mine_sound h).control Tables.released_released c
  obtain ⟨settings, saved⟩ := Database.control_saved Tables.engine (s.mine i) c
  rw [mine_kept] at saved
  refine ⟨_, if_neg (by simp [h.unlocked]), h.put sound,
    mine_put h sound settings saved fun idle => ?_⟩
  have unwritten : ((s.mine i).control Tables.engine c).2.Unwritten s.cache.kept :=
    (unwritten_mine h idle).control h.kept c
  exact ⟨unwritten.content, unwritten.written⟩

theorem run_put (h : s.cache.Alone i) {sql : String} (plain : Tables.engine.IsPlain sql)
    (params : List Value) (alone : t.cache.Alone i) (kept : t.cache.kept = s.cache.kept)
    (settings : t.settings = s.settings)
    (reads : t.cache.isWriter i = false → s.cache.isWriter i = false ∧
      ∀ n ∈ Tables.need? s.settings (s.mine i).content sql params, n.forWriting = false) :
    (t.put i ((s.mine i).run Tables.engine sql params).2).cache.Alone i ∧
      (t.put i ((s.mine i).run Tables.engine sql params).2).mine i =
        ((s.mine i).run Tables.engine sql params).2 := by
  have sound := (mine_sound h).run Tables.released_released plain params
  have same := Database.run_same plain (s.mine i) params
  refine ⟨alone.put sound, mine_put alone sound (same.settings.trans settings.symm) ?_ fun idle => ?_⟩
  · rw [same.saved, kept]
    exact s.mine_saved i
  · obtain ⟨idle, reads⟩ := reads idle
    obtain ⟨content, written⟩ := Tables.run_unwritten (d := s.mine i) plain reads
    have unwritten := unwritten_mine h idle
    exact ⟨content.trans (unwritten.content.trans kept.symm), written.trans unwritten.written⟩

theorem run_alone (h : s.cache.Alone i) {sql : String} (plain : Tables.engine.IsPlain sql)
    (params : List Value) :
    ∃ t, s.run i sql params = ((Tables.engine.library.run sql params (s.mine i)).1, t) ∧
      t.cache.Alone i ∧ t.mine i = (Tables.engine.library.run sql params (s.mine i)).2 := by
  have shown := shown_of_alone h
  have view : s.view (s.inTransaction i) (s.shown i) = s.mine i := by rw [shown]; rfl
  unfold run
  rw [if_neg (by simp [h.unlocked]), show Tables.engine.control? sql = none from plain,
    if_neg (by simp)]
  dsimp only
  cases need : Tables.need? s.settings (s.shown i) sql params with
  | none =>
    have reads : ∀ n ∈ Tables.need? s.settings (s.mine i).content sql params,
        n.forWriting = false := by
      rw [show (s.mine i).content = s.shown i from shown.symm, need]
      nofun
    refine ⟨_, ?_, run_put h plain params h rfl rfl fun idle => ⟨idle, reads⟩⟩
    dsimp only [on]
    rw [view]
    rfl
  | some n =>
    obtain ⟨t, acquired, alone, kept, settings, view, writes⟩ := acquire_mine h n
    refine ⟨_, ?_, run_put h plain params alone kept settings fun idle => ?_⟩
    · dsimp only
      rw [acquired]
      dsimp only [on]
      rw [view]
      rfl
    · obtain ⟨idle, reads⟩ := writes idle
      refine ⟨idle, fun m needed => ?_⟩
      rw [show (s.mine i).content = s.shown i from shown.symm, need] at needed
      cases needed
      exact reads

end Seat

namespace Databases

variable {x : Databases} {i : ConnId} {d : Database Tables}

/-- A handle that nobody but its owner has to do with, and what it finds. -/
def Alone (i : ConnId) (x : Databases) (d : Database Tables) : Prop :=
  ∃ s, x.seat? i = some s ∧ s.cache.Alone i ∧ s.mine i = d

theorem Alone.shown (h : Alone i x d) : all.shown i x = d.content := by
  obtain ⟨s, found, alone, rfl⟩ := h
  simp only [all, found, Option.map_some, Option.getD_some]
  exact Seat.shown_of_alone alone

theorem Alone.at {α : Type} {missing : α} {f : Seat → α × Seat}
    {g : Database Tables → α × Database Tables} (turns : ∀ s : Seat, s.Turns i (f s).2)
    (does : ∀ s : Seat, s.cache.Alone i → ∃ t, f s = ((g (s.mine i)).1, t) ∧ t.cache.Alone i ∧
      t.mine i = (g (s.mine i)).2) (h : Alone i x d) :
    (g d).1 = (x.atSeat i missing f).1 ∧ Alone i (x.atSeat i missing f).2 (g d).2 := by
  obtain ⟨s, found, alone, rfl⟩ := h
  obtain ⟨t, done, alone', mine⟩ := does s alone
  have place := (turns s).place
  rw [done] at place
  rw [atSeat_of_seat found, done]
  exact ⟨rfl, t, seat?_putSeat found place, alone', mine⟩

/-- To its only user a database is one that nobody else has. -/
theorem twin_alone (i : ConnId) :
    Library.Twin (Alone i) Tables.engine.IsPlain (library i) Tables.engine.library where
  within := by
    rintro x d ⟨s, found, -, rfl⟩
    exact (s.mine_inTransaction i).trans (inTransaction_of_seat found).symm
  changes := by
    rintro x d ⟨s, found, -, rfl⟩
    simp only [library, found]
    rfl
  control c _ _ h := h.at (Seat.turns_control c) fun s alone => Seat.control_alone alone c
  run params _ _ plain h := h.at (Seat.turns_run _ params) fun s alone =>
    Seat.run_alone alone plain params

/-- A database that has just been made for a handle. -/
theorem alone_join {p : Place} (made : p.name?.bind (x.leave i).2.find? = none) :
    Alone i (x.join i p) { content := {}, settings := p.settings } := by
  unfold join
  dsimp only
  rw [made]
  refine ⟨⟨_, _⟩, seat?_eq_some.2 ⟨if_pos rfl, List.getElem?_concat_length⟩, ?_, rfl⟩
  exact ⟨nofun, nofun, rfl, rfl⟩

end Databases
end ConnPool.Sqlite
