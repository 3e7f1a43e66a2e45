import ConnPool.Sqlite.Tables

namespace ConnPool.Sqlite

/-- The content that a statement leaves behind, where it is a new one that may stay. -/
def Effect.content? {δ : Type} : Effect δ → Option δ
  | .defined content | .changed content _ => some content
  | _ => none

/-- Whatever a plain statement leaves behind when it succeeds could be committed as it is: nothing
is left to be checked later. -/
structure Engine.ChecksAtOnce {δ : Type} (engine : Engine δ) (plain : String → Prop)
    (fit : δ → Prop) : Prop where
  empty : fit engine.empty
  settled : ∀ content, fit content → engine.settled content = .ok content
  no_control : ∀ sql, plain sql → engine.control? sql = none
  run : ∀ settings content sql params effect content', plain sql → fit content →
    engine.run settings content sql params = .ok effect → effect.content? = some content' →
    fit content'

/-- Whether a statement neither opens nor ends a transaction, nor makes references that are checked
only when one ends. -/
def Statement.isPlain : Statement → Bool
  | .control _ => false
  | .create _ columns => columns.all fun c => c.parent.all fun p => !p.deferred
  | _ => true

namespace Tables

def isPlain (sql : String) : Bool := (Statement.ofSql? sql).all Statement.isPlain

def ChecksAtOnce (t : Table) : Prop := ∀ r ∈ references t, r.2.deferred = false

/-- No reference waits for its row. -/
structure Fit (s : Tables) : Prop where
  settled : s.dangling = 0
  at_once : ∀ t ∈ s.tables, ChecksAtOnce t

theorem bind_ok {ε α β : Type} {x : Except ε α} {f : α → Except ε β} {b : β}
    (h : x >>= f = .ok b) : ∃ a, x = .ok a ∧ f a = .ok b := by
  cases x with
  | error e => cases h
  | ok a => exact ⟨a, rfl, h⟩

variable {s s' : Tables} {settings : Settings} {t t' : Table} {row : List Value}
  {params : List Value}

theorem references_of_columns (h : t'.columns = t.columns) : references t' = references t := by
  rw [references, references, h]

/-- A table as it is defined. -/
theorem checksAtOnce_of_plain {name : String} {columns : List ColumnDef}
    (h : (Statement.create name columns).isPlain = true) : ChecksAtOnce { name, columns } := by
  intro r hr
  obtain ⟨⟨c, i⟩, hc, hr⟩ := List.mem_filterMap.mp hr
  obtain ⟨p, hp, rfl⟩ := Option.map_eq_some_iff.mp hr
  have hplain := List.all_eq_true.mp h c (List.fst_mem_of_mem_zipIdx hc)
  simpa [hp] using hplain

theorem Fit.put (h : s.Fit) (ht : ChecksAtOnce t) : (s.put t).Fit where
  settled := h.settled
  at_once o ho := by
    obtain ⟨u, hu, rfl⟩ := List.mem_map.mp ho
    split
    · exact ht
    · exact h.at_once u hu

/-- What refers to a table is not checked later either. -/
theorem Fit.referring (h : s.Fit) {name : String} {numbers : List Int64} :
    ∀ r ∈ s.referring name numbers, r.1.deferred = false := by
  intro r hr
  obtain ⟨t, ht, hr⟩ := List.mem_flatMap.mp hr
  obtain ⟨⟨i, p⟩, hp, rfl⟩ := List.mem_map.mp hr
  exact h.at_once t ht _ (List.mem_filter.mp hp).1

theorem Fit.table (h : s.Fit) {name : String} (ht : s.table name = .ok t) : ChecksAtOnce t := by
  unfold Tables.table at ht
  split at ht
  · rename_i u hu
    obtain rfl := Except.ok.inj ht
    exact h.at_once u (List.mem_of_find?_eq_some hu)
  · cases ht

theorem withRow_columns {number : Option Int64} (h : withRow t row = .ok (t', number)) :
    t'.columns = t.columns := by
  unfold withRow at h
  split at h
  · obtain ⟨rfl, -⟩ := Prod.mk.inj (Except.ok.inj h)
    rfl
  · dsimp only at h
    split at h
    all_goals
      obtain ⟨n, -, h⟩ := bind_ok h
      split at h
      · cases h
      · obtain ⟨rfl, -⟩ := Prod.mk.inj (Except.ok.inj h)
        rfl

/-- A row whose references find no row does not come to a table, so that nothing is owed. -/
theorem Fit.balanceInserted (h : s.Fit) (ht : ChecksAtOnce t) {number : Option Int64} {n : Int}
    (hn : s.balanceInserted t row number = .ok n) : n = 0 := by
  unfold Tables.balanceInserted at hn
  dsimp only at hn
  split at hn
  · cases hn
  · rename_i hlost
    have hnone : (references t).filter (fun r => !s.refers r.2 (row[r.1]?.getD .null)) = [] := by
      refine List.eq_nil_iff_forall_not_mem.mpr fun r hr => hlost ?_
      exact List.any_eq_true.mpr ⟨r, hr, by simp [ht r (List.mem_filter.mp hr).1]⟩
    have hwaiting : (s.referring t.name number.toList).filter (·.1.deferred) = [] :=
      List.filter_eq_nil_iff.mpr fun r hr => by simp [h.referring r hr]
    rw [hnone, hwaiting] at hn
    have hzero := Except.ok.inj hn
    simpa [h.settled] using hzero.symm

theorem Fit.insert (h : s.Fit) (ht : ChecksAtOnce t) (hs : s.insert settings t row = .ok s') :
    s'.Fit := by
  obtain ⟨⟨t', number⟩, hrow, hs⟩ := bind_ok hs
  have ht' : ChecksAtOnce t' := by
    rw [ChecksAtOnce, references_of_columns (withRow_columns hrow)]
    exact ht
  have hput := h.put ht'
  dsimp only at hs
  split at hs
  · obtain ⟨n, hn, hs⟩ := bind_ok hs
    obtain rfl := Except.ok.inj hs
    exact ⟨hput.balanceInserted ht' hn, hput.at_once⟩
  · obtain rfl := Except.ok.inj hs
    exact hput

theorem foldl_found {xs : List (Parent × Nat)} (h : ∀ x ∈ xs, x.2 = 0) (n : Int) :
    xs.foldl (fun n (_, found) => n + found) n = n := by
  induction xs generalizing n with
  | nil => rfl
  | cons x xs ih =>
    obtain ⟨p, found⟩ := x
    have hzero : found = 0 := h _ List.mem_cons_self
    rw [List.foldl_cons, ih fun y hy => h y (List.mem_cons_of_mem _ hy), hzero]
    exact Int.add_zero n

theorem Fit.clear (h : s.Fit) (ht : ChecksAtOnce t)
    (hs : (s.clear settings t).content? = some s') : s'.Fit := by
  have hput : (s.put { t with rows := [] }).Fit := h.put ht
  unfold Tables.clear at hs
  dsimp only at hs
  split at hs
  · split at hs
    · cases hs
    · split at hs
      · cases hs
      · rename_i hleft
        obtain rfl := Option.some.inj hs
        refine ⟨?_, hput.at_once⟩
        have hgiven : (references t).filter (·.2.deferred) = [] :=
          List.filter_eq_nil_iff.mpr fun r hr => by simp [ht r hr]
        refine (foldl_found (fun r hr => ?_) _).trans ?_
        · have hsmall := List.any_eq_false.mp (Bool.eq_false_iff.mpr hleft) r hr
          simpa [hput.referring r hr] using hsmall
        · have hfreed : t.rows.flatMap (fun _ => ([] : List (Nat × Parent))) = [] :=
            List.flatMap_eq_nil_iff.mpr fun _ _ => rfl
          simp [hgiven, hfreed, h.settled]
  · cases hs
    exact hput

end Tables

namespace Statement

variable {settings : Settings} {s s' : Tables} {params : List Value} {effect : Effect Tables}

theorem perform_fit {statement : Statement} (h : s.Fit) (hp : statement.isPlain = true)
    (he : statement.perform settings s params = .ok effect) (hs : effect.content? = some s') :
    s'.Fit := by
  cases statement with
  | control c => cases hp
  | pragma name =>
    simp only [perform] at he
    split at he <;> cases he <;> cases hs
  | create table columns =>
    simp only [perform] at he
    split at he
    · cases he
    · cases he
      obtain rfl := Option.some.inj hs
      refine ⟨h.settled, fun t ht => ?_⟩
      rcases List.mem_append.mp ht with ht | ht
      · exact h.at_once t ht
      · obtain rfl := List.mem_singleton.mp ht
        exact Tables.checksAtOnce_of_plain hp
  | insert table values =>
    obtain ⟨row, -, he⟩ := Tables.bind_ok he
    obtain ⟨t, ht, he⟩ := Tables.bind_ok he
    obtain ⟨content, hcontent, he⟩ := Tables.bind_ok he
    cases he
    obtain rfl := Option.some.inj hs
    exact h.insert (h.table ht) hcontent
  | delete table =>
    obtain ⟨t, ht, he⟩ := Tables.bind_ok he
    obtain rfl := Except.ok.inj he
    exact h.clear (h.table ht) hs
  | count table =>
    obtain ⟨t, -, he⟩ := Tables.bind_ok he
    cases he
    cases hs
  | read table columns =>
    obtain ⟨t, -, he⟩ := Tables.bind_ok he
    cases he
    cases hs
  | compute items =>
    obtain ⟨values, -, he⟩ := Tables.bind_ok he
    cases he
    cases hs

end Statement

namespace Tables

theorem run_of_statement {settings : Settings} {s : Tables} {sql : String} {params : List Value}
    {effect : Effect Tables} (h : engine.run settings s sql params = .ok effect) :
    ∃ statement, Statement.ofSql? sql = some statement ∧
      statement.perform settings s params = .ok effect := by
  simp only [engine] at h
  split at h
  · cases h
  · rename_i statement hstatement
    obtain ⟨-, -, h⟩ := bind_ok h
    split at h
    · exact ⟨statement, hstatement, h⟩
    · cases h

/-- The engine of these tables checks plain statements at once. -/
theorem engine_checksAtOnce : engine.ChecksAtOnce (fun sql => isPlain sql = true) Fit where
  empty := ⟨rfl, nofun⟩
  settled s h := by
    obtain ⟨tables, dangling⟩ := s
    obtain rfl : dangling = 0 := h.settled
    rfl
  no_control sql h := by
    unfold isPlain at h
    simp only [engine]
    split
    · rename_i c hc
      rw [hc] at h
      cases h
    · rfl
  run settings s sql params effect s' hp h hr hs := by
    obtain ⟨statement, hstatement, hperform⟩ := run_of_statement hr
    rw [isPlain, hstatement] at hp
    exact Statement.perform_fit h hp hperform hs

end Tables

end ConnPool.Sqlite
