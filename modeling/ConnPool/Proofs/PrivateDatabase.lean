import ConnPool.Proofs.Transactions
import ConnPool.Sqlite.Private

namespace ConnPool.Sqlite

variable {δ : Type}

namespace Database

variable {engine : Engine δ} {d d' : Database δ} {sql : String} {params : List Value}

/-- The content once the open transaction, if there is one, is taken back. -/
def kept (d : Database δ) : δ := d.saved.getD d.content

theorem kept_of_saved (h : d.saved = none) : d.kept = d.content := by rw [kept, h]; rfl

theorem inTransaction_eq_false : d.inTransaction = false ↔ d.saved = none := by
  simp [inTransaction]

theorem begin_kept (d : Database δ) : d.begin.kept = d.kept := by
  cases h : d.saved <;> simp [begin, kept, h]

theorem begin_content (d : Database δ) : d.begin.content = d.content := by
  cases h : d.saved <;> simp [begin, h]

theorem begin_settings (d : Database δ) : d.begin.settings = d.settings := by
  cases h : d.saved <;> simp [begin, h]

theorem rollback_saved (engine : Engine δ) (d : Database δ) : (d.rollback engine).saved = none := by
  cases h : d.saved <;> simp [rollback, h]

theorem rollback_settings (engine : Engine δ) (d : Database δ) :
    (d.rollback engine).settings = d.settings := by
  cases h : d.saved <;> simp [rollback, h]

theorem rollback_content (engine : Engine δ) (h : d.settings.journaled = true) :
    (d.rollback engine).content = d.kept := by
  cases hs : d.saved <;> simp [rollback, kept, hs, h]

theorem commit_saved (h : d.commit engine = .ok d') : d'.saved = none := by
  simpa [inTransaction] using inTransaction_of_commit engine h

/-- Two databases between which a transaction neither began nor ended. -/
structure SameTransaction (d d' : Database δ) : Prop where
  saved : d'.saved = d.saved
  settings : d'.settings = d.settings

theorem reject_same (engine : Engine δ) (d : Database δ) (content : δ) :
    d.SameTransaction (d.reject engine content) := by
  unfold reject
  dsimp only
  split <;> exact ⟨rfl, rfl⟩

theorem accept_same (engine : Engine δ) (d : Database δ) (content : δ) (changes : Nat) :
    d.SameTransaction (d.accept engine content changes).2 := by
  unfold accept
  split
  · exact ⟨rfl, rfl⟩
  · split
    · exact ⟨rfl, rfl⟩
    · exact ⟨(reject_same engine d content).saved, (reject_same engine d content).settings⟩

/-- A statement leaves the transaction open or closed, as it is, unless it asks for something
else. -/
theorem run_same (h : engine.control? sql = none) (d : Database δ) (params : List Value) :
    d.SameTransaction (d.run engine sql params).2 := by
  simp only [run, h]
  split
  · exact ⟨rfl, rfl⟩
  · exact accept_same engine d _ _
  · exact accept_same engine d _ _
  · exact ⟨rfl, rfl⟩
  · exact ⟨(reject_same engine d _).saved, (reject_same engine d _).settings⟩
  · exact ⟨rfl, rfl⟩
  · exact ⟨rfl, rfl⟩

theorem SameTransaction.inTransaction (h : d.SameTransaction d') :
    d'.inTransaction = d.inTransaction := by
  rw [Database.inTransaction, h.saved, Database.inTransaction]

theorem SameTransaction.kept (h : d.SameTransaction d') (opened : d.inTransaction = true) :
    d'.kept = d.kept := by
  obtain ⟨content, saved⟩ := Option.isSome_iff_exists.1 opened
  rw [Database.kept, Database.kept, h.saved, saved]
  rfl

theorem control_begin (h : d.saved = none) : d.control engine .begin = (.ok (), d.begin) := by
  simp [control, h]

/-- How an open transaction is ended: it is committed, rolled back, or stays as it is. -/
theorem control_ends (engine : Engine δ) {c : Control} (ne : c ≠ .begin) (opened : d.inTransaction = true) :
    (c = .commit ∧ ∃ d', d.commit engine = .ok d' ∧ d.control engine c = (.ok (), d')) ∨
    (c = .commit ∧ ∃ text, d.control engine c = (.error text, d)) ∨
    (c = .rollback ∧ d.control engine c = (.ok (), d.rollback engine)) := by
  obtain ⟨content, saved⟩ := Option.isSome_iff_exists.1 opened
  cases c with
  | begin => exact absurd rfl ne
  | commit =>
    cases committed : d.commit engine with
    | ok d' => exact .inl ⟨rfl, d', rfl, by simp [control, saved, committed]⟩
    | error text => exact .inr (.inl ⟨rfl, text, by simp [control, saved, committed]⟩)
  | rollback => exact .inr (.inr ⟨rfl, by simp [control, saved]⟩)

theorem readUncommitted_journaled (d : Database δ) (value : String) :
    (Pragma.set d "read_uncommitted" value).journaled = d.settings.journaled := by
  have name : "read_uncommitted".toLower = "read_uncommitted" := by decide +kernel
  rw [Pragma.set, name]
  rfl

end Database

namespace Engine

variable (engine : Engine δ)

/-- What can be told of a database that nobody else has. -/
def observer (δ : Type) : Observer (Database δ) δ where
  own := Database.content
  committed := Database.kept
  journaled d := d.settings.journaled = true

/-- A statement is plain unless it opens or ends a transaction. -/
def IsPlain (sql : String) : Prop := engine.control? sql = none

instance : DecidablePred engine.IsPlain := fun sql =>
  inferInstanceAs (Decidable (engine.control? sql = none))

theorem observer_clean (lib : Library (Database δ))
    (within : lib.inTransaction = Database.inTransaction) (d : Database δ) :
    (observer δ).Clean lib d := by
  intro idle
  rw [within, Database.inTransaction_eq_false] at idle
  exact (Database.kept_of_saved idle).symm

/-- Setting a switch does nothing to the content. -/
theorem setPragma_content (name value : String) (d : Database δ) :
    (engine.library.setPragma name value d).2.content = d.content ∧
      (engine.library.setPragma name value d).2.saved = d.saved := by
  simp only [library]
  split <;> exact ⟨rfl, rfl⟩

theorem transacts : engine.library.Transacts (observer δ) engine.IsPlain where
  begins {d d'} idle begun := by
    rw [show engine.library.control .begin d = _ from
      Database.control_begin (Database.inTransaction_eq_false.1 idle)] at begun
    rw [← (Prod.mk.inj begun).2]
    exact d.inTransaction_begin
  begins_same {d} idle := by
    rw [show engine.library.control .begin d = _ from
      Database.control_begin (Database.inTransaction_eq_false.1 idle)]
    exact ⟨d.begin_content, d.begin_kept, by simp [observer, d.begin_settings]⟩
  ends {c d t} ne within ended := by
    rcases Database.control_ends engine ne within with
      ⟨-, d', committed, control⟩ | ⟨-, text, control⟩ | ⟨-, control⟩
    · obtain ⟨-, rfl⟩ := Prod.mk.inj (control.symm.trans ended)
      exact Database.inTransaction_eq_false.2 (Database.commit_saved committed)
    · cases (Prod.mk.inj (control.symm.trans ended)).1
    · obtain ⟨-, rfl⟩ := Prod.mk.inj (control.symm.trans ended)
      exact d.inTransaction_rollback engine
  ends_clean _ _ := observer_clean _ rfl _
  ends_kept {c d r t} ne within journaled ended failed := by
    rcases Database.control_ends engine ne within with
      ⟨commit, d', -, control⟩ | ⟨-, text, control⟩ | ⟨-, control⟩
    · exact absurd (Prod.mk.inj (control.symm.trans ended)).1.symm (failed commit)
    · obtain ⟨-, rfl⟩ := Prod.mk.inj (control.symm.trans ended)
      rfl
    · obtain ⟨-, rfl⟩ := Prod.mk.inj (control.symm.trans ended)
      exact (Database.kept_of_saved (d.rollback_saved engine)).trans
        (Database.rollback_content engine journaled)
  runs {sql params d r t} plain within run := by
    have same := Database.run_same plain d params
    rw [show d.run engine sql params = _ from run] at same
    exact same.inTransaction.trans within
  runs_clean _ _ := observer_clean _ rfl _
  runs_kept {sql params d} plain within _ := (Database.run_same plain d params).kept within
  runs_alone {sql params d} plain idle := (Database.run_same plain d params).inTransaction.trans idle
  waits _ _ := rfl
  waits_same _ _ := ⟨rfl, rfl, .rfl⟩
  isolates value d := by
    show (engine.library.setPragma _ value d).2.saved.isSome = _
    rw [(engine.setPragma_content _ value d).2]
    rfl
  isolates_same value d := by
    obtain ⟨content, saved⟩ := engine.setPragma_content "read_uncommitted" value d
    refine ⟨content, ?_, ?_⟩
    · simp only [observer, Database.kept, content, saved]
    · simp only [observer, library]
      split
      · rw [Database.readUncommitted_journaled]
      · rfl

end Engine
end ConnPool.Sqlite
