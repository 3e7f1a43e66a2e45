import ConnPool.Sqlite.Engine

namespace ConnPool.Sqlite

inductive Reply where
  | rows (columns : List Column) (rows : List (List Value))
  | done

def longestTimeout : Nat := 2147483647

/-- The library as one handle reaches it. All that it keeps, for other handles too, is a value of
`ℓ`; what fails may have done something all the same. -/
structure Library (ℓ : Type) where
  inTransaction : ℓ → Bool
  control : Control → ℓ → Except String Unit × ℓ
  run : String → List Value → ℓ → Except Fault Reply × ℓ
  changes : ℓ → Nat
  /-- Takes no time beyond `longestTimeout`. -/
  setBusyTimeout : Nat → ℓ → Except String Unit × ℓ
  setPragma : String → String → ℓ → Except String Unit × ℓ
  close : ℓ → Except String Unit × ℓ
  openInMemory : ℓ → Except String Unit × ℓ
  openPath : String → ℓ → Except String Unit × ℓ
  hasDirectory : List Char → ℓ → Bool

inductive Library.Step {ℓ : Type} (lib : Library ℓ) : ℓ → ℓ → Prop where
  | control (c : Control) (s : ℓ) : lib.Step s (lib.control c s).2
  | run (sql : String) (params : List Value) (s : ℓ) : lib.Step s (lib.run sql params s).2
  | setBusyTimeout (ms : Nat) (s : ℓ) : lib.Step s (lib.setBusyTimeout ms s).2
  | setPragma (name value : String) (s : ℓ) : lib.Step s (lib.setPragma name value s).2
  | close (s : ℓ) : lib.Step s (lib.close s).2
  | openInMemory (s : ℓ) : lib.Step s (lib.openInMemory s).2
  | openPath (path : String) (s : ℓ) : lib.Step s (lib.openPath path s).2

end ConnPool.Sqlite
