import ConnPool.Sqlite.Connection
import ConnPool.Sqlite.Uri

namespace ConnPool.Sqlite

def urlMark : String := "sqlite:"

def acceptsUrl (url : String) : Bool := urlMark.toList.isPrefixOf url.toList

/-- Drops separators and the name `.` at the end of a path that is given backwards. -/
def trimEnd : List Char → List Char
  | '/' :: rest => trimEnd rest
  | '.' :: '/' :: rest => trimEnd rest
  | path => path

def parentOf (path : List Char) : List Char :=
  let names := trimEnd path.reverse
  match (trimEnd (names.dropWhile (· != '/'))).reverse with
  | [] => if names ≠ [] ∧ path.head? = some '/' then ['/'] else []
  | parent => parent

variable {ℓ : Type} (lib : Library ℓ)

def «open» (path : String) : Action ℓ Unit := fun s =>
  if path = Uri.memoryName then
    Connection.reporting (fun text => .connection ("Failed to open in-memory database: " ++ text))
      lib.openInMemory s
  else
    let parent := parentOf path.toList
    if !Uri.isUri path && parent != [] && !lib.hasDirectory parent s then
      (.fail (.connection ("Parent directory does not exist: " ++ String.ofList parent)), s)
    else
      Connection.reporting
        (fun text => .connection ("Failed to open SQLite database at '" ++ path ++ "': " ++ text))
        (lib.openPath path) s

def configurationFault (text : String) : Failure := .error (.configuration (.other text))

def busyTimeoutOf (p : Properties) : Outcome (Option UInt64) :=
  match p.get? "busy_timeout" with
  | none => .ok none
  | some raw =>
    match Text.readUInt64 (Text.trim raw.toList) with
    | .ok ms => .ok (some ms)
    | .error _ =>
      .error (configurationFault
        ("busy_timeout must be a number of milliseconds, got '" ++ raw ++ "'"))

def foreignKeysOf (p : Properties) : Outcome Bool :=
  match (p.get? "foreign_keys").map fun raw => String.ofList (Text.trim raw.toList) with
  | none => .ok true
  | some "true" => .ok true
  | some "false" => .ok false
  | some other =>
    .error (configurationFault ("foreign_keys must be true or false, got '" ++ other ++ "'"))

def configure (p : Properties) : Action (Connection ℓ) Unit := do
  match ← .lift (busyTimeoutOf p) with
  | some ms => Connection.setBusyTimeout ms lib
  | none => pure ()
  let on ← .lift (foreignKeysOf p)
  Connection.setPragma "foreign_keys" (if on then "ON" else "OFF") lib
  match p.get? "journal_mode" with
  | some mode => Connection.setPragma "journal_mode" mode lib
  | none => pure ()

def pathOf (url : String) : Outcome String :=
  let path := String.ofList (url.toList.drop urlMark.length)
  if !acceptsUrl url then
    .error (configurationFault
      ("SQLite urls look like 'sqlite:/path/to/database.db', got '" ++ url ++ "'"))
  else if path = "" then
    .error (configurationFault
      "SQLite url is missing the database path. Use 'sqlite::memory:' for an in-memory database")
  else .ok path

/-- Opens a connection with properties. Where they cannot be applied it is let go, which closes
it. -/
def connect (url : String) (p : Properties) : Action ℓ Unit := do
  «open» lib (← .lift (pathOf url))
  fun s =>
    match configure lib p { store := s } with
    | (.ok _, c) => (.ok (), c.store)
    | (.error f, c) => (.error f, (lib.close c.store).2)

end ConnPool.Sqlite
