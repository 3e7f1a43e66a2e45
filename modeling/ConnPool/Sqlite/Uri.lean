import ConnPool.Sqlite.Engine
import ConnPool.Text.Utf8

namespace ConnPool.Sqlite

inductive AccessMode where
  | readOnly
  | readWrite
  | create
  | memory
  deriving DecidableEq

namespace AccessMode

def ofText? : String → Option AccessMode
  | "ro" => some readOnly
  | "rw" => some readWrite
  | "rwc" => some create
  | "memory" => some memory
  | _ => none

def rights : AccessMode → Nat
  | memory => 0
  | readOnly => 1
  | readWrite => 2
  | create => 3

def allows (m other : AccessMode) : Bool := m == memory || other.rights ≤ m.rights

end AccessMode

structure Place where
  settings : Settings := {}
  /-- The name by which the database is shared, and the system that it belongs to. -/
  name? : Option (String × String) := none

/-- A database by the name of its file, which may be empty, and with options in order. -/
structure Uri where
  file : String
  options : List (String × String) := []

namespace Uri

def mark : String := "file:"

def memoryName : String := ":memory:"

def isUri (path : String) : Bool := mark.toList.isPrefixOf path.toList

/-- The bytes that a text stands for, where `%` and two hexadecimal digits stand for one. A byte 0
ends them. -/
def unescape : List Char → List UInt8
  | [] => []
  | '%' :: high :: low :: rest =>
    match Json.hexValue? high, Json.hexValue? low with
    | some h, some l =>
      if h * 16 + l = 0 then [] else UInt8.ofNat (h * 16 + l) :: unescape rest
    | _, _ => UInt8.ofNat '%'.toNat :: unescape (high :: low :: rest)
  | c :: rest => (String.singleton c).toUTF8.toList ++ unescape rest

def text (s : List Char) : String := Text.Utf8.decodeLossy (unescape s)

def splitOnce (mark : Char) (s : List Char) : List Char × List Char :=
  (s.takeWhile (· != mark), (s.dropWhile (· != mark)).drop 1)

def splitAt (mark : Char) : List Char → List (List Char)
  | [] => [[]]
  | c :: rest =>
    if c = mark then [] :: splitAt mark rest
    else
      match splitAt mark rest with
      | [] => [[c]]
      | part :: parts => (c :: part) :: parts

/-- Whether a directory is there for sure, because its path names no other than the root, the
current one and those above. -/
def isKnownDirectory (path : List Char) : Bool :=
  (splitAt '/' path).all [[], ['.'], ['.', '.']].contains

/-- What stands behind the host, if one is named. It has to be the local one. -/
def withoutHost : List Char → Except String (List Char)
  | '/' :: '/' :: rest =>
    let host := rest.takeWhile (· != '/')
    if host = [] ∨ host = "localhost".toList then .ok (rest.drop host.length)
    else .error ("invalid uri authority: " ++ String.ofList host)
  | s => .ok s

/-- Options stand behind `?`, with `&` between them; those without a name do not count. Whatever
follows `#` is left out. -/
def ofPath (path : String) : Except String Uri := do
  if isUri path then
    let s ← withoutHost (path.toList.drop mark.length)
    let (file, query) := splitOnce '?' (splitOnce '#' s).1
    let options := (splitAt '&' query).map fun option =>
      (text (splitOnce '=' option).1, text (splitOnce '=' option).2)
    .ok ⟨text file, options.filter (·.1 != "")⟩
  else .ok { file := path }

def systems : List String := ["unix", "unix-none", "unix-dotfile", "unix-excl", "memdb"]

def applyOption (m : AccessMode) (option : String × String) : Except String AccessMode :=
  match option with
  | ("mode", value) =>
    match AccessMode.ofText? value with
    | none => .error ("no such access mode: " ++ value)
    | some other =>
      if m.allows other then .ok other else .error ("access mode not allowed: " ++ value)
  | ("cache", value) =>
    if ["shared", "private"].contains value then .ok m
    else .error ("no such cache mode: " ++ value)
  | _ => .ok m

/-- Whether databases of that name are one for all of the process, where the option `vfs` says
`memdb`. -/
def isGlobal : List Char → Bool
  | c :: _ :: _ => c == '/' || c == '\\'
  | _ => false

/-- How the database is opened; none where it is in a file. A database without a name is temporary,
has a journal like one in a file, and is not shared. Directories other than the root can be opened
for reading, but not read. -/
def place? (u : Uri) : Except String (Option Place) := do
  let mode ← u.options.foldlM applyOption .create
  let system := (u.options.reverse.lookup "vfs").getD "unix"
  let readOnly := mode == .readOnly
  let shared := u.options.reverse.lookup "cache" == some "shared" && u.file != ""
  let name? := if shared then some (u.file, system) else none
  if !systems.contains system then .error ("no such vfs: " ++ system)
  else if mode = .memory ∨ u.file = memoryName then .ok (some { settings := { readOnly }, name? })
  else if u.file = "" then
    .ok (some { settings := { readOnly, inMemory := false, journal := .delete } })
  else if system = "memdb" then
    if isGlobal u.file.toList then .ok none
    else .ok (some { settings := { readOnly, inMemory := false }, name? })
  else if readOnly && isKnownDirectory u.file.toList && !u.file.startsWith "/" then
    .error "disk I/O error"
  else .ok none

end Uri

def nulPlace? (path : String) : Option Nat :=
  let before := path.toList.takeWhile (· != '\x00')
  if before = path.toList then none else some (String.ofList before).utf8ByteSize

/-- Why the path of a database cannot be opened, or what it leads to. Databases in files cannot. -/
def placeOf (path : String) : Except String Place :=
  match nulPlace? path with
  | some i => .error ("nul byte found in provided data at position: " ++ Text.showNat i)
  | none => do
    match ← (← Uri.ofPath path).place? with
    | some place => .ok place
    | none => .error ("unable to open database file: " ++ path)

end ConnPool.Sqlite
