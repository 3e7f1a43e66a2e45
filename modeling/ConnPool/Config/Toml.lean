import ConnPool.Config.Source
import ConnPool.Text.Utf8
import ConnPool.Toml.Document

namespace ConnPool

/-- The reading of TOML documents: levels are bounded by the document itself, an array may have
more items than a record has fields, and a word as a key has an empty table or array behind it. -/
def Json.Reading.toml : Json.Reading := ⟨1000, true, Json.Tree.isEmpty⟩

def PoolConfig.ofToml (s : String) : Except Error PoolConfig :=
  ((Toml.parse s).bind (PoolConfig.ofTree? .toml)).elim (.error .toml) .ok

namespace SourceConfig

def ofToml (s : String) : Except Error SourceConfig :=
  ((Toml.parse s).bind (ofTree? .toml)).elim (.error .toml) .ok

/-- The settings in a file with these bytes; `none` is a file that does not exist. -/
def ofTomlFile : Option (List UInt8) → Except Error SourceConfig
  | none => .error (.io "No such file or directory (os error 2)")
  | some bytes =>
    match Text.Utf8.decode? bytes with
    | none => .error (.io "stream did not contain valid UTF-8")
    | some s => ofToml s

end SourceConfig
end ConnPool
