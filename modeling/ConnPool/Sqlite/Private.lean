import ConnPool.Sqlite.Connection
import ConnPool.Sqlite.Pragma
import ConnPool.Sqlite.Uri

namespace ConnPool.Sqlite

variable {δ : Type}

/-- The library as the only handle of a database reaches it. -/
def Engine.library (engine : Engine δ) : Library (Database δ) where
  inTransaction := Database.inTransaction
  control c d := d.control engine c
  run sql params d := d.run engine sql params
  changes := Database.changes
  setBusyTimeout ms d := (.ok (), { d with settings := { d.settings with busyTimeout := ms } })
  setPragma name value d :=
    match Pragma.fault? name value with
    | none => (.ok (), { d with settings := Pragma.set d name value })
    | some text => (.error text, d)
  close d := (.ok (), d.rollback engine)
  openInMemory _ := (.ok (), { content := engine.empty })
  openPath path d :=
    match placeOf path with
    | .ok place => (.ok (), { content := engine.empty, settings := place.settings })
    | .error text => (.error text, d)
  hasDirectory path _ := Uri.isKnownDirectory path

def Connection.ofEngine (engine : Engine δ) (settings : Settings) : Connection (Database δ) :=
  { store := { content := engine.empty, settings } }

end ConnPool.Sqlite
