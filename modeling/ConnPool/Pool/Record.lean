import ConnPool.Host
import ConnPool.Text.Shown

namespace ConnPool

/-- A fingerprint of the settings that a connection was opened under. -/
inductive TypeCode where
  | number (n : UInt64)
  | credentials (url : String) (username password : Option String)
  deriving DecidableEq

instance : Inhabited TypeCode := ⟨.number 0⟩

/-- Validity flags go by number. -/
abbrev FlagId := Nat

/-- Validity flags: the number of the next one, and those that have been revoked. A flag never
becomes valid again. -/
structure Flags where
  next : FlagId := 0
  revoked : List FlagId := []
  deriving DecidableEq

namespace Flags

def isValid (f : Flags) (i : FlagId) : Bool := !f.revoked.contains i

def revoke (f : Flags) (i : FlagId) : Flags := { f with revoked := i :: f.revoked }

def mint (f : Flags) : Flags := { f with next := f.next + 1 }

@[simp] theorem isValid_mint (f : Flags) (i : FlagId) : f.mint.isValid i = f.isValid i := rfl

@[simp] theorem isValid_revoke (f : Flags) (i j : FlagId) :
    (f.revoke i).isValid j = (j != i && f.isValid j) := by
  by_cases h : j = i <;> simp [isValid, revoke, h]

end Flags

/-- A record of one physical connection. Whenever the connection changes hands it gets a new
record with a flag of its own, and the flag of the old one is revoked. -/
structure Record where
  conn : ConnId
  /-- The number of the pooled connection, the same in all its records. -/
  id : Nat
  flag : FlagId
  typeCode : TypeCode := .number 0
  createdAt : Nat
  lastUsedAt : Nat
  checkoutAt : Nat
  deriving DecidableEq

namespace Record

def fresh (conn : ConnId) (id flag now : Nat) : Record :=
  { conn, id, flag, createdAt := now, lastUsedAt := now, checkoutAt := now }

def renew (r : Record) (flag now : Nat) : Record :=
  { r with flag, typeCode := .number 0, checkoutAt := now }

def checkedOut (r : Record) (now : Nat) : Record :=
  { r with lastUsedAt := now, checkoutAt := now }

def withTypeCode (r : Record) (t : TypeCode) : Record := { r with typeCode := t }

def shown (r : Record) (driver : String) (valid : Bool) (typeCode age : Nat) : String :=
  Text.showRecord "PooledConnection"
    [("id", Text.showNat r.id), ("driver", Text.showText driver),
     ("valid", Text.showBool valid), ("type_code", Text.showNat typeCode),
     ("age", Text.showSpan age)]

end Record
end ConnPool
