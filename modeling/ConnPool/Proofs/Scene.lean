import ConnPool.Pool.Desk
import ConnPool.Proofs.Ledger
import Mathlib.Logic.Relation

namespace ConnPool

inductive Hand where
  /-- Records on their way out. None are left between two operations. -/
  | out (rs : List Record)
  /-- A connection just opened, before the pool takes it on. -/
  | opened (c : ConnId)
  /-- A record that nobody holds. -/
  | free (r : Record)
  /-- A record taken from its holder, who knows nothing of it. -/
  | claimed (r : Record)
  /-- A record that its holder gave back. -/
  | returned (r : Record)
  /-- A connection whose record is revoked, ahead of other records on their way out. -/
  | retired (c : ConnId) (rs : List Record)

namespace Hand

abbrev empty : Hand := .out []

def records : Hand → List Record
  | .out rs | .retired _ rs => rs
  | .opened _ => []
  | .free r | .claimed r | .returned r => [r]

def taken : Hand → List Record
  | .claimed r | .returned r => [r]
  | _ => []

def conns : Hand → List ConnId
  | .out rs => rs.map (·.conn)
  | .opened c => [c]
  | .free r | .claimed r | .returned r => [r.conn]
  | .retired c rs => c :: rs.map (·.conn)

def current? : Hand → Option ConnId
  | .out _ => none
  | .opened c | .retired c _ => some c
  | .free r | .claimed r | .returned r => some r.conn

def unheld : Hand → List ConnId
  | .opened c => [c]
  | .free r => [r.conn]
  | _ => []

def size : Hand → Nat
  | .opened _ | .free _ | .claimed _ | .returned _ => 1
  | _ => 0

theorem records_of_taken {h : Hand} {r : Record} (ht : h.taken = [r]) : h.records = [r] := by
  cases h <;> simp_all [records, taken]

theorem mem_records_of_taken {h : Hand} {r : Record} (hr : r ∈ h.taken) : r ∈ h.records := by
  cases h <;> simp_all [records, taken]

theorem current?_mem {h : Hand} {c : ConnId} (hc : h.current? = some c) : c ∈ h.conns := by
  cases h <;> simp_all [current?, conns]

end Hand

/-- Giving back a lease leaves what was granted as it is. -/
theorem Lease.grants_modify (ls : List Lease) (i : Nat) :
    (ls.modify i fun l => { l with released := true }).map (·.grant) = ls.map (·.grant) := by
  apply List.ext_getElem?
  intro j
  simp only [List.getElem?_map, List.getElem?_modify]
  cases ls[j]? <;> simp
  split <;> rfl

/-- What the invariants of a pool speak of: its records, its flags and its settings, the leases on
its connections, the ledger, and what is in hand. -/
structure Scene where
  idle : List Record
  active : List Record
  flags : Flags
  source : Source
  config : PoolConfig
  expected : TypeCode
  leases : List Lease
  ledger : Ledger
  hand : Hand

namespace Scene

def records (x : Scene) : List Record := x.hand.records ++ (x.idle ++ x.active)

def conns (x : Scene) : List ConnId := x.hand.conns ++ (x.idle ++ x.active).map (·.conn)

/-- The connections that no lease may reach. -/
def unheld (x : Scene) : List ConnId := x.hand.unheld ++ x.idle.map (·.conn)

def grants (x : Scene) : List Grant := x.leases.map (·.grant)

def isValid (x : Scene) (l : Lease) : Bool := x.flags.isValid l.grant.flag

def write (x : Scene) (e : Entry) : Scene := { x with ledger := e :: x.ledger }

def markReleased (x : Scene) (i : Nat) : Scene :=
  { x with leases := x.leases.modify i fun l => { l with released := true } }

theorem grants_markReleased (x : Scene) (i : Nat) : (x.markReleased i).grants = x.grants :=
  Lease.grants_modify x.leases i

end Scene

/-- A drain takes the records in the opposite order. -/
theorem drained_perm (idle active : List Record) :
    (active.reverse ++ idle.reverse).Perm (idle ++ active) := by
  rw [← List.reverse_append]
  exact List.reverse_perm _

/-- One move of a pool. Clock readings, counters and waits make no difference here, and the
connections answer as they like. -/
inductive Move : Scene → Scene → Prop where
  | takeIdle {x : Scene} (r : Record) (rest : List Record) (empty : x.hand = .empty)
      (front : x.idle = r :: rest) : Move x { x with idle := rest, hand := .free r }
  | «open» {x : Scene} (c : ConnId) (driver url : String) (properties : Properties)
      (empty : x.hand = .empty) (none_idle : x.idle = [])
      (room : x.active.length < x.config.maxActive.toNat) :
      Move x { x.write ⟨.pool, c, .opened driver url properties⟩ with hand := .opened c }
  /-- A connection could not be configured. -/
  | forsake {x : Scene} (c : ConnId) (hand : x.hand = .opened c) :
      Move x { x with hand := .empty }
  | wrap {x : Scene} (c : ConnId) (id now : Nat) (hand : x.hand = .opened c) :
      Move x { x.write ⟨.pool, c, .numbered⟩ with
        flags := x.flags.mint, hand := .free (.fresh c id x.flags.next now) }
  /-- The oldest checkout is overdue. -/
  | claim {x : Scene} (r : Record) (rest : List Record) (empty : x.hand = .empty)
      (front : x.active = r :: rest) : Move x { x with active := rest, hand := .claimed r }
  /-- A lease is given back, and the pool finds its record. -/
  | takeBack {x : Scene} (i : Nat) (l : Lease) (r : Record) (empty : x.hand = .empty)
      (lease : x.leases[i]? = some l) (unreleased : l.released = false)
      (found : x.active.find? (·.flag == l.grant.flag) = some r) :
      Move x { x.markReleased i with
        active := x.active.eraseP (·.flag == l.grant.flag), hand := .returned r }
  /-- A lease is given back whose record the pool does not have any more. -/
  | stale {x : Scene} (i : Nat) (l : Lease) (empty : x.hand = .empty)
      (lease : x.leases[i]? = some l) (unreleased : l.released = false)
      (missing : ∀ r ∈ x.active, r.flag ≠ l.grant.flag) : Move x (x.markReleased i)
  /-- The pool speaks to the connection in hand. -/
  | contact {x : Scene} (e : Entry) (current : x.hand.current? = some e.conn)
      (byPool : e.party = .pool) (contact : e.deed.isContact = true) : Move x (x.write e)
  /-- The holder of a lease speaks to its connection. -/
  | use {x : Scene} (e : Entry) (l : Lease) (empty : x.hand = .empty) (lease : l ∈ x.leases)
      (valid : x.isValid l = true) (conn : e.conn = l.grant.conn) (byHolder : e.party = .holder)
      (contact : e.deed.isContact = true) : Move x (x.write e)
  /-- A record that came from its holder is replaced by one with a flag of its own. -/
  | renew {x : Scene} (r : Record) (now : Nat) (hand : x.hand.taken = [r]) :
      Move x { x with
        flags := x.flags.mint.revoke r.flag, hand := .free (r.renew x.flags.next now) }
  | grant {x : Scene} (r : Record) (code : TypeCode) (now : Nat) (hand : x.hand = .free r)
      (kept : x.ledger.parted r.conn = false) :
      Move x { x with
        active := x.active ++ [(r.withTypeCode code).checkedOut now]
        leases := x.leases ++ [⟨⟨r.conn, r.id, r.flag⟩, false⟩], hand := .empty }
  | keep {x : Scene} (r : Record) (hand : x.hand = .free r)
      (kept : x.ledger.parted r.conn = false) (room : x.idle.length < x.config.maxIdle.toNat) :
      Move x { x with idle := x.idle ++ [r], hand := .empty }
  /-- A record that was found bad is left alone; its flag stays as it is. -/
  | reject {x : Scene} (r : Record) (hand : x.hand = .free r ∨ x.hand = .returned r)
      (parted : x.flags.isValid r.flag = true → x.ledger.parted r.conn = true) :
      Move x { x with hand := .empty }
  /-- A connection that came back is not kept. -/
  | retire {x : Scene} (r : Record) (hand : x.hand = .returned r) :
      Move x { x with flags := x.flags.revoke r.flag, hand := .retired r.conn [] }
  /-- All connections are on their way out, and settings may change. -/
  | clear {x : Scene} (source : Source) (config : PoolConfig) (empty : x.hand = .empty) :
      Move x { x with
        idle := [], active := [], source, config, expected := source.typeCode
        hand := .out (x.active.reverse ++ x.idle.reverse) }
  | revoke {x : Scene} (r : Record) (rest : List Record) (hand : x.hand = .out (r :: rest)) :
      Move x { x with flags := x.flags.revoke r.flag, hand := .retired r.conn rest }
  | dismiss {x : Scene} (c : ConnId) (rest : List Record) (hand : x.hand = .retired c rest)
      (parted : x.ledger.parted c = true) : Move x { x with hand := .out rest }

abbrev Path : Scene → Scene → Prop := Relation.ReflTransGen Move

/-- Entries are only ever added to the ledger. -/
theorem Move.ledger_suffix {x y : Scene} (h : Move x y) : x.ledger <:+ y.ledger := by
  cases h <;> simp [Scene.write, Scene.markReleased]

theorem Path.ledger_suffix {x y : Scene} (h : Path x y) : x.ledger <:+ y.ledger := by
  induction h with
  | refl => exact List.suffix_rfl
  | tail _ hm ih => exact ih.trans hm.ledger_suffix

end ConnPool
