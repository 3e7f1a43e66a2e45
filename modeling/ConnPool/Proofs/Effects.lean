import ConnPool.Pool.Desk
import ConnPool.Proofs.Branches

namespace ConnPool

/-- Pools that differ only in their connections and in what they count. -/
structure Pool.SameSettings (p q : Pool) : Prop where
  source : q.source = p.source
  config : q.config = p.config
  expected : q.expected = p.expected
  generation : q.generation = p.generation

namespace Pool.SameSettings

variable {p q r : Pool}

theorem refl (p : Pool) : p.SameSettings p := ⟨rfl, rfl, rfl, rfl⟩

theorem trans (h : p.SameSettings q) (h' : q.SameSettings r) : p.SameSettings r :=
  ⟨h'.source.trans h.source, h'.config.trans h.config, h'.expected.trans h.expected,
    h'.generation.trans h.generation⟩

end Pool.SameSettings

/-- Pools that differ only in what they count. -/
structure Pool.Alike (p q : Pool) : Prop extends p.SameSettings q where
  idle : q.idle = p.idle
  active : q.active = p.active
  flags : q.flags = p.flags

/-- Pools with the same connections under the same settings. -/
structure Pool.SameConnections (p q : Pool) : Prop where
  source : q.source = p.source
  config : q.config = p.config
  expected : q.expected = p.expected
  idle : q.idle = p.idle
  active : q.active = p.active

theorem Pool.Alike.sameConnections {p q : Pool} (h : p.Alike q) : p.SameConnections q :=
  ⟨h.source, h.config, h.expected, h.idle, h.active⟩

/-- What becomes of a pool when a connection comes back, and whether the connection is idle then. -/
inductive Pool.TakesBack (p : Pool) (flag : FlagId) : Bool → Pool → Prop where
  | missing (q : Pool) (found : p.activeWith? flag = none) (alike : p.Alike q) :
      TakesBack p flag false q
  /-- It is bad, or it is not kept. -/
  | lost (q : Pool) (r : Record) (found : p.activeWith? flag = some r) (settings : p.SameSettings q)
      (idle : q.idle = p.idle) (active : q.active = p.active.eraseP (·.flag == flag)) :
      TakesBack p flag false q
  | kept (q : Pool) (r r' : Record) (found : p.activeWith? flag = some r)
      (settings : p.SameSettings q) (conn : r'.conn = r.conn) (idle : q.idle = p.idle ++ [r'])
      (active : q.active = p.active.eraseP (·.flag == flag)) : TakesBack p flag true q

theorem Pool.TakesBack.same {p q : Pool} {flag : FlagId} {idle : Bool}
    (h : p.TakesBack flag idle q) : p.SameSettings q := by
  cases h with
  | missing _ found alike => exact alike.toSameSettings
  | lost _ r found settings idle active => exact settings
  | kept _ r r' found settings conn idle active => exact settings

theorem Site.giveBack_takesBack {σ : Type} (host : Host σ) (s : Site σ) (flag : FlagId) :
    s.pool.TakesBack flag (s.giveBack host flag).1 (s.giveBack host flag).2.pool := by
  cases hf : s.pool.activeWith? flag with
  | none =>
    rw [giveBack_of_missing hf]
    exact .missing _ hf ⟨⟨rfl, rfl, rfl, rfl⟩, rfl, rfl, rfl⟩
  | some r =>
    cases hv : (s.modify (·.removeActive flag)).validate host r with
    | mk b t =>
      have hpool : t.pool = s.pool.removeActive flag := pool_of_validate hv
      have hset : s.pool.SameSettings t.pool := hpool ▸ ⟨rfl, rfl, rfl, rfl⟩
      have hidle : t.pool.idle = s.pool.idle := by rw [hpool, Pool.removeActive]
      have hactive : t.pool.active = s.pool.active.eraseP (·.flag == flag) := by
        rw [hpool, Pool.removeActive]
      -- what follows changes the tally, the flags and, at last, the idle connections
      have hrest : ∀ q : Pool, t.pool.SameSettings q → s.pool.SameSettings q :=
        fun q hq => hset.trans hq
      cases b with
      | false =>
        rw [giveBack_of_bad hf hv]
        exact .lost _ r hf (hrest _ ⟨rfl, rfl, rfl, rfl⟩) hidle hactive
      | true =>
        rw [giveBack_of_good hf hv]
        split
        · refine .kept _ r ((t.takenBack host r).rewrap host r).1 hf
            (hrest _ ⟨rfl, rfl, rfl, rfl⟩) rfl ?_ hactive
          show t.pool.idle ++ [((t.takenBack host r).rewrap host r).1] = _
          rw [hidle]
        · exact .lost _ r hf (hrest _ ⟨rfl, rfl, rfl, rfl⟩) hidle hactive

namespace Desk

variable {σ : Type} {host : Host σ} {d : Desk σ}

def stretch? (host : Host σ) (d : Desk σ) : Event → Option (Stretch × Site σ)
  | .checkout credentials => if d.isHeld then some (d.site.begin host credentials) else none
  | .resume id => (d.waiters.find? (·.id == id)).map fun v => d.site.resume host v.waiting
  | _ => none

def runs? (d : Desk σ) : Event → Option Nat
  | .checkout _ => if d.isHeld then some d.begun else none
  | .resume id => (d.waiters.find? (·.id == id)).map (·.id)
  | _ => none

theorem stretch_of_held (host : Host σ) (h : d.isHeld = true)
    (credentials : Option (String × String)) :
    d.stretch? host (.checkout credentials) = some (d.site.begin host credentials) := if_pos h

theorem stretch_of_waiter (host : Host σ) {id : Nat} {v : Waiter}
    (h : d.waiters.find? (·.id == id) = some v) :
    d.stretch? host (.resume id) = some (d.site.resume host v.waiting) := by
  rw [stretch?, h, Option.map_some]

theorem afterStretch_site (d : Desk σ) (id : Nat) (r : Stretch × Site σ) :
    (afterStretch d id r).2.site = r.2 := by
  obtain ⟨(f | g) | w, s⟩ := r <;> rfl

theorem giveBack_site (host : Host σ) (d : Desk σ) (l : Lease) :
    (d.giveBack host l).site = (d.site.giveBack host l.grant.flag).2 := by
  unfold giveBack
  dsimp only
  split <;> rfl

inductive Effect (host : Host σ) (d : Desk σ) : Event → Desk σ → Prop where
  | nothing (e : Event) (none_goes_on : ∀ v ∈ d.waiters, e ≠ .resume v.id) : Effect host d e d
  | begun (credentials : Option (String × String)) (held : d.isHeld = true) :
      Effect host d (.checkout credentials)
        (afterStretch { d with begun := d.begun + 1 } d.begun (d.site.begin host credentials)).2
  | resumed (id : Nat) (v : Waiter) (waiter : d.waiters.find? (·.id == id) = some v) :
      Effect host d (.resume id)
        ((afterStretch { d with waiters := d.waiters.eraseP (·.id == id) } id
          (d.site.resume host v.waiting)).2.closeUnused host)
  | returned (i : Nat) (l : Lease) (lease : d.leases[i]? = some l) (out : l.released = false)
      (isOpen : d.isOpen = true) :
      Effect host d (.release i) ((d.markReleased i).giveBack host l)
  | orphaned (i : Nat) (l : Lease) (lease : d.leases[i]? = some l) (out : l.released = false)
      (gone : d.isOpen = false) :
      Effect host d (.release i) ((d.markReleased i).closeOrphan host l)
  | called (i : Nat) (k : Call) (l : Lease) (lease : d.leases[i]? = some l)
      (valid : d.isValid l = true) :
      Effect host d (.call i k) { d with site := (d.site.run (host.call l.grant.conn k)).2 }
  | asked (i : Nat) (l : Lease) (lease : d.leases[i]? = some l) (out : l.released = false)
      (valid : d.isValid l = true) :
      Effect host d (.isClosed i)
        { d with site := { d.site with world := (host.isClosed l.grant.conn d.site.world).2 } }
  | interrupted (held : d.isHeld = true) : Effect host d .interrupt d.interrupt
  | shut (held : d.isHeld = true) : Effect host d .shutdown (d.shutdown host)
  | drained (held : d.isHeld = true) : Effect host d .drain (d.drain host)
  | configured (setting : Pool.Setting) (p : Pool) (held : d.isHeld = true)
      (set : d.pool.set setting = .ok p) :
      Effect host d (.configure setting) (drain host { d with site := { d.site with pool := p } })
  | letGo (held : d.isHeld = true) :
      Effect host d .letGo (closeUnused host { d with isHeld := false })

theorem release_effect (host : Host σ) (d : Desk σ) (i : Nat) :
    d.Effect host (.release i) (d.release host i) := by
  unfold release
  cases hl : d.leases[i]? with
  | none => exact .nothing _ nofun
  | some l =>
    dsimp only
    split
    · exact .nothing _ nofun
    · rename_i hu
      have hout : l.released = false := by simpa using hu
      split
      · rename_i ho
        exact .returned i l hl hout ho
      · rename_i ho
        exact .orphaned i l hl hout (by simpa using ho)

theorem resume_effect (host : Host σ) (d : Desk σ) (id : Nat) :
    d.Effect host (.resume id) (d.resume host id).2 := by
  unfold resume
  cases hv : d.waiters.find? (·.id == id) with
  | none =>
    refine .nothing _ fun v hm he => ?_
    have hid : id = v.id := Event.resume.inj he
    simpa [hid] using List.find?_eq_none.mp hv v hm
  | some v => exact .resumed id v hv

theorem step_effect (host : Host σ) (d : Desk σ) (e : Event) : d.Effect host e (d.step host e) := by
  unfold step
  split
  · rename_i hc
    refine .nothing e fun v _ he => ?_
    rw [he] at hc
    cases hc
  · rename_i hc
    have hheld : e.isOfHolder = true → d.isHeld = true := by simpa using hc
    cases e with
    | checkout credentials => exact .begun credentials (hheld rfl)
    | resume id => exact d.resume_effect host id
    | release i => exact d.release_effect host i
    | call i k =>
      dsimp only
      cases hl : d.leases[i]? with
      | none => exact .nothing _ nofun
      | some l =>
        show d.Effect host _ (d.call host l k).2
        unfold call
        split
        · rename_i hv
          exact .called i k l hl hv
        · exact .nothing _ nofun
    | isClosed i =>
      dsimp only
      cases hl : d.leases[i]? with
      | none => exact .nothing _ nofun
      | some l =>
        show d.Effect host _ (d.isClosed host l).2
        unfold isClosed
        split
        · exact .nothing _ nofun
        · rename_i hv
          have hv : l.released = false ∧ d.isValid l = true := by simpa using hv
          exact .asked i l hl hv.1 hv.2
    | interrupt => exact .interrupted (hheld rfl)
    | shutdown => exact .shut (hheld rfl)
    | drain => exact .drained (hheld rfl)
    | configure setting =>
      show d.Effect host _ (d.configure host setting).2
      unfold configure Site.configure
      cases hset : d.site.pool.set setting with
      | error f => exact .nothing _ nofun
      | ok p => exact .configured setting p (hheld rfl) hset
    | letGo => exact .letGo (hheld rfl)

end Desk
end ConnPool
