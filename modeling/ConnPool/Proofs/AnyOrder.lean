import ConnPool.Proofs.Closings
import ConnPool.Proofs.Releasing

namespace ConnPool

inductive Finding where
  /-- It says that it is closed. -/
  | closed
  /-- It does not answer a ping. -/
  | silent
  /-- It is good, and this is the reading of the clock. -/
  | good (time : Nat)
  deriving DecidableEq

inductive Comeback where
  /-- Its pool is gone. -/
  | gone
  /-- Its connection was taken from it. -/
  | stale
  /-- Its connection is bad, and the pool closes it for that or not. -/
  | bad (closes : Bool)
  /-- Its connection is good, and was checked out for the user and password of the source or not. -/
  | good (held : Nat) (own : Bool)

/-- How many connections a pool has and has closed, and what it counts. -/
structure Totals where
  idle : Nat
  active : Nat
  closed : Nat
  tally : Tally

namespace Totals

def countBad (t : Totals) : Totals :=
  { t with tally := { t.tally with badConnections := t.tally.badConnections + 1 } }

def after (maxIdle : Nat) (t : Totals) : Comeback → Totals
  | .gone => t
  | .stale => t.countBad
  | .bad closes => countBad { t with active := t.active - 1, closed := t.closed + closes.toNat }
  | .good held own =>
    let t := { t with active := t.active - 1, tally.checkoutTime := t.tally.checkoutTime + held }
    if t.idle < maxIdle && own then { t with idle := t.idle + 1 }
    else { t with closed := t.closed + 1 }

/-- Two leases may come back in either order. -/
theorem after_comm (maxIdle : Nat) (t : Totals) (a b : Comeback) :
    (t.after maxIdle a).after maxIdle b = (t.after maxIdle b).after maxIdle a := by
  cases a with
  | gone => rfl
  | stale | bad closes => cases b <;> grind [after, countBad]
  | good held own =>
    cases b with
    | good held' own' =>
      -- where there is room for one only, it is taken, whichever of the two takes it
      cases own <;> cases own' <;> grind [after]
    | _ => grind [after, countBad]

end Totals

namespace Site

variable {σ : Type}

def finds (host : Host σ) (s : Site σ) (r : Record) : Finding :=
  let answer := s.validate host r
  if answer.1 then .good (answer.2.now host).1
  else if (host.isClosed r.conn s.world).1 then .closed
  else .silent

theorem finds_forget (host : Host σ) (s : Site (σ × Ledger)) (r : Record) :
    s.forget.finds host r = s.finds (host.withLedger .pool) r := by
  rw [finds, s.validate_forget host .pool]
  rfl

def totals (s : Site (σ × Ledger)) : Totals :=
  ⟨s.pool.idle.length, s.pool.active.length, s.world.2.closings.length, s.pool.tally⟩

end Site

def Pool.comeback (p : Pool) (r : Record) : Finding → Comeback
  | .closed => .bad false
  | .silent => .bad true
  | .good time => .good (time - r.checkoutAt) (r.typeCode == p.expected)

namespace Site

variable {σ : Type} {host : Host σ} {s : Site (σ × Ledger)} {r : Record} {flag : FlagId}

theorem length_removeActive {p : Pool} (hf : p.activeWith? flag = some r) :
    (p.removeActive flag).active.length = p.active.length - 1 := by
  have hlength := (perm_of_find? hf).length_eq
  simp only [List.length_cons] at hlength
  simp only [Pool.removeActive]
  omega

theorem giveBack_removes {host : Host (σ × Ledger)} (hf : s.pool.activeWith? flag = some r) :
    (s.giveBack host flag).2.pool.active = (s.pool.removeActive flag).active := by
  have hback := s.giveBack_takesBack host flag
  generalize (s.giveBack host flag).1 = b, (s.giveBack host flag).2.pool = p at hback
  cases hback with
  | missing _ found alike => cases hf.symm.trans found
  | lost _ r found settings idle active => exact active
  | kept _ r r' found settings conn idle active => exact active

section

variable {t : Site (σ × Ledger)} (hf : s.pool.activeWith? flag = some r)
include hf

/-- A connection that is bad when it comes back is closed unless it says that it is closed. -/
theorem giveBack_totals_of_bad (hv : s.pool.flags.isValid r.flag = true)
    (ha : (s.modify (·.removeActive flag)).validate (host.withLedger .pool) r = (false, t)) :
    (s.giveBack (host.withLedger .pool) flag).2.totals =
      s.totals.after s.pool.config.maxIdle.toNat
        (.bad !((host.withLedger .pool).isClosed r.conn s.world).1) := by
  have hpool : t.pool = s.pool.removeActive flag := pool_of_validate ha
  have hping : (s.modify (·.removeActive flag)).ping (host.withLedger .pool) r = (false, t) := by
    rwa [validate_of_valid (s := s.modify (·.removeActive flag)) hv] at ha
  have hclosings : t.world.2.closings =
      if (host.isClosed r.conn s.world.1).1 then s.world.2.closings
      else r.conn :: s.world.2.closings := (ping_closings hping).2
  have htotals : t.countBad.totals = Totals.countBad
      ⟨s.pool.idle.length, s.pool.active.length - 1, t.world.2.closings.length, s.pool.tally⟩ := by
    rw [← length_removeActive hf]
    simp only [totals, countBad, count, modify, hpool, Pool.removeActive, Totals.countBad]
  rw [giveBack_of_bad hf ha, htotals, hclosings]
  show _ = Totals.after _ _ (.bad !(host.isClosed r.conn s.world.1).1)
  cases (host.isClosed r.conn s.world.1).1 <;> rfl

/-- One that is good is idle then, or is closed. -/
theorem giveBack_totals_of_good
    (ha : (s.modify (·.removeActive flag)).validate (host.withLedger .pool) r = (true, t)) :
    (s.giveBack (host.withLedger .pool) flag).2.totals =
      s.totals.after s.pool.config.maxIdle.toNat
        (.good ((t.now (host.withLedger .pool)).1 - r.checkoutAt)
          (r.typeCode == s.pool.expected)) := by
  have hpool : t.pool = s.pool.removeActive flag := pool_of_validate ha
  obtain ⟨hclosings, q, -, hidle⟩ := giveBack_closings hf ha
  have htally : (s.giveBack (host.withLedger .pool) flag).2.pool.tally =
      { s.pool.tally with
        checkoutTime := s.pool.tally.checkoutTime +
          ((t.now (host.withLedger .pool)).1 - r.checkoutAt) } := by
    have hsame : t.pool.tally = s.pool.tally := by rw [hpool, Pool.removeActive]
    rw [giveBack_of_good hf ha, ← hsame]
    split <;> rfl
  rw [totals, hclosings, hidle, htally, giveBack_removes hf, length_removeActive hf]
  have hkeeps : s.pool.keeps r = (decide (s.totals.idle < s.pool.config.maxIdle.toNat) &&
      r.typeCode == s.pool.expected) := rfl
  rw [Totals.after, ← hkeeps]
  cases s.pool.keeps r <;> simp [totals]

end

/-- What a connection that comes back does to the totals depends on what is found of it, and on how
many connections are idle. -/
theorem giveBack_totals (host : Host σ) (hf : s.pool.activeWith? flag = some r)
    (hv : s.pool.flags.isValid r.flag = true) :
    (s.giveBack (host.withLedger .pool) flag).2.totals =
      s.totals.after s.pool.config.maxIdle.toNat
        (s.pool.comeback r
          ((s.modify (·.removeActive flag)).finds (host.withLedger .pool) r)) := by
  cases ha : (s.modify (·.removeActive flag)).validate (host.withLedger .pool) r with
  | mk b t =>
    cases b with
    | false =>
      rw [giveBack_totals_of_bad hf hv ha, finds, ha]
      show _ = Totals.after _ _ (Pool.comeback _ _
        (if ((host.withLedger .pool).isClosed r.conn s.world).1 then .closed else .silent))
      cases ((host.withLedger .pool).isClosed r.conn s.world).1 <;> rfl
    | true =>
      rw [giveBack_totals_of_good hf ha, finds, ha]
      rfl

/-- What is closed when a connection comes back was active. -/
theorem giveBack_closes (host : Host σ) (s : Site (σ × Ledger)) (flag : FlagId) :
    ((s.giveBack (host.withLedger .pool) flag).2.world.2.closings ++
        (s.giveBack (host.withLedger .pool) flag).2.pool.active.map (·.conn)).Subperm
      (s.world.2.closings ++ s.pool.active.map (·.conn)) := by
  cases hf : s.pool.activeWith? flag with
  | none =>
    rw [giveBack_of_missing hf]
    exact List.Subperm.refl _
  | some r =>
    have hperm : (s.pool.active.map (·.conn)).Perm
        (r.conn :: (s.pool.removeActive flag).active.map (·.conn)) := (perm_of_find? hf).map _
    have hclosings : (s.giveBack (host.withLedger .pool) flag).2.world.2.closings =
          s.world.2.closings ∨
        (s.giveBack (host.withLedger .pool) flag).2.world.2.closings =
          r.conn :: s.world.2.closings := by
      cases hv : (s.modify (·.removeActive flag)).validate (host.withLedger .pool) r with
      | mk b t =>
        cases b with
        | false =>
          rw [giveBack_of_bad hf hv]
          exact (validate_closings hv).2.imp_right (·.2)
        | true =>
          rw [(giveBack_closings hf hv).1]
          split
          · exact .inl rfl
          · exact .inr rfl
    rw [giveBack_removes hf]
    rcases hclosings with hsame | hclosed
    · rw [hsame]
      refine (List.subperm_append_left _).mpr ?_
      exact (List.sublist_cons_self _ _).subperm.trans hperm.symm.subperm
    · rw [hclosed]
      exact (List.perm_middle.symm.trans (hperm.symm.append_left _)).subperm

end Site

section

variable {α : Type} {p q : α → Bool}

theorem find?_eraseP (h : ∀ a, p a = true → q a = false) (l : List α) :
    (l.eraseP p).find? q = l.find? q := by
  induction l with
  | nil => rfl
  | cons a l ih =>
    cases hp : p a with
    | true => rw [List.eraseP_cons_of_pos hp, List.find?_cons_of_neg (by simp [h a hp])]
    | false => rw [List.eraseP_cons_of_neg (by simp [hp]), List.find?_cons, List.find?_cons, ih]

end

/-- Other connections are not affected when one comes back. -/
theorem Site.giveBack_activeWith? {σ : Type} (host : Host σ) (s : Site σ) {flag other : FlagId}
    (hne : flag ≠ other) :
    (s.giveBack host flag).2.pool.activeWith? other = s.pool.activeWith? other := by
  have herase : (s.pool.active.eraseP (·.flag == flag)).find? (·.flag == other) =
      s.pool.active.find? (·.flag == other) := by
    refine find?_eraseP (fun r hr => ?_) _
    rw [eq_of_beq hr]
    exact beq_false_of_ne hne
  have hback := s.giveBack_takesBack host flag
  generalize (s.giveBack host flag).1 = b, (s.giveBack host flag).2.pool = p at hback
  rw [Pool.activeWith?, Pool.activeWith?]
  cases hback with
  | missing _ found alike => rw [alike.active]
  | lost _ r found settings idle active => rw [active, herase]
  | kept _ r r' found settings conn idle active => rw [active, herase]

namespace Desk

section

variable {σ : Type} (host : Host σ) (d : Desk σ) (i : Nat)

def IsOut : Prop := ∃ l, d.leases[i]? = some l ∧ l.released = false

instance : Decidable (d.IsOut i) :=
  decidable_of_iff ((d.leases[i]?).any (!·.released) = true) (by simp [IsOut, Option.any_eq_true])

/-- The record of the connection that a lease has, if it has not been taken from it. -/
def record? : Option Record := (d.leases[i]?).bind fun l => d.pool.activeWith? l.grant.flag

/-- What the pool would find of the connection of a lease, were the lease given back now. -/
def finding? : Option Finding :=
  (d.record? i).map fun r => (d.site.modify (·.removeActive r.flag)).finds host r

/-- How a lease would come back now if that was found of its connection. -/
def comeback (found : Option Finding) : Comeback :=
  if d.isOpen then
    match d.record? i, found with
    | some r, some f => d.pool.comeback r f
    | _, _ => .stale
  else .gone

/-- What the pool finds of the connections of leases that are given back one after the other. -/
def findings : Desk σ → List Nat → List (Nat × Option Finding)
  | _, [] => []
  | d, i :: is => (i, d.finding? host i) :: findings (d.release host i) is

variable {host} {d} {i} {j : Nat} {r : Record}

theorem record?_of_lease {l : Lease} (hl : d.leases[i]? = some l) :
    d.record? i = d.pool.activeWith? l.grant.flag := by
  rw [record?, hl, Option.bind_some]

theorem comeback_of_gone (hgone : d.isOpen = false) (found : Option Finding) :
    d.comeback i found = .gone := if_neg (Bool.eq_false_iff.mp hgone)

theorem comeback_of_stale (hopen : d.isOpen = true) (hr : d.record? i = none)
    (found : Option Finding) : d.comeback i found = .stale := by
  simp only [comeback, hopen, hr, if_true]

theorem comeback_of_record (hopen : d.isOpen = true) (hr : d.record? i = some r) :
    d.comeback i (d.finding? host i) =
      d.pool.comeback r ((d.site.modify (·.removeActive r.flag)).finds host r) := by
  simp only [comeback, hopen, finding?, hr, Option.map_some, if_true]

theorem findings_fst (host : Host σ) (d : Desk σ) (is : List Nat) :
    (d.findings host is).map Prod.fst = is := by
  induction is generalizing d with
  | nil => rfl
  | cons i is ih => exact congrArg (i :: ·) (ih _)

theorem release_isOut (host : Host σ) (hj : d.IsOut j) (hne : i ≠ j) :
    (d.release host i).IsOut j := by
  obtain ⟨l, hl, hout⟩ := hj
  exact ⟨l, (release_lease host d hne).trans hl, hout⟩

theorem release_settings (host : Host σ) (d : Desk σ) (i : Nat) :
    d.pool.SameSettings (d.release host i).pool ∧ (d.release host i).isOpen = d.isOpen := by
  have heffect := d.release_effect host i
  generalize d.release host i = d' at heffect
  cases heffect with
  | nothing _ none_goes_on => exact ⟨.refl _, rfl⟩
  | returned _ l lease out isOpen =>
    rw [pool, pool, giveBack_site, giveBack_isOpen]
    exact ⟨(d.site.giveBack_conns host l.grant.flag).1, rfl⟩
  | orphaned _ l lease out gone =>
    unfold closeOrphan
    split <;> exact ⟨⟨rfl, rfl, rfl, rfl⟩, rfl⟩

end

section

variable {σ : Type} {host : Host σ} {d : Desk (σ × Ledger)} {i j : Nat} {is : List Nat}

theorem finding?_forget (host : Host σ) (d : Desk (σ × Ledger)) (i : Nat) :
    d.forget.finding? host i = d.finding? (host.withLedger .pool) i := by
  have hfinds (r : Record) : (d.forget.site.modify (·.removeActive r.flag)).finds host r =
      (d.site.modify (·.removeActive r.flag)).finds (host.withLedger .pool) r :=
    (d.site.modify (·.removeActive r.flag)).finds_forget host r
  rw [finding?, finding?]
  simp only [hfinds]
  rfl

theorem findings_forget (host : Host σ) (d : Desk (σ × Ledger)) (is : List Nat) :
    d.forget.findings host is = d.findings (host.withLedger .pool) is := by
  induction is generalizing d with
  | nil => rfl
  | cons i is ih =>
    have hnext : d.forget.release host i = (d.release (host.withLedger .pool) i).forget :=
      step_forget host .pool d (.release i)
    rw [findings, findings, finding?_forget, hnext, ih]

/-- What giving a lease back does to the totals. -/
theorem release_totals (h : d.Sound) (host : Host σ) (hi : d.IsOut i) :
    (d.release (host.withLedger .pool) i).site.totals =
      d.site.totals.after d.pool.config.maxIdle.toNat
        (d.comeback i (d.finding? (host.withLedger .pool) i)) := by
  obtain ⟨l, hl, hout⟩ := hi
  have hrecord := record?_of_lease hl
  cases hopen : d.isOpen with
  | false =>
    rw [release_of_gone h hopen, comeback_of_gone hopen]
    rfl
  | true =>
    rw [release_site hl hout hopen]
    cases hf : d.pool.activeWith? l.grant.flag with
    | none =>
      rw [Site.giveBack_of_missing hf, comeback_of_stale hopen (hrecord.trans hf)]
      rfl
    | some r =>
      have hr : r ∈ d.pool.active := List.mem_of_find?_eq_some hf
      have hflag : r.flag = l.grant.flag := by simpa using List.find?_some hf
      have hvalid : d.pool.flags.isValid r.flag = true :=
        h.orderly.valid_of_record (List.mem_append_right _ (List.mem_append_right _ hr))
      rw [comeback_of_record hopen (hrecord.trans hf), hflag]
      exact Site.giveBack_totals host hf hvalid

theorem release_record? (h : d.Sound) (host : Host (σ × Ledger)) (hi : d.IsOut i) (hj : d.IsOut j)
    (hne : i ≠ j) (hopen : d.isOpen = true) : (d.release host i).record? j = d.record? j := by
  obtain ⟨l, hl, hout⟩ := hi
  obtain ⟨m, hm, -⟩ := hj
  have hflag : l.grant.flag ≠ m.grant.flag := fun he => hne (h.orderly.lease_index hl hm he)
  rw [record?_of_lease hm, record?_of_lease ((release_lease host d hne).trans hm), pool,
    release_site hl hout hopen]
  exact d.site.giveBack_activeWith? host hflag

/-- A lease that comes back leaves the others, and how they would come back, as they are. -/
theorem release_comeback (h : d.Sound) (host : Host (σ × Ledger)) (hi : d.IsOut i)
    (hj : d.IsOut j) (hne : i ≠ j) (found : Option Finding) :
    (d.release host i).comeback j found = d.comeback j found := by
  obtain ⟨hsettings, hstill⟩ := release_settings host d i
  cases hopen : d.isOpen with
  | false => rw [comeback_of_gone hopen, comeback_of_gone (hstill.trans hopen)]
  | true =>
    have hcomeback : (d.release host i).pool.comeback = d.pool.comeback := by
      funext r f
      cases f with
      | good time => simp only [Pool.comeback, hsettings.expected]
      | _ => rfl
    simp only [comeback, hstill, release_record? h host hi hj hne hopen, hcomeback]

/-- By induction on the leases: each comes back as it would have at first, whatever came back
before it. -/
theorem history_totals (h : d.Sound) (host : Host σ) (hn : is.Nodup) (hout : ∀ i ∈ is, d.IsOut i) :
    (d.history host (is.map .release)).site.totals =
      ((d.findings (host.withLedger .pool) is).map fun x => d.comeback x.1 x.2).foldl
        (Totals.after d.pool.config.maxIdle.toNat) d.site.totals := by
  induction is generalizing d with
  | nil => rfl
  | cons i is ih =>
    obtain ⟨hnew, hrest⟩ := List.nodup_cons.mp hn
    obtain ⟨hi, hothers⟩ := List.forall_mem_cons.mp hout
    have hne : ∀ j ∈ is, i ≠ j := fun j hj he => hnew (he ▸ hj)
    let next := d.release (host.withLedger .pool) i
    have hnext : next.Sound := h.step host (.release i)
    have hstill : ∀ j ∈ is, next.IsOut j := fun j hj => release_isOut _ (hothers j hj) (hne j hj)
    have hsame : (next.findings (host.withLedger .pool) is).map (fun x => next.comeback x.1 x.2) =
        (next.findings (host.withLedger .pool) is).map fun x => d.comeback x.1 x.2 := by
      refine List.map_congr_left fun x hx => ?_
      have hj : x.1 ∈ is := by
        rw [← findings_fst (host.withLedger .pool) next is]
        exact List.mem_map_of_mem hx
      exact release_comeback h _ hi (hothers _ hj) (hne _ hj) x.2
    have hconfig : next.pool.config = d.pool.config := (release_settings _ d i).1.config
    have hlater := ih hnext hrest hstill
    rw [hsame, hconfig] at hlater
    rw [findings, List.map_cons, List.map_cons, List.foldl_cons, ← release_totals h host hi]
    exact hlater

theorem release_closes (h : d.Sound) (host : Host σ) (hi : d.IsOut i) :
    ((d.release (host.withLedger .pool) i).site.world.2.closings ++
        (d.release (host.withLedger .pool) i).pool.active.map (·.conn)).Subperm
      (d.site.world.2.closings ++ d.pool.active.map (·.conn)) := by
  obtain ⟨l, hl, hout⟩ := hi
  cases hopen : d.isOpen with
  | false =>
    rw [pool, release_of_gone h hopen]
    exact List.Subperm.refl _
  | true =>
    rw [pool, release_site hl hout hopen]
    exact d.site.giveBack_closes host l.grant.flag

theorem history_closes (h : d.Sound) (host : Host σ) (hn : is.Nodup) (hout : ∀ i ∈ is, d.IsOut i) :
    ((d.history host (is.map .release)).site.world.2.closings ++
        (d.history host (is.map .release)).pool.active.map (·.conn)).Subperm
      (d.site.world.2.closings ++ d.pool.active.map (·.conn)) := by
  induction is generalizing d with
  | nil => exact List.Subperm.refl _
  | cons i is ih =>
    obtain ⟨hnew, hrest⟩ := List.nodup_cons.mp hn
    obtain ⟨hi, hothers⟩ := List.forall_mem_cons.mp hout
    refine (ih (h.step host (.release i)) hrest fun j hj => ?_).trans (release_closes h host hi)
    exact release_isOut _ (hothers j hj) fun he => hnew (he ▸ hj)

/-- What is true between two events is true with an empty ledger. -/
theorem Sound.rewatched (h : d.Sound) : d.forget.watched.Sound where
  orderly := by
    have hframe : Orderly { d.scene with ledger := [], hand := .empty } :=
      h.orderly.frame rfl nofun rfl
    exact hframe
  settled := h.settled

end

section

variable {σ : Type} (host : Host σ) (source : Source) (config : PoolConfig) (w : σ)
  (es : List Event)

theorem run_sound : ((start source config w).run host es).watched.Sound := by
  rw [run_eq_forget]
  exact ((start_sound source config w).history host es).rewatched

/-- Where drivers open new connections only, none is checked out twice. -/
theorem run_active_once (hn : ((start source config w).ledger host es).OpensNew) :
    (((start source config w).run host es).pool.active.map (·.conn)).Nodup := by
  obtain ⟨-, htracked, -⟩ := List.nodup_append.mp (run_closings host source config w es hn)
  exact htracked.sublist ((List.sublist_append_right _ _).map _)

end

theorem stats_of_totals {σ : Type} {s t : Site (σ × Ledger)} (h : s.totals = t.totals) :
    s.pool.stats = t.pool.stats := by
  simp only [Site.totals, Totals.mk.injEq] at h
  obtain ⟨hidle, hactive, -, htally⟩ := h
  rw [Pool.stats, Pool.stats, hidle, hactive, htally]

/-- Where drivers open new connections only, giving leases back closes none twice. -/
theorem run_release_closes_once {σ : Type} (host one : Host σ) (source : Source)
    (config : PoolConfig) (w : σ) (es : List Event) {is : List Nat} (hn : is.Nodup)
    (hout : ∀ i ∈ is, ((start source config w).run host es).IsOut i)
    (hnew : ((start source config w).ledger host es).OpensNew) :
    (((start source config w).run host es).ledger one (is.map .release)).closings.Nodup := by
  have hactive := run_active_once host source config w es hnew
  have hcloses := history_closes (run_sound host source config w es) one hn hout
  obtain ⟨cs, hperm, hsub⟩ := (List.sublist_append_left _ _).subperm.trans hcloses
  exact hperm.nodup_iff.mp (hactive.sublist hsub)

/-- Leases are given back in one order or in another. If the same is found of each connection, the
pool counts the same, and it closes as many connections. -/
theorem run_release_any_order {σ : Type} (host one other : Host σ) (source : Source)
    (config : PoolConfig) (w : σ) (es : List Event) (is js : List Nat) (hn : is.Nodup)
    (hout : ∀ i ∈ is, ((start source config w).run host es).IsOut i)
    (hfound : (((start source config w).run host es).findings one is).Perm
      (((start source config w).run host es).findings other js)) :
    let d := (start source config w).run host es
    (d.run one (is.map .release)).pool.stats = (d.run other (js.map .release)).pool.stats ∧
      (d.ledger one (is.map .release)).closings.length =
        (d.ledger other (js.map .release)).closings.length ∧
      (((start source config w).ledger host es).OpensNew →
        (d.ledger one (is.map .release)).closings.Nodup ∧
          (d.ledger other (js.map .release)).closings.Nodup) := by
  intro d
  have hd : d.watched.Sound := run_sound host source config w es
  have hperm : is.Perm js := by simpa only [findings_fst] using hfound.map Prod.fst
  have hn' : js.Nodup := hperm.nodup_iff.mp hn
  have hout' : ∀ j ∈ js, d.IsOut j := fun j hj => hout j (hperm.mem_iff.mpr hj)
  have htotals : (d.watched.history one (is.map .release)).site.totals =
      (d.watched.history other (js.map .release)).site.totals := by
    rw [history_totals hd one hn hout, history_totals hd other hn' hout', ← findings_forget,
      ← findings_forget]
    exact (hfound.map _).foldl_eq' (fun a _ b _ t => t.after_comm _ a b) _
  refine ⟨?_, congrArg Totals.closed htotals, fun hnew => ⟨?_, ?_⟩⟩
  · rw [run_eq_forget, run_eq_forget]
    exact stats_of_totals htotals
  · exact run_release_closes_once host one source config w es hn hout hnew
  · exact run_release_closes_once host other source config w es hn' hout' hnew

end Desk

/-- A world in which the clock stands still, and one connection is closed from outside. -/
def World.still : Host World :=
  { World.host with
    now := fun w => (1000, w)
    isClosed := fun c w => (c == 2 || w.isClosed c, w) }

namespace Desk

/-- Of five leases one has lost its connection, one has a connection that is closed, one is for a
foreign user, and for the others there is only room for one idle connection. -/
theorem release_forth_and_back :
    let d := (start { driver := "mock", url := "mock:db" }
        { maxActive := 4, maxIdle := 1, maxCheckoutTime := 0 } {}).run World.host
      [.checkout none, .checkout none, .checkout none, .checkout (some ("guest", "guest")),
        .checkout none]
    let forth := d.run World.still ([0, 1, 2, 3, 4].map .release)
    let back := d.run World.still ([4, 3, 2, 1, 0].map .release)
    forth.tracked = [1] ∧ back.tracked = [0] ∧ forth.pool.stats = back.pool.stats := by
  intro d forth back
  have hout : ∀ i ∈ [0, 1, 2, 3, 4], d.IsOut i := by decide
  let found : List (Nat × Option Finding) :=
    [(0, none), (1, some (.good 1000)), (2, some .closed), (3, some (.good 1000)),
      (4, some (.good 1000))]
  have hforth : d.findings World.still [0, 1, 2, 3, 4] = found := by decide
  have hback : d.findings World.still [4, 3, 2, 1, 0] = found.reverse := by decide
  have hfound : (d.findings World.still [0, 1, 2, 3, 4]).Perm
      (d.findings World.still [4, 3, 2, 1, 0]) := by
    rw [hforth, hback]
    exact (List.reverse_perm found).symm
  obtain ⟨hstats, -⟩ := run_release_any_order World.host World.still World.still _ _ _ _
    [0, 1, 2, 3, 4] [4, 3, 2, 1, 0] (by decide) hout hfound
  exact ⟨by decide, by decide, hstats⟩

end Desk
end ConnPool
