import ConnPool.Factory
import ConnPool.Proofs.Interruptions
import ConnPool.World

namespace ConnPool

namespace PoolConfig

/-- The configurations that calls make, one after the other. -/
inductive Built : PoolConfig → Prop where
  | default : Built {}
  | limits {c : PoolConfig} {maxActive maxIdle : UInt64}
      (made : ofLimits maxActive maxIdle = .ok c) : Built c
  | maxActive {b c : PoolConfig} {n : UInt64} (built : Built b)
      (made : b.withMaxActive n = .ok c) : Built c
  | others {c : PoolConfig} (built : Built c)
      (maxIdle maxCheckoutTime timeToWait tolerance : UInt64) (pingQuery : String)
      (pingEnabled : Bool) (pingNotUsedFor : UInt64) :
      Built { c with
        maxIdle, maxCheckoutTime, timeToWait, tolerance, pingQuery, pingEnabled, pingNotUsedFor }

theorem withMaxActive_ok {b c : PoolConfig} {n : UInt64} (h : b.withMaxActive n = .ok c) :
    n ≠ 0 ∧ c = { b with maxActive := n } := by
  by_cases zero : n = 0
  · simp [withMaxActive, checkCapacity, zero, bind, Except.bind] at h
  · simp only [withMaxActive, checkCapacity, zero, if_false, bind, Except.bind,
      Except.ok.injEq] at h
    exact ⟨zero, h.symm⟩

theorem withMaxActive_of_ne_zero {n : UInt64} (c : PoolConfig) (h : n ≠ 0) :
    c.withMaxActive n = .ok { c with maxActive := n } := by
  simp only [withMaxActive, checkCapacity, h, if_false, bind, Except.bind]

theorem ofLimits_eq (maxActive maxIdle : UInt64) :
    ofLimits maxActive maxIdle = withMaxActive { maxIdle } maxActive := rfl

/-- All configurations with room are built by calls, and no others are. -/
theorem built_iff {c : PoolConfig} : c.Built ↔ c.maxActive ≠ 0 := by
  constructor
  · intro built
    induction built with
    | default => decide
    | limits made =>
      rw [ofLimits_eq] at made
      obtain ⟨positive, rfl⟩ := withMaxActive_ok made
      exact positive
    | maxActive _ made _ =>
      obtain ⟨positive, rfl⟩ := withMaxActive_ok made
      exact positive
    | others _ _ _ _ _ _ _ _ ih => exact ih
  · intro positive
    exact ((Built.default.maxActive (withMaxActive_of_ne_zero {} positive)).others
      c.maxIdle c.maxCheckoutTime c.timeToWait c.tolerance c.pingQuery c.pingEnabled
      c.pingNotUsedFor)

end PoolConfig

/-- A factory makes no pool without room, however it got its settings. -/
theorem Factory.buildPooled_built {f : Factory} {source : Source} {config : PoolConfig}
    (h : f.buildPooled = .ok (.ofSource source config)) : config.Built := by
  rw [PoolConfig.built_iff]
  intro zero
  unfold buildPooled at h
  cases checked : f.config.pool.validate with
  | error e => simp [checked, bind, Except.bind] at h
  | ok u =>
    cases made : f.buildUnpooled with
    | error e => simp [checked, made, bind, Except.bind] at h
    | ok s =>
      simp only [checked, made, bind, Except.bind, Except.ok.injEq] at h
      have hconfig : f.config.pool = config := congrArg Pool.config h
      simp [PoolConfig.validate, hconfig, zero] at checked

namespace Pool

/-- The limit that a change of a setting puts in force. By itself a limit of zero is refused; within
a whole configuration it is taken as it is. -/
def Setting.limit? : Setting → Option UInt64
  | .config c => some c.maxActive
  | .maxActive n => if n = 0 then none else some n
  | _ => none

theorem set_limit {p q : Pool} {setting : Setting} (h : p.set setting = .ok q) :
    q.config.maxActive = setting.limit?.getD p.config.maxActive := by
  cases setting with
  | maxActive n =>
    cases made : p.config.withMaxActive n with
    | error f => simp [set, made, Except.map] at h
    | ok c =>
      simp only [set, made, Except.map, Except.ok.injEq] at h
      obtain ⟨positive, rfl⟩ := PoolConfig.withMaxActive_ok made
      rw [← h, Setting.limit?, if_neg positive]
      rfl
  | _ =>
    obtain rfl := Except.ok.inj h
    rfl

theorem limit_of_refused {p : Pool} {setting : Setting} {f : Failure}
    (h : p.set setting = .error f) : setting.limit? = none := by
  cases setting with
  | maxActive n =>
    by_cases zero : n = 0
    · exact if_pos zero
    · simp [set, PoolConfig.withMaxActive_of_ne_zero p.config zero, Except.map] at h
  | _ => cases h

end Pool

namespace Desk

variable {σ : Type} {host : Host σ} {d : Desk σ} {e : Event}

/-- The limit in force after one event after the other, until nobody holds the pool. -/
def limitAfter : UInt64 → List Event → UInt64
  | n, [] => n
  | n, .letGo :: _ => n
  | n, .configure setting :: es => limitAfter (setting.limit?.getD n) es
  | n, _ :: es => limitAfter n es

theorem limitAfter_cons (he : e ≠ .letGo) (n : UInt64) (es : List Event) :
    limitAfter n (e :: es) = limitAfter (limitAfter n [e]) es := by
  cases e with
  | letGo => exact absurd rfl he
  | _ => rfl

theorem closeUnused_isHeld (host : Host σ) (d : Desk σ) :
    (d.closeUnused host).isHeld = d.isHeld := by
  unfold closeUnused
  split <;> rfl

theorem step_isHeld (host : Host σ) (d : Desk σ) (he : e ≠ .letGo) :
    (d.step host e).isHeld = d.isHeld := by
  have heffect := d.step_effect host e
  generalize d.step host e = d' at heffect
  cases heffect with
  | begun credentials held =>
    unfold afterStretch
    split <;> rfl
  | resumed id v waiter =>
    rw [closeUnused_isHeld]
    unfold afterStretch
    split <;> rfl
  | returned i l lease out isOpen =>
    unfold giveBack
    dsimp only
    split <;> rfl
  | orphaned i l lease out gone =>
    unfold closeOrphan
    split <;> rfl
  | letGo held => exact absurd rfl he
  | _ => rfl

theorem isHeld_letGo (host : Host σ) (d : Desk σ) : (d.step host .letGo).isHeld = false := by
  cases held : d.isHeld with
  | false => simp [step, Event.isOfHolder, held]
  | true =>
    simp only [step, Event.isOfHolder, held, Bool.not_true, Bool.and_false, Bool.false_eq_true,
      if_false]
    exact closeUnused_isHeld host { d with isHeld := false }

theorem configure_limit (host : Host σ) (d : Desk σ) (setting : Pool.Setting) :
    (d.configure host setting).2.pool.config.maxActive =
      setting.limit?.getD d.pool.config.maxActive := by
  unfold configure Site.configure
  cases hset : d.site.pool.set setting with
  | error f =>
    rw [Pool.limit_of_refused hset]
    rfl
  | ok p =>
    have hdrain : (Site.drain host { d.site with pool := p }).pool.config = p.config := by
      rw [Site.drain_pool]
    show (Site.drain host { d.site with pool := p }).pool.config.maxActive = _
    rw [hdrain, Pool.set_limit hset]
    rfl

/-- Only a change of a setting changes the limit, and only where somebody holds the pool. -/
theorem step_limit (host : Host σ) (d : Desk σ) (e : Event) :
    (d.step host e).pool.config.maxActive =
      if d.isHeld then limitAfter d.pool.config.maxActive [e] else d.pool.config.maxActive := by
  by_cases h : ∃ setting, e = .configure setting
  · obtain ⟨setting, rfl⟩ := h
    cases held : d.isHeld with
    | false => simp [step, Event.isOfHolder, held]
    | true =>
      simp only [step, Event.isOfHolder, held, Bool.not_true, Bool.and_false, Bool.false_eq_true,
        if_false]
      exact d.configure_limit host setting
  · have same : limitAfter d.pool.config.maxActive [e] = d.pool.config.maxActive := by
      cases e with
      | configure setting => exact absurd ⟨setting, rfl⟩ h
      | _ => rfl
    rw [(step_unconfigured host d fun setting he => h ⟨setting, he⟩).2, same, ite_self]

theorem run_limit_of_unheld (host : Host σ) (unheld : d.isHeld = false) (es : List Event) :
    (d.run host es).pool.config.maxActive = d.pool.config.maxActive := by
  induction es generalizing d with
  | nil => rfl
  | cons e es ih =>
    have still : (d.step host e).isHeld = false := by
      by_cases he : e = .letGo
      · rw [he, isHeld_letGo]
      · rw [step_isHeld host d he, unheld]
    have same := step_limit host d e
    rw [unheld, if_neg Bool.false_ne_true] at same
    exact (ih still).trans same

theorem run_limit (host : Host σ) (held : d.isHeld = true) (es : List Event) :
    (d.run host es).pool.config.maxActive = limitAfter d.pool.config.maxActive es := by
  induction es generalizing d with
  | nil => rfl
  | cons e es ih =>
    have next := step_limit host d e
    rw [held, if_pos rfl] at next
    by_cases he : e = .letGo
    · subst he
      exact (run_limit_of_unheld host (isHeld_letGo host d) es).trans next
    · rw [limitAfter_cons he, ← next]
      exact ih ((step_isHeld host d he).trans held)

theorem limitAfter_ne_zero {n : UInt64} {es : List Event} (positive : n ≠ 0)
    (built : ∀ c : PoolConfig, .configure (.config c) ∈ es → c.Built) : limitAfter n es ≠ 0 := by
  induction es generalizing n with
  | nil => exact positive
  | cons e es ih =>
    have rest : ∀ c : PoolConfig, .configure (.config c) ∈ es → c.Built :=
      fun c hc => built c (List.mem_cons_of_mem e hc)
    cases e with
    | configure setting =>
      refine ih ?_ rest
      cases setting with
      | config c => exact PoolConfig.built_iff.1 (built c List.mem_cons_self)
      | maxActive m =>
        rw [Pool.Setting.limit?]
        split
        case isTrue => exact positive
        case isFalse other => exact other
      | _ => exact positive
    | letGo => exact positive
    | _ => exact ih positive rest

/-- Without room, and with nothing to wait for, a checkout waits. -/
theorem stretch_without_room {r : Stretch × Site σ} (h : d.stretch? host e = some r)
    (none_idle : d.pool.idle = []) (none_active : d.pool.active = [])
    (zero : d.pool.config.maxActive = 0) :
    r.2.pool.active = [] ∧ ((∃ v, r.1 = .waits v) ∨ r.1 = .done (.fail .poolUnknown)) := by
  obtain ⟨s, -, hs, ⟨c, rfl⟩ | rfl⟩ := stretch_cases h
  · have hidle : s.pool.idle = [] := hs.idle.trans none_idle
    have hactive : s.pool.active = [] := hs.active.trans none_active
    have hroom : ¬ 0 < s.pool.config.maxActive.toNat := by rw [hs.config, zero]; decide
    have hlook : s.nextCandidate host = (.ok .mustWait, s) :=
      Site.nextCandidate_of_empty hidle hactive hroom
    rw [Site.proceed, Site.acquire_of_wait _ c hlook]
    exact ⟨(Site.wait_alike host s c).active.trans hactive, .inl ⟨_, rfl⟩⟩
  · exact ⟨hs.active.trans none_active, .inr rfl⟩

/-- What room a pool has. Its limit is the last one that was given it, and that is zero only after a
whole configuration that no calls make. A checkout that waits has nobody to wait for exactly if the
limit is zero, and then every checkout waits until it is interrupted. -/
theorem run_room (host : Host σ) (source : Source) (config : PoolConfig) (w : σ)
    (es : List Event) :
    let d := (start source config w).run host es
    d.pool.config.maxActive = limitAfter config.maxActive es ∧
      (∀ f : Factory, f.buildPooled = .ok (.ofSource source config) → config.Built) ∧
      (config.Built → (∀ c : PoolConfig, .configure (.config c) ∈ es → c.Built) →
        d.pool.config.maxActive ≠ 0) ∧
      (∀ e v s, d.stretch? host e = some (.waits v, s) →
        (s.pool.active = [] ↔ d.pool.config.maxActive = 0)) ∧
      (d.pool.config.maxActive = 0 → ∀ e r, d.stretch? host e = some r →
        r.2.pool.active = [] ∧ ((∃ v, r.1 = .waits v) ∨ r.1 = .done (.fail .poolUnknown))) := by
  intro d
  have hlimit : d.pool.config.maxActive = limitAfter config.maxActive es :=
    run_limit host rfl es
  have htotal := run_total_le host source config w es
  have without (zero : d.pool.config.maxActive = 0) {e : Event} {r : Stretch × Site σ}
      (h : d.stretch? host e = some r) :
      r.2.pool.active = [] ∧ ((∃ v, r.1 = .waits v) ∨ r.1 = .done (.fail .poolUnknown)) := by
    have hnone : d.pool.idle.length + d.pool.active.length = 0 := by
      have hzero : d.pool.config.maxActive.toNat = 0 := congrArg UInt64.toNat zero
      exact Nat.le_zero.1 (hzero ▸ htotal)
    exact stretch_without_room h (List.eq_nil_of_length_eq_zero (by omega))
      (List.eq_nil_of_length_eq_zero (by omega)) zero
  refine ⟨hlimit, fun f => Factory.buildPooled_built, ?_, ?_, ?_⟩
  · intro built others
    rw [hlimit]
    exact limitAfter_ne_zero (PoolConfig.built_iff.1 built) others
  · intro e v s h
    have hmax : s.pool.config = d.pool.config := (stretch_settings h).config
    constructor
    · intro none_active
      have hfull := (stretch_waits h).2
      rw [none_active, List.length_nil, hmax] at hfull
      exact UInt64.toNat_inj.1 (Nat.le_zero.1 hfull)
    · intro zero
      exact (without zero h).1
  · intro zero e r h
    exact without zero h

/-- A limit of zero is refused and the pool keeps its room; then it is given the configuration of a
document, and a checkout waits although nothing is checked out. -/
theorem room_after_document :
    let d := start { driver := "mock", url := "mock:db" } {} {}
    let es : List Event := [.configure (.maxActive 0), .configure (.config { maxActive := 0 })]
    (PoolConfig.ofJson "\x7b\"max_active_connections\":0\x7d").toOption =
        some { maxActive := 0 } ∧
      (d.run World.host [.configure (.maxActive 0)]).pool.config.maxActive ≠ 0 ∧
      (d.run World.host es).pool.config.maxActive = 0 ∧
      ∃ v s, (d.run World.host es).stretch? World.host (.checkout none) = some (.waits v, s) ∧
        s.pool.active = [] := by
  intro d es
  obtain ⟨-, -, hkept, -⟩ := run_room World.host { driver := "mock", url := "mock:db" } {} {}
    [.configure (.maxActive 0)]
  obtain ⟨hlimit, -, -, hwaits, -⟩ :=
    run_room World.host { driver := "mock", url := "mock:db" } {} {} es
  have hbuilt : ∀ c : PoolConfig, .configure (.config c) ∈ [Event.configure (.maxActive 0)] →
      c.Built := by
    intro c hc
    cases List.mem_singleton.1 hc
  have hstretch : ∃ v s, (d.run World.host es).stretch? World.host (.checkout none) =
      some (.waits v, s) := ⟨_, _, rfl⟩
  obtain ⟨v, s, h⟩ := hstretch
  exact ⟨by decide +kernel, hkept .default hbuilt, hlimit, v, s, h, (hwaits _ v s h).2 hlimit⟩

end Desk
end ConnPool
