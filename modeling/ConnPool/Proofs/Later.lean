import ConnPool.Proofs.Stretches
import Mathlib.Logic.Relation

namespace ConnPool

inductive Host.Leads {σ : Type} (host : Host σ) (w : σ) : σ → Prop where
  | now : Leads host w (host.now w).2
  | serial (c : ConnId) : Leads host w (host.serial c w).2
  | connect (driver url : String) (properties : Properties) :
      Leads host w (host.connect driver url properties w).2
  | call (c : ConnId) (k : Call) : Leads host w (host.call c k w).2
  | close (c : ConnId) : Leads host w (host.close c w).2
  | isClosed (c : ConnId) : Leads host w (host.isClosed c w).2

abbrev Host.Later {σ : Type} (host : Host σ) : σ → σ → Prop := Relation.ReflTransGen host.Leads

/-- A step that leaves a property of the world alone. -/
def Action.Keeps {σ α : Type} (P : σ → Prop) (a : Action σ α) : Prop := ∀ w, P w → P (a w).2

/-- A step that uses the world only as the host lets it. -/
def Action.Advances {σ α : Type} (host : Host σ) (a : Action σ α) : Prop :=
  ∀ w, host.Later w (a w).2

namespace Action

variable {σ α β : Type} (host : Host σ)

theorem keeps_lift {P : σ → Prop} (r : Outcome α) : (lift r : Action σ α).Keeps P := fun _ h => h

theorem keeps_pure {P : σ → Prop} (a : α) : (Pure.pure a : Action σ α).Keeps P := fun _ h => h

theorem Keeps.bind {P : σ → Prop} {x : Action σ α} {f : α → Action σ β} (hx : x.Keeps P)
    (hf : ∀ a, (f a).Keeps P) : (x >>= f).Keeps P := by
  intro w hw
  have hv := hx w hw
  cases hr : x w with
  | mk r v =>
    rw [hr] at hv
    cases r with
    | error f => rwa [bind_of_error hr]
    | ok a =>
      rw [bind_of_ok hr]
      exact hf a v hv

theorem keeps_rollbackIfNeeded {P : σ → Prop} {c : ConnId}
    (h : ∀ k, (host.call c k).Keeps P) : (host.rollbackIfNeeded c).Keeps P := by
  refine (h .autoCommit).bind fun committed => ?_
  split
  · exact keeps_pure ()
  · exact h .rollback

theorem keeps_configure {P : σ → Prop} {c : ConnId} (h : ∀ k, (host.call c k).Keeps P)
    (s : Source) : (s.configure host c).Keeps P := by
  refine .bind ?_ fun _ => .bind ?_ fun _ => ?_
  · unfold Source.applyTimeout
    split
    · exact keeps_pure ()
    · exact h _
  · unfold Source.applyAutoCommit
    split
    · exact keeps_pure ()
    · refine (h _).bind fun now => ?_
      split
      · exact keeps_pure ()
      · exact h _
  · unfold Source.applyIsolation
    split
    · exact keeps_pure ()
    · exact h _

theorem advances_lift (r : Outcome α) : (lift r : Action σ α).Advances host := fun _ => .refl

theorem advances_pure (a : α) : (Pure.pure a : Action σ α).Advances host := fun _ => .refl

variable {host}

theorem Advances.bind {x : Action σ α} {f : α → Action σ β} (hx : x.Advances host)
    (hf : ∀ a, (f a).Advances host) : (x >>= f).Advances host := by
  intro w
  have hw := hx w
  cases hr : x w with
  | mk r v =>
    rw [hr] at hw
    cases r with
    | error f => rwa [bind_of_error hr]
    | ok a =>
      rw [bind_of_ok hr]
      exact hw.trans (hf a v)

variable (host)

theorem advances_call (c : ConnId) (k : Call) : (host.call c k).Advances host :=
  fun _ => .single (.call c k)

theorem advances_close (c : ConnId) : (host.close c).Advances host := fun _ => .single (.close c)

theorem keepsLater_call (w : σ) (c : ConnId) (k : Call) : (host.call c k).Keeps (host.Later w) :=
  fun _ hv => hv.tail (.call c k)

theorem advances_rollbackIfNeeded (c : ConnId) : (host.rollbackIfNeeded c).Advances host :=
  fun w => keeps_rollbackIfNeeded host (keepsLater_call host w c) w .refl

theorem advances_configure (s : Source) (c : ConnId) : (s.configure host c).Advances host :=
  fun w => keeps_configure host (keepsLater_call host w c) s w .refl

theorem advances_openDefault (s : Source) : (s.openDefault host).Advances host := by
  unfold Source.openDefault Source.open
  split
  · refine .bind (fun _ => .single (.connect _ _ _)) fun c => ?_
    exact (advances_configure host s c).bind fun _ => advances_pure host c
  · exact advances_lift host _

end Action

namespace Site

variable {σ : Type}

def Before (host : Host σ) (s t : Site σ) : Prop := host.Later s.world t.world

variable {host : Host σ} {s t u : Site σ} {n : Nat} {c : Checkout} {r : Stretch × Site σ}

theorem Before.trans (h : s.Before host t) (h' : t.Before host u) : s.Before host u :=
  Relation.ReflTransGen.trans h h'

section

variable (host) (s)

theorem before_settle {α : Type} {a : Action σ α} (ha : a.Advances host) :
    s.Before host (s.settle a) := ha s.world

theorem before_now : s.Before host (s.now host).2 := .single .now

theorem before_rewrap (r : Record) : s.Before host (s.rewrap host r).2 := .single .now

theorem before_wrap (c : ConnId) : s.Before host (s.wrap host c).2 :=
  (s.before_now host).trans (.single (.serial c))

theorem before_claim (oldest : Record) (rest : List Record) :
    s.Before host (s.claim host oldest rest).2 := by
  have hroll := before_settle host (s.now host).2
    (Action.advances_rollbackIfNeeded host oldest.conn)
  exact ((s.before_now host).trans hroll).trans (before_rewrap host _ oldest)

theorem before_ping (r : Record) : s.Before host (s.ping host r).2 := by
  have hasked : s.Before host (s.asked host r) := .single (.isClosed r.conn)
  cases hclosed : (host.isClosed r.conn s.world).1 with
  | true =>
    rw [ping_of_closed hclosed]
    exact hasked
  | false =>
    cases hp : s.pool.config.pingEnabled with
    | false =>
      rw [ping_of_disabled hclosed hp]
      exact hasked
    | true =>
      have hread := hasked.trans (before_now host _)
      by_cases ht : s.isFresh host r
      · rw [ping_of_fresh hclosed hp ht]
        exact hread
      · rw [ping_of_stale hclosed hp ht]
        have hpinging : (s.pinging host r).Advances host :=
          (Action.advances_call host r.conn _).bind fun _ =>
            Action.advances_rollbackIfNeeded host r.conn
        have hping := hread.trans (before_settle host _ hpinging)
        cases hr : run _ (s.pinging host r) with
        | mk o v =>
          have hv : v = settle _ (s.pinging host r) := (congrArg (·.2) hr).symm
          rw [← hv] at hping
          cases o with
          | ok a => exact hping
          | error f => exact hping.trans (before_settle host v (Action.advances_close host r.conn))

theorem before_validate (r : Record) : s.Before host (s.validate host r).2 := by
  cases hv : s.pool.flags.isValid r.flag with
  | true =>
    rw [validate_of_valid hv]
    exact s.before_ping host r
  | false =>
    rw [validate_of_invalid hv]
    exact .refl

end

theorem Look.before {o : Outcome Candidate} (h : s.Look host (o, t)) : s.Before host t := by
  cases h with
  | idle r rest front => exact .refl
  | opened b w none_idle room opens =>
    have hopen := Action.advances_openDefault host s.pool.source s.world
    rw [opens] at hopen
    exact Relation.ReflTransGen.trans hopen (before_wrap host ⟨s.pool, w⟩ b)
  | refused f w none_idle room fails =>
    have hopen := Action.advances_openDefault host s.pool.source s.world
    rwa [fails] at hopen
  | claimed oldest rest none_idle full front overdue =>
    exact (s.before_now host).trans (before_claim host _ oldest rest)
  | barred none_idle none_active full => exact .refl
  | early oldest rest none_idle full front early => exact s.before_now host

theorem before_found {o : Outcome Candidate} (found : s.nextCandidate host = (o, t)) :
    s.Before host t := (look_of_eq found).before

theorem before_of_validate {q : Record} {b : Bool} (h : s.validate host q = (b, t)) :
    s.Before host t := by
  have hvalidate := s.before_validate host q
  rwa [h] at hvalidate

theorem before_answer {q : Record} {b : Bool} (found : s.nextCandidate host = (.ok (.ready q), t))
    (answer : t.validate host q = (b, u)) : s.Before host u :=
  (before_found found).trans (before_of_validate answer)

theorem Miss.before (h : s.Miss host t) : s.Before host t := by
  obtain ⟨r, t, u, found, invalid⟩ := h
  have hanswer : s.Before host u := before_answer found invalid
  exact hanswer

theorem Misses.before (h : s.Misses host n t) : s.Before host t := by
  induction h with
  | none s => exact .refl
  | more miss _ ih => exact miss.before.trans ih

theorem before_wait (host : Host σ) (s : Site σ) (c : Checkout) :
    s.Before host (s.wait host c).2 := by
  unfold wait
  split <;> exact .single .now

theorem before_grant (host : Host σ) (s : Site σ) (c : Checkout) (r : Record) :
    s.Before host (s.grant host c r).2 := by
  have hroll := before_settle host s (Action.advances_rollbackIfNeeded host r.conn)
  exact (hroll.trans (before_now host _)).trans (.single .now)

theorem Ending.before (h : Ending host c s r) : s.Before host r.2 := by
  cases h with
  | failed f t found => exact before_found found
  | waiting t found => exact (before_found found).trans (t.before_wait host c)
  | granted q t u found valid => exact (before_answer found valid).trans (u.before_grant host c q)
  | exhausted t miss => exact miss.before

theorem before_giveBack (host : Host σ) (s : Site σ) (flag : FlagId) :
    s.Before host (s.giveBack host flag).2 := by
  cases hf : s.pool.activeWith? flag with
  | none =>
    rw [giveBack_of_missing hf]
    exact .refl
  | some r =>
    cases hv : (s.modify (·.removeActive flag)).validate host r with
    | mk b t =>
      have hvalid : (s.modify (·.removeActive flag)).Before host t := before_of_validate hv
      cases b with
      | false =>
        rw [giveBack_of_bad hf hv]
        exact hvalid
      | true =>
        rw [giveBack_of_good hf hv]
        have hback : s.Before host (t.takenBack host r) :=
          (hvalid.trans (t.before_now host)).trans
            (before_settle host (t.now host).2 (Action.advances_rollbackIfNeeded host r.conn))
        split
        · exact hback.trans (before_rewrap host _ r)
        · exact hback.trans (before_settle host _ (Action.advances_close host r.conn))

theorem before_discard (host : Host σ) (s : Site σ) (r : Record) :
    s.Before host (s.discard host r) := by
  have hroll := before_settle host (s.revoke r.flag)
    (Action.advances_rollbackIfNeeded host r.conn)
  exact hroll.trans (before_settle host _ (Action.advances_close host r.conn))

theorem before_discards (host : Host σ) (rs : List Record) (s : Site σ) :
    s.Before host (rs.foldl (fun s r => s.discard host r) s) := by
  induction rs generalizing s with
  | nil => exact .refl
  | cons r rs ih => exact (s.before_discard host r).trans (ih (s.discard host r))

theorem before_drain (host : Host σ) (s : Site σ) : s.Before host (s.drain host) :=
  before_discards host (s.pool.active.reverse ++ s.pool.idle.reverse)
    (s.modify fun p => { p with expected := p.source.typeCode, active := [], idle := [] })

end Site

/-- Kept by whatever is done at a site. -/
structure Site.Kept {σ : Type} (host : Host σ) (P : Site σ → Prop) : Prop where
  same : ∀ s t : Site σ, s.pool.SameConnections t.pool → s.Before host t → P s → P t
  proceed : ∀ (s : Site σ) (c : Checkout), P s → P (s.proceed host c).2
  giveBack : ∀ (s : Site σ) (flag : FlagId), P s → P (s.giveBack host flag).2
  /-- Settings may have changed just before. -/
  drain : ∀ (s : Site σ) (p : Pool), P s → P (drain host ⟨p, s.world⟩)

namespace Site.Kept

variable {σ : Type} {host : Host σ} {P : Site σ → Prop} {d : Desk σ}

theorem stretch (h : Kept host P) (hd : P d.site) {e : Desk.Event} {r : Stretch × Site σ}
    (hr : d.stretch? host e = some r) : P r.2 := by
  obtain ⟨s, hw, hs, hr⟩ := Desk.stretch_cases hr
  have hbefore : d.site.Before host s := by
    rw [Before, hw]
    exact d.site.before_now host
  have hP : P s := h.same d.site s hs.sameConnections hbefore hd
  rcases hr with ⟨c, rfl⟩ | rfl
  · exact h.proceed s c hP
  · exact hP

theorem closeUnused (h : Kept host P) (hd : P d.site) : P (d.closeUnused host).site := by
  unfold Desk.closeUnused
  split
  · exact h.drain d.site d.site.pool hd
  · exact hd

/-- Then it is kept by whatever happens at a desk. -/
theorem step (h : Kept host P) (hd : P d.site) (e : Desk.Event) : P (d.step host e).site := by
  have hsame : ∀ t : Site σ, d.pool.SameConnections t.pool → d.site.Before host t → P t :=
    fun t hs hb => h.same d.site t hs hb hd
  have heffect := d.step_effect host e
  generalize d.step host e = d' at heffect
  cases heffect with
  | nothing _ none_goes_on => exact hd
  | begun credentials held =>
    rw [Desk.afterStretch_site]
    exact h.stretch hd (Desk.stretch_of_held host held credentials)
  | resumed id v waiter =>
    refine h.closeUnused ?_
    rw [Desk.afterStretch_site]
    exact h.stretch hd (Desk.stretch_of_waiter host waiter)
  | returned i l lease out isOpen =>
    rw [Desk.giveBack_site]
    exact h.giveBack d.site l.grant.flag hd
  | orphaned i l lease out gone =>
    unfold Desk.closeOrphan
    split
    · exact hsame _ ⟨rfl, rfl, rfl, rfl, rfl⟩
        (before_settle host (d.site.revoke l.grant.flag) (Action.advances_close host l.grant.conn))
    · exact hd
  | called i k l lease valid =>
    exact hsame _ ⟨rfl, rfl, rfl, rfl, rfl⟩ (.single (.call l.grant.conn k))
  | asked i l lease out valid =>
    exact hsame _ ⟨rfl, rfl, rfl, rfl, rfl⟩ (.single (.isClosed l.grant.conn))
  | interrupted held => exact hsame _ ⟨rfl, rfl, rfl, rfl, rfl⟩ .refl
  | shut held => exact h.drain d.site d.site.interrupt.pool hd
  | drained held => exact h.drain d.site d.site.pool hd
  | configured setting p held set => exact h.drain d.site p hd
  | letGo held => exact h.closeUnused (d := { d with isHeld := false }) hd

end Site.Kept
end ConnPool
