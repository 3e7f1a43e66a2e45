import ConnPool.Proofs.Accounts
import ConnPool.Proofs.Closings

namespace ConnPool

namespace Source

variable (s : Source)

/-- The code of a connection that is checked out for a user and password, or for none. -/
def codeOf : Option (String × String) → TypeCode
  | none => s.typeCode
  | some (username, password) => .credentials s.url (some username) (some password)

/-- Whether a user and password, if any, are exactly those of the source. -/
def IsOwn : Option (String × String) → Prop
  | none => True
  | some (username, password) => s.username = some username ∧ s.password = some password

instance (credentials : Option (String × String)) : Decidable (s.IsOwn credentials) := by
  cases credentials <;> unfold IsOwn <;> infer_instance

theorem codeOf_eq_iff (credentials : Option (String × String)) :
    s.codeOf credentials = s.typeCode ↔ s.IsOwn credentials := by
  cases credentials with
  | none => exact ⟨fun _ => trivial, fun _ => rfl⟩
  | some c =>
    simp only [codeOf, typeCode, IsOwn, TypeCode.credentials.injEq, true_and]
    exact ⟨fun h => ⟨h.1.symm, h.2.symm⟩, fun h => ⟨h.1.symm, h.2.symm⟩⟩

end Source

/-- The pool's own code is that of its source. -/
def Pool.IsCoded (p : Pool) : Prop := p.expected = p.source.typeCode

namespace Site

variable {σ : Type} {host : Host σ} {s t : Site σ} {c : Checkout}

theorem codeFor_of_coded {p : Pool} (h : p.IsCoded) (c : Checkout) :
    codeFor p c = p.source.codeOf c.credentials := by
  unfold codeFor
  cases c.credentials with
  | none => exact h
  | some _ => rfl

/-- What a stretch of a checkout does for those it is made for: a connection that joins the active
ones has their code, and if the checkout waits, it does so for them. -/
structure Stamps (p : Pool) (credentials : Option (String × String)) (r : Stretch × Site σ) :
    Prop where
  source : r.2.pool.source = p.source
  active : ∀ q ∈ r.2.pool.active, q ∈ p.active ∨
    ∃ g, r.1 = .done (.ok g) ∧ g.flag = q.flag ∧ q.typeCode = p.source.codeOf credentials
  waits : ∀ w, r.1 = .waits w → w.checkout.credentials = credentials

theorem Ending.stamps (hcoded : s.pool.IsCoded) {r : Stretch × Site σ} (h : Ending host c s r) :
    Stamps s.pool c.credentials r := by
  have hsource := h.settings.source
  cases h with
  | failed f t found =>
    have hpool : t.pool = s.pool := (look_of_eq found).error
    exact ⟨hsource, fun q hq => .inl (hpool ▸ hq), nofun⟩
  | waiting t found =>
    obtain ⟨-, -, -, hpool⟩ := (look_of_eq found).mustWait
    refine ⟨hsource, fun q hq => .inl ?_, fun w hw => ?_⟩
    · rwa [(wait_alike host t c).active, hpool] at hq
    · obtain rfl := Stretch.waits.inj hw
      unfold wait
      split <;> rfl
  | granted r t u found valid =>
    obtain ⟨hset, htakes⟩ := takes_of_found found valid
    refine ⟨hsource, fun q hq => ?_, nofun⟩
    rcases List.mem_append.mp hq with hq | hq
    · exact .inl (htakes.active_suffix.subset hq)
    · obtain rfl := List.mem_singleton.mp hq
      refine .inr ⟨_, rfl, rfl, ?_⟩
      have hu : u.pool.IsCoded := by rw [Pool.IsCoded, hset.expected, hset.source, hcoded]
      exact (codeFor_of_coded hu c).trans (by rw [hset.source])
  | exhausted t miss =>
    exact ⟨hsource, fun q hq => .inl (miss.takes.2.active_suffix.subset hq), nofun⟩

theorem acquire_stamps (host : Host σ) (spare : Nat) (c : Checkout) (hcoded : s.pool.IsCoded) :
    Stamps s.pool c.credentials (acquire host spare c s) := by
  obtain ⟨n, t, -, hmisses, hend⟩ := acquire_ends host spare c s
  have hset := hmisses.settings
  have ht : t.pool.IsCoded := by rw [Pool.IsCoded, hset.expected, hset.source, hcoded]
  have hstamps := hend.stamps ht
  refine ⟨hstamps.source.trans hset.source, fun q hq => ?_, hstamps.waits⟩
  rcases hstamps.active q hq with hold | hnew
  · exact .inl (hmisses.active_suffix.subset hold)
  · exact .inr (hset.source ▸ hnew)

theorem proceed_stamps (host : Host σ) (c : Checkout) (hcoded : s.pool.IsCoded) :
    Stamps s.pool c.credentials (s.proceed host c) := acquire_stamps host _ c hcoded

theorem begin_stamps (host : Host σ) (credentials : Option (String × String))
    (hcoded : s.pool.IsCoded) : Stamps s.pool credentials (s.begin host credentials) :=
  proceed_stamps (s := (s.now host).2) host { credentials, started := (s.now host).1 } hcoded

theorem resume_stamps (host : Host σ) (w : Waiting) (hcoded : s.pool.IsCoded) :
    Stamps s.pool w.checkout.credentials (s.resume host w) := by
  by_cases hg : s.pool.generation = w.generation
  · rw [resume_of_same hg]
    have hwaited : (s.waited host w).pool.IsCoded := hcoded
    obtain ⟨hsource, hactive, hwaits⟩ := proceed_stamps host w.checkout hwaited
    exact ⟨hsource, hactive, hwaits⟩
  · rw [resume_of_other hg]
    exact ⟨rfl, fun q hq => .inl hq, nofun⟩

end Site

namespace Desk

variable {σ : Type}

def asks? (d : Desk σ) : Event → Option (Option (String × String))
  | .checkout credentials => if d.isHeld then some credentials else none
  | _ => none

def serves? (host : Host σ) (d : Desk σ) (e : Event) : Option Nat :=
  if d.leases.length < (d.step host e).leases.length then d.runs? e else none

/-- Whom checkouts are begun for while one event after the other happens, in the order of their
numbers. -/
def requests (host : Host σ) : Desk σ → List Event → List (Option (String × String))
  | _, [] => []
  | d, e :: es => (d.asks? e).toList ++ requests host (d.step host e) es

def served (host : Host σ) : Desk σ → List Event → List Nat
  | _, [] => []
  | d, e :: es => (d.serves? host e).toList ++ served host (d.step host e) es

/-- Whom a lease is for, if checkouts were begun for those and ended with leases in that order. -/
def whom? (requests : List (Option (String × String))) (served : List Nat) (lease : Nat) :
    Option (Option (String × String)) :=
  served[lease]?.bind fun n => requests[n]?

/-- Whom a lease is for: the user and password, if any, of the checkout that it was handed to. -/
def madeFor? (host : Host σ) (d : Desk σ) (es : List Event) (lease : Nat) :
    Option (Option (String × String)) :=
  whom? (d.requests host es) (d.served host es) lease

theorem getElem?_append_of_some {α : Type} {l : List α} {i : Nat} {a : α} (h : l[i]? = some a)
    (m : List α) : (l ++ m)[i]? = some a :=
  (List.getElem?_append_left (List.getElem?_eq_some_iff.mp h).1).trans h

theorem whom?_append {requests : List (Option (String × String))} {served : List Nat} {i : Nat}
    {credentials : Option (String × String)} (h : whom? requests served i = some credentials)
    (more : List (Option (String × String))) (later : List Nat) :
    whom? (requests ++ more) (served ++ later) i = some credentials := by
  obtain ⟨n, hn, hc⟩ := Option.bind_eq_some_iff.mp h
  exact Option.bind_eq_some_iff.mpr
    ⟨n, getElem?_append_of_some hn later, getElem?_append_of_some hc more⟩

theorem requests_concat (host : Host σ) (d : Desk σ) (es : List Event) (e : Event) :
    d.requests host (es ++ [e]) = d.requests host es ++ ((d.run host es).asks? e).toList := by
  induction es generalizing d with
  | nil => simp [requests, run]
  | cons f es ih =>
    rw [List.cons_append, requests, requests, ih, List.append_assoc]
    rfl

theorem served_concat (host : Host σ) (d : Desk σ) (es : List Event) (e : Event) :
    d.served host (es ++ [e]) = d.served host es ++ ((d.run host es).serves? host e).toList := by
  induction es generalizing d with
  | nil => simp [served, run]
  | cons f es ih =>
    rw [List.cons_append, served, served, ih, List.append_assoc]
    rfl

structure Stamped (d : Desk σ) (requests : List (Option (String × String))) (served : List Nat) :
    Prop where
  begun : requests.length = d.begun
  waiting : ∀ v ∈ d.waiters, requests[v.id]? = some v.waiting.checkout.credentials
  leases : served.length = d.leases.length
  active : ∀ r ∈ d.pool.active, ∃ i credentials,
    (d.leases.map (·.grant.flag))[i]? = some r.flag ∧
      whom? requests served i = some credentials ∧ r.typeCode = d.pool.source.codeOf credentials

namespace Stamped

variable {host : Host σ} {d d' : Desk σ} {reqs : List (Option (String × String))} {ns : List Nat}
  {e : Event} {n : Nat} {credentials : Option (String × String)}

/-- Where no checkout begins or ends. -/
theorem aside (h : d.Stamped reqs ns) (hbegun : d'.begun = d.begun)
    (hw : ∀ v ∈ d'.waiters, ∃ u ∈ d.waiters, u.id = v.id ∧ u.waiting = v.waiting)
    (hl : d'.leases.map (·.grant.flag) = d.leases.map (·.grant.flag))
    (ha : ∀ r ∈ d'.pool.active, r ∈ d.pool.active ∧ d'.pool.source = d.pool.source) :
    d'.Stamped reqs ns where
  begun := h.begun.trans hbegun.symm
  waiting v hv := by
    obtain ⟨u, hu, hid, hwaiting⟩ := hw v hv
    rw [← hid, ← hwaiting]
    exact h.waiting u hu
  leases := by rw [h.leases, ← List.length_map (·.grant.flag), ← hl, List.length_map]
  active r hr := by
    obtain ⟨hold, hsource⟩ := ha r hr
    rw [hl, hsource]
    exact h.active r hold

/-- A checkout is begun. -/
theorem asked (h : d.Stamped reqs ns) (credentials : Option (String × String)) :
    { d with begun := d.begun + 1 }.Stamped (reqs ++ [credentials]) ns where
  begun := by rw [List.length_append, h.begun, List.length_singleton]
  waiting v hv := getElem?_append_of_some (h.waiting v hv) _
  leases := h.leases
  active r hr := by
    obtain ⟨i, c, hi, hc, hcode⟩ := h.active r hr
    have hmore := whom?_append hc [credentials] []
    rw [List.append_nil] at hmore
    exact ⟨i, c, hi, hmore, hcode⟩

theorem afterFailure (h : d.Stamped reqs ns) {f : Failure} {s : Site σ}
    (hr : Site.Stamps d.pool credentials (.done (.error f), s)) :
    (Desk.afterStretch d n (.done (.error f), s)).2.Stamped reqs ns := by
  refine h.aside rfl (Balanced.same_waiters d) rfl fun q hq => ?_
  rcases hr.active q hq with hold | ⟨g, hg, -⟩
  · exact ⟨hold, hr.source⟩
  · cases hg

theorem afterWait (h : d.Stamped reqs ns) (hn : reqs[n]? = some credentials) {w : Waiting}
    {s : Site σ} (hr : Site.Stamps d.pool credentials (.waits w, s)) :
    (Desk.afterStretch d n (.waits w, s)).2.Stamped reqs ns where
  begun := h.begun
  waiting v hv := by
    rcases List.mem_append.mp hv with hold | hnew
    · exact h.waiting v hold
    · rw [List.mem_singleton.mp hnew, hn, hr.waits w rfl]
  leases := h.leases
  active q hq := by
    rcases hr.active q hq with hold | ⟨g, hg, -⟩
    · obtain ⟨i, c, hi, hc, hcode⟩ := h.active q hold
      exact ⟨i, c, hi, hc, hcode.trans (congrArg (Source.codeOf · c) hr.source.symm)⟩
    · cases hg

theorem afterGrant (h : d.Stamped reqs ns) (hn : reqs[n]? = some credentials) {g : Grant}
    {s : Site σ} (hr : Site.Stamps d.pool credentials (.done (.ok g), s)) :
    (Desk.afterStretch d n (.done (.ok g), s)).2.Stamped reqs (ns ++ [n]) where
  begun := h.begun
  waiting := h.waiting
  leases := by simp [Desk.afterStretch, h.leases]
  active q hq := by
    have hsource : s.pool.source = d.pool.source := hr.source
    rcases hr.active q hq with hold | ⟨g', hg, hflag, hcode⟩
    · obtain ⟨i, c, hi, hc, hcode⟩ := h.active q hold
      have hmore := whom?_append hc [] [n]
      rw [List.append_nil] at hmore
      refine ⟨i, c, ?_, hmore, hcode.trans (congrArg (Source.codeOf · c) hsource.symm)⟩
      have hleases : (Desk.afterStretch d n (.done (.ok g), s)).2.leases.map (·.grant.flag) =
          d.leases.map (·.grant.flag) ++ [g.flag] := List.map_append
      rw [hleases]
      exact getElem?_append_of_some hi _
    · obtain rfl := Except.ok.inj (Stretch.done.inj hg)
      refine ⟨d.leases.length, credentials, ?_, ?_,
        hcode.trans (congrArg (Source.codeOf · credentials) hsource.symm)⟩
      · simp [Desk.afterStretch, hflag]
      · simp [whom?, ← h.leases, hn]

/-- A stretch of a checkout ends. -/
theorem afterStretch (h : d.Stamped reqs ns) (hn : reqs[n]? = some credentials)
    {r : Stretch × Site σ} (hr : Site.Stamps d.pool credentials r) :
    (Desk.afterStretch d n r).2.Stamped reqs
      (ns ++ if d.leases.length < (Desk.afterStretch d n r).2.leases.length then [n] else []) := by
  obtain ⟨(f | g) | w, s⟩ := r
  · rw [if_neg (by simp [Desk.afterStretch]), List.append_nil]
    exact h.afterFailure hr
  · rw [if_pos (by simp [Desk.afterStretch])]
    exact h.afterGrant hn hr
  · rw [if_neg (by simp [Desk.afterStretch]), List.append_nil]
    exact h.afterWait hn hr

theorem drained (h : d.Stamped reqs ns) (hbegun : d'.begun = d.begun)
    (hw : ∀ v ∈ d'.waiters, ∃ u ∈ d.waiters, u.id = v.id ∧ u.waiting = v.waiting)
    (hl : d'.leases = d.leases) {s : Site σ} (hd : d'.site = s.drain host) :
    d'.Stamped reqs ns := by
  refine h.aside hbegun hw (by rw [hl]) fun r hr => ?_
  rw [pool, hd, (s.drain_lists host).2] at hr
  exact absurd hr List.not_mem_nil

theorem closeUnused (h : d.Stamped reqs ns) : (d.closeUnused host).Stamped reqs ns := by
  unfold Desk.closeUnused
  split
  · exact h.drained rfl (Balanced.same_waiters d) rfl rfl
  · exact h

theorem release (h : d.Stamped reqs ns) (host : Host σ) (i : Nat) :
    (d.release host i).Stamped reqs ns := by
  have heffect := d.release_effect host i
  have hmarked : (d.markReleased i).leases.map (·.grant.flag) = d.leases.map (·.grant.flag) := by
    have hgrants := congrArg (List.map (·.flag)) (Lease.grants_modify d.leases i)
    rwa [List.map_map, List.map_map] at hgrants
  generalize d.release host i = d' at heffect
  cases heffect with
  | nothing _ none_goes_on => exact h
  | returned _ l lease out isOpen =>
    obtain ⟨hbegun, hw⟩ := giveBack_waiters host (d.markReleased i) l
    refine h.aside hbegun ?_ (by rw [giveBack_leases, hmarked]) fun r hr => ?_
    · rw [hw]
      split
      · exact Balanced.wakeAll_waiters d
      · exact Balanced.same_waiters d
    · have hsite : ((d.markReleased i).giveBack host l).pool =
          (d.site.giveBack host l.grant.flag).2.pool := by rw [pool, giveBack_site]; rfl
      rw [hsite] at hr ⊢
      exact ⟨(d.site.giveBack_active host _).subset hr,
        (d.site.giveBack_conns host _).1.source⟩
  | orphaned _ l lease out gone =>
    obtain ⟨hbegun, hw⟩ := closeOrphan_waiters host (d.markReleased i) l
    have hpool : ((d.markReleased i).closeOrphan host l).pool.active = d.pool.active ∧
        ((d.markReleased i).closeOrphan host l).pool.source = d.pool.source := by
      unfold Desk.closeOrphan
      split <;> exact ⟨rfl, rfl⟩
    refine h.aside hbegun ?_ (by rw [closeOrphan_leases, hmarked]) fun r hr => ?_
    · rw [hw]
      exact Balanced.same_waiters d
    · exact ⟨hpool.1 ▸ hr, hpool.2⟩

/-- What others than checkouts do. -/
theorem others (h : d.Stamped reqs ns) (host : Host σ)
    (hc : ∀ credentials, e ≠ .checkout credentials) (hr : ∀ id, e ≠ .resume id) :
    (d.step host e).Stamped (reqs ++ (d.asks? e).toList) (ns ++ (d.serves? host e).toList) := by
  have hquiet : d.asks? e = none ∧ d.runs? e = none := by
    cases e with
    | checkout credentials => exact absurd rfl (hc credentials)
    | resume id => exact absurd rfl (hr id)
    | _ => exact ⟨rfl, rfl⟩
  rw [serves?, hquiet.1, hquiet.2, ite_self, Option.toList_none, Option.toList_none,
    List.append_nil, List.append_nil]
  have heffect := d.step_effect host e
  by_cases hi : ∃ i, e = .release i
  · obtain ⟨i, rfl⟩ := hi
    exact h.release host i
  · generalize d.step host e = d' at heffect
    cases heffect with
    | nothing _ none_goes_on => exact h
    | begun credentials held => exact absurd rfl (hc credentials)
    | resumed id v waiter => exact absurd rfl (hr id)
    | returned i l lease out isOpen => exact absurd ⟨i, rfl⟩ hi
    | orphaned i l lease out gone => exact absurd ⟨i, rfl⟩ hi
    | called i k l lease valid =>
      exact h.aside rfl (Balanced.same_waiters d) rfl fun r hr => ⟨hr, rfl⟩
    | asked i l lease out valid =>
      exact h.aside rfl (Balanced.same_waiters d) rfl fun r hr => ⟨hr, rfl⟩
    | interrupted held =>
      exact h.aside rfl (Balanced.wakeAll_waiters d) rfl fun r hr => ⟨hr, rfl⟩
    | shut held => exact h.drained rfl (Balanced.wakeAll_waiters d) rfl rfl
    | drained held => exact h.drained rfl (Balanced.same_waiters d) rfl rfl
    | configured setting p held set => exact h.drained rfl (Balanced.same_waiters d) rfl rfl
    | letGo held =>
      have hfree : Stamped { d with isHeld := false } reqs ns :=
        ⟨h.begun, h.waiting, h.leases, h.active⟩
      exact hfree.closeUnused

theorem checkout (h : d.Stamped reqs ns) (hcoded : d.pool.IsCoded) (hheld : d.isHeld = true)
    (credentials : Option (String × String)) :
    (d.step host (.checkout credentials)).Stamped (reqs ++ [credentials])
      (ns ++ (d.serves? host (.checkout credentials)).toList) := by
  have hstep : d.step host (.checkout credentials) =
      (Desk.afterStretch { d with begun := d.begun + 1 } d.begun
        (d.site.begin host credentials)).2 := by
    simp [Desk.step, hheld, Desk.checkout]
  have hserves : (d.serves? host (.checkout credentials)).toList =
      if d.leases.length < (d.step host (.checkout credentials)).leases.length then [d.begun]
      else [] := by
    rw [serves?, runs?, if_pos hheld]
    split <;> rfl
  have hn : (reqs ++ [credentials])[d.begun]? = some credentials := by simp [← h.begun]
  have hstamps : Site.Stamps d.pool credentials (d.site.begin host credentials) :=
    d.site.begin_stamps host credentials hcoded
  rw [hserves, hstep]
  exact (h.asked credentials).afterStretch hn hstamps

theorem resume (h : d.Stamped reqs ns) (hcoded : d.pool.IsCoded) {id : Nat} {v : Waiter}
    (hv : d.waiters.find? (·.id == id) = some v) :
    (d.step host (.resume id)).Stamped reqs (ns ++ (d.serves? host (.resume id)).toList) := by
  have hid : v.id = id := by simpa using List.find?_some hv
  have hstep : d.step host (.resume id) =
      (Desk.afterStretch { d with waiters := d.waiters.eraseP (·.id == id) } id
        (d.site.resume host v.waiting)).2.closeUnused host := by
    show (d.resume host id).2 = _
    rw [Desk.resume, hv]
  have hserves : (d.serves? host (.resume id)).toList =
      if d.leases.length < (d.step host (.resume id)).leases.length then [id] else [] := by
    rw [serves?, runs?, hv, Option.map_some, hid]
    split <;> rfl
  have hn : reqs[id]? = some v.waiting.checkout.credentials :=
    hid ▸ h.waiting v (List.mem_of_find?_eq_some hv)
  have hleft : Stamped { d with waiters := d.waiters.eraseP (·.id == id) } reqs ns :=
    h.aside rfl (fun u hu => ⟨u, List.mem_of_mem_eraseP hu, rfl, rfl⟩) rfl fun r hr => ⟨hr, rfl⟩
  have hstamps : Site.Stamps d.pool v.waiting.checkout.credentials
      (d.site.resume host v.waiting) := d.site.resume_stamps host v.waiting hcoded
  rw [hserves, hstep, closeUnused_leases]
  exact (hleft.afterStretch hn hstamps).closeUnused

theorem step (h : d.Stamped reqs ns) (hcoded : d.pool.IsCoded) (host : Host σ) (e : Event) :
    (d.step host e).Stamped (reqs ++ (d.asks? e).toList) (ns ++ (d.serves? host e).toList) := by
  cases e with
  | checkout credentials =>
    cases hheld : d.isHeld with
    | true =>
      rw [asks?, if_pos hheld]
      exact h.checkout hcoded hheld credentials
    | false =>
      have hstep : d.step host (.checkout credentials) = d := by
        simp [Desk.step, Event.isOfHolder, hheld]
      simpa [asks?, serves?, hstep, hheld] using h
  | resume id =>
    cases hv : d.waiters.find? (·.id == id) with
    | some v =>
      have hasks : d.asks? (.resume id) = none := rfl
      rw [hasks, Option.toList_none, List.append_nil]
      exact h.resume hcoded hv
    | none =>
      have hstep : d.step host (.resume id) = d := by
        show (d.resume host id).2 = d
        rw [Desk.resume, hv]
      simpa [asks?, serves?, hstep] using h
  | _ => exact h.others host (by simp) (by simp)

end Stamped

theorem run_coded (host : Host σ) (source : Source) (config : PoolConfig) (w : σ)
    (es : List Event) : ((start source config w).run host es).pool.IsCoded := by
  rw [run_eq_forget]
  exact (history_upToDate source config w (.inl rfl) es).expected

theorem run_stamped (host : Host σ) (source : Source) (config : PoolConfig) (w : σ)
    (es : List Event) :
    let d := start source config w
    (d.run host es).Stamped (d.requests host es) (d.served host es) := by
  intro d
  induction es using List.reverseRecOn with
  | nil => exact ⟨rfl, nofun, rfl, nofun⟩
  | append_singleton es e ih =>
    rw [run_concat, requests_concat, served_concat]
    exact ih.step (run_coded host source config w es) host e

/-- A lease that is out and valid has its record in an open pool, and the code of those that it is
for. -/
theorem run_code (host : Host σ) (source : Source) (config : PoolConfig) (w : σ) (es : List Event)
    {i : Nat} {l : Lease} (hl : ((start source config w).run host es).leases[i]? = some l)
    (hout : l.released = false) (hvalid : ((start source config w).run host es).isValid l = true) :
    let d := start source config w
    (d.run host es).isOpen = true ∧ ∃ r credentials,
      (d.run host es).pool.activeWith? l.grant.flag = some r ∧ r.conn = l.grant.conn ∧
        d.madeFor? host es i = some credentials ∧
        (r.typeCode = (d.run host es).pool.expected ↔
          (d.run host es).pool.source.IsOwn credentials) := by
  intro d
  have hstamped := run_stamped host source config w es
  have hsound := (start_sound source config w).history host es
  have hcoded := run_coded host source config w es
  dsimp only at hstamped
  rw [run_eq_forget] at hl hvalid hstamped hcoded ⊢
  generalize (start source config w).watched.history host es = now at *
  have hflag_index : ∀ {j m}, now.leases[j]? = some m → m.grant.flag = l.grant.flag → j = i :=
    fun hm hflag => hsound.orderly.lease_index hm hl hflag
  obtain ⟨q, hq, hqflag⟩ := hsound.orderly.live l (List.mem_of_getElem? hl) hout hvalid
  cases hf : now.pool.activeWith? l.grant.flag with
  | none => exact absurd hqflag (by simpa using List.find?_eq_none.mp hf q hq)
  | some r =>
    have hr : r ∈ now.pool.active := List.mem_of_find?_eq_some hf
    have hflag : r.flag = l.grant.flag := by simpa using List.find?_some hf
    have hopen : now.isOpen = true := by
      by_contra hgone
      rw [(hsound.settled (by simpa using hgone)).2.2.2] at hr
      exact List.not_mem_nil hr
    obtain ⟨m, hm, -, hmflag, hmconn⟩ := hsound.orderly.held r hr
    obtain ⟨j, hj⟩ := List.mem_iff_getElem?.mp hm
    obtain rfl : j = i := hflag_index hj (hmflag.trans hflag)
    obtain rfl := Option.some.inj (hj.symm.trans hl)
    obtain ⟨k, credentials, hk, hwhom, hcode⟩ := hstamped.active r hr
    obtain ⟨m, hm, hmflag⟩ := Option.map_eq_some_iff.mp (List.getElem?_map .. ▸ hk)
    obtain rfl : k = j := hflag_index hm (hmflag.trans hflag)
    refine ⟨hopen, r, credentials, hf, hmconn.symm, hwhom, ?_⟩
    rw [hcode, ← Source.codeOf_eq_iff]
    exact Eq.congr_right hcoded

section

variable (host : Host σ) (d : Desk σ) (es : List Event) (i : Nat) (c : ConnId)

/-- A lease is given back, and then its connection is idle, behind all others, and not closed. -/
structure ReturnKeeps : Prop where
  idle : ∃ q : Record, q.conn = c ∧
    (d.run host (es ++ [.release i])).pool.idle = (d.run host es).pool.idle ++ [q]
  unclosed : (d.ledger host (es ++ [.release i])).closings = (d.ledger host es).closings

structure ReturnCloses : Prop where
  idle : (d.run host (es ++ [.release i])).pool.idle = (d.run host es).pool.idle
  closed : (d.ledger host (es ++ [.release i])).closings = c :: (d.ledger host es).closings
  /-- Where drivers open new connections only, this is the only time, and the pool never has the
  connection again. -/
  once : ∀ fs, (d.ledger host (es ++ [.release i] ++ fs)).OpensNew →
    (d.ledger host (es ++ [.release i] ++ fs)).closings.count c = 1 ∧
      c ∉ (d.run host (es ++ [.release i] ++ fs)).tracked

end

/-- What giving back a good connection writes down, and what it leaves idle. -/
theorem release_closings {d : Desk (σ × Ledger)} {host : Host σ} {i : Nat} {l : Lease} {r : Record}
    (hl : d.leases[i]? = some l) (hout : l.released = false) (hopen : d.isOpen = true)
    (hf : d.pool.activeWith? l.grant.flag = some r)
    (hgood : d.findsBad (host.withLedger .pool) i = false) :
    (d.release (host.withLedger .pool) i).site.world.2.closings =
        (if d.pool.keeps r then [] else [r.conn]) ++ d.site.world.2.closings ∧
      ∃ q : Record, q.conn = r.conn ∧ (d.release (host.withLedger .pool) i).pool.idle =
        d.pool.idle ++ if d.pool.keeps r then [q] else [] := by
  have hvalid : ((d.site.modify (·.removeActive l.grant.flag)).validate
      (host.withLedger .pool) r).1 = true := by
    by_contra hbad
    have hfound := findsBad_iff.mpr ⟨hopen, l, r, hl, hout, hf, by simpa using hbad⟩
    exact Bool.false_ne_true (hgood.symm.trans hfound)
  have hback := Site.giveBack_closings (s := d.site) hf (Prod.ext hvalid rfl)
  rwa [← release_site hl hout hopen] at hback

theorem run_release_closings (host : Host σ) (d : Desk σ) (es : List Event) {i : Nat} {l : Lease}
    {r : Record} (hl : (d.run host es).leases[i]? = some l) (hout : l.released = false)
    (hopen : (d.run host es).isOpen = true)
    (hf : (d.run host es).pool.activeWith? l.grant.flag = some r)
    (hgood : (d.run host es).findsBad host i = false) :
    (d.ledger host (es ++ [.release i])).closings =
        (if (d.run host es).pool.keeps r then [] else [r.conn]) ++ (d.ledger host es).closings ∧
      ∃ q : Record, q.conn = r.conn ∧ (d.run host (es ++ [.release i])).pool.idle =
        (d.run host es).pool.idle ++ if (d.run host es).pool.keeps r then [q] else [] := by
  have hnext : d.run host (es ++ [.release i]) =
      ((d.watched.history host es).release (host.withLedger .pool) i).forget := by
    rw [run_eq_forget, history_append]
    rfl
  have hledger : d.ledger host (es ++ [.release i]) =
      ((d.watched.history host es).release (host.withLedger .pool) i).site.world.2 := by
    rw [ledger, history_append]
    rfl
  rw [hnext, hledger, run_eq_forget]
  rw [run_eq_forget] at hl hopen hf hgood
  rw [findsBad_forget] at hgood
  exact release_closings hl hout hopen hf hgood

/-- A lease whose connection is good is given back: the connection is kept exactly if there is room
and the lease is for the user and password of the source, and it is closed otherwise. -/
theorem run_kept_iff_own (host : Host σ) (source : Source) (config : PoolConfig) (w : σ)
    (es : List Event) (i : Nat) (l : Lease)
    (hl : ((start source config w).run host es).leases[i]? = some l) (hout : l.released = false)
    (hvalid : ((start source config w).run host es).isValid l = true)
    (hgood : ((start source config w).run host es).findsBad host i = false) :
    let d := start source config w
    let p := (d.run host es).pool
    ∃ credentials, d.madeFor? host es i = some credentials ∧
      if p.idle.length < p.config.maxIdle.toNat ∧ p.source.IsOwn credentials then
        d.ReturnKeeps host es i l.grant.conn
      else d.ReturnCloses host es i l.grant.conn := by
  intro d p
  obtain ⟨hopen, r, credentials, hf, hconn, hwhom, hcode⟩ :=
    run_code host source config w es hl hout hvalid
  obtain ⟨hclosings, q, hq, hidle⟩ := run_release_closings host d es hl hout hopen hf hgood
  have hkeeps : p.keeps r = true ↔
      p.idle.length < p.config.maxIdle.toNat ∧ p.source.IsOwn credentials := by
    rw [Pool.keeps, Bool.and_eq_true, decide_eq_true_eq, beq_iff_eq, hcode]
  rw [hconn] at hclosings hq
  refine ⟨credentials, hwhom, ?_⟩
  split
  · rename_i hown
    rw [if_pos (hkeeps.mpr hown)] at hclosings hidle
    exact ⟨⟨q, hq, hidle⟩, hclosings⟩
  · rename_i hnot
    rw [if_neg (mt hkeeps.mp hnot)] at hclosings hidle
    refine ⟨by rw [hidle, List.append_nil], hclosings, fun fs hn => ?_⟩
    have hc : l.grant.conn ∈ (d.ledger host (es ++ [.release i] ++ fs)).closings :=
      closings_later source config w (by rw [hclosings]; exact List.mem_cons_self) fs
    obtain ⟨honce, -, hgone⟩ := List.nodup_append.mp (run_closings host source config w _ hn)
    exact ⟨List.count_eq_one_of_mem honce hc, fun hkept => hgone _ hc _ hkept rfl⟩

/-- A checkout for a foreign user waits until that user and password have become those of the
source. What it is handed is kept. -/
theorem kept_after_change :
    let d := start { driver := "mock", url := "mock:db" } { maxActive := 1 } {}
    let es : List Event :=
      [.checkout none, .checkout (some ("sa", "secret")),
        .configure (.source (.username (some "sa"))),
        .configure (.source (.password (some "secret"))), .resume 1]
    d.madeFor? World.host es 1 = some (some ("sa", "secret")) ∧
      d.ReturnKeeps World.host es 1 1 := by
  intro d es
  have hl : (d.run World.host es).leases[1]? = some ⟨⟨1, 2, 1⟩, false⟩ := by decide
  have hmade : d.madeFor? World.host es 1 = some (some ("sa", "secret")) := by decide
  obtain ⟨credentials, hwhom, hreturn⟩ :=
    run_kept_iff_own World.host _ _ _ es 1 _ hl rfl (by decide) (by decide)
  obtain rfl := Option.some.inj (hwhom.symm.trans hmade)
  rw [if_pos (by decide)] at hreturn
  exact ⟨hmade, hreturn⟩

end Desk
end ConnPool
