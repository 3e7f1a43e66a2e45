import ConnPool.Proofs.Alone

namespace ConnPool

namespace Sqlite

variable {δ : Type}

namespace Engine

def next (engine : Engine δ) (settings : Settings) (content : δ) (sql : String)
    (params : List Value) : δ :=
  match engine.run settings content sql params with
  | .ok effect => effect.content?.getD content
  | .error _ => content

def nextOf (engine : Engine δ) (settings : Settings) (content : δ) : Call → δ
  | .execute sql params | .query sql params => engine.next settings content sql params
  | _ => content

end Engine

namespace Connection

def content? (c : Connection (Database δ)) : Option δ :=
  if c.isClosed then none else some c.store.content

theorem content?_of_open {c : Connection (Database δ)} (h : c.isClosed = false) :
    c.content? = some c.store.content := if_neg (by simp [h])

namespace Made

/-- Whether the next end of a transaction takes it back. -/
def takenBack (ms : List Made) : Bool := ms.findSome? ends? == some .rollback

/-- The statements that succeeded and were not undone. A statement is undone if it ran with
auto-commit off and the next end of a transaction takes it back. -/
def survivors : List Made → List Call
  | [] => []
  | m :: ms =>
    if m.call.sql?.isSome && m.succeeded && (m.autoCommit || !takenBack ms) then
      m.call :: survivors ms
    else survivors ms

theorem mem_survivors {ms : List Made} {k : Call} (h : k ∈ survivors ms) :
    k.sql?.isSome = true ∧ ∃ m ∈ ms, m.call = k := by
  induction ms with
  | nil => cases h
  | cons m ms ih =>
    rw [survivors] at h
    have hrest (h : k ∈ survivors ms) : k.sql?.isSome = true ∧ ∃ n ∈ m :: ms, n.call = k := by
      obtain ⟨hsql, n, hn, hk⟩ := ih h
      exact ⟨hsql, n, List.mem_cons_of_mem m hn, hk⟩
    split at h
    · rename_i hm
      rcases List.mem_cons.mp h with rfl | h
      · simp only [Bool.and_eq_true] at hm
        exact ⟨hm.1.1, m, List.mem_cons_self, rfl⟩
      · exact hrest h
    · exact hrest h

variable {m : Made} {ms : List Made}

/-- A statement ends no transaction. -/
theorem ends?_of_sql (h : m.call.sql?.isSome = true) : m.ends? = none := by
  obtain ⟨k, autoCommit, succeeded⟩ := m
  cases k with
  | execute sql params => cases succeeded <;> rfl
  | query sql params => cases succeeded <;> rfl
  | _ => cases h

theorem takenBack_of_ends {control : Control} (h : m.ends? = some control) :
    takenBack (m :: ms) = (control == .rollback) := by
  rw [takenBack, List.findSome?_cons, h]
  rfl

theorem takenBack_of_goes_on (h : m.ends? = none) : takenBack (m :: ms) = takenBack ms := by
  rw [takenBack, List.findSome?_cons, h, takenBack]

theorem survivors_of_ends {control : Control} (h : m.ends? = some control) :
    survivors (m :: ms) = survivors ms := by
  have hsql : m.call.sql?.isSome = false := by
    cases hs : m.call.sql?.isSome with
    | true => rw [ends?_of_sql hs] at h; cases h
    | false => rfl
  simp [survivors, hsql]

end Made

theorem call_of_mem_made {ℓ : Type} {lib : Library ℓ} {c : Connection ℓ} {ks : List Call} {m : Made}
    (h : m ∈ made lib c ks) : m.call ∈ ks := by
  induction ks generalizing c with
  | nil => cases h
  | cons k ks ih =>
    rcases List.mem_cons.mp h with rfl | h
    · exact List.mem_cons_self
    · exact List.mem_cons_of_mem k (ih h)

end Connection

namespace Database

variable {engine : Engine δ} {plain : String → Prop} {fit : δ → Prop} {settings : Settings}
  {d : Database δ} {sql : String}

/-- A database that could be committed, and rolled back. -/
structure Fits (fit : δ → Prop) (settings : Settings) (d : Database δ) : Prop where
  settings : d.settings = settings
  content : fit d.content
  kept : fit d.kept

theorem Fits.begin (h : d.Fits fit settings) : d.begin.Fits fit settings where
  settings := d.begin_settings.trans h.settings
  content := d.begin_content ▸ h.content
  kept := d.begin_kept ▸ h.kept

theorem accept_of_fit (h : engine.ChecksAtOnce plain fit) (d : Database δ) {content : δ}
    (hfit : fit content) (n : Nat) : (d.accept engine content n).1 = .ok .done ∧
      (d.accept engine content n).2.content = content := by
  unfold accept
  split
  · exact ⟨rfl, rfl⟩
  · rw [h.settled content hfit]
    exact ⟨rfl, rfl⟩

/-- What a statement leaves does not depend on whether a transaction is open, and one that does not
succeed leaves what was there. -/
theorem run_next (h : engine.ChecksAtOnce plain fit) (hj : settings.journaled = true)
    (hd : d.Fits fit settings) (hp : plain sql) (params : List Value) :
    (d.run engine sql params).2.content = engine.next settings d.content sql params ∧
      fit (engine.next settings d.content sql params) ∧
      ((d.run engine sql params).1 = .ok .done ∨
        engine.next settings d.content sql params = d.content) := by
  have hreject (content : δ) : (d.reject engine content).content = d.content := by
    simp [reject, hd.settings, hj]
  simp only [run, h.no_control sql hp, Engine.next, hd.settings]
  cases hr : engine.run settings d.content sql params with
  | error f => cases f <;> exact ⟨rfl, hd.content, .inr rfl⟩
  | ok effect =>
    cases effect with
    | rows columns rows => exact ⟨rfl, hd.content, .inr rfl⟩
    | defined content =>
      have hfit := h.run settings d.content sql params _ content hp hd.content hr rfl
      obtain ⟨hdone, hcontent⟩ := accept_of_fit h d hfit d.changes
      exact ⟨hcontent, hfit, .inl hdone⟩
    | changed content n =>
      have hfit := h.run settings d.content sql params _ content hp hd.content hr rfl
      obtain ⟨hdone, hcontent⟩ := accept_of_fit h d hfit n
      exact ⟨hcontent, hfit, .inl hdone⟩
    | untouched => exact ⟨rfl, hd.content, .inr rfl⟩
    | rejected content text => exact ⟨hreject content, hd.content, .inr rfl⟩

end Database

namespace Connection

variable {engine : Engine δ} {plain : String → Prop} {fit : δ → Prop} {settings : Settings}
  {c : Connection (Database δ)} {d d' : Database δ} {k : Call}

def begun (autoCommit : Bool) (d : Database δ) : Database δ := if autoCommit then d else d.begin

theorem beginIfNeeded_eq (engine : Engine δ) (on : Bool) (d : Database δ) :
    beginIfNeeded engine.library on d = (.ok (), begun on d) := by
  cases on with
  | true => rfl
  | false =>
    cases hs : d.saved with
    | some content =>
      rw [beginIfNeeded_of_not_needed (.inr (by simp [Engine.library, Database.inTransaction, hs]))]
      simp [begun, Database.begin, hs]
    | none =>
      rw [beginIfNeeded_of_needed (Database.inTransaction_eq_false.2 hs), reporting_ok_iff]
      exact Database.control_begin hs

theorem runStatement_eq (engine : Engine δ) (hc : c.isClosed = false) {α : Type} (sql : String)
    (params : List Value) (answer : Except Fault Reply → Nat → Outcome α) :
    let r := (begun c.autoCommit c.store).run engine sql params
    runStatement engine.library sql params answer c =
      (answer r.1 r.2.changes, { c with store := r.2 }) := by
  rw [runStatement, withHandle_of_open hc,
    Action.bind_of_ok (beginIfNeeded_eq engine c.autoCommit c.store)]
  rfl

/-- An open connection to such a database. No transaction is open while auto-commit is on. -/
structure Fits (fit : δ → Prop) (settings : Settings) (c : Connection (Database δ)) : Prop where
  opened : c.isClosed = false
  fits : c.store.Fits fit settings
  idle : c.autoCommit = true → c.store.saved = none

inductive Turn (engine : Engine δ) (settings : Settings) (c : Connection (Database δ)) (k : Call)
    (d' : Database δ) : Prop where
  | statement (runs : k.sql?.isSome = true)
      (stays : (c.call engine.library k).2.autoCommit = c.autoCommit)
      (content : d'.content = engine.nextOf settings c.store.content k)
      (kept : d'.kept = if c.autoCommit then d'.content else c.store.kept)
      (fails : (Made.of engine.library c k).succeeded = false → d'.content = c.store.content)
  | committed (ends : (Made.of engine.library c k).ends? = some .commit)
      (content : d'.content = c.store.content) (kept : d'.kept = c.store.content)
  | rolledBack (ends : (Made.of engine.library c k).ends? = some .rollback)
      (content : d'.content = c.store.kept) (kept : d'.kept = c.store.kept)
  | switchedOff (runs : k.sql? = none) (ends : (Made.of engine.library c k).ends? = none)
      (same : d' = c.store)

structure Ran (fit : δ → Prop) (settings : Settings) (autoCommit : Bool) (d : Database δ)
    (content : δ) (r : Except Fault Reply × Database δ) : Prop where
  fits : r.2.Fits fit settings
  content : r.2.content = content
  kept : r.2.kept = if autoCommit then r.2.content else d.kept
  idle : autoCommit = true → r.2.saved = none
  done : r.1 = .ok .done ∨ r.2.content = d.content

theorem Fits.run {sql : String} (params : List Value) (h : engine.ChecksAtOnce plain fit)
    (hj : settings.journaled = true) (hc : c.Fits fit settings) (hp : plain sql) :
    Ran fit settings c.autoCommit c.store (engine.next settings c.store.content sql params)
      ((begun c.autoCommit c.store).run engine sql params) := by
  have ⟨⟨closed, on⟩, d⟩ := c
  cases on with
  | true =>
    have hsame := Database.run_same (h.no_control sql hp) d params
    have hsaved : (d.run engine sql params).2.saved = none := hsame.saved.trans (hc.idle rfl)
    have hkept := Database.kept_of_saved hsaved
    obtain ⟨hcontent, hfit, hdone⟩ := Database.run_next h hj hc.fits hp params
    rw [← hcontent] at hfit hdone
    exact ⟨⟨hsame.settings.trans hc.fits.settings, hfit, hkept ▸ hfit⟩, hcontent, hkept,
      fun _ => hsaved, hdone⟩
  | false =>
    have hsame := Database.run_same (h.no_control sql hp) d.begin params
    have hkept := (hsame.kept d.inTransaction_begin).trans d.begin_kept
    obtain ⟨hcontent, hfit, hdone⟩ := Database.run_next h hj hc.fits.begin hp params
    rw [← hcontent] at hfit hdone
    rw [d.begin_content] at hcontent hdone
    exact ⟨⟨hsame.settings.trans hc.fits.begin.settings, hfit, hkept ▸ hc.fits.kept⟩, hcontent,
      hkept, nofun, hdone⟩

/-- A database that may be committed is, with the content that it has. -/
theorem commit_of_fit (h : engine.ChecksAtOnce plain fit) (hd : d.Fits fit settings) :
    ∃ d', endTransaction engine.library .commit d = (.ok (), d') ∧ d'.Fits fit settings ∧
      d'.saved = none ∧ d'.content = d.content := by
  cases hs : d.saved with
  | none => exact ⟨d, endTransaction_of_idle (Database.inTransaction_eq_false.2 hs), hd, hs, rfl⟩
  | some content =>
    have hwithin : d.inTransaction = true := by simp [Database.inTransaction, hs]
    have hcommit : d.commit engine =
        .ok { d with content := d.content, saved := none, written := false } := by
      rw [Database.commit, hs, h.settled d.content hd.content]
      rfl
    refine ⟨{ d with saved := none, written := false }, ?_,
      ⟨hd.settings, hd.content, hd.content⟩, rfl, rfl⟩
    rw [endTransaction_of_open hwithin, reporting_ok_iff]
    show d.control engine .commit = _
    simp [Database.control, hs, hcommit]

theorem rollback_of_fit (engine : Engine δ) (hj : settings.journaled = true)
    (hd : d.Fits fit settings) :
    ∃ d', endTransaction engine.library .rollback d = (.ok (), d') ∧ d'.Fits fit settings ∧
      d'.saved = none ∧ d'.content = d.kept := by
  have hsaved := Database.rollback_saved engine d
  have hcontent : (d.rollback engine).content = d.kept :=
    Database.rollback_content engine (hd.settings ▸ hj)
  have hkept := (Database.kept_of_saved hsaved).trans hcontent
  refine ⟨d.rollback engine, ?_, ⟨(d.rollback_settings engine).trans hd.settings,
    hcontent ▸ hd.kept, hkept ▸ hd.kept⟩, hsaved, hcontent⟩
  cases hs : d.saved with
  | none =>
    rw [endTransaction_of_idle (Database.inTransaction_eq_false.2 hs)]
    simp [Database.rollback, hs]
  | some content =>
    have hwithin : d.inTransaction = true := by simp [Database.inTransaction, hs]
    rw [endTransaction_of_open hwithin, reporting_ok_iff]
    show d.control engine .rollback = _
    simp [Database.control, hs]

/-- A statement is made of what its run answers. -/
theorem Fits.ran {α : Type} {sql : String} (params : List Value)
    (answer : Except Fault Reply → Nat → Outcome α) (h : engine.ChecksAtOnce plain fit)
    (hj : settings.journaled = true) (hc : c.Fits fit settings) (hp : plain sql)
    (hdone : ∀ n, (answer (.ok .done) n).isOk = true) :
    let r := runStatement engine.library sql params answer c
    r.2.Fits fit settings ∧ r.2.autoCommit = c.autoCommit ∧
      r.2.store.content = engine.next settings c.store.content sql params ∧
      r.2.store.kept = (if c.autoCommit then r.2.store.content else c.store.kept) ∧
      (r.1.isOk = false → r.2.store.content = c.store.content) := by
  have hran := hc.run params h hj hp
  rw [runStatement_eq engine hc.opened]
  refine ⟨⟨hc.opened, hran.fits, hran.idle⟩, rfl, hran.content, hran.kept, fun hfails => ?_⟩
  rcases hran.done with hd | hsame
  · dsimp only at hfails
    rw [hd] at hfails
    cases (hdone _).symm.trans hfails
  · exact hsame

theorem Fits.call (h : engine.ChecksAtOnce plain fit) (hj : settings.journaled = true)
    (hc : c.Fits fit settings) (hk : k.IsPlain plain) :
    (c.call engine.library k).2.Fits fit settings ∧
      Turn engine settings c k (c.call engine.library k).2.store := by
  cases k with
  | execute sql params =>
    obtain ⟨hfits, hon, hcontent, hkept, hfails⟩ :=
      hc.ran params executed h hj hk fun _ => rfl
    exact ⟨hfits, .statement rfl hon hcontent hkept hfails⟩
  | query sql params =>
    obtain ⟨hfits, hon, hcontent, hkept, hfails⟩ :=
      hc.ran params queried h hj hk fun _ => rfl
    exact ⟨hfits, .statement rfl hon hcontent hkept hfails⟩
  | setAutoCommit on =>
    cases on with
    | true =>
      obtain ⟨d', hcommit, hfits, hsaved, hcontent⟩ := commit_of_fit h hc.fits
      have hcall : c.call engine.library (.setAutoCommit true) =
          (.ok (), { c with autoCommit := true, store := d' }) := by
        refine setAutoCommit_of_ok (d := { c with store := d' }) ?_
        rw [withHandle_of_open hc.opened, show switching engine.library true c.store = _ from hcommit]
      rw [hcall]
      refine ⟨⟨hc.opened, hfits, fun _ => hsaved⟩,
        .committed ?_ hcontent (Database.kept_of_saved hsaved ▸ hcontent)⟩
      rw [Made.of, hcall]
      rfl
    | false =>
      have hcall : c.call engine.library (.setAutoCommit false) =
          (.ok (), { c with autoCommit := false }) :=
        setAutoCommit_of_ok (d := c) (withHandle_of_open hc.opened)
      rw [hcall]
      refine ⟨⟨hc.opened, hc.fits, fun on => by cases on⟩, .switchedOff rfl ?_ rfl⟩
      rw [Made.of, hcall]
      rfl
  | commit =>
    obtain ⟨d', hcommit, hfits, hsaved, hcontent⟩ := commit_of_fit h hc.fits
    have hcall : c.call engine.library .commit = (.ok (), { c with store := d' }) := by
      rw [show c.call engine.library .commit = _ from withHandle_of_open hc.opened, hcommit]
    rw [hcall]
    refine ⟨⟨hc.opened, hfits, fun _ => hsaved⟩,
      .committed ?_ hcontent (Database.kept_of_saved hsaved ▸ hcontent)⟩
    rw [Made.of, hcall]
    rfl
  | rollback =>
    obtain ⟨d', hback, hfits, hsaved, hcontent⟩ := rollback_of_fit engine hj hc.fits
    have hcall : c.call engine.library .rollback = (.ok (), { c with store := d' }) := by
      rw [show c.call engine.library .rollback = _ from withHandle_of_open hc.opened, hback]
    rw [hcall]
    refine ⟨⟨hc.opened, hfits, fun _ => hsaved⟩,
      .rolledBack ?_ hcontent ((Database.kept_of_saved hsaved).trans hcontent)⟩
    rw [Made.of, hcall]
    rfl
  | autoCommit => cases hk
  | setIsolation level => cases hk
  | setNetworkTimeout ms => cases hk

/-- What is left once the open transaction ends as it will is the same before and after a call, but
for a statement that is kept. -/
theorem Turn.replays (h : Turn engine settings c k d') (ms : List Made)
    (hidle : c.autoCommit = true → c.store.saved = none) :
    (Made.survivors (.of engine.library c k :: ms)).foldl (engine.nextOf settings)
        (if Made.takenBack (.of engine.library c k :: ms) then c.store.kept else c.store.content) =
      (Made.survivors ms).foldl (engine.nextOf settings)
        (if Made.takenBack ms then d'.kept else d'.content) := by
  cases h with
  | statement runs stays content kept fails =>
    have hends : (Made.of engine.library c k).ends? = none := Made.ends?_of_sql runs
    rw [Made.takenBack_of_goes_on hends, Made.survivors]
    have hruns : (Made.of engine.library c k).call.sql?.isSome = true := runs
    have hon : (Made.of engine.library c k).autoCommit = c.autoCommit := rfl
    have hcall : (Made.of engine.library c k).call = k := rfl
    rw [hruns, hon, hcall, Bool.true_and, kept]
    cases hs : (Made.of engine.library c k).succeeded with
    | true =>
      cases ha : c.autoCommit with
      | true => simp [Database.kept_of_saved (hidle ha), content]
      | false => cases Made.takenBack ms <;> simp [content]
    | false =>
      cases ha : c.autoCommit with
      | true => simp [Database.kept_of_saved (hidle ha), fails hs]
      | false => simp [fails hs]
  | committed ends content kept =>
    rw [Made.takenBack_of_ends ends, Made.survivors_of_ends ends, content, kept, ite_self,
      if_neg (by decide)]
  | rolledBack ends content kept =>
    rw [Made.takenBack_of_ends ends, Made.survivors_of_ends ends, content, kept, ite_self,
      if_pos (by decide)]
  | switchedOff runs ends same =>
    have hruns : (Made.of engine.library c k).call.sql?.isSome = false := by
      rw [Made.of, runs]
      rfl
    rw [Made.takenBack_of_goes_on ends, same]
    simp [Made.survivors, hruns]

theorem Fits.after (h : engine.ChecksAtOnce plain fit) (hj : settings.journaled = true)
    {ks : List Call} (hks : ∀ k ∈ ks, k.IsPlain plain) (hc : c.Fits fit settings) :
    (c.after engine.library ks).content? =
      some ((Made.survivors (made engine.library c ks)).foldl (engine.nextOf settings)
        (if Made.takenBack (made engine.library c ks) then c.store.kept else c.store.content)) := by
  induction ks generalizing c with
  | nil => exact content?_of_open hc.opened
  | cons k ks ih =>
    have hrest : ∀ k ∈ ks, k.IsPlain plain := fun k hk => hks k (List.mem_cons_of_mem _ hk)
    obtain ⟨hc', hturn⟩ := hc.call h hj (hks k List.mem_cons_self)
    have hafter : c.after engine.library (k :: ks) =
        (c.call engine.library k).2.after engine.library ks := rfl
    rw [hafter, ih hrest hc', made, hturn.replays _ hc.idle]

/-- Statements that run by themselves make one content of another. -/
theorem Fits.replay (h : engine.ChecksAtOnce plain fit) (hj : settings.journaled = true)
    {ks : List Call} (hks : ∀ k ∈ ks, k.IsPlain plain) (hsql : ∀ k ∈ ks, k.sql?.isSome = true)
    (hc : c.Fits fit settings) (hon : c.autoCommit = true) :
    (c.after engine.library ks).content? =
      some (ks.foldl (engine.nextOf settings) c.store.content) := by
  induction ks generalizing c with
  | nil => exact content?_of_open hc.opened
  | cons k ks ih =>
    have hrest : ∀ k ∈ ks, k.IsPlain plain := fun k hk => hks k (List.mem_cons_of_mem _ hk)
    have hrest' : ∀ k ∈ ks, k.sql?.isSome = true := fun k hk => hsql k (List.mem_cons_of_mem _ hk)
    obtain ⟨hc', hturn⟩ := hc.call h hj (hks k List.mem_cons_self)
    have hafter : c.after engine.library (k :: ks) =
        (c.call engine.library k).2.after engine.library ks := rfl
    have hends : (Made.of engine.library c k).ends? = none :=
      Made.ends?_of_sql (hsql k List.mem_cons_self)
    cases hturn with
    | statement runs stays content kept fails =>
      rw [hafter, ih hrest hrest' hc' (stays.trans hon), content, List.foldl_cons]
    | committed ends content kept => cases hends.symm.trans ends
    | rolledBack ends content kept => cases hends.symm.trans ends
    | switchedOff runs ends same =>
      have hruns := hsql k List.mem_cons_self
      rw [runs] at hruns
      cases hruns

def shown? (i : ConnId) (c : Connection Databases) : Option Tables :=
  if c.isClosed then none else some (Databases.all.shown i c.store)

theorem content_of_twin {i : ConnId} {c : Connection Databases} {d : Connection (Database Tables)}
    (twin : Twin (Databases.Alone i) c d) : c.shown? i = d.content? := by
  have closed : d.isClosed = c.isClosed := congrArg Status.isClosed twin.1
  unfold shown? content?
  rw [closed, twin.2.shown]

theorem content_of_new (h : engine.ChecksAtOnce plain fit) (settings : Settings)
    (hj : settings.journaled = true) (ks : List Call) (hks : ∀ k ∈ ks, k.IsPlain plain) :
    let c := ofEngine engine settings
    (c.after engine.library ks).content? =
      (c.after engine.library (Made.survivors (made engine.library c ks))).content? := by
  intro c
  have hnew : c.Fits fit settings := ⟨rfl, ⟨rfl, h.empty, h.empty⟩, fun _ => rfl⟩
  have hplain : ∀ k ∈ Made.survivors (made engine.library c ks), k.IsPlain plain := by
    intro k hk
    obtain ⟨-, m, hm, rfl⟩ := Made.mem_survivors hk
    exact hks m.call (call_of_mem_made hm)
  rw [hnew.after h hj hks, hnew.replay h hj hplain (fun k hk => (Made.mem_survivors hk).1) rfl]
  simp [c, ofEngine, Database.kept]

/-- The content of a connection is what the calls that were not undone make of a new database, each
by itself. So it is for any engine that checks statements at once, and for the databases that are
kept for several handles. -/
theorem content_of_survivors :
    (∀ {δ : Type} {engine : Engine δ} {plain : String → Prop} {fit : δ → Prop},
      engine.ChecksAtOnce plain fit → ∀ settings : Settings, settings.journaled = true →
      ∀ ks : List Call, (∀ k ∈ ks, k.IsPlain plain) →
        let c := ofEngine engine settings
        (c.after engine.library ks).content? =
          (c.after engine.library (Made.survivors (made engine.library c ks))).content?) ∧
    ∀ (i : ConnId) (x : Databases) (p : Place), p.name?.bind (x.leave i).2.find? = none →
      p.settings.journaled = true →
      ∀ ks : List Call, (∀ k ∈ ks, k.IsPlain fun sql => Tables.isPlain sql = true) →
        let lib := Databases.library i
        let c : Connection Databases := { store := x.join i p }
        (c.after lib ks).shown? i = (c.after lib (Made.survivors (made lib c ks))).shown? i := by
  refine ⟨fun h settings hj ks hks => content_of_new h settings hj ks hks,
    fun i x p made hj ks hks => ?_⟩
  intro lib c
  have twin : Twin (Databases.Alone i) c (ofEngine Tables.engine p.settings) :=
    ⟨rfl, Databases.alone_join made⟩
  have plain {ks : List Call} (hks : ∀ k ∈ ks, k.IsPlain fun sql => Tables.isPlain sql = true) :
      ∀ k ∈ ks, k.IsPlain Tables.engine.IsPlain := fun k hk =>
    (hks k hk).mono Tables.engine_checksAtOnce.no_control
  obtain ⟨same, after⟩ := twin.made (Databases.twin_alone i) (plain hks)
  have hplain : ∀ k ∈ Made.survivors (Connection.made lib c ks),
      k.IsPlain fun sql => Tables.isPlain sql = true := by
    intro k hk
    obtain ⟨-, m, hm, rfl⟩ := Made.mem_survivors hk
    exact hks m.call (call_of_mem_made hm)
  obtain ⟨-, replayed⟩ := twin.made (Databases.twin_alone i) (plain hplain)
  rw [content_of_twin after, content_of_twin replayed, ← same]
  exact content_of_new Tables.engine_checksAtOnce p.settings hj ks hks

/-- Some of it is undone, some fails, some waits for an end that does not come. -/
theorem content_of_interleaving :
    let c : Connection (Database Tables) := ofEngine Tables.engine {}
    let d : Connection Databases := { store := Databases.join 0 {} {} }
    let ks : List Call :=
      [.execute "CREATE TABLE k (id INTEGER PRIMARY KEY)" [], .setAutoCommit false,
       .execute "INSERT INTO k VALUES (?1)" [.int64 1], .rollback,
       .execute "INSERT INTO k VALUES (?1)" [.int64 2],
       .query "INSERT INTO k VALUES (?1)" [.int64 2], .setAutoCommit true, .rollback,
       .setAutoCommit false, .query "INSERT INTO k VALUES (?1)" [.int64 3]]
    let replay := Made.survivors (made Tables.engine.library c ks)
    let lib := Databases.library 0
    let replay' := Made.survivors (made lib d ks)
    (c.after Tables.engine.library ks).content? = (c.after Tables.engine.library replay).content? ∧
      replay.length = 3 ∧
      (d.after lib ks).shown? 0 = (d.after lib replay').shown? 0 ∧ replay'.length = 3 := by
  intro c d ks replay lib replay'
  have plain : ∀ k ∈ ks, k.IsPlain fun sql => Tables.isPlain sql = true := by decide +kernel
  exact ⟨content_of_survivors.1 Tables.engine_checksAtOnce {} rfl ks plain, by decide +kernel,
    content_of_survivors.2 0 {} {} rfl rfl ks plain, by decide +kernel⟩

/-- A reference that is checked only at the commit: its row may come after it in a transaction, but
not where each statement commits by itself. -/
theorem deferred_row_not_replayed :
    let c : Connection (Database Tables) := ofEngine Tables.engine {}
    let ks : List Call :=
      [.execute "CREATE TABLE p (id INTEGER PRIMARY KEY)" [],
       .execute "CREATE TABLE f (pid REFERENCES p(id) DEFERRABLE INITIALLY DEFERRED)" [],
       .setAutoCommit false, .execute "INSERT INTO f VALUES (?1)" [.int64 1],
       .execute "INSERT INTO p VALUES (?1)" [.int64 1], .commit]
    let replay := Made.survivors (made Tables.engine.library c ks)
    (made Tables.engine.library c ks).all (·.succeeded) = true ∧ replay.length = 4 ∧
      (c.after Tables.engine.library ks).content?.map (·.tables.map (·.rows.length)) = some [1, 1] ∧
      (c.after Tables.engine.library replay).content?.map (·.tables.map (·.rows.length)) =
        some [1, 0] := by
  decide +kernel

end Connection

end Sqlite
end ConnPool
