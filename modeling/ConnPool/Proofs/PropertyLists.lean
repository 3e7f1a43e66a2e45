import ConnPool.Proofs.Assignments

namespace ConnPool

theorem driverKey?_eq_some {key k : String} :
    driverKey? key = some k ↔ key = driverPropertyMark ++ k := by
  simp only [driverKey?, List.isPrefixOf_iff_prefix]
  constructor
  · intro h
    split at h
    case isTrue marked =>
      obtain ⟨rest, whole⟩ := marked
      obtain rfl := Option.some.inj h
      rw [← whole, List.drop_left, ← String.toList_inj, String.toList_append,
        String.toList_ofList, whole]
    case isFalse => cases h
  · rintro rfl
    rw [String.toList_append, if_pos (List.prefix_append _ _), List.drop_left,
      String.ofList_toList]

def settings (ps : List (String × String)) : List (String × String) :=
  ps.filter fun p => (driverKey? p.1).isNone

def forDriver (ps : List (String × String)) : List (String × String) :=
  ps.filterMap fun p => (driverKey? p.1).map fun k => (k, p.2)

section Cons

variable {p : String × String} {k : String} (ps : List (String × String))

theorem settings_cons_setting (setting : driverKey? p.1 = none) :
    settings (p :: ps) = p :: settings ps := by
  simp [settings, setting]

theorem settings_cons_marked (marked : driverKey? p.1 = some k) :
    settings (p :: ps) = settings ps := by
  simp [settings, marked]

theorem forDriver_cons_setting (setting : driverKey? p.1 = none) :
    forDriver (p :: ps) = forDriver ps := by
  simp [forDriver, setting]

theorem forDriver_cons_marked (marked : driverKey? p.1 = some k) :
    forDriver (p :: ps) = (k, p.2) :: forDriver ps := by
  simp [forDriver, marked]

end Cons

theorem mem_settings {ps : List (String × String)} {p : String × String} :
    p ∈ settings ps ↔ p ∈ ps ∧ driverKey? p.1 = none := by
  simp only [settings, List.mem_filter, Option.isNone_iff_eq_none]

theorem mem_forDriver {ps : List (String × String)} {k v : String} :
    (k, v) ∈ forDriver ps ↔ (driverPropertyMark ++ k, v) ∈ ps := by
  simp only [forDriver, List.mem_filterMap, Option.map_eq_some_iff, Prod.mk.injEq,
    driverKey?_eq_some, Prod.exists]
  constructor
  · rintro ⟨key, value, listed, k, marked, rfl, rfl⟩
    exact marked ▸ listed
  · exact fun listed => ⟨_, _, listed, _, rfl, rfl, rfl⟩

namespace Factory

def Accepts (f : Factory) (p : String × String) : Prop := (f.setProperty p.1 p.2).1 = .ok ()

theorem Accepts.setProperty {f : Factory} {p : String × String} (h : f.Accepts p)
    (c : SourceConfig) :
    (f.withConfig c).setProperty p.1 p.2 = (.ok (), f.withConfig (f.put c p)) := by
  rw [setProperty_withConfig, h]

/-- Properties that are taken are read one after another. -/
theorem setEach_append {f : Factory} {before : List (String × String)}
    (taken : ∀ p ∈ settings before, f.Accepts p) (after met : List (String × String))
    (c : SourceConfig) :
    (f.withConfig c).setEach (before ++ after) met =
      (f.withConfig ((settings before).foldl f.put c)).setEach after
        ((forDriver before).reverse ++ met) := by
  -- What has been set and met so far only goes along, so both are general.
  induction before generalizing c met with
  | nil => rfl
  | cons p rest ih =>
    cases mark : driverKey? p.1 with
    | some k =>
      rw [settings_cons_marked rest mark] at taken ⊢
      simp only [List.cons_append, setEach, mark, ih taken, forDriver_cons_marked rest mark,
        List.reverse_cons, List.append_assoc, List.nil_append]
    | none =>
      rw [settings_cons_setting rest mark] at taken ⊢
      obtain ⟨first, others⟩ := List.forall_mem_cons.1 taken
      simp only [List.cons_append, setEach, mark, first.setProperty, ih others,
        forDriver_cons_setting rest mark, List.foldl_cons]

theorem driverProperties_put (f : Factory) (c : SourceConfig) (p : String × String) :
    (f.put c p).driverProperties = c.driverProperties :=
  (congrArg SourceConfig.driverProperties (f.put_driverProperties p c c.driverProperties) :)

theorem driverProperties_foldl_put (f : Factory) (ps : List (String × String))
    (c : SourceConfig) : (ps.foldl f.put c).driverProperties = c.driverProperties := by
  induction ps generalizing c with
  | nil => rfl
  | cons p rest ih => rw [List.foldl_cons, ih, driverProperties_put]

def putAll (f : Factory) (ps : List (String × String)) (c : SourceConfig) : SourceConfig :=
  let set := (settings ps).foldl f.put c
  if forDriver ps = [] then set else { set with driverProperties := .ofList (forDriver ps) }

theorem setProperties_of_accepts {f : Factory} {ps : List (String × String)}
    (taken : ∀ p ∈ settings ps, f.Accepts p) (c : SourceConfig) :
    (f.withConfig c).setProperties ps = (.ok (), f.withConfig (f.putAll ps c)) := by
  have run := setEach_append taken [] [] c
  simp only [List.append_nil, setEach] at run
  unfold setProperties putAll
  rw [run]
  cases met : (forDriver ps).reverse with
  | nil =>
    rw [List.reverse_eq_nil_iff] at met
    simp only [if_pos met]
  | cons e rest =>
    have nonempty : forDriver ps ≠ [] := by
      rintro empty
      simp [empty] at met
    simp only [if_neg nonempty, ← met, List.reverse_reverse]
    rfl

/-- One property after another, none of them for the driver. -/
theorem foldlM_setProperty {f : Factory} {ps : List (String × String)}
    (taken : ∀ p ∈ ps, f.Accepts p) (c : SourceConfig) :
    ps.foldlM (fun g p => ↑(g.setProperty p.1 p.2)) (f.withConfig c) =
      (.ok (f.withConfig (ps.foldl f.put c)) : Except Error Factory) := by
  induction ps generalizing c with
  | nil => rfl
  | cons p rest ih =>
    obtain ⟨first, others⟩ := List.forall_mem_cons.1 taken
    rw [List.foldlM_cons, first.setProperty]
    exact ih others _

/-- The factory takes the settings of `before`, and refuses the one that comes next. -/
structure StopsAt (f : Factory) (before : List (String × String)) (p : String × String)
    (e : Error) : Prop where
  taken : ∀ q ∈ settings before, f.Accepts q
  setting : driverKey? p.1 = none
  refused : (f.setProperty p.1 p.2).1 = .error e

/-- A list is taken as a whole, or there is a first setting that is refused. -/
theorem accepts_or_stopsAt (f : Factory) (ps : List (String × String)) :
    (∀ p ∈ settings ps, f.Accepts p) ∨
      ∃ before p after e, ps = before ++ p :: after ∧ f.StopsAt before p e := by
  induction ps with
  | nil => exact .inl nofun
  | cons p rest ih =>
    have onward {ps : List (String × String)} (first : driverKey? p.1 = none → f.Accepts p)
        (others : ∀ q ∈ settings ps, f.Accepts q) : ∀ q ∈ settings (p :: ps), f.Accepts q := by
      intro q hq
      obtain ⟨listed, setting⟩ := mem_settings.1 hq
      rcases List.mem_cons.1 listed with rfl | listed
      · exact first setting
      · exact others q (mem_settings.2 ⟨listed, setting⟩)
    by_cases first : driverKey? p.1 = none → f.Accepts p
    · rcases ih with all | ⟨before, q, after, e, rfl, stops⟩
      · exact .inl (onward first all)
      · exact .inr ⟨p :: before, q, after, e, rfl, { stops with taken := onward first stops.taken }⟩
    · obtain ⟨setting, refused⟩ := Classical.not_imp.1 first
      cases answer : (f.setProperty p.1 p.2).1 with
      | ok _ => exact absurd answer refused
      | error e => exact .inr ⟨[], p, rest, e, rfl, nofun, setting, answer⟩

theorem StopsAt.setProperties {f : Factory} {before : List (String × String)}
    {p : String × String} {e : Error} (h : f.StopsAt before p e) (after : List (String × String)) :
    f.setProperties (before ++ p :: after) =
      (.error e, f.withConfig ((settings before).foldl f.put f.config)) := by
  have run : f.setEach (before ++ p :: after) [] = _ :=
    setEach_append h.taken (p :: after) [] f.config
  have refused := refuses_of_error h.refused ((settings before).foldl f.put f.config)
  simp only [setEach, h.setting, refused] at run
  simp only [Factory.setProperties, run]

theorem setProperties_of_refused {f : Factory} {ps : List (String × String)}
    (refused : ¬ ∀ p ∈ settings ps, f.Accepts p) : ∃ e, (f.setProperties ps).1 = .error e := by
  obtain ⟨before, p, after, e, rfl, stops⟩ := (f.accepts_or_stopsAt ps).resolve_left refused
  exact ⟨e, congrArg Prod.fst (stops.setProperties after)⟩

/-- A property that is refused changes nothing, and would be refused with any other settings. A
list fails at its first setting that is refused by itself: the settings before it have been set
one after another, and the driver's properties are what they were. -/
theorem setProperties_stops (f : Factory) :
    (∀ key value e, (f.setProperty key value).1 = .error e → (f.setProperty key value).2 = f ∧
      ∀ c, (f.withConfig c).setProperty key value = (.error e, f.withConfig c)) ∧
    ∀ ps,
      ((∃ e, (f.setProperties ps).1 = .error e) ↔
        ∃ p ∈ settings ps, ∃ e, (f.setProperty p.1 p.2).1 = .error e) ∧
      ∀ e, (f.setProperties ps).1 = .error e →
        ∃ before p after, ps = before ++ p :: after ∧ f.StopsAt before p e ∧
          (settings before).foldlM (fun g q => ↑(g.setProperty q.1 q.2)) f =
            (.ok (f.setProperties ps).2 : Except Error Factory) ∧
          (f.setProperties ps).2.config.driverProperties = f.config.driverProperties := by
  refine ⟨fun key value e refused => ?_, fun ps => ?_⟩
  · have refuses : f.Refuses (key, value) e := refuses_of_error refused
    exact ⟨congrArg Prod.snd (refuses f.config), refuses⟩
  rcases f.accepts_or_stopsAt ps with taken | ⟨before, p, after, e, rfl, stops⟩
  · have done : f.setProperties ps = _ := setProperties_of_accepts taken f.config
    rw [done]
    refine ⟨⟨nofun, ?_⟩, nofun⟩
    rintro ⟨p, listed, e, refused⟩
    cases (taken p listed).symm.trans refused
  · have run := foldlM_setProperty stops.taken f.config
    rw [stops.setProperties]
    refine ⟨⟨fun _ => ⟨p, ?_, e, stops.refused⟩, fun _ => ⟨e, rfl⟩⟩, ?_⟩
    · exact mem_settings.2 ⟨by simp, stops.setting⟩
    · rintro _ ⟨⟩
      exact ⟨before, p, after, rfl, stops, run, driverProperties_foldl_put f _ f.config⟩

/-- No room for any connection, after a property for the driver and the URL. -/
theorem setProperties_stops_at_zero :
    let f : Factory := { kind := .pooled, driver := "mock" }
    let e : Error := .configuration .noCapacity
    let ps := [("driver.mode", "ro"), ("url", "mock:db"), ("max_active_connections", "0"),
      ("username", "app")]
    (f.setProperty "max_active_connections" "0").1 = .error e ∧
    (f.setProperty "max_active_connections" "0").2 = f ∧
    (f.setProperties ps).1 = .error e ∧
    ∃ before p after, ps = before ++ p :: after ∧ f.StopsAt before p e ∧
      (settings before).foldlM (fun g q => ↑(g.setProperty q.1 q.2)) f =
        (.ok (f.setProperties ps).2 : Except Error Factory) ∧
      (f.setProperties ps).2.config.driverProperties = f.config.driverProperties := by
  intro f e ps
  have refused : (f.setProperty "max_active_connections" "0").1 = .error e := by
    subst f e
    rfl
  have fails : (f.setProperties ps).1 = .error e := by
    subst f e ps
    rfl
  obtain ⟨single, list⟩ := setProperties_stops f
  exact ⟨refused, (single _ _ e refused).1, fails, (list ps).2 e fails⟩

end Factory
end ConnPool
