import Mathlib.Data.List.Nodup
import ConnPool.Proofs.PropertyLists

namespace ConnPool

theorem Factory.foldl_put_of_fixed {f : Factory} {ps : List (String × String)} {c : SourceConfig}
    (fixed : ∀ p ∈ ps, f.put c p = c) : ps.foldl f.put c = c := by
  refine List.foldlRecOn (motive := fun c' => c' = c) ps f.put rfl fun _ same p listed => ?_
  rw [same, fixed p listed]

section Distinct

variable {ps qs : List (String × String)} (distinct : (ps.map (·.1)).Nodup)
include distinct

theorem distinct_settings : ((settings ps).map (·.1)).Nodup :=
  distinct.sublist (List.filter_sublist.map _)

theorem distinct_forDriver : ((forDriver ps).map (·.1)).Nodup := by
  have keys : (forDriver ps).map (·.1) = (ps.map (·.1)).filterMap driverKey? := by
    rw [forDriver, List.map_filterMap, List.filterMap_map]
    congr 1
    funext p
    cases h : driverKey? p.1 <;> simp [h]
  rw [keys]
  refine distinct.filterMap fun key key' k hk hk' => ?_
  rw [driverKey?_eq_some.1 hk, driverKey?_eq_some.1 hk']

namespace Factory

variable (f : Factory)

theorem foldl_put_perm (perm : ps.Perm qs) (c : SourceConfig) :
    ps.foldl f.put c = qs.foldl f.put c := by
  refine perm.foldl_eq' (fun p hp q hq c => ?_) c
  -- Two properties with one key are one property.
  by_cases same : p.1 = q.1
  · rw [List.inj_on_of_nodup_map distinct hp hq same]
  · exact f.put_comm same c

/-- Each of the properties may as well have been the last one. -/
theorem put_foldl_put {p : String × String} (listed : p ∈ ps) (c : SourceConfig) :
    f.put (ps.foldl f.put c) p = ps.foldl f.put c := by
  have last : ps.Perm (ps.erase p ++ [p]) :=
    (List.perm_cons_erase listed).trans (List.perm_append_singleton p _).symm
  rw [f.foldl_put_perm distinct last, List.foldl_append]
  exact f.put_put p _

theorem putAll_perm (perm : ps.Perm qs) (c : SourceConfig) : f.putAll ps c = f.putAll qs c := by
  have set := f.foldl_put_perm (distinct_settings distinct) (perm.filter _) c
  have entries : (forDriver ps).Perm (forDriver qs) := perm.filterMap _
  have empty : forDriver ps = [] ↔ forDriver qs = [] :=
    ⟨fun h => (h ▸ entries).nil_eq.symm, fun h => (h ▸ entries).eq_nil⟩
  have sorted := Properties.ofList_perm (distinct_forDriver distinct) entries
  simp only [putAll, settings, empty, sorted] at set ⊢
  rw [set]

theorem putAll_putAll (c : SourceConfig) : f.putAll ps (f.putAll ps c) = f.putAll ps c := by
  have fixed : ∀ p ∈ settings ps, f.put ((settings ps).foldl f.put c) p =
      (settings ps).foldl f.put c :=
    fun p listed => f.put_foldl_put (distinct_settings distinct) listed c
  unfold putAll
  split
  case isTrue => exact foldl_put_of_fixed fixed
  case isFalse =>
    rw [foldl_put_of_fixed]
    intro p listed
    rw [put_driverProperties, fixed p listed]

/-- What a list that is taken leaves for the driver: what there was, or its own entries alone. -/
theorem driverProperties_putAll (c : SourceConfig) :
    ((∀ k v, (driverPropertyMark ++ k, v) ∉ ps) →
      (f.putAll ps c).driverProperties = c.driverProperties) ∧
    ((∃ k v, (driverPropertyMark ++ k, v) ∈ ps) → ∀ k v,
      (k, v) ∈ (f.putAll ps c).driverProperties.entries ↔ (driverPropertyMark ++ k, v) ∈ ps) := by
  constructor
  · intro none
    have empty : forDriver ps = [] :=
      List.eq_nil_iff_forall_not_mem.2 fun e listed => none e.1 e.2 (mem_forDriver.1 listed)
    rw [putAll, if_pos empty, driverProperties_foldl_put]
  · rintro ⟨k, v, listed⟩ k' v'
    have nonempty : forDriver ps ≠ [] := List.ne_nil_of_mem (mem_forDriver.2 listed)
    rw [putAll, if_neg nonempty, ← mem_forDriver]
    exact (Text.sortEntries_perm (distinct_forDriver distinct)).mem_iff

end Factory
end Distinct

/-- Properties with distinct keys are taken in any order or in none, and come to the same settings.
Setting them again changes nothing. Those for the driver replace what it had, if there are any. -/
theorem Factory.setProperties_perm (f : Factory) {ps qs : List (String × String)}
    (distinct : (ps.map (·.1)).Nodup) (perm : ps.Perm qs) :
    (∃ g, f.setProperties ps = (.ok (), g) ∧ f.setProperties qs = (.ok (), g) ∧
      g.setProperties ps = (.ok (), g) ∧
      ((∀ k v, (driverPropertyMark ++ k, v) ∉ ps) →
        g.config.driverProperties = f.config.driverProperties) ∧
      ((∃ k v, (driverPropertyMark ++ k, v) ∈ ps) → ∀ k v,
        (k, v) ∈ g.config.driverProperties.entries ↔ (driverPropertyMark ++ k, v) ∈ ps)) ∨
    ∃ e e', (f.setProperties ps).1 = .error e ∧ (f.setProperties qs).1 = .error e' := by
  have same : (settings ps).Perm (settings qs) := perm.filter _
  by_cases taken : ∀ p ∈ settings ps, f.Accepts p
  · have taken' : ∀ p ∈ settings qs, f.Accepts p := fun p listed => taken p (same.mem_iff.2 listed)
    obtain ⟨kept, replaced⟩ := f.driverProperties_putAll distinct f.config
    refine .inl ⟨f.withConfig (f.putAll ps f.config), setProperties_of_accepts taken f.config,
      ?_, ?_, kept, replaced⟩
    · rw [f.putAll_perm distinct perm]
      exact setProperties_of_accepts taken' f.config
    · rw [setProperties_of_accepts taken, f.putAll_putAll distinct]
  · have refused : ¬ ∀ p ∈ settings qs, f.Accepts p :=
      fun taken' => taken fun p listed => taken' p (same.mem_iff.1 listed)
    obtain ⟨e, failed⟩ := setProperties_of_refused taken
    obtain ⟨e', failed'⟩ := setProperties_of_refused refused
    exact .inr ⟨e, e', failed, failed'⟩

/-- The properties there were for the driver are gone, in both orders. -/
theorem Factory.setProperties_reverse_mock :
    let f : Factory :=
      { kind := .pooled, driver := "mock"
        config := { driverProperties := .ofList [("mode", "ro")] } }
    let ps := [("driver.cache", "off"), ("url", "mock:db"), ("time_to_wait_ms", " 50 ")]
    (ps.map (·.1)).Nodup ∧ ps.Perm ps.reverse ∧
    ∃ g, f.setProperties ps = (.ok (), g) ∧ f.setProperties ps.reverse = (.ok (), g) ∧
      g.setProperties ps = (.ok (), g) ∧ ("cache", "off") ∈ g.config.driverProperties.entries ∧
      ("mode", "ro") ∉ g.config.driverProperties.entries := by
  intro f ps
  have distinct : (ps.map (·.1)).Nodup := by decide
  have perm : ps.Perm ps.reverse := ps.reverse_perm.symm
  have succeeds : (f.setProperties ps).1 = .ok () := by
    subst f ps
    rfl
  refine ⟨distinct, perm, ?_⟩
  rcases f.setProperties_perm distinct perm with
    ⟨g, forward, backward, again, -, replaced⟩ | ⟨e, -, failed, -⟩
  · have entries := replaced ⟨"cache", "off", by decide⟩
    exact ⟨g, forward, backward, again, (entries _ _).2 (by decide),
      fun listed => absurd ((entries _ _).1 listed) (by decide)⟩
  · cases succeeds.symm.trans failed

end ConnPool
