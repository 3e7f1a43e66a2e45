namespace ConnPool.Text

def insertEntry {α : Type} (k : String) (v : α) : List (String × α) → List (String × α)
  | [] => [(k, v)]
  | (k', v') :: rest =>
    if k < k' then (k, v) :: (k', v') :: rest
    else if k = k' then (k, v) :: rest
    else (k', v') :: insertEntry k v rest

/-- The entries in the order of their keys; of equal keys the last one stays. -/
def sortEntries {α : Type} (entries : List (String × α)) : List (String × α) :=
  entries.foldl (fun sorted (k, v) => insertEntry k v sorted) []

def Sorted {α : Type} (entries : List (String × α)) : Prop :=
  entries.Pairwise fun a b => a.1 < b.1

theorem mem_insertEntry {α : Type} {k : String} {v : α} {e : String × α}
    {entries : List (String × α)} (h : e ∈ insertEntry k v entries) :
    e = (k, v) ∨ e ∈ entries := by
  induction entries with
  | nil => simpa [insertEntry] using h
  | cons head rest ih =>
    unfold insertEntry at h
    split at h
    · simpa using h
    · split at h
      · rcases List.mem_cons.1 h with h | h
        · exact .inl h
        · exact .inr (List.mem_cons_of_mem _ h)
      · rcases List.mem_cons.1 h with h | h
        · exact .inr (h ▸ List.mem_cons_self)
        · exact (ih h).imp_right (List.mem_cons_of_mem _)

theorem lookup_cons_ite {α : Type} (k : String) (v : α) (entries : List (String × α))
    (a : String) :
    ((k, v) :: entries).lookup a = if a = k then some v else entries.lookup a := by
  rw [List.lookup_cons]
  split <;> simp_all

theorem lookup_insertEntry {α : Type} {k : String} {v : α} {entries : List (String × α)}
    (a : String) :
    (insertEntry k v entries).lookup a = if a = k then some v else entries.lookup a := by
  induction entries with
  | nil => exact lookup_cons_ite k v [] a
  | cons head rest ih =>
    obtain ⟨k', v'⟩ := head
    unfold insertEntry
    split
    · exact lookup_cons_ite k v _ a
    · split
      · next heq =>
        subst heq
        simp only [lookup_cons_ite]
        split <;> rfl
      · next hne =>
        simp only [lookup_cons_ite, ih]
        split
        · next h => simp [h, Ne.symm hne]
        · rfl

theorem sorted_insertEntry {α : Type} {k : String} {v : α} {entries : List (String × α)}
    (h : Sorted entries) : Sorted (insertEntry k v entries) := by
  induction entries with
  | nil => simp [insertEntry, Sorted]
  | cons head rest ih =>
    obtain ⟨before, hrest⟩ := List.pairwise_cons.1 h
    unfold insertEntry
    split
    · next hk =>
      refine List.pairwise_cons.2 ⟨fun e he => ?_, h⟩
      rcases List.mem_cons.1 he with he | he
      · exact he ▸ hk
      · exact String.lt_trans hk (before e he)
    · next hk =>
      split
      · next heq => exact List.pairwise_cons.2 ⟨fun e he => heq ▸ before e he, hrest⟩
      · next hne =>
        refine List.pairwise_cons.2 ⟨fun e he => ?_, ih hrest⟩
        rcases mem_insertEntry he with he | he
        · subst he
          exact Std.lt_of_le_of_ne (String.not_lt.1 hk) (Ne.symm hne)
        · exact before e he

theorem sorted_sortEntries {α : Type} (entries : List (String × α)) :
    Sorted (sortEntries entries) := by
  suffices ∀ sorted : List (String × α), Sorted sorted →
      Sorted (entries.foldl (fun sorted (k, v) => insertEntry k v sorted) sorted) from
    this [] List.Pairwise.nil
  induction entries with
  | nil => exact fun _ h => h
  | cons e rest ih => exact fun _ h => ih _ (sorted_insertEntry h)

theorem insertEntry_perm {α : Type} {k : String} {v : α} {entries : List (String × α)}
    (new : k ∉ entries.map (·.1)) : (insertEntry k v entries).Perm ((k, v) :: entries) := by
  induction entries with
  | nil => exact .refl _
  | cons head rest ih =>
    simp only [List.map_cons, List.mem_cons, not_or] at new
    unfold insertEntry
    split
    · exact .refl _
    · rw [if_neg new.1]
      exact ((ih new.2).cons head).trans (.swap _ _ _)

theorem sortEntries_perm {α : Type} {entries : List (String × α)}
    (distinct : (entries.map (·.1)).Nodup) : (sortEntries entries).Perm entries := by
  suffices ∀ sorted : List (String × α), ((entries ++ sorted).map (·.1)).Nodup →
      (entries.foldl (fun sorted (k, v) => insertEntry k v sorted) sorted).Perm
        (entries ++ sorted) by
    have whole := this [] (by rwa [List.append_nil])
    rwa [List.append_nil] at whole
  clear distinct
  induction entries with
  | nil => exact fun _ _ => .refl _
  | cons e rest ih =>
    intro sorted distinct
    have new : e.1 ∉ sorted.map (·.1) := by
      simp only [List.cons_append, List.map_cons, List.map_append, List.nodup_cons,
        List.mem_append, not_or] at distinct
      exact distinct.1.2
    have moved : (rest ++ insertEntry e.1 e.2 sorted).Perm (e :: rest ++ sorted) :=
      ((insertEntry_perm new).append_left rest).trans List.perm_middle
    exact (ih _ ((moved.map _).nodup_iff.2 distinct)).trans moved

theorem Sorted.distinct {α : Type} {entries : List (String × α)} (h : Sorted entries) :
    (entries.map (·.1)).Nodup :=
  List.pairwise_map.2 (h.imp String.ne_of_lt)

/-- Sorted entries have one order. -/
theorem Sorted.eq_of_perm {α : Type} {as bs : List (String × α)} (ha : Sorted as)
    (hb : Sorted bs) (h : as.Perm bs) : as = bs :=
  h.eq_of_pairwise (fun _ _ _ _ hab hba => absurd hba (String.lt_asymm hab)) ha hb

theorem Sorted.sortEntries {α : Type} {entries : List (String × α)} (h : Sorted entries) :
    sortEntries entries = entries :=
  (sorted_sortEntries entries).eq_of_perm h (sortEntries_perm h.distinct)

end ConnPool.Text
