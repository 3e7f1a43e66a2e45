import ConnPool.Row
import Mathlib.Data.List.Induction

namespace ConnPool

namespace Text

variable {α : Type} {k : String} {v : α}

/-- A lookup finds the first entry with the key. -/
theorem lookup_eq_some_iff {entries : List (String × α)} :
    entries.lookup k = some v ↔
      ∃ i : Nat, entries[i]? = some (k, v) ∧
        ∀ (j : Nat) (w : α), entries[j]? = some (k, w) → i ≤ j := by
  induction entries with
  | nil => simp
  | cons e entries ih =>
    rw [lookup_cons_ite]
    split
    case isTrue same =>
      subst same
      refine ⟨fun found => ⟨0, ?_, fun j _ _ => Nat.zero_le j⟩, ?_⟩
      · rw [List.getElem?_cons_zero, ← Option.some.inj found]
      · rintro ⟨i, found, first⟩
        obtain rfl := Nat.le_zero.1 (first 0 e.2 rfl)
        rw [List.getElem?_cons_zero, Option.some.injEq] at found
        rw [found]
    case isFalse other =>
      have skips {i : Nat} {w : α} (h : (e :: entries)[i]? = some (k, w)) : ∃ j, i = j + 1 := by
        cases i with
        | zero => exact absurd (congrArg Prod.fst (Option.some.inj h)).symm other
        | succ j => exact ⟨j, rfl⟩
      rw [ih]
      constructor
      · rintro ⟨i, found, first⟩
        refine ⟨i + 1, found, fun j w hj => ?_⟩
        obtain ⟨j, rfl⟩ := skips hj
        exact Nat.succ_le_succ (first j w hj)
      · rintro ⟨i, found, first⟩
        obtain ⟨i, rfl⟩ := skips found
        exact ⟨i, found, fun j w hj => Nat.le_of_succ_le_succ (first (j + 1) w hj)⟩

theorem sortEntries_concat (entries : List (String × α)) (e : String × α) :
    sortEntries (entries ++ [e]) = insertEntry e.1 e.2 (sortEntries entries) := by
  rw [sortEntries, List.foldl_append]
  rfl

/-- Sorting keeps the last entry with a key. -/
theorem lookup_sortEntries_eq_some_iff {entries : List (String × α)} :
    (sortEntries entries).lookup k = some v ↔
      ∃ i : Nat, entries[i]? = some (k, v) ∧
        ∀ (j : Nat) (w : α), entries[j]? = some (k, w) → j ≤ i := by
  induction entries using List.reverseRecOn with
  | nil => simp [sortEntries]
  | append_singleton entries e ih =>
    have place {i : Nat} {w : α} (h : (entries ++ [e])[i]? = some (k, w)) :
        entries[i]? = some (k, w) ∨ i = entries.length ∧ e = (k, w) := by
      rw [List.getElem?_append] at h
      split at h
      case isTrue => exact .inl h
      case isFalse =>
        rw [List.getElem?_singleton] at h
        split at h
        case isTrue => exact .inr ⟨by omega, Option.some.inj h⟩
        case isFalse => cases h
    have within {i : Nat} {w : α} (h : entries[i]? = some (k, w)) : i < entries.length :=
      (List.getElem?_eq_some_iff.1 h).1
    rw [sortEntries_concat, lookup_insertEntry]
    split
    case isTrue same =>
      subst same
      constructor
      · rintro ⟨⟩
        refine ⟨entries.length, List.getElem?_concat_length, fun j w hj => ?_⟩
        rcases place hj with before | ⟨rfl, -⟩
        · exact Nat.le_of_lt (within before)
        · exact Nat.le_refl _
      · rintro ⟨i, found, last⟩
        rcases place found with before | ⟨-, here⟩
        · have behind := last entries.length e.2 List.getElem?_concat_length
          exact absurd (within before) (Nat.not_lt.2 behind)
        · rw [here]
    case isFalse other =>
      have before {i : Nat} {w : α} (h : (entries ++ [e])[i]? = some (k, w)) :
          entries[i]? = some (k, w) :=
        (place h).resolve_right fun here => other (congrArg Prod.fst here.2).symm
      rw [ih]
      constructor
      · rintro ⟨i, found, last⟩
        refine ⟨i, ?_, fun j w hj => last j w (before hj)⟩
        rw [List.getElem?_append_left (within found), found]
      · rintro ⟨i, found, last⟩
        refine ⟨i, before found, fun j w hj => last j w ?_⟩
        rw [List.getElem?_append_left (within hj), hj]

theorem lookup_sortEntries_eq_none_iff {entries : List (String × α)} :
    (sortEntries entries).lookup k = none ↔ entries.lookup k = none := by
  induction entries using List.reverseRecOn with
  | nil => rfl
  | append_singleton entries e ih =>
    rw [sortEntries_concat, lookup_insertEntry, List.lookup_append, Option.or_eq_none_iff, ← ih,
      lookup_cons_ite, List.lookup_nil]
    split <;> simp

end Text

namespace Row

variable {r : Row} {name : String} {v : Value}

/-- The column in that place has the name, and there is a value for it. -/
def Holds (r : Row) (name : String) (i : Nat) (v : Value) : Prop :=
  r.columns[i]? = some name ∧ r.values[i]? = some v

def HoldsFirst (r : Row) (name : String) (v : Value) : Prop :=
  ∃ i, r.Holds name i v ∧ ∀ j w, r.Holds name j w → i ≤ j

def HoldsLast (r : Row) (name : String) (v : Value) : Prop :=
  ∃ i, r.Holds name i v ∧ ∀ j w, r.Holds name j w → j ≤ i

theorem getElem?_zip_iff {i : Nat} :
    (r.columns.zip r.values)[i]? = some (name, v) ↔ r.Holds name i v :=
  List.getElem?_zip_eq_some

theorem getByName?_eq_lookup (r : Row) (name : String) :
    r.getByName? name = (r.columns.zip r.values).lookup name := by
  obtain ⟨columns, values⟩ := r
  induction columns generalizing values with
  | nil => rfl
  | cons c columns ih =>
    cases values with
    | nil => cases h : (c :: columns).idxOf? name <;> simp [getByName?, h]
    | cons v values =>
      rw [List.zip_cons_cons, Text.lookup_cons_ite, ← ih]
      simp only [getByName?, List.idxOf?_cons, beq_iff_eq, eq_comm (a := name)]
      split
      case isTrue => rfl
      case isFalse => cases columns.idxOf? name <;> rfl

theorem getByName?_eq_some_iff : r.getByName? name = some v ↔ r.HoldsFirst name v := by
  simp only [getByName?_eq_lookup, Text.lookup_eq_some_iff, getElem?_zip_iff, HoldsFirst]

theorem lookup_toMap_eq_some_iff : r.toMap.lookup name = some v ↔ r.HoldsLast name v := by
  simp only [toMap, Text.lookup_sortEntries_eq_some_iff, getElem?_zip_iff, HoldsLast]

/-- Where one way finds a value, so does the other. -/
theorem lookup_toMap_eq_none_iff (r : Row) (name : String) :
    r.toMap.lookup name = none ↔ r.getByName? name = none := by
  rw [toMap, Text.lookup_sortEntries_eq_none_iff, getByName?_eq_lookup]

/-- The two ways to read a row by name. By itself a row gives the first value that it has in columns
of the name, and its map has the last one; so they agree where these values are equal, as they are
where at most one column of the name has a value. -/
theorem lookup_toMap_eq_getByName?_iff (r : Row) (name : String) :
    (∀ v, r.getByName? name = some v ↔ r.HoldsFirst name v) ∧
      (∀ v, r.toMap.lookup name = some v ↔ r.HoldsLast name v) ∧
      (r.toMap.lookup name = r.getByName? name ↔
        ∀ v w, r.HoldsFirst name v → r.HoldsLast name w → v = w) := by
  refine ⟨fun v => getByName?_eq_some_iff, fun v => lookup_toMap_eq_some_iff, ?_⟩
  simp only [← getByName?_eq_some_iff, ← lookup_toMap_eq_some_iff]
  constructor
  · intro agree v w first last
    rw [agree, first] at last
    exact Option.some.inj last
  · intro agree
    cases last : r.toMap.lookup name with
    | none => exact ((r.lookup_toMap_eq_none_iff name).1 last).symm
    | some w =>
      cases first : r.getByName? name with
      | none =>
        rw [(r.lookup_toMap_eq_none_iff name).2 first] at last
        cases last
      | some v => rw [agree v w first last]

/-- The names of a join: a column of the name is there twice, with two values. -/
theorem not_lookup_toMap_eq_getByName? :
    ¬ ∀ (r : Row) (name : String), r.toMap.lookup name = r.getByName? name := by
  intro agree
  have joined := agree ⟨["id", "id"], [.int64 1, .int64 2]⟩ "id"
  have first : Row.getByName? ⟨["id", "id"], [.int64 1, .int64 2]⟩ "id" = some (.int64 1) := by rfl
  have last : (Row.toMap ⟨["id", "id"], [.int64 1, .int64 2]⟩).lookup "id" = some (.int64 2) := by
    rfl
  rw [first, last] at joined
  cases joined

end Row
end ConnPool
