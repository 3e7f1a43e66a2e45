import ConnPool.Text.Entries

namespace ConnPool

structure Properties where
  entries : List (String × String)
  sorted : Text.Sorted entries
  deriving DecidableEq

namespace Properties

def empty : Properties := ⟨[], List.Pairwise.nil⟩

instance : Inhabited Properties := ⟨empty⟩

/-- Of entries with the same key the last one counts. -/
def ofList (entries : List (String × String)) : Properties :=
  ⟨Text.sortEntries entries, Text.sorted_sortEntries entries⟩

def insert (p : Properties) (k v : String) : Properties :=
  ⟨Text.insertEntry k v p.entries, Text.sorted_insertEntry p.sorted⟩

def get? (p : Properties) (k : String) : Option String := p.entries.lookup k

def keys (p : Properties) : List String := p.entries.map (·.1)

def isEmpty (p : Properties) : Bool := p.entries.isEmpty

theorem get?_insert (p : Properties) (k v a : String) :
    (p.insert k v).get? a = if a = k then some v else p.get? a :=
  Text.lookup_insertEntry a

theorem ofList_perm {as bs : List (String × String)} (distinct : (as.map (·.1)).Nodup)
    (h : as.Perm bs) : ofList as = ofList bs := by
  have distinct' : (bs.map (·.1)).Nodup := (h.map _).nodup_iff.1 distinct
  have same : (Text.sortEntries as).Perm (Text.sortEntries bs) :=
    (Text.sortEntries_perm distinct).trans (h.trans (Text.sortEntries_perm distinct').symm)
  simp only [ofList, (Text.sorted_sortEntries as).eq_of_perm (Text.sorted_sortEntries bs) same]

theorem ofList_entries (p : Properties) : ofList p.entries = p := by
  simp only [ofList, p.sorted.sortEntries]

end Properties
end ConnPool
