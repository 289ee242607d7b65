/-!
Tables from names to values. A table keeps its entries in the order in which their names first
came, and has one entry for a name. The variables of a process are such a table.
-/

namespace FrameworkForge

structure Table (α : Type) where
  entries : List (String × α)
  distinct : (entries.map Prod.fst).Nodup

namespace Table

variable {α β : Type}

def names (t : Table α) : List String :=
  t.entries.map Prod.fst

def empty : Table α :=
  ⟨[], List.nodup_nil⟩

instance : Inhabited (Table α) :=
  ⟨empty⟩

def insertEntry (entries : List (String × α)) (name : String) (value : α) :
    List (String × α) :=
  match entries with
  | [] => [(name, value)]
  | (n, v) :: rest =>
    if n = name then (n, value) :: rest else (n, v) :: insertEntry rest name value

theorem map_fst_insertEntry (entries : List (String × α)) (name : String) (value : α) :
    (insertEntry entries name value).map Prod.fst =
      if name ∈ entries.map Prod.fst then entries.map Prod.fst
      else entries.map Prod.fst ++ [name] := by
  induction entries with
  | nil => simp [insertEntry]
  | cons entry rest ih =>
    obtain ⟨n, v⟩ := entry
    by_cases h : n = name
    · simp [insertEntry, h]
    · by_cases hm : name ∈ rest.map Prod.fst
      · simp [insertEntry, h, ih, hm]
      · rw [if_neg hm] at ih
        rw [if_neg (by simpa [Ne.symm h] using hm)]
        simp [insertEntry, h, ih]

theorem nodup_insertEntry {entries : List (String × α)} (name : String) (value : α)
    (h : (entries.map Prod.fst).Nodup) :
    ((insertEntry entries name value).map Prod.fst).Nodup := by
  rw [map_fst_insertEntry]
  split
  · exact h
  · next hm =>
    rw [List.nodup_append]
    refine ⟨h, by simp, ?_⟩
    intro a ha b hb hab
    rw [List.mem_singleton] at hb
    exact hm (hb ▸ hab ▸ ha)

theorem insertEntry_of_not_mem {entries : List (String × α)} {name : String}
    (h : name ∉ entries.map Prod.fst) (value : α) :
    insertEntry entries name value = entries ++ [(name, value)] := by
  induction entries with
  | nil => rfl
  | cons entry entries ih =>
    simp only [List.map_cons, List.mem_cons, not_or] at h
    rw [insertEntry, if_neg (Ne.symm h.1), ih h.2]
    rfl

theorem find?_insertEntry (entries : List (String × α)) (name other : String) (value : α) :
    (insertEntry entries name value).find? (fun entry => entry.1 = other) =
      if name = other then some (name, value) else entries.find? fun entry => entry.1 = other := by
  induction entries with
  | nil => by_cases h : name = other <;> simp [insertEntry, h]
  | cons entry rest ih =>
    obtain ⟨n, v⟩ := entry
    by_cases hn : n = name
    · subst hn
      by_cases h : n = other <;> simp [insertEntry, h]
    · by_cases h : n = other
      · subst h
        simp [insertEntry, hn, Ne.symm hn]
      · simp [insertEntry, hn, h, ih]

/-- A name that is already there keeps its place and takes the new value. -/
def insert (t : Table α) (name : String) (value : α) : Table α :=
  ⟨insertEntry t.entries name value, nodup_insertEntry name value t.distinct⟩

def ofList (entries : List (String × α)) : Table α :=
  entries.foldl (fun t entry => t.insert entry.1 entry.2) empty

theorem entries_foldl_insert (t : Table α) {more : List (String × α)}
    (h : ((t.entries ++ more).map Prod.fst).Nodup) :
    (more.foldl (fun t entry => t.insert entry.1 entry.2) t).entries = t.entries ++ more := by
  induction more generalizing t with
  | nil => simp
  | cons entry more ih =>
    have hnew : entry.1 ∉ t.entries.map Prod.fst := by
      intro hmem
      rw [List.map_append, List.map_cons, List.nodup_append] at h
      exact h.2.2 _ hmem _ List.mem_cons_self rfl
    have hinsert : (t.insert entry.1 entry.2).entries = t.entries ++ [entry] :=
      insertEntry_of_not_mem hnew entry.2
    rw [List.foldl_cons, ih _ (by simpa [hinsert] using h), hinsert, List.append_assoc]
    rfl

theorem ofList_entries (t : Table α) : ofList t.entries = t := by
  have hentries : (ofList t.entries).entries = t.entries := by
    rw [ofList, entries_foldl_insert]
    · rfl
    · exact t.distinct
  obtain ⟨entries, distinct⟩ := t
  generalize ofList entries = table at hentries
  obtain ⟨_, _⟩ := table
  cases hentries
  rfl

def get? (t : Table α) (name : String) : Option α :=
  (t.entries.find? fun entry => entry.1 = name).map Prod.snd

theorem get?_insert (t : Table α) (name other : String) (value : α) :
    (t.insert name value).get? other = if name = other then some value else t.get? other := by
  simp only [get?, insert, find?_insertEntry]
  split <;> rfl

theorem get?_foldl_insert (t : Table α) {more : List (String × α)}
    (h : (more.map Prod.fst).Nodup) (name : String) :
    (more.foldl (fun t entry => t.insert entry.1 entry.2) t).get? name =
      ((more.find? fun entry => entry.1 = name).map Prod.snd).or (t.get? name) := by
  induction more generalizing t with
  | nil => rfl
  | cons entry more ih =>
    obtain ⟨hentry, hmore⟩ := List.nodup_cons.mp h
    rw [List.foldl_cons, ih _ hmore, get?_insert]
    by_cases hname : entry.1 = name
    · have hnone : more.find? (fun entry => entry.1 = name) = none := by
        rw [List.find?_eq_none]
        intro other hother heq
        exact hentry (List.mem_map.mpr ⟨other, hother, by simpa [hname] using heq⟩)
      simp [hnone, hname]
    · simp [hname]

/-- Of several entries with one name the last counts. -/
theorem get?_foldl_insert_last (t : Table α) (more : List (String × α)) (name : String) :
    (more.foldl (fun t entry => t.insert entry.1 entry.2) t).get? name =
      ((more.findRev? fun entry => entry.1 = name).map Prod.snd).or (t.get? name) := by
  induction more generalizing t with
  | nil => rfl
  | cons entry more ih =>
    rw [List.foldl_cons, ih, get?_insert, List.findRev?]
    cases more.findRev? fun entry => entry.1 = name with
    | some last => rfl
    | none => by_cases h : entry.1 = name <;> simp [h]

theorem get?_ofList (entries : List (String × α)) (name : String) :
    (ofList entries).get? name =
      (entries.findRev? fun entry => entry.1 = name).map Prod.snd := by
  rw [ofList, get?_foldl_insert_last]
  exact Option.or_none

/-- The entries of `upper` win over those of `lower`. -/
def overlay (lower upper : Table α) : Table α :=
  upper.entries.foldl (fun t entry => t.insert entry.1 entry.2) lower

theorem get?_overlay (lower upper : Table α) (name : String) :
    (lower.overlay upper).get? name = (upper.get? name).or (lower.get? name) :=
  get?_foldl_insert lower upper.distinct name

@[simp]
theorem overlay_empty (t : Table α) : t.overlay empty = t :=
  rfl

def sorted (t : Table α) : List (String × α) :=
  t.entries.mergeSort fun a b => a.1 ≤ b.1

theorem perm_sorted (t : Table α) : t.sorted.Perm t.entries :=
  List.mergeSort_perm _ _

theorem pairwise_sorted (t : Table α) : t.sorted.Pairwise fun a b => a.1 < b.1 := by
  have hle : t.sorted.Pairwise fun a b => decide (a.1 ≤ b.1) = true := by
    refine List.pairwise_mergeSort (fun a b c hab hbc => ?_) (fun a b => ?_) t.entries
    · exact decide_eq_true (String.le_trans (of_decide_eq_true hab) (of_decide_eq_true hbc))
    · simpa using String.le_total a.1 b.1
  have hnodup : (t.sorted.map Prod.fst).Nodup :=
    (t.perm_sorted.map Prod.fst).nodup_iff.mpr t.distinct
  have hne : t.sorted.Pairwise fun a b => a.1 ≠ b.1 := List.pairwise_map.mp hnodup
  exact (hle.and hne).imp fun h => Std.lt_of_le_of_ne (of_decide_eq_true h.1) h.2

end Table

abbrev Environment := Table String

end FrameworkForge
