/-!
# Finite tables

A table holds at most one value per key and keeps its keys in order of first insertion. Each
operation is described through the look-up `find?`.
-/

namespace RegistrySession

universe u v w

/-- A finite map as a list of entries whose keys differ. -/
structure Table (κ : Type u) (α : Type v) where
  entries : List (κ × α)
  nodup : (entries.map Prod.fst).Nodup

namespace Table

variable {κ : Type u} {α : Type v} {β : Type w} [DecidableEq κ]

def lookup (key : κ) : List (κ × α) → Option α
  | [] => none
  | entry :: rest => if entry.1 = key then some entry.2 else lookup key rest

def empty : Table κ α := ⟨[], by simp⟩

instance : Inhabited (Table κ α) := ⟨empty⟩

def find? (table : Table κ α) (key : κ) : Option α :=
  lookup key table.entries

def contains (table : Table κ α) (key : κ) : Bool :=
  (table.find? key).isSome

def keys (table : Table κ α) : List κ :=
  table.entries.map Prod.fst

def size (table : Table κ α) : Nat :=
  table.entries.length

def isEmpty (table : Table κ α) : Bool :=
  table.entries.isEmpty

def mapValues (table : Table κ α) (f : α → β) : Table κ β where
  entries := table.entries.map fun entry => (entry.1, f entry.2)
  nodup := by
    have h := table.nodup
    simpa [List.map_map, Function.comp_def] using h

def filter (table : Table κ α) (keep : κ → α → Bool) : Table κ α where
  entries := table.entries.filter fun entry => keep entry.1 entry.2
  nodup := (List.filter_sublist.map Prod.fst).nodup table.nodup

def erase (table : Table κ α) (key : κ) : Table κ α :=
  table.filter fun other _ => other ≠ key

/-- Puts a value under a key, in the place of the old one if there was any. -/
def insert (table : Table κ α) (key : κ) (value : α) : Table κ α where
  entries :=
    if key ∈ table.entries.map Prod.fst then
      table.entries.map fun entry => if entry.1 = key then (key, value) else entry
    else table.entries ++ [(key, value)]
  nodup := by
    by_cases present : key ∈ table.entries.map Prod.fst
    case pos =>
      have same : (table.entries.map fun entry => if entry.1 = key then (key, value) else entry).map
          Prod.fst = table.entries.map Prod.fst := by
        rw [List.map_map]
        apply List.map_congr_left
        intro entry _
        by_cases h : entry.1 = key <;> simp [h]
      rw [if_pos present, same]
      exact table.nodup
    case neg =>
      rw [if_neg present, List.map_append]
      refine List.nodup_append.2 ⟨table.nodup, by simp, ?_⟩
      intro a ha b hb heq
      simp only [List.map_cons, List.map_nil, List.mem_singleton] at hb
      exact present (hb ▸ heq ▸ ha)

/-- Replaces the value under a key, if there is one, by a function of it. -/
def update (table : Table κ α) (key : κ) (f : α → α) : Table κ α :=
  match table.find? key with
  | some value => table.insert key (f value)
  | none => table

/-- Lists the entry of a key first. What is found under which key stays the same. -/
def promote (table : Table κ α) (key : κ) : Table κ α where
  entries := (table.entries.filter fun entry => entry.1 = key) ++
    table.entries.filter fun entry => entry.1 ≠ key
  nodup := by
    have hnodup := table.nodup
    rw [List.map_append]
    refine List.nodup_append.2
      ⟨(List.filter_sublist.map Prod.fst).nodup hnodup,
        (List.filter_sublist.map Prod.fst).nodup hnodup, ?_⟩
    intro left hleft right hright
    obtain ⟨entry, hentry, rfl⟩ := List.mem_map.1 hleft
    obtain ⟨other, hother, rfl⟩ := List.mem_map.1 hright
    have hkey : entry.1 = key := by simpa using (List.mem_filter.1 hentry).2
    have hkeyOther : other.1 ≠ key := by simpa using (List.mem_filter.1 hother).2
    intro heq
    exact hkeyOther (heq ▸ hkey)

theorem lookup_map_replace (entries : List (κ × α)) (key other : κ) (value : α) :
    lookup other (entries.map fun entry => if entry.1 = key then (key, value) else entry) =
      if other = key then (lookup key entries).map fun _ => value else lookup other entries := by
  induction entries with
  | nil => simp [lookup]
  | cons entry rest ih => grind [lookup]

/-- What stands in front is found first. -/
theorem lookup_append (front back : List (κ × α)) (key : κ) :
    lookup key (front ++ back) = (lookup key front).or (lookup key back) := by
  induction front with
  | nil => simp [lookup]
  | cons entry rest ih => grind [lookup]

theorem lookup_isSome_iff (entries : List (κ × α)) (key : κ) :
    (lookup key entries).isSome ↔ key ∈ entries.map Prod.fst := by
  induction entries with
  | nil => simp [lookup]
  | cons entry rest ih => grind [lookup]

@[simp, grind =]
theorem find?_empty (key : κ) : (empty : Table κ α).find? key = none := rfl

@[simp, grind =]
theorem find?_insert (table : Table κ α) (key other : κ) (value : α) :
    (table.insert key value).find? other =
      if other = key then some value else table.find? other := by
  unfold insert find?
  by_cases h : key ∈ table.entries.map Prod.fst
  · simp only [h, if_true, lookup_map_replace]
    obtain ⟨found, hfound⟩ :=
      Option.isSome_iff_exists.1 ((lookup_isSome_iff table.entries key).2 h)
    rw [hfound, Option.map_some]
  · simp only [h, if_false, lookup_append]
    have hnone : lookup key table.entries = none := by
      rw [← Option.not_isSome_iff_eq_none, lookup_isSome_iff]
      exact h
    by_cases heq : other = key
    · simp [heq, hnone, lookup]
    · have hne : ¬ key = other := fun hk => heq hk.symm
      simp [lookup, heq, hne]

theorem lookup_filter (entries : List (κ × α)) (keep : κ → α → Bool) (key : κ)
    (nodup : (entries.map Prod.fst).Nodup) :
    lookup key (entries.filter fun entry => keep entry.1 entry.2) =
      (lookup key entries).filter (keep key) := by
  induction entries with
  | nil => simp [lookup]
  | cons entry rest ih =>
    rw [List.map_cons, List.nodup_cons] at nodup
    rw [List.filter_cons]
    by_cases hkey : entry.1 = key
    · subst hkey
      have absent : lookup entry.1 rest = none := by
        rw [← Option.not_isSome_iff_eq_none, lookup_isSome_iff]
        exact nodup.1
      by_cases hkeep : keep entry.1 entry.2 = true
      · simp [lookup, Option.filter, hkeep]
      · simp [lookup, Option.filter, hkeep, ih nodup.2, absent]
    · by_cases hkeep : keep entry.1 entry.2 = true
      · simp [lookup, hkeep, hkey, ih nodup.2]
      · simp [lookup, hkeep, hkey, ih nodup.2]

theorem find?_filter (table : Table κ α) (keep : κ → α → Bool) (key : κ) :
    (table.filter keep).find? key = (table.find? key).filter (keep key) :=
  lookup_filter table.entries keep key table.nodup

@[simp, grind =]
theorem find?_erase (table : Table κ α) (key other : κ) :
    (table.erase key).find? other = if other = key then none else table.find? other := by
  rw [erase, find?_filter]
  by_cases h : other = key
  · cases table.find? other <;> simp [h]
  · cases table.find? other <;> simp [h]

/-- Of two values put under one key the last stays. -/
theorem insert_insert (table : Table κ α) (key : κ) (first second : α) :
    (table.insert key first).insert key second = table.insert key second := by
  have hinserted : key ∈ (table.insert key first).entries.map Prod.fst :=
    (lookup_isSome_iff _ _).1 (by rw [← find?, find?_insert, if_pos rfl]; rfl)
  rw [insert.eq_def (table.insert key first), mk.injEq, if_pos hinserted]
  simp only [insert]
  by_cases hpresent : key ∈ table.entries.map Prod.fst
  · rw [if_pos hpresent, if_pos hpresent, List.map_map]
    refine List.map_congr_left fun entry _ => ?_
    by_cases hkey : entry.1 = key <;> simp [hkey]
  · have hothers : ∀ entry ∈ table.entries,
        (if entry.1 = key then (key, second) else entry) = entry := fun entry hentry =>
      if_neg fun hkey => hpresent (List.mem_map.2 ⟨entry, hentry, hkey⟩)
    rw [if_neg hpresent, if_neg hpresent, List.map_append, List.map_congr_left hothers,
      List.map_id']
    simp

/-- A key that is put in and taken out again leaves no trace. -/
theorem erase_insert {table : Table κ α} {key : κ} (hnone : table.find? key = none) (value : α) :
    (table.insert key value).erase key = table := by
  have habsent : key ∉ table.entries.map Prod.fst := fun hmem =>
    absurd hnone (Option.isSome_iff_ne_none.1 ((lookup_isSome_iff table.entries key).2 hmem))
  have hothers : ∀ entry ∈ table.entries, decide (entry.1 ≠ key) = true := fun entry hentry =>
    decide_eq_true fun hkey => habsent (List.mem_map.2 ⟨entry, hentry, hkey⟩)
  obtain ⟨entries, nodup⟩ := table
  simp only [erase, filter, insert, if_neg habsent, List.filter_append, mk.injEq]
  rw [List.filter_eq_self.2 hothers]
  simp

@[simp, grind =]
theorem find?_promote (table : Table κ α) (key other : κ) :
    (table.promote key).find? other = table.find? other := by
  have hfront := lookup_filter table.entries (fun found _ => decide (found = key)) other table.nodup
  have hback := lookup_filter table.entries (fun found _ => decide (found ≠ key)) other table.nodup
  rw [find?, promote, lookup_append, hfront, hback, find?]
  by_cases h : other = key
  · cases lookup other table.entries <;> simp [h]
  · cases lookup other table.entries <;> simp [h]

theorem lookup_mapValues (entries : List (κ × α)) (f : α → β) (key : κ) :
    lookup key (entries.map fun entry => (entry.1, f entry.2)) = (lookup key entries).map f := by
  induction entries with
  | nil => simp [lookup]
  | cons entry rest ih => grind [lookup]

@[simp, grind =]
theorem find?_mapValues (table : Table κ α) (f : α → β) (key : κ) :
    (table.mapValues f).find? key = (table.find? key).map f :=
  lookup_mapValues table.entries f key

@[simp, grind =]
theorem find?_update (table : Table κ α) (key other : κ) (f : α → α) :
    (table.update key f).find? other =
      if other = key then (table.find? key).map f else table.find? other := by
  unfold update
  cases h : table.find? key with
  | none =>
    by_cases heq : other = key
    · simp [heq, h]
    · simp [heq]
  | some value => simp [find?_insert]

theorem mem_entries_of_lookup {entries : List (κ × α)} {key : κ} {value : α}
    (h : lookup key entries = some value) : (key, value) ∈ entries := by
  induction entries with
  | nil => simp [lookup] at h
  | cons entry rest ih => grind [lookup]

theorem lookup_of_mem_entries {entries : List (κ × α)} {key : κ} {value : α}
    (nodup : (entries.map Prod.fst).Nodup) (h : (key, value) ∈ entries) :
    lookup key entries = some value := by
  induction entries with
  | nil => simp at h
  | cons entry rest ih =>
    have hkey : (key, value) ∈ rest → key ∈ rest.map Prod.fst :=
      fun hmem => List.mem_map.2 ⟨_, hmem, rfl⟩
    grind [lookup]

theorem map_replace_eq_self {entries : List (κ × α)} {key : κ} {value : α}
    (nodup : (entries.map Prod.fst).Nodup) (h : lookup key entries = some value) :
    (entries.map fun entry => if entry.1 = key then (key, value) else entry) = entries := by
  refine (List.map_congr_left ?_).trans (List.map_id entries)
  intro entry hentry
  by_cases hkey : entry.1 = key
  · have hfound : lookup key entries = some entry.2 := by
      rw [← hkey]
      exact lookup_of_mem_entries nodup hentry
    have hvalue : value = entry.2 := Option.some.inj (h.symm.trans hfound)
    rw [if_pos hkey, hvalue, ← hkey, id]
  · rw [if_neg hkey, id]

/-- A table changes by an update just if the value under the key does. -/
theorem update_eq_self_iff (table : Table κ α) (key : κ) (f : α → α) :
    table.update key f = table ↔ ∀ value, table.find? key = some value → f value = value := by
  constructor
  · intro h value hvalue
    have hupdated := find?_update table key key f
    rw [h, if_pos rfl, hvalue] at hupdated
    exact (Option.some.inj hupdated).symm
  · intro h
    unfold update
    cases hvalue : table.find? key with
    | none => rfl
    | some value =>
      have hmem : key ∈ table.entries.map Prod.fst :=
        (lookup_isSome_iff table.entries key).1 (by rw [find?] at hvalue; simp [hvalue])
      simp only [h value hvalue, insert, if_pos hmem,
        map_replace_eq_self table.nodup hvalue]

/-- Entries are what is found under their keys. -/
theorem mem_entries_iff (table : Table κ α) (key : κ) (value : α) :
    (key, value) ∈ table.entries ↔ table.find? key = some value :=
  ⟨lookup_of_mem_entries table.nodup, mem_entries_of_lookup⟩

theorem contains_iff_mem_keys (table : Table κ α) (key : κ) :
    table.contains key = true ↔ key ∈ table.keys :=
  lookup_isSome_iff table.entries key

end Table

end RegistrySession
