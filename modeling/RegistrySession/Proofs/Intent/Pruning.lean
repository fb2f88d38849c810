import Mathlib.Data.List.Basic
import RegistrySession.Proofs.Intent.History

/-!
# Logs without their settled entries

Pruning takes a settled entry out of a log.  To compare a log with one that was pruned, both are
looked at without the settled entries of certain names.  Whatever the server confirms, and whatever
is pruned or lost, the two go on to look the same.  So do the names listed, if one log lists them in
the order of the other.
-/

namespace RegistrySession

namespace Table

variable {κ α : Type} [DecidableEq κ]

omit [DecidableEq κ] in
theorem ext_entries {table other : Table κ α} (h : table.entries = other.entries) :
    table = other := by
  cases table
  cases other
  simp only [mk.injEq]
  exact h

theorem entries_update (table : Table κ α) (key : κ) (f : α → α) :
    (table.update key f).entries =
      table.entries.map fun entry => if entry.1 = key then (entry.1, f entry.2) else entry := by
  unfold update
  cases hvalue : table.find? key with
  | none =>
    refine ((List.map_congr_left fun entry hentry => ?_).trans (List.map_id _)).symm
    have hfound := (table.mem_entries_iff entry.1 entry.2).1 hentry
    rw [if_neg, id]
    rintro rfl
    exact Option.some_ne_none _ (hfound.symm.trans hvalue)
  | some value =>
    have hmem := (table.contains_iff_mem_keys key).1 (by rw [contains, hvalue, Option.isSome_some])
    rw [keys] at hmem
    simp only [Table.insert, if_pos hmem]
    apply List.map_congr_left
    intro entry hentry
    have hfound := (table.mem_entries_iff entry.1 entry.2).1 hentry
    by_cases hkey : entry.1 = key
    · rw [hkey, hvalue] at hfound
      rw [if_pos hkey, if_pos hkey, hkey, Option.some.inj hfound]
    · rw [if_neg hkey, if_neg hkey]

/-! ## The order in which a table lists its entries -/

theorem filter_key_eq (table : Table κ α) (key : κ) :
    (table.entries.filter fun entry => entry.1 = key) =
      ((table.find? key).map (Prod.mk key)).toList := by
  obtain ⟨entries, hnodup⟩ := table
  rw [find?]
  induction entries with
  | nil => rfl
  | cons entry rest ih =>
    rw [List.map_cons, List.nodup_cons] at hnodup
    by_cases hkey : entry.1 = key
    · have hrest : (rest.filter fun entry => entry.1 = key) = [] := by
        refine List.filter_eq_nil_iff.2 fun other hother => ?_
        rintro hsame
        exact hnodup.1 (List.mem_map.2 ⟨other, hother, by simpa [hkey] using hsame⟩)
      rw [List.filter_cons_of_pos (by simpa using hkey), hrest, lookup, if_pos hkey, ← hkey]
      rfl
    · rw [List.filter_cons_of_neg (by simpa using hkey), lookup, if_neg hkey]
      exact ih hnodup.2

/-- Lists the entries of the given keys first, in their order. -/
def promoteAll (table : Table κ α) (keys : List κ) : Table κ α :=
  keys.foldr (fun key table => table.promote key) table

@[simp]
theorem find?_promoteAll (table : Table κ α) (keys : List κ) (key : κ) :
    (table.promoteAll keys).find? key = table.find? key := by
  induction keys with
  | nil => rfl
  | cons first rest ih =>
    rw [promoteAll, List.foldr_cons, find?_promote]
    exact ih

theorem entries_promoteAll (table : Table κ α) (keys : List κ) (hnodup : keys.Nodup) :
    (table.promoteAll keys).entries =
      (keys.filterMap fun key => (table.find? key).map (Prod.mk key)) ++
        table.entries.filter fun entry => entry.1 ∉ keys := by
  induction keys with
  | nil => exact (List.filter_eq_self.2 fun _ _ => by simp).symm
  | cons first rest ih =>
    obtain ⟨hfirst, hrest⟩ := List.nodup_cons.1 hnodup
    have hfront : ((table.promoteAll rest).entries.filter fun entry => entry.1 = first) =
        ((table.find? first).map (Prod.mk first)).toList := by
      rw [filter_key_eq, find?_promoteAll]
    have hback : ((table.promoteAll rest).entries.filter fun entry => entry.1 ≠ first) =
        (rest.filterMap fun key => (table.find? key).map (Prod.mk key)) ++
          table.entries.filter fun entry => entry.1 ∉ first :: rest := by
      rw [ih hrest, List.filter_append, List.filter_filter]
      congr 1
      · refine List.filter_eq_self.2 fun entry hentry => ?_
        obtain ⟨key, hkey, hvalue⟩ := List.mem_filterMap.1 hentry
        obtain ⟨value, -, rfl⟩ := Option.map_eq_some_iff.1 hvalue
        have hne : key ≠ first := fun hsame => hfirst (hsame ▸ hkey)
        simpa using hne
      · apply List.filter_congr
        intro entry _
        simp [not_or]
    rw [promoteAll] at hfront hback
    rw [promoteAll, List.foldr_cons, promote]
    simp only
    rw [hfront, hback, List.filterMap_cons]
    cases table.find? first <;> simp

/-- A table is put in the order of another by the keys of one that has more entries. -/
theorem promoteAll_keys_eq_filter {table other : Table κ α} {keep : κ → α → Bool}
    (hfind : ∀ key, other.find? key = (table.filter keep).find? key) :
    other.promoteAll table.keys = table.filter keep := by
  apply ext_entries
  rw [entries_promoteAll other table.keys table.nodup]
  have hlisted : (table.keys.filterMap fun key => (other.find? key).map (Prod.mk key)) =
      (table.filter keep).entries := by
    rw [keys, List.filterMap_map]
    change _ = table.entries.filter fun entry => keep entry.1 entry.2
    rw [← List.filterMap_eq_filter]
    apply List.filterMap_congr
    intro entry hentry
    have hfound := (table.mem_entries_iff entry.1 entry.2).1 hentry
    rw [Function.comp, hfind, find?_filter, hfound]
    cases hkeep : keep entry.1 entry.2 <;> simp [Option.filter, Option.guard, hkeep]
  have hrest : (other.entries.filter fun entry => entry.1 ∉ table.keys) = [] := by
    refine List.filter_eq_nil_iff.2 fun entry hentry => ?_
    have hfound := (other.mem_entries_iff entry.1 entry.2).1 hentry
    rw [hfind, find?_filter] at hfound
    obtain ⟨hkept, -⟩ := Option.filter_eq_some_iff.1 hfound
    have hkey := (table.contains_iff_mem_keys entry.1).1 (by rw [contains, hkept, Option.isSome_some])
    simpa using hkey
  rw [hlisted, hrest, List.append_nil]

end Table

namespace Intent

variable {π : Type}

def Entry.isGone (gone : String → Bool) (name : String) (entry : Entry π) : Bool :=
  gone name && entry.isSettled

namespace Log

/-- The log without the settled entries of some names. -/
def without (log : Log π) (gone : String → Bool) : Log π :=
  { log with entries := log.entries.filter fun name entry => !entry.isGone gone name }

variable {log : Log π} {gone : String → Bool} {name : String}

@[simp]
theorem session_without (log : Log π) (gone : String → Bool) :
    (log.without gone).session = log.session := rfl

theorem find?_without (log : Log π) (gone : String → Bool) (name : String) :
    (log.without gone).find? name = (log.find? name).filter (!·.isGone gone name) :=
  Table.find?_filter _ _ _

/-- What is left out is not found. -/
theorem isGone_without {entry : Entry π} (hentry : (log.without gone).find? name = some entry) :
    entry.isGone gone name = false := by
  rw [find?_without] at hentry
  simpa using (Option.filter_eq_some_iff.1 hentry).2

/-- Where nothing is gone, nothing is left out. -/
theorem find?_without_of_not_gone
    (h : ∀ entry, log.find? name = some entry → entry.isGone gone name = false) :
    (log.without gone).find? name = log.find? name := by
  rw [find?_without]
  cases hentry : log.find? name with
  | none => rfl
  | some entry => simp [Option.filter, h entry hentry]

/-- Where nothing is gone, nothing is left out. -/
theorem without_eq_self
    (h : ∀ name entry, log.find? name = some entry → entry.isGone gone name = false) :
    log.without gone = log := by
  have hentries : log.entries.filter (fun name entry => !entry.isGone gone name) = log.entries := by
    refine Table.ext_entries (List.filter_eq_self.2 fun entry hentry => ?_)
    simp only [h entry.1 entry.2 ((log.entries.mem_entries_iff _ _).1 hentry), Bool.not_false]
  rw [without, hentries]

@[simp]
theorem without_without (log : Log π) (gone : String → Bool) :
    (log.without gone).without gone = log.without gone :=
  without_eq_self fun _ _ => isGone_without

/-- Pruning is all that it takes to leave the settled entry of one name out. -/
theorem prune_eq_without (log : Log π) (name : String) :
    (log.prune name).1 = log.without (· = name) := by
  have hkept : (∀ entry, log.find? name = some entry → entry.isSettled = false) →
      log = log.without (· = name) := by
    intro h
    refine (without_eq_self fun other entry hentry => ?_).symm
    by_cases hname : other = name
    · subst hname
      rw [Entry.isGone, h entry hentry, Bool.and_false]
    · rw [Entry.isGone, decide_eq_false hname, Bool.false_and]
  unfold prune
  cases hentry : log.find? name with
  | none => exact hkept fun entry h => absurd (h.symm.trans hentry) (Option.some_ne_none _)
  | some entry =>
    cases hsettled : entry.isSettled with
    | false =>
      simp only [hsettled, Bool.false_eq_true, if_false]
      exact hkept fun other h => by rwa [Option.some.inj (h.symm.trans hentry)]
    | true =>
      have hentries : log.entries.erase name =
          log.entries.filter fun other entry => !entry.isGone (· = name) other := by
        refine Table.ext_entries (List.filter_congr fun listed hlisted => ?_)
        by_cases hname : listed.1 = name
        · have hfound := (log.entries.mem_entries_iff _ _).1 hlisted
          rw [hname] at hfound
          obtain rfl := Option.some.inj (hentry.symm.trans hfound)
          simp [Entry.isGone, hname, hsettled]
        · simp [Entry.isGone, hname]
      simp only [hsettled, if_true, remove, hentries]
      rfl

/-- Nothing is left to prune of what is gone. -/
theorem prune_without (log : Log π) (hgone : gone name = true) :
    ((log.without gone).prune name).1 = log.without gone := by
  rw [prune_eq_without]
  refine without_eq_self fun other entry hentry => ?_
  have hkept := isGone_without hentry
  by_cases hname : other = name
  · subst hname
    simpa [Entry.isGone, hgone] using hkept
  · rw [Entry.isGone, decide_eq_false hname, Bool.false_and]

/-- Nothing settled counts as registered. -/
theorem isRegistered_without (log : Log π) (gone : String → Bool) (name : String) :
    (log.without gone).isRegistered name = log.isRegistered name := by
  rw [isRegistered, isRegistered, find?_without]
  cases log.find? name with
  | none => rfl
  | some entry =>
    cases hgone : entry.isGone gone name with
    | false => simp [Option.filter, hgone]
    | true =>
      obtain ⟨hregistered, -⟩ := entry.isSettled_iff.1 (Bool.and_eq_true_iff.1 hgone).2
      simp [Option.filter, hgone, hregistered]

/-- A pass has nothing to do for what is gone but to prune it. -/
theorem pending_without (log : Log π) (gone : String → Bool) :
    (log.without gone).pending =
      log.pending.filter fun entry => !entry.2.isGone gone entry.1 := by
  rw [pending, pending, List.filter_filter]
  exact (List.filter_filter ..).trans (List.filter_congr fun _ _ => Bool.and_comm ..)

theorem without_reorder (log : Log π) (gone : String → Bool) (name : String) :
    (log.reorder name).without gone = (log.without gone).reorder name := by
  have hentries : (log.entries.promote name).filter (fun name entry => !entry.isGone gone name) =
      (log.entries.filter fun name entry => !entry.isGone gone name).promote name := by
    apply Table.ext_entries
    simp only [Table.filter, Table.promote, List.filter_append, List.filter_filter, Bool.and_comm]
  simp only [without, reorder, hentries]

/-- Lists the entries of the given names first, in their order. -/
def reorderAll (log : Log π) (names : List String) : Log π :=
  { log with entries := log.entries.promoteAll names }

theorem reorderAll_cons (log : Log π) (name : String) (names : List String) :
    log.reorderAll (name :: names) = (log.reorderAll names).reorder name := rfl

theorem without_reorderAll (log : Log π) (gone : String → Bool) (names : List String) :
    (log.reorderAll names).without gone = (log.without gone).reorderAll names := by
  induction names with
  | nil => rfl
  | cons name names ih => rw [reorderAll_cons, without_reorder, ih, reorderAll_cons]

/-- Logs that hold the same but for what is gone come to list the same. -/
theorem without_reorderAll_keys {other : Log π}
    (hfind : ∀ name, (other.without gone).find? name = (log.without gone).find? name)
    (hsession : other.session = log.session) :
    (other.reorderAll log.entries.keys).without gone = log.without gone := by
  have hentries : (other.without gone).entries.promoteAll log.entries.keys =
      (log.without gone).entries :=
    Table.promoteAll_keys_eq_filter hfind
  rw [without_reorderAll, reorderAll, hentries, session_without, hsession]
  rfl

/-! ## Operations -/

theorem without_eq_of_entries {other : Log π} (hsession : log.session = other.session)
    (hentries : (log.entries.entries.filter fun entry => !entry.2.isGone gone entry.1) =
      other.entries.entries.filter fun entry => !entry.2.isGone gone entry.1) :
    log.without gone = other.without gone := by
  have htable : log.entries.filter (fun name entry => !entry.isGone gone name) =
      other.entries.filter fun name entry => !entry.isGone gone name :=
    Table.ext_entries hentries
  rw [without, without, htable, hsession]

/-- A change that keeps settled entries settled need not see those that are gone. -/
theorem filter_map_filter (change : String × Entry π → String × Entry π)
    (hname : ∀ entry, (change entry).1 = entry.1)
    (hsettled : ∀ entry, entry.2.isSettled = true → (change entry).2.isSettled = true)
    (entries : List (String × Entry π)) :
    ((entries.map change).filter fun entry => !entry.2.isGone gone entry.1) =
      (((entries.filter fun entry => !entry.2.isGone gone entry.1).map change).filter
        fun entry => !entry.2.isGone gone entry.1) := by
  rw [List.filter_map, List.filter_map, List.filter_filter]
  congr 1
  apply List.filter_congr
  intro entry _
  cases hgone : entry.2.isGone gone entry.1 with
  | false => simp
  | true =>
    obtain ⟨hnamed, hentry⟩ := Bool.and_eq_true_iff.1 hgone
    simp [Entry.isGone, hname, hnamed, hsettled entry hentry]

/-- A change that leaves settled entries settled may come before or after leaving some out. -/
theorem without_amend (log : Log π) (gone : String → Bool) (name : String)
    {f : Entry π → Entry π}
    (hf : ∀ entry : Entry π, entry.isSettled = true → (f entry).isSettled = true) :
    (log.amend name f).without gone = ((log.without gone).amend name f).without gone := by
  refine without_eq_of_entries rfl ?_
  simp only [amend, Table.entries_update]
  apply filter_map_filter
  · intro entry
    exact (apply_ite Prod.fst _ _ _).trans (ite_self _)
  · intro entry hentry
    by_cases hnamed : entry.1 = name
    · rw [if_pos hnamed]
      exact hf entry.2 hentry
    · rw [if_neg hnamed]
      exact hentry

/-- A guarded change of an entry keeps a settled one settled if the change does. -/
theorem without_amend_guarded (log : Log π) (gone : String → Bool) (name : String)
    {guard : Entry π → Prop} [DecidablePred guard] {change : Entry π → Entry π}
    (hchange : ∀ entry, guard entry → entry.isSettled = true → (change entry).isSettled = true) :
    (log.amend name fun entry => if guard entry then change entry else entry).without gone =
      ((log.without gone).amend name fun entry =>
        if guard entry then change entry else entry).without gone := by
  apply without_amend
  intro entry hsettled
  by_cases hguard : guard entry
  · rw [if_pos hguard]
    exact hchange entry hguard hsettled
  · rwa [if_neg hguard]

theorem without_filter (log : Log π) (gone : String → Bool) (keep : String → Entry π → Bool) :
    ({ log with entries := log.entries.filter keep } : Log π).without gone =
      ({ log.without gone with
        entries := (log.without gone).entries.filter keep } : Log π).without gone := by
  refine without_eq_of_entries rfl ?_
  simp only [without, Table.filter, List.filter_filter]
  apply List.filter_congr
  intro entry _
  cases entry.2.isGone gone entry.1 <;> simp

/-- A deregistration need not see what is gone, unless that is what it finds. -/
theorem find?_without_intendDeregister (log : Log π) (gone : String → Bool) {target : String}
    (hmet : ∀ entry, log.find? target = some entry → entry.isGone gone target = false)
    (name : String) :
    (((log.without gone).intendDeregister target).1.without gone).find? name =
      ((log.intendDeregister target).1.without gone).find? name := by
  simp only [intendDeregister, find?_without _ _ name, find?_amend]
  by_cases hname : name = target
  · rw [if_pos hname, if_pos hname, find?_without_of_not_gone hmet]
  · rw [if_neg hname, if_neg hname, Option.filter_filter]
    simp only [Bool.and_self]

variable [DecidableEq π]

/-- What the server confirms, and what is lost or pruned, need not see what is gone. -/
theorem without_apply (log : Log π) (gone : String → Bool) (operation : Operation π)
    (hwish : ∀ name, operation.wish? name = none) :
    (log.apply operation).without gone = ((log.without gone).apply operation).without gone := by
  cases operation with
  | intendRegister target desired => simp [Operation.wish?] at hwish
  | intendDeregister target => simp [Operation.wish?] at hwish
  | confirmRegistered target session =>
    apply without_amend_guarded
    rintro entry ⟨hexpected, -⟩ hsettled
    simp [Entry.isSettled, hexpected] at hsettled
  | confirmPush target pushed session =>
    apply without_amend_guarded
    rintro entry ⟨hexpected, -⟩ hsettled
    simp [Entry.isSettled, hexpected] at hsettled
  | confirmDeregistered target session =>
    apply without_amend_guarded
    rintro entry ⟨hexpected, -⟩ -
    simpa [Entry.isSettled] using hexpected
  | loseSession =>
    refine without_eq_of_entries rfl ?_
    refine filter_map_filter (fun entry => (entry.1, forget entry.2)) (fun _ => rfl) ?_ _
    intro entry hentry
    simp_all [Entry.isSettled, forget]
  | prune target =>
    simp only [apply, prune_eq_without]
    exact without_filter log gone _
  | remove target => exact without_filter log gone _

/-- Registering starts anew from a settled entry. -/
theorem renew_of_isSettled {entry : Entry π} (hsettled : entry.isSettled = true) (desired : π) :
    renew desired entry = .ofIntent desired := by
  obtain ⟨hregistered, -⟩ := entry.isSettled_iff.1 hsettled
  simp only [renew, hregistered, Bool.false_and, Entry.ofIntent]

/-- A registration finds a settled entry, or none, to the same effect. -/
theorem find?_without_intendRegister (log : Log π) (gone : String → Bool) (target : String)
    (desired : π) (name : String) :
    (((log.without gone).intendRegister target desired).without gone).find? name =
      ((log.intendRegister target desired).without gone).find? name := by
  rw [find?_without, find?_without]
  rw [find?_intendRegister, find?_intendRegister]
  by_cases hname : name = target
  · rw [if_pos hname, if_pos hname, find?_without]
    cases log.find? target with
    | none => rfl
    | some entry =>
      cases hgone : entry.isGone gone target with
      | false => simp [Option.filter, hgone]
      | true =>
        have hsettled := (Bool.and_eq_true_iff.1 hgone).2
        simp [Option.filter, hgone, renew_of_isSettled hsettled]
  · rw [if_neg hname, if_neg hname, find?_without, Option.filter_filter]
    simp only [Bool.and_self]

end Log

end Intent

end RegistrySession
