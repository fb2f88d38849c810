import RegistrySession.Watchlist

/-!
# Handles

The number of a handle is never given out again, and marking handles registers nobody.  What a
handle heard is read off the deliveries, the newest first.
-/

namespace RegistrySession

variable {ρ ℓ : Type}

namespace Subscriptions

/-! ## Handles that are marked -/

theorem isReached_markReached (subscriptions : Subscriptions ℓ) (handle other : Handle ℓ) :
    (subscriptions.markReached handle).isReached other = true ↔
      subscriptions.isReached other = true ∨ handle.id = other.id := by
  by_cases hreached : subscriptions.isReached handle = true
  · rw [markReached, if_pos hreached]
    refine ⟨.inl, ?_⟩
    rintro (h | hid)
    · exact h
    · rwa [isReached, ← hid]
  · rw [markReached, if_neg hreached]
    simp only [isReached, List.contains_cons, Bool.or_eq_true, beq_iff_eq]
    rw [or_comm, @eq_comm _ other.id]

def markAll (subscriptions : Subscriptions ℓ) (handles : List (Handle ℓ)) : Subscriptions ℓ :=
  handles.foldl markReached subscriptions

theorem markAll_append (subscriptions : Subscriptions ℓ) (first second : List (Handle ℓ)) :
    subscriptions.markAll (first ++ second) = (subscriptions.markAll first).markAll second :=
  List.foldl_append

theorem isReached_markAll (subscriptions : Subscriptions ℓ) (handles : List (Handle ℓ))
    (other : Handle ℓ) :
    (subscriptions.markAll handles).isReached other = true ↔
      subscriptions.isReached other = true ∨ ∃ handle ∈ handles, handle.id = other.id := by
  induction handles generalizing subscriptions with
  | nil => simp [markAll]
  | cons handle handles ih =>
    refine (ih (subscriptions.markReached handle)).trans ?_
    simp [isReached_markReached, or_assoc]

@[simp]
theorem handles_markReached (subscriptions : Subscriptions ℓ) (handle : Handle ℓ) :
    (subscriptions.markReached handle).handles = subscriptions.handles := by
  unfold markReached
  cases subscriptions.isReached handle <;> rfl

@[simp]
theorem next_markReached (subscriptions : Subscriptions ℓ) (handle : Handle ℓ) :
    (subscriptions.markReached handle).next = subscriptions.next := by
  unfold markReached
  cases subscriptions.isReached handle <;> rfl

@[simp]
theorem handlesOf_markAll (subscriptions : Subscriptions ℓ) (handles : List (Handle ℓ))
    (key : Key) : (subscriptions.markAll handles).handlesOf key = subscriptions.handlesOf key := by
  induction handles generalizing subscriptions with
  | nil => rfl
  | cons handle handles ih =>
    refine (ih _).trans ?_
    rw [handlesOf, handles_markReached]
    rfl

@[simp]
theorem next_markAll (subscriptions : Subscriptions ℓ) (handles : List (Handle ℓ)) :
    (subscriptions.markAll handles).next = subscriptions.next := by
  induction handles generalizing subscriptions with
  | nil => rfl
  | cons handle handles ih => exact (ih _).trans (next_markReached _ _)

/-! ## Handles that come and go -/

theorem getD_find?_insert (handles : Table Key (List (Handle ℓ))) (key : Key)
    (found : List (Handle ℓ)) (other : Key) :
    ((handles.insert key found).find? other).getD [] =
      if other = key then found else (handles.find? other).getD [] := by
  rw [Table.find?_insert]
  by_cases hother : other = key
  · rw [if_pos hother, if_pos hother, Option.getD_some]
  · rw [if_neg hother, if_neg hother]

variable [DecidableEq ℓ]

/-- A listener that is registered has a handle already, or gets one with a number of its own. -/
theorem register_cases (subscriptions : Subscriptions ℓ) (key : Key) (listener : ℓ) :
    ((subscriptions.register key listener).1 = subscriptions ∧
      (subscriptions.register key listener).2 ∈ subscriptions.handlesOf key) ∨
    ((subscriptions.register key listener).2.id = subscriptions.next ∧
      (subscriptions.register key listener).1.next = subscriptions.next + 1 ∧
      (subscriptions.register key listener).1.reached = subscriptions.reached ∧
      ∀ other, (subscriptions.register key listener).1.handlesOf other =
        if other = key then
          subscriptions.handlesOf key ++ [(subscriptions.register key listener).2]
        else subscriptions.handlesOf other) := by
  unfold register
  cases hfound : subscriptions.handle? key listener with
  | some handle => exact .inl ⟨rfl, List.mem_of_find?_eq_some hfound⟩
  | none =>
    exact .inr ⟨rfl, rfl, rfl, getD_find?_insert subscriptions.handles key _⟩

theorem reached_register (subscriptions : Subscriptions ℓ) (key : Key) (listener : ℓ) :
    (subscriptions.register key listener).1.reached = subscriptions.reached := by
  rcases subscriptions.register_cases key listener with ⟨hsame, -⟩ | ⟨-, -, hreached, -⟩
  · rw [hsame]
  · exact hreached

theorem mem_handlesOf_register (subscriptions : Subscriptions ℓ) (key : Key) (listener : ℓ) :
    (subscriptions.register key listener).2 ∈
      (subscriptions.register key listener).1.handlesOf key := by
  rcases subscriptions.register_cases key listener with ⟨hsame, hmem⟩ | ⟨-, -, -, hhandles⟩
  · rwa [hsame]
  · rw [hhandles, if_pos rfl]
    exact List.mem_append_right _ List.mem_cons_self

/-- Only the new handle is listed in addition. -/
theorem mem_handlesOf_of_register {subscriptions : Subscriptions ℓ} {key other : Key} {listener : ℓ}
    {handle : Handle ℓ}
    (h : handle ∈ (subscriptions.register key listener).1.handlesOf other) :
    handle ∈ subscriptions.handlesOf other ∨
      (other = key ∧ handle = (subscriptions.register key listener).2 ∧
        handle.id = subscriptions.next) := by
  rcases subscriptions.register_cases key listener with ⟨hsame, -⟩ | ⟨hid, -, -, hhandles⟩
  · rw [hsame] at h
    exact .inl h
  · rw [hhandles] at h
    by_cases hother : other = key
    · subst hother
      rw [if_pos rfl] at h
      rcases List.mem_append.1 h with hold | hnew
      · exact .inl hold
      · obtain rfl := List.mem_singleton.1 hnew
        exact .inr ⟨rfl, rfl, hid⟩
    · rw [if_neg hother] at h
      exact .inl h

/-- No key lists a handle twice, since a new one has a number that none has that is listed. -/
theorem nodup_handlesOf_register {subscriptions : Subscriptions ℓ}
    (hnodup : ∀ key, (subscriptions.handlesOf key).Nodup)
    (hlt : ∀ key, ∀ handle ∈ subscriptions.handlesOf key, handle.id < subscriptions.next)
    (key : Key) (listener : ℓ) (other : Key) :
    ((subscriptions.register key listener).1.handlesOf other).Nodup := by
  rcases subscriptions.register_cases key listener with ⟨hsame, -⟩ | ⟨hid, -, -, hhandles⟩
  · rw [hsame]
    exact hnodup other
  · rw [hhandles]
    by_cases hother : other = key
    · rw [if_pos hother]
      refine List.nodup_append.2 ⟨hnodup key, List.pairwise_singleton _ _, ?_⟩
      intro old hold new hnew hsame
      obtain rfl := List.mem_singleton.1 hnew
      have hnumber := hlt key old hold
      rw [hsame, hid] at hnumber
      exact Nat.lt_irrefl _ hnumber
    · rw [if_neg hother]
      exact hnodup other

/-- The handles that a key keeps when a listener is taken off it. -/
def remaining (subscriptions : Subscriptions ℓ) (key : Key) (listener : ℓ) : List (Handle ℓ) :=
  (subscriptions.handlesOf key).filter fun handle => handle.listener ≠ listener

theorem find?_deregister (subscriptions : Subscriptions ℓ) (key : Key) (listener : ℓ)
    (other : Key) :
    (subscriptions.deregister key listener).1.handles.find? other =
      if other = key then
        if subscriptions.remaining key listener = [] then none
        else some (subscriptions.remaining key listener)
      else subscriptions.handles.find? other := by
  cases hfound : subscriptions.handles.find? key with
  | none =>
    have hnobody : subscriptions.remaining key listener = [] := by
      simp [remaining, handlesOf, hfound]
    simp only [deregister, hfound, hnobody, if_true]
    by_cases hother : other = key
    · rw [if_pos hother, hother, hfound]
    · rw [if_neg hother]
  | some handles =>
    have hkept : subscriptions.remaining key listener =
        handles.filter fun handle => handle.listener ≠ listener := by
      simp [remaining, handlesOf, hfound]
    simp only [deregister, hfound, ← hkept, List.isEmpty_iff]
    by_cases hnobody : subscriptions.remaining key listener = []
    · rw [if_pos hnobody, if_pos hnobody, Table.find?_erase]
    · rw [if_neg hnobody, if_neg hnobody, Table.find?_insert]

theorem handlesOf_deregister (subscriptions : Subscriptions ℓ) (key : Key) (listener : ℓ)
    (other : Key) :
    (subscriptions.deregister key listener).1.handlesOf other =
      if other = key then subscriptions.remaining key listener
      else subscriptions.handlesOf other := by
  rw [handlesOf, find?_deregister]
  by_cases hother : other = key
  · rw [if_pos hother, if_pos hother]
    by_cases hnobody : subscriptions.remaining key listener = []
    · rw [if_pos hnobody, hnobody, Option.getD_none]
    · rw [if_neg hnobody, Option.getD_some]
  · rw [if_neg hother, if_neg hother, handlesOf]

/-- Taking a listener off a key registers nobody. -/
theorem handlesOf_deregister_sublist (subscriptions : Subscriptions ℓ) (key : Key) (listener : ℓ)
    (other : Key) :
    ((subscriptions.deregister key listener).1.handlesOf other).Sublist
      (subscriptions.handlesOf other) := by
  by_cases hkey : other = key
  · rw [handlesOf_deregister, if_pos hkey, hkey]
    exact List.filter_sublist
  · have hsame := (subscriptions.handlesOf_deregister key listener other).trans (if_neg hkey)
    exact hsame ▸ List.Sublist.refl _

/-- Only the handles change. -/
theorem deregister_fst (subscriptions : Subscriptions ℓ) (key : Key) (listener : ℓ) :
    (subscriptions.deregister key listener).1 =
      { subscriptions with handles := (subscriptions.deregister key listener).1.handles } := by
  unfold deregister
  cases subscriptions.handles.find? key with
  | none => rfl
  | some handles =>
    by_cases hnobody : (handles.filter fun handle => handle.listener ≠ listener).isEmpty = true
    · simp only [hnobody, if_true]
    · simp only [hnobody, Bool.false_eq_true, if_false]

@[simp]
theorem next_deregister (subscriptions : Subscriptions ℓ) (key : Key) (listener : ℓ) :
    (subscriptions.deregister key listener).1.next = subscriptions.next := by
  rw [deregister_fst]

@[simp]
theorem reached_deregister (subscriptions : Subscriptions ℓ) (key : Key) (listener : ℓ) :
    (subscriptions.deregister key listener).1.reached = subscriptions.reached := by
  rw [deregister_fst]

end Subscriptions

/-! ## What leaves the listeners alone -/

namespace Watchlist

variable {list next : Watchlist ρ ℓ} {now : Nat} {key : Key}

theorem addRefresh?_keeps (h : list.addRefresh? now key = some next) :
    next.records = list.records ∧ next.subscriptions = list.subscriptions := by
  unfold addRefresh? at h
  by_cases hwatched : list.refreshes.contains key = true
  · rw [if_pos hwatched] at h
    obtain rfl := Option.some.inj h
    exact ⟨rfl, rfl⟩
  · rw [if_neg hwatched] at h
    obtain ⟨scheduled, -, hnext⟩ := Option.bind_eq_some_iff.1 h
    obtain rfl := Option.some.inj hnext
    exact ⟨rfl, rfl⟩

theorem removeRefresh_keeps (list : Watchlist ρ ℓ) (key : Key) :
    (list.removeRefresh key).records = list.records ∧
      (list.removeRefresh key).subscriptions = list.subscriptions := by
  unfold removeRefresh
  cases list.refreshes.find? key <;> exact ⟨rfl, rfl⟩

theorem deliverInitial_eq (list : Watchlist ρ ℓ) (handle : Handle ℓ) (record : ρ) :
    list.deliverInitial handle record =
      ({ list with subscriptions := list.subscriptions.markReached handle },
        if list.subscriptions.isReached handle then [] else [⟨handle, record, true⟩]) := by
  unfold deliverInitial Subscriptions.markReached
  cases list.subscriptions.isReached handle <;> rfl

variable [DecidableEq ℓ]

theorem subscribe?_keeps {listener : ℓ} {handle : Handle ℓ}
    (h : list.subscribe? now key listener = some (next, handle)) :
    next.records = list.records ∧
      (next.subscriptions, handle) = list.subscriptions.register key listener := by
  obtain ⟨watched, hwatched, hnext⟩ := Option.bind_eq_some_iff.1 h
  obtain ⟨hrecords, hsubscriptions⟩ := addRefresh?_keeps hwatched
  rw [← hsubscriptions]
  cases hregister : watched.subscriptions.register key listener with
  | mk subscriptions found =>
    rw [hregister] at hnext
    obtain ⟨rfl, rfl⟩ := Prod.mk.inj (Option.some.inj hnext)
    exact ⟨hrecords, rfl⟩

theorem unsubscribe_keeps (list : Watchlist ρ ℓ) (key : Key) (listener : ℓ) :
    (list.unsubscribe key listener).records = list.records ∧
      (list.unsubscribe key listener).subscriptions =
        (list.subscriptions.deregister key listener).1 := by
  unfold unsubscribe
  cases hlast : (list.subscriptions.deregister key listener).2.isLast <;> simp only [hlast]
  · exact ⟨rfl, rfl⟩
  · exact removeRefresh_keeps _ key

end Watchlist

/-! ## What is handed out -/

section Hearing

/-- One record for each of some handles. -/
def announce (record : ρ) (handles : List (Handle ℓ)) : List (Delivery ℓ ρ) :=
  handles.map fun handle => ⟨handle, record, false⟩

theorem announce_append (record : ρ) (first second : List (Handle ℓ)) :
    announce record (first ++ second) = announce record first ++ announce record second :=
  List.map_append

theorem mem_announce {record : ρ} {handles : List (Handle ℓ)} {handle : Handle ℓ} :
    ⟨handle, record, false⟩ ∈ announce record handles ↔ handle ∈ handles := by
  simp [announce]

variable [DecidableEq ℓ]

def heard (deliveries : List (Delivery ℓ ρ)) (handle : Handle ℓ) : List ρ :=
  deliveries.filterMap fun delivery =>
    if delivery.handle = handle then some delivery.record else none

theorem heard_append (later earlier : List (Delivery ℓ ρ)) (handle : Handle ℓ) :
    heard (later ++ earlier) handle = heard later handle ++ heard earlier handle :=
  List.filterMap_append

theorem heard_reverse (deliveries : List (Delivery ℓ ρ)) (handle : Handle ℓ) :
    heard deliveries.reverse handle = (heard deliveries handle).reverse :=
  List.filterMap_reverse

theorem heard_cons (delivery : Delivery ℓ ρ) (deliveries : List (Delivery ℓ ρ))
    (handle : Handle ℓ) :
    heard (delivery :: deliveries) handle =
      (if delivery.handle = handle then [delivery.record] else []) ++ heard deliveries handle := by
  rw [heard, List.filterMap_cons]
  by_cases hhandle : delivery.handle = handle
  · rw [if_pos hhandle, if_pos hhandle]
    rfl
  · rw [if_neg hhandle, if_neg hhandle]
    rfl

theorem heard_eq_nil {deliveries : List (Delivery ℓ ρ)} {handle : Handle ℓ}
    (h : ∀ delivery ∈ deliveries, delivery.handle ≠ handle) : heard deliveries handle = [] := by
  rw [heard, List.filterMap_eq_nil_iff]
  intro delivery hdelivery
  rw [if_neg (h delivery hdelivery)]

/-- Each handle hears of a record once. -/
theorem heard_announce (record : ρ) {handles : List (Handle ℓ)} (hnodup : handles.Nodup)
    (handle : Handle ℓ) :
    heard (announce record handles) handle = if handle ∈ handles then [record] else [] := by
  induction handles with
  | nil => rfl
  | cons first handles ih =>
    obtain ⟨habsent, hnodup⟩ := List.nodup_cons.1 hnodup
    have hsplit : announce record (first :: handles) =
        ⟨first, record, false⟩ :: announce record handles := rfl
    rw [hsplit, heard_cons, ih hnodup]
    by_cases hfirst : first = handle
    · subst hfirst
      simp [habsent]
    · simp [hfirst, Ne.symm hfirst]

end Hearing

end RegistrySession
