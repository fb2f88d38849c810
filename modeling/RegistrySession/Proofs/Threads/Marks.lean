import Mathlib.Data.List.Basic
import RegistrySession.Proofs.Watchlist.Handles
import RegistrySession.Threads

/-!
# Marks and calls

A thread marks a handle and calls its listener afterwards, so that a mark stands for a call that was
made or is about to be made.  An initial delivery is made only by the thread that marked its handle
first, however the steps of threads interleave.
-/

namespace RegistrySession

variable {ρ ℓ : Type}

namespace Thread

def Point.callee? : Point ρ ℓ → Option (Handle ℓ)
  | .call _ handle _ _ => some handle
  | .hand handle _ => some handle
  | _ => none

def Point.recipient? : Point ρ ℓ → Option (Handle ℓ)
  | .offer handle _ => some handle
  | .hand handle _ => some handle
  | _ => none

def Point.isHandingOver : Point ρ ℓ → Bool
  | .hand _ _ => true
  | _ => false

def Point.found? : Point ρ ℓ → Option ρ
  | .done found => found
  | _ => none

/-- What a step does to marks and listeners, if anything. -/
inductive Deed (subscriber : Option (Handle ℓ)) (list : Watchlist ρ ℓ) :
    Point ρ ℓ → Stride ρ ℓ → Prop
  | rest {point after : Point ρ ℓ} {next : Watchlist ρ ℓ}
      (hsubscriptions : next.subscriptions = list.subscriptions)
      (hbefore : point.callee? = none) (hafter : after.callee? = none)
      (hrecipient : ∀ handle, after.recipient? = some handle → subscriber = some handle)
      (hfound : after.found? = point.found?) :
      Deed subscriber list point { list := next, point := after }
  | mark (record : ρ) (handle : Handle ℓ) (handles : List (Handle ℓ)) (keys : List Key) :
      Deed subscriber list (.mark record (handle :: handles) keys)
        { list := { list with subscriptions := list.subscriptions.markReached handle }
          point := .call record handle handles keys }
  | call (record : ρ) (handle : Handle ℓ) (handles : List (Handle ℓ)) (keys : List Key) :
      Deed subscriber list (.call record handle handles keys)
        { list, call := some ⟨handle, record, false⟩, point := .mark record handles keys }
  | pass (handle : Handle ℓ) (record : ρ)
      (hreached : list.subscriptions.isReached handle = true) :
      Deed subscriber list (.offer handle record) { list, point := .done (some record) }
  | greet (handle : Handle ℓ) (record : ρ)
      (hfirst : list.subscriptions.isReached handle = false) :
      Deed subscriber list (.offer handle record)
        { list := { list with subscriptions := list.subscriptions.markReached handle }
          point := .hand handle record }
  | hand (handle : Handle ℓ) (record : ρ) :
      Deed subscriber list (.hand handle record)
        { list, call := some ⟨handle, record, true⟩, point := .done (some record) }

theorem Deed.plain {subscriber : Option (Handle ℓ)} {list next : Watchlist ρ ℓ}
    {point after : Point ρ ℓ} (hsubscriptions : next.subscriptions = list.subscriptions)
    (hbefore : point.callee? = none) (hafter : after.callee? = none)
    (hrecipient : after.recipient? = none) (hfound : after.found? = point.found?) :
    Deed subscriber list point { list := next, point := after } :=
  .rest hsubscriptions hbefore hafter
    (fun handle h => absurd (h.symm.trans hrecipient) (Option.some_ne_none handle)) hfound

theorem Deed.last {list : Watchlist ρ ℓ} {point : Point ρ ℓ} (subscriber : Option (Handle ℓ))
    (record : ρ) (hpoint : point.callee? = none) (hfound : point.found? = none) :
    Deed subscriber list point { list, point := Thread.last subscriber record } := by
  cases subscriber with
  | none => exact .plain rfl hpoint rfl rfl hfound.symm
  | some handle => exact .rest rfl hpoint rfl (fun _ h => h) hfound.symm

theorem deed_step [Resource ρ] (thread : Thread ρ ℓ) (list : Watchlist ρ ℓ) :
    Deed thread.subscriber list thread.point (thread.step list) := by
  obtain ⟨subscriber, point⟩ := thread
  cases point with
  | look key =>
    cases hcached : list.find? key with
    | some record =>
      simp only [step, hcached]
      exact .last subscriber record rfl rfl
    | none =>
      simp only [step, hcached]
      exact .plain rfl rfl rfl rfl rfl
  | storeLatest record previous =>
    cases hlatest : Resource.isLatest record <;> simp only [step, hlatest] <;>
      exact .plain rfl rfl rfl rfl rfl
  | tell record keys =>
    cases keys with
    | nil => exact .last subscriber record rfl rfl
    | cons key keys => exact .plain rfl rfl rfl rfl rfl
  | mark record handles keys =>
    cases handles with
    | nil => exact .plain rfl rfl rfl rfl rfl
    | cons handle handles => exact .mark record handle handles keys
  | call record handle handles keys => exact .call record handle handles keys
  | offer handle record =>
    cases hreached : list.subscriptions.isReached handle with
    | true =>
      simp only [step, hreached, if_true]
      exact .pass handle record hreached
    | false =>
      simp only [step, hreached, Bool.false_eq_true, if_false]
      exact .greet handle record hreached
  | hand handle record => exact .hand handle record
  | wait key => exact .plain rfl rfl rfl rfl rfl
  | store record => exact .plain rfl rfl rfl rfl rfl
  | done found => exact .plain rfl rfl rfl rfl rfl

section Deed

variable {subscriber : Option (Handle ℓ)} {list : Watchlist ρ ℓ} {point : Point ρ ℓ}
  {stride : Stride ρ ℓ}

/-- A step calls the listener whose turn it was. -/
theorem Deed.callee?_eq (hdeed : Deed subscriber list point stride) :
    point.callee? = stride.call.map Delivery.handle := by
  cases hdeed with
  | rest hsubscriptions hbefore hafter => exact hbefore
  | mark | call | pass | greet | hand => rfl

theorem Deed.isInitial_eq (hdeed : Deed subscriber list point stride) {delivery : Delivery ℓ ρ}
    (hcall : stride.call = some delivery) : delivery.isInitial = point.isHandingOver := by
  cases hdeed with
  | call | hand =>
    obtain rfl := Option.some.inj hcall
    rfl
  | rest | mark | pass | greet => exact absurd hcall.symm (Option.some_ne_none delivery)

/-- Only a subscription that is the first to mark its handle is about to hand a record over. -/
theorem Deed.not_reached (hdeed : Deed subscriber list point stride)
    (hhands : stride.point.isHandingOver = true) {callee : Handle ℓ}
    (hcallee : stride.point.callee? = some callee) : list.subscriptions.isReached callee = false := by
  cases hdeed with
  | greet handle record hfirst =>
    obtain rfl := Option.some.inj hcallee
    exact hfirst
  | rest hsubscriptions hbefore hafter =>
    exact absurd (hcallee.symm.trans hafter) (Option.some_ne_none callee)
  | mark | call | pass | hand => exact absurd hhands Bool.false_ne_true

/-- What is marked after a step was so before, or is about to be called. -/
theorem Deed.isReached_iff (hdeed : Deed subscriber list point stride) (handle : Handle ℓ) :
    stride.list.subscriptions.isReached handle = true ↔
      list.subscriptions.isReached handle = true ∨
        ∃ callee, stride.point.callee? = some callee ∧ callee.id = handle.id := by
  have hcallee : ∀ marked : Handle ℓ,
      marked.id = handle.id ↔ ∃ callee, some marked = some callee ∧ callee.id = handle.id := by
    simp
  cases hdeed with
  | rest hsubscriptions hbefore hafter => simp [hsubscriptions, hafter]
  | mark record marked handles keys =>
    exact (Subscriptions.isReached_markReached _ _ _).trans (or_congr_right (hcallee marked))
  | greet marked record hfirst =>
    exact (Subscriptions.isReached_markReached _ _ _).trans (or_congr_right (hcallee marked))
  | call | pass | hand => simp [Point.callee?]

/-- A subscription hands its record to nobody but its own listener. -/
theorem Deed.steady (hdeed : Deed subscriber list point stride)
    (hsteady : ∀ handle, point.recipient? = some handle → subscriber = some handle)
    (handle : Handle ℓ) (hrecipient : stride.point.recipient? = some handle) :
    subscriber = some handle := by
  cases hdeed with
  | rest hsubscriptions hbefore hafter hrest => exact hrest handle hrecipient
  | greet => exact hsteady handle hrecipient
  | mark | call | pass | hand => exact absurd hrecipient.symm (Option.some_ne_none handle)

/-- A subscription that returns a record has its handle marked, or is about to call its listener. -/
theorem Deed.found?_cases (hdeed : Deed subscriber list point stride) {record : ρ}
    (hfound : stride.point.found? = some record) :
    point.found? = some record ∨ ∃ handle, point.recipient? = some handle ∧
      (list.subscriptions.isReached handle = true ∨ point.callee? = some handle) := by
  cases hdeed with
  | rest hsubscriptions hbefore hafter hrecipient hkept => exact .inl (hkept.symm.trans hfound)
  | pass handle offered hreached => exact .inr ⟨handle, rfl, .inl hreached⟩
  | hand handle handed => exact .inr ⟨handle, rfl, .inr rfl⟩
  | mark | call | greet => exact absurd hfound.symm (Option.some_ne_none record)

end Deed

end Thread

namespace Shared

/-- The thread is about to hand a record over through a handle. -/
def introduces (handle : Handle ℓ) (point : Thread.Point ρ ℓ) : Bool :=
  point.isHandingOver && point.callee?.any fun callee => callee.id == handle.id

/-- The initial deliveries through a handle, with those that are about to be made. -/
def introductions (shared : Shared ρ ℓ) (handle : Handle ℓ) : Nat :=
  shared.deliveries.countP (fun delivery => delivery.isInitial && delivery.handle.id == handle.id) +
    shared.threads.countP fun thread => introduces handle thread.point

/-- A listener was called through a handle, or is about to be. -/
def Calls (shared : Shared ρ ℓ) (handle : Handle ℓ) : Prop :=
  (∃ delivery ∈ shared.deliveries, delivery.handle.id = handle.id) ∨
    ∃ thread ∈ shared.threads, ∃ callee,
      thread.point.callee? = some callee ∧ callee.id = handle.id

/-- The marks of handles stand for calls, and only the first mark may be for an initial delivery. -/
structure Marked (shared : Shared ρ ℓ) : Prop where
  reached : ∀ handle, shared.list.subscriptions.isReached handle = true ↔ shared.Calls handle
  introduced : ∀ handle,
    shared.introductions handle ≤ if shared.list.subscriptions.isReached handle then 1 else 0
  steady : ∀ thread ∈ shared.threads, ∀ handle, thread.point.recipient? = some handle →
    thread.subscriber = some handle
  returned : ∀ thread ∈ shared.threads, ∀ handle record, thread.subscriber = some handle →
    thread.point.found? = some record → shared.list.subscriptions.isReached handle = true

section Advance

variable {shared : Shared ρ ℓ} {index : Nat} {thread : Thread ρ ℓ}
  {stride : Thread.Stride ρ ℓ}

theorem mem_set_of_ne {α : Type} {values : List α} {value found fresh : α}
    (hvalue : values[index]? = some value) (hfound : found ∈ values) (hne : found ≠ value) :
    found ∈ values.set index fresh := by
  obtain ⟨other, hother⟩ := List.mem_iff_getElem?.1 hfound
  refine List.mem_iff_getElem?.2 ⟨other, ?_⟩
  rw [List.getElem?_set_ne, hother]
  rintro rfl
  exact hne (Option.some.inj (hother.symm.trans hvalue))

theorem countP_set_add {α : Type} (p : α → Bool) {values : List α} {value : α}
    (hvalue : values[index]? = some value) (fresh : α) :
    (values.set index fresh).countP p + (if p value then 1 else 0) =
      values.countP p + if p fresh then 1 else 0 := by
  obtain ⟨hindex, rfl⟩ := List.getElem?_eq_some_iff.1 hvalue
  rw [List.countP_set hindex]
  by_cases hp : p values[index] = true
  · have hpos : 0 < values.countP p := List.countP_pos_iff.2 ⟨_, List.getElem_mem hindex, hp⟩
    simp only [hp, if_true]
    omega
  · rw [Bool.not_eq_true] at hp
    simp only [hp, Bool.false_eq_true, if_false]
    omega

/-- A thread that was about to call a listener has called it after its step. -/
theorem calls_advance (hthread : shared.threads[index]? = some thread)
    (hdeed : Thread.Deed thread.subscriber shared.list thread.point stride) (handle : Handle ℓ) :
    (shared.advance index thread.subscriber stride).Calls handle ↔
      shared.Calls handle ∨ ∃ callee, stride.point.callee? = some callee ∧ callee.id = handle.id := by
  have hindex : index < shared.threads.length := (List.getElem?_eq_some_iff.1 hthread).1
  have hcallee := hdeed.callee?_eq
  constructor
  · rintro (⟨delivery, hdelivery, hid⟩ | ⟨other, hother, callee, hcalls, hid⟩)
    · rcases List.mem_append.1 hdelivery with hnew | hold
      · rw [Option.mem_toList.1 hnew, Option.map_some] at hcallee
        exact .inl (.inr ⟨thread, List.mem_of_getElem? hthread, delivery.handle, hcallee, hid⟩)
      · exact .inl (.inl ⟨delivery, hold, hid⟩)
    · rcases List.mem_or_eq_of_mem_set hother with hold | rfl
      · exact .inl (.inr ⟨other, hold, callee, hcalls, hid⟩)
      · exact .inr ⟨callee, hcalls, hid⟩
  · rintro ((⟨delivery, hdelivery, hid⟩ | ⟨other, hother, callee, hcalls, hid⟩) |
      ⟨callee, hcalls, hid⟩)
    · exact .inl ⟨delivery, List.mem_append_right _ hdelivery, hid⟩
    · by_cases hsame : other = thread
      · rw [hsame, hcallee] at hcalls
        obtain ⟨delivery, hdelivery, rfl⟩ := Option.map_eq_some_iff.1 hcalls
        exact .inl ⟨delivery, List.mem_append_left _ (Option.mem_toList.2 hdelivery), hid⟩
      · exact .inr ⟨other, mem_set_of_ne hthread hother hsame, callee, hcalls, hid⟩
    · exact .inr ⟨_, List.mem_set hindex _, callee, hcalls, hid⟩

theorem introductions_advance (hthread : shared.threads[index]? = some thread)
    (hdeed : Thread.Deed thread.subscriber shared.list thread.point stride) (handle : Handle ℓ) :
    (shared.advance index thread.subscriber stride).introductions handle =
      shared.introductions handle + if introduces handle stride.point then 1 else 0 := by
  have hcall : stride.call.toList.countP
      (fun delivery => delivery.isInitial && delivery.handle.id == handle.id) =
        if introduces handle thread.point then 1 else 0 := by
    rw [introduces, hdeed.callee?_eq]
    cases hcalls : stride.call with
    | none => simp
    | some delivery => simp [← hdeed.isInitial_eq hcalls, List.countP_cons]
  have hthreads := countP_set_add (fun thread : Thread ρ ℓ => introduces handle thread.point) hthread
    { subscriber := thread.subscriber, point := stride.point }
  simp only [introductions, advance, List.countP_append, hcall]
  simp only at hthreads
  omega

theorem Marked.advance (hmarked : shared.Marked) (hthread : shared.threads[index]? = some thread)
    (hdeed : Thread.Deed thread.subscriber shared.list thread.point stride) :
    (shared.advance index thread.subscriber stride).Marked := by
  have hmem : thread ∈ shared.threads := List.mem_of_getElem? hthread
  have hkept : ∀ handle, shared.list.subscriptions.isReached handle = true →
      stride.list.subscriptions.isReached handle = true :=
    fun handle h => (hdeed.isReached_iff handle).2 (.inl h)
  constructor
  case reached =>
    intro handle
    refine (hdeed.isReached_iff handle).trans ?_
    rw [calls_advance hthread hdeed handle, hmarked.reached handle]
  case introduced =>
    intro handle
    rw [introductions_advance hthread hdeed handle]
    have hbefore := hmarked.introduced handle
    by_cases hintroduces : introduces handle stride.point = true
    · -- Whoever is about to hand a record over is the first to come to the handle.
      obtain ⟨hhands, hany⟩ := (Bool.and_eq_true _ _).mp hintroduces
      obtain ⟨callee, hcallee, hid⟩ := (Option.any_eq_true _ _).1 hany
      have hfirst : shared.list.subscriptions.isReached handle = false := by
        have hcalls := hdeed.not_reached hhands hcallee
        rwa [Subscriptions.isReached, beq_iff_eq.1 hid] at hcalls
      have hreached : stride.list.subscriptions.isReached handle = true :=
        (hdeed.isReached_iff handle).2 (.inr ⟨callee, hcallee, beq_iff_eq.1 hid⟩)
      rw [hfirst] at hbefore
      rw [if_pos hintroduces, Nat.le_zero.1 hbefore]
      exact Nat.le_of_eq (if_pos hreached).symm
    · rw [if_neg hintroduces, Nat.add_zero]
      by_cases hreached : shared.list.subscriptions.isReached handle = true
      · rw [if_pos hreached] at hbefore
        exact Nat.le_trans hbefore (Nat.le_of_eq (if_pos (hkept handle hreached)).symm)
      · rw [if_neg hreached] at hbefore
        exact Nat.le_trans hbefore (Nat.zero_le _)
  case steady =>
    intro other hother handle hrecipient
    rcases List.mem_or_eq_of_mem_set hother with hold | rfl
    · exact hmarked.steady other hold handle hrecipient
    · exact hdeed.steady (hmarked.steady thread hmem) handle hrecipient
  case returned =>
    intro other hother handle record hsubscriber hfound
    rcases List.mem_or_eq_of_mem_set hother with hold | rfl
    · exact hkept handle (hmarked.returned other hold handle record hsubscriber hfound)
    · refine hkept handle ?_
      rcases hdeed.found?_cases hfound with hbefore | ⟨recipient, hrecipient, hreached⟩
      · exact hmarked.returned thread hmem handle record hsubscriber hbefore
      · obtain rfl : recipient = handle :=
          Option.some.inj ((hmarked.steady thread hmem recipient hrecipient).symm.trans hsubscriber)
        refine hreached.elim id fun hcallee => ?_
        exact (hmarked.reached recipient).2 (.inr ⟨thread, hmem, recipient, hcallee, rfl⟩)

end Advance

/-! ## Runs -/

/-- Listeners may come and go. -/
theorem Marked.of_reached {shared : Shared ρ ℓ} (hmarked : shared.Marked) {list : Watchlist ρ ℓ}
    (hreached : list.subscriptions.reached = shared.list.subscriptions.reached) :
    Marked { shared with list } := by
  have hsame : ∀ handle, list.subscriptions.isReached handle =
      shared.list.subscriptions.isReached handle := by
    intro handle
    rw [Subscriptions.isReached, hreached]
    rfl
  constructor
  case reached => exact fun handle => (Bool.eq_iff_iff.1 (hsame handle)).trans (hmarked.reached handle)
  case introduced =>
    intro handle
    rw [hsame]
    exact hmarked.introduced handle
  case steady => exact hmarked.steady
  case returned =>
    intro thread hthread handle record hsubscriber hfound
    rw [hsame]
    exact hmarked.returned thread hthread handle record hsubscriber hfound

/-- A thread that begins calls nobody and has found nothing. -/
theorem Marked.begin {shared : Shared ρ ℓ} (hmarked : shared.Marked) {thread : Thread ρ ℓ}
    (hcallee : thread.point.callee? = none) (hrecipient : thread.point.recipient? = none)
    (hfound : thread.point.found? = none) :
    Marked { shared with threads := shared.threads ++ [thread] } := by
  constructor
  case reached =>
    intro handle
    refine (hmarked.reached handle).trans (or_congr_right ⟨?_, ?_⟩)
    · rintro ⟨other, hother, hcalls⟩
      exact ⟨other, List.mem_append_left _ hother, hcalls⟩
    · rintro ⟨other, hother, callee, hcalls, hid⟩
      rcases List.mem_append.1 hother with hold | hnew
      · exact ⟨other, hold, callee, hcalls, hid⟩
      · obtain rfl := List.mem_singleton.1 hnew
        exact absurd (hcalls.symm.trans hcallee) (Option.some_ne_none callee)
  case introduced =>
    intro handle
    have hnobody : introduces handle thread.point = false := by
      rw [introduces, hcallee, Option.any_none, Bool.and_false]
    have hsame : introductions { shared with threads := shared.threads ++ [thread] } handle =
        shared.introductions handle := by
      simp [introductions, List.countP_append, hnobody]
    rw [hsame]
    exact hmarked.introduced handle
  case steady =>
    intro other hother handle hgets
    rcases List.mem_append.1 hother with hold | hnew
    · exact hmarked.steady other hold handle hgets
    · obtain rfl := List.mem_singleton.1 hnew
      exact absurd (hgets.symm.trans hrecipient) (Option.some_ne_none handle)
  case returned =>
    intro other hother handle record hsubscriber hfinds
    rcases List.mem_append.1 hother with hold | hnew
    · exact hmarked.returned other hold handle record hsubscriber hfinds
    · obtain rfl := List.mem_singleton.1 hnew
      exact absurd (hfinds.symm.trans hfound) (Option.some_ne_none record)

theorem Marked.fetch {shared : Shared ρ ℓ} (hmarked : shared.Marked) (index : Nat)
    (found : Option ρ) : (shared.fetch index found).Marked := by
  cases hthread : shared.threads[index]? with
  | none => simpa only [Shared.fetch, hthread] using hmarked
  | some thread =>
    obtain ⟨subscriber, point⟩ := thread
    cases point with
    | wait key =>
      simp only [Shared.fetch, hthread]
      cases found with
      | some record => exact hmarked.advance hthread (.plain rfl rfl rfl rfl rfl)
      | none => exact hmarked.advance hthread (.plain rfl rfl rfl rfl rfl)
    | _ => simpa only [Shared.fetch, hthread] using hmarked

theorem Marked.step [Resource ρ] {shared : Shared ρ ℓ} (hmarked : shared.Marked) (index : Nat) :
    (shared.step index).Marked := by
  cases hthread : shared.threads[index]? with
  | none => simpa only [Shared.step, hthread] using hmarked
  | some thread =>
    simp only [Shared.step, hthread]
    exact hmarked.advance hthread (thread.deed_step shared.list)

variable [Resource ρ] [DecidableEq ℓ]

theorem Marked.act {shared : Shared ρ ℓ} (hmarked : shared.Marked) (act : Act ρ ℓ) :
    (shared.act act).Marked := by
  cases act with
  | subscribe now key listener =>
    cases hsubscribed : shared.list.subscribe? now key listener with
    | none => simpa only [Shared.act, hsubscribed] using hmarked
    | some result =>
      obtain ⟨list, handle⟩ := result
      have hreached : list.subscriptions.reached = shared.list.subscriptions.reached := by
        have hregistered := congrArg Prod.fst (Watchlist.subscribe?_keeps hsubscribed).2
        rw [show list.subscriptions = _ from hregistered, Subscriptions.reached_register]
      simp only [Shared.act, hsubscribed]
      exact (hmarked.of_reached hreached).begin rfl rfl rfl
  | unsubscribe key listener =>
    refine hmarked.of_reached ?_
    rw [(shared.list.unsubscribe_keeps key listener).2, Subscriptions.reached_deregister]
  | refresh record => exact hmarked.begin rfl rfl rfl
  | fetch index found => exact hmarked.fetch index found
  | step index => exact hmarked.step index

theorem Marked.run {shared : Shared ρ ℓ} (hmarked : shared.Marked) (acts : List (Act ρ ℓ)) :
    (shared.run acts).Marked := by
  induction acts generalizing shared with
  | nil => exact hmarked
  | cons act acts ih => exact ih (hmarked.act act)

omit [Resource ρ] [DecidableEq ℓ] in
/-- Nobody was called on a watchlist that is new. -/
theorem marked_ofPool (pool : Pool Key) (interval : Millis) :
    Marked ({ list := .ofPool pool interval } : Shared ρ ℓ) := by
  have hnobody : ∀ handle : Handle ℓ,
      ¬ Calls ({ list := .ofPool pool interval } : Shared ρ ℓ) handle := by
    rintro handle (⟨delivery, hdelivery, -⟩ | ⟨thread, hthread, -⟩)
    · exact List.not_mem_nil hdelivery
    · exact List.not_mem_nil hthread
  constructor
  case reached => exact fun handle => iff_of_false Bool.false_ne_true (hnobody handle)
  case introduced => exact fun handle => Nat.zero_le _
  case steady => exact fun thread hthread => absurd hthread List.not_mem_nil
  case returned => exact fun thread hthread => absurd hthread List.not_mem_nil

end Shared

end RegistrySession
