import Mathlib.Logic.Relation
import RegistrySession.Proofs.Watchlist.Audience
import RegistrySession.Threads

/-!
# Threads that are left alone

A thread whose steps follow one another, none of another thread between them, does to a watchlist
and its listeners what the watchlist does in one go: it absorbs the record that was fetched, and
hands a subscription the record at hand.
-/

namespace RegistrySession

variable {ρ ℓ : Type} [Resource ρ]

/-- The listeners of the keys that a record goes out to are those that hear of it. -/
theorem Thread.flatMap_audience (list : Watchlist ρ ℓ) (record : ρ) :
    let key := Resource.key record
    let latest :=
      if Resource.isLatest record then (list.records.insert key record).find? key.asLatest else none
    (audience record (list.find? key) latest).flatMap list.subscriptions.handlesOf =
      list.hearers (Resource.changed record (list.find? key)) key ++
        list.hearers (list.reachesLatest record) key.asLatest := by
  intro key latest
  have hreaches : (Resource.isLatest record && (Resource.changed record (list.find? key) ||
      latest.any fun held => Resource.key held ≠ key)) = list.reachesLatest record := by
    cases hlatest : Resource.isLatest record <;> simp [Watchlist.reachesLatest, latest, hlatest, key]
  rw [audience, List.flatMap_append, hreaches]
  congr 1
  · cases Resource.changed record (list.find? key) <;> simp [Watchlist.hearers, key]
  · cases list.reachesLatest record <;> simp [Watchlist.hearers, key]

namespace Shared

/-- Nothing happens but that one thread makes step after step. -/
def Proceeds (index : Nat) : Shared ρ ℓ → Shared ρ ℓ → Prop :=
  Relation.ReflTransGen fun shared next => next = shared.step index

variable {index : Nat} {threads : List (Thread ρ ℓ)} {subscriber : Option (Handle ℓ)}

/-- Some threads, of which one has come to a point. -/
def standing (list : Watchlist ρ ℓ) (deliveries : List (Delivery ℓ ρ)) (threads : List (Thread ρ ℓ))
    (index : Nat) (subscriber : Option (Handle ℓ)) (point : Thread.Point ρ ℓ) : Shared ρ ℓ where
  list := list
  deliveries := deliveries
  threads := threads.set index { subscriber, point }

theorem step_standing (hindex : index < threads.length) (list : Watchlist ρ ℓ)
    (deliveries : List (Delivery ℓ ρ)) (point : Thread.Point ρ ℓ) :
    (standing list deliveries threads index subscriber point).step index =
      let after := Thread.step { subscriber, point } list
      standing after.list (after.call.toList ++ deliveries) threads index subscriber after.point := by
  simp only [Shared.step, advance, standing, List.getElem?_set_self hindex, List.set_set]

theorem proceeds_head (hindex : index < threads.length) {list : Watchlist ρ ℓ}
    {deliveries : List (Delivery ℓ ρ)} {point : Thread.Point ρ ℓ} {next : Shared ρ ℓ}
    (hrest :
      let after := Thread.step { subscriber, point } list
      Proceeds index
        (standing after.list (after.call.toList ++ deliveries) threads index subscriber after.point) next) :
    Proceeds index (standing list deliveries threads index subscriber point) next :=
  .head (step_standing hindex list deliveries point).symm hrest

/-- The listeners that are left of a key are marked and called, one after the other. -/
theorem proceeds_mark (hindex : index < threads.length) (list : Watchlist ρ ℓ)
    (deliveries : List (Delivery ℓ ρ)) (record : ρ) (handles : List (Handle ℓ)) (keys : List Key) :
    Proceeds index
      (standing list deliveries threads index subscriber (.mark record handles keys))
      (standing { list with subscriptions := list.subscriptions.markAll handles }
        ((announce record handles).reverse ++ deliveries) threads index subscriber
        (.tell record keys)) := by
  induction handles generalizing list deliveries with
  | nil => exact proceeds_head hindex .refl
  | cons handle handles ih =>
    refine proceeds_head hindex (proceeds_head hindex ?_)
    have htold : (announce record (handle :: handles)).reverse ++ deliveries =
        (announce record handles).reverse ++ ⟨handle, record, false⟩ :: deliveries := by
      rw [announce, List.map_cons, List.reverse_cons, List.append_assoc]
      rfl
    rw [htold]
    exact ih _ _

theorem proceeds_tell (subscriber : Option (Handle ℓ)) (hindex : index < threads.length)
    (list : Watchlist ρ ℓ) (deliveries : List (Delivery ℓ ρ)) (record : ρ) (keys : List Key) :
    let handles := keys.flatMap list.subscriptions.handlesOf
    Proceeds index (standing list deliveries threads index subscriber (.tell record keys))
      (standing { list with subscriptions := list.subscriptions.markAll handles }
        ((announce record handles).reverse ++ deliveries) threads index subscriber
        (Thread.last subscriber record)) := by
  induction keys generalizing list deliveries with
  | nil => exact proceeds_head hindex .refl
  | cons key keys ih =>
    intro handles
    let own := list.subscriptions.handlesOf key
    let others := keys.flatMap list.subscriptions.handlesOf
    let marked : Watchlist ρ ℓ := { list with subscriptions := list.subscriptions.markAll own }
    -- Marking handles registers nobody, so that the other keys have the same listeners afterwards.
    have hothers : keys.flatMap marked.subscriptions.handlesOf = others :=
      List.flatMap_congr fun other _ => Subscriptions.handlesOf_markAll _ _ _
    have hmarked : marked.subscriptions.markAll others = list.subscriptions.markAll handles :=
      (Subscriptions.markAll_append _ own others).symm
    have htold : (announce record others).reverse ++ ((announce record own).reverse ++ deliveries) =
        (announce record handles).reverse ++ deliveries := by
      rw [← List.append_assoc, ← List.reverse_append, ← announce_append]
      rfl
    have hrest := ih marked ((announce record own).reverse ++ deliveries)
    simp only [hothers, hmarked, htold] at hrest
    exact proceeds_head hindex ((proceeds_mark hindex list deliveries record own keys).trans hrest)

/-- A thread that is left alone absorbs the record that it fetched. -/
theorem proceeds_absorb (hindex : index < threads.length) (list : Watchlist ρ ℓ)
    (deliveries : List (Delivery ℓ ρ)) (record : ρ) :
    Proceeds index (standing list deliveries threads index subscriber (.store record))
      (standing (list.absorb record).1 ((list.absorb record).2.reverse ++ deliveries) threads index
        subscriber (Thread.last subscriber record)) := by
  let key := Resource.key record
  let stored : Watchlist ρ ℓ := { list with records := list.recordsWith record }
  have hstored : Proceeds index
      (standing list deliveries threads index subscriber (.store record))
      (standing stored deliveries threads index subscriber
        (.tell record (Thread.audience record (list.find? key)
          (if Resource.isLatest record then
            (list.records.insert key record).find? key.asLatest else none)))) := by
    refine proceeds_head hindex (proceeds_head hindex ?_)
    cases hlatest : Resource.isLatest record <;>
      simp only [Thread.step, hlatest, stored, Watchlist.recordsWith, Watchlist.find?, key] <;>
      exact .refl
  refine hstored.trans ?_
  have htold := proceeds_tell subscriber hindex stored deliveries record
    (Thread.audience record (list.find? key)
      (if Resource.isLatest record then
        (list.records.insert key record).find? key.asLatest else none))
  rw [show stored.subscriptions = list.subscriptions from rfl,
    Thread.flatMap_audience list record] at htold
  rw [list.absorb_eq_reachesLatest record]
  exact htold

/-- A subscription that is left alone hands its record over, unless its listener heard of one
before. -/
theorem proceeds_deliverInitial (hindex : index < threads.length) (list : Watchlist ρ ℓ)
    (deliveries : List (Delivery ℓ ρ)) (handle : Handle ℓ) (record : ρ) :
    Proceeds index (standing list deliveries threads index subscriber (.offer handle record))
      (standing (list.deliverInitial handle record).1
        ((list.deliverInitial handle record).2.reverse ++ deliveries) threads index subscriber
        (.done (some record))) := by
  refine proceeds_head hindex ?_
  cases hreached : list.subscriptions.isReached handle with
  | true =>
    simp only [Thread.step, Watchlist.deliverInitial, hreached, if_true]
    exact .refl
  | false =>
    simp only [Thread.step, Watchlist.deliverInitial, hreached, Bool.false_eq_true, if_false]
    exact proceeds_head hindex .refl

end Shared

end RegistrySession
