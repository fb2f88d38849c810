import RegistrySession.Proofs.Session.Hearing
import RegistrySession.Proofs.Watchlist.Latest

/-!
# What is at hand

The records at hand are those that subscriptions and refreshes fetched, each in the one or two slots
that it fills, and of several for one slot the one that came last.  Nothing else that a session does
makes a difference to them.  A record comes to both of its slots at once, as with a thread that is left
alone; of two threads each may be the last to fill one of the slots.
-/

namespace RegistrySession

/-- A record fills its own slot and, unless it is marked as another than the latest, the latest slot
of its name. -/
def Resource.fills {ρ : Type} [Resource ρ] (record : ρ) (key : Key) : Bool :=
  decide (key = Resource.key record) ||
    (Resource.isLatest record && decide (key = .latest (Resource.name record)))

section Absorb

variable {ρ ℓ : Type} [Resource ρ]

theorem Watchlist.find?_absorb_eq_or (list : Watchlist ρ ℓ) (record : ρ) (key : Key) :
    (list.absorb record).1.find? key =
      ((some record).filter (Resource.fills · key)).or (list.find? key) := by
  have hfills : Resource.fills record key = true ↔ key = Resource.key record ∨
      (Resource.isLatest record = true ∧ key = (Resource.key record).asLatest) := by
    simp only [Resource.fills, Bool.or_eq_true, Bool.and_eq_true, decide_eq_true_eq]
    rfl
  rw [find?_absorb, Option.filter_some]
  by_cases h : Resource.fills record key = true
  · rw [if_pos (hfills.1 h), if_pos h]
    rfl
  · rw [if_neg (mt hfills.2 h), if_neg h]
    rfl

/-- An access puts the record that it fetched over what was at hand. -/
theorem Audience.Effect.find?_eq [DecidableEq ℓ] {audience next : Audience ρ ℓ}
    {fetch? : Option (Key × ρ)} (heffect : audience.Effect next fetch?) (key : Key) :
    next.list.find? key =
      ((fetch?.map Prod.snd).filter (Resource.fills · key)).or (audience.list.find? key) := by
  have hsame : ∀ {earlier : Audience ρ ℓ}, earlier.Covers next →
      next.list.find? key = earlier.list.find? key :=
    fun hcovers => congrArg (Table.find? · key) hcovers.records
  cases heffect with
  | rest hcovers => exact hsame hcovers
  | unsubscribe other listener hcovers => exact congrArg (Table.find? · key) hcovers.records
  | await other listener hcached hcovers => exact congrArg (Table.find? · key) hcovers.records
  | subscribe other listener record hcached hcovers =>
    exact congrArg (Table.find? · key) hcovers.records
  | refresh other record hcovers =>
    exact (hsame hcovers).trans (audience.list.find?_absorb_eq_or record key)
  | complete handle other record hwaits hcovers =>
    exact (hsame hcovers).trans (audience.list.find?_absorb_eq_or record key)

end Absorb

namespace Session

/-- The records that subscriptions and refreshes fetched along a run, in the order in which their
replies came. -/
def fetched (session : Session) (kind : Kind) : List Access → List kind.Record
  | [] => []
  | access :: accesses =>
    ((session.fetch? kind access).map Prod.snd).toList ++ (session.access access).fetched kind accesses

theorem find?_access (session : Session) (access : Access) (kind : Kind) (key : Key) :
    ((session.access access).watchlist kind).find? key =
      (((session.fetch? kind access).map Prod.snd).filter (Resource.fills · key)).or
        ((session.watchlist kind).find? key) :=
  (session.access_effects access kind).find?_eq key

theorem getLast?_filter_toList {α : Type} (keep : α → Bool) (found : Option α) :
    (found.toList.filter keep).getLast? = found.filter keep := by
  cases found with
  | none => rfl
  | some value => cases h : keep value <;> simp [h, Option.filter]

/-- What was fetched last for a slot is at hand there. -/
theorem find?_follow (session : Session) (accesses : List Access) (kind : Kind) (key : Key) :
    ((session.follow accesses).watchlist kind).find? key =
      ((session.fetched kind accesses).filter (Resource.fills · key)).getLast?.or
        ((session.watchlist kind).find? key) := by
  induction accesses generalizing session with
  | nil => rfl
  | cons access accesses ih =>
    calc ((session.follow (access :: accesses)).watchlist kind).find? key
      _ = (((session.access access).fetched kind accesses).filter
            (Resource.fills · key)).getLast?.or
          (((session.access access).watchlist kind).find? key) := ih (session.access access)
      _ = ((((session.access access).fetched kind accesses).filter
              (Resource.fills · key)).getLast?.or
            (((session.fetch? kind access).map Prod.snd).filter (Resource.fills · key))).or
          ((session.watchlist kind).find? key) := by rw [find?_access, Option.or_assoc]
      _ = ((session.fetched kind (access :: accesses)).filter (Resource.fills · key)).getLast?.or
          ((session.watchlist kind).find? key) := by
        rw [fetched, List.filter_append, List.getLast?_append, getLast?_filter_toList]

/-- What is at hand under a key is the record of the last fetch for a subscription or a refresh that
fills the key, in the order in which the replies came, as long as each record that is fetched goes to
its slots in one go.  Only the reply to such a fetch makes a difference to it. -/
theorem find?_eq_last_fetched (config : Config) (link : Link) (feed : Feed)
    (accesses : List Access) (kind : Kind) (key : Key) :
    let start := ofConfig config link feed
    let final := start.follow accesses
    (final.watchlist kind).find? key =
      ((start.fetched kind accesses).filter (Resource.fills · key)).getLast? ∧
    ∀ access, ((final.access access).watchlist kind).find? key ≠
        (final.watchlist kind).find? key →
      ∃ id flight record, access = .move (.reply id (.response (.record kind record))) ∧
        final.flight? id = some flight ∧ flight.errand.keeps kind = true ∧
        Resource.fills record key = true := by
  intro start final
  have hempty : (start.watchlist kind).find? key = none := by
    cases kind <;> rfl
  constructor
  · rw [find?_follow, hempty, Option.or_none]
  · intro access hchanged
    rw [find?_access] at hchanged
    cases hfetch : final.fetch? kind access with
    | none =>
      rw [hfetch] at hchanged
      exact absurd rfl hchanged
    | some fetch =>
      obtain ⟨asked, record⟩ := fetch
      obtain ⟨id, flight, haccess, hflight, hkeeps, -⟩ := exists_reply_of_fetch? hfetch
      refine ⟨id, flight, record, haccess, hflight, hkeeps, ?_⟩
      by_contra hfills
      rw [hfetch, Option.map_some, Option.filter_some, if_neg hfills] at hchanged
      exact hchanged rfl

def versionedServer (version protocol : String) (isLatest : Bool) : Mcp.Record where
  name := "srv"
  version
  protocol
  latestVersion := some isLatest

/-- Three fetches for keys of one name are under way together.  The one sent last is answered first,
and the one for the first version after the listener is gone. -/
def overlappingFetches : List Access :=
  let bringing (flight : Nat) (record : Mcp.Record) : Access :=
    .move (.reply flight (.response (.record .mcp record)))
  [.subscribe 0 .mcp ⟨"srv", some "1"⟩ { label := "listener" },
    .refresh 1 .mcp (.latest "srv"), .refresh 2 .mcp (.latest "srv"),
    bringing 2 (versionedServer "3" "sse" true),
    .unsubscribe .mcp ⟨"srv", some "1"⟩ { label := "listener" },
    bringing 1 (versionedServer "2" "http" true)]

theorem find?_eq_last_fetched_overlapping :
    let start := ofConfig {} {} (.ofCapacity 16)
    let final := start.follow overlappingFetches
    let late := versionedServer "1" "stdio" false
    ((final.watchlist .mcp).find? (.latest "srv")).map Mcp.Record.protocol = some "http" ∧
      (final.watchlist .mcp).find? (.latest "srv") =
        ((start.fetched .mcp overlappingFetches).filter
          (Resource.fills · (.latest "srv"))).getLast? ∧
      ∃ flight, final.flight? 0 = some flight ∧ flight.errand.keeps .mcp = true ∧
        Resource.fills late (.versioned "srv" "1") = true := by
  intro start final late
  obtain ⟨hlast, -⟩ :=
    find?_eq_last_fetched {} {} (.ofCapacity 16) overlappingFetches .mcp (.latest "srv")
  obtain ⟨-, honly⟩ :=
    find?_eq_last_fetched {} {} (.ofCapacity 16) overlappingFetches .mcp (.versioned "srv" "1")
  have hstored : ((final.access (.move (.reply 0 (.response (.record .mcp late))))).watchlist
      .mcp).find? (.versioned "srv" "1") ≠ (final.watchlist .mcp).find? (.versioned "srv" "1") := by
    intro hsame
    have hprotocols := congrArg (Option.map Mcp.Record.protocol) hsame
    exact absurd hprotocols (by decide +kernel)
  obtain ⟨id, flight, record, haccess, hflight, hkeeps, -⟩ := honly _ hstored
  obtain rfl : 0 = id := (Move.reply.inj (Access.move.inj haccess)).1
  exact ⟨by decide +kernel, hlast, flight, hflight, hkeeps, by decide +kernel⟩

end Session

namespace Shared

/-- Two refreshes end at the same time. One is the last to fill the records' own slot, and the other
one the latest slot. -/
def crossing : List (Act Mcp.Record Listener) :=
  [.refresh (Session.sampleServer "http"), .refresh (Session.sampleServer "sse"),
    .step 0, .step 1, .step 1, .step 0] ++
  List.replicate 5 (.step 0) ++ List.replicate 5 (.step 1)

/-- Among threads the records at hand need not be those of any order of the fetches. -/
theorem not_forall_find?_eq_last_fetched :
    ¬ ∀ acts : List (Act Mcp.Record Listener), (fresh.run acts).isIdle = true →
      ∃ order : List Mcp.Record, order.Perm (acts.filterMap Act.fetched?) ∧
        ∀ key, (fresh.run acts).list.find? key =
          (order.filter (Resource.fills · key)).getLast? := by
  intro h
  obtain ⟨order, hperm, hfold⟩ := h crossing (by decide +kernel)
  have hall : ∀ key, (∀ record ∈ crossing.filterMap Act.fetched?,
      Resource.fills record key = true) → (fresh.run crossing).list.find? key = order.getLast? := by
    intro key hfills
    rw [hfold key, List.filter_eq_self.2 fun record hrecord => hfills record (hperm.mem_iff.1 hrecord)]
  have hown := hall ⟨"srv", "1"⟩ (by decide +kernel)
  have hlatest := hall (.latest "srv") (by decide +kernel)
  have hprotocols := congrArg (Option.map Mcp.Record.protocol) (hown.trans hlatest.symm)
  exact absurd hprotocols (by decide +kernel)

end Shared

end RegistrySession
