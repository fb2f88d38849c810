import RegistrySession.Proofs.Session.Fetching
import RegistrySession.Proofs.Threads.Alone

/-!
# What listeners hear along a run

Under a server that answers faithfully, listeners on keys of one version neither miss a change nor
hear of one twice, however subscriptions, refreshes and replies interleave.  One step is what goes
on between two waits for a reply: a record that was fetched is stored and told to its listeners
without another in between, as a thread does that is left alone (`Shared.proceeds_absorb`).  Among
several threads a listener may hear of two records in another order than they were stored in.
-/

namespace RegistrySession

/-! ## Faithful answers -/

/-- The record has the name and the version of the key, and the version is no blank one. -/
def Resource.isRecordOf {ρ : Type} [Resource ρ] (record : ρ) (key : Key) : Bool :=
  key.version.all fun version =>
    decide (name record = key.name ∧ Resource.version record = version) && !Text.isBlank version

theorem Resource.key_eq_of_isRecordOf {ρ : Type} [Resource ρ] {record : ρ} {key : Key}
    (h : isRecordOf record key = true) (hkey : key.version.isSome = true) :
    Resource.key record = key := by
  obtain ⟨name, version⟩ := key
  obtain ⟨version, rfl⟩ := Option.isSome_iff_exists.1 hkey
  simp only [isRecordOf, Option.all_some, Bool.and_eq_true, decide_eq_true_eq,
    Bool.not_eq_true'] at h
  obtain ⟨⟨hname, hversion⟩, hblank⟩ := h
  rw [Resource.key, hname, hversion, Key.versioned_of_not_isBlank hblank]

/-- A query for one version is answered by a record of that name and version, if by any. -/
def Reply.isFaithfulTo (reply : Reply) (demand : Demand) : Bool :=
  match reply with
  | .response (.record kind record) =>
    !demand.asks kind || Resource.isRecordOf record demand.resourceKey
  | _ => true

/-- Where the record that is fetched is one for the key asked for, a subscription is handed what is
at hand then. -/
theorem Audience.Effect.shifts {ρ ℓ : Type} [Resource ρ] [DecidableEq ℓ]
    {audience next : Audience ρ ℓ} {fetch? : Option (Key × ρ)} (heffect : audience.Effect next fetch?)
    (hkeys : ∀ key record, fetch? = some (key, record) → key.version.isSome = true →
      Resource.key record = key) :
    Relation.ReflTransGen Audience.Shift audience next := by
  cases heffect with
  | rest hcovers => exact .single (.rest hcovers)
  | unsubscribe key listener hcovers => exact .single (.unsubscribe key listener hcovers)
  | await key listener hcached hcovers => exact .single (.await key listener hcached hcovers)
  | subscribe key listener record hcached hcovers =>
    exact .single (.subscribe key listener record hcached hcovers)
  | refresh key record hcovers => exact .single (.absorb record hcovers)
  | complete handle key record hwaits hcovers =>
    refine .tail (.single (.absorb record (.refl _)))
      (.complete handle key record hwaits (fun hkey => ?_) hcovers)
    rw [Audience.find?_absorb _ _ hkey, if_pos (hkeys key record rfl hkey).symm]

namespace Session

/-! ## Runs -/

def isFaithful (session : Session) : Access → Bool
  | .move (.reply id reply) =>
    (session.flight? id).all fun flight => reply.isFaithfulTo flight.request.demand
  | _ => true

/-- Every reply that comes while its flight waits is faithful to what was asked for. -/
def answersFaithfully (session : Session) : List Access → Bool
  | [] => true
  | access :: accesses =>
    session.isFaithful access && (session.access access).answersFaithfully accesses

/-- The records that a handle was handed, the first to come first. -/
def received (session : Session) (kind : Kind) (handle : Handle Listener) : List kind.Record :=
  (heard (session.deliveries kind) handle).reverse

theorem answersFaithfully_append (session : Session) (earlier later : List Access) :
    session.answersFaithfully (earlier ++ later) =
      (session.answersFaithfully earlier && (session.follow earlier).answersFaithfully later) := by
  induction earlier generalizing session with
  | nil => rfl
  | cons access earlier ih =>
    rw [List.cons_append, answersFaithfully, ih, answersFaithfully, Bool.and_assoc]
    rfl

/-- The record that a faithful answer brings is one for the key that was asked for. -/
theorem key_eq_of_fetch? {session : Session} {access : Access} {kind : Kind} {key : Key}
    {record : kind.Record} (hfaithful : session.isFaithful access = true)
    (hfetch : session.fetch? kind access = some (key, record)) (hkey : key.version.isSome = true) :
    Resource.key record = key := by
  obtain ⟨id, flight, rfl, hflight, -, hasks, rfl, -⟩ := exists_reply_of_fetch? hfetch
  rw [isFaithful, hflight, Option.all_some, Reply.isFaithfulTo, hasks] at hfaithful
  exact Resource.key_eq_of_isRecordOf hfaithful hkey

theorem access_shifts {session : Session} {access : Access}
    (hfaithful : session.isFaithful access = true) : session.Shifts (session.access access) :=
  fun kind => (session.access_effects access kind).shifts fun _ _ hfetch hkey =>
    key_eq_of_fetch? hfaithful hfetch hkey

theorem follow_shifts {session : Session} {accesses : List Access}
    (hfaithful : session.answersFaithfully accesses = true) :
    session.Shifts (session.follow accesses) := by
  induction accesses generalizing session with
  | nil => exact .refl session
  | cons access accesses ih =>
    obtain ⟨haccess, hrest⟩ := (Bool.and_eq_true _ _).mp hfaithful
    exact (access_shifts haccess).trans (ih hrest)

/-- Nobody listens to a session that was just opened. -/
theorem orderly_ofConfig (config : Config) (link : Link) (feed : Feed) (kind : Kind) :
    ((ofConfig config link feed).audience kind).Orderly := by
  have hnobody : ∀ key, ((ofConfig config link feed).audience kind).handlesOf key = [] := by
    intro key
    cases kind <;> rfl
  have hunreached : ∀ handle,
      ((ofConfig config link feed).audience kind).list.subscriptions.isReached handle = false := by
    intro handle
    cases kind <;> rfl
  refine ⟨⟨?_, ?_, nofun, nofun, ?_⟩, ?_⟩
  · intro key handle hhandle
    rw [hnobody] at hhandle
    exact absurd hhandle List.not_mem_nil
  · intro key
    rw [hnobody]
    exact List.nodup_nil
  · intro handle hreached
    rw [hunreached] at hreached
    exact absurd hreached Bool.false_ne_true
  · intro key _ handle hhandle
    rw [hnobody] at hhandle
    exact absurd hhandle List.not_mem_nil

/-- Of two records that come through a handle one after the other, each connects elsewhere than the
other, and what came last connects as the record at hand does while the handle is registered: in
every state, also while a first fetch is under way, as long as each record that is fetched goes to
its slots and its listeners in one go. -/
theorem listeners_hear_every_change (config : Config) (link : Link) (feed : Feed)
    (before after : List Access)
    (hfaithful : (ofConfig config link feed).answersFaithfully (before ++ after) = true)
    (kind : Kind) (key : Key) (hkey : key.version.isSome = true) (handle : Handle Listener)
    (hregistered : handle ∈
      (((ofConfig config link feed).follow before).watchlist kind).subscriptions.handlesOf key) :
    let final := (ofConfig config link feed).follow (before ++ after)
    (final.received kind handle).IsChain (fun earlier later =>
        Resource.connectsElsewhere later earlier = true ∧
          Resource.connectsElsewhere earlier later = true) ∧
      (handle ∈ (final.watchlist kind).subscriptions.handlesOf key →
        ∀ record, (final.watchlist kind).find? key = some record →
          ∃ last, (final.received kind handle).getLast? = some last ∧
            Resource.connectsElsewhere last record = false) := by
  intro final
  obtain ⟨hbefore, hafter⟩ :
      (ofConfig config link feed).answersFaithfully before = true ∧
        ((ofConfig config link feed).follow before).answersFaithfully after = true := by
    rwa [answersFaithfully_append, Bool.and_eq_true] at hfaithful
  have horderly := (orderly_ofConfig config link feed kind).of_shifts (follow_shifts hbefore kind)
  have hinforms : (final.audience kind).Informs key handle := by
    have hshifts := follow_shifts hafter kind
    rw [← follow_append] at hshifts
    exact (horderly.informs key hkey handle hregistered).of_shifts horderly hkey hshifts
  constructor
  · rw [received, List.isChain_reverse]
    refine hinforms.follows.chain.imp fun later earlier hchange => ?_
    exact ⟨hchange, (Resource.connectsElsewhere_comm earlier later).trans hchange⟩
  · intro hstill record hcached
    rw [received, List.getLast?_reverse]
    exact (hinforms.upToDate hstill).2 record hcached

def sampleServer (protocol : String) : Mcp.Record where
  name := "srv"
  version := "1"
  protocol

def answering (flight : Nat) (protocol : String) : Access :=
  .move (.reply flight (.response (.record .mcp (sampleServer protocol))))

/-- Two refreshes at the same time, the second of which is answered first, and a third that brings
nothing new. -/
def refreshing : List Access :=
  [answering 0 "http", .refresh 1 .mcp ⟨"srv", "1"⟩, .refresh 2 .mcp ⟨"srv", "1"⟩,
    answering 2 "sse", answering 1 "http", .refresh 3 .mcp ⟨"srv", "1"⟩, answering 3 "http"]

theorem listeners_hear_every_change_refreshing :
    let before := [.subscribe 0 .mcp ⟨"srv", "1"⟩ { label := "listener" }]
    let handle := ⟨0, { label := "listener" }⟩
    let final := (ofConfig {} {} (.ofCapacity 16)).follow (before ++ refreshing)
    (final.received .mcp handle).map Mcp.Record.protocol = ["http", "sse", "http"] ∧
      (final.received .mcp handle).IsChain (fun earlier later =>
        Resource.connectsElsewhere later earlier = true ∧
          Resource.connectsElsewhere earlier later = true) ∧
      ∃ record, (final.watchlist .mcp).find? ⟨"srv", "1"⟩ = some record ∧
        ∃ last, (final.received .mcp handle).getLast? = some last ∧
          Resource.connectsElsewhere last record = false := by
  intro before handle final
  obtain ⟨hchain, hlast⟩ :=
    listeners_hear_every_change {} {} (.ofCapacity 16) before refreshing (by decide +kernel)
      .mcp ⟨"srv", "1"⟩ rfl handle (by decide +kernel)
  have hstill : handle ∈ (final.watchlist .mcp).subscriptions.handlesOf ⟨"srv", "1"⟩ := by
    decide +kernel
  have hcached : ((final.watchlist .mcp).find? ⟨"srv", "1"⟩).isSome = true := by decide +kernel
  obtain ⟨record, hrecord⟩ := Option.isSome_iff_exists.1 hcached
  exact ⟨by decide +kernel, hchain, record, hrecord, hlast hstill record hrecord⟩

end Session

namespace Shared

def fresh : Shared Mcp.Record Listener where
  list := .ofPool (.ofWorkers "mcp-refresh" 2) 10000

/-- A first fetch and a refresh end at the same time. The refresh stores its record last and calls
the listener first. -/
def overtaking : List (Act Mcp.Record Listener) :=
  [.subscribe 0 ⟨"srv", "1"⟩ { label := "listener" }, .step 0,
    .fetch 0 (some (Session.sampleServer "http")), .refresh (Session.sampleServer "sse"),
    .step 0, .step 1, .step 0, .step 1] ++
  List.replicate 7 (.step 1) ++ List.replicate 8 (.step 0)

/-- Among threads a listener may be left with a record that is not at hand any more. -/
theorem not_forall_listeners_up_to_date :
    ¬ ∀ (acts : List (Act Mcp.Record Listener)) (key : Key) (handle : Handle Listener),
      (∀ act ∈ acts, ∀ record ∈ act.fetched?, Resource.isRecordOf record key = true) →
      (fresh.run acts).isIdle = true →
      handle ∈ (fresh.run acts).list.subscriptions.handlesOf key →
      ∀ record, (fresh.run acts).list.find? key = some record →
        ∃ last, (heard (fresh.run acts).deliveries handle).head? = some last ∧
          Resource.connectsElsewhere last record = false := by
  intro h
  let final := fresh.run overtaking
  let handle : Handle Listener := ⟨0, { label := "listener" }⟩
  have hcached : (final.list.find? ⟨"srv", "1"⟩).isSome = true := by decide +kernel
  obtain ⟨record, hrecord⟩ := Option.isSome_iff_exists.1 hcached
  obtain ⟨last, hlast, halike⟩ := h overtaking ⟨"srv", "1"⟩ handle (by decide +kernel)
    (by decide +kernel) (by decide +kernel) record hrecord
  have hstale : (heard final.deliveries handle).head?.map (fun last =>
      (final.list.find? ⟨"srv", "1"⟩).map (Resource.connectsElsewhere last)) =
        some (some true) := by decide +kernel
  rw [hlast, hrecord] at hstale
  exact Bool.false_ne_true (halike.symm.trans (Option.some.inj (Option.some.inj hstale)))

end Shared

end RegistrySession
