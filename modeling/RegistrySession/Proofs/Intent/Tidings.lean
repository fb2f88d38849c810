import RegistrySession.Intent.Ledger

/-!
# Tidings of the connection

What a reader comes to think of the connection is settled by the event sent last, for a feed never
loses that one.  A disconnection that was sent is either still held or among the events lost, and
the notice of a loss counts as one.
-/

namespace RegistrySession

namespace Intent

variable {π : Type}

/-- Nothing is confirmed, and no deregistration is left to do. -/
def Log.IsFresh (log : Log π) : Prop :=
  ∀ name entry, log.find? name = some entry →
    entry.isRegistered = false ∧ entry.action ≠ some .deregister

theorem Log.isFresh_loseSession (log : Log π) : log.loseSession.IsFresh := by
  intro name entry hentry
  rw [find?_loseSession] at hentry
  obtain ⟨old, -, rfl⟩ := Option.map_eq_some_iff.1 hentry
  obtain ⟨desired, isRegistered, isUnregistering, isExpected⟩ := old
  refine ⟨rfl, ?_⟩
  cases isExpected <;> simp [forget, Entry.action]

namespace Ledger

def IsFresh (ledger : Ledger) : Prop :=
  ∀ kind, (ledger.log kind).IsFresh

/-- A disconnection that is taken leaves nothing confirmed in either log. -/
theorem isFresh_disconnected (ledger : Ledger) : (ledger.observe .disconnected).IsFresh := by
  intro kind
  have hlog : (ledger.observe .disconnected).log kind = (ledger.log kind).loseSession :=
    PerKind.get_ofFn _ kind
  rw [hlog]
  exact Log.isFresh_loseSession _

end Ledger

end Intent

namespace Feed

variable {feed next : Feed} {received : Received}

/-- What the reader thinks of the connection once it has taken all that is held. -/
def outlook (feed : Feed) (isConnected : Bool) : Bool :=
  feed.held.getLast?.elim isConnected fun event => event = .connected

/-- The reader has a disconnection to take, or the notice of a loss. -/
def OwesLoss (feed : Feed) : Prop :=
  feed.hasLost = true ∨ .disconnected ∈ feed.held

/-- What was lost made room for what is held. -/
structure Roomy (feed : Feed) : Prop where
  capacity : 0 < feed.capacity
  held : feed.hasLost = true → feed.held ≠ []

/-- A feed that holds anything at all starts out roomy. -/
theorem roomy_ofCapacity {capacity : Nat} (h : 0 < capacity) : (ofCapacity capacity).Roomy :=
  ⟨h, nofun⟩

/-- A feed that holds nothing owes nothing. -/
theorem Roomy.not_owesLoss (hroomy : feed.Roomy) (hheld : feed.held = []) : ¬ feed.OwesLoss := by
  rintro (hlost | hmem)
  · exact hroomy.held hlost hheld
  · rw [hheld] at hmem
    exact List.not_mem_nil hmem

/-! ## Sending -/

/-- What is sent is held, and the oldest events may be lost for it. -/
theorem Roomy.send_cases (hroomy : feed.Roomy) (hopen : feed.isClosed = false)
    (event : SessionEvent) :
    feed.send event = { feed with held := feed.held ++ [event] } ∨
      ∃ kept, feed.send event = { feed with held := kept ++ [event], hasLost := true } := by
  have hcapacity := hroomy.capacity
  unfold send
  rw [if_neg (Bool.eq_false_iff.1 hopen)]
  by_cases hfull : feed.capacity < (feed.held ++ [event]).length
  · refine .inr ⟨feed.held.drop (feed.held.length + 1 - feed.capacity), (if_pos hfull).trans ?_⟩
    rw [List.length_append, List.length_singleton, List.drop_append_of_le_length (by omega)]
  · exact .inl (if_neg hfull)

theorem send_of_isClosed (hclosed : feed.isClosed = true) (event : SessionEvent) :
    feed.send event = feed :=
  if_pos hclosed

@[simp]
theorem isClosed_send (feed : Feed) (event : SessionEvent) :
    (feed.send event).isClosed = feed.isClosed := by
  by_cases hclosed : feed.isClosed = true
  · rw [send_of_isClosed hclosed]
  · unfold send
    rw [if_neg hclosed]
    exact (apply_ite isClosed _ _ _).trans (ite_self _)

theorem Roomy.send (hroomy : feed.Roomy) (event : SessionEvent) : (feed.send event).Roomy := by
  cases hopen : feed.isClosed with
  | true =>
    rw [send_of_isClosed hopen]
    exact hroomy
  | false =>
    have hheld (kept : List SessionEvent) : kept ++ [event] ≠ [] := by simp
    rcases hroomy.send_cases hopen event with h | ⟨kept, h⟩
    · rw [h]
      exact ⟨hroomy.capacity, fun _ => hheld _⟩
    · rw [h]
      exact ⟨hroomy.capacity, fun _ => hheld _⟩

/-- The event sent last is what the reader goes by in the end. -/
theorem Roomy.outlook_send (hroomy : feed.Roomy) (hopen : feed.isClosed = false)
    (event : SessionEvent) (isConnected : Bool) :
    (feed.send event).outlook isConnected = decide (event = .connected) := by
  rcases hroomy.send_cases hopen event with h | ⟨kept, h⟩
  · rw [h, outlook, List.getLast?_concat]
    rfl
  · rw [h, outlook, List.getLast?_concat]
    rfl

/-- Whatever is sent, a loss that is owed stays owed: it may be lost itself, but not unnoticed. -/
theorem Roomy.owesLoss_send (hroomy : feed.Roomy) (event : SessionEvent) (howes : feed.OwesLoss) :
    (feed.send event).OwesLoss := by
  cases hopen : feed.isClosed with
  | true =>
    rw [send_of_isClosed hopen]
    exact howes
  | false =>
    rcases hroomy.send_cases hopen event with h | ⟨kept, h⟩
    · rw [h]
      exact howes.imp id (List.mem_append_left _)
    · rw [h]
      exact .inl rfl

/-- A disconnection that goes out is owed to the reader. -/
theorem Roomy.owesLoss_disconnected (hroomy : feed.Roomy) (hopen : feed.isClosed = false) :
    (feed.send .disconnected).OwesLoss := by
  rcases hroomy.send_cases hopen .disconnected with h | ⟨kept, h⟩
  · rw [h]
    exact .inr List.mem_concat_self
  · rw [h]
    exact .inl rfl

/-! ## Receiving -/

/-- The notice of a loss comes first, then what is held, and the end comes last. -/
theorem receive?_cases (hreceive : feed.receive? = some (received, next)) :
    (feed.hasLost = true ∧ received = .lagged ∧ next = { feed with hasLost := false }) ∨
      (∃ event rest, feed.held = event :: rest ∧ received = .event event ∧
        next = { feed with held := rest } ∧ feed.hasLost = false) ∨
      (feed.held = [] ∧ received = .closed ∧ next = feed) := by
  unfold receive? at hreceive
  by_cases hlost : feed.hasLost = true
  · rw [if_pos hlost] at hreceive
    obtain ⟨rfl, rfl⟩ := Prod.mk.inj (Option.some.inj hreceive)
    exact .inl ⟨hlost, rfl, rfl⟩
  rw [if_neg hlost] at hreceive
  cases hheld : feed.held with
  | cons event rest =>
    simp only [hheld] at hreceive
    obtain ⟨rfl, rfl⟩ := Prod.mk.inj (Option.some.inj hreceive)
    exact .inr (.inl ⟨event, rest, rfl, rfl, rfl, Bool.eq_false_iff.2 hlost⟩)
  | nil =>
    simp only [hheld] at hreceive
    by_cases hclosed : feed.isClosed = true
    · rw [if_pos hclosed] at hreceive
      obtain ⟨rfl, rfl⟩ := Prod.mk.inj (Option.some.inj hreceive)
      exact .inr (.inr ⟨rfl, rfl, rfl⟩)
    · rw [if_neg hclosed] at hreceive
      exact absurd hreceive (Option.some_ne_none _).symm

theorem Roomy.receive (hroomy : feed.Roomy) (hreceive : feed.receive? = some (received, next)) :
    next.Roomy := by
  rcases receive?_cases hreceive with
    ⟨-, -, rfl⟩ | ⟨event, rest, -, -, rfl, hlost⟩ | ⟨-, -, rfl⟩
  · exact ⟨hroomy.capacity, nofun⟩
  · exact ⟨hroomy.capacity, fun h => nomatch hlost.symm.trans h⟩
  · exact hroomy

theorem isClosed_receive (hreceive : feed.receive? = some (received, next)) :
    next.isClosed = feed.isClosed := by
  rcases receive?_cases hreceive with ⟨-, -, rfl⟩ | ⟨_, _, -, -, rfl, -⟩ | ⟨-, -, rfl⟩ <;> rfl

/-- What the reader takes brings it nearer to what it thinks in the end. -/
theorem Roomy.outlook_receive (hroomy : feed.Roomy)
    (hreceive : feed.receive? = some (received, next)) (ledger : Intent.Ledger) :
    next.outlook (ledger.observeReceived received).isConnected =
      feed.outlook ledger.isConnected := by
  rcases receive?_cases hreceive with
    ⟨hlost, rfl, rfl⟩ | ⟨event, rest, hheld, rfl, rfl, -⟩ | ⟨-, rfl, rfl⟩
  · obtain ⟨event, hlast⟩ := Option.ne_none_iff_exists'.1
      (mt List.getLast?_eq_none_iff.1 (hroomy.held hlost))
    simp only [outlook, hlast, Option.elim]
  · rw [outlook, outlook, hheld, List.getLast?_cons]
    cases rest.getLast? with
    | some last => rfl
    | none => cases event <;> rfl
  · rfl

/-- With the loss that it owes the feed takes all confirmations away. -/
theorem OwesLoss.receive (howes : feed.OwesLoss)
    (hreceive : feed.receive? = some (received, next)) (ledger : Intent.Ledger) :
    next.OwesLoss ∨ (ledger.observeReceived received).IsFresh := by
  rcases receive?_cases hreceive with
    ⟨-, rfl, rfl⟩ | ⟨event, rest, hheld, rfl, rfl, hlost⟩ | ⟨hheld, rfl, rfl⟩
  · exact .inr ledger.isFresh_disconnected
  · cases event with
    | disconnected => exact .inr ledger.isFresh_disconnected
    | connected =>
      have hmem := howes.resolve_left (Bool.eq_false_iff.1 hlost)
      rw [hheld] at hmem
      exact .inl (.inr ((List.mem_cons.1 hmem).resolve_left nofun))
  · exact .inl howes

end Feed

end RegistrySession
