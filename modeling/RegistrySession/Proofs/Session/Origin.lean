import RegistrySession.Proofs.Session.Dispatch

/-!
# Calls behind requests

Whatever a session pushes, a call asked for that passed its check, however much later a pass comes
to push it.  A request of a call goes back to the call itself.  What a pass pushes it found in the
log, and both the registration of an entry and the wish that the entry stands for go back to a call
that left them there.
-/

namespace RegistrySession

open Intent (Operation Wish)

/-- The endpoint request does what the call asks for. -/
inductive Call.AsksFor : Call → Demand → Prop
  | register (kind : Kind) (name : String) (registration : kind.Registration) :
      AsksFor (.register kind name registration) (.register kind name registration)
  | deregisterAgent (name : String) (named endpoint : Agent.Endpoint) :
      AsksFor (.deregisterAgent name named) (.withdraw .agent name endpoint)
  | deregisterMcp (name address : String) (port : UInt16) (endpoint : Mcp.Endpoint) :
      AsksFor (.deregisterMcp name address port) (.withdraw .mcp name endpoint)

def Call.wish? (kind : Kind) (name : String) (call : Call) : Option (Wish kind.Registration) :=
  (call.intent? kind).bind (Operation.wish? name)

/-- Of all calls only one that registers leaves a registration, and only one that deregisters takes
it back. -/
theorem Call.eq_of_wish? {kind : Kind} {name : String} {call : Call}
    {wish : Wish kind.Registration} (hwish : call.wish? kind name = some wish) :
    (∃ registration, call = .register kind name registration ∧ wish = .register registration) ∨
      wish = .deregister ∧ ∀ endpoint, call.AsksFor (.withdraw kind name endpoint) := by
  obtain ⟨operation, hintent, hoperation⟩ := Option.bind_eq_some_iff.1 hwish
  have hregister : ∀ (target : String) (registration : kind.Registration),
      (Operation.intendRegister target registration).wish? name = some wish →
        target = name ∧ wish = .register registration := by
    intro target registration h
    simpa [Operation.wish?, eq_comm] using h
  have hderegister : ∀ target : String,
      (Operation.intendDeregister target : Operation kind.Registration).wish? name = some wish →
        target = name ∧ wish = .deregister := by
    intro target h
    simpa [Operation.wish?, eq_comm] using h
  cases call with
  | register other target registration =>
    by_cases hkind : other = kind
    · subst hkind
      rw [intent?_register] at hintent
      obtain rfl := Option.some.inj hintent
      obtain ⟨rfl, rfl⟩ := hregister target registration hoperation
      exact .inl ⟨registration, rfl, rfl⟩
    · rw [intent?_of_ne (intent?_register other target registration) (Ne.symm hkind)] at hintent
      exact absurd hintent (Option.some_ne_none _).symm
  | deregisterAgent target named =>
    cases kind with
    | mcp => exact absurd hintent (Option.some_ne_none _).symm
    | agent =>
      obtain rfl := Option.some.inj hintent
      obtain ⟨rfl, rfl⟩ := hderegister target hoperation
      exact .inr ⟨rfl, fun endpoint => .deregisterAgent target named endpoint⟩
  | deregisterMcp target address port =>
    cases kind with
    | agent => exact absurd hintent (Option.some_ne_none _).symm
    | mcp =>
      obtain rfl := Option.some.inj hintent
      obtain ⟨rfl, rfl⟩ := hderegister target hoperation
      exact .inr ⟨rfl, fun endpoint => .deregisterMcp target address port endpoint⟩
  | _ => cases kind <;> exact absurd hintent (Option.some_ne_none _).symm

/-- A pass pushes what the call behind the wish of the entry asks for. -/
theorem Call.asksFor_of_wish? {kind : Kind} {name : String} {call : Call}
    {entry : Intent.Entry kind.Registration} {demand : Demand}
    (hwish : call.wish? kind name = some entry.wish)
    (hdemand : entry.demand? kind name = some demand) : call.AsksFor demand := by
  rcases Intent.Entry.demand?_cases hdemand with ⟨hwanted, rfl⟩ | ⟨hunwanted, endpoint, -, rfl⟩
  · rw [hwanted] at hwish
    rcases Call.eq_of_wish? hwish with ⟨registration, rfl, hregister⟩ | ⟨hderegister, -⟩
    · obtain rfl := Wish.register.inj hregister
      exact .register kind name entry.desired
    · cases hderegister
  · rw [hunwanted] at hwish
    rcases Call.eq_of_wish? hwish with ⟨registration, -, hregister⟩ | ⟨-, hwithdraw⟩
    · cases hregister
    · exact hwithdraw endpoint

namespace Session

variable {session : Session} {kind : Kind} {name : String} {move : Move} {flight : Flight}
  {config : Config} {link : Link} {feed : Feed}

/-- What a call pushes is what it asks for. -/
theorem asksFor_of_push? {call : Call} {demand : Demand}
    (hpush : session.push? call = some demand) : call.AsksFor demand := by
  cases call with
  | register other target registration =>
    obtain rfl := Option.some.inj hpush
    exact .register other target registration
  | deregisterAgent target named =>
    obtain ⟨-, -, rfl⟩ := Option.map_eq_some_iff.1 hpush
    exact .deregisterAgent target named _
  | deregisterMcp target address port =>
    obtain ⟨-, -, rfl⟩ := Option.map_eq_some_iff.1 hpush
    exact .deregisterMcp target address port _
  | _ => exact absurd hpush (Option.some_ne_none _).symm

/-- A move that records a wish is a call that passed its check. -/
theorem exists_call_of_wish? {wish : Wish kind.Registration}
    (hwish : session.wish? kind name move = some wish) :
    ∃ id call, move = .call id call ∧ session.check call = .ok () ∧
      call.wish? kind name = some wish := by
  obtain ⟨operation, hintent, hoperation⟩ := Option.bind_eq_some_iff.1 hwish
  cases move with
  | call id call =>
    cases hcheck : session.check call with
    | error error =>
      rw [intent?, hcheck] at hintent
      exact absurd hintent (Option.some_ne_none _).symm
    | ok _ =>
      rw [intent?_of_check hcheck] at hintent
      refine ⟨id, call, rfl, hcheck, ?_⟩
      rw [Call.wish?, hintent]
      exact hoperation
  | _ => exact absurd hintent (Option.some_ne_none _).symm

/-- What is checked of a call that is to leave an intent. -/
theorem of_check {validity : Except Error Unit}
    (hcheck : (do
      session.requireRunning
      requireText .resourceName name
      validity
      session.requireSupport kind) = .ok ()) :
    requireText .resourceName name = .ok () ∧ validity = .ok () ∧
      session.requireSupport kind = .ok () := by
  obtain ⟨_, -, hcheck⟩ := exists_of_bind_eq_ok hcheck
  obtain ⟨_, hname, hcheck⟩ := exists_of_bind_eq_ok hcheck
  obtain ⟨_, hvalid, hsupport⟩ := exists_of_bind_eq_ok hcheck
  exact ⟨hname, hvalid, hsupport⟩

/-! ## Entries -/

/-- A session opens with empty logs. -/
theorem find?_ofConfig (config : Config) (link : Link) (feed : Feed) (kind : Kind)
    (name : String) : ((ofConfig config link feed).log kind).find? name = none := by
  rw [log_ofConfig, Intent.Log.find?_empty]

/-- The registration of an entry is one with which a call registered the name. -/
theorem exists_registering {moves : List Move} {entry : Intent.Entry kind.Registration}
    (hentry : (((ofConfig config link feed).run moves).log kind).find? name = some entry) :
    ∃ earlier id later, moves = earlier ++ .call id (.register kind name entry.desired) :: later ∧
      ((ofConfig config link feed).run earlier).check (.register kind name entry.desired) =
        .ok () := by
  induction moves using List.reverseRecOn generalizing entry with
  | nil =>
    exact absurd (hentry.symm.trans (find?_ofConfig config link feed kind name))
      (Option.some_ne_none _)
  | append_singleton moves move ih =>
    have hsound := (sound_ofConfig config link feed).run moves
    obtain ⟨middle, honset, hsequel⟩ := hsound.step_course move
    rw [run_snoc] at hentry
    rcases honset.desired (hsequel.find?_of_find? hentry) with hwish | ⟨-, old, hold, hdesired⟩
    · obtain ⟨id, call, rfl, hcheck, hcall⟩ := exists_call_of_wish? hwish
      rcases Call.eq_of_wish? hcall with ⟨registration, rfl, hregister⟩ | ⟨hderegister, -⟩
      · obtain rfl := Wish.register.inj hregister
        exact ⟨moves, id, [], rfl, hcheck⟩
      · exact absurd hderegister nofun
    · obtain ⟨earlier, id, later, rfl, hcheck⟩ := ih hold
      rw [hdesired] at hcheck
      refine ⟨earlier, id, later ++ [move], ?_, hcheck⟩
      rw [hdesired, List.append_assoc, List.cons_append]

/-- The wish that an entry stands for is one that a call left. -/
theorem exists_wishing {moves : List Move} {entry : Intent.Entry kind.Registration}
    (hentry : (((ofConfig config link feed).run moves).log kind).find? name = some entry) :
    ∃ earlier id call later, moves = earlier ++ .call id call :: later ∧
      ((ofConfig config link feed).run earlier).check call = .ok () ∧
      call.wish? kind name = some entry.wish := by
  induction moves using List.reverseRecOn generalizing entry with
  | nil =>
    exact absurd (hentry.symm.trans (find?_ofConfig config link feed kind name))
      (Option.some_ne_none _)
  | append_singleton moves move ih =>
    have hsound := (sound_ofConfig config link feed).run moves
    obtain ⟨middle, honset, hsequel⟩ := hsound.step_course move
    rw [run_snoc] at hentry
    have hmiddle := hsequel.find?_of_find? hentry
    have hwanted : middle.wanted? kind name = entry.wish.registration? :=
      Intent.Log.wanted?_of_find? hmiddle
    rw [honset.wanted?_eq] at hwanted
    cases hwish : ((ofConfig config link feed).run moves).wish? kind name move with
    | some wish =>
      rw [hwish, Option.elim_some] at hwanted
      obtain rfl := Wish.registration?_inj.1 hwanted
      obtain ⟨id, call, rfl, hcheck, hcall⟩ := exists_call_of_wish? hwish
      exact ⟨moves, id, call, [], rfl, hcheck, hcall⟩
    | none =>
      -- The entry was there before the step, and stood for the same wish.
      rcases honset.desired hmiddle with hregister | ⟨-, old, hold, -⟩
      · exact absurd (hwish.symm.trans hregister) (Option.some_ne_none _).symm
      · rw [hwish, Option.elim_none] at hwanted
        have hsame : old.wish = entry.wish :=
          Wish.registration?_inj.1 ((Intent.Log.wanted?_of_find? hold).symm.trans hwanted)
        obtain ⟨earlier, id, call, later, rfl, hcheck, hcall⟩ := ih hold
        rw [hsame] at hcall
        refine ⟨earlier, id, call, later ++ [move], ?_, hcheck, hcall⟩
        rw [List.append_assoc, List.cons_append]

/-! ## Requests -/

/-- What a pass holds stood in the log earlier in the run. -/
theorem Holds.exists_find? {moves : List Move} {owner : Owner}
    {entry : String × Intent.Entry kind.Registration}
    (hholds : ((ofConfig config link feed).run moves).Holds owner kind entry) :
    ∃ earlier later, moves = earlier ++ later ∧
      (((ofConfig config link feed).run earlier).log kind).find? entry.1 = some entry.2 := by
  obtain ⟨earlier, later, hsplit, hsnapshot⟩ := hholds.exists_snapshot
    (sound_ofConfig config link feed) (not_carries_ofConfig config link feed)
  exact ⟨earlier, later, hsplit, hsnapshot.listed⟩

/-- Every endpoint request goes back to a call that asked for it. -/
theorem Pushes.exists_call {moves : List Move}
    (hpushes : ((ofConfig config link feed).run moves).Pushes move flight) :
    ∃ earlier id call later, moves ++ [move] = earlier ++ .call id call :: later ∧
      ((ofConfig config link feed).run earlier).check call = .ok () ∧
      call.AsksFor flight.request.demand ∧
      (flight.owner = .call id ∧ later = [] ∧
          ((ofConfig config link feed).run earlier).isOnline = true ∨
        ∃ task, flight.owner = .run .reconcile task) := by
  cases hpushes with
  | called id call hmove howner hcheck honline hpush =>
    rw [hmove]
    exact ⟨moves, id, call, [], rfl, hcheck, asksFor_of_push? hpush,
      .inl ⟨howner, rfl, honline⟩⟩
  | passed task kind name entry howner hdemand hholds hpass =>
    obtain ⟨earlier, later, rfl, hlisted⟩ := hholds.exists_find?
    obtain ⟨sooner, id, call, between, rfl, hcheck, hwish⟩ := exists_wishing hlisted
    refine ⟨sooner, id, call, between ++ later ++ [move], by simp, hcheck,
      Call.asksFor_of_wish? hwish hdemand, .inr ⟨task, howner⟩⟩

end Session

end RegistrySession
