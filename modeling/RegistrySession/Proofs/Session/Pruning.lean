import RegistrySession.Proofs.Session.Leftovers
import RegistrySession.Proofs.Session.Validity

/-!
# Pruning

The reconciler takes a settled entry out of the log at some time or other.  A session that was
pruned is set beside one that kept the entry, and each of the two leads in turn: the other takes the
same moves, its logs listed in the order of the first.  They go on to send the same requests, to
give the same results and to hold the same registrations, just as long as no deregistration of the
name meets a settled entry.  A deregistration that does is taken for one that has something to do.
-/

namespace RegistrySession

open Intent (Entry Operation)

namespace Session

variable {session other next : Session} {gone : Leftovers} {kind : Kind} {name : String}
  {move : Move}

/-! ## What is in the logs was checked -/

/-- The session is sound, and every registration in its logs passed its check. -/
structure Checked (session : Session) : Prop where
  sound : session.Sound
  valid : ∀ kind name entry, (session.log kind).find? name = some entry →
    kind.IsValidRegistration entry.desired

theorem checked_ofConfig (config : Config) (link : Link) (feed : Feed) :
    (ofConfig config link feed).Checked := by
  constructor
  case sound => exact sound_ofConfig config link feed
  case valid =>
    intro kind name entry hentry
    rw [find?_ofConfig] at hentry
    exact absurd hentry.symm (Option.some_ne_none _)

theorem Checked.step (hchecked : session.Checked) (move : Move) : (session.step move).Checked := by
  constructor
  case sound => exact hchecked.sound.run [move]
  case valid =>
    intro kind name entry hentry
    obtain ⟨middle, honset, hsequel⟩ := hchecked.sound.step_course move
    rcases honset.desired (hsequel.find?_of_find? hentry) with hwish | ⟨-, old, hold, hdesired⟩
    · obtain ⟨id, call, rfl, hcheck, hcall⟩ := exists_call_of_wish? hwish
      rcases Call.eq_of_wish? hcall with ⟨registration, rfl, hregister⟩ | ⟨hderegister, -⟩
      · obtain rfl := Intent.Wish.register.inj hregister
        obtain ⟨-, hvalid, -⟩ := of_check hcheck
        exact Kind.validate_eq_ok_iff.1 hvalid
      · exact absurd hderegister nofun
    · exact hdesired ▸ hchecked.valid kind name old hold

/-- What is in a log passed its check, whatever was done since. -/
theorem Checked.run (hchecked : session.Checked) (moves : List Move) :
    (session.run moves).Checked := by
  induction moves generalizing session with
  | nil => exact hchecked
  | cons move moves ih => exact ih (hchecked.step move)

theorem Checked.prune (hchecked : session.Checked) (kind : Kind) (name : String) :
    (session.modifyLog kind fun log => (log.prune name).1).Checked := by
  constructor
  case sound => exact hchecked.sound.prune kind name
  case valid =>
    intro other target entry hentry
    by_cases hkind : other = kind
    · subst hkind
      rw [log_modifyLog_self, Intent.Log.find?_prune] at hentry
      by_cases htarget : target = name
      · subst htarget
        rw [if_pos rfl] at hentry
        exact hchecked.valid other target entry (Option.filter_eq_some_iff.1 hentry).1
      · rw [if_neg htarget] at hentry
        exact hchecked.valid other target entry hentry
    · rw [log_modifyLog_of_ne _ _ hkind] at hentry
      exact hchecked.valid other target entry hentry

/-- A withdrawal borrows the version of a settled entry, which is no worse than none. -/
theorem Checked.validate_mcpEndpoint_without (hchecked : session.Checked) (gone : Leftovers)
    (name address : String) (port : UInt16) :
    ((session.without gone).mcpEndpoint name address port).validate =
      (session.mcpEndpoint name address port).validate := by
  simp only [mcpEndpoint, log_without, Intent.Log.find?_without]
  cases hentry : (session.log .mcp).find? name with
  | none => rfl
  | some entry =>
    cases hgone : entry.isGone (gone .mcp) name with
    | false => simp [Option.filter, hgone]
    | true =>
      have hvalid : Mcp.Endpoint.IsValid entry.desired := hchecked.valid .mcp name entry hentry
      simp only [Option.filter, hgone, Bool.not_true, Bool.false_eq_true, if_false,
        Option.bind_none, Option.bind_some, Mcp.Endpoint.validate]
      cases hversion : Mcp.Endpoint.version entry.desired with
      | none => rfl
      | some version =>
        have hnotBlank : requireText .endpointVersion version = .ok () :=
          requireText_eq_ok_iff.2 (hvalid.version version hversion)
        simp only [hnotBlank]

theorem Checked.check_without (hchecked : session.Checked) (gone : Leftovers) (call : Call) :
    (session.without gone).check call = session.check call := by
  cases call with
  | deregisterMcp name address port =>
    simp only [check, hchecked.validate_mcpEndpoint_without]
    rfl
  | _ => rfl

/-! ## The same but for the order -/

/-- The sessions hold the same, though their logs may list it in different orders. -/
structure Reordered (session other : Session) : Prop where
  rest : ∀ ledger, { session with ledger } = { other with ledger }
  isConnected : session.ledger.isConnected = other.ledger.isConnected
  find? : ∀ kind name, (session.log kind).find? name = (other.log kind).find? name
  logSession : ∀ kind, (session.log kind).session = (other.log kind).session

namespace Reordered

theorem of_eq (h : session = other) : session.Reordered other := by
  subst h
  exact ⟨fun _ => rfl, rfl, fun _ _ => rfl, fun _ => rfl⟩

theorem symm (h : session.Reordered other) : other.Reordered session where
  rest ledger := (h.rest ledger).symm
  isConnected := h.isConnected.symm
  find? kind name := (h.find? kind name).symm
  logSession kind := (h.logSession kind).symm

theorem trans (hfirst : session.Reordered other) (hsecond : other.Reordered next) :
    session.Reordered next where
  rest ledger := (hfirst.rest ledger).trans (hsecond.rest ledger)
  isConnected := hfirst.isConnected.trans hsecond.isConnected
  find? kind name := (hfirst.find? kind name).trans (hsecond.find? kind name)
  logSession kind := (hfirst.logSession kind).trans (hsecond.logSession kind)

theorem send (h : session.Reordered other) (owner : Owner) (errand : Errand) (demand : Demand) :
    (session.send owner errand demand).Reordered (other.send owner errand demand) where
  rest ledger := congrArg (fun session => session.send owner errand demand) (h.rest ledger)
  isConnected := h.isConnected
  find? := h.find?
  logSession := h.logSession

theorem finish (h : session.Reordered other) (id : Nat) (outcome : Outcome Answer) :
    (session.conclude (.call id) outcome).Reordered (other.conclude (.call id) outcome) where
  rest ledger := congrArg (fun session => session.conclude (.call id) outcome) (h.rest ledger)
  isConnected := h.isConnected
  find? := h.find?
  logSession := h.logSession

/-- A change of one log that comes to the same, but for the order, without what is gone. -/
theorem modifyLog {f : Intent.Log kind.Registration → Intent.Log kind.Registration}
    (hfind : ∀ name, ((f ((session.log kind).without (gone kind))).without (gone kind)).find? name =
      ((f (session.log kind)).without (gone kind)).find? name)
    (hsession : (f ((session.log kind).without (gone kind))).session =
      (f (session.log kind)).session) :
    (((session.without gone).modifyLog kind f).without gone).Reordered
      ((session.modifyLog kind f).without gone) := by
  constructor
  case rest =>
    intro ledger
    have hflights := congrArg (fun session : Session => { session with ledger })
      (session.without_without gone)
    exact hflights
  case isConnected => rfl
  case find? =>
    intro other name
    by_cases hkind : other = kind
    · subst hkind
      rw [log_without, log_without, log_modifyLog_self, log_modifyLog_self, log_without, hfind]
    · rw [log_without, log_without, log_modifyLog_of_ne _ _ hkind, log_modifyLog_of_ne _ _ hkind,
        log_without, Intent.Log.without_without]
  case logSession =>
    intro other
    by_cases hkind : other = kind
    · subst hkind
      rw [log_without, log_without, log_modifyLog_self, log_modifyLog_self, log_without]
      exact hsession
    · rw [log_without, log_without, log_modifyLog_of_ne _ _ hkind, log_modifyLog_of_ne _ _ hkind,
        log_without]
      rfl

/-- Both send a request if they are online, and else are done with the call. -/
theorem push (h : (session.without gone).Reordered (other.without gone)) (isOnline : Bool)
    (id : Nat) (errand : Errand) (demand : Demand) (outcome : Outcome Answer) :
    (Session.without (if isOnline then session.send (.call id) errand demand
        else session.conclude (.call id) outcome) gone).Reordered
      (Session.without (if isOnline then other.send (.call id) errand demand
        else other.conclude (.call id) outcome) gone) := by
  cases isOnline with
  | true =>
    simp only [if_true, without_send]
    exact h.send (.call id) _ demand
  | false =>
    simp only [Bool.false_eq_true, if_false, without_conclude]
    exact h.finish id outcome

end Reordered

/-! ## Steps -/

/-- The move is a deregistration of the name, and what it meets in the log is settled. -/
def Meets (session : Session) (kind : Kind) (name : String) (move : Move) : Prop :=
  session.intent? kind move = some (.intendDeregister name) ∧
    ∃ entry, (session.log kind).find? name = some entry ∧ entry.isSettled = true

instance (session : Session) (kind : Kind) (name : String) (move : Move) :
    Decidable (session.Meets kind name move) :=
  decidable_of_iff
    (session.intent? kind move = some (.intendDeregister name) ∧
      ((session.log kind).find? name).any Entry.isSettled = true)
    (and_congr Iff.rfl (Option.any_eq_true ..))

/-- Registering makes the same of a settled entry and of none, though in another place. -/
theorem reordered_register (session : Session) (gone : Leftovers) (id : Nat) (kind : Kind)
    (name : String) (registration : kind.Registration) :
    (((session.without gone).register (.call id) kind name registration).without gone).Reordered
      ((session.register (.call id) kind name registration).without gone) := by
  have hintended : (((session.without gone).modifyLog kind fun log =>
        log.intendRegister name registration).without gone).Reordered
      ((session.modifyLog kind fun log => log.intendRegister name registration).without gone) := by
    apply Reordered.modifyLog
    · exact Intent.Log.find?_without_intendRegister _ _ name registration
    · rw [Intent.Log.session_intendRegister, Intent.Log.session_intendRegister]
      rfl
  simp only [register, log_modifyLog_self, Intent.Log.session_intendRegister, log_without,
    Intent.Log.session_without]
  exact hintended.push session.isOnline id _ _ _

/-- Deregistering goes as well without leftovers, unless it meets one. -/
theorem reordered_deregister (session : Session) (gone : Leftovers) (id : Nat) (kind : Kind)
    (name : String) (endpoint : kind.Endpoint)
    (hmet : ∀ entry, (session.log kind).find? name = some entry →
      entry.isGone (gone kind) name = false) :
    (((session.without gone).deregister (.call id) kind name endpoint).without gone).Reordered
      ((session.deregister (.call id) kind name endpoint).without gone) := by
  have hfind : ((session.without gone).log kind).find? name = (session.log kind).find? name := by
    rw [log_without, Intent.Log.find?_without_of_not_gone hmet]
  cases hentry : (session.log kind).find? name with
  | none =>
    rw [hentry] at hfind
    rw [session.deregister_of_absent _ _ hentry,
      (session.without gone).deregister_of_absent _ _ hfind]
    simp only [without_conclude, without_without]
    exact .of_eq rfl
  | some entry =>
    rw [hentry] at hfind
    have hintended : (((session.without gone).modifyLog kind fun log =>
          log.apply (.intendDeregister name)).without gone).Reordered
        ((session.modifyLog kind fun log => log.apply (.intendDeregister name)).without gone) := by
      apply Reordered.modifyLog
      · exact Intent.Log.find?_without_intendDeregister _ _ hmet
      · rfl
    rw [session.deregister_of_find? _ _ hentry,
      (session.without gone).deregister_of_find? _ _ hfind]
    simp only [log_without, Intent.Log.session_without]
    exact hintended.push session.isOnline id _ _ _

/-- An accepted deregistration meets nothing that is gone. -/
theorem not_isGone_of_not_meets {id : Nat} {call : Call} (hcheck : session.check call = .ok ())
    (hmet : ∀ kind name, gone kind name = true → ¬ session.Meets kind name (.call id call))
    (kind : Kind) (hintent : call.intent? kind = some (.intendDeregister name)) :
    ∀ entry, (session.log kind).find? name = some entry →
      entry.isGone (gone kind) name = false := by
  intro entry hentry
  cases hgone : entry.isGone (gone kind) name with
  | false => rfl
  | true =>
    obtain ⟨hnamed, hsettled⟩ := Bool.and_eq_true_iff.1 hgone
    exact absurd ⟨(intent?_of_check hcheck kind).trans hintent, entry, hentry, hsettled⟩
      (hmet kind name hnamed)

theorem reordered_perform {id : Nat} {call : Call} (hcheck : session.check call = .ok ())
    (hmet : ∀ kind name, gone kind name = true → ¬ session.Meets kind name (.call id call)) :
    (((session.without gone).perform (.call id) call).without gone).Reordered
      ((session.perform (.call id) call).without gone) := by
  cases call with
  | register kind name registration =>
    exact session.reordered_register gone id kind name registration
  | deregisterAgent name endpoint =>
    have hunmet := not_isGone_of_not_meets hcheck hmet .agent rfl
    exact session.reordered_deregister gone id .agent name endpoint hunmet
  | deregisterMcp name address port =>
    have hunmet := not_isGone_of_not_meets hcheck hmet .mcp rfl
    have hendpoint : (session.without gone).mcpEndpoint name address port =
        session.mcpEndpoint name address port := by
      rw [mcpEndpoint, mcpEndpoint, log_without, Intent.Log.find?_without_of_not_gone hunmet]
    rw [perform, perform, hendpoint]
    exact session.reordered_deregister gone id .mcp name _ hunmet
  | subscribe kind name version listener =>
    rw [perform, perform, without_subscribe, without_subscribe, without_without]
    exact .of_eq rfl
  | unsubscribe kind name version listener =>
    simp only [perform, unsubscribe, without_conclude, without_setWatchlist, watchlist_without,
      without_without]
    exact .of_eq rfl
  | shutdown =>
    simp only [perform, without_conclude, without_shutdown, without_without]
    exact .of_eq rfl
  | _ =>
    simp only [perform, without_send, without_without]
    exact .of_eq rfl

/-- A move leads to the same without the leftovers, whether or not it started with them. -/
theorem Checked.reordered_step (hchecked : session.Checked)
    (hmet : ∀ kind name, gone kind name = true → ¬ session.Meets kind name move) :
    (((session.without gone).step move).without gone).Reordered
      ((session.step move).without gone) := by
  cases move with
  | call id call =>
    simp only [Session.step, Session.call, hchecked.check_without]
    cases hcheck : session.check call with
    | ok _ => exact reordered_perform hcheck hmet
    | error error =>
      simp only [without_conclude, without_without]
      exact .of_eq rfl
  | reply id reply => exact .of_eq (session.without_reply gone id reply).symm
  | expire id => exact .of_eq (session.without_expire gone id).symm
  | receive => exact .of_eq (session.without_receive gone).symm
  | wake pool task => exact .of_eq (session.without_wake gone pool task).symm
  | start pool => exact .of_eq (session.without_start gone pool).symm
  | reorder kind name => exact .of_eq (session.without_reorder gone kind name).symm
  | elapse span => exact .of_eq ((session.step (.elapse span)).without_without gone)
  | setRunning isRunning =>
    exact .of_eq ((session.step (.setRunning isRunning)).without_without gone)
  | setSupport kind support =>
    exact .of_eq ((session.step (.setSupport kind support)).without_without gone)
  | announce event => exact .of_eq ((session.step (.announce event)).without_without gone)
  | closeFeed => exact .of_eq ((session.step .closeFeed).without_without gone)

/-! ## Runs side by side -/

/-- Moves that bring the logs of another session in the order of this one's. -/
def ordering (session : Session) : List Move :=
  Kind.all.flatMap fun kind => (session.log kind).entries.keys.reverse.map (.reorder kind)

/-- The moves as a session takes them beside this one, its logs in the same order throughout. -/
def matching (session : Session) : List Move → List Move
  | [] => session.ordering
  | move :: moves => session.ordering ++ move :: (session.step move).matching moves

theorem matching_snoc (session : Session) (moves : List Move) (move : Move) :
    session.matching (moves ++ [move]) =
      session.matching moves ++ move :: (session.run (moves ++ [move])).ordering := by
  induction moves generalizing session with
  | nil => rfl
  | cons first moves ih =>
    rw [List.cons_append, matching, ih, matching, List.append_assoc]
    rfl

theorem modifyLog_modifyLog (session : Session) (kind : Kind)
    (f g : Intent.Log kind.Registration → Intent.Log kind.Registration) :
    (session.modifyLog kind f).modifyLog kind g = session.modifyLog kind fun log => g (f log) := by
  cases kind <;> rfl

theorem run_reorders (session : Session) (kind : Kind) (names : List String) :
    session.run (names.reverse.map (.reorder kind)) =
      session.modifyLog kind fun log => log.reorderAll names := by
  induction names with
  | nil => exact (modifyLog_eq_self rfl).symm
  | cons name names ih =>
    rw [List.reverse_cons, List.map_append, run_append, ih]
    exact modifyLog_modifyLog session kind _ fun log => log.reorder name

theorem run_ordering (session other : Session) :
    other.run session.ordering =
      (other.modifyLog .agent fun log => log.reorderAll (session.log .agent).entries.keys).modifyLog
        .mcp fun log => log.reorderAll (session.log .mcp).entries.keys := by
  rw [← run_reorders, ← run_reorders, ← run_append, ordering, Kind.all]
  simp only [List.flatMap_cons, List.flatMap_nil, List.append_nil]

/-- Sessions that hold the same but for what is gone become the same in one order. -/
theorem Reordered.without_run_ordering
    (h : (other.without gone).Reordered (session.without gone)) :
    (other.run session.ordering).without gone = session.without gone := by
  have hlog : ∀ kind, (other.run session.ordering).log kind =
      (other.log kind).reorderAll (session.log kind).entries.keys := by
    intro kind
    rw [run_ordering]
    cases kind <;> rfl
  have hledger : (other.run session.ordering).ledger.without gone = session.ledger.without gone := by
    refine Intent.Ledger.ext_log ?_ fun kind => ?_
    · rw [run_ordering]
      exact h.isConnected
    · have hfind := h.find? kind
      have hsession := h.logSession kind
      rw [log_without, log_without] at hfind hsession
      rw [Intent.Ledger.log_without, Intent.Ledger.log_without]
      exact (congrArg (Intent.Log.without · (gone kind)) (hlog kind)).trans
        (Intent.Log.without_reorderAll_keys hfind hsession)
  calc (other.run session.ordering).without gone
      = { other.without gone with
          ledger := (other.run session.ordering).ledger.without gone } := by
        rw [run_ordering]
        rfl
    _ = { session.without gone with ledger := session.ledger.without gone } := by
        rw [hledger]
        exact h.rest _
    _ = session.without gone := rfl

/-- Through a whole run the sessions stay the same but for what is gone. -/
theorem Checked.without_run_matching (hsession : session.Checked) (hother : other.Checked)
    (hsame : other.without gone = session.without gone) (moves : List Move)
    (hmet : ∀ before move, before ++ [move] <+: moves → ∀ kind name, gone kind name = true →
      ¬ (session.run before).Meets kind name move ∧
        ¬ (other.run (session.matching before)).Meets kind name move) :
    (other.run (session.matching moves)).without gone = (session.run moves).without gone := by
  induction moves using List.reverseRecOn with
  | nil => exact (Reordered.of_eq hsame).without_run_ordering
  | append_singleton moves move ih =>
    have hearlier := ih fun before step hwithin =>
      hmet before step (hwithin.trans (List.prefix_append moves [move]))
    have hlast := hmet moves move (List.prefix_refl _)
    have hfirst := (hsession.run moves).reordered_step fun kind name hgone =>
      (hlast kind name hgone).1
    have hsecond := (hother.run (session.matching moves)).reordered_step fun kind name hgone =>
      (hlast kind name hgone).2
    -- Both steps come to the step of the one session that is left without what is gone.
    rw [hearlier] at hsecond
    have hstepped := (hsecond.symm.trans hfirst).without_run_ordering
    rw [matching_snoc, run_append, run_snoc]
    exact hstepped

/-! ## What a pruned session tells -/

/-- What was asked of the server, what the calls came to and what counts as registered. -/
structure Agrees (session other : Session) : Prop where
  journal : session.journal = other.journal
  isRegistered : ∀ kind name,
    (session.log kind).isRegistered name = (other.log kind).isRegistered name

/-- A deregistration of the name is told whether an unsettled entry exists. -/
def Tells (session : Session) (kind : Kind) (name : String) (move : Move) : Prop :=
  session.intent? kind move = some (.intendDeregister name) →
    (((session.log kind).intendDeregister name).2 = true ↔
      ∃ entry, (session.log kind).find? name = some entry ∧ entry.isSettled = false)

/-- The other session takes the same moves with its logs in the order of this one's.  After each
move the two agree, and each deregistration of the name is told right. -/
def AgreesAlong (session other : Session) (kind : Kind) (name : String) (moves : List Move) :
    Prop :=
  ∀ before move, before ++ [move] <+: moves →
    (session.run before).Tells kind name move ∧
      (other.run (session.matching before)).Tells kind name move ∧
      (session.run (before ++ [move])).Agrees
        (other.run (session.matching (before ++ [move])))

/-- Somewhere along the moves a deregistration of the name meets a settled entry. -/
def MeetsAlong (session other : Session) (kind : Kind) (name : String) (moves : List Move) :
    Prop :=
  ∃ before move, before ++ [move] <+: moves ∧
    ((session.run before).Meets kind name move ∨
      (other.run (session.matching before)).Meets kind name move)

theorem meetsAlong_cons_iff {moves : List Move} :
    session.MeetsAlong other kind name (move :: moves) ↔
      session.Meets kind name move ∨ (other.run session.ordering).Meets kind name move ∨
        (session.step move).MeetsAlong ((other.run session.ordering).step move) kind name moves := by
  have hmatching : ∀ before, other.run (session.matching (move :: before)) =
      ((other.run session.ordering).step move).run ((session.step move).matching before) := by
    intro before
    rw [matching, run_append]
    rfl
  constructor
  · rintro ⟨before, last, hwithin, hmeets⟩
    cases before with
    | nil =>
      obtain ⟨rfl, -⟩ := List.cons_prefix_cons.1 hwithin
      exact hmeets.imp_right .inl
    | cons first before =>
      obtain ⟨rfl, hrest⟩ := List.cons_prefix_cons.1 hwithin
      rw [hmatching] at hmeets
      exact .inr (.inr ⟨before, last, hrest, hmeets⟩)
  · have hfirst : [] ++ [move] <+: move :: moves := List.cons_prefix_cons.2 ⟨rfl, List.nil_prefix⟩
    rintro (hmeets | hmeets | ⟨before, last, hrest, hmeets⟩)
    · exact ⟨[], move, hfirst, .inl hmeets⟩
    · exact ⟨[], move, hfirst, .inr hmeets⟩
    · refine ⟨move :: before, last, List.cons_prefix_cons.2 ⟨rfl, hrest⟩, ?_⟩
      rw [hmatching]
      exact hmeets

instance decidableMeetsAlong (kind : Kind) (name : String) :
    (moves : List Move) → (session other : Session) →
      Decidable (session.MeetsAlong other kind name moves)
  | [], _, _ => isFalse fun ⟨before, _, hwithin, _⟩ =>
      List.append_ne_nil_of_right_ne_nil before (List.cons_ne_nil _ _)
        (List.prefix_nil.1 hwithin)
  | move :: moves, session, other =>
    have := decidableMeetsAlong kind name moves (session.step move)
      ((other.run session.ordering).step move)
    decidable_of_iff _ meetsAlong_cons_iff.symm

theorem tells_iff_not_meets : session.Tells kind name move ↔ ¬ session.Meets kind name move := by
  constructor
  · rintro htells ⟨hintent, entry, hentry, hsettled⟩
    have hknown : ((session.log kind).intendDeregister name).2 = true := by
      rw [Intent.Log.intendDeregister, hentry, Option.isSome_some]
    obtain ⟨found, hfound, hunsettled⟩ := (htells hintent).1 hknown
    rw [← Option.some.inj (hentry.symm.trans hfound), hsettled] at hunsettled
    exact absurd hunsettled Bool.false_ne_true.symm
  · intro hmet hintent
    simp only [Intent.Log.intendDeregister]
    constructor
    · intro hknown
      obtain ⟨entry, hentry⟩ := Option.isSome_iff_exists.1 hknown
      refine ⟨entry, hentry, ?_⟩
      cases hsettled : entry.isSettled with
      | false => rfl
      | true => exact absurd ⟨hintent, entry, hentry, hsettled⟩ hmet
    · rintro ⟨entry, hentry, -⟩
      rw [hentry, Option.isSome_some]

/-- Sessions that differ in leftovers only tell the same. -/
theorem agrees_of_without_eq (hsame : other.without gone = session.without gone) :
    session.Agrees other := by
  constructor
  case journal => exact (congrArg Session.journal hsame).symm
  case isRegistered =>
    intro kind name
    have hregistered :=
      congrArg (fun session : Session => (session.log kind).isRegistered name) hsame
    simp only [log_without, Intent.Log.isRegistered_without] at hregistered
    exact hregistered.symm

/-- The names whose leftovers are left out, if it is only one. -/
def only (kind : Kind) (name : String) : Leftovers :=
  fun other target => other = kind && target = name

theorem Checked.agreesAlong_iff (hsession : session.Checked) (hother : other.Checked)
    (hsame : other.without (only kind name) = session.without (only kind name))
    (moves : List Move) :
    session.AgreesAlong other kind name moves ↔ ¬ session.MeetsAlong other kind name moves := by
  constructor
  · rintro hagrees ⟨before, move, hwithin, hmeets | hmeets⟩
    · exact tells_iff_not_meets.1 (hagrees before move hwithin).1 hmeets
    · exact tells_iff_not_meets.1 (hagrees before move hwithin).2.1 hmeets
  · intro hmet before move hwithin
    have hunmet : ∀ before move, before ++ [move] <+: moves →
        ¬ (session.run before).Meets kind name move ∧
          ¬ (other.run (session.matching before)).Meets kind name move :=
      fun before move hwithin =>
        ⟨fun hmeets => hmet ⟨before, move, hwithin, .inl hmeets⟩,
          fun hmeets => hmet ⟨before, move, hwithin, .inr hmeets⟩⟩
    refine ⟨tells_iff_not_meets.2 (hunmet before move hwithin).1,
      tells_iff_not_meets.2 (hunmet before move hwithin).2, ?_⟩
    apply agrees_of_without_eq
    apply hsession.without_run_matching hother hsame
    intro sooner step hsooner target targeted hgone
    obtain ⟨rfl, rfl⟩ : target = kind ∧ targeted = name := by simpa [only] using hgone
    exact hunmet sooner step (hsooner.trans hwithin)

/-- Whether a name was pruned or not makes a difference just if a deregistration of it meets a
settled entry.  Else the requests, the results and the registrations stay the same, whatever moves
follow, and a deregistration is told rightly whether there is anything to deregister. -/
theorem pruning_invisible_iff (config : Config) (link : Link) (feed : Feed) (earlier : List Move)
    (kind : Kind) (name : String) (moves : List Move) :
    let kept := (ofConfig config link feed).run earlier
    let pruned := kept.modifyLog kind fun log => (log.prune name).1
    (kept.AgreesAlong pruned kind name moves ↔ ¬ kept.MeetsAlong pruned kind name moves) ∧
      (pruned.AgreesAlong kept kind name moves ↔ ¬ pruned.MeetsAlong kept kind name moves) := by
  intro kept pruned
  have hkept : kept.Checked := (checked_ofConfig config link feed).run earlier
  have hpruned : pruned.Checked := hkept.prune kind name
  have hsame : pruned.without (only kind name) = kept.without (only kind name) :=
    kept.without_prune_of_gone (by simp [only])
  exact ⟨hkept.agreesAlong_iff hpruned hsame moves,
    hpruned.agreesAlong_iff hkept hsame.symm moves⟩

/-- An agent is registered and deregistered, and both is acknowledged. -/
def comeAndGone : List Move :=
  [registering 0 "svc-a", acknowledging 0, deregistering 1 "svc-a", acknowledging 1]

/-- Registered anew, the agent is deregistered like one that was not known before. -/
theorem pruning_invisible_iff_renewed :
    let kept := (opened true).run comeAndGone
    let pruned := kept.modifyLog .agent fun log => (log.prune "svc-a").1
    let moves := [registering 2 "svc-a", acknowledging 2, deregistering 3 "svc-a"]
    kept.AgreesAlong pruned .agent "svc-a" moves ∧
      (kept.run moves).requested =
        [.register .agent "svc-a" (.single sampleEndpoint), .withdraw .agent "svc-a" sampleEndpoint,
          .register .agent "svc-a" (.single sampleEndpoint),
          .withdraw .agent "svc-a" sampleEndpoint] := by
  intro kept pruned moves
  have hiff := pruning_invisible_iff {} { isRunning := true } (.ofCapacity 16) comeAndGone .agent
    "svc-a" moves
  exact ⟨hiff.1.2 (by decide +kernel), rfl⟩

/-- If its entry was not pruned yet, another deregistration is pushed to the server. -/
theorem not_forall_pruning_invisible :
    ¬ ∀ (config : Config) (link : Link) (feed : Feed) (earlier : List Move) (kind : Kind)
      (name : String) (entry : Entry kind.Registration) (moves : List Move),
      let kept := (ofConfig config link feed).run earlier
      let pruned := kept.modifyLog kind fun log => (log.prune name).1
      (kept.log kind).find? name = some entry → entry.isSettled = true →
        kept.AgreesAlong pruned kind name moves := by
  intro hall
  have hagrees := hall {} { isRunning := true } (.ofCapacity 16) comeAndGone .agent "svc-a"
    ⟨.single sampleEndpoint, false, false, false⟩ [deregistering 2 "svc-a"] rfl rfl []
    (deregistering 2 "svc-a") (List.prefix_refl _)
  have hsent := congrArg (fun journal => journal.countP fun note => note.2.isSent)
    hagrees.2.2.journal
  exact absurd hsent (by decide)

end Session

end RegistrySession
