import RegistrySession.Proofs.Session.Fates

/-!
# Every entry fares by itself

What a pass does about a name, the requests that it sends and the entry that it leaves, is up to the
entry under the name and to what comes of its own request.
-/

namespace RegistrySession

open Intent (Entry Operation)

namespace Session

variable {session next : Session} {owner : Owner} {kind : Kind} {name : String}
  {conditions : Conditions}

/-! ## One pass -/

/-- Only entries with something left to do call for a request. -/
theorem Conditions.asked_pending (conditions : Conditions) (log : Intent.Log kind.Registration) :
    conditions.asked kind log.pending = if conditions.isOnline then log.demands else [] := by
  rw [Conditions.asked, Intent.Log.demands_pending]

/-- What a pass does not come to has nothing left to do. -/
theorem Handled.find?_of_pending
    (hhandled : Handled conditions owner kind (session.log kind).pending session next)
    (name : String) :
    (next.log kind).find? name =
      ((session.log kind).find? name).bind (conditions.leaves kind name) := by
  rw [hhandled.find?]
  exact (session.log kind).ite_mem_pending name fun _ => Conditions.leaves_of_action_eq_none

/-- A pass comes to the end of a log. -/
theorem served_pending (conditions : Conditions) (kind : Kind) (hfree : session.Free owner)
    (htimeout : session.timeout = conditions.timeout) :
    ∃ next, Handled conditions owner kind (session.log kind).pending session next ∧
      (reconcileLog owner kind conditions.isOnline (reconcileAfter owner conditions.isOnline kind)
          (session.log kind).pending session).served owner conditions.fate
            (conditions.asked kind (session.log kind).pending).length =
        reconcileAfter owner conditions.isOnline kind next := by
  have hsub : (session.log kind).pending.map Prod.fst |>.Sublist
      ((session.log kind).entries.entries.map Prod.fst) :=
    List.filter_sublist.map Prod.fst
  exact served_reconcileLog hfree htimeout (hsub.nodup (session.log kind).entries.nodup)
    fun entry hentry => find?_of_mem_pending hentry

/-- What a pass that begins now goes by. -/
def prospects (session : Session) (fate : Demand → Fate) : Conditions where
  isOnline := session.isOnline
  timeout := session.timeout
  fate

def due (session : Session) : List Demand :=
  if session.isOnline then (session.log .agent).demands ++ (session.log .mcp).demands else []

theorem due_eq_asked (session : Session) (fate : Demand → Fate) :
    session.due = (session.prospects fate).asked .agent (session.log .agent).pending ++
      (session.prospects fate).asked .mcp (session.log .mcp).pending := by
  rw [Conditions.asked_pending, Conditions.asked_pending, due, prospects]
  cases session.isOnline <;> rfl

/-- The session after a pass: every entry fared by itself. -/
structure Fared (conditions : Conditions) (owner : Owner) (session next : Session) : Prop where
  free : next.Free owner
  find? : ∀ kind name, (next.log kind).find? name =
    ((session.log kind).find? name).bind (conditions.leaves kind name)
  requested : next.requested = session.requested ++ session.due

/-- A pass treats every entry by itself. -/
theorem fared_pass (hfree : session.Free owner) (fate : Demand → Fate) {count : Nat}
    (hcount : session.due.length ≤ count) :
    Fared (session.prospects fate) owner session (session.pass owner fate count) := by
  let conditions := session.prospects fate
  obtain ⟨middle, hagents, hfirst⟩ := served_pending conditions .agent hfree rfl
  obtain ⟨last, hservers, hsecond⟩ :=
    served_pending conditions .mcp hagents.free hagents.timeout
  have hagentsLast := hservers.others .agent (by simp)
  have hserversLast := hservers.find?_of_pending
  have hasked := hservers.requested
  have hmcp : middle.log .mcp = session.log .mcp := hagents.others .mcp (by simp)
  rw [hmcp] at hserversLast hasked hsecond
  have hend := Aside.conclude last owner (.done .nothing)
  have hfreeEnd := hend.free hservers.free
  obtain ⟨rest, rfl⟩ := Nat.exists_eq_add_of_le hcount
  -- Behind the agents comes the other log, and behind that nothing.
  have hpass : session.pass owner fate (session.due.length + rest) =
      last.conclude owner (.done .nothing) :=
    calc session.pass owner fate (session.due.length + rest)
        = (((session.startReconcile owner).served owner fate
            (conditions.asked .agent (session.log .agent).pending).length).served owner fate
              (conditions.asked .mcp (session.log .mcp).pending).length).served owner fate
                rest := by
          rw [pass, due_eq_asked session fate, List.length_append, served_add, served_add]
      _ = ((reconcileAfter owner conditions.isOnline .agent middle).served owner fate
            (conditions.asked .mcp (session.log .mcp).pending).length).served owner fate rest := by
          rw [← hfirst]
          rfl
      _ = (last.conclude owner (.done .nothing)).served owner fate rest := by
          rw [reconcileAfter, hmcp]
          exact congrArg (fun session : Session => session.served owner fate rest) hsecond
      _ = last.conclude owner (.done .nothing) := served_of_free hfreeEnd fate rest
  rw [hpass]
  constructor
  case free => exact hfreeEnd
  case find? =>
    intro kind name
    rw [hend.find?]
    cases kind with
    | agent => rw [hagentsLast, hagents.find?_of_pending]
    | mcp => exact hserversLast name
  case requested =>
    rw [hend.requested_eq, hasked, hagents.requested, due_eq_asked session fate, List.append_assoc]

/-! ## One entry -/

/-- What a pass does about a name: the requests that it sends for it, and the entry that it leaves
under it. -/
structure Treatment (kind : Kind) where
  asked : List Demand
  left : Option (Entry kind.Registration)

def treatment (session next : Session) (kind : Kind) (name : String) : Treatment kind where
  asked := (next.requested.drop session.requested.length).filter (Demand.concerns kind name)
  left := (next.log kind).find? name

/-- One request was sent for an entry, which went over into another just if the request was
acknowledged, and else stayed as it was. -/
structure Treatment.HangsOn {kind : Kind} (treatment : Treatment kind) (demand : Demand)
    (isAcknowledged : Bool) (entry done : Entry kind.Registration) : Prop where
  asked : treatment.asked = [demand]
  left_iff : treatment.left = some done ↔ isAcknowledged = true
  left_of_not : isAcknowledged = false → treatment.left = some entry

/-- The session as it would be if a log held the entry of one name only. -/
def alone (session : Session) (kind : Kind) (name : String) : Session :=
  session.modifyLog kind fun log =>
    { log with entries := log.entries.filter fun other _ => other = name }

theorem concerns_of_demand? {entry : Entry kind.Registration} {demand : Demand}
    (hdemand : entry.demand? kind name = some demand) : demand.concerns kind name = true := by
  rcases Intent.Entry.demand?_cases hdemand with ⟨-, rfl⟩ | ⟨-, endpoint, -, rfl⟩
  · exact Demand.concerns_register kind name entry.desired
  · exact Demand.concerns_withdraw kind name endpoint

/-- Of the requests for entries only that of the entry under a name concerns the name. -/
theorem filter_concerns_demands {entries : List (String × Entry kind.Registration)}
    (hnodup : (entries.map Prod.fst).Nodup) (name : String) :
    (Intent.demands kind entries).filter (Demand.concerns kind name) =
      ((Table.lookup name entries).bind (Entry.demand? kind name)).toList := by
  induction entries with
  | nil => rfl
  | cons head entries ih =>
    obtain ⟨target, entry⟩ := head
    rw [List.map_cons, List.nodup_cons] at hnodup
    rw [Intent.demands_cons, List.filter_append, ih hnodup.2, Table.lookup]
    by_cases hname : target = name
    · subst hname
      have habsent : Table.lookup target entries = none := by
        rw [← Option.not_isSome_iff_eq_none, Table.lookup_isSome_iff]
        exact hnodup.1
      rw [habsent, if_pos rfl]
      cases hdemand : entry.demand? kind target with
      | none => simp [hdemand]
      | some demand => simp [hdemand, concerns_of_demand? hdemand]
    · rw [if_neg hname]
      cases hdemand : entry.demand? kind target with
      | none => rfl
      | some demand =>
        have hother : demand.concerns kind name = false := by
          rw [Bool.eq_false_iff]
          intro hconcerns
          exact hname (Demand.eq_of_concerns hconcerns (concerns_of_demand? hdemand)).2
        simp [hother]

/-- The requests for the entries of one log concern no name of the other. -/
theorem filter_concerns_demands_of_ne {other : Kind} (hkind : other ≠ kind)
    (entries : List (String × Entry other.Registration)) (name : String) :
    (Intent.demands other entries).filter (Demand.concerns kind name) = [] := by
  rw [List.filter_eq_nil_iff]
  intro demand hdemand hconcerns
  obtain ⟨entry, -, hentry⟩ := List.mem_filterMap.1 hdemand
  exact hkind (Demand.eq_of_concerns hconcerns (concerns_of_demand? hentry)).1

theorem filter_concerns_due (session : Session) (kind : Kind) (name : String) :
    session.due.filter (Demand.concerns kind name) =
      if session.isOnline then
        (((session.log kind).find? name).bind (Entry.demand? kind name)).toList
      else [] := by
  have hself := filter_concerns_demands (session.log kind).entries.nodup name
  unfold due
  by_cases honline : session.isOnline = true
  · rw [if_pos honline, if_pos honline, List.filter_append]
    cases kind with
    | agent =>
      rw [Intent.Log.demands, Intent.Log.demands, hself,
        filter_concerns_demands_of_ne (by simp), List.append_nil]
      rfl
    | mcp =>
      rw [Intent.Log.demands, Intent.Log.demands, hself,
        filter_concerns_demands_of_ne (by simp), List.nil_append]
      rfl
  · rw [if_neg honline, if_neg honline]
    rfl

/-- What a pass does about a name is up to the entry under the name. -/
theorem treatment_pass (hfree : session.Free owner) (fate : Demand → Fate) {count : Nat}
    (hcount : session.due.length ≤ count) (kind : Kind) (name : String) :
    session.treatment (session.pass owner fate count) kind name =
      { asked :=
          if session.isOnline then
            (((session.log kind).find? name).bind (Entry.demand? kind name)).toList
          else []
        left :=
          ((session.log kind).find? name).bind ((session.prospects fate).leaves kind name) } := by
  have hfared := fared_pass hfree fate hcount
  rw [treatment, hfared.requested, List.drop_left, filter_concerns_due, hfared.find?]

/-- The log with one entry has that entry. -/
theorem find?_alone (session : Session) (kind : Kind) (name : String) :
    ((session.alone kind name).log kind).find? name = (session.log kind).find? name := by
  rw [alone, log_modifyLog_self, Intent.Log.find?, Table.find?_filter, Intent.Log.find?]
  cases (session.log kind).entries.find? name <;> simp

theorem Free.alone (hfree : session.Free owner) (kind : Kind) (name : String) :
    (session.alone kind name).Free owner :=
  ⟨hfree.owner, hfree.fresh⟩

/-- With fewer entries there is less to send. -/
theorem length_due_alone_le (session : Session) (kind : Kind) (name : String) :
    (session.alone kind name).due.length ≤ session.due.length := by
  have hlog : ∀ other, ((session.alone kind name).log other).demands.Sublist
      (session.log other).demands := by
    intro other
    by_cases hkind : other = kind
    · subst hkind
      rw [alone, log_modifyLog_self]
      exact List.filter_sublist.filterMap _
    · rw [alone, log_modifyLog_of_ne _ _ hkind]
  have honline : (session.alone kind name).isOnline = session.isOnline := rfl
  rw [due, due, honline]
  cases session.isOnline with
  | true => exact ((hlog .agent).append (hlog .mcp)).length_le
  | false => exact Nat.le_refl _

/-- Whatever else the logs hold and in whatever order they list it, a pass treats an entry alike. -/
theorem treatment_congr {other : Session} (hfree : session.Free owner)
    (hother : other.Free owner) (honline : other.isOnline = session.isOnline)
    (htimeout : other.timeout = session.timeout)
    (hfound : (other.log kind).find? name = (session.log kind).find? name) (fate : Demand → Fate)
    {count : Nat} (hcount : session.due.length ≤ count) (hcountOther : other.due.length ≤ count) :
    other.treatment (other.pass owner fate count) kind name =
      session.treatment (session.pass owner fate count) kind name := by
  rw [treatment_pass hother fate hcountOther, treatment_pass hfree fate hcount, hfound, prospects,
    prospects, honline, htimeout]

section Found

variable {entry done : Entry kind.Registration} {fate : Demand → Fate} {count : Nat}

/-- A pass sends nothing for an entry without a request, and treats it as the conditions say. -/
theorem treatment_of_quiet (hfree : session.Free owner) (hcount : session.due.length ≤ count)
    (hfound : (session.log kind).find? name = some entry)
    (hquiet : session.isOnline = true → entry.demand? kind name = none) :
    session.treatment (session.pass owner fate count) kind name =
      ⟨[], (session.prospects fate).leaves kind name entry⟩ := by
  rw [treatment_pass hfree fate hcount, hfound, Option.bind_some, Option.bind_some]
  cases honline : session.isOnline with
  | false => rfl
  | true => rw [hquiet honline]; rfl

/-- What is settled is taken out, and nobody is asked. -/
theorem treatment_of_isSettled (hfree : session.Free owner) (hcount : session.due.length ≤ count)
    (hfound : (session.log kind).find? name = some entry) (hsettled : entry.isSettled = true) :
    session.treatment (session.pass owner fate count) kind name = ⟨[], none⟩ := by
  have haction := (Intent.Entry.action_eq_remove_iff entry).2 hsettled
  have hdemand : entry.demand? kind name = none := by rw [Entry.demand?, haction]
  have hgone : entry.afterPass = none := by rw [Entry.afterPass, haction]
  rw [treatment_of_quiet hfree hcount hfound fun _ => hdemand,
    Conditions.leaves_of_isSettled hsettled, hgone]

theorem treatment_of_action_eq_none (hfree : session.Free owner)
    (hcount : session.due.length ≤ count) (hfound : (session.log kind).find? name = some entry)
    (haction : entry.action = none) :
    session.treatment (session.pass owner fate count) kind name = ⟨[], some entry⟩ := by
  have hdemand : entry.demand? kind name = none := by rw [Entry.demand?, haction]
  rw [treatment_of_quiet hfree hcount hfound fun _ => hdemand,
    Conditions.leaves_of_action_eq_none haction]

/-- Offline nothing is asked for, and nothing changes that is not settled. -/
theorem treatment_of_offline (hfree : session.Free owner) (hcount : session.due.length ≤ count)
    (hfound : (session.log kind).find? name = some entry) (hoffline : session.isOnline = false)
    (hsettled : entry.isSettled = false) :
    session.treatment (session.pass owner fate count) kind name = ⟨[], some entry⟩ := by
  have honline : session.isOnline ≠ true := Bool.eq_false_iff.1 hoffline
  rw [treatment_of_quiet hfree hcount hfound fun h => absurd h honline,
    Conditions.leaves_of_not_acknowledges (Conditions.acknowledges_of_offline hoffline) hsettled]

/-- A request that a pass sends for an entry decides what becomes of it. -/
theorem hangsOn_of_demand? (hfree : session.Free owner) (hcount : session.due.length ≤ count)
    (honline : session.isOnline = true) (hfound : (session.log kind).find? name = some entry)
    {demand : Demand} (hdemand : entry.demand? kind name = some demand)
    (hsettled : entry.isSettled = false) (hdone : entry.afterPass = some done)
    (hchanges : done ≠ entry) :
    (session.treatment (session.pass owner fate count) kind name).HangsOn demand
      ((fate demand).isAcknowledged session.timeout) entry done := by
  have hacknowledges : (session.prospects fate).acknowledges kind name entry =
      (fate demand).isAcknowledged session.timeout := by
    rw [Conditions.acknowledges, hdemand, prospects, honline]
    rfl
  rw [treatment_pass hfree fate hcount, hfound, honline, Option.bind_some, Option.bind_some,
    hdemand]
  cases hacknowledged : (fate demand).isAcknowledged session.timeout with
  | true =>
    rw [Conditions.leaves_of_acknowledges (hacknowledges.trans hacknowledged), hdone]
    constructor
    case asked => rfl
    case left_iff => exact iff_of_true rfl rfl
    case left_of_not => exact fun h => absurd h.symm Bool.false_ne_true
  | false =>
    rw [Conditions.leaves_of_not_acknowledges (hacknowledges.trans hacknowledged) hsettled]
    constructor
    case asked => rfl
    case left_iff =>
      exact iff_of_false (fun h => hchanges (Option.some.inj h).symm) Bool.false_ne_true
    case left_of_not => exact fun _ => rfl

/-- A registration hangs on its own acknowledgement only. -/
theorem hangsOn_register (hfree : session.Free owner) (hcount : session.due.length ≤ count)
    (honline : session.isOnline = true) (hfound : (session.log kind).find? name = some entry)
    (haction : entry.action = some .register) :
    let demand := .register kind name entry.desired
    (session.treatment (session.pass owner fate count) kind name).HangsOn demand
      ((fate demand).isAcknowledged session.timeout) entry { entry with isRegistered := true } := by
  intro demand
  obtain ⟨hexpected, hregistered⟩ := (Intent.Entry.action_eq_register_iff entry).1 haction
  have hdemand : entry.demand? kind name = some demand := by rw [Entry.demand?, haction]
  have hsettled : entry.isSettled = false := by simp [Entry.isSettled, hexpected]
  have hdone : entry.afterPass = some { entry with isRegistered := true } := by
    rw [Entry.afterPass, haction]
  refine hangsOn_of_demand? hfree hcount honline hfound hdemand hsettled hdone ?_
  intro hsame
  rw [← hsame] at hregistered
  exact absurd hregistered.symm Bool.false_ne_true

section Withdrawal

variable (hfree : session.Free owner) (hcount : session.due.length ≤ count)
  (honline : session.isOnline = true) (hfound : (session.log kind).find? name = some entry)
  (haction : entry.action = some .deregister) (hdone : entry.afterPass = some done)
include hfree hcount honline hfound haction hdone

theorem hangsOn_withdraw (hsettles : done.isSettled = true) {endpoint : kind.Endpoint}
    (hprimary : kind.primary? entry.desired = some endpoint) :
    let demand := .withdraw kind name endpoint
    (session.treatment (session.pass owner fate count) kind name).HangsOn demand
      ((fate demand).isAcknowledged session.timeout) entry done := by
  intro demand
  have hsettled := ((Intent.Entry.action_eq_deregister_iff entry).1 haction).2
  have hdemand : entry.demand? kind name = some demand := by
    simp only [Entry.demand?, haction, hprimary, Option.map_some, demand]
  refine hangsOn_of_demand? hfree hcount honline hfound hdemand hsettled hdone ?_
  rintro rfl
  exact absurd (hsettled.symm.trans hsettles) Bool.false_ne_true

/-- Without an endpoint there is nothing to withdraw. -/
theorem treatment_of_primary?_eq_none (hprimary : kind.primary? entry.desired = none) :
    session.treatment (session.pass owner fate count) kind name = ⟨[], some done⟩ := by
  have hdemand : entry.demand? kind name = none := by
    simp only [Entry.demand?, haction, hprimary, Option.map_none]
  have hacknowledges : (session.prospects fate).acknowledges kind name entry = true := by
    rw [Conditions.acknowledges, hdemand, prospects, honline]
    rfl
  rw [treatment_of_quiet hfree hcount hfound fun _ => hdemand,
    Conditions.leaves_of_acknowledges hacknowledges, hdone]

end Withdrawal

end Found

/-- A pass that nothing interferes with treats every entry as if it were alone in its log, whatever
comes of each request, whatever else the logs hold and in whatever order they list it.  Online it
tries once for each entry that is to be registered or withdrawn, which is confirmed or settled just
if its own request is acknowledged in time, and stays as it was otherwise; a withdrawal for which no
endpoint is known takes no request.  Offline nothing is sent.  In both cases settled entries go, and
confirmed ones stay as they were. -/
theorem entries_fare_alone (session : Session) (owner : Owner) (hfree : session.Free owner)
    (fate : Demand → Fate) (count : Nat) (hcount : session.due.length ≤ count) :
    let after := session.pass owner fate count
    (∀ flight ∈ after.flights, flight.owner ≠ owner) ∧
    after.requested = session.requested ++ session.due ∧
    ∀ kind name,
      let treatment := session.treatment after kind name
      let alone := session.alone kind name
      alone.treatment (alone.pass owner fate count) kind name = treatment ∧
      (∀ other : Session, other.Free owner → other.isOnline = session.isOnline →
        other.timeout = session.timeout →
        (other.log kind).find? name = (session.log kind).find? name → other.due.length ≤ count →
        other.treatment (other.pass owner fate count) kind name = treatment) ∧
      ((session.log kind).find? name = none → treatment = ⟨[], none⟩) ∧
      ∀ entry, (session.log kind).find? name = some entry →
        (entry.isSettled = true → treatment = ⟨[], none⟩) ∧
        (entry.action = none → treatment = ⟨[], some entry⟩) ∧
        (session.isOnline = false → entry.isSettled = false → treatment = ⟨[], some entry⟩) ∧
        (session.isOnline = true → entry.action = some .register →
          let demand := .register kind name entry.desired
          treatment.HangsOn demand ((fate demand).isAcknowledged session.timeout) entry
            { entry with isRegistered := true }) ∧
        (session.isOnline = true → entry.action = some .deregister →
          let settled := { entry with isRegistered := false, isUnregistering := false }
          settled.isSettled = true ∧
          match kind.primary? entry.desired with
          | some endpoint =>
            let demand := .withdraw kind name endpoint
            treatment.HangsOn demand ((fate demand).isAcknowledged session.timeout) entry settled
          | none => treatment = ⟨[], some settled⟩) := by
  intro after
  have hfared := fared_pass hfree fate hcount
  refine ⟨hfared.free.owner, hfared.requested, fun kind name => ?_⟩
  intro treatment alone
  have halike : ∀ other : Session, other.Free owner → other.isOnline = session.isOnline →
      other.timeout = session.timeout →
      (other.log kind).find? name = (session.log kind).find? name → other.due.length ≤ count →
      other.treatment (other.pass owner fate count) kind name = treatment :=
    fun other hother honline htimeout hfound hcountOther =>
      treatment_congr hfree hother honline htimeout hfound fate hcount hcountOther
  refine ⟨halike alone (hfree.alone kind name) rfl rfl (session.find?_alone kind name)
    ((session.length_due_alone_le kind name).trans hcount), halike, fun habsent => ?_,
    fun entry hfound => ⟨treatment_of_isSettled hfree hcount hfound,
      treatment_of_action_eq_none hfree hcount hfound,
      treatment_of_offline hfree hcount hfound,
      fun honline => hangsOn_register hfree hcount honline hfound, ?_⟩⟩
  · change session.treatment after kind name = _
    rw [treatment_pass hfree fate hcount, habsent]
    cases session.isOnline <;> rfl
  · intro honline haction settled
    have hexpected := ((Intent.Entry.action_eq_deregister_iff entry).1 haction).1
    have hdone : entry.afterPass = some settled := by rw [Entry.afterPass, haction]
    have hsettles : settled.isSettled = true := by simp [settled, Entry.isSettled, hexpected]
    refine ⟨hsettles, ?_⟩
    cases hprimary : kind.primary? entry.desired with
    | some endpoint =>
      exact hangsOn_withdraw hfree hcount honline hfound haction hdone hsettles hprimary
    | none => exact treatment_of_primary?_eq_none hfree hcount honline hfound haction hdone hprimary

/-- Two agents to be registered, two to be withdrawn, one of them without endpoints, two servers to
be registered, and one that is settled. -/
def assortedHistory : (kind : Kind) → List (Operation kind.Registration)
  | .agent =>
    [.intendRegister "svc-a" (Agent.Registration.single sampleEndpoint),
      .intendRegister "svc-b" (Agent.Registration.single sampleEndpoint),
      .intendRegister "svc-c" (Agent.Registration.single sampleEndpoint), .intendDeregister "svc-c",
      .intendRegister "svc-d" (Agent.Registration.batch []), .intendDeregister "svc-d"]
  | .mcp =>
    [.intendRegister "svc-e" { address := "10.0.0.1", port := 9000, version := none },
      .intendRegister "svc-f" { address := "10.0.0.2", port := 9000, version := none },
      .intendRegister "svc-g" { address := "10.0.0.3", port := 9000, version := none },
      .intendDeregister "svc-g", .confirmDeregistered "svc-g" 0]

def assorted : Session :=
  { opened true with
    ledger :=
      { isConnected := true
        logs := .ofFn fun kind => Intent.Log.empty.replay (assortedHistory kind) } }

/-- One request is acknowledged; of the others one breaks down, one is refused, one is answered with
the wrong response, and one too late. -/
def assortedFate : Demand → Fate
  | .register .agent name _ =>
    if name = "svc-a" then ⟨10, .response .acknowledged⟩ else ⟨5, .breakdown⟩
  | .withdraw .agent .. => ⟨0, .response (.failed .serverError "boom")⟩
  | .register .mcp name _ =>
    if name = "svc-e" then ⟨20, .response (.released "1")⟩
    else ⟨Millis.longest + 1, .response .acknowledged⟩
  | _ => ⟨0, .failure (.transport "closed")⟩

theorem entries_fare_alone_assorted :
    let after := assorted.pass (.run .reconcile 0) assortedFate 5
    after.requested.length = 5 ∧
      ((after.log .agent).find? "svc-a").any Entry.isRegistered = true ∧
      (after.log .agent).find? "svc-b" = (assorted.log .agent).find? "svc-b" ∧
      (after.log .agent).find? "svc-c" = (assorted.log .agent).find? "svc-c" ∧
      ((after.log .agent).find? "svc-d").any Entry.isSettled = true ∧
      (after.log .mcp).find? "svc-e" = (assorted.log .mcp).find? "svc-e" ∧
      (after.log .mcp).find? "svc-f" = (assorted.log .mcp).find? "svc-f" ∧
      (after.log .mcp).find? "svc-g" = none := by
  have hfree : assorted.Free (.run .reconcile 0) :=
    ⟨fun _ h => absurd h List.not_mem_nil, fun _ h => absurd h List.not_mem_nil⟩
  have hdue : assorted.due.length = 5 := by decide +kernel
  have honline : assorted.isOnline = true := rfl
  obtain ⟨-, hrequested, htreated⟩ :=
    entries_fare_alone assorted (.run .reconcile 0) hfree assortedFate 5 (Nat.le_of_eq hdue)
  have hregister := fun kind name entry hfound =>
    ((htreated kind name).2.2.2 entry hfound).2.2.2.1 honline
  have hwithdraw := fun kind name entry hfound =>
    ((htreated kind name).2.2.2 entry hfound).2.2.2.2 honline
  have hfirst : (assorted.log .agent).find? "svc-a" =
      some (.ofIntent (Agent.Registration.single sampleEndpoint)) := by decide +kernel
  have hsecond : (assorted.log .agent).find? "svc-b" =
      some (.ofIntent (Agent.Registration.single sampleEndpoint)) := by decide +kernel
  have hthird : (assorted.log .agent).find? "svc-c" =
      some ⟨Agent.Registration.single sampleEndpoint, false, true, false⟩ := by decide +kernel
  have hfourth : (assorted.log .agent).find? "svc-d" =
      some ⟨Agent.Registration.batch [], false, true, false⟩ := by decide +kernel
  have hfifth : (assorted.log .mcp).find? "svc-e" =
      some (.ofIntent ⟨"10.0.0.1", 9000, none⟩) := by decide +kernel
  have hsixth : (assorted.log .mcp).find? "svc-f" =
      some (.ofIntent ⟨"10.0.0.2", 9000, none⟩) := by decide +kernel
  have hseventh : (assorted.log .mcp).find? "svc-g" =
      some ⟨⟨"10.0.0.3", 9000, none⟩, false, false, false⟩ := by decide +kernel
  refine ⟨?_, ?_, ?_, ?_, ?_, ?_, ?_, ?_⟩
  · rw [hrequested, List.length_append, hdue]
    rfl
  · have hdone := (hregister .agent "svc-a" _ hfirst rfl).left_iff.2 (by decide +kernel)
    exact congrArg (fun found => found.any Entry.isRegistered) hdone
  · have hstays := (hregister .agent "svc-b" _ hsecond rfl).left_of_not (by decide +kernel)
    exact hstays.trans hsecond.symm
  · have hstays := (hwithdraw .agent "svc-c" _ hthird rfl).2.left_of_not (by decide +kernel)
    exact hstays.trans hthird.symm
  · have hdone := (hwithdraw .agent "svc-d" _ hfourth rfl).2
    exact congrArg (fun treatment => treatment.left.any Entry.isSettled) hdone
  · have hstays := (hregister .mcp "svc-e" _ hfifth rfl).left_of_not (by decide +kernel)
    exact hstays.trans hfifth.symm
  · have hstays := (hregister .mcp "svc-f" _ hsixth rfl).left_of_not (by decide +kernel)
    exact hstays.trans hsixth.symm
  · have hgone := ((htreated .mcp "svc-g").2.2.2 _ hseventh).1 rfl
    exact congrArg Treatment.left hgone

end Session

end RegistrySession
