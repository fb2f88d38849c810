import Mathlib.Data.List.Nodup
import RegistrySession.Proofs.Subscriptions.Turns

/-!
# Who is listed

The listeners of a key are those that were registered since they were last taken off, in the order
in which they first were, and a key that nobody is registered on is not stored at all.  This holds
after every act, within the calls of listeners as well as between them.
-/

namespace RegistrySession

variable {ℓ ε : Type}

namespace Subscriptions

/-! ## Single operations -/

/-- No key is stored that nobody is registered on. -/
def Filled (subscriptions : Subscriptions ℓ) : Prop :=
  ∀ key, subscriptions.handles.find? key ≠ some []

theorem Filled.markReached {subscriptions : Subscriptions ℓ} (hfilled : subscriptions.Filled)
    (handle : Handle ℓ) : (subscriptions.markReached handle).Filled := by
  intro key
  rw [handles_markReached]
  exact hfilled key

variable [DecidableEq ℓ]

/-- A listener that is registered already stays where it is. -/
theorem register_of_handle? {subscriptions : Subscriptions ℓ} {key : Key} {listener : ℓ}
    {handle : Handle ℓ} (h : subscriptions.handle? key listener = some handle) :
    subscriptions.register key listener = (subscriptions, handle) := by
  simp only [register, h]

/-- That the key is listed during the preparation makes no difference in the end. -/
theorem attempt_ok {κ σ : Type} (subscriptions : Subscriptions ℓ) (key : Key) (listener : ℓ)
    (made : σ) :
    subscriptions.attempt key listener (.ok made : Except κ σ) =
      ((subscriptions.register key listener).1,
        .ok (made, (subscriptions.register key listener).2)) := by
  have hentered : (subscriptions.enter key).register key listener =
      subscriptions.register key listener := by
    unfold enter
    cases hfound : subscriptions.handles.find? key with
    | some handles => rfl
    | none => simp [register, handle?, handlesOf, hfound, Table.insert_insert]
  simp only [attempt, hentered]

/-- A new listener is listed as the last of its key, and no other key changes. -/
theorem find?_register_of_absent {subscriptions : Subscriptions ℓ} {key : Key} {listener : ℓ}
    (h : subscriptions.handle? key listener = none) (other : Key) :
    (subscriptions.register key listener).1.handles.find? other =
      if other = key then some (subscriptions.handlesOf key ++ [⟨subscriptions.next, listener⟩])
      else subscriptions.handles.find? other := by
  simp only [register, h, Table.find?_insert]

namespace Filled

variable {subscriptions : Subscriptions ℓ}

/-- A preparation that fails leaves no trace. -/
theorem attempt_error {κ σ : Type} (hfilled : subscriptions.Filled) (key : Key) (listener : ℓ)
    (error : κ) :
    subscriptions.attempt key listener (.error error : Except κ σ) =
      (subscriptions, .error error) := by
  simp only [attempt, vacate_enter (hfilled key)]

theorem register (hfilled : subscriptions.Filled) (key : Key) (listener : ℓ) :
    (subscriptions.register key listener).1.Filled := by
  cases hfound : subscriptions.handle? key listener with
  | some handle => rwa [register_of_handle? hfound]
  | none =>
    intro other
    rw [find?_register_of_absent hfound]
    by_cases hother : other = key
    · simp [hother]
    · rw [if_neg hother]
      exact hfilled other

theorem deregister (hfilled : subscriptions.Filled) (key : Key) (listener : ℓ) :
    (subscriptions.deregister key listener).1.Filled := by
  intro other
  rw [find?_deregister]
  by_cases hother : other = key
  · rw [if_pos hother]
    by_cases hnobody : subscriptions.remaining key listener = []
    · rw [if_pos hnobody]
      exact (Option.some_ne_none _).symm
    · rw [if_neg hnobody]
      exact fun hnil => hnobody (Option.some.inj hnil)
  · rw [if_neg hother]
    exact hfilled other

/-- Taking a listener off tells whether the key is left to nobody, and whether it was this that left
it so. -/
theorem departure_deregister (hfilled : subscriptions.Filled) (key : Key) (listener : ℓ) :
    ((subscriptions.deregister key listener).2.isVacant = true ↔
      (subscriptions.deregister key listener).1.handlesOf key = []) ∧
    ((subscriptions.deregister key listener).2.isLast = true ↔
      subscriptions.handlesOf key ≠ [] ∧
        (subscriptions.deregister key listener).1.handlesOf key = []) := by
  rw [handlesOf_deregister, if_pos rfl, remaining, handlesOf]
  cases hfound : subscriptions.handles.find? key with
  | none => simp [Subscriptions.deregister, hfound]
  | some handles =>
    have hsomebody : handles ≠ [] := fun hnil => hfilled key (hnil ▸ hfound)
    simp only [Subscriptions.deregister, hfound, Option.getD_some, List.isEmpty_iff]
    generalize (handles.filter fun handle => handle.listener ≠ listener) = kept
    by_cases hnobody : kept = []
    · simp [hnobody, hsomebody]
    · simp [hnobody]

end Filled

end Subscriptions

namespace Callback

variable [DecidableEq ℓ]

/-! ## Since when a listener is registered -/

/-- The number of acts that went before the first registration of a listener on a key since the last
removal, in a past with the newest act first. -/
def since? (key : Key) (listener : ℓ) : List (Act ℓ ε) → Option Nat
  | [] => none
  | .registered other newcomer :: past =>
    if other = key ∧ newcomer = listener then (since? key listener past).or (some past.length)
    else since? key listener past
  | .deregistered other leaver :: past =>
    if other = key ∧ leaver = listener then none else since? key listener past
  | _ :: past => since? key listener past

theorem since?_lt_length {key : Key} {listener : ℓ} {past : List (Act ℓ ε)} {moment : Nat}
    (h : since? key listener past = some moment) : moment < past.length := by
  induction past generalizing moment with
  | nil => exact absurd h.symm (Option.some_ne_none _)
  | cons act past ih =>
    have hold : since? key listener past = some moment → moment < (act :: past).length :=
      fun hsince => (ih hsince).trans (Nat.lt_succ_self _)
    cases act with
    | registered other newcomer =>
      rw [since?] at h
      by_cases hpair : other = key ∧ newcomer = listener
      · rw [if_pos hpair] at h
        rcases Option.or_eq_some_iff.1 h with hsince | ⟨-, hnow⟩
        · exact hold hsince
        · exact Option.some.inj hnow ▸ Nat.lt_succ_self _
      · rw [if_neg hpair] at h
        exact hold h
    | deregistered other leaver =>
      rw [since?] at h
      by_cases hpair : other = key ∧ leaver = listener
      · rw [if_pos hpair] at h
        exact absurd h.symm (Option.some_ne_none _)
      · rw [if_neg hpair] at h
        exact hold h
    | refused other listener => exact hold h
    | called handle event => exact hold h
    | returned isSound => exact hold h

/-- One listener was registered on a key before the other, and both still are. -/
def Precedes (past : List (Act ℓ ε)) (key : Key) (first second : Handle ℓ) : Prop :=
  ∃ earlier later, since? key first.listener past = some earlier ∧
    since? key second.listener past = some later ∧ earlier < later

theorem Precedes.congr {past other : List (Act ℓ ε)} {key : Key} {first second : Handle ℓ}
    (h : Precedes past key first second)
    (hfirst : since? key first.listener other = since? key first.listener past)
    (hsecond : since? key second.listener other = since? key second.listener past) :
    Precedes other key first second := by
  obtain ⟨earlier, later, hearlier, hlater, hlt⟩ := h
  exact ⟨earlier, later, hfirst.trans hearlier, hsecond.trans hlater, hlt⟩

/-- The subscriptions that a past has led to. -/
structure Listed (subscriptions : Subscriptions ℓ) (past : List (Act ℓ ε)) : Prop where
  filled : subscriptions.Filled
  present : ∀ key listener, (since? key listener past).isSome ↔
    ∃ handle ∈ subscriptions.handlesOf key, handle.listener = listener
  ordered : ∀ key, (subscriptions.handlesOf key).Pairwise (Precedes past key)

theorem listed_empty : Listed .empty ([] : List (Act ℓ ε)) :=
  ⟨fun _ => (Option.some_ne_none _).symm,
    fun _ _ => by simp [since?, Subscriptions.handlesOf, Subscriptions.empty],
    fun _ => List.Pairwise.nil⟩

namespace Listed

variable {subscriptions : Subscriptions ℓ} {past : List (Act ℓ ε)}

/-- A key has one handle for each listener at most. -/
theorem nodup (hlisted : Listed subscriptions past) (key : Key) :
    ((subscriptions.handlesOf key).map Handle.listener).Nodup := by
  refine List.pairwise_map.2 ((hlisted.ordered key).imp ?_)
  rintro first second ⟨earlier, later, hfirst, hsecond, hlt⟩ hsame
  rw [hsame, hsecond] at hfirst
  exact hlt.ne (Option.some.inj hfirst).symm

/-- Acts that change neither who is listed nor since when. -/
theorem congr {after : Subscriptions ℓ} {later : List (Act ℓ ε)}
    (hlisted : Listed subscriptions past) (hfilled : after.Filled)
    (hhandles : ∀ key, after.handlesOf key = subscriptions.handlesOf key)
    (hsince : ∀ key listener, since? key listener later = since? key listener past) :
    Listed after later where
  filled := hfilled
  present key listener := by
    rw [hsince, hhandles]
    exact hlisted.present key listener
  ordered key := by
    rw [hhandles]
    exact (hlisted.ordered key).imp fun hprecedes => hprecedes.congr (hsince _ _) (hsince _ _)

/-- Whoever was not registered last is not listed. -/
theorem since?_eq_none_iff (hlisted : Listed subscriptions past) (key : Key) (listener : ℓ) :
    since? key listener past = none ↔ subscriptions.handle? key listener = none := by
  rw [← Option.not_isSome_iff_eq_none, hlisted.present]
  simp [Subscriptions.handle?]

theorem register (hlisted : Listed subscriptions past) (key : Key) (listener : ℓ) :
    Listed (subscriptions.register key listener).1 (.registered key listener :: past) := by
  have hothers : ∀ other newcomer, ¬ (key = other ∧ listener = newcomer) →
      since? other newcomer (.registered key listener :: past) = since? other newcomer past :=
    fun other newcomer hother => by rw [since?, if_neg hother]
  have hself : since? key listener (.registered key listener :: past) =
      (since? key listener past).or (some past.length) := by rw [since?, if_pos ⟨rfl, rfl⟩]
  cases hfound : subscriptions.handle? key listener with
  | some handle =>
    rw [Subscriptions.register_of_handle? hfound]
    refine hlisted.congr hlisted.filled (fun _ => rfl) fun other newcomer => ?_
    by_cases hpair : key = other ∧ listener = newcomer
    · obtain ⟨rfl, rfl⟩ := hpair
      have hsince : since? key listener past ≠ none := fun hnone =>
        absurd (((hlisted.since?_eq_none_iff key listener).1 hnone).symm.trans hfound)
          (Option.some_ne_none _).symm
      obtain ⟨moment, hmoment⟩ := Option.ne_none_iff_exists'.1 hsince
      rw [hself, hmoment, Option.some_or]
    · exact hothers other newcomer hpair
  | none =>
    -- The new handle comes last, and its moment is later than all that there are.
    have hnow : since? key listener (.registered key listener :: past) = some past.length := by
      rw [hself, (hlisted.since?_eq_none_iff key listener).2 hfound, Option.none_or]
    have hhandles : ∀ other, (subscriptions.register key listener).1.handlesOf other =
        if other = key then subscriptions.handlesOf key ++ [⟨subscriptions.next, listener⟩]
        else subscriptions.handlesOf other := fun other => by
      rw [Subscriptions.handlesOf, Subscriptions.register, hfound]
      exact Subscriptions.getD_find?_insert subscriptions.handles key _ other
    have habsent : ∀ handle ∈ subscriptions.handlesOf key, handle.listener ≠ listener := by
      simpa [Subscriptions.handle?] using hfound
    have hkept : ∀ handle ∈ subscriptions.handlesOf key,
        since? key handle.listener (.registered key listener :: past) =
          since? key handle.listener past := fun handle hhandle =>
      hothers key handle.listener fun hpair => habsent handle hhandle hpair.2.symm
    constructor
    case filled => exact hlisted.filled.register key listener
    case present =>
      intro other newcomer
      by_cases hpair : key = other ∧ listener = newcomer
      · obtain ⟨rfl, rfl⟩ := hpair
        simp [hnow, hhandles]
      · rw [hothers other newcomer hpair, hlisted.present, hhandles]
        by_cases hother : other = key
        · have hnew : listener ≠ newcomer := fun hsame => hpair ⟨hother.symm, hsame⟩
          simp [hother, hnew]
        · rw [if_neg hother]
    case ordered =>
      intro other
      rw [hhandles]
      by_cases hother : other = key
      · subst hother
        rw [if_pos rfl]
        refine List.pairwise_append.2 ⟨?_, List.pairwise_singleton _ _, ?_⟩
        · exact (hlisted.ordered other).imp_of_mem fun hfirst hsecond hprecedes =>
            hprecedes.congr (hkept _ hfirst) (hkept _ hsecond)
        · intro old hold new hnew
          obtain rfl := List.mem_singleton.1 hnew
          obtain ⟨moment, hmoment⟩ := Option.isSome_iff_exists.1
            ((hlisted.present other old.listener).2 ⟨old, hold, rfl⟩)
          exact ⟨moment, past.length, (hkept old hold).trans hmoment, hnow,
            since?_lt_length hmoment⟩
      · rw [if_neg hother]
        have hsince : ∀ handle : Handle ℓ, since? other handle.listener
            (.registered key listener :: past) = since? other handle.listener past :=
          fun handle => hothers other _ fun hpair => hother hpair.1.symm
        exact (hlisted.ordered other).imp fun hprecedes => hprecedes.congr (hsince _) (hsince _)

theorem deregister (hlisted : Listed subscriptions past) (key : Key) (listener : ℓ) :
    Listed (subscriptions.deregister key listener).1 (.deregistered key listener :: past) := by
  have hothers : ∀ other leaver, ¬ (key = other ∧ listener = leaver) →
      since? other leaver (.deregistered key listener :: past) = since? other leaver past :=
    fun other leaver hother => by rw [since?, if_neg hother]
  have hself : since? key listener (.deregistered key listener :: past) = none := by
    rw [since?, if_pos ⟨rfl, rfl⟩]
  have hhandles := subscriptions.handlesOf_deregister key listener
  constructor
  case filled => exact hlisted.filled.deregister key listener
  case present =>
    intro other leaver
    by_cases hpair : key = other ∧ listener = leaver
    · obtain ⟨rfl, rfl⟩ := hpair
      simp [hself, hhandles, Subscriptions.remaining]
    · rw [hothers other leaver hpair, hlisted.present, hhandles]
      by_cases hother : other = key
      · have hleaver : leaver ≠ listener := fun hsame => hpair ⟨hother.symm, hsame.symm⟩
        subst hother
        rw [if_pos rfl]
        constructor
        · rintro ⟨handle, hhandle, rfl⟩
          exact ⟨handle, List.mem_filter.2 ⟨hhandle, decide_eq_true hleaver⟩, rfl⟩
        · rintro ⟨handle, hhandle, rfl⟩
          exact ⟨handle, List.mem_of_mem_filter hhandle, rfl⟩
      · rw [if_neg hother]
  case ordered =>
    intro other
    rw [hhandles]
    by_cases hother : other = key
    · subst hother
      rw [if_pos rfl]
      have hkept : ∀ handle ∈ subscriptions.remaining other listener,
          since? other handle.listener (.deregistered other listener :: past) =
            since? other handle.listener past := fun handle hhandle =>
        hothers other _ fun hpair => of_decide_eq_true (List.mem_filter.1 hhandle).2 hpair.2.symm
      exact ((hlisted.ordered other).sublist List.filter_sublist).imp_of_mem
        fun hfirst hsecond hprecedes => hprecedes.congr (hkept _ hfirst) (hkept _ hsecond)
    · rw [if_neg hother]
      have hsince : ∀ handle : Handle ℓ, since? other handle.listener
          (.deregistered key listener :: past) = since? other handle.listener past :=
        fun handle => hothers other _ fun hpair => hother hpair.1.symm
      exact (hlisted.ordered other).imp fun hprecedes => hprecedes.congr (hsince _) (hsince _)

/-- Every act leaves the subscriptions as its past says. -/
theorem enact {scene : Scene ℓ ε} (hlisted : Listed scene.subscriptions scene.past)
    (act : Act ℓ ε) : Listed (scene.enact act).subscriptions (scene.enact act).past := by
  cases act with
  | registered key listener => exact hlisted.register key listener
  | refused key listener =>
    have hsame : scene.subscriptions.attempt key listener (.error () : Except Unit Unit) =
        (scene.subscriptions, .error ()) := hlisted.filled.attempt_error key listener ()
    have hsubscriptions : (scene.enact (.refused key listener)).subscriptions =
        scene.subscriptions := congrArg Prod.fst hsame
    rw [hsubscriptions]
    exact hlisted.congr hlisted.filled (fun _ => rfl) fun _ _ => rfl
  | deregistered key listener => exact hlisted.deregister key listener
  | called handle event =>
    exact hlisted.congr (hlisted.filled.markReached handle)
      (scene.subscriptions.handlesOf_markAll [handle]) fun _ _ => rfl
  | returned isSound => exact hlisted.congr hlisted.filled (fun _ => rfl) fun _ _ => rfl

theorem replay {scene : Scene ℓ ε} (hlisted : Listed scene.subscriptions scene.past)
    (acts : List (Act ℓ ε)) :
    Listed (scene.replay acts).subscriptions (scene.replay acts).past := by
  induction acts generalizing scene with
  | nil => exact hlisted
  | cons act acts ih => exact ih (hlisted.enact act)

theorem handle?_of_mem (hlisted : Listed subscriptions past) {key : Key} {handle : Handle ℓ}
    (hhandle : handle ∈ subscriptions.handlesOf key) :
    subscriptions.handle? key handle.listener = some handle := by
  have hsome : (subscriptions.handle? key handle.listener).isSome :=
    List.find?_isSome.2 ⟨handle, hhandle, decide_eq_true rfl⟩
  obtain ⟨found, hfound⟩ := Option.isSome_iff_exists.1 hsome
  have hfits := List.find?_some hfound
  have hsame : found.listener = handle.listener := of_decide_eq_true hfits
  rw [hfound, List.inj_on_of_nodup_map (hlisted.nodup key) (List.mem_of_find?_eq_some hfound)
    hhandle hsame]

end Listed

/-- How the operations answer in subscriptions that list nobody twice. -/
structure Answers (subscriptions : Subscriptions ℓ) : Prop where
  /-- A listener that is registered already keeps its handle, and nothing changes. -/
  again : ∀ key, ∀ handle ∈ subscriptions.handlesOf key,
    subscriptions.register key handle.listener = (subscriptions, handle)
  /-- A preparation that goes well comes before a plain registration. -/
  prepared : ∀ (κ σ : Type) key listener (made : σ),
    subscriptions.attempt key listener (.ok made : Except κ σ) =
      ((subscriptions.register key listener).1,
        .ok (made, (subscriptions.register key listener).2))
  /-- Nothing is left of a registration whose preparation fails. -/
  refused : ∀ (κ σ : Type) key listener (error : κ),
    subscriptions.attempt key listener (.error error : Except κ σ) = (subscriptions, .error error)
  vacant : ∀ key listener, (subscriptions.deregister key listener).2.isVacant = true ↔
    (subscriptions.deregister key listener).1.handlesOf key = []
  last : ∀ key listener, (subscriptions.deregister key listener).2.isLast = true ↔
    subscriptions.handlesOf key ≠ [] ∧
      (subscriptions.deregister key listener).1.handlesOf key = []

theorem Listed.answers {subscriptions : Subscriptions ℓ} {past : List (Act ℓ ε)}
    (hlisted : Listed subscriptions past) : Answers subscriptions where
  again _ _ hhandle := Subscriptions.register_of_handle? (hlisted.handle?_of_mem hhandle)
  prepared _ _ key listener made := subscriptions.attempt_ok key listener made
  refused _ _ key listener error := hlisted.filled.attempt_error key listener error
  vacant key listener := (hlisted.filled.departure_deregister key listener).1
  last key listener := (hlisted.filled.departure_deregister key listener).2

def Scene.fresh : Scene ℓ ε := { subscriptions := .empty }

/-- Whatever is played is a row of acts, and after every row of acts a key has one handle for each
listener that was registered since it was last taken off, in the order in which they first were. No
key is stored without a listener, and the operations answer as this makes them answer. -/
theorem listed_after_every_act (behaviour : Scene ℓ ε → ℓ → ε → List (Callback ℓ ε))
    (callbacks : List (Callback ℓ ε)) :
    (∀ fuel outcome, play behaviour fuel callbacks .fresh = some outcome →
      outcome.1 = Scene.fresh.replay outcome.1.past.reverse) ∧
    ∀ acts : List (Act ℓ ε),
      let subscriptions := (Scene.fresh.replay acts).subscriptions
      Listed subscriptions acts.reverse ∧
      (∀ key, ((subscriptions.handlesOf key).map Handle.listener).Nodup) ∧
      Answers subscriptions := by
  constructor
  · intro fuel outcome hplay
    obtain ⟨acts, -, hacts⟩ := exists_replay hplay
    have hpast : outcome.1.past = acts.reverse := by
      rw [hacts, Scene.past_replay]
      exact List.append_nil _
    rw [hpast, List.reverse_reverse]
    exact hacts
  · intro acts
    have hlisted : Listed (Scene.fresh.replay acts).subscriptions acts.reverse := by
      have hpast : (Scene.fresh.replay acts).past = acts.reverse :=
        (Scene.past_replay _ acts).trans (List.append_nil _)
      rw [← hpast]
      exact listed_empty.replay acts
    exact ⟨hlisted, hlisted.nodup, hlisted.answers⟩

/-- Registrations and removals around a dispatch whose listeners do the same. -/
def bustle : List (Callback Nat String) :=
  [.register default 0, .register default 1, .tryRegister default 3 true, .register default 0,
    .dispatch default "news", .register default 1]

/-- The second listener, which was taken off meanwhile, comes last when it is back. -/
theorem listed_after_every_act_bustle :
    ∃ outcome, play restless 20 bustle .fresh = some outcome ∧
      outcome.1 = Scene.fresh.replay outcome.1.past.reverse ∧
      Listed outcome.1.subscriptions outcome.1.past ∧
      outcome.1.subscriptions.handlesOf default = [⟨0, 0⟩, ⟨2, 2⟩, ⟨3, 1⟩] := by
  have hplay : (play restless 20 bustle .fresh).isSome := by decide
  obtain ⟨hacts, hlisted⟩ := listed_after_every_act restless bustle
  have hend := hacts 20 _ (Option.some_get hplay).symm
  refine ⟨_, (Option.some_get hplay).symm, hend, ?_, rfl⟩
  rw [hend, Scene.past_replay]
  exact (hlisted _).1

end Callback

end RegistrySession
