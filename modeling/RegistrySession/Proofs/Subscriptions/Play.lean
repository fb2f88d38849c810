import RegistrySession.Proofs.Watchlist.Announcement
import RegistrySession.Subscriptions.Callback

/-!
# Plays

What listeners do that call back is a list of acts in which calls open and close like brackets.
A play ends in the scene that its acts lead to, whatever becomes of the calls in it, and with more
fuel it ends no differently.
-/

namespace RegistrySession

variable {ℓ ε : Type}

/-! ## Registrations that are refused -/

namespace Subscriptions

@[simp]
theorem reached_enter (subscriptions : Subscriptions ℓ) (key : Key) :
    (subscriptions.enter key).reached = subscriptions.reached := by
  unfold enter
  cases subscriptions.handles.find? key <;> rfl

@[simp]
theorem reached_vacate (subscriptions : Subscriptions ℓ) (key : Key) :
    (subscriptions.vacate key).reached = subscriptions.reached := by
  unfold vacate
  cases subscriptions.handles.find? key with
  | none => rfl
  | some handles => cases handles <;> rfl

/-- A key that was new is as new as before. -/
theorem vacate_enter {subscriptions : Subscriptions ℓ} {key : Key}
    (hfilled : subscriptions.handles.find? key ≠ some []) :
    (subscriptions.enter key).vacate key = subscriptions := by
  unfold enter
  cases hfound : subscriptions.handles.find? key with
  | some handles =>
    cases handles with
    | nil => exact absurd hfound hfilled
    | cons first handles => simp [vacate, hfound]
  | none => simp [vacate, Table.erase_insert hfound]

variable [DecidableEq ℓ]

theorem reached_attempt {κ σ : Type} (subscriptions : Subscriptions ℓ) (key : Key) (listener : ℓ)
    (preparation : Except κ σ) :
    (subscriptions.attempt key listener preparation).1.reached = subscriptions.reached := by
  cases preparation with
  | error error => simp [attempt]
  | ok made => simp [attempt, reached_register]

end Subscriptions

namespace Callback

/-! ## Calls within calls -/

/-- Acts in which every call that begins comes to its end. -/
inductive Whole : List (Act ℓ ε) → Prop
  | nil : Whole []
  | registered {acts : List (Act ℓ ε)} (key : Key) (listener : ℓ) (hacts : Whole acts) :
      Whole (.registered key listener :: acts)
  | refused {acts : List (Act ℓ ε)} (key : Key) (listener : ℓ) (hacts : Whole acts) :
      Whole (.refused key listener :: acts)
  | deregistered {acts : List (Act ℓ ε)} (key : Key) (listener : ℓ) (hacts : Whole acts) :
      Whole (.deregistered key listener :: acts)
  | call {inner acts : List (Act ℓ ε)} (handle : Handle ℓ) (event : ε) (isSound : Bool)
      (hinner : Whole inner) (hacts : Whole acts) :
      Whole (.called handle event :: (inner ++ .returned isSound :: acts))

/-- The calls that are begun while none goes on, where `depth` calls go on at first. -/
def outermost : Nat → List (Act ℓ ε) → List (Handle ℓ × ε)
  | _, [] => []
  | 0, .called handle event :: acts => (handle, event) :: outermost 1 acts
  | depth + 1, .called _ _ :: acts => outermost (depth + 2) acts
  | depth, .returned _ :: acts => outermost (depth - 1) acts
  | depth, _ :: acts => outermost depth acts

/-- Inside a call nothing is outermost, and it is the same call that goes on afterwards. -/
theorem outermost_append_of_whole {inner : List (Act ℓ ε)} (hinner : Whole inner) (depth : Nat)
    (acts : List (Act ℓ ε)) :
    outermost (depth + 1) (inner ++ acts) = outermost (depth + 1) acts := by
  induction hinner generalizing depth acts with
  | nil => rfl
  | registered _ _ _ ih => exact ih depth acts
  | refused _ _ _ ih => exact ih depth acts
  | deregistered _ _ _ ih => exact ih depth acts
  | @call inner rest handle event isSound _ _ ihinner ihrest =>
    calc outermost (depth + 1)
          (.called handle event :: (inner ++ .returned isSound :: rest) ++ acts)
      _ = outermost (depth + 2) (inner ++ (.returned isSound :: rest ++ acts)) := by
        rw [List.cons_append, List.append_assoc, outermost]
      _ = outermost (depth + 2) (.returned isSound :: rest ++ acts) := ihinner (depth + 1) _
      _ = outermost (depth + 1) (rest ++ acts) := rfl
      _ = outermost (depth + 1) acts := ihrest depth acts

/-! ## One callback -/

/-- What a callback comes to in a scene. -/
inductive Step (ℓ ε : Type)
  | breaks
  | acts (act : Act ℓ ε)
  | becomes (callbacks : List (Callback ℓ ε))
  | calls (handle : Handle ℓ) (event : ε) (isGuarded : Bool)

def step (scene : Scene ℓ ε) : Callback ℓ ε → Step ℓ ε
  | .panic => .breaks
  | .register key listener => .acts (.registered key listener)
  | .tryRegister key listener isRefused =>
    .acts (if isRefused then .refused key listener else .registered key listener)
  | .deregister key listener => .acts (.deregistered key listener)
  | .dispatch key event =>
    .becomes ((scene.subscriptions.handlesOf key).map fun handle => .summon handle event)
  | .summon handle event => .calls handle event true
  | .invoke handle event => .calls handle event false
  | .invokeInitial handle event =>
    .becomes (if scene.subscriptions.isReached handle then [] else [.invoke handle event])

/-- An act that a callback comes to is not a part of a call. -/
theorem whole_cons {callback : Callback ℓ ε} {scene : Scene ℓ ε} {act : Act ℓ ε}
    (hstep : callback.step scene = .acts act) {acts : List (Act ℓ ε)} (hacts : Whole acts) :
    Whole (act :: acts) := by
  cases callback with
  | register key listener => 
    obtain rfl := Step.acts.inj hstep
    exact .registered key listener hacts
  | tryRegister key listener isRefused =>
    obtain rfl := Step.acts.inj hstep
    cases isRefused with
    | true => exact .refused key listener hacts
    | false => exact .registered key listener hacts
  | deregister key listener =>
    obtain rfl := Step.acts.inj hstep
    exact .deregistered key listener hacts
  | _ => cases hstep

/-! ## Acts one after the other -/

variable [DecidableEq ℓ]

namespace Scene

def replay (scene : Scene ℓ ε) (acts : List (Act ℓ ε)) : Scene ℓ ε :=
  acts.foldl enact scene

@[simp]
theorem replay_cons (scene : Scene ℓ ε) (act : Act ℓ ε) (acts : List (Act ℓ ε)) :
    scene.replay (act :: acts) = (scene.enact act).replay acts := rfl

@[simp]
theorem replay_append (scene : Scene ℓ ε) (first second : List (Act ℓ ε)) :
    scene.replay (first ++ second) = (scene.replay first).replay second :=
  List.foldl_append

/-- What is done is noted, the newest first. -/
theorem past_replay (scene : Scene ℓ ε) (acts : List (Act ℓ ε)) :
    (scene.replay acts).past = acts.reverse ++ scene.past := by
  induction acts generalizing scene with
  | nil => rfl
  | cons act acts ih =>
    rw [replay_cons, ih, List.reverse_cons, List.append_assoc]
    rfl

theorem length_calls_le_enact (scene : Scene ℓ ε) (act : Act ℓ ε) :
    scene.calls.length ≤ (scene.enact act).calls.length := by
  cases act with
  | called handle event => exact Nat.le_succ _
  | _ => exact Nat.le_refl _

theorem length_calls_le_replay (scene : Scene ℓ ε) (acts : List (Act ℓ ε)) :
    scene.calls.length ≤ (scene.replay acts).calls.length := by
  induction acts generalizing scene with
  | nil => exact Nat.le_refl _
  | cons act acts ih => exact (scene.length_calls_le_enact act).trans (ih _)

/-- A handle that is reached stays so. -/
theorem isReached_enact {scene : Scene ℓ ε} {handle : Handle ℓ}
    (hreached : scene.subscriptions.isReached handle = true) (act : Act ℓ ε) :
    (scene.enact act).subscriptions.isReached handle = true := by
  have hkept : (scene.enact act).subscriptions.reached = scene.subscriptions.reached →
      (scene.enact act).subscriptions.isReached handle = true := fun hsame => by
    rwa [Subscriptions.isReached, hsame]
  cases act with
  | registered key listener => exact hkept (Subscriptions.reached_register _ key listener)
  | refused key listener => exact hkept (Subscriptions.reached_attempt _ key listener _)
  | deregistered key listener => exact hkept (Subscriptions.reached_deregister _ key listener)
  | called other event => exact (Subscriptions.isReached_markReached _ _ _).2 (.inl hreached)
  | returned isSound => exact hkept rfl

/-- Whoever was reached stays so. -/
theorem isReached_replay {scene : Scene ℓ ε} {handle : Handle ℓ}
    (hreached : scene.subscriptions.isReached handle = true) (acts : List (Act ℓ ε)) :
    (scene.replay acts).subscriptions.isReached handle = true := by
  induction acts generalizing scene with
  | nil => exact hreached
  | cons act acts ih => exact ih (isReached_enact hreached act)

end Scene

/-! ## Plays of several callbacks -/

variable {behaviour : Scene ℓ ε → ℓ → ε → List (Callback ℓ ε)}

/-- How a play of some callbacks goes on with the first of them. -/
inductive Goes (behaviour : Scene ℓ ε → ℓ → ε → List (Callback ℓ ε)) (fuel : Nat)
    (callback : Callback ℓ ε) (rest : List (Callback ℓ ε)) (scene : Scene ℓ ε)
    (outcome : Scene ℓ ε × Bool) : Prop
  | breaks (hstep : callback.step scene = .breaks) (hend : outcome = (scene, false))
  | acts (act : Act ℓ ε) (hstep : callback.step scene = .acts act)
      (hrest : play behaviour fuel rest (scene.enact act) = some outcome)
  | becomes (callbacks : List (Callback ℓ ε)) (hstep : callback.step scene = .becomes callbacks)
      (hrest : play behaviour fuel (callbacks ++ rest) scene = some outcome)
  | returns (handle : Handle ℓ) (event : ε) (isGuarded : Bool) (last : Scene ℓ ε) (isSound : Bool)
      (hstep : callback.step scene = .calls handle event isGuarded)
      (hinner : play behaviour fuel
        (behaviour (scene.enact (.called handle event)) handle.listener event)
        (scene.enact (.called handle event)) = some (last, isSound))
      (hgoes : isSound = true ∨ isGuarded = true)
      (hrest : play behaviour fuel rest (last.enact (.returned isSound)) = some outcome)
  | fails (handle : Handle ℓ) (event : ε) (last : Scene ℓ ε)
      (hstep : callback.step scene = .calls handle event false)
      (hinner : play behaviour fuel
        (behaviour (scene.enact (.called handle event)) handle.listener event)
        (scene.enact (.called handle event)) = some (last, false))
      (hend : outcome = (last.enact (.returned false), false))

theorem play_cons (fuel : Nat) (callback : Callback ℓ ε) (rest : List (Callback ℓ ε))
    (scene : Scene ℓ ε) :
    play behaviour (fuel + 1) (callback :: rest) scene =
      match callback.step scene with
      | .breaks => some (scene, false)
      | .acts act => play behaviour fuel rest (scene.enact act)
      | .becomes callbacks => play behaviour fuel (callbacks ++ rest) scene
      | .calls handle event isGuarded =>
        let called := scene.enact (.called handle event)
        (play behaviour fuel (behaviour called handle.listener event) called).bind
          fun (last, isSound) =>
        if isSound || isGuarded then play behaviour fuel rest (last.enact (.returned isSound))
        else some (last.enact (.returned false), false) := by
  cases callback with
  | summon handle event =>
    simp only [play, step, Option.bind_eq_bind, Option.bind_map]
    congr 1
    funext outcome
    simp
  | invoke handle event =>
    simp only [play, step, Option.bind_eq_bind, Option.bind_map]
    congr 1
    funext ⟨last, isSound⟩
    cases isSound <;> rfl
  | invokeInitial handle event =>
    simp only [play, step]
    cases scene.subscriptions.isReached handle <;> rfl
  | _ => rfl

theorem play_cons_eq_some_iff {fuel : Nat} {callback : Callback ℓ ε} {rest : List (Callback ℓ ε)}
    {scene : Scene ℓ ε} {outcome : Scene ℓ ε × Bool} :
    play behaviour (fuel + 1) (callback :: rest) scene = some outcome ↔
      Goes behaviour fuel callback rest scene outcome := by
  rw [play_cons]
  constructor
  · intro h
    cases hstep : callback.step scene with
    | breaks =>
      simp only [hstep, Option.some.injEq] at h
      exact .breaks hstep h.symm
    | acts act =>
      simp only [hstep] at h
      exact .acts act hstep h
    | becomes callbacks =>
      simp only [hstep] at h
      exact .becomes callbacks hstep h
    | calls handle event isGuarded =>
      simp only [hstep] at h
      obtain ⟨⟨last, isSound⟩, hinner, hresume⟩ := Option.bind_eq_some_iff.1 h
      by_cases hgoes : (isSound || isGuarded) = true
      · rw [if_pos hgoes] at hresume
        exact .returns handle event isGuarded last isSound hstep hinner
          (Bool.or_eq_true_iff.1 hgoes) hresume
      · rw [if_neg hgoes] at hresume
        obtain ⟨rfl, rfl⟩ := Bool.or_eq_false_iff.1 (Bool.eq_false_iff.2 hgoes)
        exact .fails handle event last hstep hinner (Option.some.inj hresume).symm
  · intro h
    cases h with
    | breaks hstep hend => rw [hstep, hend]
    | acts act hstep hrest => rwa [hstep]
    | becomes callbacks hstep hrest => rwa [hstep]
    | returns handle event isGuarded last isSound hstep hinner hgoes hrest =>
      rw [hstep]
      exact Option.bind_eq_some_iff.2 ⟨(last, isSound), hinner,
        (if_pos (Bool.or_eq_true_iff.2 hgoes)).trans hrest⟩
    | fails handle event last hstep hinner hend =>
      rw [hstep, hend]
      exact Option.bind_eq_some_iff.2 ⟨(last, false), hinner, rfl⟩

/-- More fuel changes nothing. -/
theorem play_mono {fuel more : Nat} {callbacks : List (Callback ℓ ε)} {scene : Scene ℓ ε}
    {outcome : Scene ℓ ε × Bool} (h : play behaviour fuel callbacks scene = some outcome)
    (hmore : fuel ≤ more) : play behaviour more callbacks scene = some outcome := by
  induction fuel generalizing more callbacks scene outcome with
  | zero => exact absurd h.symm (Option.some_ne_none _)
  | succ fuel ih =>
    obtain ⟨more, rfl⟩ := Nat.exists_eq_add_of_le' (Nat.le_of_add_left_le hmore)
    have hle : fuel ≤ more := Nat.le_of_succ_le_succ hmore
    cases callbacks with
    | nil => exact h
    | cons callback rest =>
      rw [play_cons_eq_some_iff] at h ⊢
      cases h with
      | breaks hstep hend => exact .breaks hstep hend
      | acts act hstep hrest => exact .acts act hstep (ih hrest hle)
      | becomes callbacks hstep hrest => exact .becomes callbacks hstep (ih hrest hle)
      | returns handle event isGuarded last isSound hstep hinner hgoes hrest =>
        exact .returns handle event isGuarded last isSound hstep (ih hinner hle) hgoes
          (ih hrest hle)
      | fails handle event last hstep hinner hend =>
        exact .fails handle event last hstep (ih hinner hle) hend

/-- A front that goes through leads on to the back. -/
theorem play_append {fuel more : Nat} {front back : List (Callback ℓ ε)} {scene middle : Scene ℓ ε}
    {outcome : Scene ℓ ε × Bool} (hfront : play behaviour fuel front scene = some (middle, true))
    (hback : play behaviour more back middle = some outcome) :
    play behaviour (fuel + more) (front ++ back) scene = some outcome := by
  induction fuel generalizing front scene with
  | zero => exact absurd hfront.symm (Option.some_ne_none _)
  | succ fuel ih =>
    cases front with
    | nil =>
      obtain rfl : scene = middle := congrArg Prod.fst (Option.some.inj hfront)
      exact play_mono hback (Nat.le_add_left more (fuel + 1))
    | cons callback rest =>
      rw [Nat.succ_add, List.cons_append, play_cons_eq_some_iff]
      rw [play_cons_eq_some_iff] at hfront
      have hmore : fuel ≤ fuel + more := Nat.le_add_right fuel more
      cases hfront with
      | breaks hstep hend => exact Bool.noConfusion (congrArg Prod.snd hend)
      | acts act hstep hrest => exact .acts act hstep (ih hrest)
      | becomes callbacks hstep hrest =>
        refine .becomes callbacks hstep ?_
        rw [← List.append_assoc]
        exact ih hrest
      | returns handle event isGuarded last isSound hstep hinner hgoes hrest =>
        exact .returns handle event isGuarded last isSound hstep (play_mono hinner hmore) hgoes
          (ih hrest)
      | fails handle event last hstep hinner hend =>
        exact Bool.noConfusion (congrArg Prod.snd hend)

/-- What comes after a breakdown is never played. -/
theorem play_append_of_broken {fuel : Nat} {front : List (Callback ℓ ε)} {scene last : Scene ℓ ε}
    (h : play behaviour fuel front scene = some (last, false)) (back : List (Callback ℓ ε)) :
    play behaviour fuel (front ++ back) scene = some (last, false) := by
  induction fuel generalizing front scene with
  | zero => exact absurd h.symm (Option.some_ne_none _)
  | succ fuel ih =>
    cases front with
    | nil => exact Bool.noConfusion (congrArg Prod.snd (Option.some.inj h))
    | cons callback rest =>
      rw [List.cons_append, play_cons_eq_some_iff]
      rw [play_cons_eq_some_iff] at h
      cases h with
      | breaks hstep hend => exact .breaks hstep hend
      | acts act hstep hrest => exact .acts act hstep (ih hrest)
      | becomes callbacks hstep hrest =>
        refine .becomes callbacks hstep ?_
        rw [← List.append_assoc]
        exact ih hrest
      | returns handle event isGuarded inner isSound hstep hinner hgoes hrest =>
        exact .returns handle event isGuarded inner isSound hstep hinner hgoes (ih hrest)
      | fails handle event inner hstep hinner hend =>
        exact .fails handle event inner hstep hinner hend

/-- A breakdown undoes nothing: what went before it stays done. -/
theorem play_append_panic (fuel : Nat) (front back : List (Callback ℓ ε)) (scene : Scene ℓ ε) :
    play behaviour fuel (front ++ .panic :: back) scene =
      (play behaviour fuel front scene).map fun outcome => (outcome.1, false) := by
  induction fuel generalizing front scene with
  | zero => rfl
  | succ fuel ih =>
    cases front with
    | nil => rfl
    | cons callback rest =>
      rw [List.cons_append, play_cons, play_cons]
      cases callback.step scene with
      | breaks => rfl
      | acts act => exact ih rest (scene.enact act)
      | becomes callbacks =>
        simp only
        rw [← List.append_assoc]
        exact ih (callbacks ++ rest) scene
      | calls handle event isGuarded =>
        simp only [Option.map_bind]
        congr 1
        funext outcome
        simp only [Function.comp_apply]
        by_cases hgoes : (outcome.2 || isGuarded) = true
        · rw [if_pos hgoes, if_pos hgoes]
          exact ih rest _
        · rw [if_neg hgoes, if_neg hgoes]
          rfl

/-! ## What a play does -/

/-- A play is a row of acts, in which every call comes to its end. -/
theorem exists_replay {fuel : Nat} {callbacks : List (Callback ℓ ε)} {scene : Scene ℓ ε}
    {outcome : Scene ℓ ε × Bool} (h : play behaviour fuel callbacks scene = some outcome) :
    ∃ acts, Whole acts ∧ outcome.1 = scene.replay acts := by
  induction fuel generalizing callbacks scene outcome with
  | zero => exact absurd h.symm (Option.some_ne_none _)
  | succ fuel ih =>
    cases callbacks with
    | nil => exact ⟨[], .nil, (congrArg Prod.fst (Option.some.inj h)).symm⟩
    | cons callback rest =>
      rw [play_cons_eq_some_iff] at h
      cases h with
      | breaks hstep hend => exact ⟨[], .nil, congrArg Prod.fst hend⟩
      | acts act hstep hrest =>
        obtain ⟨acts, hwhole, hacts⟩ := ih hrest
        exact ⟨act :: acts, whole_cons hstep hwhole, hacts⟩
      | becomes callbacks hstep hrest => exact ih hrest
      | returns handle event isGuarded last isSound hstep hinner hgoes hrest =>
        obtain ⟨inner, hwholeInner, hlast⟩ := ih hinner
        obtain ⟨acts, hwhole, hacts⟩ := ih hrest
        refine ⟨.called handle event :: (inner ++ .returned isSound :: acts),
          .call handle event isSound hwholeInner hwhole, ?_⟩
        rw [hacts, Scene.replay_cons, Scene.replay_append, ← hlast]
        rfl
      | fails handle event last hstep hinner hend =>
        obtain ⟨inner, hwholeInner, hlast⟩ := ih hinner
        refine ⟨.called handle event :: (inner ++ [.returned false]),
          .call handle event false hwholeInner .nil, ?_⟩
        rw [hend, Scene.replay_cons, Scene.replay_append, ← hlast]
        rfl

/-- Calls are never forgotten. -/
theorem length_calls_le_of_play {fuel : Nat} {callbacks : List (Callback ℓ ε)}
    {scene : Scene ℓ ε} {outcome : Scene ℓ ε × Bool}
    (h : play behaviour fuel callbacks scene = some outcome) :
    scene.calls.length ≤ outcome.1.calls.length := by
  obtain ⟨acts, -, hacts⟩ := exists_replay h
  exact hacts ▸ scene.length_calls_le_replay acts

/-! ## Plays that come to an end -/

def Halts (behaviour : Scene ℓ ε → ℓ → ε → List (Callback ℓ ε)) (callbacks : List (Callback ℓ ε))
    (scene : Scene ℓ ε) : Prop :=
  ∃ fuel outcome, play behaviour fuel callbacks scene = some outcome

theorem Halts.append {front back : List (Callback ℓ ε)} {scene : Scene ℓ ε}
    (hfront : Halts behaviour front scene)
    (hback : ∀ middle, scene.calls.length ≤ middle.calls.length → Halts behaviour back middle) :
    Halts behaviour (front ++ back) scene := by
  obtain ⟨fuel, ⟨middle, isSound⟩, hfront⟩ := hfront
  cases isSound with
  | true =>
    obtain ⟨more, outcome, hback⟩ := hback middle (length_calls_le_of_play hfront)
    exact ⟨fuel + more, outcome, play_append hfront hback⟩
  | false => exact ⟨fuel, (middle, false), play_append_of_broken hfront back⟩

/-- Callbacks come to an end if each of them does, whenever its turn comes. -/
theorem halts_of_forall_mem {callbacks : List (Callback ℓ ε)} {scene : Scene ℓ ε}
    (h : ∀ callback ∈ callbacks, ∀ later : Scene ℓ ε, scene.calls.length ≤ later.calls.length →
      Halts behaviour [callback] later) : Halts behaviour callbacks scene := by
  induction callbacks generalizing scene with
  | nil => exact ⟨1, (scene, true), rfl⟩
  | cons callback rest ih =>
    have hfirst := h callback List.mem_cons_self scene (Nat.le_refl _)
    refine hfirst.append fun middle hmiddle => ih fun other hother later hlater => ?_
    exact h other (List.mem_cons_of_mem callback hother) later (hmiddle.trans hlater)

/-- A call comes to an end if what its listener does comes to an end. -/
theorem halts_of_calls {callback : Callback ℓ ε} {scene : Scene ℓ ε} {handle : Handle ℓ}
    {event : ε} {isGuarded : Bool} (hstep : callback.step scene = .calls handle event isGuarded)
    (hinner : Halts behaviour
      (behaviour (scene.enact (.called handle event)) handle.listener event)
      (scene.enact (.called handle event))) : Halts behaviour [callback] scene := by
  obtain ⟨fuel, ⟨last, isSound⟩, hinner⟩ := hinner
  have hinner := play_mono hinner fuel.le_succ
  by_cases hgoes : isSound = true ∨ isGuarded = true
  · exact ⟨fuel + 2, _, play_cons_eq_some_iff.2
      (.returns handle event isGuarded last isSound hstep hinner hgoes rfl)⟩
  · obtain ⟨hbroken, hbare⟩ := not_or.1 hgoes
    obtain rfl := Bool.eq_false_iff.2 hbroken
    obtain rfl := Bool.eq_false_iff.2 hbare
    exact ⟨fuel + 2, _, play_cons_eq_some_iff.2 (.fails handle event last hstep hinner rfl)⟩

/-- Callbacks come to an end if all that they can call does. -/
theorem halts_of_forall_called {scene : Scene ℓ ε}
    (h : ∀ later : Scene ℓ ε, scene.calls.length ≤ later.calls.length → ∀ handle event,
      Halts behaviour (behaviour (later.enact (.called handle event)) handle.listener event)
        (later.enact (.called handle event)))
    (callbacks : List (Callback ℓ ε)) : Halts behaviour callbacks scene := by
  have hsummon : ∀ handle event, ∀ later : Scene ℓ ε, scene.calls.length ≤ later.calls.length →
      Halts behaviour [.summon handle event] later :=
    fun handle event later hlater => halts_of_calls rfl (h later hlater handle event)
  have hinvoke : ∀ handle event, ∀ later : Scene ℓ ε, scene.calls.length ≤ later.calls.length →
      Halts behaviour [.invoke handle event] later :=
    fun handle event later hlater => halts_of_calls rfl (h later hlater handle event)
  refine halts_of_forall_mem fun callback _ later hlater => ?_
  cases callback with
  | panic => exact ⟨1, _, rfl⟩
  | register key listener => exact ⟨2, _, rfl⟩
  | tryRegister key listener isRefused => exact ⟨2, _, rfl⟩
  | deregister key listener => exact ⟨2, _, rfl⟩
  | summon handle event => exact hsummon handle event later hlater
  | invoke handle event => exact hinvoke handle event later hlater
  | dispatch key event =>
    obtain ⟨fuel, outcome, hplay⟩ : Halts behaviour
        ((later.subscriptions.handlesOf key).map fun handle => .summon handle event) later := by
      refine halts_of_forall_mem fun callback hcallback last hlast => ?_
      obtain ⟨handle, -, rfl⟩ := List.mem_map.1 hcallback
      exact hsummon handle event last (hlater.trans hlast)
    refine ⟨fuel + 1, outcome, play_cons_eq_some_iff.2 (.becomes _ rfl ?_)⟩
    rwa [List.append_nil]
  | invokeInitial handle event =>
    cases hreached : later.subscriptions.isReached handle with
    | true => exact ⟨2, (later, true), by simp [play, hreached]⟩
    | false =>
      obtain ⟨fuel, outcome, hplay⟩ := hinvoke handle event later hlater
      exact ⟨fuel + 1, outcome, by simpa [play, hreached] using hplay⟩

/-- Nothing goes on for ever if listeners do nothing any more after so many calls. -/
theorem halts_of_silent {bound : Nat}
    (hsilent : ∀ (scene : Scene ℓ ε) listener event, bound ≤ scene.calls.length →
      behaviour scene listener event = [])
    (callbacks : List (Callback ℓ ε)) (scene : Scene ℓ ε) : Halts behaviour callbacks scene := by
  -- The calls that are still to come before the listeners are silent become fewer with each call.
  have hspare : ∀ spare, ∀ (scene : Scene ℓ ε) callbacks,
      bound ≤ scene.calls.length + spare → Halts behaviour callbacks scene := by
    intro spare
    induction spare with
    | zero =>
      intro scene callbacks hbound
      refine halts_of_forall_called (fun later hlater handle event => ?_) callbacks
      rw [hsilent _ _ _ ((hbound.trans hlater).trans (later.length_calls_le_enact _))]
      exact ⟨1, _, rfl⟩
    | succ spare ih =>
      intro scene callbacks hbound
      refine halts_of_forall_called (fun later hlater handle event => ?_) callbacks
      refine ih _ _ ?_
      calc bound ≤ scene.calls.length + (spare + 1) := hbound
        _ ≤ later.calls.length + (spare + 1) := Nat.add_le_add_right hlater _
        _ = later.calls.length + 1 + spare := by omega
  exact hspare bound scene callbacks (Nat.le_add_left bound _)

end Callback

end RegistrySession
