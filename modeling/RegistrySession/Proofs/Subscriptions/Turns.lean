import RegistrySession.Proofs.Subscriptions.Play

/-!
# Turns of a dispatch

A dispatch calls the handles that its key has when it begins, each once and in order of
registration.  What the listeners do meanwhile, to whatever depth, takes no handle off this list and
puts none on it, and neither does a listener that breaks down.
-/

namespace RegistrySession.Callback

variable {ℓ ε : Type}

/-- The part of a dispatch in which one listener is called. -/
structure Turn (ℓ ε : Type) where
  handle : Handle ℓ
  /-- What is done while the listener is at work. -/
  inner : List (Act ℓ ε)
  isSound : Bool

def Turn.acts (event : ε) (turn : Turn ℓ ε) : List (Act ℓ ε) :=
  .called turn.handle event :: (turn.inner ++ [.returned turn.isSound])

/-- What listeners do when they are called is not among the calls of the dispatch itself. -/
theorem outermost_turns {turns : List (Turn ℓ ε)} (event : ε)
    (hwhole : ∀ turn ∈ turns, Whole turn.inner) :
    outermost 0 (turns.flatMap (Turn.acts event)) = turns.map fun turn => (turn.handle, event) := by
  induction turns with
  | nil => rfl
  | cons turn turns ih =>
    have hinner := hwhole turn List.mem_cons_self
    have hrest := ih fun other hother => hwhole other (List.mem_cons_of_mem turn hother)
    calc outermost 0 ((turn :: turns).flatMap (Turn.acts event))
      _ = (turn.handle, event) :: outermost 1 (turn.inner ++
            (.returned turn.isSound :: turns.flatMap (Turn.acts event))) := by
        rw [List.flatMap_cons, Turn.acts, List.cons_append, List.append_assoc, outermost]
        rfl
      _ = (turn.handle, event) :: outermost 1
            (.returned turn.isSound :: turns.flatMap (Turn.acts event)) := by
        rw [outermost_append_of_whole hinner 0]
      _ = (turn.handle, event) :: outermost 0 (turns.flatMap (Turn.acts event)) := rfl
      _ = (turn :: turns).map fun turn => (turn.handle, event) := by
        rw [hrest, List.map_cons]

variable [DecidableEq ℓ] {behaviour : Scene ℓ ε → ℓ → ε → List (Callback ℓ ε)}

def Turn.called (event : ε) (turn : Turn ℓ ε) (scene : Scene ℓ ε) : Scene ℓ ε :=
  scene.enact (.called turn.handle event)

/-- What a turn is that begins in a scene. -/
structure Turn.Follows (behaviour : Scene ℓ ε → ℓ → ε → List (Callback ℓ ε)) (fuel : Nat)
    (event : ε) (scene : Scene ℓ ε) (turn : Turn ℓ ε) : Prop where
  /-- The handle counts as reached before its listener does anything. -/
  reached : (turn.called event scene).subscriptions.isReached turn.handle = true
  /-- The listener does what the scene makes it do, up to a breakdown if there is one. -/
  plays : play behaviour fuel
    (behaviour (turn.called event scene) turn.handle.listener event) (turn.called event scene) =
      some ((turn.called event scene).replay turn.inner, turn.isSound)
  whole : Whole turn.inner
  /-- That the listener returns or breaks down is nothing to the subscriptions. -/
  unharmed : (scene.replay (turn.acts event)).subscriptions =
    ((turn.called event scene).replay turn.inner).subscriptions

/-- Turns that lead from one scene to another. -/
inductive Turns (behaviour : Scene ℓ ε → ℓ → ε → List (Callback ℓ ε)) (fuel : Nat) (event : ε) :
    Scene ℓ ε → List (Turn ℓ ε) → Scene ℓ ε → Prop
  | done (scene : Scene ℓ ε) : Turns behaviour fuel event scene [] scene
  | next {scene last : Scene ℓ ε} {turn : Turn ℓ ε} {turns : List (Turn ℓ ε)}
      (hturn : turn.Follows behaviour fuel event scene)
      (hturns : Turns behaviour fuel event (scene.replay (turn.acts event)) turns last) :
      Turns behaviour fuel event scene (turn :: turns) last

theorem Turns.eq_replay {fuel : Nat} {event : ε} {scene last : Scene ℓ ε} {turns : List (Turn ℓ ε)}
    (h : Turns behaviour fuel event scene turns last) :
    last = scene.replay (turns.flatMap (Turn.acts event)) := by
  induction h with
  | done scene => rfl
  | next hturn hturns ih => rw [ih, List.flatMap_cons, Scene.replay_append]

theorem Turns.whole {fuel : Nat} {event : ε} {scene last : Scene ℓ ε} {turns : List (Turn ℓ ε)}
    (h : Turns behaviour fuel event scene turns last) : ∀ turn ∈ turns, Whole turn.inner := by
  induction h with
  | done scene => exact fun turn hturn => absurd hturn List.not_mem_nil
  | next hturn hturns ih => exact List.forall_mem_cons.2 ⟨hturn.whole, ih⟩

/-- A handle that was called has been reached in the end. -/
theorem Turns.isReached {fuel : Nat} {event : ε} {scene last : Scene ℓ ε} {turns : List (Turn ℓ ε)}
    (h : Turns behaviour fuel event scene turns last) :
    ∀ turn ∈ turns, last.subscriptions.isReached turn.handle = true := by
  induction h with
  | done scene => exact fun turn hturn => absurd hturn List.not_mem_nil
  | next hturn hturns ih =>
    refine List.forall_mem_cons.2 ⟨?_, ih⟩
    rw [hturns.eq_replay]
    exact Scene.isReached_replay (Scene.isReached_replay hturn.reached _) _

/-- Guarded calls that are played take their turns, and what comes after them is played as well. -/
theorem exists_turns {fuel : Nat} {handles : List (Handle ℓ)} {event : ε}
    {rest : List (Callback ℓ ε)} {scene : Scene ℓ ε} {outcome : Scene ℓ ε × Bool}
    (h : play behaviour fuel (handles.map (fun handle => .summon handle event) ++ rest) scene =
      some outcome) :
    ∃ turns last, turns.map Turn.handle = handles ∧ Turns behaviour fuel event scene turns last ∧
      play behaviour fuel rest last = some outcome := by
  induction handles generalizing scene with
  | nil => exact ⟨[], scene, rfl, .done scene, h⟩
  | cons handle handles ih =>
    obtain ⟨fuel, rfl⟩ : ∃ less, fuel = less + 1 :=
      Nat.exists_eq_succ_of_ne_zero fun hzero => by
        rw [hzero] at h
        exact absurd h.symm (Option.some_ne_none _)
    rw [List.map_cons, List.cons_append, play_cons_eq_some_iff] at h
    cases h with
    | returns _ _ _ last isSound hstep hinner _ hrest =>
      obtain ⟨rfl, rfl, rfl⟩ := Step.calls.inj hstep
      obtain ⟨inner, hwhole, rfl⟩ := exists_replay hinner
      let turn : Turn ℓ ε := ⟨handle, inner, isSound⟩
      have hfollows : turn.Follows behaviour (fuel + 1) event scene :=
        { reached := (Subscriptions.isReached_markReached _ _ _).2 (.inr rfl)
          plays := play_mono hinner fuel.le_succ
          whole := hwhole
          unharmed := by rw [Turn.acts, Scene.replay_cons, Scene.replay_append]; rfl }
      have hended : scene.replay (turn.acts event) =
          ((scene.enact (.called handle event)).replay inner).enact (.returned isSound) := by
        rw [Turn.acts, Scene.replay_cons, Scene.replay_append]
        rfl
      obtain ⟨turns, last, hhandles, hturns, hlast⟩ := ih (hended ▸ play_mono hrest fuel.le_succ)
      exact ⟨turn :: turns, last, by rw [List.map_cons, hhandles], .next hfollows hturns, hlast⟩
    | breaks hstep _ => cases hstep
    | acts _ hstep _ => cases hstep
    | becomes _ hstep _ => cases hstep
    | fails _ _ _ hstep _ _ => cases hstep

/-- What a dispatch of an event comes to that begins in one scene and ends in another. -/
structure Dispatched (behaviour : Scene ℓ ε → ℓ → ε → List (Callback ℓ ε)) (fuel : Nat) (key : Key)
    (event : ε) (scene last : Scene ℓ ε) (turns : List (Turn ℓ ε)) : Prop where
  /-- There is one turn for each handle that the key has when the dispatch begins, in order of
  registration. -/
  handles : turns.map Turn.handle = scene.subscriptions.handlesOf key
  course : Turns behaviour fuel event scene turns last
  /-- The turns are all that is done from the beginning to the end. -/
  ends : last = scene.replay (turns.flatMap (Turn.acts event))
  /-- Among all the calls meanwhile, those of the dispatch itself are these. -/
  calls : outermost 0 (turns.flatMap (Turn.acts event)) =
    (scene.subscriptions.handlesOf key).map fun handle => (handle, event)
  reached : ∀ handle ∈ scene.subscriptions.handlesOf key,
    last.subscriptions.isReached handle = true

theorem exists_dispatched {fuel : Nat} {key : Key} {event : ε} {rest : List (Callback ℓ ε)}
    {scene : Scene ℓ ε} {outcome : Scene ℓ ε × Bool}
    (h : play behaviour fuel (.dispatch key event :: rest) scene = some outcome) :
    ∃ turns last, Dispatched behaviour fuel key event scene last turns ∧
      play behaviour fuel rest last = some outcome := by
  cases fuel with
  | zero => exact absurd h.symm (Option.some_ne_none _)
  | succ fuel =>
    have hsummons : play behaviour (fuel + 1) ((scene.subscriptions.handlesOf key).map
        (fun handle => .summon handle event) ++ rest) scene = some outcome :=
      play_mono h fuel.le_succ
    obtain ⟨turns, last, hhandles, hturns, hrest⟩ := exists_turns hsummons
    refine ⟨turns, last, ⟨hhandles, hturns, hturns.eq_replay, ?calls, ?reached⟩, hrest⟩
    case calls => rw [outermost_turns event hturns.whole, ← hhandles, List.map_map]; rfl
    case reached =>
      intro handle hhandle
      rw [← hhandles] at hhandle
      obtain ⟨turn, hturn, rfl⟩ := List.mem_map.1 hhandle
      exact hturns.isReached turn hturn

/-- A dispatch calls each handle once that its key has when it begins, in order of registration and
marked before the call, whatever the listeners do meanwhile, and goes on where one breaks down. It
comes to an end if the listeners at last do nothing any more, and a listener that breaks down leaves
behind what it did before. -/
theorem dispatch_calls_registered (behaviour : Scene ℓ ε → ℓ → ε → List (Callback ℓ ε))
    (scene : Scene ℓ ε) (hreachable : scene.subscriptions.Reachable) (key : Key) (event : ε)
    (rest : List (Callback ℓ ε)) :
    (scene.subscriptions.handlesOf key).Nodup ∧
    (∀ bound, (∀ (later : Scene ℓ ε) listener event, bound ≤ later.calls.length →
        behaviour later listener event = []) →
      ∃ fuel outcome, play behaviour fuel (.dispatch key event :: rest) scene = some outcome) ∧
    (∀ fuel outcome, play behaviour fuel (.dispatch key event :: rest) scene = some outcome →
      ∃ turns last, Dispatched behaviour fuel key event scene last turns ∧
        play behaviour fuel rest last = some outcome) ∧
    ∀ fuel front back later, play behaviour fuel (front ++ .panic :: back) later =
      (play behaviour fuel front later).map fun outcome => (outcome.1, false) :=
  ⟨hreachable.separate.nodup key, fun _ hsilent => halts_of_silent hsilent _ scene,
    fun _ _ => exists_dispatched, play_append_panic⟩

/-- The first listener takes the second one off, registers a third and dispatches again, two times
over. The others break down, as long as there were few calls. -/
def restless (scene : Scene Nat String) (listener : Nat) (_ : String) :
    List (Callback Nat String) :=
  if 20 ≤ scene.calls.length then []
  else if listener ≠ 0 then [.panic]
  else if 2 < scene.calls.length then []
  else [.deregister default 1, .register default 2, .dispatch default "again"]

/-- Two listeners are registered. -/
def twoListeners : Scene Nat String :=
  { subscriptions := (((Subscriptions.empty.register default 0).1).register default 1).1 }

/-- Both listeners are called, the second one although it was taken off before its turn, and the
third one is not, although it is registered in the end. -/
theorem dispatch_calls_registered_restless :
    twoListeners.subscriptions.Reachable ∧
    (∀ (later : Scene Nat String) listener event, 20 ≤ later.calls.length →
      restless later listener event = []) ∧
    ∃ outcome turns last,
      play restless 20 [.dispatch default "news"] twoListeners = some outcome ∧
      Dispatched restless 20 default "news" twoListeners last turns ∧
      turns.map Turn.handle = [⟨0, 0⟩, ⟨1, 1⟩] ∧ outcome.1.calls.length = 6 ∧
      outcome.1.subscriptions.handlesOf default = [⟨0, 0⟩, ⟨2, 2⟩] := by
  have hreachable : twoListeners.subscriptions.Reachable := .register _ _ (.register _ _ .empty)
  have hsilent : ∀ (later : Scene Nat String) listener event, 20 ≤ later.calls.length →
      restless later listener event = [] := fun _ _ _ hcalls => if_pos hcalls
  have hplay : (play restless 20 [.dispatch default "news"] twoListeners).isSome := by decide
  obtain ⟨-, -, hdispatched, -⟩ :=
    dispatch_calls_registered restless twoListeners hreachable default "news" []
  obtain ⟨turns, last, hturns, -⟩ := hdispatched 20 _ (Option.some_get hplay).symm
  refine ⟨hreachable, hsilent, _, turns, last, (Option.some_get hplay).symm, hturns, ?_, rfl, rfl⟩
  rw [hturns.handles]
  decide

end RegistrySession.Callback
