import RegistrySession.Subscriptions.Basic

/-!
# Listeners that call back

A listener that is called may itself register, deregister, dispatch and invoke on the same
subscriptions, to any depth, or break down. Everything it does happens before the dispatch that
called it goes on. A breakdown ends the listener, and a dispatch goes on to the next one.
-/

namespace RegistrySession

universe u v

/-- What a listener does when it is called, besides noting the event. -/
inductive Callback (ℓ : Type u) (ε : Type v)
  | panic
  | register (key : Key) (listener : ℓ)
  /-- A registration with a preparation, which fails if the registration is refused. -/
  | tryRegister (key : Key) (listener : ℓ) (isRefused : Bool)
  | deregister (key : Key) (listener : ℓ)
  | dispatch (key : Key) (event : ε)
  | invoke (handle : Handle ℓ) (event : ε)
  | invokeInitial (handle : Handle ℓ) (event : ε)
  /-- Calls a listener and goes on even if it breaks down. -/
  | summon (handle : Handle ℓ) (event : ε)

namespace Callback

variable {ℓ : Type u} {ε : Type v}

/-- A registration that is refused, wherever it was meant to go. -/
def refuseRegister [Inhabited ℓ] : Callback ℓ ε := .tryRegister default default true

/-- What is done to the subscriptions, and the beginning and the end of each call. -/
inductive Act (ℓ : Type u) (ε : Type v)
  | registered (key : Key) (listener : ℓ)
  | refused (key : Key) (listener : ℓ)
  | deregistered (key : Key) (listener : ℓ)
  | called (handle : Handle ℓ) (event : ε)
  | returned (isSound : Bool)

/-- Subscriptions together with the calls that listeners received, the newest first. -/
structure Scene (ℓ : Type u) (ε : Type v) where
  subscriptions : Subscriptions ℓ
  calls : List (Handle ℓ × ε) := []
  /-- Everything that was done, the newest first. -/
  past : List (Act ℓ ε) := []

namespace Scene

variable [DecidableEq ℓ]

/-- Carries out an act and notes it. The handle of a call counts as reached before its listener
does anything. -/
def enact (scene : Scene ℓ ε) (act : Act ℓ ε) : Scene ℓ ε :=
  let subscriptions := match act with
    | .registered key listener => (scene.subscriptions.register key listener).1
    | .refused key listener =>
      (scene.subscriptions.attempt key listener (.error () : Except Unit Unit)).1
    | .deregistered key listener => (scene.subscriptions.deregister key listener).1
    | .called handle _ => scene.subscriptions.markReached handle
    | .returned _ => scene.subscriptions
  let calls := match act with
    | .called handle event => (handle, event) :: scene.calls
    | _ => scene.calls
  { subscriptions, calls, past := act :: scene.past }

end Scene

variable [DecidableEq ℓ]

/-- Carries out callbacks in order, where `behaviour` says what each listener does when it is
called in a scene. A dispatch calls the handles that are registered when it begins. The answer tells
whether the callbacks went through without a breakdown. Nothing is answered if the calls nest deeper
than the fuel. -/
def play (behaviour : Scene ℓ ε → ℓ → ε → List (Callback ℓ ε)) :
    Nat → List (Callback ℓ ε) → Scene ℓ ε → Option (Scene ℓ ε × Bool)
  | 0, _, _ => none
  | _ + 1, [], scene => some (scene, true)
  | fuel + 1, callback :: rest, scene =>
    let call (handle : Handle ℓ) (event : ε) : Option (Scene ℓ ε × Bool) :=
      let called := scene.enact (.called handle event)
      (play behaviour fuel (behaviour called handle.listener event) called).map
        fun (after, isSound) => (after.enact (.returned isSound), isSound)
    match callback with
    | .panic => some (scene, false)
    | .register key listener => play behaviour fuel rest (scene.enact (.registered key listener))
    | .tryRegister key listener isRefused =>
      play behaviour fuel rest
        (scene.enact (if isRefused then .refused key listener else .registered key listener))
    | .deregister key listener =>
      play behaviour fuel rest (scene.enact (.deregistered key listener))
    | .dispatch key event =>
      let handles := scene.subscriptions.handlesOf key
      play behaviour fuel (handles.map (fun handle => .summon handle event) ++ rest) scene
    | .summon handle event => do
      let (scene, _) ← call handle event
      play behaviour fuel rest scene
    | .invoke handle event => do
      let (scene, isSound) ← call handle event
      if isSound then play behaviour fuel rest scene else some (scene, false)
    | .invokeInitial handle event =>
      let callbacks :=
        if scene.subscriptions.isReached handle then rest else .invoke handle event :: rest
      play behaviour fuel callbacks scene

/-- Carries out callbacks of listeners that do the same whenever they are called. -/
def perform (behaviour : ℓ → ε → List (Callback ℓ ε)) :
    Nat → List (Callback ℓ ε) → Scene ℓ ε → Option (Scene ℓ ε × Bool) :=
  play fun _ => behaviour

end Callback

end RegistrySession
