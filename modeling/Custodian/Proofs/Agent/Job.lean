import Custodian.Agent.Operation
import Mathlib.Tactic.Common

/-!
# Running jobs

What a job does from a scene on, written out for the pieces that jobs are made of. A job that is
followed by another one reaches the scene of the other one, unless it fails (`bind_run`).
-/

namespace Custodian.Agent

variable {σ π ε α β : Type}

/-- The scene after something was done to the surroundings and recorded. -/
def Scene.after (call : σ → β × σ) (event : β → Event) (scene : Scene σ π) : Scene σ π :=
  { scene with
    world := (call scene.world).2
    events := scene.events ++ [event (call scene.world).1] }

/-- The scene after the package became `p` and was saved. -/
def Scene.keep (s : Surroundings σ) (p : Package) (scene : Scene σ Package) : Scene σ Package :=
  Scene.after (s.save p) (.saved p) { scene with held := p }

@[simp]
lemma Scene.after_held (call : σ → β × σ) (event : β → Event) (scene : Scene σ π) :
    (scene.after call event).held = scene.held := rfl

@[simp]
lemma Scene.after_world (call : σ → β × σ) (event : β → Event) (scene : Scene σ π) :
    (scene.after call event).world = (call scene.world).2 := rfl

@[simp]
lemma Scene.after_events (call : σ → β × σ) (event : β → Event) (scene : Scene σ π) :
    (scene.after call event).events = scene.events ++ [event (call scene.world).1] := rfl

@[simp]
lemma Scene.keep_held (s : Surroundings σ) (p : Package) (scene : Scene σ Package) :
    (scene.keep s p).held = p := rfl

@[simp]
lemma Scene.keep_events (s : Surroundings σ) (p : Package) (scene : Scene σ Package) :
    (scene.keep s p).events = scene.events ++ [.saved p (s.save p scene.world).1] := rfl

namespace Job

@[simp]
lemma pure_run (a : α) (scene : Scene σ π) : (pure a : Job σ π ε α) scene = (.ok a, scene) := rfl

@[simp]
lemma throw_run (e : ε) (scene : Scene σ π) : (throw e : Job σ π ε α) scene = (.error e, scene) := rfl

lemma bind_run (job : Job σ π ε α) (next : α → Job σ π ε β) (scene : Scene σ π) :
    (job >>= next) scene = match job scene with
      | (.ok a, scene) => next a scene
      | (.error e, scene) => (.error e, scene) := by
  change StateT.bind (m := Id) job (ExceptT.bindCont next) scene = _
  unfold StateT.bind
  rcases job scene with ⟨_ | _, _⟩ <;> rfl

lemma bind_run_ok {job : Job σ π ε α} {scene : Scene σ π} {a : α} (h : (job scene).1 = .ok a)
    (next : α → Job σ π ε β) : (job >>= next) scene = next a (job scene).2 := by
  rw [bind_run]
  split <;> simp_all

lemma bind_run_error {job : Job σ π ε α} {scene : Scene σ π} {e : ε}
    (h : (job scene).1 = .error e) (next : α → Job σ π ε β) :
    (job >>= next) scene = (.error e, (job scene).2) := by
  rw [bind_run]
  split <;> simp_all

@[simp]
lemma held_bind_run (next : π → Job σ π ε β) (scene : Scene σ π) :
    (held >>= next) scene = next scene.held scene := rfl

@[simp]
lemma files_bind_run (s : Surroundings σ) (next : FileTree → Job σ π ε β) (scene : Scene σ π) :
    (files s >>= next) scene = next (s.files scene.world) scene := rfl

@[simp]
lemma change_bind_run (f : π → π) (next : Unit → Job σ π ε β) (scene : Scene σ π) :
    (change f >>= next) scene = next () { scene with held := f scene.held } := rfl

lemma act_bind_run (call : σ → β × σ) (event : β → Event) (next : β → Job σ π ε α)
    (scene : Scene σ π) : (act call event >>= next) scene =
      next (call scene.world).1 (scene.after call event) := rfl

@[simp]
lemma exchange_bind_run (s : Surroundings σ) (request : Appliance.Request)
    (next : Appliance.Exchange → Job σ π ε β) (scene : Scene σ π) :
    (exchange s request >>= next) scene =
      next (s.exchange request scene.world).1
        (scene.after (s.exchange request) (.exchanged request)) :=
  act_bind_run _ _ _ _

lemma ofExcept_bind_run (r : Except ε α) (next : α → Job σ π ε β) (scene : Scene σ π) :
    (ofExcept r >>= next) scene = match r with
      | .ok a => next a scene
      | .error e => (.error e, scene) := by
  rw [bind_run]
  cases r <;> rfl

/-- Saving what is held: the scene does not depend on whether it works. -/
lemma save_run (s : Surroundings σ) (scene : Scene σ Package) :
    save s scene =
      ((s.save scene.held scene.world).1.mapError (.store scene.held.uuid),
        scene.keep s scene.held) := by
  unfold save
  rw [held_bind_run, act_bind_run]
  rcases (s.save scene.held scene.world).1 with _ | ⟨⟩ <;> rfl

end Job

end Custodian.Agent
