import BuildAgent.Proofs.World.Frames

/-!
# Deeds

Apart from the reboot monitor, everything that the procedures of a node do to the world is made of a
few elementary changes, the `Deed`s: an entry in the journal, a call of the provider, a request to
the agent or a teardown, a change of what the node knows about its instance, of its definition, or
of its standing. `World.Through` says that one world comes from another by deeds of a permitted
kind.

So a law about all ordinary steps is checked on the deeds alone. No deed changes the record of
reboot sessions or the agenda, lets go of the node or starts an attempt to connect.
-/

namespace BuildAgent

/-- An elementary change of the world. -/
inductive Deed where
  | note (event : Journal.Event)
  | describe (instanceIds : List InstanceId)
  | command (operation : Provider.Operation) (instanceId : InstanceId)
  | changeTags (change : TagChange) (instanceId : InstanceId) (batch : List Tag)
  | askToExit
  | tearDown (cause : Option OfflineCause)
  | bind (instanceId : InstanceId)
  | keep (entry : CacheEntry)
  | replace (definition : Definition)
  | recordActivity
  | retire

namespace Deed

def apply : Deed → World → World
  | note event, world => world.note event
  | describe instanceIds, world => (world.ask fun provider => provider.describe instanceIds).2
  | command operation instanceId, world =>
    (world.ask fun provider => provider.command operation instanceId).2
  | changeTags change instanceId batch, world =>
    (world.ask fun provider => provider.changeTags change instanceId batch).2
  | askToExit, world => world.askToExit.2
  | tearDown cause, world => (world.startTeardown cause).2
  | bind instanceId, world => world.withNode fun node => node.bind instanceId
  | keep entry, world => world.withNode fun node => { node with entry }
  | replace definition, world => ReconfigurePoint.replace definition world
  | recordActivity, world => world.recordActivity
  | retire, world => world.retire

/-! ## What no deed changes -/

variable (deed : Deed) (world : World)

@[simp]
theorem session_apply : (deed.apply world).node.session = world.node.session := by
  cases deed with
  | retire => rcases world.node_retire with kept | kept <;> simp [apply, kept]
  | _ => simp [apply]

@[simp]
theorem held_apply : (deed.apply world).node.held = world.node.held := by
  cases deed with
  | retire => rcases world.node_retire with kept | kept <;> simp [apply, kept]
  | _ => simp [apply]

/-- Only to retire detaches the node. -/
theorem standing_apply (other : deed ≠ .retire) :
    (deed.apply world).node.retired = world.node.retired ∧
      (deed.apply world).node.attached = world.node.attached := by
  cases deed with
  | retire => exact absurd rfl other
  | _ => simp [apply]

@[simp]
theorem agenda_apply : (deed.apply world).agenda = world.agenda := by
  cases deed <;> simp [apply]

@[simp]
theorem given_apply : (deed.apply world).given = world.given := by
  cases deed <;> simp [apply]

theorem goesOn_apply : GoesOn world.transfers (deed.apply world).transfers := by
  cases deed with
  | tearDown cause => exact world.goesOn_startTeardown cause
  | _ => simp [apply, GoesOn.refl]

end Deed

/-! ## Worlds that deeds lead to -/

/-- Whether deeds of a permitted kind lead from one world to another. -/
def World.Through (permits : Deed → Prop) : World → World → Prop :=
  Relation.ReflTransGen fun before after => ∃ deed, permits deed ∧ after = deed.apply before

namespace World.Through

variable {permits : Deed → Prop} {before after : World}

theorem refl (world : World) : Through permits world world :=
  Relation.ReflTransGen.refl

theorem trans {middle : World} (earlier : Through permits before middle)
    (later : Through permits middle after) : Through permits before after :=
  Relation.ReflTransGen.trans earlier later

theorem single (deed : Deed) (permitted : permits deed) (world : World) :
    Through permits world (deed.apply world) :=
  Relation.ReflTransGen.single ⟨deed, permitted, rfl⟩

theorem mono {permits' : Deed → Prop} (wider : ∀ deed, permits deed → permits' deed)
    (through : Through permits before after) : Through permits' before after := by
  refine Relation.ReflTransGen.mono ?_ _ _ through
  rintro earlier later ⟨deed, permitted, step⟩
  exact ⟨deed, wider deed permitted, step⟩

theorem view_eq {α : Type} (view : World → α) (through : Through permits before after)
    (same : ∀ deed world, permits deed → view (deed.apply world) = view world) :
    view after = view before := by
  induction through with
  | refl => rfl
  | tail _ step unchanged =>
    rcases step with ⟨deed, permitted, rfl⟩
    rw [same deed _ permitted, unchanged]

theorem session_eq (through : Through permits before after) :
    after.node.session = before.node.session :=
  through.view_eq (fun world => world.node.session) fun deed world _ => deed.session_apply world

theorem held_eq (through : Through permits before after) : after.node.held = before.node.held :=
  through.view_eq (fun world => world.node.held) fun deed world _ => deed.held_apply world

theorem agenda_eq (through : Through permits before after) : after.agenda = before.agenda :=
  through.view_eq World.agenda fun deed world _ => deed.agenda_apply world

theorem given_eq (through : Through permits before after) : after.given = before.given :=
  through.view_eq World.given fun deed world _ => deed.given_apply world

theorem clock_eq (through : Through permits before after) : after.clock = before.clock :=
  congrArg Prod.fst through.given_eq

theorem goesOn (through : Through permits before after) :
    GoesOn before.transfers after.transfers := by
  induction through with
  | refl => exact .refl _
  | tail _ step earlier =>
    rcases step with ⟨deed, _, rfl⟩
    exact earlier.trans (deed.goesOn_apply _)

end World.Through

end BuildAgent
