import BuildAgent.Proofs.Execution.Step
import BuildAgent.Proofs.World.Sessions

/-!
# Moves from outside

Some moves change the world whatever the tasks are about. `Move.Outside` sorts them: work on the
link goes on, the node is retired, something happens to the provider or to the endpoint, or the move
is about none of what tasks work on (`World.Aside`).
-/

namespace BuildAgent

theorem World.goesOn_bringOn (world : World) (number : Nat) :
    GoesOn world.transfers (world.bringOn number).transfers := by
  simp only [bringOn]
  split
  · rename_i explicit due found
    split
    · rcases world.reachEndpoint_eq explicit with ⟨_, _, transfers, reached⟩
      simp only [setTransfer, transfers]
      exact .of_set found (Transfer.advances_of_dialing reached)
    · exact .refl _
  · rename_i outcome due found
    split
    · exact .of_set found (Transfer.advances_of_closing outcome due)
    · exact .refl _
  · exact .refl _

theorem World.node_bringOn (world : World) (number : Nat) :
    (world.bringOn number).node = world.node ∧ (world.bringOn number).agenda = world.agenda := by
  simp only [bringOn]
  split
  · rename_i explicit due found
    split
    · rcases world.reachEndpoint_eq explicit with ⟨node, agenda, _, _⟩
      exact ⟨node, agenda⟩
    · exact ⟨rfl, rfl⟩
  · split <;> exact ⟨rfl, rfl⟩
  · exact ⟨rfl, rfl⟩

theorem Happening.frame_apply (happening : Happening) (world : World) :
    (happening.apply world).node = world.node ∧ (happening.apply world).agenda = world.agenda ∧
      (happening.apply world).transfers = world.transfers := by
  cases happening with
  | connect explicit =>
      rcases world.reachEndpoint_eq explicit with ⟨node, agenda, transfers, _⟩
      exact ⟨node, agenda, transfers⟩
  | _ =>
      simp [apply, World.withProvider, World.withEndpoint, World.withLatencies,
        World.tearDownDirectly]

/-- Whether a change is about the clock, the idle time, the shutdown channel or the hold on the node
alone. -/
structure World.Aside (before after : World) : Prop where
  session : after.node.session = before.node.session
  capacity : after.node.capacity = before.node.capacity
  entry : after.node.entry = before.node.entry
  rules : after.node.rules = before.node.rules
  retired : after.node.retired = before.node.retired
  attached : after.node.attached = before.node.attached
  held : after.node.held = true → before.node.held = true
  endpoint : after.endpoint = before.endpoint
  transfers : after.transfers = before.transfers
  agenda : after.agenda = before.agenda

namespace Move

inductive Outside : Move → (World → World) → Prop where
  | bringOn (transfer : Nat) : Outside (.bringOn transfer) fun world => world.bringOn transfer
  | retire : Outside .retire World.retire
  | happen (happening : Happening) : Outside (.happen happening) happening.apply
  | aside (move : Move) (change : World → World)
      (aside : ∀ world : World, world.Aside (change world)) : Outside move change

variable {move : Move} {change : World → World}

theorem outside_of_outside? (changes : move.outside? = some change) : move.Outside change := by
  cases move with
  | bringOn transfer =>
      cases changes
      exact .bringOn transfer
  | retire =>
      cases changes
      exact .retire
  | happen happening =>
      cases changes
      exact .happen happening
  | release =>
      cases changes
      refine .aside _ _ ?_
      intro world
      exact ⟨rfl, rfl, rfl, rfl, rfl, rfl, nofun, rfl, rfl, rfl⟩
  | pass duration =>
      cases changes
      exact .aside _ _ fun world => ⟨rfl, rfl, rfl, rfl, rfl, rfl, id, rfl, rfl, rfl⟩
  | recordActivity =>
      cases changes
      exact .aside _ _ fun world => ⟨rfl, rfl, rfl, rfl, rfl, rfl, id, rfl, rfl, rfl⟩
  | send value =>
      cases changes
      exact .aside _ _ fun world => ⟨rfl, rfl, rfl, rfl, rfl, rfl, id, rfl, rfl, rfl⟩
  | closeSignal =>
      cases changes
      exact .aside _ _ fun world => ⟨rfl, rfl, rfl, rfl, rfl, rfl, id, rfl, rfl, rfl⟩
  | _ => cases changes

/-- From outside, the reboot monitor's business is left alone. -/
theorem frame_outside (changes : move.outside? = some change) (world : World) :
    (change world).node.session = world.node.session ∧ (change world).agenda = world.agenda ∧
      GoesOn world.transfers (change world).transfers ∧
      ((change world).node.held = true → world.node.held = true) := by
  cases outside_of_outside? changes with
  | bringOn transfer =>
      have same := world.node_bringOn transfer
      exact ⟨by rw [same.1], same.2, world.goesOn_bringOn transfer, by rw [same.1]; exact id⟩
  | retire =>
      have through : world.Through (fun _ => True) world.retire := .single .retire trivial world
      exact ⟨through.session_eq, through.agenda_eq, through.goesOn, by
        rw [through.held_eq]; exact id⟩
  | happen happening =>
      have same := happening.frame_apply world
      exact ⟨by rw [same.1], same.2.1, by rw [same.2.2]; exact .refl _, by rw [same.1]; exact id⟩
  | aside _ _ aside =>
      have same := aside world
      exact ⟨same.session, same.agenda, by rw [same.transfers]; exact .refl _, same.held⟩

end Move

end BuildAgent
