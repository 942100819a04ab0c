import BuildAgent.Proofs.World.Guise

/-!
# The journal is only written

Nothing that the node or its surroundings do depends on the journal: a world with another past does
the same things and notes the same events after that past. A past is a guise without an endpoint, so
every change of the world commutes with it.
-/

namespace BuildAgent

namespace World

/-- The world with entries in its journal that are older than all others. -/
def withPast (world : World) (past : List Journal.Entry) : World :=
  { world with journal := world.journal ++ past }

/-- The world without its journal. -/
def bare (world : World) : World :=
  { world with journal := [] }

@[simp]
theorem withPast_bare (world : World) : world.bare.withPast world.journal = world := rfl

variable (world : World) (past : List Journal.Entry)

theorem recordActivity_withPast :
    (world.withPast past).recordActivity = world.recordActivity.withPast past := rfl

theorem withAgenda_withPast (delay : Option Nat) (agenda : Schedule.Agenda) :
    (world.withPast past).withAgenda delay agenda =
      (world.withAgenda delay agenda).withPast past :=
  world.withAgenda_under ⟨past, none⟩ delay agenda

theorem bringOn_withPast (number : Nat) :
    (world.withPast past).bringOn number = (world.bringOn number).withPast past :=
  world.bringOn_under past number

theorem retire_withPast : (world.withPast past).retire = world.retire.withPast past :=
  world.retire_under ⟨past, none⟩

end World

theorem Happening.apply_withPast (happening : Happening) (world : World)
    (past : List Journal.Entry) :
    happening.apply (world.withPast past) = (happening.apply world).withPast past :=
  happening.apply_under world past

end BuildAgent
