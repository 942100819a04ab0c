import BuildAgent.Node.World

/-!
# Stages of a procedure

A procedure that takes several steps stands at a point between them, where everything else may run.
A step leads to the next point or to the result, and the world changes on the way: that is a
`Stage`. `Stage.andThen` puts a procedure that is part of another one in its place.
-/

namespace BuildAgent

/-- Where a step of a procedure leads. -/
inductive Stage (π ρ : Type) where
  | pause (point : π) (world : World)
  | done (result : ρ) (world : World)

namespace Stage

variable {π π' ρ ρ' : Type}

def world : Stage π ρ → World
  | pause _ world => world
  | done _ world => world

/-- The step of a part, seen as a step of the whole: a point of the part is a point of the whole,
and the whole goes on with the part's result in the same step. -/
def andThen (stage : Stage π ρ) (wrap : π → π') (next : ρ → World → Stage π' ρ') :
    Stage π' ρ' :=
  match stage with
  | pause point world => pause (wrap point) world
  | done result world => next result world

@[simp]
theorem andThen_pause (point : π) (world : World) (wrap : π → π')
    (next : ρ → World → Stage π' ρ') :
    (pause point world : Stage π ρ).andThen wrap next = pause (wrap point) world := rfl

@[simp]
theorem andThen_done (result : ρ) (world : World) (wrap : π → π')
    (next : ρ → World → Stage π' ρ') :
    (done result world : Stage π ρ).andThen wrap next = next result world := rfl

end Stage

end BuildAgent
