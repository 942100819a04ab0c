import BuildAgent.Proofs.Task.Guise
import BuildAgent.Proofs.World.Past

/-!
# No step reads the journal

What the changes of the world have in common, the procedures of the node have too: a step of a task
in a world with another past leads to the same point or the same answer, and to the same world but
for that past (`Point.resume_withPast`).
-/

namespace BuildAgent

namespace Stage

variable {π ρ : Type}

def withPast (stage : Stage π ρ) (past : List Journal.Entry) : Stage π ρ :=
  stage.under ⟨past, none⟩

@[simp]
theorem withPast_pause (point : π) (world : World) (past : List Journal.Entry) :
    (pause point world : Stage π ρ).withPast past = pause point (world.withPast past) := rfl

@[simp]
theorem withPast_done (result : ρ) (world : World) (past : List Journal.Entry) :
    (done result world : Stage π ρ).withPast past = done result (world.withPast past) := rfl

end Stage

variable (world : World) (past : List Journal.Entry)

namespace SyncPoint

theorem enter_withPast (change : TagChange) (tags : List Tag) :
    enter change tags (world.withPast past) = (enter change tags world).withPast past :=
  enter_under world ⟨past, none⟩ change tags

theorem resume_withPast (change : TagChange) (tags : List Tag) (point : SyncPoint) :
    point.resume change tags (world.withPast past) =
      (point.resume change tags world).withPast past :=
  point.resume_under world ⟨past, none⟩ change tags

end SyncPoint

namespace Point

/-- **No step reads the journal.** -/
theorem resume_withPast (point : Point) :
    point.resume (world.withPast past) = (point.resume world).withPast past :=
  point.resume_under world ⟨past, none⟩ (.inl ⟨past, rfl⟩) (.inl ⟨past, rfl⟩)

theorem hasNews_withPast (point : Point) :
    point.hasNews (world.withPast past) = point.hasNews world :=
  point.hasNews_under world ⟨past, none⟩

theorem notice_withPast (point : Point) :
    point.notice (world.withPast past) = (point.notice world).withPast past :=
  point.notice_under world ⟨past, none⟩

end Point

end BuildAgent
