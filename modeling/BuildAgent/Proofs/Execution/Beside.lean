import BuildAgent.Proofs.Execution.Acting
import BuildAgent.Proofs.Task.Uninterrupted
import Mathlib.Data.List.Forall2

/-!
# The same surroundings

Two executions with the same world and the same older tasks may differ in the calls about tags that
are under way in them. As long as these hold the same locks, whatever else happens does the same in
both (`Execution.Beside.ambient`): the older tasks take the same steps, and the world changes in the
same way. Which numbers the calls have, and how many of them wait, is of no consequence.
-/

namespace BuildAgent

/-- Whether a request is about the tags of the definition, or for another definition. -/
def Request.isTagging : Request → Bool
  | changeTags _ => true
  | reconfigure _ => true
  | _ => false

theorem Request.isTagging_entry {request : Request} (asked : request.isTagging = true) :
    request.entry.isTagging = true := by
  cases request <;> first | rfl | cases asked

theorem Point.hasNews_of_isTagging {point : Point} (tagging : point.isTagging = true)
    (world : World) : point.hasNews world = false := by
  cases point <;> first | rfl | cases tagging

/-- Whether a task is a call about tags with a number from a given one on. -/
structure Task.IsTagCall (number : Nat) (task : Task) : Prop where
  late : number ≤ task.number
  asked : task.request.isTagging = true
  tagging : task.point.isTagging = true

/-- Whether a move belongs to the surroundings of the tasks with numbers from a given one on: it
starts no task, is not the step of such a task and leaves the hold on the node. -/
def Move.isAmbient (number : Nat) : Move → Bool
  | start .. => false
  | runMonitor _ => false
  | release => false
  | resume task => task < number
  | _ => true

namespace Execution

/-- The same world and the same older tasks, beside calls about tags that hold the same locks. The
reports are alike, one by one. -/
structure Beside (alike : Report → Report → Prop) (number : Nat) (old calls others : List Task)
    (first second : Execution) : Prop where
  world : first.world = second.world
  left : first.running = old ++ calls
  right : second.running = old ++ others
  older : ∀ task, task ∈ old → task.number < number
  tagging : ∀ task, task ∈ calls ∨ task ∈ others → task.IsTagCall number
  locks : ∀ lock, (calls.any fun task => task.point.holds lock) =
    others.any fun task => task.point.holds lock
  reports : List.Forall₂ alike first.reports second.reports

variable {alike : Report → Report → Prop} {number : Nat} {old calls others : List Task}
  {first second : Execution}

theorem Step.reports_subset {before after : Execution} {move : Move}
    (step : before.Step move after) : before.reports ⊆ after.reports := by
  cases step with
  | advanced move earlier later task stage split takes => exact List.subset_append_right _ _
  | _ => exact List.Subset.refl _

namespace Beside

variable (beside : Beside alike number old calls others first second)

include beside

theorem symm : Beside (flip alike) number old others calls second first :=
  ⟨beside.world.symm, beside.right, beside.left, beside.older,
    fun task among => beside.tagging task among.symm, fun lock => (beside.locks lock).symm,
    .flip beside.reports⟩

theorem mono {alike' : Report → Report → Prop}
    (wider : ∀ report other, alike report other → alike' report other) :
    Beside alike' number old calls others first second :=
  { beside with reports := beside.reports.imp wider }

theorem isReady_eq (task : Task) : first.isReady task = second.isReady task := by
  simp only [isReady]
  rcases task.point.obstacle with _ | obstacle
  · rfl
  · cases obstacle with
    | lock lock =>
        have same := beside.locks lock
        simp only [List.any_eq_not_all_not, Bool.not_inj_iff] at same
        simp only [isClear, isFree, beside.left, beside.right, List.all_append, same]
    | transfer transfer => simp only [isClear, beside.world]
    | time deadline => simp only [isClear, beside.world]

theorem task?_eq {other : Nat} (early : other < number) :
    first.task? other = old.find? fun task => task.number = other := by
  have none_younger : calls.find? (fun task => task.number = other) = none := by
    rw [List.find?_eq_none]
    intro task among
    have late := (beside.tagging task (.inl among)).late
    simp only [decide_eq_true_eq]
    omega
  rw [task?, beside.left, List.find?_append, none_younger, Option.or_none]

/-- A call about tags has no news, and so it takes no notice of the shutdown channel. -/
theorem notice_eq {other : Nat} (late : ¬other < number) : first.notice other = first := by
  simp only [notice]
  split
  · rename_i task found
    have among := List.mem_of_find?_eq_some found
    have same : task.number = other := by simpa using List.find?_some found
    rw [beside.left, List.mem_append] at among
    rcases among with early | call
    · exact absurd (same ▸ beside.older task early) late
    · simp [Point.hasNews_of_isTagging (beside.tagging task (.inl call)).tagging]
  · rfl

/-- A step of an older task leads to the same tasks beside both. -/
theorem settle (same : ∀ report : Report, report.number < number → alike report report)
    (firstly : first.Orderly) (secondly : second.Orderly) {task : Task} (among : task ∈ old)
    (stage : Stage Point Answer) :
    ∃ old', Beside alike number old' calls others (first.settle task stage)
      (second.settle task stage) := by
  rcases List.append_of_mem among with ⟨earlier, later, rfl⟩
  have splitFirst : first.running = earlier ++ task :: (later ++ calls) := by
    simpa using beside.left
  have splitSecond : second.running = earlier ++ task :: (later ++ others) := by
    simpa using beside.right
  rw [settle_eq firstly splitFirst, settle_eq secondly splitSecond]
  refine ⟨earlier ++ (stage.remaining task ++ later), rfl, by simp [replace], by simp [replace], ?_,
    beside.tagging, beside.locks, ?_⟩
  · intro other among
    have older := fun own => beside.older own
    rw [List.mem_append, List.mem_append] at among
    rcases among with early | left | late
    · exact older other (by simp [early])
    · rcases mem_remaining left with ⟨next, world, _, rfl⟩
      exact older task (by simp)
    · exact older other (by simp [late])
  · cases stage with
    | pause next world => exact beside.reports
    | done answer world => exact .cons (same _ (beside.older task among)) beside.reports

theorem withWorld (change : World → World) :
    Beside alike number old calls others (first.withWorld change) (second.withWorld change) :=
  ⟨congrArg change beside.world, beside.left, beside.right, beside.older, beside.tagging,
    beside.locks, beside.reports⟩

theorem byHolder (change : World → World) :
    Beside alike number old calls others (first.byHolder (first.withWorld change))
      (second.byHolder (second.withWorld change)) := by
  simp only [Execution.byHolder, beside.world]
  split
  · exact beside.withWorld change
  · exact beside

/-- **The surroundings do the same** beside both. -/
theorem ambient (same : ∀ report : Report, report.number < number → alike report report)
    (firstly : first.Orderly) (secondly : second.Orderly) {move : Move}
    (around : move.isAmbient number = true) :
    ∃ old', Beside alike number old' calls others (first.apply move) (second.apply move) := by
  cases move with
  | start other request => cases around
  | runMonitor other => cases around
  | release => cases around
  | resume other =>
      have early : other < number := by simpa [Move.isAmbient] using around
      simp only [apply, resume, beside.task?_eq early, beside.symm.task?_eq early]
      split
      · rename_i task found
        rw [beside.isReady_eq, beside.world]
        split
        · exact beside.settle same firstly secondly (List.mem_of_find?_eq_some found) _
        · exact ⟨old, beside⟩
      · exact ⟨old, beside⟩
  | notice other =>
      by_cases early : other < number
      · simp only [apply, notice, beside.task?_eq early, beside.symm.task?_eq early, beside.world]
        split
        · rename_i task found
          split
          · exact beside.settle same firstly secondly (List.mem_of_find?_eq_some found) _
          · exact ⟨old, beside⟩
        · exact ⟨old, beside⟩
      · simp only [apply, beside.notice_eq early, beside.symm.notice_eq early]
        exact ⟨old, beside⟩
  | bringOn transfer => exact ⟨old, beside.withWorld fun world => world.bringOn transfer⟩
  | pass duration =>
      exact ⟨old, beside.withWorld fun world => { world with clock := world.clock + duration }⟩
  | retire => exact ⟨old, beside.byHolder _⟩
  | recordActivity => exact ⟨old, beside.byHolder _⟩
  | send value =>
      exact ⟨old, beside.withWorld fun world =>
        { world with signal := { world.signal with value, count := world.signal.count + 1 } }⟩
  | closeSignal =>
      exact ⟨old, beside.withWorld fun world =>
        { world with signal := { world.signal with isOpen := false } }⟩
  | happen happening => exact ⟨old, beside.withWorld _⟩

/-- A call about tags that is only started does nothing yet. -/
theorem started {other : Nat} {request : Request} (fresh : first.nextNumber ≤ other)
    (late : number ≤ other) (asked : request.isTagging = true) :
    Beside alike number old (calls ++ [⟨other, request, request.entry⟩]) others
      (first.start other request) second := by
  rw [Execution.start, if_pos fresh]
  refine ⟨beside.world, by simp [beside.left], beside.right, beside.older, ?_, ?_, beside.reports⟩
  · intro task among
    rw [List.mem_append, List.mem_singleton] at among
    rcases among with (old | rfl) | own
    · exact beside.tagging task (.inl old)
    · exact ⟨late, asked, Request.isTagging_entry asked⟩
    · exact beside.tagging task (.inr own)
  · intro lock
    rw [List.any_append, beside.locks lock]
    simp [request.holds_entry lock]

end Beside

end Execution

end BuildAgent
