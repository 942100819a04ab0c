import BuildAgent.Node.Execution
import BuildAgent.Proofs.Task.Past

/-!
# Stale looks can be left out

A look that somebody asks for, and that finds its session not live once it holds the session lock,
does nothing but say so. Here such looks are taken out of a list of moves altogether, and the two
runs are compared: step by step the run without them is a shadow of the run with them
(`Execution.Shadows`). The tasks and the reports are the same but for those of the stale looks, and
the worlds are the same but for what these note in the journal.
-/

namespace BuildAgent

/-! ## Worlds that differ in the journal -/

/-- Whether an event says that a look found its session not live. -/
def Journal.Event.isSuperseded : Journal.Event → Bool
  | superseded _ => true
  | _ => false

namespace World

/-- The journal without what looks say that found their session not live. -/
def told (world : World) : List Journal.Entry :=
  world.journal.filter fun entry => !entry.event.isSuperseded

/-- Whether two worlds are the same, up to what stale looks noted. -/
structure Agrees (world other : World) : Prop where
  bare : world.bare = other.bare
  told : world.told = other.told

namespace Agrees

variable {world other : World}

theorem refl (world : World) : world.Agrees world :=
  ⟨rfl, rfl⟩

theorem withPast (world : World) {past past' : List Journal.Entry}
    (same : (past.filter fun entry => !entry.event.isSuperseded) =
      past'.filter fun entry => !entry.event.isSuperseded) :
    (world.withPast past).Agrees (world.withPast past') := by
  refine ⟨rfl, ?_⟩
  simp only [World.told, World.withPast, List.filter_append, same]

/-- What commutes with the past treats worlds alike that agree. -/
theorem map {change : World → World}
    (commutes : ∀ world past, change (world.withPast past) = (change world).withPast past)
    (agrees : world.Agrees other) : (change world).Agrees (change other) := by
  have first : change world = (change world.bare).withPast world.journal := by
    rw [← commutes, withPast_bare]
  have second : change other = (change world.bare).withPast other.journal := by
    rw [agrees.bare, ← commutes, withPast_bare]
  rw [first, second]
  exact withPast _ agrees.told

/-- What cannot be told from the past is the same in worlds that agree. -/
theorem view {α : Type} (view : World → α)
    (blind : ∀ world past, view (world.withPast past) = view world)
    (agrees : world.Agrees other) : view world = view other := by
  rw [← withPast_bare world, ← withPast_bare other, blind, blind, agrees.bare]

theorem note_superseded (agrees : world.Agrees other) (session : Nat) :
    (world.note (.superseded session)).Agrees other :=
  ⟨agrees.bare, agrees.told⟩

end Agrees

end World

/-- A procedure that commutes with the past does the same in worlds that agree. -/
theorem World.Agrees.stage {π ρ : Type} {world other : World} {run : World → Stage π ρ}
    (commutes : ∀ world past, run (world.withPast past) = (run world).withPast past)
    (agrees : world.Agrees other) : ∃ stage : Stage π ρ,
      run world = stage.withPast world.journal ∧ run other = stage.withPast other.journal := by
  refine ⟨run world.bare, ?_, ?_⟩
  · rw [← commutes, World.withPast_bare]
  · rw [agrees.bare, ← commutes, World.withPast_bare]

/-! ## What is left out -/

/-- The number of the task that a move is about. -/
def Move.number? : Move → Option Nat
  | start number _ => some number
  | resume number => some number
  | notice number => some number
  | runMonitor number => some number
  | _ => none

/-- Whether a move is about a task that is left out. -/
def Move.isOmitted (omitted : Nat → Bool) (move : Move) : Bool :=
  move.number?.any omitted

namespace Request

def isLook : Request → Bool
  | look _ => true
  | _ => false

/-- Whether a request is a look that finds its session not live. -/
def isStale (request : Request) (record : Reboot.Session) : Bool :=
  match request with
  | look session => !record.isCurrent session
  | _ => false

end Request

namespace Execution

/-- Whether the tasks with some numbers can be left out of a move. They are looks that somebody asks
for, who holds the node until the answer is there, and if one of them gets the session lock it finds
its session not live. Whoever starts a task gives it a number that is not taken. -/
def canOmit (omitted : Nat → Bool) (execution : Execution) (move : Move) : Bool :=
  (execution.world.node.held || execution.running.all fun task => !omitted task.number) &&
  match move with
  | .start number request =>
    execution.nextNumber ≤ number && (!omitted number || request.isLook)
  | .runMonitor number => execution.nextNumber ≤ number && !omitted number
  | .resume number =>
    !omitted number || !execution.isFree .session ||
      execution.running.all fun task =>
        task.number ≠ number || task.request.isStale execution.world.node.session
  | _ => true

/-- Whether the tasks with some numbers can be left out all along a list of moves. -/
def canOmitAll (omitted : Nat → Bool) : Execution → List Move → Bool
  | _, [] => true
  | execution, move :: moves =>
    execution.canOmit omitted move && (execution.apply move).canOmitAll omitted moves

/-- Whether an execution is another one without the tasks of some numbers, all of which wait for the
session lock. -/
structure Shadows (omitted : Nat → Bool) (full rest : Execution) : Prop where
  agrees : full.world.Agrees rest.world
  running : rest.running = full.running.filter fun task => !omitted task.number
  reports : rest.reports = full.reports.filter fun report => !omitted report.number
  numbers : rest.nextNumber ≤ full.nextNumber
  waiting : ∀ task, task ∈ full.running → omitted task.number = true → ∃ session,
    task.point = .looking session .waiting ∧ task.request = .look session

namespace Shadows

variable {omitted : Nat → Bool} {full rest : Execution}

/-! ## What is the same in both -/

theorem node (shadows : full.Shadows omitted rest) : rest.world.node = full.world.node :=
  (shadows.agrees.view World.node fun _ _ => rfl).symm

theorem isFree (shadows : full.Shadows omitted rest) (lock : Lock) :
    rest.isFree lock = full.isFree lock := by
  have idle : ∀ task, task ∈ full.running → omitted task.number = true →
      (!task.point.holds lock) = true := by
    intro task running left
    rcases shadows.waiting task running left with ⟨session, looks, _⟩
    rw [looks]
    rfl
  rw [Bool.eq_iff_iff]
  simp only [Execution.isFree, shadows.running, List.all_eq_true, List.mem_filter]
  constructor
  · intro free task running
    rcases left : omitted task.number with _ | _
    · exact free task ⟨running, by simp [left]⟩
    · exact idle task running left
  · intro free task running
    exact free task running.1

theorem isReady (shadows : full.Shadows omitted rest) (task : Task) :
    rest.isReady task = full.isReady task := by
  have outcome : ∀ number, rest.world.outcome? number = full.world.outcome? number := fun number =>
    (shadows.agrees.view (fun world => world.outcome? number) fun _ _ => rfl).symm
  have clock : rest.world.clock = full.world.clock :=
    (shadows.agrees.view World.clock fun _ _ => rfl).symm
  simp only [Execution.isReady]
  rcases task.point.obstacle with _ | obstacle
  · rfl
  · cases obstacle with
    | lock lock => exact shadows.isFree lock
    | transfer number => simp only [isClear, outcome]
    | time deadline => simp only [isClear, clock]

theorem task?_eq (shadows : full.Shadows omitted rest) {number : Nat}
    (kept : omitted number = false) : rest.task? number = full.task? number := by
  simp only [Execution.task?, shadows.running, List.find?_filter]
  congr 1
  funext task
  by_cases same : task.number = number
  · simp [same, kept]
  · simp [same]

/-! ## Steps that are not left out -/

theorem withWorld (shadows : full.Shadows omitted rest) (change : World → World)
    (commutes : ∀ world past, change (world.withPast past) = (change world).withPast past) :
    (full.withWorld change).Shadows omitted (rest.withWorld change) :=
  ⟨shadows.agrees.map commutes, shadows.running, shadows.reports, shadows.numbers,
    shadows.waiting⟩

theorem settle (shadows : full.Shadows omitted rest) {task : Task}
    (kept : omitted task.number = false) (stage : Stage Point Answer) :
    (full.settle task (stage.withPast full.world.journal)).Shadows omitted
      (rest.settle task (stage.withPast rest.world.journal)) := by
  cases stage with
  | pause point world =>
      refine ⟨.withPast world shadows.agrees.told, ?_, shadows.reports, shadows.numbers, ?_⟩
      · simp only [Execution.settle, Stage.withPast_pause, shadows.running, List.filter_map]
        congr 2
        funext other
        simp only [Function.comp_apply]
        split <;> rfl
      · intro other others left
        simp only [Execution.settle, Stage.withPast_pause, List.mem_map] at others
        rcases others with ⟨old, running, rfl⟩
        by_cases same : old.number = task.number
        · simp [same, kept] at left
        · simp only [same, if_false] at left ⊢
          exact shadows.waiting old running left
  | done answer world =>
      refine ⟨.withPast world shadows.agrees.told, ?_, ?_, shadows.numbers, ?_⟩
      · simp only [Execution.settle, Stage.withPast_done, shadows.running, List.filter_filter]
        congr 1
        funext other
        exact Bool.and_comm _ _
      · simp only [Execution.settle, Stage.withPast_done, shadows.reports, List.filter_cons, kept]
        rfl
      · intro other others left
        simp only [Execution.settle, Stage.withPast_done, List.mem_filter] at others
        exact shadows.waiting other others.1 left

theorem resume (shadows : full.Shadows omitted rest) {number : Nat}
    (kept : omitted number = false) :
    (full.resume number).Shadows omitted (rest.resume number) := by
  simp only [Execution.resume, shadows.task?_eq kept]
  split
  · rename_i task found
    have same : task.number = number := by simpa using List.find?_some found
    rw [shadows.isReady]
    split
    · rcases shadows.agrees.stage fun world past => task.point.resume_withPast world past with
        ⟨stage, first, second⟩
      rw [first, second]
      exact shadows.settle (same ▸ kept) stage
    · exact shadows
  · exact shadows

theorem notice (shadows : full.Shadows omitted rest) {number : Nat}
    (kept : omitted number = false) :
    (full.notice number).Shadows omitted (rest.notice number) := by
  simp only [Execution.notice, shadows.task?_eq kept]
  split
  · rename_i task found
    have same : task.number = number := by simpa using List.find?_some found
    have news : task.point.hasNews rest.world = task.point.hasNews full.world :=
      (shadows.agrees.view task.point.hasNews fun world past =>
        task.point.hasNews_withPast world past).symm
    rw [news]
    split
    · rcases shadows.agrees.stage fun world past => task.point.notice_withPast world past with
        ⟨stage, first, second⟩
      rw [first, second]
      exact shadows.settle (same ▸ kept) stage
    · exact shadows
  · exact shadows

theorem start (shadows : full.Shadows omitted rest) {number : Nat}
    (fresh : full.nextNumber ≤ number) (kept : omitted number = false) (request : Request) :
    (full.start number request).Shadows omitted (rest.start number request) := by
  have also := Nat.le_trans shadows.numbers fresh
  simp only [Execution.start, fresh, also, if_true]
  refine ⟨shadows.agrees, ?_, shadows.reports, Nat.le_refl _, ?_⟩
  · simp [shadows.running, kept]
  · intro task running left
    rw [List.mem_append, List.mem_singleton] at running
    rcases running with old | rfl
    · exact shadows.waiting task old left
    · simp [kept] at left

theorem runMonitor (shadows : full.Shadows omitted rest) {number : Nat}
    (fresh : full.nextNumber ≤ number) (kept : omitted number = false)
    (held : full.world.node.held = true ∨
      ∀ task, task ∈ full.running → omitted task.number = false) :
    (full.runMonitor number).Shadows omitted (rest.runMonitor number) := by
  have also := Nat.le_trans shadows.numbers fresh
  have scheduled : rest.world.scheduled? = full.world.scheduled? :=
    (shadows.agrees.view World.scheduled? fun _ _ => rfl).symm
  simp only [Execution.runMonitor, scheduled]
  split
  · exact shadows
  · rename_i session delay agenda looked
    simp only [fresh, also, if_true]
    have taken := shadows.withWorld (fun world => world.withAgenda delay agenda)
      fun world past => world.withAgenda_withPast past delay agenda
    have hasNode : (rest.withWorld fun world => world.withAgenda delay agenda).hasNode =
        (full.withWorld fun world => world.withAgenda delay agenda).hasNode := by
      simp only [Execution.hasNode, taken.node]
      rcases held with still | none_left
      · cases delay <;> simp [Execution.withWorld, World.withAgenda, World.note, still]
      · have all : rest.running = full.running := by
          rw [shadows.running, List.filter_eq_self]
          intro task running
          simp [none_left task running]
        simp only [Execution.withWorld, all]
    simp only [Execution.withWorld] at hasNode taken
    rw [hasNode]
    split
    · exact taken.start fresh kept (.look session)
    · exact taken.withWorld (fun world => world.note (.monitorWithoutNode session)) fun _ _ => rfl

theorem kept (shadows : full.Shadows omitted rest) {move : Move}
    (permitted : full.canOmit omitted move = true) (stays : move.isOmitted omitted = false) :
    (full.apply move).Shadows omitted (rest.apply move) := by
  simp only [canOmit, Bool.and_eq_true, Bool.or_eq_true, List.all_eq_true,
    Bool.not_eq_true'] at permitted
  rcases permitted with ⟨held, permitted⟩
  cases move with
  | start number request =>
      simp only [apply, byHolder, shadows.node]
      split
      · simp only [Bool.and_eq_true, decide_eq_true_eq] at permitted
        exact shadows.start permitted.1 stays request
      · exact shadows
  | resume number => exact shadows.resume stays
  | notice number => exact shadows.notice stays
  | bringOn transfer =>
      simp only [apply]
      refine shadows.withWorld _ ?_
      intro world past
      exact world.bringOn_withPast past transfer
  | runMonitor number =>
      simp only [Bool.and_eq_true, decide_eq_true_eq] at permitted
      exact shadows.runMonitor permitted.1 stays held
  | retire =>
      simp only [apply, byHolder, shadows.node]
      split
      · exact shadows.withWorld _ World.retire_withPast
      · exact shadows
  | recordActivity =>
      simp only [apply, byHolder, shadows.node]
      split
      · exact shadows.withWorld _ World.recordActivity_withPast
      · exact shadows
  | send value =>
      simp only [apply]
      refine shadows.withWorld _ ?_
      intro world past
      rfl
  | pass duration =>
      simp only [apply]
      refine shadows.withWorld _ ?_
      intro world past
      rfl
  | release =>
      simp only [apply]
      refine shadows.withWorld _ ?_
      intro world past
      rfl
  | closeSignal =>
      simp only [apply]
      refine shadows.withWorld _ ?_
      intro world past
      rfl
  | happen happening => exact shadows.withWorld _ happening.apply_withPast

/-! ## Steps that are left out -/

theorem omittedStart (shadows : full.Shadows omitted rest) {number : Nat} {request : Request}
    (fresh : full.nextNumber ≤ number) (left : omitted number = true)
    (looks : request.isLook = true) : (full.start number request).Shadows omitted rest := by
  simp only [Execution.start, fresh, if_true]
  refine ⟨shadows.agrees, ?_, shadows.reports, ?_, ?_⟩
  · simp [shadows.running, left]
  · exact Nat.le_succ_of_le (Nat.le_trans shadows.numbers fresh)
  · intro task running omits
    rw [List.mem_append, List.mem_singleton] at running
    rcases running with old | rfl
    · exact shadows.waiting task old omits
    · cases request with
      | look session => exact ⟨session, rfl, rfl⟩
      | _ => cases looks

/-- A stale look that gets the session lock ends, and all that it leaves is its report. -/
theorem omittedResume (shadows : full.Shadows omitted rest) {number : Nat}
    (left : omitted number = true)
    (stale : full.isFree .session = false ∨ ∀ task, task ∈ full.running →
      task.number ≠ number ∨ task.request.isStale full.world.node.session = true) :
    (full.resume number).Shadows omitted rest := by
  simp only [Execution.resume]
  split
  · rename_i task found
    have running : task ∈ full.running := List.mem_of_find?_eq_some found
    have same : task.number = number := by simpa using List.find?_some found
    subst same
    split
    · rename_i ready
      rcases shadows.waiting task running left with ⟨session, looks, asked⟩
      have free : full.isFree .session = true := by
        rw [Execution.isReady, looks] at ready
        exact ready
      have dead : full.world.node.session.isCurrent session = false := by
        rcases stale with locked | stale
        · simp [free] at locked
        · simpa [asked, Request.isStale] using stale task running
      have ends : task.point.resume full.world =
          .done (.looked .superseded) (full.world.note (.superseded session)) := by
        rw [looks]
        simp only [Point.resume, LookPoint.resume, LookPoint.begin, dead]
        rfl
      rw [ends]
      refine ⟨shadows.agrees.note_superseded session, ?_, ?_, shadows.numbers, ?_⟩
      · simp only [Execution.settle, shadows.running, List.filter_filter]
        refine List.filter_congr ?_
        intro other others
        by_cases same : other.number = task.number
        · simp [same, left]
        · simp [same]
      · simp [Execution.settle, shadows.reports, left]
      · intro other others omits
        simp only [Execution.settle, List.mem_filter] at others
        exact shadows.waiting other others.1 omits
    · exact shadows
  · exact shadows

theorem omittedNotice (shadows : full.Shadows omitted rest) {number : Nat}
    (left : omitted number = true) : (full.notice number).Shadows omitted rest := by
  simp only [Execution.notice]
  split
  · rename_i task found
    have running : task ∈ full.running := List.mem_of_find?_eq_some found
    have same : task.number = number := by simpa using List.find?_some found
    rcases shadows.waiting task running (same ▸ left) with ⟨session, looks, _⟩
    simp only [looks, Point.hasNews]
    exact shadows
  · exact shadows

theorem omitted_step (shadows : full.Shadows omitted rest) {move : Move}
    (permitted : full.canOmit omitted move = true) (leaves : move.isOmitted omitted = true) :
    (full.apply move).Shadows omitted rest := by
  simp only [canOmit, Bool.and_eq_true] at permitted
  rcases permitted with ⟨held, permitted⟩
  cases move with
  | start number request =>
      have left : omitted number = true := leaves
      simp only [left, Bool.and_eq_true, decide_eq_true_eq, Bool.not_true, Bool.false_or]
        at permitted
      simp only [apply, byHolder]
      split
      · exact shadows.omittedStart permitted.1 left permitted.2
      · exact shadows
  | resume number =>
      have left : omitted number = true := leaves
      refine shadows.omittedResume left ?_
      simpa [left] using permitted
  | notice number => exact shadows.omittedNotice leaves
  | runMonitor number =>
      have left : omitted number = true := leaves
      simp [left] at permitted
  | _ => cases leaves

/-! ## Runs -/

theorem run (shadows : full.Shadows omitted rest) (moves : List Move)
    (permitted : full.canOmitAll omitted moves = true) :
    (full.run moves).Shadows omitted
      (rest.run (moves.filter fun move => !move.isOmitted omitted)) := by
  induction moves generalizing full rest with
  | nil => exact shadows
  | cons move moves ih =>
      simp only [canOmitAll, Bool.and_eq_true] at permitted
      rcases leaves : move.isOmitted omitted with _ | _
      · rw [List.filter_cons_of_pos (by simp [leaves])]
        exact ih (shadows.kept permitted.1 leaves) permitted.2
      · rw [List.filter_cons_of_neg (by simp [leaves])]
        exact ih (shadows.omitted_step permitted.1 leaves) permitted.2

end Shadows

/-- With no task under way and none reported, an execution is its own shadow. -/
theorem shadows_of_fresh (omitted : Nat → Bool) {execution : Execution}
    (idle : execution.running = []) (silent : execution.reports = []) :
    execution.Shadows omitted execution := by
  refine ⟨.refl _, ?_, ?_, Nat.le_refl _, ?_⟩
  · simp [idle]
  · simp [silent]
  · simp [idle]

end Execution

end BuildAgent
