import BuildAgent.Proofs.Monitor.Bookings
import BuildAgent.Proofs.Task.Outlook

/-!
# Calls that are left alone

A call is left alone when nothing moves but the call itself, the time, and the work on the link that
it has started (`Move.isOf`). Others may be under way, but they keep still.

What such a call goes through is a matter of its point and of the world alone: `Point.Walks` says to
which stages it can come. `Execution.exists_walk` ties the two together, so a law about every walk
is a law about every call that is left alone. That a call comes to what was foreseen
(`Point.Walks.goesWell`) is such a law. `Execution.exists_rest` says that a call can always be
carried to its end.
-/

namespace BuildAgent

/-- Whether a move belongs to a call that is left alone: the call takes its step, work goes on that
was started since the call, or time passes. -/
def Move.isOf (number started : Nat) : Move → Bool
  | resume other => other = number
  | bringOn transfer => started ≤ transfer
  | pass _ => true
  | _ => false

theorem Move.isOf_of_waitsFor {number started transfer : Nat} {move : Move}
    (waits : move.waitsFor transfer = true) (own : started ≤ transfer) :
    move.isOf number started = true := by
  cases move with
  | bringOn other =>
      obtain rfl : other = transfer := by simpa [Move.waitsFor] using waits
      simpa [Move.isOf] using own
  | pass duration => rfl
  | _ => cases waits

namespace Stage

variable {π ρ : Type}

/-- Lets the world change where a procedure stands. -/
def within (change : World → World) : Stage π ρ → Stage π ρ
  | pause point world => pause point (change world)
  | done result world => done result (change world)

end Stage

namespace Point

/-- The stages to which a call that is left alone can come from a point. -/
inductive Walks (point : Point) (world : World) : Stage Point Answer → Prop
  | begun : Walks point world (.pause point world)
  | resumed {next : Point} {middle : World} (earlier : Walks point world (.pause next middle))
      (known : ∀ transfer, next.obstacle = some (.transfer transfer) →
        (middle.outcome? transfer).isSome = true) :
      Walks point world (next.resume middle)
  | passed {stage : Stage Point Answer} (earlier : Walks point world stage) (duration : Nat) :
      Walks point world
        (stage.within fun world => { world with clock := world.clock + duration })
  | broughtOn {stage : Stage Point Answer} (earlier : Walks point world stage) (transfer : Nat)
      (own : world.transfers.length ≤ transfer) :
      Walks point world (stage.within fun world => world.bringOn transfer)

end Point

/-! ## What a walk comes to -/

theorem Proceeds.length_le {before after : List Transfer} (proceeds : Proceeds before after) :
    before.length ≤ after.length := by
  by_contra fewer
  have inside : after.length < before.length := Nat.lt_of_not_le fewer
  rcases proceeds _ _ (List.getElem?_eq_getElem inside) with ⟨later, found, _⟩
  rw [List.getElem?_eq_none (Nat.le_refl _)] at found
  cases found

/-- Whether a call stands as it was foreseen. Once it has ended, this is what comes of it. -/
def Stage.IsForeseen (before : World) (free : Lock → Bool) (target : Nat → Answer × World) :
    Stage Point Answer → Prop
  | pause point world => (Point.forecast before.transfers.length free).own point ∧
      (Point.forecast before.transfers.length free).outlook point
        (world.outline before.transfers.length) = target
  | done answer world => ∃ now, before.clock ≤ now ∧ now ≤ world.clock ∧
      (answer, world.outline before.transfers.length) = target now

/-- What is known of a call that is left alone. -/
structure Stage.GoesWell (before : World) (free : Lock → Bool) (target : Nat → Answer × World)
    (stage : Stage Point Answer) : Prop where
  goesOn : GoesOn before.transfers stage.world.transfers
  later : before.clock ≤ stage.world.clock
  foreseen : stage.IsForeseen before free target

namespace Stage.GoesWell

variable {before : World} {free : Lock → Bool} {target : Nat → Answer × World}
  {stage : Stage Point Answer}

/-- A change that no outline shows leaves the call as it was foreseen. -/
theorem within {change : World → World} (goesWell : stage.GoesWell before free target)
    (goesOn : GoesOn stage.world.transfers (change stage.world).transfers)
    (clock : stage.world.clock ≤ (change stage.world).clock)
    (outline : (change stage.world).outline before.transfers.length =
      stage.world.outline before.transfers.length) :
    (stage.within change).GoesWell before free target := by
  have later := Nat.le_trans goesWell.later clock
  cases stage with
  | pause point world =>
      refine ⟨goesWell.goesOn.trans goesOn, later, goesWell.foreseen.1, ?_⟩
      exact (congrArg _ outline).trans goesWell.foreseen.2
  | done answer world =>
      rcases goesWell.foreseen with ⟨now, since, before, answered⟩
      refine ⟨goesWell.goesOn.trans goesOn, later, now, since, Nat.le_trans before clock, ?_⟩
      exact (congrArg _ outline).trans answered

end Stage.GoesWell

namespace Point.Walks

variable {before : World} {free : Lock → Bool} {point : Point} {stage : Stage Point Answer}

/-- **A call that is left alone comes to what was foreseen.** -/
theorem goesWell (own : (forecast before.transfers.length free).own point)
    (walks : point.Walks before stage) :
    stage.GoesWell before free ((forecast before.transfers.length free).outlook point
      (before.outline before.transfers.length)) := by
  induction walks with
  | begun => exact ⟨.refl _, Nat.le_refl _, own, rfl⟩
  | passed earlier duration well => exact well.within (.refl _) (Nat.le_add_right _ _) rfl
  | @broughtOn stage earlier transfer later well =>
      refine well.within (stage.world.goesOn_bringOn transfer)
        (Nat.le_of_eq (stage.world.clock_bringOn transfer).symm) ?_
      exact stage.world.outline_bringOn before.transfers.length later
        (well.goesOn.added transfer · later)
  | @resumed next middle earlier known well =>
      rcases well with ⟨goesOn, later, alone, foreseen⟩
      have clock := next.clock_resume middle
      have meets := meets_resume alone known (Proceeds.length_le goesOn.kept)
      rw [foreseen] at meets
      refine ⟨goesOn.trans (goesOn_of_own alone middle), clock ▸ later, ?_⟩
      rcases step : next.resume middle with ⟨further, after⟩ | ⟨answer, after⟩
      · rw [step] at meets
        exact ⟨meets.1, meets.2.2⟩
      · rw [step] at meets clock
        exact ⟨after.clock, clock ▸ later, Nat.le_refl _, meets⟩

end Point.Walks

/-! ## Calls among others -/

namespace Execution

variable {execution : Execution} {earlier later : List Task} {task : Task}

theorem withWorld_replace (change : World → World) (stage : Stage Point Answer) :
    (execution.replace earlier task later stage).withWorld change =
      execution.replace earlier task later (stage.within change) := by
  cases stage <;> rfl

/-- Two steps of one task, one after the other, are a step to where the second one leads. -/
theorem replace_replace (next : Point) (middle : World) (stage : Stage Point Answer) :
    (execution.replace earlier task later (.pause next middle)).replace earlier
        { task with point := next } later stage =
      execution.replace earlier task later stage := by
  cases stage <;> rfl

/-- The next step of a call that is left alone, if it takes one. -/
theorem walks_resume (orderly : execution.Orderly)
    (split : execution.running = earlier ++ task :: later) {stage : Stage Point Answer}
    (stands : (execution.replace earlier task later stage).Orderly)
    (walks : task.point.Walks execution.world stage) :
    ∃ after, task.point.Walks execution.world after ∧
      (execution.replace earlier task later stage).resume task.number =
        execution.replace earlier task later after := by
  cases stage with
  | pause next middle =>
      let standing := execution.replace earlier task later (.pause next middle)
      let still : Task := { task with point := next }
      by_cases ready : standing.isReady still = true
      · have parted : standing.running = earlier ++ still :: later := rfl
        refine ⟨next.resume middle, .resumed walks fun transfer waits => ?_, ?_⟩
        · simp only [isReady, still, waits, isClear] at ready
          exact ready
        · exact (resume_eq_replace stands parted ready).trans
            (replace_replace next middle (next.resume middle))
      · refine ⟨_, walks, ?_⟩
        have found : standing.task? task.number = some still :=
          task?_of_mem stands (mem_of_eq_append rfl)
        simp only [resume]
        rw [found]
        exact if_neg ready
  | done answer after =>
      refine ⟨_, walks, ?_⟩
      rw [resume, task?_replace orderly split]
      rfl

/-- **A call that is left alone walks by itself**, and the others stay where they are. -/
theorem exists_walk (orderly : execution.Orderly)
    (split : execution.running = earlier ++ task :: later) (steps : List Move)
    (own : ∀ move ∈ steps,
      move.isOf task.number execution.world.transfers.length = true) :
    ∃ stage, task.point.Walks execution.world stage ∧
      execution.run steps = execution.replace earlier task later stage := by
  induction steps using List.reverseRecOn with
  | nil =>
      refine ⟨_, .begun, ?_⟩
      simp only [run, List.foldl_nil, replace, Stage.remaining, Stage.reported, Stage.world,
        List.nil_append, List.singleton_append, ← split]
  | append_singleton steps move hypothesis =>
      rcases hypothesis fun other made => own other (List.mem_append_left _ made) with
        ⟨stage, walks, reached⟩
      have stands := orderly.run steps
      have belongs := own move (List.mem_append_right _ (List.mem_singleton_self move))
      rw [run_concat]
      rw [reached] at stands ⊢
      cases move with
      | resume number =>
          obtain rfl : number = task.number := by simpa [Move.isOf] using belongs
          exact walks_resume orderly split stands walks
      | bringOn transfer =>
          have since : execution.world.transfers.length ≤ transfer := by
            simpa [Move.isOf] using belongs
          exact ⟨_, .broughtOn walks transfer since,
            withWorld_replace (fun world => world.bringOn transfer) stage⟩
      | pass duration => exact ⟨_, .passed walks duration,
          withWorld_replace (fun world => { world with clock := world.clock + duration }) stage⟩
      | _ => cases belongs

/-! ## Calls come to their end -/

theorem Teardowns.run (orderly : execution.Orderly) (teardowns : execution.Teardowns)
    (moves : List Move) : (execution.run moves).Teardowns ∧
      Proceeds execution.world.transfers (execution.run moves).world.transfers := by
  induction moves generalizing execution with
  | nil => exact ⟨teardowns, .refl _⟩
  | cons move moves hypothesis =>
      have step := step_apply orderly move
      rcases hypothesis (orderly.step step) (teardowns.step step) with ⟨still, proceeds⟩
      exact ⟨still, step.proceeds.trans proceeds⟩

/-- A call whose locks are free is ready at once, or when its own teardown has ended. -/
theorem exists_own_wait {started : Nat} {free : Lock → Bool} (teardowns : execution.Teardowns)
    (split : execution.running = earlier ++ task :: later)
    (unheld : ∀ lock, free lock = true → ∀ other ∈ earlier ++ later,
      other.point.holds lock = false)
    (own : (Point.forecast started free).own task.point) :
    ∃ waits, (∀ move ∈ waits, move.isOf task.number started = true) ∧
      (execution.run waits).running = execution.running ∧
      (execution.run waits).isReady task = true := by
  have running := mem_of_eq_append split
  rcases obstructs : task.point.obstacle with _ | obstacle
  · exact ⟨[], by simp, rfl, by simp only [isReady, obstructs, isClear]⟩
  · have passes := Point.isOwn_obstacle own obstructs
    cases obstacle with
    | lock lock =>
        refine ⟨[], by simp, rfl, ?_⟩
        simp only [run, List.foldl_nil, isReady, obstructs, isClear, isFree, List.all_eq_true]
        intro other among
        have released : other.point.holds lock = false := by
          by_cases same : other = task
          · -- Nobody waits for a lock of his own.
            by_contra holds
            subst same
            exact Nat.lt_irrefl _ (Point.depth_lt obstructs (by simpa using holds))
          · refine unheld lock passes other ?_
            rw [split, List.mem_append, List.mem_cons] at among
            rw [List.mem_append]
            exact among.imp_right fun right => right.resolve_left same
        simp [released]
    | transfer number =>
        rcases exists_wait (teardowns task number running obstructs) with
          ⟨waits, only, same, _, ended⟩
        refine ⟨waits, fun move made => Move.isOf_of_waitsFor (only move made) passes, same, ?_⟩
        rw [isReady, obstructs]
        exact ended
    | time deadline => cases passes

/-- A call whose locks are free can take its next step, and keeps to its forecast then. -/
theorem exists_own_step {started : Nat} {free : Lock → Bool} (orderly : execution.Orderly)
    (teardowns : execution.Teardowns) (split : execution.running = earlier ++ task :: later)
    (unheld : ∀ lock, free lock = true → ∀ other ∈ earlier ++ later,
      other.point.holds lock = false)
    (own : (Point.forecast started free).own task.point)
    (reached : started ≤ execution.world.transfers.length) :
    ∃ (moves : List Move) (waited : Execution) (stage : Stage Point Answer)
      (target : Nat → Answer × World),
      (∀ move ∈ moves, move.isOf task.number started = true) ∧
      execution.run moves = waited.replace earlier task later stage ∧ waited.Orderly ∧
      waited.running = earlier ++ task :: later ∧
      stage.Meets started (Point.forecast started free) (World.AnswersInTime started)
        ((Point.forecast started free).steps task.point) target := by
  rcases exists_own_wait teardowns split unheld own with ⟨waits, only, same, ready⟩
  let waited := execution.run waits
  have order : waited.Orderly := orderly.run waits
  have parted : waited.running = earlier ++ task :: later := same.trans split
  have proceeds := (teardowns.run orderly waits).2
  have known : ∀ transfer, task.point.obstacle = some (.transfer transfer) →
      (waited.world.outcome? transfer).isSome = true := by
    intro transfer waits
    simpa only [isReady, waits, isClear] using ready
  refine ⟨waits ++ [.resume task.number], waited, task.point.resume waited.world, _, ?_, ?_, order,
    parted, Point.meets_resume own known (Nat.le_trans reached proceeds.length_le)⟩
  · intro move made
    rcases List.mem_append.mp made with early | last
    · exact only move early
    · cases List.mem_singleton.mp last
      exact decide_eq_true rfl
  · rw [run_concat]
    exact resume_eq_replace order parted ready

/-- **A call whose locks are free can be carried to its end by its own moves.** -/
theorem exists_rest {started : Nat} {free : Lock → Bool} (orderly : execution.Orderly)
    (teardowns : execution.Teardowns) (split : execution.running = earlier ++ task :: later)
    (unheld : ∀ lock, free lock = true → ∀ other ∈ earlier ++ later,
      other.point.holds lock = false)
    (own : (Point.forecast started free).own task.point)
    (reached : started ≤ execution.world.transfers.length) :
    ∃ rest, (∀ move ∈ rest, move.isOf task.number started = true) ∧
      (execution.run rest).task? task.number = none := by
  induction steps : (Point.forecast started free).steps task.point using Nat.strongRecOn
    generalizing execution task with
  | ind count hypothesis =>
      rcases exists_own_step orderly teardowns split unheld own reached with
        ⟨moves, waited, stage, target, only, led, order, parted, meets⟩
      rcases teardowns.run orderly moves with ⟨closing, proceeds⟩
      have stands := orderly.run moves
      cases stage with
      | pause next middle =>
          have unended : (execution.run moves).running =
              earlier ++ { task with point := next } :: later := by
            rw [led]
            rfl
          rcases hypothesis _ (steps ▸ meets.2.1) stands closing unended meets.1
            (Nat.le_trans reached proceeds.length_le) rfl with ⟨rest, theirs, ended⟩
          refine ⟨moves ++ rest, ?_, ?_⟩
          · intro move made
            exact (List.mem_append.mp made).elim (only move) (theirs move)
          · rw [run_append]
            exact ended
      | done answer after =>
          exact ⟨moves, only, led ▸ task?_replace order parted (.done answer after)⟩

/-! ## Requests that are left alone -/

/-- What is left of a request that was answered at a time: its answer, beside everything that was
under way before. -/
structure Answered (before : Execution) (number : Nat) (request : Request) (answer : Answer)
    (now : Nat) (after : Execution) : Prop where
  running : after.running = before.running
  reports : after.reports = ⟨number, request, answer⟩ :: before.reports
  since : before.world.clock ≤ now
  passed : now ≤ after.world.clock
  goesOn : GoesOn before.world.transfers after.world.transfers

/-- The task of a request that has just been made. -/
def entered (number : Nat) (request : Request) : Task :=
  ⟨number, request, request.entry⟩

/-- Whether a task that was started since an execution has come to a stage, while the tasks of that
time have kept still. -/
structure HasLed (before : Execution) (task : Task) (stage : Stage Point Answer)
    (after : Execution) : Prop where
  world : after.world = stage.world
  running : after.running = before.running ++ stage.remaining task
  reports : after.reports = stage.reported task ++ before.reports

variable {number : Nat} {request : Request} {call : Execution} {stage : Stage Point Answer}

/-- A request that is made and left alone goes through the stages of its walk. -/
theorem run_left_alone (execution : Execution) (request : Request)
    (orderly : execution.Orderly) (fresh : execution.nextNumber ≤ number)
    (held : execution.world.node.held = true) {steps : List Move}
    (only : ∀ move ∈ steps, move.isOf number execution.world.transfers.length = true) :
    ∃ stage, request.entry.Walks execution.world stage ∧
      execution.HasLed (entered number request) stage
        (execution.run (.start number request :: steps)) := by
  let begun : Execution := { execution with
    running := execution.running ++ [entered number request]
    nextNumber := number + 1 }
  have starts : execution.run (.start number request :: steps) = begun.run steps := by
    simp only [run, List.foldl_cons, apply, byHolder, held, start, if_pos fresh, if_true, begun,
      entered]
  have order : begun.Orderly := orderly.started fresh request execution.world
  have split : begun.running = execution.running ++ entered number request :: [] := rfl
  rcases exists_walk order split steps only with ⟨stage, walks, reached⟩
  rw [starts, reached]
  refine ⟨stage, walks, rfl, ?_, rfl⟩
  simp only [replace, List.append_nil]

/-- What changes the world alone changes it under a call that is under way. -/
theorem HasLed.withWorld (led : execution.HasLed task stage call) (change : World → World) :
    execution.HasLed task (stage.within change) (call.withWorld change) := by
  rcases led with ⟨world, running, reports⟩
  cases stage with
  | pause point middle => exact ⟨congrArg change world, running, reports⟩
  | done answer after => exact ⟨congrArg change world, running, reports⟩

theorem HasLed.resume {next : Point} {middle : World}
    (led : execution.HasLed (entered number request) (.pause next middle) call)
    (orderly : call.Orderly)
    (ready : call.isReady { entered number request with point := next } = true) :
    execution.HasLed (entered number request) (next.resume middle)
      (call.apply (.resume number)) := by
  have split : call.running =
      execution.running ++ ({ entered number request with point := next } : Task) :: [] :=
    led.running
  have resumed : call.apply (.resume number) = call.replace execution.running
      { entered number request with point := next } [] (next.resume middle) := by
    have world : call.world = middle := led.world
    rw [← world]
    exact resume_eq_replace orderly split ready
  have reports : call.reports = execution.reports := led.reports
  rw [resumed]
  rcases next.resume middle with ⟨point, after⟩ | ⟨answer, after⟩
  · exact ⟨rfl, by simp [replace, Stage.remaining], by simp [replace, Stage.reported, reports]⟩
  · refine ⟨rfl, by simp [replace, Stage.remaining], ?_⟩
    simp [replace, Stage.reported, reports, entered]

/-- A call whose stage is the end is not under way. -/
theorem HasLed.task?_of_done {answer : Answer} {after : World}
    (led : execution.HasLed (entered number request) (.done answer after) call)
    (numbered : ∀ task ∈ execution.running, task.number < number) :
    call.task? number = none := by
  refine List.find?_eq_none.mpr fun task among => ?_
  have still : task ∈ execution.running := by
    simpa only [led.running, Stage.remaining, List.append_nil] using among
  simpa using Nat.ne_of_lt (numbered task still)

/-- The stage of a call that is not under way is the end. -/
theorem HasLed.exists_done (led : execution.HasLed (entered number request) stage call)
    (orderly : call.Orderly) (ended : call.task? number = none) :
    ∃ answer, stage = .done answer call.world := by
  cases stage with
  | pause next middle =>
      have split : call.running =
          execution.running ++ ({ entered number request with point := next } : Task) :: [] :=
        led.running
      have stands := task?_of_mem orderly (mem_of_eq_append split)
      cases ended.symm.trans stands
  | done answer after => exact ⟨answer, congrArg (Stage.done answer) led.world.symm⟩

theorem HasLed.answered_of_done {answer : Answer} {after : World}
    (led : execution.HasLed (entered number request) (.done answer after) call)
    (since : execution.world.clock ≤ after.clock)
    (goesOn : GoesOn execution.world.transfers after.transfers) :
    execution.Answered number request answer after.clock call where
  running := led.running.trans (List.append_nil _)
  reports := led.reports
  since := since
  passed := by rw [led.world]; exact Nat.le_refl _
  goesOn := by rw [led.world]; exact goesOn

/-- A call that is left alone can be carried to its end from wherever it has come to. -/
theorem HasLed.exists_rest (led : execution.HasLed (entered number request) stage call)
    (orderly : call.Orderly) (teardowns : call.Teardowns)
    (numbered : ∀ task ∈ execution.running, task.number < number)
    {target : Nat → Answer × World}
    (well : stage.GoesWell execution.world execution.isFree target) :
    ∃ rest, (∀ move ∈ rest, move.isOf number execution.world.transfers.length = true) ∧
      (call.run rest).task? number = none := by
  cases stage with
  | pause next middle =>
      have split : call.running =
          execution.running ++ ({ entered number request with point := next } : Task) :: [] :=
        led.running
      refine Execution.exists_rest orderly teardowns split ?_ well.foreseen.1 ?_
      · intro lock free other others
        exact not_holds_of_isFree free (by simpa using others)
      · rw [led.world]
        exact Proceeds.length_le well.goesOn.kept
  | done answer after => exact ⟨[], by simp, led.task?_of_done numbered⟩

/-- A call that has ended has its answer, which is what was foreseen. -/
theorem HasLed.answered (led : execution.HasLed (entered number request) stage call)
    (orderly : call.Orderly) (ended : call.task? number = none) {target : Nat → Answer × World}
    (well : stage.GoesWell execution.world execution.isFree target) :
    ∃ answer now, execution.Answered number request answer now call ∧
      (answer, call.world.outline execution.world.transfers.length) = target now := by
  rcases led.exists_done orderly ended with ⟨answer, rfl⟩
  have running : call.running = execution.running := led.running.trans (List.append_nil _)
  rcases well.foreseen with ⟨now, since, passed, foreseen⟩
  exact ⟨answer, now, ⟨running, led.reports, since, passed, well.goesOn⟩, foreseen⟩

/-- **A request that is left alone can be carried to its end, and comes to what was foreseen.** -/
theorem left_alone (orderly : execution.Orderly) (teardowns : execution.Teardowns)
    (fresh : execution.nextNumber ≤ number) (held : execution.world.node.held = true)
    (own : (Point.forecast execution.world.transfers.length execution.isFree).own request.entry)
    {steps : List Move}
    (only : ∀ move ∈ steps, move.isOf number execution.world.transfers.length = true) :
    let call := execution.run (.start number request :: steps)
    let forecast := Point.forecast execution.world.transfers.length execution.isFree
    (∃ rest, (∀ move ∈ rest, move.isOf number execution.world.transfers.length = true) ∧
      (call.run rest).task? number = none) ∧
    (call.task? number = none → ∃ answer now, execution.Answered number request answer now call ∧
      (answer, call.world.outline execution.world.transfers.length) =
        forecast.outlook request.entry
          (execution.world.outline execution.world.transfers.length) now) := by
  intro call forecast
  have order : call.Orderly := orderly.run _
  have closing : call.Teardowns := (teardowns.run orderly _).1
  have numbered : ∀ task ∈ execution.running, task.number < number := fun task among =>
    Nat.lt_of_lt_of_le (orderly.numbered task among) fresh
  rcases execution.run_left_alone request orderly fresh held only with ⟨stage, walks, led⟩
  have well := walks.goesWell own
  exact ⟨led.exists_rest order closing numbered well, fun ended => led.answered order ended well⟩

end Execution

/-- A request that is left alone, in an execution that can be reached. -/
theorem Outset.left_alone (outset : Outset) (moves : List Move) {number : Nat} {request : Request}
    {steps : List Move} (fresh : (outset.execution.run moves).nextNumber ≤ number)
    (held : (outset.execution.run moves).world.node.held = true)
    (own : (Point.forecast (outset.execution.run moves).world.transfers.length
      (outset.execution.run moves).isFree).own request.entry)
    (alone : ∀ move ∈ steps,
      move.isOf number (outset.execution.run moves).world.transfers.length = true) :
    let before := outset.execution.run moves
    let call := outset.execution.run (moves ++ .start number request :: steps)
    let forecast := Point.forecast before.world.transfers.length before.isFree
    (∃ rest, (∀ move ∈ rest, move.isOf number before.world.transfers.length = true) ∧
      (call.run rest).task? number = none) ∧
    (call.task? number = none → ∃ answer now, before.Answered number request answer now call ∧
      (answer, call.world.outline before.world.transfers.length) =
        forecast.outlook request.entry (before.world.outline before.world.transfers.length)
          now) := by
  intro before call forecast
  have whole : call = before.run (.start number request :: steps) :=
    outset.execution.run_append moves _
  rw [whole]
  exact before.left_alone (outset.sound_run moves).orderly (outset.teardowns_run moves) fresh held
    own alone

end BuildAgent
