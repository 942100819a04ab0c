import BuildAgent.Proofs.Execution.Step
import BuildAgent.Proofs.Task.Past

/-!
# Calls that nothing interrupts

A `Trial` is a call that nothing interrupts but the provider's failures: before each step of the
call some failures may come up, and they wait for the provider's next calls. What comes up before
which step is the pattern of the trial.

`Stage.follow` carries a procedure out under such a pattern, with no task and no lock in sight, and
`Stage.follow_andThen` puts the parts of a procedure together. `Execution.trial_eq` ties the two
together: while nobody holds the definition lock or the cache lock, a trial of a change of tags or
of a reconfiguration is what its procedure comes to.
-/

namespace BuildAgent

namespace World

/-- Lets failures wait at the provider, behind those that wait already. -/
def fail (world : World) (failures : List Provider.Injection) : World :=
  world.withProvider fun provider => { provider with failures := provider.failures ++ failures }

@[simp]
theorem node_fail (world : World) (failures : List Provider.Injection) :
    (world.fail failures).node = world.node := rfl

theorem fail_withPast (world : World) (failures : List Provider.Injection)
    (past : List Journal.Entry) :
    (world.withPast past).fail failures = (world.fail failures).withPast past := rfl

end World

namespace Stage

variable {π π' ρ ρ' : Type}

/-- Carries a procedure out, with the failures of a pattern before its steps, until it has ended or
the pattern is used up. -/
def follow (resume : π → World → Stage π ρ) :
    Stage π ρ → List (List Provider.Injection) → Stage π ρ × List (List Provider.Injection)
  | pause point world, failures :: pattern =>
    follow resume (resume point (world.fail failures)) pattern
  | stage, pattern => (stage, pattern)

@[simp]
theorem follow_done (resume : π → World → Stage π ρ) (result : ρ) (world : World)
    (pattern : List (List Provider.Injection)) :
    follow resume (done result world) pattern = (done result world, pattern) := by
  cases pattern <;> rfl

/-- A procedure goes on with the result of its part, under the failures that the part has left. -/
theorem follow_andThen {inner : π → World → Stage π ρ} {outer : π' → World → Stage π' ρ'}
    {wrap : π → π'} {next : ρ → World → Stage π' ρ'}
    (part : ∀ point world, outer (wrap point) world = (inner point world).andThen wrap next)
    {stage : Stage π ρ} {pattern left : List (List Provider.Injection)} {result : ρ} {after : World}
    (followed : follow inner stage pattern = (done result after, left)) :
    follow outer (stage.andThen wrap next) pattern = follow outer (next result after) left := by
  induction pattern generalizing stage with
  | nil =>
      cases stage with
      | pause point world => cases followed
      | done other world =>
          cases followed
          rfl
  | cons failures pattern hypothesis =>
      cases stage with
      | pause point world =>
          simp only [andThen_pause, follow]
          rw [part]
          exact hypothesis followed
      | done other world =>
          cases followed
          rfl

theorem follow_withPast {resume : π → World → Stage π ρ} (past : List Journal.Entry)
    (blind : ∀ point world, resume point (world.withPast past) = (resume point world).withPast past)
    (stage : Stage π ρ) (pattern : List (List Provider.Injection)) :
    follow resume (stage.withPast past) pattern =
      ((follow resume stage pattern).1.withPast past, (follow resume stage pattern).2) := by
  induction pattern generalizing stage with
  | nil => cases stage <;> rfl
  | cons failures pattern hypothesis =>
      cases stage with
      | pause point world =>
          simp only [withPast_pause, follow]
          rw [World.fail_withPast, blind]
          exact hypothesis _
      | done result world => rfl

end Stage

/-! ## Trials -/

/-- What comes of a call under a pattern of failures: the answer if there is one, the execution
after the call, and the failures that have not come up. -/
structure Trial where
  answer? : Option Answer
  after : Execution
  left : List (List Provider.Injection)

namespace Execution

/-- Lets failures wait at the provider. -/
def fail (execution : Execution) (failures : List Provider.Injection) : Execution :=
  execution.run (failures.map fun waiting => .happen (.failNext waiting.operation waiting.failure))

/-- Resumes a task until it has ended, with the failures of a pattern before its steps. -/
def carryOn (number : Nat) :
    List (List Provider.Injection) → Execution → Execution × List (List Provider.Injection)
  | [], execution => (execution, [])
  | failures :: pattern, execution =>
    if (execution.task? number).isNone then (execution, failures :: pattern)
    else carryOn number pattern ((execution.fail failures).apply (.resume number))

/-- Makes a request and carries it out, and lets nothing happen in between but the failures of a
pattern. -/
def trial (execution : Execution) (request : Request) (pattern : List (List Provider.Injection)) :
    Trial :=
  let number := execution.nextNumber
  let (after, left) := carryOn number pattern (execution.apply (.start number request))
  ⟨after.answer? number, after, left⟩

/-- The execution after a call, beside the tasks that were under way before it. -/
def called (execution : Execution) (request : Request) (answer : Answer) (after : World) :
    Execution :=
  { execution with
    world := after
    reports := ⟨execution.nextNumber, request, answer⟩ :: execution.reports
    nextNumber := execution.nextNumber + 1 }

theorem fail_eq (execution : Execution) (failures : List Provider.Injection) :
    execution.fail failures = execution.withWorld fun world => world.fail failures := by
  induction failures generalizing execution with
  | nil => simp [fail, run, withWorld, World.fail, World.withProvider]
  | cons waiting failures hypothesis =>
      have first : execution.fail (waiting :: failures) = (execution.apply
          (.happen (.failNext waiting.operation waiting.failure))).fail failures := rfl
      rw [first, hypothesis]
      simp [apply, withWorld, Happening.apply, World.fail, World.withProvider, Provider.failNext]

theorem carryOn_of_ended {execution : Execution} {number : Nat}
    (ended : execution.task? number = none) (pattern : List (List Provider.Injection)) :
    carryOn number pattern execution = (execution, pattern) := by
  cases pattern with
  | nil => rfl
  | cons failures pattern => simp [carryOn, ended]

end Execution

/-! ## Changes of tags and reconfigurations -/

theorem SyncPoint.obstacle_eq (point : SyncPoint) :
    point.obstacle = none ∨ point.obstacle = some (.lock .cache) := by
  cases point with
  | looking inner => cases inner <;> simp [obstacle, LookupPoint.obstacle]
  | _ => simp [obstacle]

namespace Point

/-- Whether a task changes tags at a point. -/
def isTagging : Point → Bool
  | changingTags _ => true
  | synchronizing .. => true
  | reconfiguring .. => true
  | _ => false

theorem isTagging_of_resume {point next : Point} {world after : World}
    (tagging : point.isTagging = true) (paused : point.resume world = .pause next after) :
    next.isTagging = true := by
  cases point with
  | changingTags change =>
      rcases Stage.pause_of_andThen_done paused with ⟨later, _, rfl⟩
      rfl
  | synchronizing change tags locked inner =>
      rcases Stage.pause_of_andThen_done paused with ⟨later, _, rfl⟩
      rfl
  | reconfiguring definition inner =>
      rcases Stage.pause_of_andThen_done paused with ⟨later, _, rfl⟩
      rfl
  | _ => cases tagging

/-- A task that changes tags waits for nothing but locks, and for none that it holds itself. -/
theorem obstacle_of_isTagging {point : Point} (tagging : point.isTagging = true) :
    point.obstacle = none ∨ ∃ lock, (lock = .definition ∨ lock = .cache) ∧
      point.obstacle = some (.lock lock) ∧ point.holds lock = false := by
  cases point with
  | changingTags change => exact .inr ⟨.definition, .inl rfl, rfl, rfl⟩
  | synchronizing change tags locked inner =>
      rcases SyncPoint.obstacle_eq inner with free | waits
      · exact .inl free
      · exact .inr ⟨.cache, .inr rfl, waits, rfl⟩
  | reconfiguring definition inner =>
      cases inner with
      | waiting => exact .inr ⟨.definition, .inl rfl, rfl, rfl⟩
      | rebinding => exact .inr ⟨.cache, .inr rfl, rfl, rfl⟩
      | clearing tags inner =>
          rcases SyncPoint.obstacle_eq inner with free | waits
          · exact .inl free
          · exact .inr ⟨.cache, .inr rfl, waits, rfl⟩
      | pushing tags inner =>
          rcases SyncPoint.obstacle_eq inner with free | waits
          · exact .inl free
          · exact .inr ⟨.cache, .inr rfl, waits, rfl⟩
  | _ => cases tagging

end Point

namespace Execution

variable {execution : Execution} {others : List Task} {number : Nat} {request : Request}
  {point : Point} {answer : Answer} {after : World}
  {pattern left : List (List Provider.Injection)}

/-- Whether a task leaves the definition lock and the cache lock to others. -/
def Leaves (task : Task) : Prop :=
  task.point.holds .definition = false ∧ task.point.holds .cache = false

theorem isReady_of_isTagging (alone : ∀ task ∈ others, Leaves task)
    (split : execution.running = others ++ [⟨number, request, point⟩])
    (tagging : point.isTagging = true) :
    execution.isReady ⟨number, request, point⟩ = true := by
  rcases Point.obstacle_of_isTagging tagging with free | ⟨lock, which, waits, own⟩
  · simp only [isReady, free, isClear]
  · simp only [isReady, waits, isClear, isFree, split, List.all_append, Bool.and_eq_true]
    constructor
    · apply List.all_eq_true.mpr
      intro task among
      rcases which with rfl | rfl
      · simp [(alone task among).1]
      · simp [(alone task among).2]
    · simp [own]

/-- A task that changes tags is carried to the end that its procedure leads to. -/
theorem carryOn_of_follow (orderly : execution.Orderly) (alone : ∀ task ∈ others, Leaves task)
    (split : execution.running = others ++ [⟨number, request, point⟩])
    (tagging : point.isTagging = true)
    (followed : Stage.follow Point.resume (.pause point execution.world) pattern =
      (.done answer after, left)) :
    carryOn number pattern execution =
      ({ execution with
        world := after
        running := others
        reports := ⟨number, request, answer⟩ :: execution.reports }, left) := by
  induction pattern generalizing execution point with
  | nil => cases followed
  | cons failures pattern hypothesis =>
      let failing := execution.withWorld fun world => world.fail failures
      have order : failing.Orderly := ⟨orderly.apart, orderly.numbered⟩
      have parted : failing.running = others ++ ⟨number, request, point⟩ :: [] := split
      have ready := isReady_of_isTagging alone parted tagging
      have stepped := resume_eq_replace order parted ready
      have running : ⟨number, request, point⟩ ∈ execution.running := mem_of_eq_append split
      have found : execution.task? number = some ⟨number, request, point⟩ :=
        task?_of_mem orderly running
      have begun : carryOn number (failures :: pattern) execution = carryOn number pattern
          (failing.replace others ⟨number, request, point⟩ [] (point.resume failing.world)) := by
        rw [← stepped]
        simp [carryOn, found, fail_eq, apply, failing]
      have kept := order.replace parted (.resume ready)
      rw [begun]
      have goes : Stage.follow Point.resume (point.resume failing.world) pattern =
          (.done answer after, left) := followed
      rcases step : point.resume failing.world with ⟨next, middle⟩ | ⟨result, middle⟩
      · rw [step] at goes
        dsimp only at kept
        rw [step] at kept
        exact hypothesis kept rfl (Point.isTagging_of_resume tagging step) goes
      · rw [step, Stage.follow_done] at goes
        cases goes
        have gone : (failing.replace others ⟨number, request, point⟩ []
            (.done answer after)).task? number = none := by
          apply List.find?_eq_none.mpr
          intro task among
          have still : task ∈ others ++ [] := by simpa [replace, Stage.remaining] using among
          simpa using (order.excludes parted still).number.symm
        rw [carryOn_of_ended gone]
        simp [replace, Stage.remaining, Stage.reported, Stage.world, failing, withWorld]

/-- **A trial comes to what its procedure comes to.** -/
theorem trial_eq (orderly : execution.Orderly) (held : execution.world.node.held = true)
    (definitionFree : execution.isFree .definition = true)
    (cacheFree : execution.isFree .cache = true) (tagging : request.entry.isTagging = true)
    (followed : Stage.follow Point.resume (.pause request.entry execution.world) pattern =
      (.done answer after, left)) :
    execution.trial request pattern =
      ⟨some answer, execution.called request answer after, left⟩ := by
  have alone : ∀ task ∈ execution.running, Leaves task := by
    intro task among
    exact ⟨not_holds_of_isFree definitionFree among, not_holds_of_isFree cacheFree among⟩
  have begun : execution.apply (.start execution.nextNumber request) =
      { execution with
        running := execution.running ++ [⟨execution.nextNumber, request, request.entry⟩]
        nextNumber := execution.nextNumber + 1 } := by
    simp [apply, byHolder, held, start]
  have order := orderly.started (Nat.le_refl execution.nextNumber) request execution.world
  simp only [trial, begun]
  rw [carryOn_of_follow order alone rfl tagging followed]
  simp [answer?, called]

end Execution

end BuildAgent
