import BuildAgent.Proofs.Execution.Beside
import BuildAgent.Proofs.Monitor.Finality

/-!
# Calls about tags follow one another

A call about tags holds the definition lock from its first step to its last
(`Point.holds_definition_of_resume`). So of the calls that overlap at most one has begun and not
ended, and those that wait have done nothing yet. A run in which calls overlap can therefore be put
in order: each call is started only when it gets the lock, and takes its steps with the same moves
around it (`TagCall.moves`, `inTurn`). What is written down of the calls so far is
`Execution.Recorded`, and what is known of those that have ended is `Execution.Ended`.
-/

namespace BuildAgent

/-! ## The definition lock is held to the end -/

theorem ReconfigurePoint.holdsDefinition_of_resume {definition : Definition}
    {point next : ReconfigurePoint} {world after : World}
    (paused : point.resume definition world = .pause next after) :
    next.holdsDefinition = true := by
  cases point with
  | waiting =>
      rcases Stage.andThen_eq_pause paused with ⟨later, _, rfl⟩ | ⟨_, _, _, ended⟩
      · rfl
      · rw [eq_rebinding_of_afterClear ended]
        rfl
  | clearing tags inner =>
      rcases Stage.andThen_eq_pause paused with ⟨later, _, rfl⟩ | ⟨_, _, _, ended⟩
      · rfl
      · rw [eq_rebinding_of_afterClear ended]
        rfl
  | rebinding =>
      rcases Stage.andThen_eq_pause paused with ⟨later, _, rfl⟩ | ⟨_, _, _, ended⟩
      · rfl
      · exact absurd ended afterPush_ne_pause
  | pushing tags inner =>
      rcases Stage.andThen_eq_pause paused with ⟨later, _, rfl⟩ | ⟨_, _, _, ended⟩
      · rfl
      · exact absurd ended afterPush_ne_pause

namespace Point

variable {point next : Point} {world after : World}

/-- Whether a call about tags has the definition lock, or takes it with its next step. -/
def locksDefinition (point : Point) : Prop :=
  point.holds .definition = true ∨ point.obstacle = some (.lock .definition)

theorem holds_definition_of_resume (tagging : point.isTagging = true)
    (locks : point.locksDefinition) (paused : point.resume world = .pause next after) :
    next.holds .definition = true := by
  cases point with
  | changingTags change =>
      rcases Stage.pause_of_andThen_done paused with ⟨later, _, rfl⟩
      rfl
  | synchronizing change tags locked inner =>
      rcases Stage.pause_of_andThen_done paused with ⟨later, _, rfl⟩
      rcases locks with holds | waits
      · exact holds
      · rcases inner.obstacle_eq with free | cache
        · simp [obstacle, free] at waits
        · simp [obstacle, cache] at waits
  | reconfiguring definition inner =>
      rcases Stage.pause_of_andThen_done paused with ⟨later, went, rfl⟩
      exact ReconfigurePoint.holdsDefinition_of_resume went
  | _ => cases tagging

theorem obstacle_of_holds_definition (tagging : point.isTagging = true)
    (holds : point.holds .definition = true) : point.obstacle ≠ some (.lock .definition) := by
  intro waits
  rcases obstacle_of_isTagging tagging with free | ⟨lock, _, obstructs, own⟩
  · rw [free] at waits
    cases waits
  · rw [obstructs] at waits
    cases waits
    rw [own] at holds
    cases holds

theorem obstacle_of_isTagging_entry {request : Request} (asked : request.isTagging = true) :
    request.entry.obstacle = some (.lock .definition) := by
  cases request <;> first | rfl | cases asked

end Point

/-! ## Calls in turn -/

/-- A call about tags as it is made in turn: its number where calls overlap, what is asked, the
moves that are made before it is started and takes its first step, and those before each of its
later steps. -/
structure TagCall where
  number : Nat
  request : Request
  ahead : List Move
  between : List (List Move) := []

namespace TagCall

/-- The moves of a call that is made in turn under a number of its own. -/
def moves (call : TagCall) (number : Nat) : List Move :=
  call.ahead ++ .start number call.request :: .resume number ::
    call.between.flatMap fun others => others ++ [.resume number]

/-- The moves that are made around the steps of a call. -/
def around (call : TagCall) : List Move :=
  call.ahead ++ call.between.flatten

/-- The call with one more step. -/
def goOn (call : TagCall) (others : List Move) : TagCall :=
  { call with between := call.between ++ [others] }

variable (call : TagCall) (number : Nat) (others : List Move)

theorem moves_goOn :
    (call.goOn others).moves number = call.moves number ++ others ++ [.resume number] := by
  simp [moves, goOn]

theorem around_goOn : (call.goOn others).around = call.around ++ others := by
  simp [around, goOn]

end TagCall

/-- The moves of calls that follow one another, numbered from a number on. -/
def inTurn (number : Nat) : List TagCall → List Move
  | [] => []
  | call :: calls => call.moves number ++ inTurn (number + 1) calls

theorem inTurn_concat (number : Nat) (calls : List TagCall) (call : TagCall) :
    inTurn number (calls ++ [call]) =
      inTurn number calls ++ call.moves (number + calls.length) := by
  induction calls generalizing number with
  | nil => simp [inTurn]
  | cons first calls hypothesis =>
      simp only [List.cons_append, inTurn, hypothesis, List.length_cons, List.append_assoc]
      rw [Nat.add_right_comm, Nat.add_assoc number]

/-- How a report of a run in which calls overlap shows in one in which they are made in turn, in the
order in which they got the lock: a call has the number of its place. -/
inductive Report.Alike (number : Nat) (order : List Nat) : Report → Report → Prop
  | older (report : Report) (early : report.number < number) : Alike number order report report
  | call (place own : Nat) (request : Request) (answer : Answer)
      (found : order[place]? = some own) :
      Alike number order ⟨own, request, answer⟩ ⟨number + place, request, answer⟩

theorem Report.Alike.append {number : Nat} {order : List Nat} {report other : Report}
    (alike : Alike number order report other) (more : List Nat) :
    Alike number (order ++ more) report other := by
  cases alike with
  | older _ early => exact .older report early
  | call place own request answer found =>
      refine .call place own request answer ?_
      rw [List.getElem?_append_left (List.getElem?_eq_some_iff.mp found).1]
      exact found

/-- The number of a call about tags that gets the definition lock with its next step. -/
def Task.locking? (task : Task) : Option Nat :=
  if task.point.isTagging && task.point.obstacle = some (.lock .definition) then some task.number
  else none

namespace Execution

/-- The numbers of the calls about tags that get the definition lock while moves are made, of those
that were started since, in the order in which they get it. -/
def acquisitions (execution : Execution) (moves : List Move) : List Nat :=
  (execution.observed Task.locking? moves).filter fun number => execution.nextNumber ≤ number

variable {start execution : Execution} {moves : List Move} {move : Move} {task : Task}

theorem acquisitions_concat (execution : Execution) (moves : List Move) (move : Move) :
    execution.acquisitions (moves ++ [move]) = execution.acquisitions moves ++
      ((((execution.run moves).acting? move).bind Task.locking?).toList.filter fun number =>
        execution.nextNumber ≤ number) := by
  simp only [acquisitions, observed_concat, List.filter_append]

theorem nextNumber_ambient {number : Nat} (orderly : execution.Orderly)
    (around : move.isAmbient number = true) :
    (execution.apply move).nextNumber = execution.nextNumber := by
  have step := step_apply orderly move
  generalize execution.apply move = after at step
  cases step with
  | started other request fresh held => cases around
  | looked other session delay agenda fresh scheduled present => cases around
  | _ => rfl

theorem acting?_ambient {number : Nat} (around : move.isAmbient number = true)
    (acts : execution.acting? move = some task) : task.number < number := by
  rcases acting?_eq_some acts with ⟨rfl, _⟩
  simpa [Move.isAmbient] using around

/-! ## What the moves so far were -/

/-- The calls that have begun: how they were asked for, in which order they got the lock, and what
was done around them. -/
structure Recorded (start : Execution) (moves : List Move) (calls : List TagCall)
    (rest : List Move) : Prop where
  order : calls.map TagCall.number = start.acquisitions moves
  apart : (calls.map TagCall.number).Nodup
  asked : ∀ call, call ∈ calls → .start call.number call.request ∈ moves
  around : calls.flatMap TagCall.around ++ rest =
    moves.filter fun move => move.isAmbient start.nextNumber

namespace Recorded

variable {calls : List TagCall} {rest : List Move}

theorem ambient (recorded : start.Recorded moves calls rest)
    (around : move.isAmbient start.nextNumber = true) :
    start.Recorded (moves ++ [move]) calls (rest ++ [move]) := by
  refine ⟨?_, recorded.apart, fun call among => List.mem_append_left _ (recorded.asked call among),
    ?_⟩
  · rw [acquisitions_concat, recorded.order]
    rcases acts : (start.run moves).acting? move with _ | task
    · simp
    · have early := acting?_ambient around acts
      rcases locks : task.locking? with _ | number
      · simp [locks]
      · have same : number = task.number := by
          simp only [Task.locking?] at locks
          split at locks <;> cases locks
          rfl
        simp [locks, same, early]
  · rw [← List.append_assoc, recorded.around, List.filter_append]
    simp [around]

theorem still (recorded : start.Recorded moves calls rest)
    (apart : move.isAmbient start.nextNumber = false)
    (quiet : ((start.run moves).acting? move).bind Task.locking? = none) :
    start.Recorded (moves ++ [move]) calls rest := by
  refine ⟨?_, recorded.apart, fun call among => List.mem_append_left _ (recorded.asked call among),
    ?_⟩
  · rw [acquisitions_concat, recorded.order, quiet]
    simp
  · rw [recorded.around, List.filter_append]
    simp [apart]

/-- A call that gets the lock is the next one, and what was done since the last step of a call comes
ahead of it. -/
theorem begins (recorded : start.Recorded moves calls rest) {number : Nat} {request : Request}
    {point : Point} (acts : (start.run moves).acting? (.resume number) =
      some ⟨number, request, point⟩) (late : start.nextNumber ≤ number)
    (tagging : point.isTagging = true) (waits : point.obstacle = some (.lock .definition))
    (asked : .start number request ∈ moves)
    (fresh : ∀ call, call ∈ calls → call.number ≠ number) :
    start.Recorded (moves ++ [.resume number]) (calls ++ [⟨number, request, rest, []⟩]) [] := by
  have apart : Move.isAmbient start.nextNumber (.resume number) = false := by
    simpa [Move.isAmbient] using late
  refine ⟨?_, ?_, ?_, ?_⟩
  · rw [acquisitions_concat, ← recorded.order, acts]
    simp [Task.locking?, tagging, waits, late]
  · rw [List.map_append]
    refine List.nodup_append.mpr ⟨recorded.apart, List.pairwise_singleton _ _, ?_⟩
    intro own among other last
    rcases List.mem_map.mp among with ⟨call, begun, rfl⟩
    cases List.mem_singleton.mp last
    exact fresh call begun
  · intro call among
    rw [List.mem_append, List.mem_singleton] at among
    rcases among with old | rfl
    · exact List.mem_append_left _ (recorded.asked call old)
    · exact List.mem_append_left _ asked
  · rw [List.filter_append, ← recorded.around]
    simp [TagCall.around, apart]

/-- A call that has the lock goes on, and what was done since its last step comes before this
one. -/
theorem goesOn {call : TagCall} (recorded : start.Recorded moves (calls ++ [call]) rest)
    {point : Point} (acts : (start.run moves).acting? (.resume call.number) =
      some ⟨call.number, call.request, point⟩) (late : start.nextNumber ≤ call.number)
    (free : point.obstacle ≠ some (.lock .definition)) :
    start.Recorded (moves ++ [.resume call.number]) (calls ++ [call.goOn rest]) [] := by
  have apart : Move.isAmbient start.nextNumber (.resume call.number) = false := by
    simpa [Move.isAmbient] using late
  refine ⟨?_, ?_, ?_, ?_⟩
  · rw [acquisitions_concat, ← recorded.order, acts]
    simp [Task.locking?, free, TagCall.goOn]
  · simpa [TagCall.goOn] using recorded.apart
  · intro other among
    rw [List.mem_append, List.mem_singleton] at among
    rcases among with old | rfl
    · exact List.mem_append_left _ (recorded.asked other (List.mem_append_left _ old))
    · exact List.mem_append_left _ (recorded.asked call (by simp))
  · rw [List.filter_append, ← recorded.around]
    simp [TagCall.around_goOn, apart]

end Recorded

/-- What is known of calls that have ended: made in turn, each of them has ended before the next one
starts, and where calls overlap it has returned. -/
structure Ended (start : Execution) (moves : List Move) (done : List TagCall) : Prop where
  resting : ∀ past future, done = past ++ future →
    ∀ task, task ∈ (start.run (inTurn start.nextNumber past)).running →
      task.number < start.nextNumber
  returned : ∀ call, call ∈ done →
    ∃ answer, ⟨call.number, call.request, answer⟩ ∈ (start.run moves).reports

namespace Ended

variable {done : List TagCall}

theorem later (ended : start.Ended moves done) (sound : start.Sound) (move : Move) :
    start.Ended (moves ++ [move]) done := by
  refine ⟨ended.resting, ?_⟩
  intro call among
  rcases ended.returned call among with ⟨answer, reported⟩
  refine ⟨answer, ?_⟩
  rw [run_concat]
  exact (step_apply (sound.run moves).orderly move).reports_subset reported

theorem concat (ended : start.Ended moves done) {call : TagCall} {answer : Answer}
    (resting : ∀ task, task ∈ (start.run (inTurn start.nextNumber (done ++ [call]))).running →
      task.number < start.nextNumber)
    (returned : ⟨call.number, call.request, answer⟩ ∈ (start.run moves).reports) :
    start.Ended moves (done ++ [call]) := by
  constructor
  · intro past future split
    rcases List.eq_nil_or_concat future with rfl | ⟨front, last, rfl⟩
    · rw [List.append_nil] at split
      exact split ▸ resting
    · rw [List.concat_eq_append, ← List.append_assoc] at split
      exact ended.resting past front (List.append_inj_left' split rfl)
  · intro other among
    rw [List.mem_append, List.mem_singleton] at among
    rcases among with old | rfl
    · exact ended.returned other old
    · exact ⟨answer, returned⟩

end Ended

end Execution

end BuildAgent
