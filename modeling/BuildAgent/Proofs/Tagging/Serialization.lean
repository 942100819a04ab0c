import BuildAgent.Proofs.Tagging.AllOrNothing
import BuildAgent.Proofs.Tagging.CurrentTags
import BuildAgent.Proofs.Tagging.InTurn
import Mathlib.Data.List.Induction

/-!
# Calls about tags serialise

However the steps of pushes, clears and reconfigurations of one node are mixed, they come to the
same as if the calls were made one after the other, in the order in which they get the definition
lock (`Outset.tag_calls_serialise`).

`Execution.Serial` ties the run in which the calls overlap to the one in which they are made in
turn: they have the same world and the same older tasks, and the one call that has begun and not
ended stands at the same point in both. A move of the surroundings happens in both runs; a call that
is started, or that is not ready, does nothing yet and is left out of the second; a call that gets
the lock is started there and then, and takes all its steps in both (`Serial.step`).
-/

namespace BuildAgent

/-- Whether a move starts no task but a call about tags, and leaves the hold on the node. -/
def Move.startsOnlyTagCalls : Move → Bool
  | start _ request => request.isTagging
  | runMonitor _ => false
  | release => false
  | _ => true

/-- A call that has begun and not ended, and where it stands. -/
structure Begun where
  call : TagCall
  point : Point

namespace Begun

/-- The task of a call where calls overlap. -/
def task (begun : Begun) : Task :=
  ⟨begun.call.number, begun.call.request, begun.point⟩

/-- The task of a call that is made in turn under a number. -/
def taskAs (number : Nat) (begun : Begun) : Task :=
  ⟨number, begun.call.request, begun.point⟩

end Begun

/-- How far calls have come that are made in turn: those that have ended, the one that has begun,
and the moves since its last step. -/
structure Turns where
  done : List TagCall := []
  active : Option Begun := none
  rest : List Move := []

namespace Turns

def calls (turns : Turns) : List TagCall :=
  turns.done ++ turns.active.toList.map Begun.call

def moves (turns : Turns) (number : Nat) : List Move :=
  inTurn number turns.calls ++ turns.rest

/-- One more move of the surroundings. -/
def wait (turns : Turns) (move : Move) : Turns :=
  { turns with rest := turns.rest ++ [move] }

theorem moves_wait (turns : Turns) (move : Move) (number : Nat) :
    (turns.wait move).moves number = turns.moves number ++ [move] :=
  (List.append_assoc _ _ _).symm

/-- All calls before another one have ended. -/
theorem done_of_split {turns : Turns} {past future : List TagCall} {call : TagCall}
    (split : turns.calls = past ++ call :: future) : ∃ rest, turns.done = past ++ rest := by
  rw [calls] at split
  rcases active : turns.active with _ | begun
  · exact ⟨call :: future, by simpa [active] using split⟩
  · rw [active] at split
    rcases List.eq_nil_or_concat future with rfl | ⟨front, last, rfl⟩
    · exact ⟨[], by simpa using List.append_inj_left' split rfl⟩
    · rw [List.concat_eq_append, ← List.cons_append, ← List.append_assoc] at split
      exact ⟨call :: front, List.append_inj_left' split rfl⟩

end Turns

namespace Execution

variable {start execution : Execution} {moves : List Move} {move : Move} {task : Task}
  {turns : Turns}

/-! ## The hold on the node -/

theorem Step.held_eq {before after : Execution} (sound : before.Sound)
    (step : before.Step move after) (kept : move.startsOnlyTagCalls = true) :
    after.world.node.held = before.world.node.held := by
  cases step with
  | idle move => rfl
  | outside move change changes =>
      cases move with
      | bringOn transfer =>
          cases changes
          exact congrArg Node.held (before.world.node_bringOn transfer).1
      | retire =>
          cases changes
          exact Deed.held_apply .retire before.world
      | happen happening =>
          cases changes
          exact congrArg Node.held (happening.frame_apply before.world).1
      | release => cases kept
      | _ => cases changes <;> rfl
  | started number request fresh held => rfl
  | looked number session delay agenda fresh scheduled present => cases kept
  | lost number session delay agenda scheduled dropped alone => cases kept
  | advanced move earlier later task stage split takes =>
      rcases (takes.effect sound.guarded (mem_of_eq_append split)).standing with
        same | ⟨middle, through, same⟩
      · simp only [Node.standing, Prod.mk.injEq] at same
        exact same.2.2
      · exact (congrArg Node.held same).trans through.held_eq

/-! ## The two runs -/

/-- Calls that were asked for, and that have not taken a step. -/
def Waiting (moves : List Move) (tasks : List Task) : Prop :=
  ∀ task, task ∈ tasks →
    task.point = task.request.entry ∧ .start task.number task.request ∈ moves

namespace Waiting

variable {tasks others : List Task}

theorem later (waiting : Waiting moves tasks) (move : Move) : Waiting (moves ++ [move]) tasks :=
  fun task among => ⟨(waiting task among).1, List.mem_append_left _ (waiting task among).2⟩

/-- A call that waits holds no lock. -/
theorem holds_eq (waiting : Waiting moves (tasks ++ others)) (calls : List Task) (lock : Lock) :
    ((tasks ++ (calls ++ others)).any fun task => task.point.holds lock) =
      calls.any fun task => task.point.holds lock := by
  have nothing : ∀ task, task ∈ tasks ++ others → ¬task.point.holds lock = true := by
    intro task among
    rw [(waiting task among).1, task.request.holds_entry lock]
    exact Bool.false_ne_true
  rw [List.any_append, List.any_append,
    List.any_eq_false.mpr fun task among => nothing task (List.mem_append_left _ among),
    List.any_eq_false.mpr fun task among => nothing task (List.mem_append_right _ among),
    Bool.false_or, Bool.or_false]

end Waiting

/-- A call that takes the same step in both executions leaves them with the same surroundings. -/
theorem Beside.advance {alike : Report → Report → Prop} {number own other : Nat}
    {request : Request} {point : Point} {old early late : List Task} {first second : Execution}
    {stage : Stage Point Answer}
    (beside : Beside alike number old (early ++ ([⟨own, request, point⟩] ++ late))
      [⟨other, request, point⟩] first second) (waiting : Waiting moves (early ++ late))
    (same : ∀ answer, alike ⟨own, request, answer⟩ ⟨other, request, answer⟩)
    (tagging : ∀ next world, stage = .pause next world → next.isTagging = true) :
    Beside alike number old (early ++ (stage.remaining ⟨own, request, point⟩ ++ late))
      (stage.remaining ⟨other, request, point⟩)
      (first.replace (old ++ early) ⟨own, request, point⟩ late stage)
      (second.replace old ⟨other, request, point⟩ [] stage) := by
  have left := beside.tagging ⟨own, request, point⟩ (.inl (by simp))
  have right := beside.tagging ⟨other, request, point⟩ (.inr (by simp))
  refine ⟨rfl, List.append_assoc _ _ _, congrArg _ (List.append_nil _), beside.older, ?_, ?_,
    ?_⟩
  · intro task among
    simp only [List.mem_append] at among
    rcases among with (ahead | stays | behind) | stays
    · exact beside.tagging task (.inl (by simp [ahead]))
    · rcases mem_remaining stays with ⟨next, world, paused, rfl⟩
      exact ⟨left.late, left.asked, tagging next world paused⟩
    · exact beside.tagging task (.inl (by simp [behind]))
    · rcases mem_remaining stays with ⟨next, world, paused, rfl⟩
      exact ⟨right.late, right.asked, tagging next world paused⟩
  · intro lock
    rw [waiting.holds_eq]
    cases stage <;> rfl
  · cases stage with
    | pause next world => exact beside.reports
    | done answer world => exact .cons (same answer) beside.reports

/-- The run in which calls overlap, and the run in which they are made in turn. -/
structure Serial (start : Execution) (moves : List Move) (turns : Turns) : Prop where
  recorded : start.Recorded moves turns.calls turns.rest
  ended : start.Ended moves turns.done
  held : (start.run moves).world.node.held = true
  /-- Where calls overlap, others wait before and behind the one that has begun. -/
  beside : ∃ old early late,
    Beside (Report.Alike start.nextNumber (turns.calls.map TagCall.number)) start.nextNumber old
      (early ++ (turns.active.toList.map Begun.task ++ late))
      (turns.active.toList.map (Begun.taskAs (start.nextNumber + turns.done.length)))
      (start.run moves) (start.run (turns.moves start.nextNumber)) ∧
    Waiting moves (early ++ late)
  locked : ∀ begun, turns.active = some begun → begun.point.holds .definition = true
  numbered : (start.run (turns.moves start.nextNumber)).nextNumber =
    start.nextNumber + turns.calls.length

namespace Serial

theorem nil (orderly : start.Orderly) (accounted : start.Accounted)
    (held : start.world.node.held = true) :
    start.Serial [] {} := by
  have nothing : ∀ past future : List TagCall, [] = past ++ future → past = [] :=
    fun past future split => (List.append_eq_nil_iff.mp split.symm).1
  constructor
  · constructor
    · rfl
    · exact .nil
    · intro call among
      cases among
    · rfl
  · constructor
    · intro past future split
      rw [nothing past future split]
      exact orderly.numbered
    · intro call among
      cases among
  · exact held
  · refine ⟨start.running, [], [], ⟨rfl, (List.append_nil _).symm, (List.append_nil _).symm,
      orderly.numbered, ?_, fun _ => rfl, ?_⟩, ?_⟩
    · intro task among
      rcases among with among | among <;> cases among
    · exact List.forall₂_same.mpr fun report reported => .older report (accounted.given _ reported)
    · intro task among
      cases among
  · intro begun active
    cases active
  · rfl

/-- What belongs to the surroundings happens in both runs. -/
theorem ambient (serial : start.Serial moves turns) (sound : start.Sound)
    (around : move.isAmbient start.nextNumber = true) (kept : move.startsOnlyTagCalls = true) :
    start.Serial (moves ++ [move]) (turns.wait move) := by
  rcases serial.beside with ⟨old, early, late, beside, waiting⟩
  have firstly := sound.run moves
  have secondly := sound.run (turns.moves start.nextNumber)
  rcases beside.ambient .older firstly.orderly secondly.orderly around with ⟨older, still⟩
  have moved : start.run ((turns.wait move).moves start.nextNumber) =
      (start.run (turns.moves start.nextNumber)).apply move := by
    rw [turns.moves_wait, run_concat]
  refine ⟨serial.recorded.ambient around, serial.ended.later sound move, ?_,
    ⟨older, early, late, ?_, waiting.later move⟩, serial.locked, ?_⟩
  · rw [run_concat, (step_apply firstly.orderly move).held_eq firstly kept]
    exact serial.held
  · rw [run_concat, moved]
    exact still
  · rw [moved, nextNumber_ambient secondly.orderly around]
    exact serial.numbered

/-- A move that does nothing where calls overlap is left out where they are made in turn. -/
theorem unmoved (serial : start.Serial moves turns) (sound : start.Sound)
    (apart : move.isAmbient start.nextNumber = false)
    (quiet : (start.run moves).acting? move = none)
    (same : (start.run moves).apply move = start.run moves) :
    start.Serial (moves ++ [move]) turns := by
  rcases serial.beside with ⟨old, early, late, beside, waiting⟩
  refine ⟨serial.recorded.still apart (by simp [quiet]), serial.ended.later sound move, ?_,
    ⟨old, early, late, ?_, waiting.later move⟩, serial.locked, serial.numbered⟩
  · rw [run_concat, same]
    exact serial.held
  · rw [run_concat, same]
    exact beside

/-- A call that is only started waits, and is not there yet where calls are made in turn. -/
theorem started (serial : start.Serial moves turns) (sound : start.Sound) {number : Nat}
    {request : Request} (asked : request.isTagging = true) :
    start.Serial (moves ++ [.start number request]) turns := by
  have late_number : start.nextNumber ≤ (start.run moves).nextNumber :=
    sound.run_induction (fun _ => True) (fun execution => start.nextNumber ≤ execution.nextNumber)
      (fun _ _ _ _ _ step earlier => Nat.le_trans earlier step.nextNumber_le) (Nat.le_refl _) moves
      fun _ _ => trivial
  have begun : (start.run moves).apply (.start number request) =
      (start.run moves).start number request := by
    simp only [apply, byHolder, serial.held, if_true]
  by_cases fresh : (start.run moves).nextNumber ≤ number
  · rcases serial.beside with ⟨old, early, late, beside, waiting⟩
    refine ⟨serial.recorded.still rfl rfl, serial.ended.later sound _, ?_,
      ⟨old, early, late ++ [⟨number, request, request.entry⟩], ?_, ?_⟩, serial.locked,
      serial.numbered⟩
    · rw [run_concat, begun, Execution.start, if_pos fresh]
      exact serial.held
    · rw [run_concat, begun]
      have joined := beside.started fresh (Nat.le_trans late_number fresh) asked
      simpa only [List.append_assoc] using joined
    · intro task among
      rw [← List.append_assoc, List.mem_append, List.mem_singleton] at among
      rcases among with old | rfl
      · exact waiting.later _ task old
      · exact ⟨rfl, List.mem_append_right _ (List.mem_singleton_self _)⟩
  · refine serial.unmoved sound rfl rfl ?_
    rw [begun, Execution.start, if_neg fresh]

/-- A call that has the definition lock, or takes it, takes a step in both runs. -/
theorem advance (sound : start.Sound) {done : List TagCall} (call : TagCall) {point : Point}
    {ahead : List Move} {old early late : List Task}
    (recorded : start.Recorded (moves ++ [.resume call.number]) (done ++ [call]) [])
    (ended : start.Ended moves done) (held : (start.run moves).world.node.held = true)
    (beside : Beside (Report.Alike start.nextNumber ((done ++ [call]).map TagCall.number))
      start.nextNumber old (early ++ ([⟨call.number, call.request, point⟩] ++ late))
      [⟨start.nextNumber + done.length, call.request, point⟩] (start.run moves)
      (start.run (inTurn start.nextNumber done ++ ahead)))
    (waiting : Waiting moves (early ++ late))
    (ready : (start.run moves).isReady ⟨call.number, call.request, point⟩ = true)
    (locks : point.locksDefinition)
    (whole : call.moves (start.nextNumber + done.length) =
      ahead ++ [.resume (start.nextNumber + done.length)])
    (numbered : (start.run (inTurn start.nextNumber done ++ ahead)).nextNumber =
      start.nextNumber + done.length + 1) :
    ∃ turns, start.Serial (moves ++ [.resume call.number]) turns := by
  have firstly := sound.run moves
  have secondly := sound.run (inTurn start.nextNumber done ++ ahead)
  have isCall := beside.tagging ⟨call.number, call.request, point⟩ (.inl (by simp))
  have overlapping : start.run (moves ++ [.resume call.number]) =
      (start.run moves).replace (old ++ early) ⟨call.number, call.request, point⟩ late
        (point.resume (start.run moves).world) := by
    rw [run_concat]
    exact resume_eq_replace firstly.orderly (by simp [beside.left]) ready
  have serial : start.run (inTurn start.nextNumber (done ++ [call])) =
      (start.run (inTurn start.nextNumber done ++ ahead)).replace old
        ⟨start.nextNumber + done.length, call.request, point⟩ []
        (point.resume (start.run moves).world) := by
    rw [inTurn_concat, whole, ← List.append_assoc, run_concat, beside.world]
    exact resume_eq_replace secondly.orderly beside.right ((beside.isReady_eq _).symm.trans ready)
  have kept : (start.run (moves ++ [.resume call.number])).world.node.held = true := by
    rw [run_concat, (step_apply firstly.orderly _).held_eq firstly rfl]
    exact held
  have still := ended.later sound (.resume call.number)
  have tagging : ∀ next world, point.resume (start.run moves).world = .pause next world →
      next.isTagging = true :=
    fun _ _ paused => Point.isTagging_of_resume isCall.tagging paused
  have same : ∀ answer, Report.Alike start.nextNumber ((done ++ [call]).map TagCall.number)
      ⟨call.number, call.request, answer⟩
      ⟨start.nextNumber + done.length, call.request, answer⟩ :=
    fun answer => .call done.length call.number call.request answer (by simp)
  have joined := beside.advance waiting same tagging
  rw [← overlapping, ← serial] at joined
  cases stage : point.resume (start.run moves).world with
  | pause next world =>
      rw [stage] at joined serial
      refine ⟨⟨done, some ⟨call, next⟩, []⟩, recorded, still, kept,
        ⟨old, early, late, ?_, waiting.later _⟩, ?_, ?_⟩
      · rw [Turns.moves, List.append_nil]
        exact joined
      · rintro begun ⟨⟩
        exact Point.holds_definition_of_resume isCall.tagging locks stage
      · rw [Turns.moves, List.append_nil, Turns.calls, Option.toList_some, List.map_singleton,
          serial, List.length_append]
        exact numbered
  | done answer world =>
      rw [stage] at joined overlapping serial
      have calls : (⟨done ++ [call], none, []⟩ : Turns).calls = done ++ [call] :=
        List.append_nil _
      have resting : ∀ task,
          task ∈ (start.run (inTurn start.nextNumber (done ++ [call]))).running →
            task.number < start.nextNumber := by
        rw [joined.right, Stage.remaining, List.append_nil]
        exact beside.older
      have answered : ⟨call.number, call.request, answer⟩ ∈
          (start.run (moves ++ [.resume call.number])).reports := by
        rw [overlapping]
        exact List.mem_cons_self
      refine ⟨⟨done ++ [call], none, []⟩, ?_, still.concat resting answered, kept,
        ⟨old, early, late, ?_, waiting.later _⟩, ?_, ?_⟩
      · rw [calls]
        exact recorded
      · rw [Turns.moves, List.append_nil, calls]
        exact joined
      · intro begun active
        cases active
      · rw [Turns.moves, List.append_nil, calls, serial, List.length_append]
        exact numbered

/-- A call that waits gets the lock, and is started only now where calls are made in turn. -/
theorem acquires (serial : start.Serial moves turns) (sound : start.Sound)
    (accounted : start.Accounted) (nobody : turns.active = none) {number : Nat}
    {request : Request} {early late old : List Task}
    (beside : Beside (Report.Alike start.nextNumber (turns.calls.map TagCall.number))
      start.nextNumber old (early ++ (⟨number, request, request.entry⟩ :: late)) []
      (start.run moves) (start.run (turns.moves start.nextNumber)))
    (waiting : Waiting moves (early ++ (⟨number, request, request.entry⟩ :: late)))
    (acts : (start.run moves).acting? (.resume number) = some ⟨number, request, request.entry⟩) :
    ∃ turns, start.Serial (moves ++ [.resume number]) turns := by
  have calls : turns.calls = turns.done := by
    rw [Turns.calls, nobody]
    exact List.append_nil _
  have isCall := beside.tagging ⟨number, request, request.entry⟩ (.inl (by simp))
  have waits := Point.obstacle_of_isTagging_entry isCall.asked
  have asked := (waiting ⟨number, request, request.entry⟩ (by simp)).2
  have secondly := sound.run (turns.moves start.nextNumber)
  have recorded := serial.recorded
  rw [calls] at recorded
  have numbered : (start.run (turns.moves start.nextNumber)).nextNumber =
      start.nextNumber + turns.done.length := by
    rw [serial.numbered, calls]
  have fresh := Nat.le_of_eq numbered
  have begun : start.run (inTurn start.nextNumber turns.done ++
      (turns.rest ++ [.start (start.nextNumber + turns.done.length) request])) =
        (start.run (turns.moves start.nextNumber)).start (start.nextNumber + turns.done.length)
          request := by
    have held : (start.run (turns.moves start.nextNumber)).world.node.held = true :=
      beside.world ▸ serial.held
    rw [← List.append_assoc, run_concat, ← calls]
    simp only [apply, byHolder]
    exact if_pos held
  have unasked : ∀ call, call ∈ turns.done → call.number ≠ number := by
    intro call among
    rcases serial.ended.returned call among with ⟨answer, reported⟩
    have running : ⟨number, request, request.entry⟩ ∈ (start.run moves).running := by
      rw [beside.left]
      simp
    exact ((accounted.run sound.orderly moves).finished _ _ reported running).symm
  have joined := (beside.symm.started fresh (Nat.le_add_right _ _) isCall.asked).symm
  rw [← begun, calls] at joined
  refine advance sound ⟨number, request, turns.rest, []⟩
    (recorded.begins acts isCall.late isCall.tagging waits asked unasked) serial.ended serial.held
    (joined.mono ?_) ?_ (acting?_eq_some acts).2.1 (.inr waits) ?_ ?_
  · intro report other alike
    rw [List.map_append]
    exact alike.append _
  · intro task among
    refine waiting task ?_
    simp only [List.mem_append, List.mem_cons] at among ⊢
    exact among.imp_right .inr
  · simp [TagCall.moves]
  · rw [begun, Execution.start, if_pos fresh]

/-- The call that has the definition lock takes its next step in both runs. -/
theorem works (serial : start.Serial moves turns) (sound : start.Sound) {begun : Begun}
    (active : turns.active = some begun)
    (acts : (start.run moves).acting? (.resume begun.call.number) = some begun.task) :
    ∃ turns, start.Serial (moves ++ [.resume begun.call.number]) turns := by
  rcases serial.beside with ⟨old, early, late, beside, waiting⟩
  have calls : turns.calls = turns.done ++ [begun.call] := by
    rw [Turns.calls, active]
    rfl
  rw [active] at beside
  have isCall := beside.tagging begun.task (.inl (by simp))
  have holds := serial.locked begun active
  have free := Point.obstacle_of_holds_definition isCall.tagging holds
  have recorded := serial.recorded
  rw [calls] at recorded
  have whole : turns.moves start.nextNumber = inTurn start.nextNumber turns.done ++
      (begun.call.moves (start.nextNumber + turns.done.length) ++ turns.rest) := by
    rw [Turns.moves, calls, inTurn_concat, List.append_assoc]
  rw [whole, calls] at beside
  have same : (turns.done ++ [begun.call]).map TagCall.number =
      (turns.done ++ [begun.call.goOn turns.rest]).map TagCall.number := by
    simp [TagCall.goOn]
  rw [same] at beside
  refine advance sound (begun.call.goOn turns.rest) (recorded.goesOn acts isCall.late free)
    serial.ended serial.held beside waiting (acting?_eq_some acts).2.1 (.inl holds)
    (begun.call.moves_goOn _ _) ?_
  rw [← whole, serial.numbered, calls, List.length_append]
  rfl

/-- A call that acts is the one that has the lock, or nobody has it and the call takes it. -/
theorem resumes (serial : start.Serial moves turns) (sound : start.Sound)
    (accounted : start.Accounted)
    (acts : (start.run moves).acting? move = some task) (late : start.nextNumber ≤ task.number) :
    ∃ turns, start.Serial (moves ++ [move]) turns := by
  rcases acting?_eq_some acts with ⟨rfl, ready, earlier, later, split⟩
  rcases serial.beside with ⟨old, early, behind, beside, waiting⟩
  have running : task ∈ (start.run moves).running := mem_of_eq_append split
  rw [beside.left, List.mem_append, List.mem_append, List.mem_append] at running
  have younger : task ∉ old := fun among => by
    have older := beside.older task among
    omega
  have known := (or_iff_right younger).mp running
  rcases active : turns.active with _ | begun
  · rw [active] at known beside
    have among : task ∈ early ++ behind := by
      simpa using known
    rcases waiting task among with ⟨stands, asked⟩
    rcases List.append_of_mem among with ⟨before, after, parted⟩
    obtain ⟨number, request, point⟩ := task
    obtain rfl : point = request.entry := stands
    have apart : early ++ (List.map Begun.task none.toList ++ behind) =
        before ++ (⟨number, request, request.entry⟩ :: after) := parted
    rw [apart] at beside
    rw [parted] at waiting
    exact serial.acquires sound accounted active beside waiting acts
  · rw [active] at known beside
    have owner : begun.task ∈ (start.run moves).running := by
      rw [beside.left]
      simp
    by_cases own : task = begun.task
    · rw [own] at acts ⊢
      exact serial.works sound active acts
    · have among : task ∈ early ++ behind := by
        simpa [own] using known
      have isCall := beside.tagging task (.inl (by simpa [own] using known))
      have waits : task.point.obstacle = some (.lock .definition) := by
        rw [(waiting task among).1]
        exact Point.obstacle_of_isTagging_entry isCall.asked
      have free : (start.run moves).isFree .definition = true := by
        simpa only [isReady, waits, isClear] using ready
      have holds := serial.locked begun active
      have nobody := not_holds_of_isFree free owner
      rw [show begun.task.point = begun.point from rfl, holds] at nobody
      cases nobody

/-- **One move keeps the two runs alike.** -/
theorem step (serial : start.Serial moves turns) (sound : start.Sound)
    (accounted : start.Accounted) (kept : move.startsOnlyTagCalls = true) :
    ∃ turns, start.Serial (moves ++ [move]) turns := by
  rcases around : move.isAmbient start.nextNumber with _ | _
  · cases move with
    | start number request => exact ⟨turns, serial.started sound kept⟩
    | resume number =>
        rcases acts : (start.run moves).acting? (.resume number) with _ | task
        · refine ⟨turns, serial.unmoved sound around acts ?_⟩
          have silent := silent_of_acting? (sound.run moves).orderly acts
          generalize (start.run moves).apply (.resume number) = after at silent ⊢
          cases silent with
          | idle => rfl
          | outside _ change changes => cases changes
        · have late : ¬task.number < start.nextNumber := by
            rcases acting?_eq_some acts with ⟨same, _⟩
            cases same
            simpa [Move.isAmbient] using around
          exact serial.resumes sound accounted acts (Nat.le_of_not_lt late)
    | runMonitor number => cases kept
    | release => cases kept
    | _ => cases around
  · exact ⟨_, serial.ambient sound around kept⟩

/-- **The two runs stay alike.** -/
theorem run (sound : start.Sound) (accounted : start.Accounted)
    (held : start.world.node.held = true) (moves : List Move)
    (kept : ∀ move, move ∈ moves → move.startsOnlyTagCalls = true) :
    ∃ turns, start.Serial moves turns := by
  induction moves using List.reverseRecOn with
  | nil => exact ⟨{}, nil sound.orderly accounted held⟩
  | append_singleton moves move hypothesis =>
      rcases hypothesis fun other among => kept other (List.mem_append_left _ among) with
        ⟨turns, serial⟩
      exact serial.step sound accounted (kept move (by simp))

/-- When all calls have returned, only the older tasks are under way. -/
theorem running_eq (serial : start.Serial moves turns)
    (returned : ∀ task, task ∈ (start.run moves).running → task.number < start.nextNumber) :
    (start.run (turns.moves start.nextNumber)).running = (start.run moves).running := by
  rcases serial.beside with ⟨old, early, late, beside, waiting⟩
  have nobody : early ++ (turns.active.toList.map Begun.task ++ late) = [] := by
    rw [List.eq_nil_iff_forall_not_mem]
    intro task among
    have older := returned task (beside.left ▸ List.mem_append_right _ among)
    exact absurd (beside.tagging task (.inl among)).late (Nat.not_le_of_lt older)
  have inactive : turns.active = none := by
    simp only [List.append_eq_nil_iff, List.map_eq_nil_iff, Option.toList_eq_nil_iff] at nobody
    exact nobody.2.1
  rw [beside.left, beside.right, nobody, inactive]
  rfl

end Serial

end Execution

namespace Outset

/-- **Calls about tags serialise.** Take any moves, the later ones such that they start only pushes,
clears and reconfigurations; whatever else is under way when they begin may take its steps among
those of the calls, and the provider may fail as it likes.

Then there are calls, numbered in the order in which they got the definition lock, each at most
once, that come to the same when they are made in turn: none of them starts before all earlier ones
have ended, and around their steps the same other moves are made in the same order. The world is the
same after both, and so are the definition, its flag and the tags that the provider has. The reports
agree one by one, so every call that has returned gave the answer that it gives in its turn. When
all calls have returned, the same tasks are under way.

And whatever one of these calls, or any other task but a synchronization with tags of its own, sends
in order to change the tags of the instance are the tags that the definition has at that moment,
never those of a definition that has been replaced. -/
theorem tag_calls_serialise (outset : Outset) (earlier later : List Move)
    (held : (outset.execution.run earlier).world.node.held = true)
    (kept : ∀ move, move ∈ later → move.startsOnlyTagCalls = true) :
    let before := outset.execution.run earlier
    let now := outset.execution.run (earlier ++ later)
    let order := before.acquisitions later
    (order.Nodup ∧ ∃ calls rest, let serial := before.run (inTurn before.nextNumber calls ++ rest)
      calls.map TagCall.number = order ∧
      (∀ call, call ∈ calls → .start call.number call.request ∈ later) ∧
      calls.flatMap TagCall.around ++ rest =
        later.filter (fun move => move.isAmbient before.nextNumber) ∧
      (∀ past call future, calls = past ++ call :: future →
        ∀ task, task ∈ (before.run (inTurn before.nextNumber past)).running →
          task.number < before.nextNumber) ∧
      serial.world = now.world ∧
      List.Forall₂ (Report.Alike before.nextNumber order) now.reports serial.reports ∧
      ((∀ task, task ∈ now.running → task.number < before.nextNumber) →
        serial.running = now.running)) ∧
    ∀ past move task call, let state := outset.execution.run past
      state.acting? move = some task →
      (∀ change tags, task.request ≠ .synchronize change tags) →
      task.point.call? = some call → call.operation.changesTags = true →
      call.tags = Tag.batch state.world.node.definition.tags := by
  intro before now order
  refine ⟨?_, fun past move task call acts own calls changes =>
    outset.tags_of_call? past acts own calls changes⟩
  have reached : now = before.run later := Execution.run_append _ _ _
  rcases Execution.Serial.run (outset.sound_run earlier) (outset.accounted_run earlier) held later
    kept with ⟨turns, serial⟩
  rcases serial.beside with ⟨old, early, late, beside, waiting⟩
  have ordered := serial.recorded.order
  have apart := serial.recorded.apart
  rw [ordered] at apart beside
  refine ⟨apart, turns.calls, turns.rest, ordered, serial.recorded.asked, serial.recorded.around,
    ?_, ?_, ?_, ?_⟩
  · intro past call future split
    rcases Turns.done_of_split split with ⟨rest, done⟩
    exact serial.ended.resting past rest done
  · rw [reached]
    exact beside.world.symm
  · rw [reached]
    exact beside.reports
  · intro returned
    rw [reached] at returned ⊢
    exact serial.running_eq returned

/-- A push is asked for first, but a reconfiguration gets the definition lock before it. It fails
when it has replaced the definition, since the provider is asked too often. -/
def overlapping : List Move :=
  [.start 0 (.changeTags .push),
    .start 1 (.reconfigure { name := "node", tags := [⟨"zone", "a"⟩] }),
    .resume 1, .resume 0, .resume 1, .resume 1, .resume 1, .resume 1,
    .happen (.failNext .createTags (.throttled .createTags)), .resume 1, .resume 1, .resume 1,
    .resume 0, .resume 0, .resume 0, .resume 0]

def overlapped : Execution :=
  (tagged [⟨"team", "core"⟩]).execution.run overlapping

/-- The push comes second, whoever asked first, and so it pushes the tags of the new definition. -/
theorem tag_calls_serialise_of_overlapping :
    overlapped.reports = [⟨0, .changeTags .push, .tagOutcome (.ok (.applied 1))⟩,
        ⟨1, .reconfigure { name := "node", tags := [⟨"zone", "a"⟩] },
          .reconfigured (.error (.provider (.throttled .createTags)))⟩] ∧
      (overlapped.world.provider.tagsOf someInstance).find? "zone" = some "a" ∧
      ∃ calls rest, let serial := (tagged [⟨"team", "core"⟩]).execution.run (inTurn 0 calls ++ rest)
        calls.map TagCall.number = [1, 0] ∧ serial.world = overlapped.world ∧
          serial.running = [] := by
  have ended : ((tagged [⟨"team", "core"⟩]).execution.run ([] ++ overlapping)).running = [] := rfl
  rcases (tagged [⟨"team", "core"⟩]).tag_calls_serialise [] overlapping rfl (by decide) with
    ⟨⟨_, calls, rest, ordered, _, _, _, same, _, left⟩, _⟩
  rw [ended] at left
  have nobody := left fun task running => by cases running
  exact ⟨rfl, rfl, calls, rest, ordered, same, nobody⟩

end Outset

end BuildAgent
