import BuildAgent.Proofs.Execution.History
import BuildAgent.Proofs.Monitor.Bookings
import BuildAgent.Proofs.Monitor.Retirement

/-!
# The phases of a watchdog

A watchdog rests until its interval is over, looks at the node, and acts on the node if it was idle
for too long. Where its task stands tells the phase (`Point.watchPhase?`), and what it does with a
step is its `WatchDeed`, if the step is worth one. `Point.watches` goes through the procedures of
all tasks once: it says from which phase to which a step leads and with which deed, and what has to
be true of the world for it. `Execution.watchStep_apply` says the same of every move and one task,
whatever the other tasks do, so the laws about watchdogs are read off `Execution.WatchStep`.
-/

namespace BuildAgent

inductive WatchPhase where
  | resting
  | looking
  | acting
  deriving DecidableEq, Repr

/-- What a watchdog does that is seen from outside. -/
inductive WatchDeed where
  /-- Its interval is over. The node may have been retired by then. -/
  | ticked (retired : Bool)
  /-- It begins to stop or to terminate the instance. The idle time that the definition in force
  allows is given in seconds. -/
  | began (limit : Option Nat)
  /-- To stop or to terminate the instance has come to its end. -/
  | finished (action : IdleAction)
  deriving DecidableEq, Repr

namespace Point

/-- The phase of a watchdog at a point; none if the task there is no watchdog. -/
def watchPhase? : Point → Option WatchPhase
  | startingWatch _ => some .resting
  | watching _ => some .resting
  | consulting (.idleLimit _) => some .looking
  | consulting (.idleAction (.watchdog _)) => some .acting
  | stopping (.watchdog _) _ => some .acting
  | terminating (.watchdog _) _ => some .acting
  | _ => none

/-- What a watchdog does with the step that it takes at a point. -/
def watchDeed? (point : Point) (world : World) : Option WatchDeed :=
  match point with
  | watching _ => some (.ticked world.node.retired)
  | consulting (.idleLimit _) =>
    match point.resume world with
    | .pause (.consulting (.idleAction _)) _ => some (.began world.node.definition.idleTermination?)
    | _ => none
  | stopping (.watchdog _) inner =>
    match inner.resume world with
    | .done accepted _ => some (.finished (.stopped accepted))
    | .pause .. => none
  | terminating (.watchdog _) inner =>
    match inner.resume world with
    | .done accepted _ => some (.finished (.terminated accepted))
    | .pause .. => none
  | _ => none

/-- From which phase to which the step of a task leads, with which deed, and what is true of the
world then. -/
inductive Watches (before : World) :
    Option WatchPhase → Option WatchDeed → Stage Point Answer → Prop where
  | outside {next : Point} {after : World} (other : next.watchPhase? = none) :
      Watches before none none (.pause next after)
  | answered {answer : Answer} {after : World} (other : ∀ exit, answer ≠ .watchEnded exit) :
      Watches before none none (.done answer after)
  | entered {next : Point} {after : World} (rests : next.watchPhase? = some .resting) :
      Watches before (some .resting) none (.pause next after)
  | ticked {next : Point} {after : World} (managed : before.node.retired = false)
      (looks : next.watchPhase? = some .looking) :
      Watches before (some .resting) (some (.ticked false)) (.pause next after)
  | retired {after : World} (retired : before.node.retired = true)
      (still : after.node.retired = true) :
      Watches before (some .resting) (some (.ticked true)) (.done (.watchEnded .retired) after)
  | spared {next : Point} {after : World} (rests : next.watchPhase? = some .resting) :
      Watches before (some .looking) none (.pause next after)
  | began {next : Point} {after : World} (seconds : Nat)
      (limited : before.node.definition.idleTermination? = some seconds)
      (idle : seconds * 1000 ≤ before.idleFor) (acts : next.watchPhase? = some .acting) :
      Watches before (some .looking) (some (.began (some seconds))) (.pause next after)
  | goesOn {next : Point} {after : World} (acts : next.watchPhase? = some .acting) :
      Watches before (some .acting) none (.pause next after)
  | finished {next : Point} {after : World} (action : IdleAction)
      (other : action ≠ .terminated true) (rests : next.watchPhase? = some .resting)
      (recorded : after.node.lastActivity = before.clock) :
      Watches before (some .acting) (some (.finished action)) (.pause next after)
  | terminated {after : World} (retired : after.node.retired = true) :
      Watches before (some .acting) (some (.finished (.terminated true)))
        (.done (.watchEnded .retired) after)

variable {before world : World}

theorem Watches.andThen {π ρ : Type} (stage : Stage π ρ) {wrap : π → Point}
    {next : ρ → World → Stage Point Answer} (points : ∀ inner, (wrap inner).watchPhase? = none)
    (rest : ∀ result middle, Watches before none none (next result middle)) :
    Watches before none none (stage.andThen wrap next) := by
  cases stage with
  | pause inner middle => exact .outside (points inner)
  | done result middle => exact rest result middle

theorem watches_finish {ρ : Type} {answer : ρ → Answer}
    (other : ∀ result exit, answer result ≠ .watchEnded exit) (result : ρ) (middle : World) :
    Watches before none none (finish answer result middle) :=
  .answered (other result)

theorem watches_afterReboot (afterBuild : Bool) (result : Except Refusal Nat) (middle : World) :
    Watches before none none (afterReboot afterBuild result middle) := by
  simp only [afterReboot]
  split
  · split <;> exact .answered (by simp)
  · exact .answered (by simp)

theorem watches_idleLimit (watch : Watch) (world : World) :
    Watches world (some .looking) ((consulting (.idleLimit watch)).watchDeed? world)
      ((consulting (.idleLimit watch)).resume world) := by
  simp only [watchDeed?, resume, consult]
  rcases limited : world.node.definition.idleTermination? with _ | seconds
  · exact .spared rfl
  · by_cases busy : world.idleFor < seconds * 1000
    · simp only [busy, if_true]
      exact .spared rfl
    · simp only [busy, if_false]
      exact .began seconds limited (by omega) rfl

theorem watches_stopping (watch : Watch) (inner : StopPoint) (world : World) :
    Watches world (some .acting) ((stopping (.watchdog watch) inner).watchDeed? world)
      ((stopping (.watchdog watch) inner).resume world) := by
  have clock := (inner.through world).clock_eq
  simp only [watchDeed?, resume]
  rcases ended : inner.resume world with ⟨later, middle⟩ | ⟨accepted, middle⟩
  · exact .goesOn rfl
  · have same : middle.clock = world.clock := by rw [← clock, ended]; rfl
    exact .finished (.stopped accepted) (by simp) rfl same

theorem watches_terminating (watch : Watch) (inner : TerminatePoint) (world : World) :
    Watches world (some .acting) ((terminating (.watchdog watch) inner).watchDeed? world)
      ((terminating (.watchdog watch) inner).resume world) := by
  have clock := (inner.through world).clock_eq
  simp only [watchDeed?, resume]
  rcases ended : inner.resume world with ⟨later, middle⟩ | ⟨accepted, middle⟩
  · exact .goesOn rfl
  · have same : middle.clock = world.clock := by rw [← clock, ended]; rfl
    cases accepted with
    | false => exact .finished (.terminated false) (by simp) rfl same
    | true => exact .terminated middle.retired_retire

/-- **What a watchdog does with each step**, and that no other task does anything like it. -/
theorem watches (point : Point) (world : World) :
    Watches world point.watchPhase? (point.watchDeed? world) (point.resume world) := by
  cases point with
  | consulting consultation =>
      cases consultation with
      | idleLimit watch => exact watches_idleLimit watch world
      | idleAction caller =>
          cases caller with
          | watchdog watch =>
              simp only [resume, consult]
              split <;> exact .goesOn rfl
          | _ =>
              simp only [resume, consult]
              split <;> exact .outside rfl
      | rebootAfterBuild =>
          simp only [resume, consult]
          split
          · exact .outside rfl
          · exact .answered (by simp)
      | address => exact .outside rfl
      | _ => exact .answered (by simp)
  | fetching query inner =>
      refine Watches.andThen _ (fun _ => rfl) (watches_finish ?_)
      intro found exit
      cases query <;> simp [Query.answer]
  | lookingUp inner => exact Watches.andThen _ (fun _ => rfl) (watches_finish (by simp))
  | changingTags change => exact Watches.andThen _ (fun _ => rfl) (watches_finish (by simp))
  | synchronizing change tags locked inner =>
      exact Watches.andThen _ (fun _ => rfl) (watches_finish (by simp))
  | reconfiguring definition inner =>
      exact Watches.andThen _ (fun _ => rfl) (watches_finish (by simp))
  | rebooting afterBuild inner =>
      exact Watches.andThen _ (fun _ => rfl) (watches_afterReboot afterBuild)
  | looking session inner =>
      exact Watches.andThen _ (fun _ => rfl) (watches_finish (by simp))
  | stopping caller inner =>
      cases caller with
      | watchdog watch => exact watches_stopping watch inner world
      | _ => exact Watches.andThen _ (fun _ => rfl) fun _ _ => .answered (by simp)
  | terminating caller inner =>
      cases caller with
      | watchdog watch => exact watches_terminating watch inner world
      | _ => exact Watches.andThen _ (fun _ => rfl) fun _ _ => .answered (by simp)
  | disconnecting inner =>
      exact Watches.andThen _ (fun _ => rfl) fun _ _ => .answered (by simp)
  | tearingDown cause => exact Watches.andThen _ (fun _ => rfl) fun _ _ => .answered (by simp)
  | startingWatch interval => exact .entered rfl
  | watching watch =>
      simp only [watchPhase?, watchDeed?, resume, watchLook]
      rcases retired : world.node.retired with _ | _
      · exact .ticked retired rfl
      · exact .retired retired retired
  | completingBuild => exact .outside rfl
  | _ => exact .answered (by simp)

/-- Only a watchdog that rests takes notice of the shutdown channel. -/
theorem watching_of_hasNews {point : Point} (news : point.hasNews world = true) :
    ∃ watch, point = .watching watch := by
  cases point with
  | watching watch => exact ⟨watch, rfl⟩
  | _ => cases news

theorem watchPhase?_entry (request : Request) :
    request.entry.watchPhase? = none ∨ request.entry.watchPhase? = some .resting := by
  cases request with
  | watch interval => exact .inr rfl
  | _ => exact .inl rfl

end Point

/-! ## The watchdog with a number -/

namespace Execution

/-- The phase of the watchdog with a number, while it is under way. -/
def watchPhase? (execution : Execution) (number : Nat) : Option WatchPhase :=
  (execution.task? number).bind fun task => task.point.watchPhase?

/-- What the watchdog with a number does with a move. -/
def watchDeed? (number : Nat) (execution : Execution) (move : Move) : Option WatchDeed :=
  match execution.acting? move with
  | some task => if task.number = number then task.point.watchDeed? execution.world else none
  | none => none

/-- What a move does to the watchdog with a number: from which phase to which it leads, with which
deed, and what is true of the world then. -/
inductive WatchStep (number : Nat) (before after : Execution) :
    Option WatchPhase → Option WatchDeed → Option WatchPhase → Prop where
  | still (phase : Option WatchPhase) : WatchStep number before after phase none phase
  | started (fresh : before.nextNumber ≤ number) :
      WatchStep number before after none none (some .resting)
  | ticked (managed : before.world.node.retired = false) :
      WatchStep number before after (some .resting) (some (.ticked false)) (some .looking)
  | retired (retired : before.world.node.retired = true) :
      WatchStep number before after (some .resting) (some (.ticked true)) none
  | shutDown : WatchStep number before after (some .resting) none none
  | spared : WatchStep number before after (some .looking) none (some .resting)
  | began (seconds : Nat)
      (limited : before.world.node.definition.idleTermination? = some seconds)
      (idle : seconds * 1000 ≤ before.world.idleFor) :
      WatchStep number before after (some .looking) (some (.began (some seconds))) (some .acting)
  | finished (action : IdleAction) (other : action ≠ .terminated true)
      (recorded : after.world.node.lastActivity = before.world.clock) :
      WatchStep number before after (some .acting) (some (.finished action)) (some .resting)
  | terminated :
      WatchStep number before after (some .acting) (some (.finished (.terminated true))) none

variable {execution before after : Execution} {number : Nat} {move : Move} {task : Task}
  {earlier later : List Task} {stage : Stage Point Answer}

theorem watchPhase?_of_mem (orderly : execution.Orderly) (running : task ∈ execution.running) :
    execution.watchPhase? task.number = task.point.watchPhase? := by
  simp [watchPhase?, task?_of_mem orderly running]

/-- A watchdog under way has been given its number. -/
theorem number_lt_of_watchPhase? (orderly : execution.Orderly) {phase : WatchPhase}
    (watches : execution.watchPhase? number = some phase) : number < execution.nextNumber := by
  rcases Option.bind_eq_some_iff.mp watches with ⟨task, found, _⟩
  rcases split_of_task? found with ⟨rfl, _, _, split⟩
  exact orderly.numbered task (mem_of_eq_append split)

theorem watchPhase?_replace (orderly : execution.Orderly)
    (split : execution.running = earlier ++ task :: later) (stage : Stage Point Answer) :
    (execution.replace earlier task later stage).watchPhase? task.number =
      stage.point?.bind Point.watchPhase? := by
  rw [watchPhase?, task?_replace orderly split]
  cases stage <;> rfl

/-- The step of another task leaves a watchdog where it is. -/
theorem watchPhase?_replace_other (split : execution.running = earlier ++ task :: later)
    (stage : Stage Point Answer) (other : task.number ≠ number) :
    (execution.replace earlier task later stage).watchPhase? number =
      execution.watchPhase? number := by
  rw [watchPhase?, task?_replace_other split stage other, watchPhase?]

theorem watchPhase?_started (orderly : before.Orderly) {fresh : Nat} (request : Request)
    (world : World) (given : before.nextNumber ≤ fresh) :
    WatchStep number before after (before.watchPhase? number) none
      (Execution.watchPhase? { before with
        world
        running := before.running ++ [⟨fresh, request, request.entry⟩]
        nextNumber := fresh + 1 } number) := by
  by_cases own : fresh = number
  · subst own
    have absent : before.watchPhase? fresh = none := by
      rcases found : before.watchPhase? fresh with _ | phase
      · rfl
      · exact absurd (number_lt_of_watchPhase? orderly found) (by omega)
    have among : ⟨fresh, request, request.entry⟩ ∈
        before.running ++ [⟨fresh, request, request.entry⟩] := by simp
    have present := watchPhase?_of_mem (orderly.started given request world) among
    rw [absent, present]
    rcases Point.watchPhase?_entry request with elsewhere | rests
    · rw [elsewhere]
      exact .still none
    · rw [rests]
      exact .started given
  · have same := task?_started before fresh request world own
    simp only [watchPhase?, same]
    exact .still _

/-- **What a move does to a watchdog**, whatever the other tasks are about. -/
theorem watchStep_apply (orderly : execution.Orderly) (number : Nat) (move : Move) :
    WatchStep number execution (execution.apply move) (execution.watchPhase? number)
      (execution.watchDeed? number move) ((execution.apply move).watchPhase? number) := by
  rcases acts_or_silent orderly move with
    ⟨task, earlier, later, acts, split, takes, moved⟩ | ⟨nobody, silent⟩
  · simp only [watchDeed?, acts]
    rw [moved]
    by_cases own : task.number = number
    · subst own
      have watches := task.point.watches execution.world
      rw [watchPhase?_of_mem orderly (mem_of_eq_append split),
        watchPhase?_replace orderly split]
      simp only [if_true]
      generalize task.point.watchPhase? = phase, task.point.watchDeed? execution.world = deed,
        task.point.resume execution.world = stage at watches
      cases watches with
      | outside other =>
          simp only [Stage.point?, Option.bind_some, other]
          exact .still none
      | answered other => exact .still none
      | entered rests =>
          simp only [Stage.point?, Option.bind_some, rests]
          exact .still _
      | ticked managed looks =>
          simp only [Stage.point?, Option.bind_some, looks]
          exact .ticked managed
      | retired retired still => exact .retired retired
      | spared rests =>
          simp only [Stage.point?, Option.bind_some, rests]
          exact .spared
      | began seconds limited idle acts =>
          simp only [Stage.point?, Option.bind_some, acts]
          exact .began seconds limited idle
      | goesOn acts =>
          simp only [Stage.point?, Option.bind_some, acts]
          exact .still _
      | finished action other rests recorded =>
          simp only [Stage.point?, Option.bind_some, rests]
          exact .finished action other recorded
      | terminated retired => exact .terminated
    · rw [watchPhase?_replace_other split _ own]
      simp only [own, if_false]
      exact .still _
  · simp only [watchDeed?, nobody]
    generalize execution.apply move = after at silent
    cases silent with
    | idle move => exact .still _
    | outside move change changes => exact .still _
    | started fresh request given held => exact watchPhase?_started orderly request _ given
    | looked fresh session delay agenda given scheduled present =>
        exact watchPhase?_started orderly (.look session) _ given
    | lost fresh session delay agenda scheduled dropped alone => exact .still _
    | noticed earlier later task split news =>
        by_cases own : task.number = number
        · subst own
          rw [watchPhase?_of_mem orderly (mem_of_eq_append split),
            watchPhase?_replace orderly split]
          rcases Point.watching_of_hasNews news with ⟨watch, rests⟩
          simp only [rests, Point.notice, Point.watchPhase?]
          split
          · exact .shutDown
          · exact .still _
        · rw [watchPhase?_replace_other split _ own]
          exact .still _

end Execution

end BuildAgent
