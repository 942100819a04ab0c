import BuildAgent.Proofs.Cache.Answers
import BuildAgent.Proofs.Monitor.Openings
import BuildAgent.Proofs.Task.Calls

/-!
# The commands that reboots send

`Execution.sent` lists the reboot commands that the tasks of a node send to the provider, each with
the number of the task. A reboot of a node that is bound to an instance sends one, whether or not
the provider then accepts it, and a reboot of a node without an instance sends none. Between two
steps the point where a reboot stands tells what it has sent so far (`RebootPoint.sent`), and that
is what the list says of it (`Execution.Sends`).
-/

namespace BuildAgent

/-! ## Nobody rebinds the node -/

/-- Whether a task binds the node to an instance. -/
def Point.isBinding : Point → Bool
  | assigning .. => true
  | _ => false

/-- Whether a move asks for the node to be bound to an instance. -/
def Move.isBinding : Move → Bool
  | start _ (.assign ..) => true
  | _ => false

theorem World.Through.capacity_eq {permits : Deed → Prop} {before after : World}
    (through : before.Through permits after) (binds : ∀ instanceId, ¬permits (.bind instanceId)) :
    after.node.capacity = before.node.capacity := by
  refine through.view_eq (fun world => world.node.capacity) ?_
  intro deed world permitted
  cases deed with
  | bind instanceId => exact absurd permitted (binds instanceId)
  | retire => rcases world.node_retire with kept | kept <;> simp [Deed.apply, kept]
  | _ => simp [Deed.apply]

namespace Point

variable {point next : Point} {world after : World}

theorem capacity_resume (other : point.isBinding = false) (world : World) :
    (point.resume world).world.node.capacity = world.node.capacity := by
  cases point with
  | assigning instanceId announce => cases other
  | rebooting afterBuild inner =>
      exact (World.SameCache.of_spares (spares_rebooting afterBuild inner world)).capacity
  | looking session inner =>
      cases inner with
      | waiting =>
          have begun := World.SameCache.of_spares (LookPoint.spares_begin session world)
          exact (World.SameCache.andThen begun fun _ _ => ⟨rfl, rfl⟩).capacity
      | refreshing fetch =>
          have fetched := (fetch.through world).capacity_eq fun _ => id
          simp only [resume, LookPoint.resume]
          generalize fetch.resume world = stage at fetched ⊢
          cases stage with
          | pause later middle => exact fetched
          | done found middle =>
              exact (LookPoint.sameCache_act session middle _).capacity.trans fetched
  | _ =>
      refine (through rfl world).capacity_eq ?_
      intro what permitted
      simp [permits, Deed.IsNote, Deed.IsLookup, Deed.IsSync, Deed.IsFetch, StopPoint.permits,
        TerminatePoint.permits, DisconnectPoint.permits] at permitted

theorem isBinding_entry {number : Nat} {request : Request}
    (unbinding : (Move.start number request).isBinding = false) :
    request.entry.isBinding = false := by
  cases request with
  | assign instanceId announce => cases unbinding
  | _ => rfl

theorem isBinding_of_isEntrance (entrance : next.isEntrance = true) : next.isBinding = false := by
  cases next with
  | assigning instanceId announce => cases entrance
  | _ => rfl

theorem isBinding_of_resume (paused : point.resume world = .pause next after) :
    next.isBinding = false := by
  cases leads_of_resume paused with
  | elsewhere entrance => exact isBinding_of_isEntrance entrance
  | _ => rfl

end Point

/-! ## What a reboot sends -/

namespace RebootPoint

/-- What a reboot that stands at a point has sent. -/
def sent : RebootPoint → List InstanceId
  | diagnosing _ instanceId _ _ => [instanceId]
  | _ => []

/-- What a reboot sends with its next step. -/
def sending? : RebootPoint → Option InstanceId
  | commanding _ instanceId => some instanceId
  | _ => none

/-- The instance that a reboot concerns, once it has looked. -/
def target? : RebootPoint → Option InstanceId
  | commanding _ instanceId => some instanceId
  | diagnosing _ instanceId _ _ => some instanceId
  | _ => none

variable {point next : RebootPoint} {world after : World} {result : Except Refusal Nat}

theorem sent_of_pause (paused : point.resume world = .pause next after) :
    next.sent = point.sent ++ point.sending?.toList ∧ ∀ instanceId,
      next.target? = some instanceId → point.target? = some instanceId ∨
        world.node.capacity.bound? = some instanceId := by
  cases point with
  | entering =>
      simp only [resume] at paused
      split at paused
      · cases paused
      · cases paused
        exact ⟨rfl, fun _ aims => by cases aims⟩
  | waiting =>
      rcases begin_eq_enter world with ⟨prepared, begun, _⟩
      rw [resume, begun] at paused
      rcases Stage.andThen_eq_pause paused with ⟨later, _, rfl⟩ | ⟨_, middle, _, ended⟩
      · exact ⟨rfl, fun _ aims => by cases aims⟩
      · cases ended
        exact ⟨rfl, fun _ aims => by cases aims⟩
  | disconnecting session inner =>
      rcases Stage.andThen_eq_pause paused with ⟨later, _, rfl⟩ | ⟨_, middle, _, ended⟩
      · exact ⟨rfl, fun _ aims => by cases aims⟩
      · cases ended
        exact ⟨rfl, fun _ aims => by cases aims⟩
  | binding session =>
      simp only [resume] at paused
      split at paused
      · rename_i own bound
        cases paused
        refine ⟨rfl, ?_⟩
        rintro instanceId ⟨⟩
        exact .inr bound
      · cases paused
  | commanding session own =>
      simp only [resume] at paused
      split at paused
      · cases paused
      · cases paused
        exact ⟨rfl, fun _ aims => .inl aims⟩
  | diagnosing session own failure inner =>
      rcases Stage.andThen_eq_pause paused with ⟨later, _, rfl⟩ | ⟨_, middle, _, ended⟩
      · exact ⟨rfl, fun _ aims => .inl aims⟩
      · cases ended

/-- A reboot that ends has sent one command to the instance, if there is one. -/
theorem sent_of_done (managed : world.node.retired = false)
    (aims : ∀ instanceId, point.target? = some instanceId →
      world.node.capacity.bound? = some instanceId)
    (ended : point.resume world = .done result after) :
    point.sent ++ point.sending?.toList = world.node.capacity.bound?.toList := by
  cases point with
  | entering => simp [resume, managed] at ended
  | waiting =>
      rcases begin_eq world with ⟨inner, middle, begun, _⟩
      rw [resume, begun] at ended
      cases ended
  | disconnecting session inner =>
      simp only [resume] at ended
      cases stage_eq : inner.resume world <;> simp [stage_eq] at ended
  | binding session =>
      simp only [resume] at ended
      split at ended
      · cases ended
      · rename_i unbound
        rw [unbound]
        rfl
  | commanding session instanceId =>
      rw [aims instanceId rfl]
      rfl
  | diagnosing session instanceId failure inner =>
      rw [aims instanceId rfl]
      rfl

end RebootPoint

/-- The instance that a call asks the provider to reboot. -/
def Provider.Call.rebooted? : Provider.Call → Option InstanceId
  | ⟨.reboot, [instanceId], _⟩ => some instanceId
  | _ => none

namespace Point

/-- What a task has sent as a reboot. -/
def sent : Point → List InstanceId
  | rebooting _ inner => inner.sent
  | _ => []

/-- The reboot command that a task sends with its next step. -/
def sending? : Point → Option InstanceId
  | rebooting _ inner => inner.sending?
  | _ => none

def target? : Point → Option InstanceId
  | rebooting _ inner => inner.target?
  | _ => none

theorem call?_of_sending? {point : Point} {instanceId : InstanceId}
    (sends : point.sending? = some instanceId) :
    point.call? = some ⟨.reboot, [instanceId], []⟩ := by
  cases point with
  | rebooting afterBuild inner =>
      cases inner with
      | commanding session own =>
          cases sends
          rfl
      | _ => cases sends
  | _ => cases sends

/-- The point where a reboot stands tells the command that it sends. -/
theorem rebooted?_call? (point : Point) :
    point.call?.bind Provider.Call.rebooted? = point.sending? := by
  rcases calls : point.call? with _ | call
  · rcases sends : point.sending? with _ | instanceId
    · rfl
    · rw [call?_of_sending? sends] at calls
      cases calls
  · rcases sends : point.sending? with _ | instanceId
    · cases makes_of_call? calls with
      | synchronizing change tags locked instanceId batch => cases change <;> rfl
      | rebooting afterBuild session instanceId => cases sends
      | _ => rfl
    · rw [call?_of_sending? sends] at calls
      cases calls
      rfl

end Point

/-- The reboot command that a task sends with its next step, with the number of the task. -/
def Task.sends? (task : Task) : Option (Nat × InstanceId) :=
  (task.point.call?.bind Provider.Call.rebooted?).map fun instanceId => (task.number, instanceId)

namespace Execution

/-- The reboot commands that are sent while moves are made, each with the number of its task. -/
def sent (execution : Execution) (moves : List Move) : List (Nat × InstanceId) :=
  execution.observed Task.sends? moves

/-- The instances that a task has sent a reboot command to. -/
def sentBy (sent : List (Nat × InstanceId)) (number : Nat) : List InstanceId :=
  (sent.filter fun entry => entry.1 = number).map Prod.snd

variable {start before after execution : Execution} {move : Move} {task : Task}
  {sent : List (Nat × InstanceId)}

theorem sentBy_append (sent more : List (Nat × InstanceId)) (number : Nat) :
    sentBy (sent ++ more) number = sentBy sent number ++ sentBy more number := by
  simp [sentBy]

theorem sentBy_self (task : Task) :
    sentBy task.sends?.toList task.number = task.point.sending?.toList := by
  rcases sends : task.point.sending? with _ | instanceId <;>
    simp [sentBy, Task.sends?, Point.rebooted?_call?, sends]

theorem sentBy_other {number : Nat} (other : task.number ≠ number) :
    sentBy task.sends?.toList number = [] := by
  rcases sends : task.point.sending? with _ | instanceId <;>
    simp [sentBy, Task.sends?, Point.rebooted?_call?, sends, other]

theorem Silent.capacity_eq (silent : before.Silent move after) :
    after.world.node.capacity = before.world.node.capacity := by
  cases silent with
  | idle move => rfl
  | outside move change changes => exact (sameCache_outside changes before.world).capacity
  | started number request fresh held => rfl
  | looked number session delay agenda fresh scheduled present => simp
  | lost number session delay agenda scheduled dropped alone => simp [withWorld]
  | noticed earlier later task split news =>
      exact (task.point.through_notice before.world).capacity_eq fun _ => id

/-! ## What has been sent tells where a reboot stands -/

/-- What the reboot commands sent since a moment tell about the reboots that began since. -/
structure Sends (start : Execution) (sent : List (Nat × InstanceId)) (execution : Execution) :
    Prop where
  capacity : execution.world.node.capacity = start.world.node.capacity
  unbinding : ∀ task, task ∈ execution.running → task.point.isBinding = false
  given : ∀ number, execution.nextNumber ≤ number → sentBy sent number = []
  aims : ∀ task instanceId, task ∈ execution.running → start.nextNumber ≤ task.number →
    task.point.target? = some instanceId →
    start.world.node.capacity.bound? = some instanceId
  working : ∀ task, task ∈ execution.running → start.nextNumber ≤ task.number →
    sentBy sent task.number = task.point.sent
  returned : ∀ number answer, ⟨number, .reboot, answer⟩ ∈ execution.reports →
    start.nextNumber ≤ number → sentBy sent number = start.world.node.capacity.bound?.toList

end Execution

namespace Point

variable {point next : Point} {world after : World}

theorem sent_of_isEntrance (entrance : next.isEntrance = true) :
    next.sent = [] ∧ next.target? = none := by
  cases next with
  | rebooting afterBuild inner =>
      cases inner with
      | entering => exact ⟨rfl, rfl⟩
      | _ => cases afterBuild <;> cases entrance
  | _ => exact ⟨rfl, rfl⟩

theorem sent_entry (request : Request) :
    request.entry.sent = [] ∧ request.entry.target? = none := by
  cases request <;> exact ⟨rfl, rfl⟩

theorem sent_of_pause (paused : point.resume world = .pause next after) :
    next.sent = point.sent ++ point.sending?.toList ∧ ∀ instanceId,
      next.target? = some instanceId → point.target? = some instanceId ∨
        world.node.capacity.bound? = some instanceId := by
  cases point with
  | rebooting afterBuild inner =>
      rcases Stage.andThen_eq_pause paused with ⟨later, begun, rfl⟩ | ⟨_, middle, _, ended⟩
      · exact RebootPoint.sent_of_pause begun
      · exact absurd ended afterReboot_ne_pause
  | _ =>
      have nothing : next.sent = [] ∧ next.target? = none := by
        cases leads_of_resume paused with
        | elsewhere entrance => exact sent_of_isEntrance entrance
        | _ => exact ⟨rfl, rfl⟩
      rw [nothing.1, nothing.2]
      exact ⟨rfl, fun _ aims => by cases aims⟩

theorem sent_of_rebooted {inner : RebootPoint} {answer : Answer}
    (managed : world.node.retired = false)
    (aims : ∀ instanceId, inner.target? = some instanceId →
      world.node.capacity.bound? = some instanceId)
    (ended : (rebooting false inner).resume world = .done answer after) :
    inner.sent ++ inner.sending?.toList = world.node.capacity.bound?.toList := by
  cases stage_eq : inner.resume world with
  | pause later middle => simp [resume, stage_eq] at ended
  | done result middle => exact RebootPoint.sent_of_done managed aims stage_eq

end Point

namespace Execution.Sends

variable {start before after : Execution} {move : Move} {task : Task}
  {sent : List (Nat × InstanceId)}

theorem refl (orderly : start.Orderly) (accounted : start.Accounted)
    (unbinding : ∀ task, task ∈ start.running → task.point.isBinding = false) :
    start.Sends [] start := by
  refine ⟨rfl, unbinding, fun _ _ => rfl, ?_, ?_, ?_⟩
  · intro task instanceId running late
    have numbered := orderly.numbered task running
    omega
  · intro task running late
    have numbered := orderly.numbered task running
    omega
  · intro number answer reported late
    have given := accounted.given _ reported
    dsimp only at given
    omega

theorem of_silent (sends : start.Sends sent before) (faithful : before.Faithful)
    (silent : before.Silent move after) (unbinding : move.isBinding = false) :
    start.Sends sent after := by
  refine ⟨silent.capacity_eq.trans sends.capacity, ?_, ?_, ?_, ?_, ?_⟩
  · intro task running
    rcases silent.mem_running running with old | ⟨stands, _, asked⟩ | ⟨_, _, _, _, _, _, stands⟩
    · exact sends.unbinding task old
    · rw [stands]
      rcases asked with rfl | ⟨session, looks⟩
      · exact Point.isBinding_entry unbinding
      · rw [looks]
        rfl
    · rw [stands]
      rfl
  · intro number late
    exact sends.given number (Nat.le_trans silent.step.nextNumber_le late)
  · intro task instanceId running late aimed
    rcases silent.mem_running running with old | ⟨stands, _⟩ | ⟨_, _, _, _, _, _, stands⟩
    · exact sends.aims task instanceId old late aimed
    · rw [stands, (Point.sent_entry _).2] at aimed
      cases aimed
    · rw [stands] at aimed
      cases aimed
  · intro task running late
    rcases silent.mem_running running with
      old | ⟨stands, fresh, _⟩ | ⟨own, _, _, among, same, stood, stands⟩
    · exact sends.working task old late
    · rw [stands, (Point.sent_entry _).1]
      exact sends.given task.number fresh
    · have nothing := sends.working own among (same ▸ late)
      rw [stood, same] at nothing
      rw [stands]
      exact nothing
  · intro number answer reported late
    rcases silent.mem_reports reported with old | ⟨task, watch, exit, running, stands, same⟩
    · exact sends.returned number answer old late
    · simp only [Report.mk.injEq] at same
      rcases faithful.rebooting running same.2.1.symm with ⟨inner, reboots⟩
      rw [reboots] at stands
      cases stands

theorem of_acts (sends : start.Sends sent before) (sound : before.Sound)
    (faithful : before.Faithful) (accounted : before.Accounted)
    (managed : before.world.node.retired = false) {earlier later : List Task}
    (split : before.running = earlier ++ task :: later) :
    start.Sends (sent ++ task.sends?.toList)
      (before.replace earlier task later (task.point.resume before.world)) := by
  have running := mem_of_eq_append split
  have capacity := Point.capacity_resume (sends.unbinding task running) before.world
  have others : ∀ {number : Nat}, task.number ≠ number →
      sentBy (sent ++ task.sends?.toList) number = sentBy sent number := by
    intro number other
    rw [sentBy_append, sentBy_other other, List.append_nil]
  have own : start.nextNumber ≤ task.number → sentBy (sent ++ task.sends?.toList) task.number =
      task.point.sent ++ task.point.sending?.toList := by
    intro late
    rw [sentBy_append, sentBy_self, sends.working task running late]
  refine ⟨capacity.trans sends.capacity, ?_, ?_, ?_, ?_, ?_⟩
  · intro other among
    rcases mem_replace.mp among with left | still
    · rcases mem_remaining left with ⟨next, world, paused, rfl⟩
      exact Point.isBinding_of_resume paused
    · exact sends.unbinding other (mem_of_split split still)
  · intro number late
    have numbered := sound.orderly.numbered task running
    dsimp only [replace] at late
    rw [others (by omega)]
    exact sends.given number late
  · intro other instanceId among late aimed
    rcases mem_replace.mp among with left | still
    · rcases mem_remaining left with ⟨next, world, paused, rfl⟩
      rcases (Point.sent_of_pause paused).2 instanceId aimed with before_aimed | bound
      · exact sends.aims task instanceId running late before_aimed
      · rw [← sends.capacity]
        exact bound
    · exact sends.aims other instanceId (mem_of_split split still) late aimed
  · intro other among late
    rcases mem_replace.mp among with left | still
    · rcases mem_remaining left with ⟨next, world, paused, rfl⟩
      rw [(Point.sent_of_pause paused).1]
      exact own late
    · rw [others (sound.orderly.excludes split still).number]
      exact sends.working other (mem_of_split split still) late
  · intro number answer reported late
    rcases List.mem_append.mp reported with ends | old
    · cases ended : task.point.resume before.world with
      | pause next world =>
          rw [ended] at ends
          cases ends
      | done result world =>
          rw [ended, Stage.reported, List.mem_singleton, Report.mk.injEq] at ends
          rcases ends with ⟨rfl, asked, rfl⟩
          rcases faithful.rebooting running asked.symm with ⟨inner, reboots⟩
          have aims : ∀ instanceId, inner.target? = some instanceId →
              before.world.node.capacity.bound? = some instanceId := by
            intro instanceId aimed
            rw [sends.capacity]
            exact sends.aims task instanceId running late (by rw [reboots]; exact aimed)
          rw [own late, ← sends.capacity]
          rw [reboots] at ended ⊢
          exact Point.sent_of_rebooted managed aims ended
    · rw [others (accounted.finished _ task old running)]
      exact sends.returned number answer old late

theorem apply (sends : start.Sends sent before) (sound : before.Sound)
    (faithful : before.Faithful) (accounted : before.Accounted)
    (managed : before.world.node.retired = false) {move : Move}
    (unbinding : move.isBinding = false) :
    start.Sends (sent ++ ((before.acting? move).bind Task.sends?).toList) (before.apply move) := by
  rcases acts_or_silent sound.orderly move with
    ⟨task, earlier, later, acts, split, takes, moved⟩ | ⟨still, silent⟩
  · rw [acts, moved]
    exact sends.of_acts sound faithful accounted managed split
  · simpa [still] using sends.of_silent faithful silent unbinding

end Execution.Sends

theorem Outset.sends_run (outset : Outset) (earlier later : List Move)
    (settled : ∀ task, task ∈ (outset.execution.run earlier).running →
      task.point.isBinding = false)
    (unbinding : ∀ move, move ∈ later → move.isBinding = false)
    (managed : (outset.execution.run (earlier ++ later)).world.node.retired = false) :
    (outset.execution.run earlier).Sends ((outset.execution.run earlier).sent later)
      (outset.execution.run (earlier ++ later)) := by
  induction later using List.reverseRecOn with
  | nil =>
      rw [List.append_nil]
      exact .refl (outset.sound_run earlier).orderly (outset.accounted_run earlier) settled
  | append_singleton moves move hypothesis =>
      rw [← List.append_assoc] at managed ⊢
      have still := outset.managed_run (earlier ++ moves) [move] managed
      have first := hypothesis (fun other among => unbinding other (by simp [among])) still
      have moved := first.apply (outset.sound_run _) (outset.faithful_run _)
        (outset.accounted_run _) still (unbinding move (by simp))
      rw [Execution.sent, Execution.observed_concat, ← Execution.run_append,
        Execution.run_append _ (earlier ++ moves)]
      exact moved

end BuildAgent
