import BuildAgent.Proofs.Cache.Answers
import BuildAgent.Proofs.Monitor.Verdicts

/-!
# When an instance counts as gone

A look fetches the instance anew and gives the session up if the snapshot that the cache then holds
is not alive. A fetch that fails leaves the cache as it was. So after a failure the last answer that
the provider gave decides, if there is one for the instance behind the node. If there is none, since
the node was never looked up or has just been bound to another instance, the cache holds nothing,
and nothing counts as gone: then the failure alone ends the session.
-/

namespace BuildAgent

namespace Execution

variable {execution : Execution} {number : Nat} {report : Report}

theorem done_of_reported
    (reported : (execution.resume number).reports = report :: execution.reports) :
    ∃ task, execution.task? number = some task ∧ task.point.resume execution.world =
      .done report.answer (execution.resume number).world := by
  have longer : ¬(execution.reports = report :: execution.reports) := by
    intro same
    have lengths := congrArg List.length same
    simp at lengths
  rcases found : execution.task? number with _ | task
  · simp only [resume, found] at reported
    exact absurd reported longer
  · by_cases ready : execution.isReady task = true
    · rcases stage_eq : task.point.resume execution.world with ⟨next, world⟩ | ⟨answer, world⟩
      · simp only [resume, found, ready, if_true, stage_eq, settle] at reported
        exact absurd reported longer
      · simp only [resume, found, ready, if_true, stage_eq, settle, List.cons.injEq,
          and_true] at reported ⊢
        subst reported
        exact ⟨task, rfl, stage_eq⟩
    · simp only [resume, found, ready] at reported
      exact absurd reported longer

end Execution

namespace LookPoint

variable {session : Nat} {world middle after : World} {found : Option Snapshot}
  {outcome : LookOutcome}

/-- What a look decides leaves in the cache what its fetch found. -/
theorem entry_of_afterFetch {fetch : FetchPoint} (fetched : fetch.resume world = .done found middle)
    (ended : afterFetch session found middle = .done outcome after) :
    after.node.entry.snapshot = found := by
  have same := sameCache_act session middle
    (.idle (found.any Snapshot.isAlive)
      (middle.offlineCause.any fun cause => cause.isRebootFor session))
  simp only [afterFetch, Stage.done.injEq] at ended
  rw [ended.2] at same
  rw [same.entry, FetchPoint.found_eq fetched]

/-- A look that ends with its fetch decides on what it found. -/
theorem afterFetch_of_resume {fetch : FetchPoint} {answer : Answer}
    (ended : (Point.looking session (.refreshing fetch)).resume world = .done answer after) :
    ∃ found middle outcome, fetch.resume world = .done found middle ∧
      afterFetch session found middle = .done outcome after ∧ answer = .looked outcome := by
  simp only [Point.resume, resume] at ended
  rcases fetched : fetch.resume world with ⟨next, middle⟩ | ⟨found, middle⟩
  · simp [fetched] at ended
  · simp only [fetched, Stage.andThen_done] at ended
    rcases decided : afterFetch session found middle with ⟨next, later⟩ | ⟨outcome, later⟩
    · exact absurd decided afterFetch_ne_pause
    · simp only [decided, Stage.andThen_done, Point.finish, Stage.done.injEq] at ended
      rcases ended with ⟨answer_eq, rfl⟩
      exact ⟨found, middle, outcome, rfl, decided, answer_eq.symm⟩

theorem capacity_of_resume (session : Nat) {fetch : FetchPoint} {world : World}
    (asked : ∀ instanceId, fetch.asked? = some instanceId →
      world.node.capacity.bound? = some instanceId) :
    ((Point.looking session (.refreshing fetch)).resume world).world.node.capacity =
      world.node.capacity := by
  have recalls := (Point.looking session (.refreshing fetch)).recalls world asked
  generalize event_eq : (Point.looking session (.refreshing fetch)).cacheEvent? world = event
    at recalls
  cases recalls with
  | same same => exact same.capacity
  | answered own found bound capacity entry => exact capacity
  | bound own entry =>
      rcases Point.assigning_of_bound event_eq with ⟨announce, assigns⟩
      cases assigns

end LookPoint

/-- A snapshot in the cache is the last answer, and about the instance behind the node. -/
theorem Execution.Remembers.last_of_entry {execution : Execution} {history : List CacheEvent}
    (remembers : execution.Remembers history) {instanceId : InstanceId} {snapshot : Snapshot}
    (bound : execution.world.node.capacity.bound? = some instanceId)
    (entry : execution.world.node.entry.snapshot = some snapshot) :
    history.getLast? = some (.answered instanceId (some snapshot)) := by
  by_cases answered : ∃ own found, history.getLast? = some (.answered own found)
  · rcases answered with ⟨own, found, last⟩
    rcases remembers.answered own found last with ⟨same, kept⟩
    rw [bound] at same
    rw [entry] at kept
    cases same
    cases kept
    exact last
  · have nothing := remembers.unanswered fun own found last => answered ⟨own, found, last⟩
    rw [entry] at nothing
    cases nothing

namespace Outset

variable (outset : Outset) (moves : List Move) (number : Nat)

/-- **When a look says that the instance is gone.** A look that ends on a node bound to an instance
says so exactly if it fetched the instance and the last answer to a fetch since the node was bound,
its own included, did not show the instance alive. That is so also where there is no such answer:
then a fetch that fails is enough. -/
theorem instanceGone_exactly {report : Report} {instanceId : InstanceId}
    (reported : (outset.execution.run (moves ++ [.resume number])).reports =
      report :: (outset.execution.run moves).reports)
    (bound : (outset.execution.run moves).world.node.capacity.bound? = some instanceId) :
    report.answer = .looked (.abandoned .instanceGone) ↔
      (∃ task session fetch, (outset.execution.run moves).task? number = some task ∧
        task.point = .looking session (.refreshing fetch)) ∧
      ∀ snapshot, (outset.execution.cacheHistory (moves ++ [.resume number])).getLast? =
        some (.answered instanceId (some snapshot)) → snapshot.isAlive = false := by
  have resumed : outset.execution.run (moves ++ [.resume number]) =
      (outset.execution.run moves).resume number := Execution.run_append _ _ _
  have before := outset.remembers_run moves
  have after := outset.remembers_run (moves ++ [.resume number])
  rw [resumed] at reported after
  rcases Execution.done_of_reported reported with ⟨task, found, ended⟩
  constructor
  · intro gone
    rw [gone] at ended
    rcases Point.looking_of_looked ended with ⟨session, inner, looks, given⟩
    rcases LookPoint.refreshing_of_abandoned given (.inl rfl) with
      ⟨fetch, seen, middle, rfl, fetched, decided⟩
    refine ⟨⟨task, session, fetch, found, looks⟩, ?_⟩
    intro snapshot last
    have dead := (LookPoint.instanceGone_iff decided).mp rfl
    have entry := LookPoint.entry_of_afterFetch fetched decided
    rw [(after.answered instanceId (some snapshot) last).2] at entry
    subst entry
    simpa using dead
  · rintro ⟨⟨other, session, fetch, same, looks⟩, dead⟩
    rw [found] at same
    cases same
    have running : task ∈ (outset.execution.run moves).running := by
      rcases Execution.split_of_task? found with ⟨_, earlier, later, split⟩
      exact Execution.mem_of_eq_append split
    have asked := before.asked task running
    rw [looks] at asked ended
    have capacity := LookPoint.capacity_of_resume session asked
    rcases LookPoint.afterFetch_of_resume ended with
      ⟨seen, middle, outcome, fetched, decided, answer⟩
    rw [ended] at capacity
    have entry := LookPoint.entry_of_afterFetch fetched decided
    rw [answer, (LookPoint.instanceGone_iff decided).mpr ?_]
    rcases seen with _ | snapshot
    · rfl
    · -- What the cache holds now is the last answer, and that answer shows it dead.
      have still : ((outset.execution.run moves).resume number).world.node.capacity.bound? =
          some instanceId := (congrArg Capacity.bound? capacity).trans bound
      simpa using dead snapshot (after.last_of_entry still entry)

/-- A reboot and then a look, up to the call that fetches the instance; that call will fail. -/
def failingLook : List Move :=
  [.start 0 .reboot, .resume 0, .resume 0, .resume 0, .resume 0, .resume 0,
    .happen (.failNext .describe (.throttled .describe)), .start 1 (.look 1), .resume 1, .resume 1]

/-- One failed call is enough to give up a running instance that was never looked up. -/
theorem instanceGone_unasked :
    ((onInstance someInstance).execution.run (failingLook ++ [.resume 1])).reports.head?.map
      Report.answer = some (.looked (.abandoned .instanceGone)) := by
  have reported : ((onInstance someInstance).execution.run (failingLook ++ [.resume 1])).reports =
      ⟨1, .look 1, .looked (.abandoned .instanceGone)⟩ ::
        ((onInstance someInstance).execution.run failingLook).reports := rfl
  have silent : (onInstance someInstance).execution.cacheHistory
      (failingLook ++ [.resume 1]) = [] := rfl
  have gone := ((onInstance someInstance).instanceGone_exactly failingLook 1 reported rfl).mpr
    ⟨⟨⟨1, .look 1, .looking 1 (.refreshing (.describing true someInstance))⟩, 1, _, rfl, rfl⟩, by
      intro snapshot last
      rw [silent] at last
      cases last⟩
  rw [reported]
  exact congrArg some gone

end Outset

end BuildAgent
