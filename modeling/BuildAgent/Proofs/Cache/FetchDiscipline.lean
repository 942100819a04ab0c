import BuildAgent.Proofs.Cache.Freshness
import BuildAgent.Proofs.Execution.History

/-!
# Fetches at the same moment

Fetches that want the cache at the same moment get its lock one after the other. If the entry is
stale, the first of them asks the provider and the others wait for the lock. When they get it the
entry is as old as the moment, so they return what the first was told, if there is a window at all.
`Outset.Shares` is what such fetches have come to after some of their steps, and every step keeps it
(`Outset.Shares.concat`).

`Outset.fetch_discipline` puts together when fetches ask, what they return and how they fail.
-/

namespace BuildAgent

/-- What a fetch returns, if it ends with its next step. -/
def FetchPoint.found? (point : FetchPoint) (world : World) : Option (Option Snapshot) :=
  match point.resume world with
  | .done found _ => some found
  | .pause _ _ => none

namespace Execution

variable {execution : Execution} {move : Move} {task : Task} {fetch : FetchPoint}

/-- The calls that the fetches of all tasks make while moves are made, the earliest first. -/
def describes : Execution → List Move → List Provider.Call :=
  observed fun task => task.point.fetch?.bind FetchPoint.call?

/-- The calls of fetches are among the calls of tasks, in the same order. -/
theorem describes_sublist (execution : Execution) (moves : List Move) :
    (execution.describes moves).Sublist ((execution.calls moves).map Prod.snd) := by
  induction moves generalizing execution with
  | nil => exact .slnil
  | cons move moves hypothesis =>
      have rest := hypothesis (execution.apply move)
      simp only [describes, calls] at rest ⊢
      rw [observed, observed, List.map_append]
      refine .append ?_ rest
      rcases execution.acting? move with _ | task
      · exact .slnil
      · rw [Option.bind_some, Option.bind_some]
        rcases fetches : task.point.fetch? with _ | fetch
        · exact List.nil_sublist _
        · rw [(Point.told_of_fetch? fetches execution.world).2.1, Option.bind_some]
          cases fetch.call? <;> exact List.Sublist.refl _

/-- What a fetch returns that ends with a move. -/
def returned? (execution : Execution) (move : Move) : Option (Option Snapshot) :=
  (execution.acting? move).bind fun task =>
    task.point.fetch?.bind fun fetch => fetch.found? execution.world

/-- Whether a move takes no time and leaves fetches that are not forced to themselves: it gives the
cache lock to no forced fetch and binds the node to no other instance, and the provider answers the
fetch that asks with it. -/
structure Undisturbed (execution : Execution) (move : Move) : Prop where
  clock : (execution.apply move).world.clock = execution.world.clock
  unforced : ∀ task, execution.acting? move = some task →
    task.point.fetch? ≠ some (.waiting true)
  unbound : ∀ instanceId, execution.cacheEvent? move ≠ some (.bound instanceId)
  answered : ∀ task force instanceId, execution.acting? move = some task →
    task.point.fetch? = some (.describing force instanceId) →
    ∃ found, (execution.world.ask fun provider => provider.describe [instanceId]).1 = .ok found

namespace Undisturbed

theorem of_fetch (acts : execution.acting? move = some task)
    (fetches : task.point.fetch? = some fetch)
    (clock : (execution.apply move).world.clock = execution.world.clock)
    (unforced : fetch ≠ .waiting true)
    (answered : ∀ force instanceId, fetch = .describing force instanceId →
      ∃ found, (execution.world.ask fun provider => provider.describe [instanceId]).1 =
        .ok found) : execution.Undisturbed move := by
  refine ⟨clock, ?_, ?_, ?_⟩
  · intro other takes waits
    obtain rfl := Option.some.inj (acts.symm.trans takes)
    exact unforced (Option.some.inj (fetches.symm.trans waits))
  · intro instanceId bound
    rw [cacheEvent?_eq, acts, Option.bind_some, (Point.told_of_fetch? fetches _).2.2.2.1] at bound
    exact FetchPoint.answer?_ne_bound bound
  · intro other force instanceId takes asks
    obtain rfl := Option.some.inj (acts.symm.trans takes)
    exact answered force instanceId (Option.some.inj (fetches.symm.trans asks))

theorem of_idle (still : execution.acting? move = none)
    (clock : (execution.apply move).world.clock = execution.world.clock) :
    execution.Undisturbed move := by
  refine ⟨clock, ?_, ?_, ?_⟩
  · intro task acts
    rw [still] at acts
    cases acts
  · intro instanceId bound
    rw [cacheEvent?_eq, still] at bound
    cases bound
  · intro task force instanceId acts
    rw [still] at acts
    cases acts

end Undisturbed

/-- Whether moves are made at one moment and leave fetches that are not forced to themselves. -/
def AtOnce (execution : Execution) : List Move → Prop
  | [] => True
  | move :: moves => execution.Undisturbed move ∧ (execution.apply move).AtOnce moves

theorem atOnce_concat {moves : List Move} : execution.AtOnce (moves ++ [move]) ↔
    execution.AtOnce moves ∧ (execution.run moves).Undisturbed move := by
  induction moves generalizing execution with
  | nil => exact ⟨fun atOnce => ⟨trivial, atOnce.1⟩, fun both => ⟨both.2, trivial⟩⟩
  | cons first moves hypothesis =>
      rw [List.cons_append, AtOnce, AtOnce, hypothesis, and_assoc]
      exact Iff.rfl

theorem Undisturbed.force_eq (undisturbed : execution.Undisturbed move) {force : Bool}
    (acts : execution.acting? move = some task)
    (waits : task.point.fetch? = some (.waiting force)) : force = false := by
  by_contra forced
  exact undisturbed.unforced task acts (by simpa [forced] using waits)

/-- A move shows the step of a fetch, or nothing of fetches; then it does nothing to the cache
unless it binds the node. -/
theorem fetches_or_idle (unbound : ∀ instanceId, execution.cacheEvent? move ≠
      some (.bound instanceId)) :
    (∃ task fetch, execution.acting? move = some task ∧ task.point.fetch? = some fetch ∧
      execution.cacheEvent? move = fetch.answer? execution.world ∧
      ((execution.acting? move).bind fun task => task.point.fetch?.bind FetchPoint.call?) =
        fetch.call? ∧
      execution.returned? move = fetch.found? execution.world) ∨
    execution.cacheEvent? move = none ∧
      ((execution.acting? move).bind fun task => task.point.fetch?.bind FetchPoint.call?) = none ∧
      execution.returned? move = none := by
  rw [cacheEvent?_eq] at unbound ⊢
  rw [returned?]
  generalize execution.acting? move = acting at unbound ⊢
  rcases acting with _ | task
  · exact .inr ⟨rfl, rfl, rfl⟩
  · rw [Option.bind_some] at unbound
    simp only [Option.bind_some]
    rcases fetches : task.point.fetch? with _ | fetch
    · right
      refine ⟨?_, rfl, rfl⟩
      rcases event : task.point.cacheEvent? execution.world with _ | happens
      · rfl
      · cases happens with
        | answered instanceId found =>
            rcases Point.fetch_of_answered event with ⟨force, own⟩
            rw [fetches] at own
            cases own
        | bound instanceId => exact absurd event (unbound instanceId)
    · left
      exact ⟨task, fetch, rfl, fetches, (Point.told_of_fetch? fetches execution.world).2.2.2.1,
        rfl, rfl⟩

end Execution

namespace Outset

variable {outset : Outset} {moves rest : List Move} {instanceId : InstanceId}

/-- Where nothing happens to the cache and no time passes, a fetch has to ask as before. -/
theorem asks?_concat {move : Move} {force : Bool}
    (undisturbed : (outset.execution.run moves).Undisturbed move)
    (quiet : (outset.execution.run moves).cacheEvent? move = none) :
    outset.asks? (moves ++ [move]) force = outset.asks? moves force := by
  have capacity := Execution.capacity_apply (outset.remembers_run moves)
    (outset.sound_run moves).orderly undisturbed.unbound
  rw [← asks?_eq, ← asks?_eq, World.asks?, World.asks?, outset.timings_run, outset.timings_run,
    Execution.run_concat, undisturbed.clock, entry_of_quiet quiet, capacity]

/-- What fetches that are not forced have come to at one moment at which the entry was stale. None
has been answered yet, and then each that gets the lock has to ask; or one of them was answered, and
then each returns its answer. -/
inductive Shares (outset : Outset) (moves rest : List Move) (instanceId : InstanceId) :
    List Provider.Call → List CacheEvent → List (Option Snapshot) → Prop where
  | unasked (asks : outset.asks? (moves ++ rest) false = some instanceId) :
      Shares outset moves rest instanceId [] [] []
  | asked (found : Option Snapshot) {returned : List (Option Snapshot)}
      (entry : (outset.execution.run (moves ++ rest)).world.node.entry =
        ⟨found, some (outset.execution.run (moves ++ rest)).world.clock⟩)
      (alone : ∀ task force own, task ∈ (outset.execution.run (moves ++ rest)).running →
        task.point.fetch? ≠ some (.describing force own))
      (same : ∀ other, other ∈ returned → other = found) :
      Shares outset moves rest instanceId [.describing instanceId] [.answered instanceId found]
        returned

namespace Shares

variable {move : Move} {returned : List (Option Snapshot)}

/-- With the first answer the entry is fresh, and nobody else waits for the provider. -/
theorem of_answered {task : Task} {force : Bool} {found : List Snapshot}
    (acts : (outset.execution.run (moves ++ rest)).acting? move = some task)
    (fetches : task.point.fetch? = some (.describing force instanceId))
    (answers : ((outset.execution.run (moves ++ rest)).world.ask fun provider =>
      provider.describe [instanceId]).1 = .ok found)
    (undisturbed : (outset.execution.run (moves ++ rest)).Undisturbed move) :
    outset.Shares moves (rest ++ [move]) instanceId [.describing instanceId]
      [.answered instanceId found.head?] [found.head?] := by
  have orderly := (outset.sound_run (moves ++ rest)).orderly
  have next := outset.execution.run_append_concat moves rest move
  have event : (outset.execution.run (moves ++ rest)).cacheEvent? move =
      some (.answered instanceId found.head?) := by
    simp only [event_of_acting? acts fetches, FetchPoint.answer?, answers]
  refine .asked found.head? ?_ ?_ (by simp)
  · have entry := Execution.entry_apply (outset.remembers_run (moves ++ rest)) orderly move
    rw [next, undisturbed.clock, entry, event]
    rfl
  · intro other again third running stands
    rw [next] at running
    have quiet := (Execution.describing_of_apply orderly running stands).1
    rw [event] at quiet
    cases quiet

/-- While nobody was answered, a fetch that gets the lock goes on to ask, and one that asks is
answered. -/
theorem concat_unasked (asks : outset.asks? (moves ++ rest) false = some instanceId)
    (undisturbed : (outset.execution.run (moves ++ rest)).Undisturbed move) :
    outset.Shares moves (rest ++ [move]) instanceId
      (((outset.execution.run (moves ++ rest)).acting? move).bind fun task =>
        task.point.fetch?.bind FetchPoint.call?).toList
      ((outset.execution.run (moves ++ rest)).cacheEvent? move).toList
      ((outset.execution.run (moves ++ rest)).returned? move).toList := by
  have still : (outset.execution.run (moves ++ rest)).cacheEvent? move = none →
      outset.asks? (moves ++ (rest ++ [move])) false = some instanceId := by
    intro quiet
    rw [← List.append_assoc, asks?_concat undisturbed quiet, asks]
  rcases Execution.fetches_or_idle undisturbed.unbound with
    ⟨task, fetch, acts, fetches, event, call, returns⟩ | ⟨event, call, returns⟩
  · rw [call, returns]
    cases fetch with
    | waiting force =>
        obtain rfl := undisturbed.force_eq acts fetches
        have due : (outset.execution.run (moves ++ rest)).world.asks? false = some instanceId :=
          (outset.asks?_eq _ _).trans asks
        have silent : FetchPoint.found? (.waiting false)
            (outset.execution.run (moves ++ rest)).world = none := by
          rw [FetchPoint.found?, FetchPoint.resume_of_asks due]
        rw [event, silent]
        exact .unasked (still event)
    | describing force own =>
        rcases undisturbed.answered task force own acts fetches with ⟨found, answers⟩
        obtain rfl : own = instanceId := by
          have bound := bound_of_describing (Execution.running_of_acting? acts) fetches
          rw [asks?, bound] at asks
          split at asks <;> cases asks
          rfl
        rcases FetchPoint.resume_of_answers force answers with ⟨after, ended⟩
        simp only [event, FetchPoint.answer?, answers, FetchPoint.found?, ended]
        exact of_answered acts fetches answers undisturbed
  · rw [event, call, returns]
    exact .unasked (still event)

/-- Once a fetch was answered, every fetch that gets the lock returns that answer. -/
theorem concat_asked {found : Option Snapshot} (window : 0 < outset.timings.freshness)
    (entry : (outset.execution.run (moves ++ rest)).world.node.entry =
      ⟨found, some (outset.execution.run (moves ++ rest)).world.clock⟩)
    (alone : ∀ task force own, task ∈ (outset.execution.run (moves ++ rest)).running →
      task.point.fetch? ≠ some (.describing force own))
    (same : ∀ other, other ∈ returned → other = found)
    (undisturbed : (outset.execution.run (moves ++ rest)).Undisturbed move) :
    outset.Shares moves (rest ++ [move]) instanceId
      ([.describing instanceId] ++
        (((outset.execution.run (moves ++ rest)).acting? move).bind fun task =>
          task.point.fetch?.bind FetchPoint.call?).toList)
      ([.answered instanceId found] ++
        ((outset.execution.run (moves ++ rest)).cacheEvent? move).toList)
      (returned ++ ((outset.execution.run (moves ++ rest)).returned? move).toList) := by
  have next := outset.execution.run_append_concat moves rest move
  have rests : (outset.execution.run (moves ++ rest)).world.asks? false = none := by
    simp [World.asks?, entry, CacheEntry.isFresh, outset.timings_run, window]
  -- No fetch goes on to ask with the move, and none of those before is left.
  have still : ∀ task force own, task ∈ (outset.execution.run (moves ++ (rest ++ [move]))).running →
      task.point.fetch? ≠ some (.describing force own) := by
    intro task force own running stands
    rw [next] at running
    rcases Execution.describing_of_apply (outset.sound_run _).orderly running stands with
      ⟨_, old | ⟨other, acts, waits, due⟩⟩
    · exact alone task force own old stands
    · cases force with
      | true => exact undisturbed.unforced other acts waits
      | false =>
          rw [rests] at due
          cases due
  have settled : (outset.execution.run (moves ++ rest)).cacheEvent? move = none →
      (outset.execution.run (moves ++ (rest ++ [move]))).world.node.entry =
        ⟨found, some (outset.execution.run (moves ++ (rest ++ [move]))).world.clock⟩ := by
    intro quiet
    rw [next, undisturbed.clock, entry_of_quiet quiet, entry]
  rcases Execution.fetches_or_idle undisturbed.unbound with
    ⟨task, fetch, acts, fetches, event, call, returns⟩ | ⟨event, call, returns⟩
  · cases fetch with
    | describing force own =>
        exact absurd fetches (alone task force own (Execution.running_of_acting? acts))
    | waiting force =>
        obtain rfl := undisturbed.force_eq acts fetches
        rcases FetchPoint.resume_of_not_asks rests with ⟨after, ended, _⟩
        have gives : FetchPoint.found? (.waiting false)
            (outset.execution.run (moves ++ rest)).world = some found := by
          rw [FetchPoint.found?, ended, entry]
        rw [event, call, returns, gives]
        refine .asked found (settled event) still ?_
        intro other among
        rcases List.mem_append.mp among with earlier | last
        · exact same other earlier
        · exact List.mem_singleton.mp last
  · rw [event, call, returns]
    refine .asked found (settled event) still ?_
    rw [Option.toList_none, List.append_nil]
    exact same

end Shares

/-- Fetches at one moment share one answer. -/
theorem shares_run (window : 0 < outset.timings.freshness)
    (asks : outset.asks? moves false = some instanceId)
    (atOnce : (outset.execution.run moves).AtOnce rest) :
    outset.Shares moves rest instanceId ((outset.execution.run moves).describes rest)
      ((outset.execution.run moves).cacheHistory rest)
      ((outset.execution.run moves).history Execution.returned? rest) := by
  induction rest using List.reverseRecOn with
  | nil =>
      refine .unasked ?_
      rw [List.append_nil]
      exact asks
  | append_singleton rest move hypothesis =>
      rcases Execution.atOnce_concat.mp atOnce with ⟨earlier, undisturbed⟩
      have shares := hypothesis earlier
      rw [← Execution.run_append] at undisturbed
      rw [Execution.describes, Execution.observed_concat, Execution.cacheHistory_append,
        Execution.history_concat, ← Execution.run_append]
      simp only [Execution.cacheHistory, List.append_nil]
      generalize describes_eq : (outset.execution.run moves).describes rest = described at shares
      generalize (outset.execution.run moves).cacheHistory rest = events at shares ⊢
      generalize (outset.execution.run moves).history Execution.returned? rest = returned
        at shares ⊢
      rw [Execution.describes] at describes_eq
      rw [describes_eq]
      cases shares with
      | unasked asks => exact .concat_unasked asks undisturbed
      | asked found entry alone same => exact .concat_asked window entry alone same undisturbed

/-- A describe that fails leaves the cache and its log as they are. If the fetch was not forced,
every fetch that gets the lock asks for the same instance until one is answered. -/
theorem due_of_failure {move : Move} {task : Task} {force : Bool} {failure : Provider.Failure}
    (acts : (outset.execution.run moves).acting? move = some task)
    (fetches : task.point.fetch? = some (.describing force instanceId))
    (fails : ((outset.execution.run moves).world.ask fun provider =>
      provider.describe [instanceId]).1 = .error failure) :
    outset.execution.cacheLog (moves ++ [move]) = outset.execution.cacheLog moves ∧
      (outset.execution.run (moves ++ [move])).world.node.entry =
        (outset.execution.run moves).world.node.entry ∧
      (force = false → ∀ rest again, outset.execution.cacheLog (moves ++ move :: rest) =
        outset.execution.cacheLog moves →
        outset.asks? (moves ++ move :: rest) again = some instanceId) := by
  have unanswered : FetchPoint.answer? (.describing force instanceId)
      (outset.execution.run moves).world = none := by
    simp only [FetchPoint.answer?, fails]
  rcases log_of_unanswered acts fetches unanswered with ⟨log, entry⟩
  refine ⟨log, entry, ?_⟩
  rintro rfl rest again nothing
  exact asks?_of_describing (Execution.running_of_acting? acts) fetches nothing again

/-- **When fetches ask the provider, and what they return.** For every window, after any moves:

* A fetch that waits for the cache lock makes one call when it is forced and the node is bound, and
  asks for the instance that the node is bound to when the fetch gets the lock. If it is not forced
  it makes that call exactly if no fetch was answered, since the node was bound to another instance,
  less than a window before the fetch gets the lock. It makes no other call, whatever happens
  meanwhile.
* What a fetch returns that was not forced is the last answer about the instance behind the node,
  given less than a window ago, unless the fetch asked itself and was not answered. Where there is
  no window at all, it is the answer that the fetch was given just now.
* A describe that fails leaves the cache as it is and puts no refresh off.
* Fetches that get the lock at one moment at which the entry is stale make one call in all, and all
  return its answer, if there is a window and the provider answers.
* Without an instance a fetch ends as soon as it gets the lock. It makes no call and leaves the
  cache as it is.
* The calls of a fetch, and those of all fetches, are calls in the record of the provider, which has
  the calls that tasks make and no others, unless somebody acts past the node. -/
theorem fetch_discipline (outset : Outset) (moves : List Move) :
    let now := outset.execution.run moves
    (∀ task, task ∈ now.running → ∀ force, task.point.fetch? = some (.waiting force) →
      ∀ rest, outset.Fetches moves task force rest (now.callsOf task.number rest)) ∧
    (∀ move task fetch found middle instanceId, now.acting? move = some task →
      task.point.fetch? = some fetch → fetch.resume now.world = .done found middle →
      now.world.node.capacity.bound? = some instanceId →
      (∀ query, task.point = .fetching query fetch → (now.apply move).reports =
        ⟨task.number, task.request, query.answer found⟩ :: now.reports) ∧
      (fetch.isForced = false →
        (∃ time, (outset.execution.cacheLog (moves ++ [move])).getLast? =
            some (time, .answered instanceId found) ∧
          (now.world.clock < time + outset.timings.freshness ∨
            outset.timings.freshness = 0 ∧ time = now.world.clock ∧
              fetch = .describing false instanceId)) ∨
        ∃ failure, fetch = .describing false instanceId ∧
          (now.world.ask fun provider => provider.describe [instanceId]).1 = .error failure)) ∧
    (∀ move task force instanceId failure, now.acting? move = some task →
      task.point.fetch? = some (.describing force instanceId) →
      (now.world.ask fun provider => provider.describe [instanceId]).1 = .error failure →
      outset.execution.cacheLog (moves ++ [move]) = outset.execution.cacheLog moves ∧
      (now.apply move).world.node.entry = now.world.node.entry ∧
      (force = false → ∀ rest again, outset.execution.cacheLog (moves ++ move :: rest) =
        outset.execution.cacheLog moves →
        outset.asks? (moves ++ move :: rest) again = some instanceId)) ∧
    (∀ instanceId rest, 0 < outset.timings.freshness →
      outset.asks? moves false = some instanceId → now.AtOnce rest →
      now.describes rest = [] ∧ now.history Execution.returned? rest = [] ∨
      now.describes rest = [.describing instanceId] ∧
        ∃ found, now.cacheHistory rest = [.answered instanceId found] ∧
          ∀ other, other ∈ now.history Execution.returned? rest → other = found) ∧
    (∀ move task fetch, now.acting? move = some task → task.point.fetch? = some fetch →
      now.world.node.capacity.bound? = none →
      task.point.call? = none ∧ (now.apply move).world.node.entry = now.world.node.entry ∧
        (now.apply move).HasEnded task.number) ∧
    ∀ rest, (∀ number, now.callsOf number rest =
        ((now.calls rest).filter fun made => made.1 = number).map Prod.snd) ∧
      (now.describes rest).Sublist ((now.calls rest).map Prod.snd) ∧
      ((∀ happening, .happen happening ∉ rest) → (now.run rest).world.provider.calls =
        Provider.keepCalls ((now.calls rest).map Prod.snd) now.world.provider.calls) := by
  intro now
  refine ⟨?_, ?_, ?_, ?_, ?_, ?_⟩
  · intro task running force waits rest
    exact fetches_run waits running rest
  · intro move task fetch found middle instanceId acts fetches fetched bound
    refine ⟨?_, fun unforced => confirmed_of_fetch acts fetches unforced bound fetched⟩
    intro query queries
    have ends : task.point.resume now.world = .done (query.answer found) middle := by
      rw [queries, Point.resume, fetched, Stage.andThen_done]
      rfl
    exact Execution.reports_of_done (outset.sound_run moves).orderly acts ends
  · intro move task force instanceId failure acts fetches fails
    have due := due_of_failure acts fetches fails
    rwa [Execution.run_concat] at due
  · intro instanceId rest window asks atOnce
    have shares := shares_run window asks atOnce
    generalize now.describes rest = described, now.cacheHistory rest = events,
      now.history Execution.returned? rest = returned at shares
    cases shares with
    | unasked asks => exact .inl ⟨rfl, rfl⟩
    | asked found entry alone same => exact .inr ⟨rfl, found, rfl, same⟩
  · intro move task fetch acts fetches unbound
    have idle := idle_of_unbound acts fetches unbound
    rwa [Execution.run_concat] at idle
  · intro rest
    exact ⟨fun number => now.callsOf_eq number rest, now.describes_sublist rest,
      now.calls_run (outset.sound_run moves).orderly rest⟩

/-- Two fetches that wait for the cache lock. -/
def twoWaiting : List Move :=
  [.start 0 (.fetch .snapshot false), .start 1 (.fetch .alive false)]

/-- The two get the lock one after the other, at the same moment. The second one tries in vain while
the first waits for its answer. -/
def twoAtOnce : List Move :=
  [.resume 0, .resume 1, .resume 0, .resume 1]

theorem atOnce_twoAtOnce :
    ((onInstance someInstance).execution.run twoWaiting).AtOnce twoAtOnce := by
  refine ⟨.of_fetch rfl rfl rfl ?_ ?_, .of_idle rfl rfl, .of_fetch rfl rfl rfl ?_ ?_,
    .of_fetch rfl rfl rfl ?_ ?_, trivial⟩
  · nofun
  · nofun
  · nofun
  · rintro force instanceId asks
    cases asks
    exact ⟨_, rfl⟩
  · nofun
  · nofun

/-- On a node whose cache is empty the first of two fetches asks, and both return the answer. -/
theorem fetch_discipline_twoAtOnce :
    ((onInstance someInstance).execution.run twoWaiting).describes twoAtOnce =
        [.describing someInstance] ∧
      ((onInstance someInstance).execution.run twoWaiting).history Execution.returned? twoAtOnce =
        [some (.running someInstance .epoch), some (.running someInstance .epoch)] ∧
      (onInstance someInstance).Fetches twoWaiting
        ⟨1, .fetch .alive false, .fetching .alive (.waiting false)⟩ false twoAtOnce [] := by
  rcases (onInstance someInstance).fetch_discipline twoWaiting with ⟨fetches, _, _, shares, _⟩
  have own := fetches ⟨1, .fetch .alive false, .fetching .alive (.waiting false)⟩
    (.tail _ (.head _)) false rfl twoAtOnce
  have returned : ((onInstance someInstance).execution.run twoWaiting).history
      Execution.returned? twoAtOnce =
        [some (.running someInstance .epoch), some (.running someInstance .epoch)] := rfl
  refine ⟨?_, returned, own⟩
  rcases shares someInstance twoAtOnce (by decide) rfl atOnce_twoAtOnce with idle | shared
  · rw [returned] at idle
    cases idle.2
  · exact shared.1

end Outset

end BuildAgent
