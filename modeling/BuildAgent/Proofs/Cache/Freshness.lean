import BuildAgent.Proofs.Cache.Fetches
import BuildAgent.Proofs.Monitor.Pacing

/-!
# When fetches ask the provider

Whether an entry is fresh can be read off the log of the cache: there is an answer younger than the
window after the last change of the instance (`CacheEvent.isRecent`). The log is in the order of
time, so no other answer need be looked at than the last one.

`Outset.asks?` says by the log which instance a fetch has to ask for. `Outset.Fetches` is how far a
fetch has come since it began to wait for the cache lock, with the calls that it has made, and every
move takes it on (`Outset.Fetches.concat`). A fetch that was not forced waits for the provider only
while the entry is stale (`Outset.stale_of_describing`), so if it fails the next one has to ask as
well.
-/

namespace BuildAgent

/-! ## Recent answers -/

/-- Whether an event is the answer to a fetch. -/
def CacheEvent.isAnswer : CacheEvent → Bool
  | answered .. => true
  | bound _ => false

/-- Whether an answer since the node was bound to another instance is younger than a window. -/
def CacheEvent.isRecent (log : List (Nat × CacheEvent)) (now window : Nat) : Bool :=
  (log.reverse.takeWhile fun entry => entry.2.isAnswer).any fun entry => now < entry.1 + window

namespace CacheEntry

variable {entry : CacheEntry} {log : List (Nat × CacheEvent)} {now later window : Nat}

theorem isFresh_of_le (stale : entry.isFresh now window = false) (passed : now ≤ later) :
    entry.isFresh later window = false := by
  rcases entry with ⟨snapshot, _ | time⟩
  · rfl
  · simp only [isFresh, decide_eq_false_iff_not] at stale ⊢
    omega

theorem recalled_concat (front : List (Nat × CacheEvent)) (time : Nat) (event : CacheEvent) :
    recalled (front ++ [(time, event)]) = event.entryAt time := by
  simp [recalled]

/-- An entry is fresh exactly when its log has a recent answer: the last answer is the youngest. -/
theorem isFresh_recalled (past : ∀ entry, entry ∈ log → entry.1 ≤ now)
    (sorted : log.Pairwise fun earlier later => earlier.1 ≤ later.1) :
    (recalled log).isFresh now window = CacheEvent.isRecent log now window := by
  rcases List.eq_nil_or_concat log with rfl | ⟨front, ⟨time, event⟩, rfl⟩
  · rfl
  · rw [List.concat_eq_append] at past sorted ⊢
    have young : time ≤ now := past (time, event) (by simp)
    rw [recalled_concat, CacheEvent.isRecent, List.reverse_append, List.reverse_singleton,
      List.singleton_append]
    cases event with
    | bound instanceId => rfl
    | answered instanceId found =>
        rw [List.takeWhile_cons_of_pos rfl, List.any_cons, Bool.eq_iff_iff, Bool.or_eq_true]
        simp only [CacheEvent.entryAt, isFresh, decide_eq_true_eq]
        constructor
        · intro fresh
          left
          omega
        · rintro (recent | older)
          · omega
          · rcases List.any_eq_true.mp older with ⟨entry, among, recent⟩
            have within : entry ∈ front :=
              List.mem_reverse.mp ((List.takeWhile_prefix _).subset among)
            have before : entry.1 ≤ time :=
              (List.pairwise_append.mp sorted).2.2 entry within (time, .answered instanceId found)
                (by simp)
            simp only [decide_eq_true_eq] at recent
            omega

end CacheEntry

namespace Execution

variable {execution : Execution} {move : Move} {task : Task}

theorem cacheLog_concat (moves : List Move) (move : Move) :
    execution.cacheLog (moves ++ [move]) = execution.cacheLog moves ++
      (((execution.run moves).cacheEvent? move).map
        ((execution.run moves).world.clock, ·)).toList := by
  simp [cacheLog_append, cacheLog]

end Execution

theorem World.stale_of_asks {world : World} {instanceId : InstanceId}
    (asks : world.asks? false = some instanceId) :
    world.node.entry.isFresh world.clock world.node.timings.freshness = false := by
  by_contra fresh
  simp [World.asks?, fresh] at asks

namespace Outset

variable (outset : Outset)

theorem clock_le_concat (moves : List Move) (move : Move) :
    (outset.execution.run moves).world.clock ≤
      (outset.execution.run (moves ++ [move])).world.clock := by
  rw [Execution.run_concat]
  exact (Execution.step_apply (outset.sound_run moves).orderly move).clock_le

theorem clock_le_append (moves rest : List Move) : (outset.execution.run moves).world.clock ≤
    (outset.execution.run (moves ++ rest)).world.clock := by
  rw [Execution.run_append]
  exact Execution.clock_le_run (outset.sound_run moves).orderly rest

/-- The log of the cache is in the order of time, and no event of it is yet to come. -/
theorem log_in_order (moves : List Move) :
    (∀ entry, entry ∈ outset.execution.cacheLog moves →
      entry.1 ≤ (outset.execution.run moves).world.clock) ∧
    (outset.execution.cacheLog moves).Pairwise fun earlier later => earlier.1 ≤ later.1 := by
  induction moves using List.reverseRecOn with
  | nil => exact ⟨by simp [Execution.cacheLog], .nil⟩
  | append_singleton moves move hypothesis =>
      have passes := outset.clock_le_concat moves move
      rw [Execution.cacheLog_concat]
      rcases (outset.execution.run moves).cacheEvent? move with _ | event
      · simp only [Option.map_none, Option.toList_none, List.append_nil]
        exact ⟨fun entry logged => Nat.le_trans (hypothesis.1 entry logged) passes, hypothesis.2⟩
      · simp only [Option.map_some, Option.toList_some]
        constructor
        · intro entry logged
          rw [List.mem_append, List.mem_singleton] at logged
          rcases logged with old | rfl
          · exact Nat.le_trans (hypothesis.1 entry old) passes
          · exact passes
        · rw [List.pairwise_append]
          refine ⟨hypothesis.2, List.pairwise_singleton _ _, ?_⟩
          intro entry old latest last
          rw [List.mem_singleton.mp last]
          exact hypothesis.1 entry old

theorem isFresh_eq_isRecent (moves : List Move) (window : Nat) :
    (outset.execution.run moves).world.node.entry.isFresh (outset.execution.run moves).world.clock
        window =
      CacheEvent.isRecent (outset.execution.cacheLog moves)
        (outset.execution.run moves).world.clock window := by
  rcases outset.log_in_order moves with ⟨past, sorted⟩
  rw [outset.entry_eq_recalled, CacheEntry.isFresh_recalled past sorted]

/-- The instance that a fetch has to ask for if it gets the cache lock after some moves: the one
that the node is bound to, unless the fetch is not forced and there is a recent answer. -/
def asks? (outset : Outset) (moves : List Move) (force : Bool) : Option InstanceId :=
  if force || !CacheEvent.isRecent (outset.execution.cacheLog moves)
      (outset.execution.run moves).world.clock outset.timings.freshness then
    (outset.execution.run moves).world.node.capacity.bound?
  else none

theorem asks?_eq (moves : List Move) (force : Bool) :
    (outset.execution.run moves).world.asks? force = outset.asks? moves force := by
  rw [World.asks?, asks?, outset.timings_run, isFresh_eq_isRecent]

/-! ## What a fetch does -/

/-- How far a fetch that waited for the cache lock has come, with the calls that it has made since:
it still waits for the lock, or it got the lock and waits for the provider, or it has ended and has
asked for the instance that it had to ask for when it got the lock, once, if there was one. -/
inductive Fetches (outset : Outset) (moves : List Move) (task : Task) (force : Bool)
    (rest : List Move) : List Provider.Call → Prop where
  | waiting (still : task ∈ (outset.execution.run (moves ++ rest)).running) :
      Fetches outset moves task force rest []
  | describing {earlier later : List Move} {instanceId : InstanceId} {own : Task}
      (split : rest = earlier ++ .resume task.number :: later)
      (gets : (outset.execution.run (moves ++ earlier)).acting? (.resume task.number) = some task)
      (asks : outset.asks? (moves ++ earlier) force = some instanceId)
      (running : own ∈ (outset.execution.run (moves ++ rest)).running)
      (same : own.number = task.number)
      (stands : own.point.fetch? = some (.describing force instanceId)) :
      Fetches outset moves task force rest []
  | ended {earlier later : List Move} (split : rest = earlier ++ .resume task.number :: later)
      (gets : (outset.execution.run (moves ++ earlier)).acting? (.resume task.number) = some task)
      (ended : (outset.execution.run (moves ++ rest)).HasEnded task.number) :
      Fetches outset moves task force rest
        ((outset.asks? (moves ++ earlier) force).toList.map Provider.Call.describing)

variable {outset} {moves rest : List Move} {task : Task} {force : Bool}

/-- A fetch that gets the cache lock ends, or goes on to ask. -/
theorem Fetches.of_acting (waits : task.point.fetch? = some (.waiting force)) {move : Move}
    (acts : (outset.execution.run (moves ++ rest)).acting? move = some task) :
    outset.Fetches moves task force (rest ++ [move]) [] := by
  have orderly := (outset.sound_run (moves ++ rest)).orderly
  obtain rfl := (Execution.acting?_eq_some acts).1
  rcases asks : (outset.execution.run (moves ++ rest)).world.asks? force with _ | instanceId
  · rcases FetchPoint.resume_of_not_asks asks with ⟨after, fetched, _⟩
    rcases Point.done_of_fetch? waits fetched with ⟨answer, last, ends, _⟩
    have gone := Execution.hasEnded_of_done orderly acts ends
    have nothing := outset.asks?_eq (moves ++ rest) force
    rw [← Execution.run_concat, List.append_assoc] at gone
    have whole : outset.Fetches moves task force (rest ++ [.resume task.number]) _ :=
      .ended rfl acts gone
    rw [← nothing, asks] at whole
    exact whole
  · have paused := FetchPoint.resume_of_asks asks
    rcases Point.pause_of_fetch? waits paused with ⟨own, goes, stands⟩
    have running := Execution.mem_apply_of_pause orderly acts goes
    rw [← Execution.run_concat, List.append_assoc] at running
    rw [outset.asks?_eq] at asks
    exact .describing rfl acts asks running rfl stands

/-- Every move takes a fetch on as far as it can. -/
theorem Fetches.concat {calls : List Provider.Call}
    (fetches : outset.Fetches moves task force rest calls)
    (waits : task.point.fetch? = some (.waiting force)) (move : Move) :
    outset.Fetches moves task force (rest ++ [move]) (calls ++
      (((outset.execution.run (moves ++ rest)).acting? move).bind fun own =>
        if own.number = task.number then own.point.call? else none).toList) := by
  have orderly := (outset.sound_run (moves ++ rest)).orderly
  have next := outset.execution.run_append_concat moves rest move
  -- The moves of others add no call.
  have silent : (∀ own, (outset.execution.run (moves ++ rest)).acting? move = some own →
      own.number ≠ task.number) →
      ((outset.execution.run (moves ++ rest)).acting? move).bind (fun own =>
        if own.number = task.number then own.point.call? else none) = none := by
    intro others
    rcases acts : (outset.execution.run (moves ++ rest)).acting? move with _ | own
    · rfl
    · simp [others own acts]
  cases fetches with
  | waiting still =>
      rcases Point.told_of_fetch? waits (outset.execution.run (moves ++ rest)).world with
        ⟨_, call, _, _, quiet⟩
      by_cases acts : (outset.execution.run (moves ++ rest)).acting? move = some task
      · rw [acts, Option.bind_some, if_pos rfl, call]
        exact .of_acting waits acts
      · rw [silent fun own takes same => acts (Execution.eq_of_number_eq orderly still
          (Execution.running_of_acting? takes) same ▸ takes)]
        refine .waiting ?_
        rw [next]
        exact Execution.mem_apply_of_other orderly still quiet acts
  | describing split gets asks running same stands =>
      rename_i earlier later instanceId own
      rcases Point.told_of_fetch? stands (outset.execution.run (moves ++ rest)).world with
        ⟨_, call, _, _, quiet⟩
      have longer : rest ++ [move] = earlier ++ .resume task.number :: (later ++ [move]) := by
        rw [split, List.append_assoc, List.cons_append]
      by_cases acts : (outset.execution.run (moves ++ rest)).acting? move = some own
      · rcases FetchPoint.resume_describing force instanceId
          (outset.execution.run (moves ++ rest)).world with ⟨after, fetched⟩
        rcases Point.done_of_fetch? stands fetched with ⟨answer, last, ends, _⟩
        have gone := Execution.hasEnded_of_done orderly acts ends
        rw [← next, same] at gone
        have whole : outset.Fetches moves task force (rest ++ [move]) _ := .ended longer gets gone
        rw [asks] at whole
        rw [acts, Option.bind_some, if_pos same, call]
        exact whole
      · rw [silent fun other takes alike => acts (Execution.eq_of_number_eq orderly running
          (Execution.running_of_acting? takes) (alike.trans same.symm) ▸ takes)]
        refine .describing longer gets asks ?_ same stands
        rw [next]
        exact Execution.mem_apply_of_other orderly running quiet acts
  | ended split gets ended =>
      rename_i earlier later
      have longer : rest ++ [move] = earlier ++ .resume task.number :: (later ++ [move]) := by
        rw [split, List.append_assoc, List.cons_append]
      rw [silent fun own takes => ended.2 own (Execution.running_of_acting? takes),
        Option.toList_none, List.append_nil]
      refine .ended longer gets ?_
      rw [next]
      exact ended.apply orderly move

/-- Whatever happens, a fetch makes the call that it has to make when it gets the lock, and no
other. -/
theorem fetches_run (waits : task.point.fetch? = some (.waiting force))
    (running : task ∈ (outset.execution.run moves).running) (rest : List Move) :
    outset.Fetches moves task force rest
      ((outset.execution.run moves).callsOf task.number rest) := by
  induction rest using List.reverseRecOn with
  | nil =>
      refine .waiting ?_
      rw [List.append_nil]
      exact running
  | append_singleton rest move hypothesis =>
      have further := hypothesis.concat waits move
      rw [Execution.run_append] at further
      rw [Execution.callsOf_concat]
      exact further

/-! ## What a fetch returns -/

variable {fetch : FetchPoint} {instanceId : InstanceId}

theorem event_of_acting? {move : Move}
    (acts : (outset.execution.run moves).acting? move = some task)
    (fetches : task.point.fetch? = some fetch) :
    (outset.execution.run moves).cacheEvent? move =
      fetch.answer? (outset.execution.run moves).world := by
  rw [Execution.cacheEvent?_eq, acts, Option.bind_some]
  exact (Point.told_of_fetch? fetches _).2.2.2.1

/-- The entry changes only with an entry of the log. -/
theorem entry_of_quiet {move : Move}
    (quiet : (outset.execution.run moves).cacheEvent? move = none) :
    ((outset.execution.run moves).apply move).world.node.entry =
      (outset.execution.run moves).world.node.entry := by
  have entry := Execution.entry_apply (outset.remembers_run moves) (outset.sound_run moves).orderly
    move
  rw [quiet] at entry
  exact entry

/-- Without an answer nothing is entered in the log. -/
theorem log_of_unanswered {move : Move}
    (acts : (outset.execution.run moves).acting? move = some task)
    (fetches : task.point.fetch? = some fetch)
    (unanswered : fetch.answer? (outset.execution.run moves).world = none) :
    outset.execution.cacheLog (moves ++ [move]) = outset.execution.cacheLog moves ∧
      (outset.execution.run (moves ++ [move])).world.node.entry =
        (outset.execution.run moves).world.node.entry := by
  have silent := (event_of_acting? acts fetches).trans unanswered
  rw [Execution.cacheLog_concat, silent, Execution.run_concat]
  exact ⟨by simp, outset.entry_of_quiet silent⟩

/-- An answer is entered in the log at its time, and names the instance behind the node. -/
theorem log_of_answered {move : Move} {found : List Snapshot} {own : InstanceId}
    (acts : (outset.execution.run moves).acting? move = some task)
    (fetches : task.point.fetch? = some (.describing force own))
    (answers : ((outset.execution.run moves).world.ask fun provider =>
      provider.describe [own]).1 = .ok found) :
    outset.execution.cacheLog (moves ++ [move]) = outset.execution.cacheLog moves ++
      [((outset.execution.run moves).world.clock, .answered own found.head?)] := by
  rw [Execution.cacheLog_concat, event_of_acting? acts fetches]
  simp only [FetchPoint.answer?, answers, Option.map_some, Option.toList_some]

theorem bound_of_describing {own : InstanceId}
    (running : task ∈ (outset.execution.run moves).running)
    (fetches : task.point.fetch? = some (.describing force own)) :
    (outset.execution.run moves).world.node.capacity.bound? = some own := by
  have asked := (Point.told_of_fetch? fetches (outset.execution.run moves).world).2.2.1
  exact (outset.remembers_run moves).asked task running own asked

/-- A fresh entry is the last answer of the log, about the instance behind the node. -/
theorem last_of_isFresh {now window : Nat}
    (fresh : (outset.execution.run moves).world.node.entry.isFresh now window = true) :
    ∃ time own, (outset.execution.cacheLog moves).getLast? =
        some (time, .answered own (outset.execution.run moves).world.node.entry.snapshot) ∧
      (outset.execution.run moves).world.node.capacity.bound? = some own ∧
      now - time < window := by
  rcases last : (outset.execution.cacheLog moves).getLast? with _ | ⟨time, event⟩
  · rw [outset.entry_eq_recalled, CacheEntry.recalled, last] at fresh
    cases fresh
  · have entry := outset.entry_eq_recalled moves
    rw [CacheEntry.recalled, last] at entry
    cases event with
    | bound own =>
        rw [entry] at fresh
        cases fresh
    | answered own found =>
        have recalled : (outset.execution.cacheHistory moves).getLast? =
            some (.answered own found) := by
          rw [← Execution.map_cacheLog, List.getLast?_map, last]
          rfl
        rw [entry] at fresh ⊢
        exact ⟨time, own, rfl, ((outset.remembers_run moves).answered own found recalled).1,
          of_decide_eq_true fresh⟩

/-- What a fetch that was not forced returns was confirmed less than a window ago, unless the fetch
asked itself and was not answered. -/
theorem confirmed_of_fetch {found : Option Snapshot} {middle : World} {move : Move}
    (acts : (outset.execution.run moves).acting? move = some task)
    (fetches : task.point.fetch? = some fetch) (unforced : fetch.isForced = false)
    (bound : (outset.execution.run moves).world.node.capacity.bound? = some instanceId)
    (fetched : fetch.resume (outset.execution.run moves).world = .done found middle) :
    (∃ time, (outset.execution.cacheLog (moves ++ [move])).getLast? =
        some (time, .answered instanceId found) ∧
      ((outset.execution.run moves).world.clock < time + outset.timings.freshness ∨
        outset.timings.freshness = 0 ∧ time = (outset.execution.run moves).world.clock ∧
          fetch = .describing false instanceId)) ∨
    ∃ failure, fetch = .describing false instanceId ∧
      ((outset.execution.run moves).world.ask fun provider =>
        provider.describe [instanceId]).1 = .error failure := by
  have running := Execution.running_of_acting? acts
  cases fetch with
  | waiting force =>
      obtain rfl : force = false := unforced
      left
      rcases asks : (outset.execution.run moves).world.asks? false with _ | own
      · rcases FetchPoint.resume_of_not_asks asks with ⟨after, ended, _⟩
        rw [ended] at fetched
        cases fetched
        have fresh : (outset.execution.run moves).world.node.entry.isFresh
            (outset.execution.run moves).world.clock outset.timings.freshness = true := by
          simpa [World.asks?, bound, outset.timings_run] using asks
        rcases last_of_isFresh fresh with ⟨time, own, last, same, young⟩
        obtain rfl : own = instanceId := Option.some.inj (same.symm.trans bound)
        refine ⟨time, ?_, .inl (by omega)⟩
        rw [(log_of_unanswered acts fetches rfl).1, last]
      · rw [FetchPoint.resume_of_asks asks] at fetched
        cases fetched
  | describing force own =>
      obtain rfl : force = false := unforced
      obtain rfl : own = instanceId :=
        Option.some.inj ((bound_of_describing running fetches).symm.trans bound)
      rcases answers : ((outset.execution.run moves).world.ask fun provider =>
        provider.describe [own]).1 with failure | answer
      · exact .inr ⟨failure, rfl, rfl⟩
      · left
        rcases FetchPoint.resume_of_answers false answers with ⟨last, ended⟩
        rw [ended] at fetched
        cases fetched
        refine ⟨_, by rw [log_of_answered acts fetches answers, List.getLast?_concat], ?_⟩
        rcases Nat.eq_zero_or_pos outset.timings.freshness with none_left | positive
        · exact .inr ⟨none_left, rfl, rfl⟩
        · exact .inl (Nat.lt_add_of_pos_right positive)

/-- Without an instance a fetch ends at once: it makes no call and leaves the cache as it is. -/
theorem idle_of_unbound {move : Move}
    (acts : (outset.execution.run moves).acting? move = some task)
    (fetches : task.point.fetch? = some fetch)
    (unbound : (outset.execution.run moves).world.node.capacity.bound? = none) :
    task.point.call? = none ∧
      (outset.execution.run (moves ++ [move])).world.node.entry =
        (outset.execution.run moves).world.node.entry ∧
      (outset.execution.run (moves ++ [move])).HasEnded task.number := by
  have running := Execution.running_of_acting? acts
  cases fetch with
  | waiting force =>
      have rests : (outset.execution.run moves).world.asks? force = none := by
        simp [World.asks?, unbound]
      rcases FetchPoint.resume_of_not_asks rests with ⟨after, fetched, _⟩
      rcases Point.done_of_fetch? fetches fetched with ⟨answer, last, ends, _⟩
      refine ⟨(Point.told_of_fetch? fetches (outset.execution.run moves).world).2.1,
        (log_of_unanswered acts fetches rfl).2, ?_⟩
      rw [Execution.run_concat]
      exact Execution.hasEnded_of_done (outset.sound_run moves).orderly acts ends
  | describing force own =>
      rw [bound_of_describing running fetches] at unbound
      cases unbound

/-! ## Fetches that fail -/

/-- A fetch that was not forced waits for the provider only while the entry is stale. -/
theorem stale_of_describing {own : InstanceId}
    (running : task ∈ (outset.execution.run moves).running)
    (fetches : task.point.fetch? = some (.describing false own)) :
    (outset.execution.run moves).world.node.entry.isFresh (outset.execution.run moves).world.clock
      outset.timings.freshness = false := by
  induction moves using List.reverseRecOn with
  | nil => cases running
  | append_singleton moves move hypothesis =>
      have passed := outset.clock_le_concat moves move
      rw [Execution.run_concat] at running passed ⊢
      rcases Execution.describing_of_apply (outset.sound_run moves).orderly running fetches with
        ⟨quiet, since⟩
      rw [entry_of_quiet quiet]
      refine CacheEntry.isFresh_of_le ?_ passed
      rcases since with old | ⟨other, _, _, due⟩
      · exact hypothesis old
      · have stale := World.stale_of_asks due
        rwa [outset.timings_run] at stale

/-- Where nothing was entered in the log the node is bound to the same instance. -/
theorem capacity_of_log
    (same : outset.execution.cacheLog (moves ++ rest) = outset.execution.cacheLog moves) :
    (outset.execution.run (moves ++ rest)).world.node.capacity =
      (outset.execution.run moves).world.node.capacity := by
  induction rest using List.reverseRecOn with
  | nil => rw [List.append_nil]
  | append_singleton rest move hypothesis =>
      rw [← List.append_assoc, Execution.cacheLog_concat, Execution.cacheLog_append,
        List.append_assoc, List.append_right_eq_self, List.append_eq_nil_iff] at same
      rcases same with ⟨earlier, last⟩
      have before : outset.execution.cacheLog (moves ++ rest) =
          outset.execution.cacheLog moves := by
        rw [Execution.cacheLog_append, earlier, List.append_nil]
      have quiet : (outset.execution.run (moves ++ rest)).cacheEvent? move = none := by
        simpa using last
      rw [← List.append_assoc, Execution.run_concat, ← hypothesis before]
      exact Execution.capacity_apply (outset.remembers_run (moves ++ rest))
        (outset.sound_run (moves ++ rest)).orderly (by simp [quiet])

/-- Once a fetch that was not forced has asked, every fetch asks until there is an answer or the
node is bound to another instance. -/
theorem asks?_of_describing {own : InstanceId}
    (running : task ∈ (outset.execution.run moves).running)
    (fetches : task.point.fetch? = some (.describing false own))
    (nothing : outset.execution.cacheLog (moves ++ rest) = outset.execution.cacheLog moves)
    (again : Bool) : outset.asks? (moves ++ rest) again = some own := by
  have stale := CacheEntry.isFresh_of_le (stale_of_describing running fetches)
    (outset.clock_le_append moves rest)
  have entry : (outset.execution.run (moves ++ rest)).world.node.entry =
      (outset.execution.run moves).world.node.entry := by
    rw [outset.entry_eq_recalled, outset.entry_eq_recalled, nothing]
  rw [← entry, isFresh_eq_isRecent] at stale
  rw [asks?, stale, capacity_of_log nothing, bound_of_describing running fetches]
  simp

end Outset

end BuildAgent
