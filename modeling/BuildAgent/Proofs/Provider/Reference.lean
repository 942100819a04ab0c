import BuildAgent.Proofs.Provider.TagAlgebra
import Mathlib.Data.List.DropRight
import Mathlib.Logic.Function.Basic

/-!
# The provider as a table, queues and a history

The simulated provider keeps a list of instances, one list with the failures of all operations, and
a record of its calls from which the oldest are dropped. What it stands for is simpler: a table from
identifiers to instances, one queue of failures for each operation, and the history of all calls
ever made. `Reference` is that provider. Its calls are all answered by one function,
`Reference.answer`: enter the call in the history, fail with the oldest failure of the operation if
there is one, and otherwise carry the call out. What a call about tags leaves is said name by name
(`Reference.written`, `Reference.removed`).

`Represents` relates the two, and each act on the provider keeps it (`Represents.apply`), so every
run gives the same outcomes on both sides. `refines_reference` is the main result; it also says what
a call may do to the table and to the queues after any run (`Lawful`).
-/

namespace BuildAgent.Provider

/-! ## What is done with a provider -/

/-- What can be done with a provider: four changes from outside, and six calls. -/
inductive Act where
  | insert (snapshot : Snapshot)
  | remove (instanceId : InstanceId)
  | setState (instanceId : InstanceId) (state : InstanceState)
  | failNext (operation : Operation) (failure : Failure)
  | describe (instanceIds : List InstanceId)
  | reboot (instanceId : InstanceId)
  | stop (instanceId : InstanceId)
  | terminate (instanceId : InstanceId)
  | createTags (instanceId : InstanceId) (batch : List Tag)
  | deleteTags (instanceId : InstanceId) (batch : List Tag)

/-- What comes back from an act. A change from outside is always done. -/
inductive Outcome where
  | done
  | described (found : List Snapshot)
  | failed (failure : Failure)
  deriving DecidableEq

/-- The answer of a reply, with the provider after it. -/
def Reply.outcome {α : Type} (give : α → Outcome) (reply : Reply α) : Outcome × Provider :=
  match reply.answer with
  | .ok value => (give value, reply.provider)
  | .error failure => (.failed failure, reply.provider)

namespace Act

/-- The call that an act makes, if it makes one. -/
def call? : Act → Option Call
  | insert _ | remove _ | setState _ _ | failNext _ _ => none
  | describe instanceIds => some ⟨.describe, instanceIds, []⟩
  | reboot instanceId => some ⟨.reboot, [instanceId], []⟩
  | stop instanceId => some ⟨.stop, [instanceId], []⟩
  | terminate instanceId => some ⟨.terminate, [instanceId], []⟩
  | createTags instanceId batch => some ⟨.createTags, [instanceId], batch⟩
  | deleteTags instanceId batch => some ⟨.deleteTags, [instanceId], batch⟩

/-- The act on the simulated provider. -/
def apply : Act → Provider → Outcome × Provider
  | insert snapshot, provider => (.done, provider.insert snapshot)
  | remove instanceId, provider => (.done, provider.remove instanceId)
  | setState instanceId state, provider => (.done, provider.setState instanceId state)
  | failNext operation failure, provider => (.done, provider.failNext operation failure)
  | describe instanceIds, provider => (provider.describe instanceIds).outcome .described
  | reboot instanceId, provider => (provider.command .reboot instanceId).outcome fun _ => .done
  | stop instanceId, provider => (provider.command .stop instanceId).outcome fun _ => .done
  | terminate instanceId, provider =>
    (provider.command .terminate instanceId).outcome fun _ => .done
  | createTags instanceId batch, provider =>
    (provider.changeTags .push instanceId batch).outcome fun _ => .done
  | deleteTags instanceId batch, provider =>
    (provider.changeTags .clear instanceId batch).outcome fun _ => .done

end Act

/-- The outcomes of some acts, one after the other, and what they lead to. -/
def transcript {σ : Type} (apply : Act → σ → Outcome × σ) : List Act → σ → List Outcome × σ
  | [], state => ([], state)
  | act :: acts, state =>
    let (outcome, next) := apply act state
    let (outcomes, last) := transcript apply acts next
    (outcome :: outcomes, last)

/-! ## The reference -/

/-- A provider as it is meant: the instances by their identifiers, the failures that wait for each
operation, and every call ever made. -/
structure Reference where
  table : InstanceId → Option Snapshot := fun _ => none
  waiting : Operation → List Failure := fun _ => []
  history : List Call := []

namespace Reference

def write (reference : Reference) (instanceId : InstanceId) (entry : Option Snapshot) :
    Reference :=
  { reference with table := Function.update reference.table instanceId entry }

/-- Answers a call, which enters the history in any case. The oldest failure of its operation is
taken; only if there is none is the call carried out. -/
def answer (reference : Reference) (call : Call)
    (carryOut : Reference → Outcome × Reference) : Outcome × Reference :=
  let noted := { reference with history := reference.history ++ [call] }
  match reference.waiting call.operation with
  | failure :: later =>
    (.failed failure,
      { noted with waiting := Function.update reference.waiting call.operation later })
  | [] => carryOut noted

/-- A call that changes one instance, if it is known. -/
def command (reference : Reference) (operation : Operation) (instanceId : InstanceId)
    (batch : List Tag) (change : Snapshot → Snapshot) : Outcome × Reference :=
  reference.answer ⟨operation, [instanceId], batch⟩ fun noted =>
    match noted.table instanceId with
    | none =>
      (.failed (.rejected operation ("InvalidInstanceID.NotFound: " ++ instanceId.text)), noted)
    | some snapshot => (.done, noted.write instanceId (some (change snapshot)))

/-- The tags after some were written one after the other, by their lookups: a name has the last of
the values that it is given, or the one that it had. -/
def written (batch : List Tag) (tags : TagMap) : TagMap :=
  .tabulate (tags.names ++ batch.map Tag.name) fun name =>
    ((batch.filter fun tag => tag.name = name).getLast?.map Tag.value).or (tags.find? name)

/-- The tags after some were removed, by their lookups: a name loses its value if it is to be
removed with that value. -/
def removed (batch : List Tag) (tags : TagMap) : TagMap :=
  .tabulate tags.names fun name =>
    (tags.find? name).filter fun value => ⟨name, value⟩ ∉ batch

def apply : Act → Reference → Outcome × Reference
  | .insert snapshot, reference => (.done, reference.write snapshot.instanceId (some snapshot))
  | .remove instanceId, reference => (.done, reference.write instanceId none)
  | .setState instanceId state, reference =>
    (.done, reference.write instanceId
      ((reference.table instanceId).map fun snapshot => { snapshot with state }))
  | .failNext operation failure, reference =>
    (.done, { reference with
      waiting := Function.update reference.waiting operation
        (reference.waiting operation ++ [failure]) })
  | .describe instanceIds, reference =>
    reference.answer ⟨.describe, instanceIds, []⟩ fun noted =>
      (.described (instanceIds.filterMap noted.table), noted)
  | .reboot instanceId, reference => reference.command .reboot instanceId [] id
  | .stop instanceId, reference =>
    reference.command .stop instanceId [] fun snapshot => { snapshot with state := .stopped }
  | .terminate instanceId, reference =>
    reference.command .terminate instanceId [] fun snapshot =>
      { snapshot with state := .terminated }
  | .createTags instanceId batch, reference =>
    reference.command .createTags instanceId batch fun snapshot =>
      { snapshot with tags := written batch snapshot.tags }
  | .deleteTags instanceId batch, reference =>
    reference.command .deleteTags instanceId batch fun snapshot =>
      { snapshot with tags := removed batch snapshot.tags }

end Reference

/-! ## The parts of the simulated provider -/

theorem changed_push (batch : List Tag) (tags : TagMap) :
    changed .push batch tags = Reference.written batch tags := by
  apply TagMap.eq_tabulate (TagMap.find?_insertAll tags batch)
  intro name foreign
  rw [List.mem_append, not_or] at foreign
  have unnamed : (batch.filter fun tag => tag.name = name) = [] := by
    apply List.filter_eq_nil_iff.mpr
    intro tag member named
    exact foreign.2 (List.mem_map.mpr ⟨tag, member, of_decide_eq_true named⟩)
  rw [unnamed]
  exact TagMap.find?_of_not_mem_names foreign.1

theorem changed_clear (batch : List Tag) (tags : TagMap) :
    changed .clear batch tags = Reference.removed batch tags := by
  apply TagMap.eq_tabulate (TagMap.find?_eraseAll_eq_filter tags batch)
  intro name foreign
  rw [TagMap.find?_of_not_mem_names foreign]
  rfl

/-- The failures that wait for an operation, the oldest first. -/
def waiting (provider : Provider) (operation : Operation) : List Failure :=
  (provider.failures.filter fun waiting => waiting.operation = operation).map Injection.failure

theorem waitingFailure?_eq (provider : Provider) (operation : Operation) :
    provider.waitingFailure? operation = (provider.waiting operation).head? := by
  simp only [waitingFailure?, waiting, List.head?_map, List.head?_filter]

theorem waiting_failNext (provider : Provider) (operation : Operation) (failure : Failure) :
    (provider.failNext operation failure).waiting = Function.update provider.waiting operation
      (provider.waiting operation ++ [failure]) := by
  funext other
  by_cases same : other = operation
  · subst same
    simp [waiting, failNext]
  · have different : operation ≠ other := fun equal => same equal.symm
    simp [waiting, failNext, same, different]

/-- A call takes the oldest failure of its own operation and none of another. -/
theorem waiting_record (provider : Provider) (call : Call) :
    (provider.record call).waiting = Function.update provider.waiting call.operation
      (provider.waiting call.operation).tail := by
  funext operation
  simp only [record]
  by_cases same : operation = call.operation
  · subst same
    rw [Function.update_self]
    simp only [waiting]
    induction provider.failures with
    | nil => rfl
    | cons first later ih =>
        by_cases own : first.operation = call.operation
        · simp [own]
        · simpa [own] using ih
  · rw [Function.update_of_ne same]
    simp only [waiting]
    induction provider.failures with
    | nil => rfl
    | cons first later ih =>
        by_cases own : first.operation = call.operation
        · have foreign : ¬call.operation = operation := fun equal => same equal.symm
          simp [own, foreign]
        · rw [List.eraseP_cons_of_neg (by simpa using own), List.filter_cons, List.filter_cons]
          split <;> simp [ih]

/-- To make room at the end of the last entries of a list is to keep one fewer of them. -/
theorem rtake_room {α : Type} (entries : List α) (count : Nat) :
    (if (entries.rtake (count + 1)).length = count + 1 then (entries.rtake (count + 1)).tail
      else entries.rtake (count + 1)) = entries.rtake count := by
  simp only [List.rtake, List.length_drop, List.tail_drop]
  split
  · congr 1
    omega
  · congr 1
    omega

/-- The last calls of a history, with one more call. -/
theorem keepCall_rtake (call : Call) (history : List Call) :
    keepCall call (history.rtake callLogCapacity) = (history ++ [call]).rtake callLogCapacity := by
  have succ : callLogCapacity = 1023 + 1 := rfl
  rw [keepCall, succ, rtake_room, List.rtake_concat_succ]

theorem find?_remove (provider : Provider) (instanceId : InstanceId) :
    (provider.remove instanceId).find? = Function.update provider.find? instanceId none := by
  funext other
  by_cases same : other = instanceId
  · subst same
    simp [find?, remove, List.find?_filter]
  · rw [Function.update_of_ne same]
    simp only [find?, remove, List.find?_filter]
    congr 1
    funext snapshot
    by_cases named : snapshot.instanceId = other
    · simp [named, same]
    · simp [named]

theorem find?_insert (provider : Provider) (snapshot : Snapshot) :
    (provider.insert snapshot).find? =
      Function.update provider.find? snapshot.instanceId (some snapshot) := by
  funext other
  have removed := congrFun (provider.find?_remove snapshot.instanceId) other
  simp only [find?, insert, List.find?_cons] at removed ⊢
  rw [removed]
  by_cases same : other = snapshot.instanceId
  · subst same
    simp
  · have different : snapshot.instanceId ≠ other := fun equal => same equal.symm
    simp [different, same]

theorem find?_update_eq (provider : Provider) (instanceId : InstanceId)
    (change : Snapshot → Snapshot) :
    (provider.update instanceId change).find? = Function.update provider.find? instanceId
      ((provider.find? instanceId).map fun snapshot =>
        { change snapshot with instanceId := snapshot.instanceId }) := by
  funext other
  by_cases same : other = instanceId
  · subst same
    rw [Function.update_self]
    rcases found : provider.find? other with _ | snapshot
    · simp only [find?, List.find?_eq_none] at found
      simp only [find?, update, Option.map_none, List.find?_eq_none]
      intro snapshot among
      rcases List.mem_map.mp among with ⟨before, stored, rfl⟩
      have foreign : before.instanceId ≠ other := by simpa using found before stored
      simp [foreign]
    · exact find?_update change found
  · rw [Function.update_of_ne same]
    exact find?_update_of_ne change same

/-! ## How the provider stands for the reference -/

/-- The simulated provider holds what the reference does. Of the calls it holds the last ones, and
it holds one instance at most under an identifier. -/
structure Represents (provider : Provider) (reference : Reference) : Prop where
  calls : provider.calls = reference.history.rtake callLogCapacity
  waiting : provider.waiting = reference.waiting
  table : provider.find? = reference.table
  distinct : (provider.instances.map Snapshot.instanceId).Nodup

/-- The outcomes are the same, and what is left stands for what is left. -/
def Corresponds (result : Outcome × Provider) (meant : Outcome × Reference) : Prop :=
  result.1 = meant.1 ∧ result.2.Represents meant.2

namespace Represents

variable {provider : Provider} {reference : Reference} {instanceId : InstanceId}

theorem empty : ({} : Provider).Represents {} where
  calls := rfl
  waiting := rfl
  table := rfl
  distinct := List.nodup_nil

theorem remove (represents : provider.Represents reference) (instanceId : InstanceId) :
    (provider.remove instanceId).Represents (reference.write instanceId none) where
  calls := represents.calls
  waiting := represents.waiting
  table := by rw [find?_remove, represents.table, Reference.write]
  distinct := represents.distinct.sublist (List.filter_sublist.map _)

theorem insert (represents : provider.Represents reference) (snapshot : Snapshot) :
    (provider.insert snapshot).Represents
      (reference.write snapshot.instanceId (some snapshot)) where
  calls := represents.calls
  waiting := represents.waiting
  table := by rw [find?_insert, represents.table, Reference.write]
  distinct := by
    have others := (represents.remove snapshot.instanceId).distinct
    refine List.nodup_cons.mpr ⟨?_, others⟩
    simp [Provider.remove]

/-- An instance is changed in its place. What it is changed to carries the same identifier. -/
theorem update (represents : provider.Represents reference) {change : Snapshot → Snapshot}
    {entry : Option Snapshot}
    (changed : ((reference.table instanceId).map fun snapshot =>
      { change snapshot with instanceId := snapshot.instanceId }) = entry) :
    (provider.update instanceId change).Represents (reference.write instanceId entry) where
  calls := represents.calls
  waiting := represents.waiting
  table := by rw [find?_update_eq, represents.table, changed, Reference.write]
  distinct := by
    have kept : (provider.update instanceId change).instances.map Snapshot.instanceId =
        provider.instances.map Snapshot.instanceId := by
      simp only [Provider.update, List.map_map]
      apply List.map_congr_left
      intro snapshot _
      simp only [Function.comp_apply]
      split <;> rfl
    rw [kept]
    exact represents.distinct

theorem failNext (represents : provider.Represents reference) (operation : Operation)
    (failure : Failure) :
    (provider.failNext operation failure).Represents { reference with
      waiting := Function.update reference.waiting operation
        (reference.waiting operation ++ [failure]) } where
  calls := represents.calls
  waiting := by rw [waiting_failNext, represents.waiting]
  table := represents.table
  distinct := represents.distinct

/-- A call is answered alike if, where no failure waits for it, it is carried out alike. -/
theorem answer {α : Type} {give : α → Outcome} {call : Call} {carryOut : Provider → Reply α}
    {meant : Reference → Outcome × Reference} (represents : provider.Represents reference)
    (carried : ∀ provider reference, provider.Represents reference →
      Corresponds ((carryOut provider).outcome give) (meant reference)) :
    Corresponds ((provider.perform call carryOut).outcome give)
      (reference.answer call meant) := by
  have recorded : (provider.record call).Represents
      { reference with
        history := reference.history ++ [call]
        waiting := Function.update reference.waiting call.operation
          (reference.waiting call.operation).tail } := by
    refine ⟨?_, ?_, represents.table, represents.distinct⟩
    · rw [← keepCall_rtake, ← represents.calls]
      rfl
    · rw [waiting_record, represents.waiting]
  have first := provider.waitingFailure?_eq call.operation
  rw [represents.waiting] at first
  rcases waits : reference.waiting call.operation with _ | ⟨failure, later⟩
  · -- To take nothing from an empty queue leaves the queues as they are.
    rw [waits, List.tail_nil, ← waits, Function.update_eq_self] at recorded
    rw [waits] at first
    simp only [perform, first, Reference.answer, waits, List.head?_nil]
    exact carried _ _ recorded
  · rw [waits, List.tail_cons] at recorded
    rw [waits] at first
    simp only [perform, first, Reference.answer, waits, List.head?_cons]
    exact ⟨rfl, recorded⟩

theorem describe (represents : provider.Represents reference) (instanceIds : List InstanceId) :
    Corresponds ((provider.describe instanceIds).outcome .described)
      (reference.apply (.describe instanceIds)) := by
  rw [Reference.apply]
  apply represents.answer
  intro recorded noted represents
  refine ⟨?_, represents⟩
  simp only [Reply.outcome, represents.table]

/-- The three commands bring an instance to the state that they are about, or leave its state. -/
theorem command (represents : provider.Represents reference) {operation : Operation}
    {change : Snapshot → Snapshot}
    (brings : ∀ snapshot : Snapshot,
      { snapshot with state := (stateAfter operation).getD snapshot.state } = change snapshot)
    (instanceId : InstanceId) :
    Corresponds ((provider.command operation instanceId).outcome fun _ => .done)
      (reference.command operation instanceId [] change) := by
  apply represents.answer
  intro recorded noted represents
  have same := congrFun represents.table instanceId
  rcases found : noted.table instanceId with _ | snapshot
  · simp only [same, found]
    exact ⟨rfl, represents⟩
  · simp only [same, found]
    refine ⟨rfl, represents.update ?_⟩
    rw [found, Option.map_some, ← brings snapshot]

theorem changeTags (represents : provider.Represents reference) (direction : TagChange)
    (instanceId : InstanceId) (batch : List Tag) :
    Corresponds ((provider.changeTags direction instanceId batch).outcome fun _ => .done)
      (reference.command (operationOf direction) instanceId batch fun snapshot =>
        { snapshot with tags := changed direction batch snapshot.tags }) := by
  apply represents.answer
  intro recorded noted represents
  have same := congrFun represents.table instanceId
  rcases found : noted.table instanceId with _ | snapshot
  · simp only [same, found]
    exact ⟨rfl, represents⟩
  · simp only [same, found]
    refine ⟨rfl, represents.update ?_⟩
    rw [found, Option.map_some]

/-- Each act comes to the same on both sides. -/
theorem apply (represents : provider.Represents reference) (act : Act) :
    Corresponds (act.apply provider) (reference.apply act) := by
  cases act with
  | insert snapshot => exact ⟨rfl, represents.insert snapshot⟩
  | remove instanceId => exact ⟨rfl, represents.remove instanceId⟩
  | setState instanceId state => exact ⟨rfl, represents.update rfl⟩
  | failNext operation failure => exact ⟨rfl, represents.failNext operation failure⟩
  | describe instanceIds => exact represents.describe instanceIds
  | reboot instanceId => exact represents.command (fun _ => rfl) instanceId
  | stop instanceId => exact represents.command (fun _ => rfl) instanceId
  | terminate instanceId => exact represents.command (fun _ => rfl) instanceId
  | createTags instanceId batch =>
      simp only [Reference.apply, ← changed_push]
      exact represents.changeTags .push instanceId batch
  | deleteTags instanceId batch =>
      simp only [Reference.apply, ← changed_clear]
      exact represents.changeTags .clear instanceId batch

/-- So does every run. -/
theorem transcript (represents : provider.Represents reference) (acts : List Act) :
    (transcript Act.apply acts provider).1 = (transcript Reference.apply acts reference).1 ∧
      (transcript Act.apply acts provider).2.Represents
        (transcript Reference.apply acts reference).2 := by
  induction acts generalizing provider reference with
  | nil => exact ⟨rfl, represents⟩
  | cons act acts ih =>
      rcases represents.apply act with ⟨same, represents⟩
      rcases ih represents with ⟨rest, last⟩
      exact ⟨List.cons_eq_cons.mpr ⟨same, rest⟩, last⟩

end Represents

/-! ## The reference call by call -/

/-- What a call may do. With the table and the queues before it and after it:

* the oldest failure that waits for the operation is taken and returned, whatever the table holds,
  and no other queue is touched; where none waits, none is taken;
* a call that fails leaves the table as it was;
* a call to describe instances returns the known ones in the order and as often as asked for;
* any other call names one instance. It is refused if the instance is unknown, and otherwise it
  changes that one and of it only the state and the tags. -/
structure Lawful (call : Call) (outcome : Outcome) (table left : InstanceId → Option Snapshot)
    (waiting remaining : Operation → List Failure) : Prop where
  injected : ∀ failure later, waiting call.operation = failure :: later →
    outcome = .failed failure ∧ remaining call.operation = later
  spared : waiting call.operation = [] → remaining call.operation = []
  others : ∀ operation, operation ≠ call.operation → remaining operation = waiting operation
  failed : ∀ failure, outcome = .failed failure → left = table
  described : call.operation = .describe → waiting call.operation = [] →
    outcome = .described (call.instanceIds.filterMap table) ∧ left = table
  commanded : call.operation ≠ .describe → ∃ instanceId, call.instanceIds = [instanceId] ∧
    (waiting call.operation = [] → table instanceId = none →
      outcome = .failed (unknownInstance call.operation instanceId)) ∧
    (waiting call.operation = [] → ∀ snapshot, table instanceId = some snapshot →
      outcome = .done ∧ ∃ state tags,
        left = Function.update table instanceId (some { snapshot with state, tags }))

namespace Reference

variable {reference : Reference}

theorem lawful_injected {call : Call} {carryOut : Reference → Outcome × Reference}
    {failure : Failure} {later : List Failure}
    (waits : reference.waiting call.operation = failure :: later)
    (named : call.operation ≠ .describe → ∃ instanceId, call.instanceIds = [instanceId]) :
    Lawful call (reference.answer call carryOut).1 reference.table
      (reference.answer call carryOut).2.table reference.waiting
      (reference.answer call carryOut).2.waiting := by
  simp only [answer, waits]
  refine ⟨?_, ?_, ?_, fun _ _ => rfl, ?_, ?_⟩
  · intro first rest same
    rw [waits, List.cons.injEq] at same
    rcases same with ⟨rfl, rfl⟩
    exact ⟨rfl, Function.update_self _ _ _⟩
  · simp [waits]
  · intro operation different
    exact Function.update_of_ne different _ _
  · simp [waits]
  · intro commands
    rcases named commands with ⟨instanceId, names⟩
    exact ⟨instanceId, names, by simp [waits], by simp [waits]⟩

theorem lawful_describe (reference : Reference) (instanceIds : List InstanceId) :
    Lawful ⟨.describe, instanceIds, []⟩ (reference.apply (.describe instanceIds)).1
      reference.table (reference.apply (.describe instanceIds)).2.table reference.waiting
      (reference.apply (.describe instanceIds)).2.waiting := by
  rcases waits : reference.waiting .describe with _ | ⟨failure, later⟩
  · simp only [apply, answer, waits]
    refine ⟨?_, fun empty => empty, fun _ _ => rfl, fun _ _ => rfl, fun _ _ => ⟨rfl, rfl⟩, ?_⟩
    · simp [waits]
    · intro commands
      exact absurd rfl commands
  · apply lawful_injected waits
    intro commands
    exact absurd rfl commands

theorem lawful_command {operation : Operation} (commands : operation ≠ .describe)
    {change : Snapshot → Snapshot}
    (within : ∀ snapshot, ∃ state tags, change snapshot = { snapshot with state, tags })
    (instanceId : InstanceId) (batch : List Tag) :
    Lawful ⟨operation, [instanceId], batch⟩
      (reference.command operation instanceId batch change).1 reference.table
      (reference.command operation instanceId batch change).2.table reference.waiting
      (reference.command operation instanceId batch change).2.waiting := by
  rcases waits : reference.waiting operation with _ | ⟨failure, later⟩
  · simp only [command, answer, waits]
    rcases found : reference.table instanceId with _ | snapshot
    · refine ⟨?_, fun empty => empty, fun _ _ => rfl, fun _ _ => rfl, ?_, ?_⟩
      · simp [waits]
      · intro describes
        exact absurd describes commands
      · intro _
        exact ⟨instanceId, rfl, fun _ _ => rfl, by simp [found]⟩
    · refine ⟨?_, fun empty => empty, fun _ _ => rfl, ?_, ?_, ?_⟩
      · simp [waits]
      · intro failure fails
        cases fails
      · intro describes
        exact absurd describes commands
      · intro _
        refine ⟨instanceId, rfl, by simp [found], ?_⟩
        intro _ known same
        rw [found, Option.some.injEq] at same
        subst same
        rcases within snapshot with ⟨state, tags, changed⟩
        exact ⟨rfl, state, tags, by rw [← changed]; rfl⟩
  · apply lawful_injected waits
    intro _
    exact ⟨instanceId, rfl⟩

/-- Every call is lawful. -/
theorem lawful_apply (reference : Reference) {act : Act} {call : Call}
    (calls : act.call? = some call) :
    Lawful call (reference.apply act).1 reference.table (reference.apply act).2.table
      reference.waiting (reference.apply act).2.waiting := by
  cases act with
  | insert _ | remove _ | setState _ _ | failNext _ _ => cases calls
  | describe instanceIds =>
      cases calls
      exact reference.lawful_describe instanceIds
  | reboot instanceId =>
      cases calls
      exact lawful_command (by decide) (fun snapshot => ⟨snapshot.state, snapshot.tags, rfl⟩) _ _
  | stop instanceId =>
      cases calls
      exact lawful_command (by decide) (fun snapshot => ⟨.stopped, snapshot.tags, rfl⟩) _ _
  | terminate instanceId =>
      cases calls
      exact lawful_command (by decide) (fun snapshot => ⟨.terminated, snapshot.tags, rfl⟩) _ _
  | createTags instanceId batch =>
      cases calls
      exact lawful_command (by decide)
        (fun snapshot => ⟨snapshot.state, written batch snapshot.tags, rfl⟩) _ _
  | deleteTags instanceId batch =>
      cases calls
      exact lawful_command (by decide)
        (fun snapshot => ⟨snapshot.state, removed batch snapshot.tags, rfl⟩) _ _

theorem history_answer {call : Call} {carryOut : Reference → Outcome × Reference}
    (kept : ∀ noted, (carryOut noted).2.history = noted.history) :
    (reference.answer call carryOut).2.history = reference.history ++ [call] := by
  simp only [answer]
  split
  · rfl
  · exact kept _

theorem history_command (operation : Operation) (instanceId : InstanceId) (batch : List Tag)
    (change : Snapshot → Snapshot) :
    (reference.command operation instanceId batch change).2.history =
      reference.history ++ [⟨operation, [instanceId], batch⟩] := by
  apply history_answer
  intro noted
  split <;> rfl

/-- A call enters the history, whatever it comes to. -/
theorem history_apply (reference : Reference) (act : Act) :
    (reference.apply act).2.history = reference.history ++ act.call?.toList := by
  cases act with
  | insert _ | remove _ | setState _ _ | failNext _ _ => exact (List.append_nil _).symm
  | describe instanceIds => exact history_answer fun _ => rfl
  | reboot _ | stop _ | terminate _ | createTags _ _ | deleteTags _ _ =>
      exact history_command _ _ _ _

theorem history_transcript (reference : Reference) (acts : List Act) :
    (transcript apply acts reference).2.history =
      reference.history ++ acts.filterMap Act.call? := by
  induction acts generalizing reference with
  | nil => exact (List.append_nil _).symm
  | cons act acts ih =>
      simp only [transcript, ih, history_apply, List.append_assoc]
      congr 1
      rcases made : act.call? with _ | call
      · simp [made]
      · simp [made]

end Reference

/-! ## The main result -/

/-- **The simulated provider does what the reference does.** After any acts on a provider that knows
nothing and has nothing waiting:

* every outcome is that of the reference, and the provider holds what the reference does;
* its record is the last 1024 of the calls ever made, whatever they came to, in their order;
* an instance stored under an identifier carries it;
* whatever call comes next, it is lawful: it takes the oldest failure of its own operation, before
  anything else can refuse it; it changes nothing in the table if it fails; and if it succeeds it
  changes only the state and the tags of the instance that it names. -/
theorem refines_reference {acts : List Act} {outcomes meant : List Outcome} {provider : Provider}
    {reference : Reference} (done : transcript Act.apply acts {} = (outcomes, provider))
    (followed : transcript Reference.apply acts {} = (meant, reference)) :
    outcomes = meant ∧ provider.Represents reference ∧
      provider.calls = (acts.filterMap Act.call?).rtake 1024 ∧
      (∀ instanceId snapshot, reference.table instanceId = some snapshot →
        snapshot.instanceId = instanceId) ∧
      ∀ (act : Act) (call : Call), act.call? = some call →
        Lawful call (act.apply provider).1 provider.find? (act.apply provider).2.find?
          provider.waiting (act.apply provider).2.waiting := by
  have both := Represents.empty.transcript acts
  rw [done, followed] at both
  rcases both with ⟨same, represents⟩
  refine ⟨same, represents, ?_, ?_, ?_⟩
  · have history := Reference.history_transcript {} acts
    rw [followed] at history
    rw [represents.calls, history]
    rfl
  · intro instanceId snapshot stored
    rw [← represents.table] at stored
    exact instanceId_of_find? stored
  · intro act call calls
    rcases represents.apply act with ⟨answered, after⟩
    rw [answered, after.table, after.waiting, represents.table, represents.waiting]
    exact Reference.lawful_apply _ calls

/-- An instance for the acts below. -/
def reported : Snapshot :=
  .running ⟨['0', '1', '2', '3', 'a', 'b', 'c', 'd'], by decide⟩ .epoch

/-- Two attempts to stop it, of which the second comes when it is not known any more, and a reboot
that is to be throttled. -/
def stopAttempts : List Act :=
  [.insert reported, .failNext .stop (.throttled .stop), .failNext .reboot (.throttled .reboot),
    .stop reported.instanceId, .remove reported.instanceId, .stop reported.instanceId]

/-- Both attempts fail and both are in the record. A reboot that comes next is throttled, although
the instance is unknown. -/
theorem refines_reference_stopAttempts :
    ∃ provider,
      transcript Act.apply stopAttempts {} =
        ([.done, .done, .done, .failed (.throttled .stop), .done,
          .failed (.rejected .stop "InvalidInstanceID.NotFound: i-0123abcd")], provider) ∧
      provider.calls = [⟨.stop, [reported.instanceId], []⟩, ⟨.stop, [reported.instanceId], []⟩] ∧
      ((Act.reboot reported.instanceId).apply provider).1 = .failed (.throttled .reboot) := by
  have done : transcript Act.apply stopAttempts {} = (_, _) := rfl
  rcases refines_reference done rfl with ⟨same, _, calls, _, lawful⟩
  have rebooted := (lawful (.reboot reported.instanceId) _ rfl).injected (.throttled .reboot) []
    (by decide)
  exact ⟨_, Prod.ext same rfl, calls, rebooted.1⟩

end BuildAgent.Provider
