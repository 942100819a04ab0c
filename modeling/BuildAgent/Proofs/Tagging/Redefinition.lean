import BuildAgent.Proofs.Monitor.Effect

/-!
# What replaces the definition of a node

A node keeps its definition, and the flag that goes with it, until a reconfiguration replaces them.
It does so in one step, between its clear and its push (`ReconfigurePoint.rules_resume`); every
other step of any task, every look and every change from outside leaves both as they are
(`Execution.Step.rules`). `Execution.replacements` lists the replacements that a list of moves
makes. Where there are none, the definition stays (`Execution.rules_run`).
-/

namespace BuildAgent

/-- The node with another definition, on the capacity that it has. -/
def Node.redefine (node : Node) (definition : Definition) : Node :=
  { node with
    longLived := definition.longLivedAgent
    definition := { definition with capacity := some node.capacity } }

/-! ## What leaves the definition as it is -/

/-- Only a replacement changes the definition and its flag. -/
theorem Deed.rules_apply (deed : Deed) (world : World)
    (other : ∀ definition, deed ≠ .replace definition) :
    (deed.apply world).node.rules = world.node.rules := by
  cases deed with
  | replace definition => exact absurd rfl (other definition)
  | bind instanceId =>
      simp only [apply, World.withNode, Node.bind]
      split <;> rfl
  | retire => rcases world.node_retire with kept | kept <;> simp [apply, kept, Node.rules]
  | _ => simp [apply, Node.rules]

theorem World.Through.rules_eq {permits : Deed → Prop} {before after : World}
    (through : before.Through permits after)
    (spared : ∀ definition, ¬permits (.replace definition)) :
    after.node.rules = before.node.rules := by
  apply through.view_eq fun world => world.node.rules
  intro deed world permitted
  apply deed.rules_apply world
  rintro definition rfl
  exact spared definition permitted

theorem World.SparesNode.rules_eq {before after : World} (spares : before.SparesNode after) :
    after.node.rules = before.node.rules :=
  spares.view_eq Node.rules fun _ _ => rfl

theorem Stage.rules_andThen {π π' ρ ρ' : Type} {stage : Stage π ρ} {wrap : π → π'}
    {next : ρ → World → Stage π' ρ'}
    (rest : ∀ result middle, (next result middle).world.node.rules = middle.node.rules) :
    (stage.andThen wrap next).world.node.rules = stage.world.node.rules := by
  cases stage with
  | pause point world => rfl
  | done result world => exact rest result world

/-! ## The steps of tasks -/

namespace ReconfigurePoint

theorem rules_replace (definition : Definition) (world : World) :
    (replace definition world).node.rules = (world.node.redefine definition).rules :=
  rfl

theorem rules_rebinding (definition : Definition) (world : World) :
    (rebinding.resume definition world).world.node.rules =
      (world.node.redefine definition).rules := by
  simp only [resume]
  rw [Stage.rules_andThen, ← rules_replace]
  · exact (SyncPoint.through_enter _ _ _).rules_eq fun _ => id
  · intro result middle
    exact (through_afterPush result middle).rules_eq fun _ => id

/-- A reconfiguration replaces the definition when it rebinds the node, and at no other point. -/
theorem rules_resume (definition : Definition) (point : ReconfigurePoint) (world : World) :
    (point.resume definition world).world.node.rules = world.node.rules ∨
      point = .rebinding ∧ (point.resume definition world).world.node.rules =
        (world.node.redefine definition).rules := by
  have synchronized : ∀ {before after : World}, before.Through Deed.IsSync after →
      after.node.rules = before.node.rules := fun through => through.rules_eq fun _ => id
  have cleared : ∀ result middle,
      (afterClear result middle).world.node.rules = middle.node.rules :=
    fun result middle => (through_afterClear result middle).rules_eq fun _ => id
  have pushed : ∀ result middle,
      (afterPush result middle).world.node.rules = middle.node.rules :=
    fun result middle => (through_afterPush result middle).rules_eq fun _ => id
  cases point with
  | waiting =>
      left
      simp only [resume]
      rw [Stage.rules_andThen cleared]
      exact synchronized (SyncPoint.through_enter _ _ world)
  | clearing tags inner =>
      left
      simp only [resume]
      rw [Stage.rules_andThen cleared]
      exact synchronized (inner.through _ _ world)
  | rebinding => exact .inr ⟨rfl, rules_rebinding definition world⟩
  | pushing tags inner =>
      left
      simp only [resume]
      rw [Stage.rules_andThen pushed]
      exact synchronized (inner.through _ _ world)

end ReconfigurePoint

namespace Point

/-- The definition that the next step of a task puts in the place of the old one, if it does so. -/
def replacement? : Point → Option Definition
  | reconfiguring definition .rebinding => some definition
  | _ => none

/-- Every step leaves the definition as it is, or puts another in its place. -/
theorem rules_resume (point : Point) (world : World) :
    (point.resume world).world.node.rules = world.node.rules ∨
      ∃ definition, point.replacement? = some definition ∧
        (point.resume world).world.node.rules = (world.node.redefine definition).rules := by
  cases point with
  | reconfiguring definition inner =>
      simp only [resume]
      rw [Stage.rules_andThen fun _ _ => rfl]
      rcases inner.rules_resume definition world with same | ⟨rfl, replaced⟩
      · exact .inl same
      · exact .inr ⟨definition, rfl, replaced⟩
  | rebooting afterBuild inner => exact .inl (spares_rebooting afterBuild inner world).rules_eq
  | looking session inner =>
      left
      simp only [resume]
      rw [Stage.rules_andThen fun _ _ => rfl]
      cases inner with
      | waiting => exact (LookPoint.spares_begin session world).rules_eq
      | refreshing fetch =>
          have fetched : (fetch.resume world).world.node.rules = world.node.rules :=
            (fetch.through world).rules_eq fun _ => id
          simp only [LookPoint.resume]
          rw [Stage.rules_andThen, fetched]
          intro found middle
          exact (LookPoint.spares_act session _ middle).rules_eq
  | _ =>
      left
      refine (Point.through rfl world).rules_eq ?_
      intro definition permitted
      simp [permits, Deed.IsNote, Deed.IsLookup, Deed.IsFetch, Deed.IsSync, StopPoint.permits,
        TerminatePoint.permits, DisconnectPoint.permits] at permitted

theorem rules_notice (point : Point) (world : World) :
    (point.notice world).world.node.rules = world.node.rules :=
  (point.through_notice world).rules_eq fun _ => id

end Point

/-! ## Moves -/

namespace Execution

def replacement? (execution : Execution) : Move → Option Definition
  | .resume number =>
    match execution.task? number with
    | some task => if execution.isReady task then task.point.replacement? else none
    | none => none
  | _ => none

/-- The definitions that a list of moves puts in place, in order. -/
def replacements (execution : Execution) : List Move → List Definition
  | [] => []
  | move :: moves =>
    (execution.replacement? move).toList ++ (execution.apply move).replacements moves

variable {before after : Execution} {move : Move}

theorem rules_outside {change : World → World} (changes : move.outside? = some change)
    (world : World) : (change world).node.rules = world.node.rules := by
  cases Move.outside_of_outside? changes with
  | bringOn transfer => exact congrArg Node.rules (world.node_bringOn transfer).1
  | retire =>
      rcases world.node_retire with kept | kept
      · rw [kept]
      · rw [kept]
        rfl
  | happen happening => exact congrArg Node.rules (happening.frame_apply world).1
  | aside _ _ aside => exact (aside world).rules

/-- The definition stays in every step but that in which a reconfiguration replaces it. -/
theorem Step.rules (step : before.Step move after) :
    after.world.node.rules = before.world.node.rules ∨
      ∃ task definition, task ∈ before.running ∧ before.isReady task = true ∧
        move = .resume task.number ∧ task.point.replacement? = some definition ∧
        after.world.node.rules = (before.world.node.redefine definition).rules := by
  cases step with
  | idle move => exact .inl rfl
  | outside move change changes => exact .inl (rules_outside changes before.world)
  | started number request fresh held => exact .inl rfl
  | looked number session delay agenda fresh scheduled present =>
      exact .inl (congrArg Node.rules (before.world.frame_withAgenda delay agenda).1)
  | lost number session delay agenda scheduled dropped alone =>
      exact .inl (congrArg Node.rules (before.world.frame_withAgenda delay agenda).1)
  | advanced move earlier later task stage split takes =>
      cases takes with
      | resume ready =>
          rcases task.point.rules_resume before.world with same | ⟨definition, replaces, changed⟩
          · exact .inl same
          · exact .inr ⟨task, definition, mem_of_eq_append split, ready, rfl, replaces, changed⟩
      | notice news => exact .inl (task.point.rules_notice before.world)

theorem rules_apply (orderly : before.Orderly) (none_replaces : before.replacement? move = none) :
    (before.apply move).world.node.rules = before.world.node.rules := by
  rcases (step_apply orderly move).rules with
    same | ⟨task, definition, running, ready, rfl, replaces, _⟩
  · exact same
  · simp [replacement?, task?_of_mem orderly running, ready, replaces] at none_replaces

/-- The definition stays along moves that make no replacement. -/
theorem rules_run {execution : Execution} (orderly : execution.Orderly) {moves : List Move}
    (none_replaces : execution.replacements moves = []) :
    (execution.run moves).world.node.rules = execution.world.node.rules := by
  induction moves generalizing execution with
  | nil => rfl
  | cons move moves ih =>
      rw [replacements, List.append_eq_nil_iff, Option.toList_eq_nil_iff] at none_replaces
      rcases none_replaces with ⟨first, rest⟩
      have later := ih (orderly.step (step_apply orderly move)) rest
      exact later.trans (rules_apply orderly first)

end Execution

end BuildAgent
