import BuildAgent.Proofs.World.Connections

/-!
# Changes of the record of reboot sessions

A change of the world is `Quiet` if it leaves the record of reboot sessions, the agenda and the
standing of the node as they were and neither starts a connection nor breaks one off. All deeds are
quiet but retirement.

What is not quiet comes from the monitor. `World.Resets` is the one way in which a session is opened
or closed: whatever attempt the session held is over afterwards. `World.Attempts` is the one way in
which an attempt is started.
-/

namespace BuildAgent

/-- The parts of a node that only retirement and release change. -/
def Node.standing (node : Node) : Bool × Bool × Bool :=
  (node.retired, node.attached, node.held)

/-- The parts of a node that only a reconfiguration changes. -/
def Node.rules (node : Node) : Definition × Bool :=
  (node.definition, node.longLived)

/-- Whether a change leaves the reboot monitor's business alone. -/
structure World.Quiet (before after : World) : Prop where
  session : after.node.session = before.node.session
  agenda : after.agenda = before.agenda
  standing : after.node.standing = before.node.standing
  goesOn : GoesOn before.transfers after.transfers
  connections : after.connections = before.connections

namespace World.Quiet

variable {before middle after : World}

theorem refl (world : World) : world.Quiet world :=
  ⟨rfl, rfl, rfl, .refl _, rfl⟩

theorem trans (earlier : before.Quiet middle) (later : middle.Quiet after) : before.Quiet after :=
  ⟨later.session.trans earlier.session, later.agenda.trans earlier.agenda,
    later.standing.trans earlier.standing, earlier.goesOn.trans later.goesOn,
    later.connections.trans earlier.connections⟩

theorem of_through {permits : Deed → Prop} (managed : ¬permits .retire)
    (through : before.Through permits after) : before.Quiet after := by
  refine ⟨through.session_eq, through.agenda_eq, ?_, through.goesOn, through.connections_eq⟩
  refine through.view_eq (fun world => world.node.standing) ?_
  intro deed world permitted
  have other : deed ≠ .retire := fun same => managed (same ▸ permitted)
  have kept := deed.standing_apply world other
  simp [Node.standing, kept]

theorem note (world : World) (event : Journal.Event) : world.Quiet (world.note event) :=
  ⟨rfl, rfl, rfl, .refl _, rfl⟩

theorem takeOffline (world : World) (cause : OfflineCause) :
    world.Quiet (world.takeOffline cause) := by
  rcases world.frame_takeOffline cause with ⟨node, transfers, agenda, _⟩
  exact ⟨by rw [node], agenda, by rw [node], by rw [transfers]; exact .refl _,
    world.connections_takeOffline cause⟩

theorem bringOnline (world : World) : world.Quiet world.bringOnline := by
  rcases world.frame_bringOnline with ⟨node, transfers, agenda, _⟩
  exact ⟨by rw [node], agenda, by rw [node], by rw [transfers]; exact .refl _,
    world.connections_bringOnline⟩

theorem startTeardown (world : World) (cause : Option OfflineCause) :
    world.Quiet (world.startTeardown cause).2 := by
  rcases world.frame_startTeardown cause with ⟨node, _, agenda, _⟩
  exact ⟨by rw [node], agenda, by rw [node], world.goesOn_startTeardown cause,
    world.connections_startTeardown cause⟩

end World.Quiet

/-- Whether a change leaves all of the node but the record of its reboot sessions. -/
def World.SparesNode (before after : World) : Prop :=
  after.node = { before.node with session := after.node.session }

namespace World.SparesNode

variable {before middle after : World}

theorem of_node (same : after.node = before.node) : before.SparesNode after := by
  simp [SparesNode, same]

theorem view_eq {α : Type} (spares : before.SparesNode after) (view : Node → α)
    (blind : ∀ node session, view { node with session } = view node) :
    view after.node = view before.node :=
  (congrArg view spares).trans (blind before.node after.node.session)

theorem trans (earlier : before.SparesNode middle) (later : middle.SparesNode after) :
    before.SparesNode after := by
  simp only [SparesNode] at earlier later ⊢
  rw [later, earlier]

theorem of_through {permits : Deed → Prop} (through : before.Through permits after)
    (spares : ∀ deed world, permits deed → (deed.apply world).node = world.node) :
    before.SparesNode after :=
  of_node (through.view_eq World.node spares)

theorem abortAttempt (change : Reboot.Session → Reboot.Session) (world : World) :
    world.SparesNode (world.abortAttempt.withSession change) := by
  simp [SparesNode]

theorem andThen {π π' ρ ρ' : Type} {stage : Stage π ρ} {wrap : π → π'}
    {next : ρ → World → Stage π' ρ'} (part : before.SparesNode stage.world)
    (rest : ∀ result middle, SparesNode middle (next result middle).world) :
    before.SparesNode (stage.andThen wrap next).world := by
  cases stage with
  | pause point world => exact part
  | done result world => exact part.trans (rest result world)

end World.SparesNode

/-! ## Sessions are opened and closed -/

/-- A change of the record of reboot sessions after which the attempt that was held is over. -/
structure World.Resets (change : Reboot.Session → Reboot.Session) (before after : World) :
    Prop where
  session : after.node.session = change before.node.session
  agenda : after.agenda = before.agenda
  standing : after.node.standing = before.node.standing
  goesOn : GoesOn before.transfers after.transfers
  settled : ∀ number, before.node.session.attempt = some number → before.ConnectsOrEnded number →
    (after.outcome? number).isSome = true
  connections : after.connections ≤ before.connections

namespace World

variable (world : World)

theorem isSome_outcome?_abortAttempt {number : Nat}
    (held : world.node.session.attempt = some number) (stands : world.ConnectsOrEnded number) :
    (world.abortAttempt.outcome? number).isSome = true := by
  rcases stands with ⟨transfer, found, _⟩ | ended
  · simp [abortAttempt, held, abort, outcome?, found]
  · rcases Option.isSome_iff_exists.mp ended with ⟨outcome, known⟩
    simp [world.goesOn_abortAttempt.outcome?_eq known]

namespace Resets

variable {change : Reboot.Session → Reboot.Session} {before middle after : World}

theorem abortAttempt (change : Reboot.Session → Reboot.Session) (world : World) :
    world.Resets change (world.abortAttempt.withSession change) := by
  constructor
  · simp
  · simp
  · simp [Node.standing]
  · exact world.goesOn_abortAttempt
  · intro number held stands
    exact world.isSome_outcome?_abortAttempt held stands
  · exact world.connections_abortAttempt

theorem of_quiet (earlier : before.Quiet middle) (later : middle.Resets change after) :
    before.Resets change after := by
  refine ⟨?_, later.agenda.trans earlier.agenda, later.standing.trans earlier.standing,
    earlier.goesOn.trans later.goesOn, ?_, earlier.connections ▸ later.connections⟩
  · rw [later.session, earlier.session]
  · intro number held stands
    exact later.settled number (earlier.session ▸ held) (earlier.goesOn.connectsOrEnded stands)

theorem quiet (earlier : before.Resets change middle) (later : middle.Quiet after) :
    before.Resets change after := by
  refine ⟨later.session.trans earlier.session, later.agenda.trans earlier.agenda,
    later.standing.trans earlier.standing, earlier.goesOn.trans later.goesOn, ?_,
    later.connections ▸ earlier.connections⟩
  intro number held stands
  rcases Option.isSome_iff_exists.mp (earlier.settled number held stands) with ⟨outcome, known⟩
  simp [later.goesOn.outcome?_eq known]

end Resets

/-! ## Attempts are started -/

/-- The start of an attempt to connect, which gets a number that the session then holds. -/
structure Attempts (session attempt : Nat) (before after : World) : Prop where
  record : after.node.session = { before.node.session with attempt := some attempt }
  agenda : ∃ now delay, after.agenda = before.agenda.schedule now delay session
  standing : after.node.standing = before.node.standing
  kept : ∀ number outcome, before.outcome? number = some outcome →
    after.outcome? number = some outcome
  added : ∀ number, after.IsConnecting number → number = attempt ∨ before.IsConnecting number
  stands : after.ConnectsOrEnded attempt
  connections : after.connections = before.connections + 1

theorem Attempts.of_quiet {session attempt : Nat} {before middle after : World}
    (earlier : before.Quiet middle) (later : middle.Attempts session attempt after) :
    before.Attempts session attempt after := by
  refine ⟨?_, ?_, later.standing.trans earlier.standing, ?_, ?_, later.stands,
    earlier.connections ▸ later.connections⟩
  · rw [later.record, earlier.session]
  · rcases later.agenda with ⟨now, delay, scheduled⟩
    exact ⟨now, delay, by rw [scheduled, earlier.agenda]⟩
  · intro number outcome known
    exact later.kept number outcome (earlier.goesOn.outcome?_eq known)
  · intro number connecting
    exact (later.added number connecting).imp_right earlier.goesOn.isConnecting

theorem reachEndpoint_eq (explicit : Bool) :
    (world.reachEndpoint explicit).2.node = world.node ∧
      (world.reachEndpoint explicit).2.agenda = world.agenda ∧
      (world.reachEndpoint explicit).2.transfers = world.transfers ∧
      ((world.reachEndpoint explicit).1 = .hanging ∨
        ∃ outcome, (world.reachEndpoint explicit).1 = .finished outcome) := by
  simp only [reachEndpoint]
  rcases world.endpoint.connect with ⟨_ | outcome, endpoint⟩
  · exact ⟨rfl, rfl, rfl, .inl rfl⟩
  · exact ⟨rfl, rfl, rfl, .inr ⟨outcome, rfl⟩⟩

/-- A connection gets the next number. It is under way, or it has ended at once. -/
theorem startConnection_eq (explicit : Bool) :
    (world.startConnection explicit).1 = world.transfers.length ∧
      (world.startConnection explicit).2.node = world.node ∧
      (world.startConnection explicit).2.agenda = world.agenda ∧
      ∃ transfer : Transfer,
        (world.startConnection explicit).2.transfers = world.transfers ++ [transfer] ∧
        (transfer.isConnecting = true ∨ transfer.outcome?.isSome = true) := by
  simp only [startConnection]
  split
  · rcases world.reachEndpoint_eq explicit with ⟨node, agenda, transfers, reached⟩
    refine ⟨by simp [addTransfer, transfers], by simp [addTransfer, node],
      by simp [addTransfer, agenda], (world.reachEndpoint explicit).1,
      by simp [addTransfer, transfers], ?_⟩
    rcases reached with hanging | ⟨outcome, finished⟩
    · exact .inl (by rw [hanging]; rfl)
    · exact .inr (by rw [finished]; rfl)
  · exact ⟨rfl, rfl, rfl, _, rfl, .inl rfl⟩

theorem outcome?_append {transfer : Transfer} {after : World}
    (appended : after.transfers = world.transfers ++ [transfer]) {number : Nat}
    {outcome : Link.Outcome} (known : world.outcome? number = some outcome) :
    after.outcome? number = some outcome := by
  rcases Option.bind_eq_some_iff.mp known with ⟨old, found, ended⟩
  have inside : number < world.transfers.length := (List.getElem?_eq_some_iff.mp found).1
  simp [outcome?, appended, List.getElem?_append_left inside, found, ended]

theorem attempts_startConnection (session delay : Nat) (explicit : Bool) :
    world.Attempts session (world.startConnection explicit).1
      ((((world.startConnection explicit).2.note (.attemptStarted session)).withSession
        fun record => { record with attempt := some (world.startConnection explicit).1 })
        |>.scheduleMonitor session delay) := by
  rcases world.startConnection_eq explicit with ⟨number, node, agenda, transfer, transfers, stands⟩
  constructor
  · simp [node]
  · exact ⟨_, delay, by simp [agenda]; rfl⟩
  · simp [node, Node.standing]
  · intro other outcome known
    exact world.outcome?_append transfers known
  · rintro other ⟨later, found, connecting⟩
    simp only [frame_scheduleMonitor, frame_withSession, frame_note, transfers] at found
    rcases Nat.lt_trichotomy other world.transfers.length with below | same | beyond
    · rw [List.getElem?_append_left below] at found
      exact .inr ⟨later, found, connecting⟩
    · exact .inl (same.trans number.symm)
    · rw [List.getElem?_eq_none (by simp; omega)] at found
      cases found
  · rw [number]
    rcases stands with connecting | ended
    · exact .inl ⟨transfer, by simp [transfers], connecting⟩
    · exact .inr (by simp [outcome?, transfers, ended])
  · exact world.connections_startConnection explicit

end World

end BuildAgent
