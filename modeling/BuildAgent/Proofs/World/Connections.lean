import BuildAgent.Node.Happening
import BuildAgent.Proofs.World.Deed

/-!
# Connections that are made

The endpoint counts the connections that reach it. One that takes time reaches it only when it is
due, and never if it is broken off before. `World.connections` counts the connections that have
reached the endpoint together with those that are to reach it, so it goes up by one when a
connection is started (`World.connections_startConnection`), stays when one reaches the endpoint
(`World.connections_bringOn`), and goes down only when one is broken off. No deed changes it
(`World.Through.connections_eq`).
-/

namespace BuildAgent

/-- Whether the work is a connection that has not reached the endpoint. -/
def Transfer.isDialing : Transfer → Bool
  | dialing .. => true
  | _ => false

/-- A connection is counted, and leaves the temporarily-offline flag as it is. -/
theorem Endpoint.counted_connect (endpoint : Endpoint) :
    endpoint.connect.2.connectCalls = endpoint.connectCalls + 1 ∧
      endpoint.connect.2.temporarilyOffline = endpoint.temporarilyOffline := by
  simp only [connect]
  split <;> exact ⟨rfl, rfl⟩

/-- To break work off makes no connection out of it. -/
theorem Transfer.countP_modify_abort (transfers : List Transfer) (number : Nat) :
    (transfers.modify number abort).countP isDialing ≤ transfers.countP isDialing := by
  induction transfers generalizing number with
  | nil => simp
  | cons first rest hypothesis =>
      cases number with
      | zero =>
          have ended : first.abort.isDialing = false := by cases first <;> rfl
          simp [List.countP_cons, ended]
      | succ number => simpa [List.countP_cons] using hypothesis number

/-- Work that is replaced by what is no connection any more is counted no longer. -/
theorem Transfer.countP_set {transfers : List Transfer} {number : Nat} {transfer next : Transfer}
    (found : transfers[number]? = some transfer) (reached : next.isDialing = false) :
    (transfers.set number next).countP isDialing + transfer.isDialing.toNat =
      transfers.countP isDialing := by
  rcases List.getElem?_eq_some_iff.mp found with ⟨inside, rfl⟩
  rw [List.countP_set inside, reached]
  rcases dialing : transfers[number].isDialing with _ | _
  · rfl
  · have counted : 0 < transfers.countP isDialing :=
      List.countP_pos_iff.mpr ⟨_, List.getElem_mem inside, dialing⟩
    simp only [if_true, Bool.false_eq_true, if_false, Bool.toNat_true]
    omega

namespace World

/-- The connections that have reached the endpoint or are to reach it. -/
def connections (world : World) : Nat :=
  world.endpoint.connectCalls + world.transfers.countP Transfer.isDialing

theorem connections_congr {before after : World}
    (calls : after.endpoint.connectCalls = before.endpoint.connectCalls)
    (transfers : after.transfers = before.transfers) : after.connections = before.connections := by
  rw [connections, connections, calls, transfers]

variable (world : World)

theorem connections_withAgenda (delay : Option Nat) (agenda : Schedule.Agenda) :
    (world.withAgenda delay agenda).connections = world.connections := by
  rcases world.frame_withAgenda delay agenda with ⟨_, endpoint, transfers, _⟩
  exact connections_congr (congrArg Endpoint.connectCalls endpoint) transfers

theorem connections_takeOffline (cause : OfflineCause) :
    (world.takeOffline cause).connections = world.connections := by
  simp only [takeOffline]
  split <;> rfl

theorem connections_bringOnline : world.bringOnline.connections = world.connections := by
  simp only [bringOnline]
  split <;> rfl

theorem connections_startTeardown (cause : Option OfflineCause) :
    (world.startTeardown cause).2.connections = world.connections := by
  simp only [startTeardown]
  split <;> simp [connections, addTransfer, Endpoint.teardown, Transfer.isDialing]

theorem connections_abortAttempt : world.abortAttempt.connections ≤ world.connections := by
  simp only [abortAttempt]
  split
  · exact Nat.add_le_add_left (Transfer.countP_modify_abort world.transfers _) _
  · exact Nat.le_refl _

/-! ## Connections are started, and reach the endpoint -/

/-- A connection that reaches the endpoint is known by its outcome, if it has one. -/
theorem reachEndpoint_cases (explicit : Bool) :
    (world.reachEndpoint explicit).1 = world.endpoint.connect.1.elim .hanging .finished ∧
      (world.reachEndpoint explicit).2.endpoint = world.endpoint.connect.2 ∧
      (world.reachEndpoint explicit).2.transfers = world.transfers := by
  rcases connected : world.endpoint.connect with ⟨_ | outcome, endpoint⟩
  · simp [reachEndpoint, connected]
  · simp [reachEndpoint, connected]

/-- A connection waits for its latency, or reaches the endpoint at once. -/
theorem startConnection_cases (explicit : Bool) :
    (∃ delay rest, world.latencies.connect = delay :: rest ∧
      (world.startConnection explicit).2.endpoint = world.endpoint ∧
      (world.startConnection explicit).2.transfers =
        world.transfers ++ [.dialing explicit (world.clock + delay)]) ∨
    (world.latencies.connect = [] ∧
      (world.startConnection explicit).2.endpoint = world.endpoint.connect.2 ∧
      (world.startConnection explicit).2.transfers =
        world.transfers ++ [world.endpoint.connect.1.elim .hanging .finished]) := by
  rcases waits : world.latencies.connect with _ | ⟨delay, rest⟩
  · rcases world.reachEndpoint_cases explicit with ⟨transfer, endpoint, transfers⟩
    rw [startConnection, waits]
    refine .inr ⟨rfl, endpoint, ?_⟩
    simp only [addTransfer, transfer, transfers]
  · rw [startConnection, waits]
    exact .inl ⟨delay, rest, rfl, rfl, rfl⟩

theorem isDialing_reached (outcome : Option Link.Outcome) :
    (outcome.elim .hanging Transfer.finished).isDialing = false := by
  cases outcome <;> rfl

/-- A connection that is started is one more. -/
theorem connections_startConnection (explicit : Bool) :
    (world.startConnection explicit).2.connections = world.connections + 1 := by
  rcases world.startConnection_cases explicit with
    ⟨delay, rest, _, endpoint, transfers⟩ | ⟨_, endpoint, transfers⟩
  · rw [connections, endpoint, transfers, List.countP_append]
    rfl
  · rw [connections, endpoint, transfers, List.countP_append, world.endpoint.counted_connect.1,
      List.countP_singleton, isDialing_reached, connections]
    simp only [Bool.false_eq_true, if_false]
    omega

/-- A connection that reaches the endpoint was counted before. -/
theorem connections_bringOn (number : Nat) :
    (world.bringOn number).connections = world.connections := by
  simp only [bringOn]
  split
  · rename_i explicit due found
    split
    · rcases world.reachEndpoint_cases explicit with ⟨transfer, endpoint, transfers⟩
      have counted := Transfer.countP_set found (isDialing_reached world.endpoint.connect.1)
      simp only [connections, setTransfer, transfer, endpoint, transfers,
        world.endpoint.counted_connect.1]
      simp only [Transfer.isDialing, Bool.toNat_true] at counted
      omega
    · rfl
  · rename_i outcome due found
    split
    · have reached : (Transfer.finished outcome).isDialing = false := rfl
      have counted := Transfer.countP_set found reached
      exact congrArg (world.endpoint.connectCalls + ·) counted
    · rfl
  · rfl

end World

/-! ## Deeds and what happens from outside -/

theorem Deed.connections_apply (deed : Deed) (world : World) :
    (deed.apply world).connections = world.connections := by
  cases deed with
  | tearDown cause => exact world.connections_startTeardown cause
  | _ => exact World.connections_congr (by simp [apply, Endpoint.requestShutdown]) (by simp [apply])

theorem World.Through.connections_eq {permits : Deed → Prop} {before after : World}
    (through : before.Through permits after) : after.connections = before.connections :=
  through.view_eq World.connections fun deed world _ => deed.connections_apply world

/-- Whether somebody connects the endpoint by hand. -/
def Happening.isConnect : Happening → Bool
  | connect _ => true
  | _ => false

theorem Happening.connections_apply (happening : Happening) (world : World) :
    (happening.apply world).connections = world.connections + happening.isConnect.toNat := by
  cases happening with
  | connect explicit =>
      rcases world.reachEndpoint_cases explicit with ⟨_, endpoint, transfers⟩
      simp only [apply, World.connections, endpoint, transfers, world.endpoint.counted_connect.1,
        isConnect, Bool.toNat_true]
      omega
  | _ =>
      refine World.connections_congr ?_ ?_ <;>
        simp [apply, World.withProvider, World.withEndpoint, World.withLatencies,
          World.tearDownDirectly, Endpoint.teardown, Endpoint.mark, Endpoint.requestShutdown]

end BuildAgent
