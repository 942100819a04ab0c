import BuildAgent.Node.World
import Mathlib.Logic.Relation
import Mathlib.Tactic.ByContra

/-!
# How work on the link goes on

A transfer is never taken out of a world, and it changes in one direction only: a connection that is
under way may reach the endpoint, and whatever is under way may end or be broken off. `GoesOn` says
this of all transfers together. It also says that no connection was started in between, so it holds
of every step but the start of an attempt.
-/

namespace BuildAgent

namespace Transfer

/-- Whether the work is an attempt to connect that has neither finished nor been broken off. -/
def isConnecting : Transfer → Bool
  | dialing .. => true
  | hanging => true
  | _ => false

/-- What time does to one piece of work: an end stays, and a connection stays one until it ends. -/
structure Advances (before after : Transfer) : Prop where
  ended : ∀ outcome, before.outcome? = some outcome → after.outcome? = some outcome
  connecting : after.isConnecting = true → before.isConnecting = true
  settled : before.isConnecting = true → after.isConnecting = true ∨ after.outcome?.isSome = true

theorem Advances.refl (transfer : Transfer) : transfer.Advances transfer :=
  ⟨fun _ ended => ended, id, Or.inl⟩

theorem Advances.trans {first second third : Transfer} (earlier : first.Advances second)
    (later : second.Advances third) : first.Advances third := by
  refine ⟨fun outcome ended => later.ended outcome (earlier.ended outcome ended),
    fun connecting => earlier.connecting (later.connecting connecting), ?_⟩
  intro connecting
  rcases earlier.settled connecting with still | finished
  · exact later.settled still
  · right
    rcases Option.isSome_iff_exists.mp finished with ⟨outcome, ended⟩
    simp [later.ended outcome ended]

/-- To break work off ends it, unless it has ended. -/
theorem abort_eq (transfer : Transfer) :
    transfer.abort = if transfer.outcome?.isNone then aborted else transfer := by
  cases transfer <;> rfl

theorem advances_abort (transfer : Transfer) : transfer.Advances transfer.abort := by
  cases transfer <;> constructor <;> simp [outcome?, isConnecting, abort]

theorem advances_of_dialing {explicit : Bool} {due : Nat} {after : Transfer}
    (reached : after = .hanging ∨ ∃ outcome, after = .finished outcome) :
    (dialing explicit due).Advances after := by
  rcases reached with rfl | ⟨outcome, rfl⟩ <;> constructor <;> simp [outcome?, isConnecting]

theorem advances_of_closing (outcome : Link.Outcome) (due : Nat) :
    (closing outcome due).Advances (.finished outcome) := by
  constructor <;> simp [outcome?, isConnecting]

@[simp]
theorem isConnecting_abort (transfer : Transfer) : transfer.abort.isConnecting = false := by
  cases transfer <;> rfl

@[simp]
theorem isSome_outcome?_abort (transfer : Transfer) : transfer.abort.outcome?.isSome = true := by
  cases transfer <;> rfl

theorem isConnecting_eq_false_of_outcome? {transfer : Transfer} {outcome : Link.Outcome}
    (ended : transfer.outcome? = some outcome) : transfer.isConnecting = false := by
  cases transfer <;> simp_all [outcome?, isConnecting]

end Transfer

/-- Every transfer has at most gone on, and no connection was added. -/
structure GoesOn (before after : List Transfer) : Prop where
  kept : ∀ (number : Nat) (transfer : Transfer), before[number]? = some transfer →
    ∃ later, after[number]? = some later ∧ transfer.Advances later
  added : ∀ (number : Nat) (transfer : Transfer), before.length ≤ number →
    after[number]? = some transfer → transfer.isConnecting = false

namespace GoesOn

theorem refl (transfers : List Transfer) : GoesOn transfers transfers := by
  refine ⟨fun number transfer found => ⟨transfer, found, .refl transfer⟩, ?_⟩
  intro number transfer beyond found
  rw [List.getElem?_eq_none beyond] at found
  cases found

theorem trans {first second third : List Transfer} (earlier : GoesOn first second)
    (later : GoesOn second third) : GoesOn first third := by
  constructor
  · intro number transfer found
    rcases earlier.kept number transfer found with ⟨middle, foundMiddle, toMiddle⟩
    rcases later.kept number middle foundMiddle with ⟨last, foundLast, toLast⟩
    exact ⟨last, foundLast, toMiddle.trans toLast⟩
  · intro number transfer beyond found
    rcases middle_eq : second[number]? with _ | middle
    · exact later.added number transfer (List.getElem?_eq_none_iff.mp middle_eq) found
    · rcases later.kept number middle middle_eq with ⟨last, foundLast, toLast⟩
      rw [found] at foundLast
      cases foundLast
      have resting := earlier.added number middle beyond middle_eq
      by_contra connecting
      simp [toLast.connecting (by simpa using connecting)] at resting

theorem append_of_resting {transfers : List Transfer} {transfer : Transfer}
    (resting : transfer.isConnecting = false) : GoesOn transfers (transfers ++ [transfer]) := by
  constructor
  · intro number old found
    exact ⟨old, List.getElem?_append_left (List.getElem?_eq_some_iff.mp found).1 ▸ found,
      .refl old⟩
  · intro number new beyond found
    rw [List.getElem?_append_right beyond] at found
    rcases number_eq : number - transfers.length with _ | rest
    · simp only [number_eq, List.getElem?_cons_zero, Option.some.injEq] at found
      exact found ▸ resting
    · simp [number_eq] at found

theorem of_set {transfers : List Transfer} {number : Nat} {transfer later : Transfer}
    (found : transfers[number]? = some transfer) (advances : transfer.Advances later) :
    GoesOn transfers (transfers.set number later) := by
  have inside : number < transfers.length := (List.getElem?_eq_some_iff.mp found).1
  constructor
  · intro other old foundOther
    by_cases same : number = other
    · subst same
      rw [found] at foundOther
      cases foundOther
      exact ⟨later, by simp [inside], advances⟩
    · exact ⟨old, by rw [List.getElem?_set_ne same]; exact foundOther, .refl old⟩
  · intro other new beyond foundOther
    rw [List.getElem?_set_ne (by omega), List.getElem?_eq_none beyond] at foundOther
    cases foundOther

theorem modify_abort (transfers : List Transfer) (number : Nat) :
    GoesOn transfers (transfers.modify number Transfer.abort) := by
  constructor
  · intro other old found
    by_cases same : number = other
    · subst same
      exact ⟨old.abort, by simp [found], old.advances_abort⟩
    · exact ⟨old, by simp [same, found], .refl old⟩
  · intro other new beyond found
    rw [List.getElem?_eq_none (by simpa using beyond)] at found
    cases found

end GoesOn

namespace World

/-- Whether a transfer is an attempt to connect that is still under way. -/
def IsConnecting (world : World) (number : Nat) : Prop :=
  ∃ transfer, world.transfers[number]? = some transfer ∧ transfer.isConnecting = true

/-- Whether a transfer is an attempt to connect that is under way, or has come to its end. -/
def ConnectsOrEnded (world : World) (number : Nat) : Prop :=
  world.IsConnecting number ∨ (world.outcome? number).isSome = true

theorem not_isConnecting_of_outcome? {world : World} {number : Nat} {outcome : Link.Outcome}
    (ended : world.outcome? number = some outcome) : ¬world.IsConnecting number := by
  rintro ⟨transfer, found, connecting⟩
  simp only [World.outcome?, found, Option.bind_some] at ended
  simp [Transfer.isConnecting_eq_false_of_outcome? ended] at connecting

end World

namespace GoesOn

variable {before after : World}

theorem isConnecting {number : Nat} (goesOn : GoesOn before.transfers after.transfers)
    (connecting : after.IsConnecting number) : before.IsConnecting number := by
  rcases connecting with ⟨later, foundLater, connecting⟩
  rcases old_eq : before.transfers[number]? with _ | old
  · have resting := goesOn.added number later (List.getElem?_eq_none_iff.mp old_eq) foundLater
    simp [resting] at connecting
  · rcases goesOn.kept number old old_eq with ⟨last, foundLast, advances⟩
    rw [foundLater] at foundLast
    cases foundLast
    exact ⟨old, old_eq, advances.connecting connecting⟩

theorem outcome?_eq {number : Nat} {outcome : Link.Outcome}
    (goesOn : GoesOn before.transfers after.transfers)
    (ended : before.outcome? number = some outcome) : after.outcome? number = some outcome := by
  rcases Option.bind_eq_some_iff.mp ended with ⟨old, found, known⟩
  rcases goesOn.kept number old found with ⟨later, foundLater, advances⟩
  simp [World.outcome?, foundLater, advances.ended outcome known]

theorem connectsOrEnded {number : Nat} (goesOn : GoesOn before.transfers after.transfers)
    (stands : before.ConnectsOrEnded number) : after.ConnectsOrEnded number := by
  rcases stands with ⟨old, found, connecting⟩ | ended
  · rcases goesOn.kept number old found with ⟨later, foundLater, advances⟩
    rcases advances.settled connecting with still | finished
    · exact .inl ⟨later, foundLater, still⟩
    · exact .inr (by simpa [World.outcome?, foundLater] using finished)
  · rcases Option.isSome_iff_exists.mp ended with ⟨outcome, known⟩
    exact .inr (by simp [goesOn.outcome?_eq known])

end GoesOn

end BuildAgent
