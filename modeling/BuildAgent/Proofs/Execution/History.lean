import BuildAgent.Proofs.Execution.Acting

/-!
# Histories

Whatever can be seen of a move in the execution that it is made in can be collected while a list of
moves is made. That is a history, the earliest sight first. A law about the entries of a history
and their order becomes a law about executions where the moves are split at an entry
(`Execution.history_eq_append`): what comes before the entry is the history of the moves before it,
and what comes after it the history of the moves after it.
-/

namespace BuildAgent.Execution

variable {α : Type} {see : Execution → Move → Option α} {execution : Execution}

/-- What is seen of the moves of a list while they are made, the earliest first. -/
def history (see : Execution → Move → Option α) (execution : Execution) : List Move → List α
  | [] => []
  | move :: moves => (see execution move).toList ++ (execution.apply move).history see moves

theorem history_append (earlier later : List Move) :
    execution.history see (earlier ++ later) =
      execution.history see earlier ++ (execution.run earlier).history see later := by
  induction earlier generalizing execution with
  | nil => rfl
  | cons move moves hypothesis =>
      simp only [List.cons_append, history, hypothesis, List.append_assoc]
      rfl

theorem history_concat (moves : List Move) (move : Move) :
    execution.history see (moves ++ [move]) =
      execution.history see moves ++ (see (execution.run moves) move).toList := by
  simp [history_append, history]

/-- The move that an entry is seen of, and what came before and after it. -/
theorem history_eq_append {moves : List Move} {before after : List α} {entry : α}
    (split : execution.history see moves = before ++ entry :: after) :
    ∃ earlier move later, moves = earlier ++ move :: later ∧
      execution.history see earlier = before ∧ see (execution.run earlier) move = some entry ∧
      ((execution.run earlier).apply move).history see later = after := by
  induction moves generalizing execution before with
  | nil => simp [history] at split
  | cons first moves hypothesis =>
      rcases seen : see execution first with _ | own
      · simp only [history, seen, Option.toList_none, List.nil_append] at split
        rcases hypothesis split with ⟨earlier, move, later, rfl, same, found, rest⟩
        refine ⟨first :: earlier, move, later, rfl, ?_, found, rest⟩
        simpa only [history, seen, Option.toList_none, List.nil_append] using same
      · simp only [history, seen, Option.toList_some, List.singleton_append] at split
        cases before with
        | nil =>
            simp only [List.nil_append, List.cons.injEq] at split
            rcases split with ⟨rfl, rfl⟩
            exact ⟨[], first, moves, rfl, rfl, seen, rfl⟩
        | cons head others =>
            simp only [List.cons_append, List.cons.injEq] at split
            rcases split with ⟨rfl, split⟩
            rcases hypothesis split with ⟨earlier, move, later, rfl, same, found, rest⟩
            refine ⟨first :: earlier, move, later, rfl, ?_, found, rest⟩
            simp only [history, seen, Option.toList_some, List.singleton_append, same]

end BuildAgent.Execution
