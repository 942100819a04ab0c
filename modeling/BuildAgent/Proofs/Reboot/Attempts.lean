import BuildAgent.Node.Rebooting

/-!
# How many attempts a reboot makes

The attempts to connect follow scripts, and succeed when there are no more of them. The policy goes
on while attempts fail to launch and its limit is not reached, so both the number of attempts and
the outcome of the session are functions of the scripts and the policy: `Policy.attempts` and
`Policy.verdict`. They are put together here from the single decisions, which see no more than one
attempt and the count of failures before it. The count stops at the largest number of 32 bits; a
limit is no larger, so a count that has stopped has used the limit up.
-/

namespace BuildAgent

namespace ConnectScript

/-- The offline cause that an attempt with the script leaves, if it fails. -/
def cause? : ConnectScript → Option OfflineCause
  | launchFail reason => some (.launchFailed reason)
  | fail cause => some cause
  | _ => none

/-- Whether an attempt with the script ends in a failed launch. -/
def isLaunchFailing : ConnectScript → Bool
  | launchFail _ => true
  | fail cause => cause.isLaunchFailure
  | _ => false

/-- The position, counted from one, of the first attempt that does not fail to launch. Attempts
succeed once there are no more scripts. -/
def firstLaunch (scripts : List ConnectScript) : Nat :=
  (scripts.takeWhile isLaunchFailing).length + 1

/-- How an attempt ends the session if it does not fail to launch. -/
def ending : ConnectScript → LookOutcome
  | fail cause => .abandoned (.nonRetryable (some cause))
  | _ => .online

theorem isLaunchFailing_before {scripts : List ConnectScript} {position : Nat}
    (before : position + 1 < firstLaunch scripts) :
    (scripts.getD position .succeed).isLaunchFailing = true := by
  induction scripts generalizing position with
  | nil => simp [firstLaunch] at before
  | cons script rest ih =>
      simp only [firstLaunch, List.takeWhile_cons] at before ih
      split at before
      · rename_i failing
        cases position with
        | zero => simpa using failing
        | succ position =>
            simp only [List.length_cons] at before
            simpa using ih (by omega)
      · simp at before

theorem isLaunchFailing_first (scripts : List ConnectScript) :
    (scripts.getD (firstLaunch scripts - 1) .succeed).isLaunchFailing = false := by
  induction scripts with
  | nil => rfl
  | cons script rest ih =>
      simp only [firstLaunch, List.takeWhile_cons] at ih ⊢
      split
      · simpa using ih
      · rename_i launches
        simpa using launches

end ConnectScript

/-- How a look ends the session, if the decision ends it. -/
def Reboot.Decision.verdict? : Reboot.Decision → Option LookOutcome
  | online => some .online
  | abandon reason => some (.abandoned reason)
  | _ => none

namespace Reboot.Policy

/-- The failed launches after which the node is given up, which can only be after one at least. -/
def budget? (policy : Policy) : Option Nat :=
  policy.maxLaunchFailures.map fun limit => max limit 1

/-- The number of attempts that a reboot makes. -/
def attempts (policy : Policy) (scripts : List ConnectScript) : Nat :=
  match policy.budget? with
  | some budget => min (ConnectScript.firstLaunch scripts) budget
  | none => ConnectScript.firstLaunch scripts

/-- How a reboot ends: the budget is used up before an attempt launches, or that attempt decides. -/
def verdict (policy : Policy) (scripts : List ConnectScript) : LookOutcome :=
  let first := ConnectScript.firstLaunch scripts
  let launched := (scripts.getD (first - 1) .succeed).ending
  match policy.budget? with
  | some budget =>
    if budget < first then .abandoned (.launchBudgetExhausted budget) else launched
  | none => launched

theorem attempts_pos (policy : Policy) (scripts : List ConnectScript) :
    0 < policy.attempts scripts := by
  simp only [attempts, budget?]
  rcases policy.maxLaunchFailures with _ | limit
  · simp [ConnectScript.firstLaunch]
  · simp only [Option.map_some, ConnectScript.firstLaunch]
    omega

/-- What the policy makes of an attempt that followed a script. -/
theorem decide_attempted (policy : Policy) (script : ConnectScript) (cause : Option OfflineCause)
    (failures : Nat) :
    policy.decide (.attemptFinished script.cause?.isNone (script.cause?.or cause)) failures =
      if script.isLaunchFailing then
        if policy.isExhausted (countFailure failures) then
          .abandon (.launchBudgetExhausted (countFailure failures))
        else .retryLaunch policy.initialDelay
      else
        match script with
        | .fail cause => .abandon (.nonRetryable (some cause))
        | _ => .online := by
  cases script with
  | fail cause => cases cause <;> rfl
  | _ => rfl

theorem verdict?_ending {script : ConnectScript} (launches : script.isLaunchFailing = false)
    (policy : Policy) (cause : Option OfflineCause) (failures : Nat) :
    (policy.decide (.attemptFinished script.cause?.isNone (script.cause?.or cause))
      failures).verdict? = some script.ending := by
  rw [decide_attempted, if_neg (by simp [launches])]
  cases script <;> rfl

/-- The attempts before the last one failed to launch, and each time the policy had some left. -/
theorem retries_of_lt {policy : Policy} {scripts : List ConnectScript} {retries : Nat}
    (before : retries + 1 < policy.attempts scripts) :
    (scripts.getD retries .succeed).isLaunchFailing = true ∧
      policy.isExhausted (countFailure (min retries Text.Decimal.largest32)) = false := by
  simp only [attempts, budget?] at before
  rcases limited : policy.maxLaunchFailures with _ | limit
  · simp only [limited, Option.map_none] at before
    exact ⟨ConnectScript.isLaunchFailing_before before, by simp [isExhausted, limited]⟩
  · simp only [limited, Option.map_some] at before
    refine ⟨ConnectScript.isLaunchFailing_before (by omega), ?_⟩
    simp only [isExhausted, limited, countFailure]
    exact decide_eq_false (by omega)

/-- The last attempt ends the session. -/
theorem verdict?_last {policy : Policy} {scripts : List ConnectScript} {retries : Nat}
    (last : retries + 1 = policy.attempts scripts)
    (small : ∀ limit, policy.maxLaunchFailures = some limit → limit ≤ Text.Decimal.largest32)
    (cause : Option OfflineCause) :
    (policy.decide (.attemptFinished (scripts.getD retries .succeed).cause?.isNone
      ((scripts.getD retries .succeed).cause?.or cause))
        (min retries Text.Decimal.largest32)).verdict? = some (policy.verdict scripts) := by
  have launches : ConnectScript.firstLaunch scripts = retries + 1 →
      (scripts.getD retries .succeed).isLaunchFailing = false := by
    intro first
    simpa [first] using ConnectScript.isLaunchFailing_first scripts
  simp only [attempts, budget?] at last
  simp only [verdict, budget?]
  rcases limited : policy.maxLaunchFailures with _ | limit
  · simp only [limited, Option.map_none] at last ⊢
    rw [verdict?_ending (launches last.symm), ← last, Nat.add_sub_cancel]
  · simp only [limited, Option.map_some] at last ⊢
    rcases Nat.lt_or_ge (max limit 1) (ConnectScript.firstLaunch scripts) with exceeded | reached
    · have failing : (scripts.getD retries .succeed).isLaunchFailing = true :=
        ConnectScript.isLaunchFailing_before (by omega)
      have counted : countFailure (min retries Text.Decimal.largest32) = max limit 1 := by
        have bound := small limit limited
        have positive : 1 ≤ Text.Decimal.largest32 := by decide
        simp only [countFailure]
        omega
      have exhausted : policy.isExhausted (max limit 1) = true := by
        simp only [isExhausted, limited]
        exact decide_eq_true (Nat.le_max_left limit 1)
      rw [decide_attempted, if_pos failing, counted, if_pos exhausted, if_pos exceeded]
      rfl
    · have first : ConnectScript.firstLaunch scripts = retries + 1 := by omega
      rw [verdict?_ending (launches first), if_neg (by omega), first, Nat.add_sub_cancel]

end Reboot.Policy

end BuildAgent
