import BuildAgent.Reboot.Policy

/-!
# What the reboot policy decides

The policy gives a session up without an attempt for two reasons only: the instance is gone, or the
node shows another cause. Once an attempt has ended without a channel, it launches again or gives
up.
-/

namespace BuildAgent.Reboot

variable {policy : Policy} {observation : Observation} {failures : Nat} {reason : AbandonReason}

/-- Without a channel the session is given another launch, or given up. -/
theorem Policy.decide_of_absent (policy : Policy) (cause : Option OfflineCause) (failures : Nat) :
    policy.decide (.attemptFinished false cause) failures = .retryLaunch policy.initialDelay ∨
      ∃ reason, policy.decide (.attemptFinished false cause) failures = .abandon reason ∧
        reason ≠ .instanceGone ∧ reason ≠ .noLongerRebooting := by
  simp only [decide]
  split
  · split
    · exact .inr ⟨_, rfl, nofun, nofun⟩
    · exact .inl rfl
  · exact .inr ⟨_, rfl, nofun, nofun⟩

/-- What the policy saw where it gives one of the two reasons. -/
theorem Policy.idle_of_abandon (decided : policy.decide observation failures = .abandon reason) :
    (reason = .instanceGone → ∃ stillRebooting, observation = .idle false stillRebooting) ∧
      (reason = .noLongerRebooting → observation = .idle true false) := by
  cases observation with
  | idle alive stillRebooting =>
      cases alive with
      | false =>
          cases decided
          exact ⟨fun _ => ⟨stillRebooting, rfl⟩, nofun⟩
      | true =>
          cases stillRebooting with
          | false =>
              cases decided
              exact ⟨nofun, fun _ => rfl⟩
          | true => cases decided
  | attemptPending => cases decided
  | attemptFinished channelPresent ended =>
      cases channelPresent with
      | true => cases decided
      | false =>
          rcases policy.decide_of_absent ended failures with retried | ⟨other, given, gone, changed⟩
          · rw [retried] at decided
            cases decided
          · rw [given] at decided
            cases decided
            exact ⟨fun same => absurd same gone, fun same => absurd same changed⟩

end BuildAgent.Reboot
