import Typeahead.Proofs.Index.Queue
import Typeahead.Proofs.Index.Trace

/-!
# The faults that a build carries

A fault that ends a build, or that it closes its feed for, has been raised by its
feed or by a flush, or it says that the build was cancelled (`Carries.move`,
`Carries.cancel`).  A build that is cancelled does nothing more but to close its
feed, and then says that it was cancelled (`IsCancelled.move`).
-/

namespace Typeahead.Index.Build

open Typeahead.Catalog Typeahead.Store

set_option autoImplicit false

variable {σ β : Type} [RankedStore σ β]

/-- The faults that a build carries with it, and the failure that is still to come from its feed,
have all been raised. -/
structure Carries (raised : BuildFault → Prop) (build : Build β) : Prop where
  failure : ∀ cause, build.failure = some cause → raised (.source cause)
  closing : ∀ steps fault, build.stage = .closing steps fault → raised fault
  finished : ∀ fault, build.stage = .finished (.failed fault) → raised fault

section Carried

variable {raised : BuildFault → Prop} {build : Build β}

/-- A build in a stage without a fault. -/
theorem Carries.of_stage {next : Build β} (carries : Carries raised build)
    (failure : next.failure = build.failure)
    (closing : ∀ steps fault, next.stage ≠ .closing steps fault)
    (finished : ∀ fault, next.stage ≠ .finished (.failed fault)) : Carries raised next where
  failure cause fails := carries.failure cause (failure ▸ fails)
  closing steps fault stage := (closing steps fault stage).elim
  finished fault stage := (finished fault stage).elim

/-- A build that ends with a fault. -/
theorem Carries.fail {next : Build β} {fault : BuildFault} (carries : Carries raised build)
    (failure : next.failure = build.failure) (stage : next.stage = .finished (.failed fault))
    (raises : raised fault) : Carries raised next where
  failure cause fails := carries.failure cause (failure ▸ fails)
  closing steps other closing := by
    rw [stage] at closing
    cases closing
  finished other finished := by
    rw [stage] at finished
    cases finished
    exact raises

/-- A build that closes its feed because of a fault. -/
theorem Carries.close {next : Build β} {fault : BuildFault} {steps : Nat}
    (carries : Carries raised build) (failure : next.failure = build.failure)
    (stage : next.stage = .closing steps fault) (raises : raised fault) : Carries raised next where
  failure cause fails := carries.failure cause (failure ▸ fails)
  closing left other closing := by
    rw [stage] at closing
    cases closing
    exact raises
  finished other finished := by
    rw [stage] at finished
    cases finished

theorem Carries.breakOff {fault : BuildFault} (carries : Carries raised build)
    (raises : raised fault) : Carries raised (build.breakOff σ fault) := by
  cases closing : build.closing with
  | zero =>
      have broken : build.breakOff σ fault = build.finish σ (.failed fault) := by
        simp only [Build.breakOff, closing]
      rw [broken]
      exact carries.fail rfl rfl raises
  | succ steps =>
      have broken : build.breakOff σ fault = { build with stage := .closing steps fault } := by
        simp only [Build.breakOff, closing]
      rw [broken]
      exact carries.close rfl rfl raises

/-- **Every fault that a move adds is the failure of the feed or the fault of a flush.** -/
theorem Carries.move {store after : σ} {next : Build β} (carries : Carries raised build)
    (flushes : ∀ (store : σ) (batch : β) (cause : FlushFault),
      (RankedStore.execute store batch).1 = .error cause → raised (.flush cause))
    (move : Move store build after next) : Carries raised next := by
  cases move with
  | pause stage _ => exact carries.of_stage rfl (by simp [stage]) (by simp [stage])
  | skip stage _ _ => exact carries.of_stage rfl (by simp [stage]) (by simp [stage])
  | ignore stage _ _ _ => exact carries.of_stage rfl (by simp [stage]) (by simp [stage])
  | queue stage _ _ _ =>
      refine carries.of_stage rfl ?_ ?_
      · intro steps fault
        dsimp only
        split <;> exact nofun
      · intro fault
        dsimp only
        split <;> exact nofun
  | endFeed stage _ _ => exact carries.of_stage rfl (by simp) (by simp)
  | failFeed stage _ fails => exact carries.fail rfl rfl (carries.failure _ fails)
  | flush stage _ => exact carries.of_stage rfl (by simp) (by simp)
  | failFlush stage failed =>
      have kept : Carries raised { build with writer := (build.writer.flush store).2.2 } :=
        carries.of_stage rfl (by simp [stage]) (by simp [stage])
      exact kept.breakOff (flushes _ _ _ (Writer.executed_eq_error failed))
  | endEmpty stage _ => exact carries.of_stage rfl (by simp) (by simp)
  | flushRest stage _ _ => exact carries.of_stage rfl (by simp) (by simp)
  | failRest stage _ failed =>
      exact carries.fail rfl rfl (flushes _ _ _ (Writer.executed_eq_error failed))
  | close stage => exact carries.close rfl rfl (carries.closing _ _ stage)
  | closed stage => exact carries.fail rfl rfl (carries.closing _ _ stage)
  | rest stage => exact carries

/-- The only fault that stopping a build adds is that it was cancelled. -/
theorem Carries.cancel (carries : Carries raised build) (raises : raised .cancelled) :
    Carries raised (build.cancel σ) := by
  cases stage : build.stage with
  | reading =>
      simp only [Build.cancel, stage]
      exact carries.breakOff raises
  | flushing =>
      simp only [Build.cancel, stage]
      exact carries.breakOff raises
  | flushingRest =>
      simp only [Build.cancel, stage]
      exact carries.fail rfl rfl raises
  | closing steps fault =>
      simp only [Build.cancel, stage]
      exact carries.close rfl rfl raises
  | finished ending =>
      simp only [Build.cancel, stage]
      exact carries

end Carried

/-- The build has been told to stop, and is on its way to say so. -/
def IsCancelled (build : Build β) : Prop :=
  (∃ steps, build.stage = .closing steps .cancelled) ∨
    build.stage = .finished (.failed .cancelled)

/-- A build that is not over obeys the order to stop. -/
theorem isCancelled_cancel {build : Build β} (going : build.ending? = none) :
    (build.cancel σ).IsCancelled := by
  have brokenOff : (build.breakOff σ .cancelled).IsCancelled := by
    cases closing : build.closing with
    | zero =>
        simp only [Build.breakOff, closing]
        exact .inr rfl
    | succ steps =>
        simp only [Build.breakOff, closing]
        exact .inl ⟨steps, rfl⟩
  cases stage : build.stage with
  | reading =>
      simp only [Build.cancel, stage]
      exact brokenOff
  | flushing =>
      simp only [Build.cancel, stage]
      exact brokenOff
  | flushingRest =>
      simp only [Build.cancel, stage]
      exact .inr rfl
  | closing steps fault =>
      simp only [Build.cancel, stage]
      exact .inl ⟨steps, rfl⟩
  | finished ending => simp [Build.ending?, stage] at going

/-- A build that has obeyed does nothing but to close its feed. -/
theorem IsCancelled.move {store after : σ} {build next : Build β} (cancelled : build.IsCancelled)
    (move : Move store build after next) : next.IsCancelled := by
  rcases cancelled with ⟨steps, closing⟩ | finished
  · cases move with
    | close stage =>
        rw [stage] at closing
        cases closing
        exact .inl ⟨_, rfl⟩
    | closed stage =>
        rw [stage] at closing
        cases closing
        exact .inr rfl
    | rest stage =>
        rw [stage] at closing
        cases closing
    | _ stage =>
        rw [stage] at closing
        cases closing
  · cases move with
    | rest stage => exact .inr finished
    | _ stage =>
        rw [stage] at finished
        cases finished

/-- A build that has come to a pause is not over behind it. -/
theorem ending?_step_of_pause {store : σ} {build : Build β} {seconds : Rat}
    (pause : build.pause? = some seconds) : (build.step store).2.1.ending? = none := by
  cases stage : build.stage with
  | reading =>
      cases signals : build.signals with
      | nil => simp [pause?, stage, signals] at pause
      | cons signal rest =>
          cases signal with
          | line text => simp [pause?, stage, signals] at pause
          | pause _ => simp [step, Build.read, ending?, stage, signals]
  | _ => simp [pause?, stage] at pause

end Typeahead.Index.Build
