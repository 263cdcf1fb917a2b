import Flouze.Mobile.AccountSyncBloc
import Flouze.Server

namespace Flouze

open Repository

def Stage.unsaved {σ : Type} : Stage σ → Bool
  | .connecting | .creating | .saving => true
  | _ => false

def Stage.early {σ : Type} : Stage σ → Bool
  | .connecting | .creating => true
  | _ => false

namespace AccountSyncBloc

variable {σ : Type} [Repository σ] (account : Account) (generate : Nat → TransactionId)

def savedFlag (bloc : AccountSyncBloc σ) : Bool :=
  (AccountConfigStore.loadAccountConfig bloc.saved).synchronized

def ensured (config : AccountConfig) (bloc : AccountSyncBloc σ) : Store :=
  if config.synchronized then bloc.server else (ServerRpcImpl.createAccount account bloc.server).2

def Succeeds (i : Nat) (bloc : AccountSyncBloc σ) : Prop :=
  ∃ n, ((Machine.after (step account generate) (List.replicate n (.next i)) bloc).attempts[i]?).map Attempt.stage =
    some .succeeded

inductive StepFails (attempt : Attempt σ) (bloc : AccountSyncBloc σ) (i : Nat) : SharingEvent σ account.uuid → Prop
  | fail (message : String) : StepFails attempt bloc i (.fail i message)
  | lost (message : String) : StepFails attempt bloc i (.lost i message)
  | next (failure : Failure) (run : (complete account generate attempt bloc).1 = .err failure) :
      StepFails attempt bloc i (.next i)

/-- No step of an attempt fails once the server has created the account for it. -/
def Spared (event : SharingEvent σ account.uuid) (bloc : AccountSyncBloc σ) : Prop :=
  ∀ i attempt, bloc.underWay i = some attempt → StepFails account generate attempt bloc i event →
    attempt.config.synchronized = false → attempt.stage.early = true ∧
      ∀ message, event = .lost i message → attempt.stage = .creating →
        (ServerRpcImpl.createAccount account bloc.server).1 ≠ .ok ()

/-- The server has refused no account but an invalid one. -/
def Unrefused (bloc : AccountSyncBloc σ) : Prop :=
  ∀ attempt ∈ bloc.attempts, ∀ error, attempt.stage = .failed (.refused error) → validateAccount account ≠ .ok ()

structure Retryable (bloc : AccountSyncBloc σ) : Prop where
  flag : ∀ config, bloc.getLoadedAccountConfig = some config → config.synchronized = bloc.savedFlag
  /-- Whoever calls `createAccount`, or would if it were called now, is the first. -/
  once : ∀ i attempt, bloc.underWay i = some attempt → attempt.stage.early = true →
    bloc.savedFlag = false ∧ bloc.server.account? account.uuid = none
  first : ∀ config, bloc.getLoadedAccountConfig = some config → config.synchronized = false →
    bloc.server.account? account.uuid = none
  unrefused : Unrefused account bloc
  succeeds : ∀ config device server, bloc.getLoadedAccountConfig = some config →
    (config.synchronized = false → validateAccount account = .ok ()) →
    (sync generate account.uuid bloc.device).run ServerRpcImpl.answer (bloc.ensured account config) =
      ((.ok (), device), server) → (flush device.repo).1 = .ok () →
    Succeeds account generate bloc.attempts.length bloc.share ∧
      Succeeds account generate bloc.attempts.length bloc.synchronize

end AccountSyncBloc

namespace AccountSyncBloc

section Handlers

variable {σ : Type} (bloc : AccountSyncBloc σ) (i : Nat) (attempt : Attempt σ)

@[simp] theorem getLoadedAccountConfig_add (state : AccountSyncState) :
    (bloc.add state).getLoadedAccountConfig = match state with
      | .loaded config => some config
      | _ => none := by
  simp only [getLoadedAccountConfig, add, List.getLast?_concat]
  cases state <;> rfl

def stageAfter : Outcome Failure (Stage σ) → Stage σ
  | .ok stage => stage
  | .err failure => .failed failure
  | .hang => .stuck

@[simp] theorem settle_saved (outcome : Outcome Failure (Stage σ)) :
    (settle i attempt (outcome, bloc)).saved = bloc.saved := by
  cases outcome with
  | ok stage =>
    simp only [settle]
    split <;> rfl
  | err failure => rfl
  | hang => rfl

@[simp] theorem settle_server (outcome : Outcome Failure (Stage σ)) :
    (settle i attempt (outcome, bloc)).server = bloc.server := by
  cases outcome with
  | ok stage =>
    simp only [settle]
    split <;> rfl
  | err failure => rfl
  | hang => rfl

@[simp] theorem settle_device (outcome : Outcome Failure (Stage σ)) :
    (settle i attempt (outcome, bloc)).device = bloc.device := by
  cases outcome with
  | ok stage =>
    simp only [settle]
    split <;> rfl
  | err failure => rfl
  | hang => rfl

@[simp] theorem settle_attempts (outcome : Outcome Failure (Stage σ)) :
    (settle i attempt (outcome, bloc)).attempts =
      bloc.attempts.set i { attempt with stage := stageAfter outcome } := by
  cases outcome with
  | ok stage =>
    simp only [settle]
    split <;> rfl
  | err failure => rfl
  | hang => rfl

@[simp] theorem settle_failed_loaded (failure : Failure) :
    (settle i attempt (.err failure, bloc)).getLoadedAccountConfig = some attempt.config := by
  simp [settle]

theorem settle_busy (stage : Stage σ) (other : attempt.stage ≠ .flushing) :
    (settle i attempt (.ok stage, bloc)).getLoadedAccountConfig = bloc.getLoadedAccountConfig := by
  simp only [settle]
  rfl

theorem settle_loaded {outcome : Outcome Failure (Stage σ)} (fine : ∀ failure, outcome ≠ .err failure) :
    (settle i attempt (outcome, bloc)).getLoadedAccountConfig = bloc.getLoadedAccountConfig ∨
      attempt.stage = .flushing ∧
        (settle i attempt (outcome, bloc)).getLoadedAccountConfig = some attempt.newConfig := by
  cases outcome with
  | ok stage =>
    by_cases flushing : attempt.stage = .flushing
    · exact .inr ⟨flushing, by simp [settle, flushing]⟩
    · exact .inl (settle_busy bloc i attempt stage flushing)
  | err failure => exact absurd rfl (fine failure)
  | hang => exact .inl rfl

theorem newConfig_synchronized : attempt.newConfig.synchronized = true := by
  unfold Attempt.newConfig
  split
  · next synchronized => exact synchronized
  · rfl

end Handlers

section Stages

variable {σ : Type} {stage : Stage σ}

theorem early_iff : stage.early = true ↔ stage = .connecting ∨ stage = .creating := by
  cases stage <;> simp [Stage.early]

theorem unsaved_of_early (early : stage.early = true) : stage.unsaved = true := by
  rcases early_iff.mp early with rfl | rfl
  · rfl
  · rfl

end Stages

section Steps

variable {σ : Type} {bloc : AccountSyncBloc σ} {i j : Nat} {attempt other : Attempt σ}

theorem underWay_iff :
    bloc.underWay i = some attempt ↔ bloc.attempts[i]? = some attempt ∧ attempt.stage.waits = true := by
  rw [underWay, Option.filter_eq_some_iff]

theorem underWay_settled {bloc' : AccountSyncBloc σ} {outcome : Outcome Failure (Stage σ)}
    (same : bloc'.attempts = bloc.attempts)
    (still : (settle i attempt (outcome, bloc')).underWay j = some other) :
    (j = i ∧ other = { attempt with stage := stageAfter outcome } ∧ (stageAfter outcome).waits = true) ∨
      (j ≠ i ∧ bloc.underWay j = some other) := by
  rcases underWay_iff.mp still with ⟨found, waits⟩
  rw [settle_attempts, same, List.getElem?_set] at found
  by_cases here : i = j
  · rw [if_pos here] at found
    split at found
    · obtain rfl := Option.some.inj found
      exact .inl ⟨here.symm, rfl, waits⟩
    · cases found
  · rw [if_neg here] at found
    exact .inr ⟨fun same => here same.symm, underWay_iff.mpr ⟨found, waits⟩⟩

theorem underWay_settled_here {bloc' : AccountSyncBloc σ} {outcome : Outcome Failure (Stage σ)}
    (same : bloc'.attempts = bloc.attempts) (here : bloc.underWay i = some attempt)
    (waits : (stageAfter outcome).waits = true) :
    (settle i attempt (outcome, bloc')).underWay i = some { attempt with stage := stageAfter outcome } := by
  rcases underWay_iff.mp here with ⟨found, _⟩
  rcases List.getElem?_eq_some_iff.mp found with ⟨inside, _⟩
  rw [underWay_iff, settle_attempts, same, List.getElem?_set_self inside]
  exact ⟨rfl, waits⟩

theorem unheard_same (account : Account) (attempt : Attempt σ) (bloc : AccountSyncBloc σ) :
    (unheard account attempt bloc).emitted = bloc.emitted ∧
      (unheard account attempt bloc).attempts = bloc.attempts := by
  unfold unheard
  split <;> exact ⟨rfl, rfl⟩

theorem unheard_kept (account : Account) (other : attempt.stage ≠ .saving) :
    (unheard account attempt bloc).saved = bloc.saved := by
  unfold unheard
  split
  · rfl
  · next saving => exact absurd saving other
  · rfl
  · rfl

theorem runSync_same
    (program : Resumption RemoteCall RemoteCall.Reply (Device σ) (Outcome ErrorKind Unit))
    (bloc : AccountSyncBloc σ) :
    (runSync program bloc).2.emitted = bloc.emitted ∧ (runSync program bloc).2.attempts = bloc.attempts ∧
      (runSync program bloc).2.saved = bloc.saved ∧
      ∀ stage, (runSync program bloc).1 = .ok stage → stage.unsaved = false := by
  cases program with
  | ret outcome device =>
    cases outcome with
    | ok value =>
      refine ⟨rfl, rfl, rfl, ?_⟩
      intro stage run
      obtain rfl := Outcome.ok.inj run
      rfl
    | err error =>
      refine ⟨rfl, rfl, rfl, ?_⟩
      intro stage run
      cases run
    | hang =>
      refine ⟨rfl, rfl, rfl, ?_⟩
      intro stage run
      cases run
  | call request device resume =>
    refine ⟨rfl, rfl, rfl, ?_⟩
    intro stage run
    obtain rfl := Outcome.ok.inj run
    rfl

theorem runSync_unrefused
    (program : Resumption RemoteCall RemoteCall.Reply (Device σ) (Outcome ErrorKind Unit))
    (bloc : AccountSyncBloc σ) (error : ErrorKind) :
    stageAfter (runSync program bloc).1 ≠ .failed (.refused error) := by
  intro refused
  cases program with
  | ret outcome device => cases outcome <;> cases refused
  | call request device resume => cases refused

end Steps

section Completed

variable {σ : Type} [Repository σ] {bloc : AccountSyncBloc σ} {attempt : Attempt σ}
variable (account : Account) (generate : Nat → TransactionId)

theorem complete_same (attempt : Attempt σ) (bloc : AccountSyncBloc σ) :
    (complete account generate attempt bloc).2.emitted = bloc.emitted ∧
      (complete account generate attempt bloc).2.attempts = bloc.attempts := by
  unfold complete
  split
  · exact ⟨rfl, rfl⟩
  · dsimp only
    split <;> exact ⟨rfl, rfl⟩
  · exact ⟨rfl, rfl⟩
  · exact ⟨(runSync_same _ _).1, (runSync_same _ _).2.1⟩
  · exact ⟨(runSync_same _ _).1, (runSync_same _ _).2.1⟩
  · dsimp only
    split <;> exact ⟨rfl, rfl⟩
  · exact ⟨rfl, rfl⟩
  · exact ⟨rfl, rfl⟩
  · exact ⟨rfl, rfl⟩
  · exact ⟨rfl, rfl⟩

/-- Only the step that saves the config changes what is saved, and the ones after it stay behind it. -/
theorem complete_kept (other : attempt.stage ≠ .saving) :
    (complete account generate attempt bloc).2.saved = bloc.saved := by
  unfold complete
  split
  · rfl
  · dsimp only
    split <;> rfl
  · next stage => exact absurd stage other
  · exact (runSync_same _ _).2.2.1
  · exact (runSync_same _ _).2.2.1
  · dsimp only
    split <;> rfl
  · rfl
  · rfl
  · rfl
  · rfl

theorem complete_late (saved : attempt.stage.unsaved = false) {stage : Stage σ}
    (run : (complete account generate attempt bloc).1 = .ok stage) : stage.unsaved = false := by
  unfold complete at run
  split at run
  · next here => rw [here] at saved; cases saved
  · next here => rw [here] at saved; cases saved
  · next here => rw [here] at saved; cases saved
  · exact (runSync_same _ _).2.2.2 stage run
  · exact (runSync_same _ _).2.2.2 stage run
  · dsimp only at run
    split at run
    · obtain rfl := Outcome.ok.inj run
      split <;> rfl
    · cases run
    · cases run
  · obtain rfl := Outcome.ok.inj run
    rfl
  · cases run
  · cases run
  · cases run

theorem complete_refused {error : ErrorKind}
    (refused : stageAfter (complete account generate attempt bloc).1 = .failed (.refused error)) :
    attempt.stage = .creating := by
  unfold complete at refused
  split at refused
  · cases refused
  · assumption
  · cases refused
  · exact absurd refused (runSync_unrefused _ _ error)
  · exact absurd refused (runSync_unrefused _ _ error)
  · dsimp only at refused
    split at refused
    · simp only [stageAfter] at refused
      split at refused <;> cases refused
    · cases refused
    · cases refused
  · cases refused
  · cases refused
  · cases refused
  · cases refused

theorem complete_connecting (connecting : attempt.stage = .connecting) :
    complete account generate attempt bloc = (.ok .creating, bloc) := by
  simp only [complete, connecting]

theorem complete_saving (saving : attempt.stage = .saving) :
    complete account generate attempt bloc = (.ok .preparing, { bloc with saved := some attempt.newConfig }) := by
  simp only [complete, saving]

theorem complete_creating (creating : attempt.stage = .creating)
    (missing : bloc.server.account? account.uuid = none) :
    (∃ error, complete account generate attempt bloc = (.err (.refused error), bloc) ∧
      validateAccount account ≠ .ok ()) ∨
    (complete account generate attempt bloc =
        (.ok .saving, { bloc with server := (ServerRpcImpl.createAccount account bloc.server).2 }) ∧
      (ServerRpcImpl.createAccount account bloc.server).1 = .ok () ∧
      (ServerRpcImpl.createAccount account bloc.server).2.account? account.uuid ≠ none) := by
  simp only [complete, creating]
  rcases ServerRpcImpl.createAccount_cases account bloc.server with ⟨error, run⟩ | ⟨_, run⟩
  · left
    refine ⟨error, by simp only [run], ?_⟩
    intro valid
    rw [ServerRpcImpl.createAccount_accepted valid missing] at run
    cases run
  · right
    refine ⟨by simp only [run], by rw [run], ?_⟩
    rw [run, Store.account?_putAccount, if_pos rfl]
    simp

inductive Stepped (bloc : AccountSyncBloc σ) : SharingEvent σ account.uuid → AccountSyncBloc σ → Prop
  | ignored (event : SharingEvent σ account.uuid) : Stepped bloc event bloc
  | shared : Stepped bloc .share (bloc.syncHelper true)
  | synchronized : Stepped bloc .synchronize (bloc.syncHelper false)
  | completed (i : Nat) (attempt : Attempt σ) (here : bloc.underWay i = some attempt) :
      Stepped bloc (.next i) (settle i attempt (complete account generate attempt bloc))
  | failed (i : Nat) (attempt : Attempt σ) (here : bloc.underWay i = some attempt) (message : String) :
      Stepped bloc (.fail i message) (settle i attempt (.err (.broken message), bloc))
  | lost (i : Nat) (attempt : Attempt σ) (here : bloc.underWay i = some attempt) (message : String) :
      Stepped bloc (.lost i message) (settle i attempt (.err (.broken message), unheard account attempt bloc))
  | stored (device : Device σ) : Stepped bloc (.stored device) { bloc with device := device }
  | elsewhere (call : RemoteCall) (apart : ∀ account', call = .createAccount account' → account'.uuid ≠ account.uuid) :
      Stepped bloc (.elsewhere call apart) { bloc with server := (ServerRpcImpl.answer call bloc.server).2 }

theorem step_stepped (event : SharingEvent σ account.uuid) (bloc : AccountSyncBloc σ) :
    Stepped account generate bloc event (step account generate event bloc) := by
  cases event with
  | share => exact .shared
  | synchronize => exact .synchronized
  | next i =>
    cases here : bloc.underWay i with
    | none =>
      simp only [step, here]
      exact .ignored _
    | some attempt =>
      simp only [step, here]
      exact .completed i attempt here
  | fail i message =>
    cases here : bloc.underWay i with
    | none =>
      simp only [step, here]
      exact .ignored _
    | some attempt =>
      simp only [step, here]
      exact .failed i attempt here message
  | lost i message =>
    cases here : bloc.underWay i with
    | none =>
      simp only [step, here]
      exact .ignored _
    | some attempt =>
      simp only [step, here]
      exact .lost i attempt here message
  | stored device => exact .stored device
  | elsewhere call apart => exact .elsewhere call apart

end Completed

end AccountSyncBloc

end Flouze
