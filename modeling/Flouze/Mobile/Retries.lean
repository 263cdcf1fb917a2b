import Flouze.Mobile.Sharing

namespace Flouze

open Repository

namespace AccountSyncBloc

section Phases

variable {σ : Type} (account : Account)

/-- Until the config is saved at most one attempt is under way, and nothing else can be started. -/
inductive Phase (bloc : AccountSyncBloc σ) : Prop
  | unshared (unsaved : bloc.savedFlag = false) (missing : bloc.server.account? account.uuid = none)
      (idle : ∀ i, bloc.underWay i = none)
      (shown : ∀ config, bloc.getLoadedAccountConfig = some config → config.synchronized = false)
  | creating (i : Nat) (attempt : Attempt σ) (unsaved : bloc.savedFlag = false)
      (missing : bloc.server.account? account.uuid = none) (here : bloc.underWay i = some attempt)
      (alone : ∀ j other, bloc.underWay j = some other → j = i) (busy : bloc.getLoadedAccountConfig = none)
      (captured : attempt.config.synchronized = false) (early : attempt.stage.early = true)
  | saving (i : Nat) (attempt : Attempt σ) (unsaved : bloc.savedFlag = false)
      (present : bloc.server.account? account.uuid ≠ none) (here : bloc.underWay i = some attempt)
      (alone : ∀ j other, bloc.underWay j = some other → j = i) (busy : bloc.getLoadedAccountConfig = none)
      (captured : attempt.config.synchronized = false) (stage : attempt.stage = .saving)
  | shared (saved : bloc.savedFlag = true)
      (late : ∀ i attempt, bloc.underWay i = some attempt → attempt.stage.unsaved = false)
      (shown : ∀ config, bloc.getLoadedAccountConfig = some config → config.synchronized = true)

variable {account} {bloc bloc' : AccountSyncBloc σ} {i : Nat} {attempt : Attempt σ}

theorem Phase.abandoned {outcome : Outcome Failure (Stage σ)} (ended : (stageAfter outcome).waits = false)
    (same : bloc'.attempts = bloc.attempts) (unsaved : bloc'.savedFlag = false)
    (missing : bloc'.server.account? account.uuid = none)
    (alone : ∀ j other, bloc.underWay j = some other → j = i)
    (shown : ∀ config, (settle i attempt (outcome, bloc')).getLoadedAccountConfig = some config →
      config.synchronized = false) :
    Phase account (settle i attempt (outcome, bloc')) := by
  apply Phase.unshared
  · rwa [savedFlag, settle_saved]
  · rwa [settle_server]
  · intro j
    cases still : (settle i attempt (outcome, bloc')).underWay j with
    | none => rfl
    | some other =>
      rcases underWay_settled same still with ⟨_, _, waits⟩ | ⟨differ, before⟩
      · rw [ended] at waits
        cases waits
      · exact absurd (alone j other before) differ
  · exact shown

theorem alone_settled {outcome : Outcome Failure (Stage σ)} (same : bloc'.attempts = bloc.attempts)
    (alone : ∀ j other, bloc.underWay j = some other → j = i) :
    ∀ j other, (settle i attempt (outcome, bloc')).underWay j = some other → j = i := by
  intro j other still
  rcases underWay_settled same still with ⟨here, _⟩ | ⟨_, before⟩
  · exact here
  · exact alone j other before

theorem loaded_same (same : bloc'.emitted = bloc.emitted) :
    bloc'.getLoadedAccountConfig = bloc.getLoadedAccountConfig := by
  rw [getLoadedAccountConfig, same, getLoadedAccountConfig]

/-- Once the flag is saved, an attempt may fail only if it has started with it. -/
theorem Phase.shared_settled {outcome : Outcome Failure (Stage σ)} (saved : bloc'.savedFlag = true)
    (late : ∀ j other, bloc.underWay j = some other → j ≠ i → other.stage.unsaved = false)
    (shown : ∀ config, bloc'.getLoadedAccountConfig = some config → config.synchronized = true)
    (same : bloc'.attempts = bloc.attempts)
    (further : ∀ stage, outcome = .ok stage → stage.unsaved = false)
    (kept : ∀ failure, outcome = .err failure → attempt.config.synchronized = true) :
    Phase account (settle i attempt (outcome, bloc')) := by
  apply Phase.shared
  · rwa [savedFlag, settle_saved]
  · intro j other still
    rcases underWay_settled same still with ⟨_, rfl, waits⟩ | ⟨differ, before⟩
    · cases outcome with
      | ok stage => exact further stage rfl
      | err failure => cases waits
      | hang => cases waits
    · exact late j other before differ
  · intro config now
    by_cases failed : ∃ failure, outcome = .err failure
    · rcases failed with ⟨failure, rfl⟩
      rw [settle_failed_loaded] at now
      obtain rfl := Option.some.inj now
      exact kept failure rfl
    · have fine : ∀ failure, outcome ≠ .err failure := fun failure same => failed ⟨failure, same⟩
      rcases settle_loaded bloc' i attempt fine with before | ⟨_, after⟩
      · rw [before] at now
        exact shown config now
      · rw [after] at now
        obtain rfl := Option.some.inj now
        exact newConfig_synchronized attempt

theorem syncHelper_loaded {config : AccountConfig} (loaded : bloc.getLoadedAccountConfig = some config)
    (shares : Bool) : bloc.syncHelper shares =
      { bloc.add (.synchronizing config) with
        attempts := bloc.attempts ++
          [⟨config, shares, if config.synchronized then .preparing else .connecting⟩] } := by
  simp only [syncHelper, loaded]

theorem syncHelper_kept {config : AccountConfig} (loaded : bloc.getLoadedAccountConfig = some config)
    (shares : Bool) : (bloc.syncHelper shares).saved = bloc.saved ∧
      (bloc.syncHelper shares).server = bloc.server ∧ (bloc.syncHelper shares).device = bloc.device := by
  rw [syncHelper_loaded loaded]
  exact ⟨rfl, rfl, rfl⟩

theorem underWay_started {config : AccountConfig} (loaded : bloc.getLoadedAccountConfig = some config)
    (shares : Bool) (j : Nat) : (bloc.syncHelper shares).underWay j =
      if j = bloc.attempts.length then
        some ⟨config, shares, if config.synchronized then .preparing else .connecting⟩
      else bloc.underWay j := by
  rw [syncHelper_loaded loaded]
  by_cases last : j = bloc.attempts.length
  · rw [if_pos last, underWay_iff, last]
    refine ⟨List.getElem?_concat_length, ?_⟩
    dsimp only
    split <;> rfl
  · rw [if_neg last]
    simp only [underWay]
    rcases Nat.lt_or_gt_of_ne last with before | beyond
    · rw [List.getElem?_append_left before]
    · rw [List.getElem?_eq_none (by simp; omega), List.getElem?_eq_none (by omega)]

theorem Phase.started (phase : Phase account bloc) (shares : Bool) : Phase account (bloc.syncHelper shares) := by
  cases loaded : bloc.getLoadedAccountConfig with
  | none =>
    simp only [syncHelper, loaded]
    exact phase
  | some config =>
    have busy : (bloc.syncHelper shares).getLoadedAccountConfig = none := by
      rw [syncHelper_loaded loaded]
      exact getLoadedAccountConfig_add bloc (.synchronizing config)
    have untouched := syncHelper_kept loaded shares
    have flag : (bloc.syncHelper shares).savedFlag = bloc.savedFlag := by
      rw [savedFlag, untouched.1, savedFlag]
    cases phase with
    | unshared unsaved missing idle shown =>
      have captured := shown config loaded
      apply Phase.creating bloc.attempts.length ⟨config, shares, .connecting⟩ (flag.trans unsaved)
        (untouched.2.1 ▸ missing) _ _ busy captured rfl
      · rw [underWay_started loaded, if_pos rfl, captured]
        rfl
      · intro j other now
        by_contra differ
        rw [underWay_started loaded, if_neg differ, idle] at now
        cases now
    | creating i attempt unsaved missing here alone waiting =>
      rw [waiting] at loaded
      cases loaded
    | saving i attempt unsaved present here alone waiting =>
      rw [waiting] at loaded
      cases loaded
    | shared saved late shown =>
      apply Phase.shared (flag.trans saved)
      · intro j other now
        rw [underWay_started loaded] at now
        split at now
        · obtain rfl := Option.some.inj now
          simp only [shown config loaded, if_true]
          rfl
        · exact late j other now
      · intro config' now
        rw [busy] at now
        cases now

theorem opened_loaded (saved : Option AccountConfig) (server : Store) (device : Device σ) :
    (opened saved server device).getLoadedAccountConfig = some (AccountConfigStore.loadAccountConfig saved) := rfl

theorem Phase.opened {saved : Option AccountConfig} {server : Store} (device : Device σ)
    (agreed : (AccountConfigStore.loadAccountConfig saved).synchronized = false →
      server.account? account.uuid = none) : Phase account (opened saved server device) := by
  have idle : ∀ i, (AccountSyncBloc.opened saved server device).underWay i = none := fun i => rfl
  cases flag : (AccountConfigStore.loadAccountConfig saved).synchronized with
  | false =>
    have unsaved : (AccountSyncBloc.opened saved server device).savedFlag = false := flag
    apply Phase.unshared unsaved (agreed flag) idle
    intro config loaded
    rw [opened_loaded] at loaded
    obtain rfl := Option.some.inj loaded
    exact flag
  | true =>
    have present : (AccountSyncBloc.opened saved server device).savedFlag = true := flag
    apply Phase.shared present
    · intro i attempt here
      rw [idle i] at here
      cases here
    · intro config loaded
      rw [opened_loaded] at loaded
      obtain rfl := Option.some.inj loaded
      exact flag

end Phases

section Transitions

variable {σ : Type} {account : Account} {generate : Nat → TransactionId}
variable {bloc bloc' : AccountSyncBloc σ} {i : Nat} {attempt : Attempt σ}

theorem Phase.first (phase : Phase account bloc) (here : bloc.underWay i = some attempt)
    (early : attempt.stage.early = true) :
    (bloc.savedFlag = false ∧ attempt.config.synchronized = false) ∧
      bloc.server.account? account.uuid = none := by
  cases phase with
  | unshared unsaved missing idle shown =>
    rw [idle i] at here
    cases here
  | creating i' attempt' unsaved missing here' alone busy captured =>
    obtain rfl := alone i attempt here
    obtain rfl := Option.some.inj (here.symm.trans here')
    exact ⟨⟨unsaved, captured⟩, missing⟩
  | saving i' attempt' unsaved present here' alone busy captured stage =>
    obtain rfl := alone i attempt here
    obtain rfl := Option.some.inj (here.symm.trans here')
    rw [stage] at early
    cases early
  | shared saved late =>
    have stage := late i attempt here
    rw [unsaved_of_early early] at stage
    cases stage

theorem Phase.failed (phase : Phase account bloc) (here : bloc.underWay i = some attempt) (failure : Failure)
    (emitted : bloc'.emitted = bloc.emitted) (attempts : bloc'.attempts = bloc.attempts)
    (allowed : attempt.config.synchronized = false → attempt.stage.early = true)
    (kept : attempt.stage ≠ .saving → bloc'.saved = bloc.saved)
    (absent : attempt.stage.early = true → bloc.server.account? account.uuid = none →
      bloc'.server.account? account.uuid = none) :
    Phase account (settle i attempt (.err failure, bloc')) := by
  cases phase with
  | unshared unsaved missing idle shown =>
    rw [idle i] at here
    cases here
  | creating i' attempt' unsaved missing here' alone busy captured early =>
    obtain rfl := alone i attempt here
    obtain rfl := Option.some.inj (here.symm.trans here')
    have flag : bloc'.savedFlag = false := by
      rw [savedFlag, kept (fun saving => by rw [saving] at early; cases early)]
      exact unsaved
    apply Phase.abandoned rfl attempts flag (absent early missing) alone
    intro config now
    rw [settle_failed_loaded] at now
    obtain rfl := Option.some.inj now
    exact captured
  | saving i' attempt' unsaved present here' alone busy captured stage =>
    obtain rfl := alone i attempt here
    obtain rfl := Option.some.inj (here.symm.trans here')
    have early := allowed captured
    rw [stage] at early
    cases early
  | shared saved late shown =>
    have stage := late i attempt here
    have flag : bloc'.savedFlag = true := by
      rw [savedFlag, kept (fun saving => by rw [saving] at stage; cases stage)]
      exact saved
    apply Phase.shared_settled flag (fun j other before _ => late j other before) _ attempts
      (fun stage run => by cases run)
    · intro _ _
      by_contra captured
      rw [unsaved_of_early (allowed (by simpa using captured))] at stage
      cases stage
    · rw [loaded_same emitted]
      exact shown

theorem Unrefused.settled {outcome : Outcome Failure (Stage σ)} (unrefused : Unrefused account bloc)
    (same : bloc'.attempts = bloc.attempts)
    (invalid : ∀ error, stageAfter outcome = .failed (.refused error) → validateAccount account ≠ .ok ()) :
    Unrefused account (settle i attempt (outcome, bloc')) := by
  intro other member error stage
  rw [settle_attempts, same] at member
  rcases List.mem_or_eq_of_mem_set member with before | rfl
  · exact unrefused other before error stage
  · exact invalid error stage

theorem Unrefused.started (unrefused : Unrefused account bloc) (shares : Bool) :
    Unrefused account (bloc.syncHelper shares) := by
  unfold syncHelper
  split
  · exact unrefused
  · next config _ =>
    intro other member error stage
    rcases List.mem_append.mp member with before | new
    · exact unrefused other before error stage
    · obtain rfl := List.mem_singleton.mp new
      dsimp only at stage
      split at stage <;> cases stage

variable [Repository σ]

theorem Phase.next (phase : Phase account bloc) (here : bloc.underWay i = some attempt)
    (allowed : ∀ failure, (complete account generate attempt bloc).1 = .err failure →
      attempt.config.synchronized = false → attempt.stage.early = true) :
    Phase account (settle i attempt (complete account generate attempt bloc)) := by
  have emitted := (complete_same account generate attempt bloc).1
  have attempts := (complete_same account generate attempt bloc).2
  cases phase with
  | unshared unsaved missing idle shown =>
    rw [idle i] at here
    cases here
  | creating i' attempt' unsaved missing here' alone busy captured early =>
    obtain rfl := alone i attempt here
    obtain rfl := Option.some.inj (here.symm.trans here')
    rcases early_iff.mp early with stage | stage
    · rw [complete_connecting account generate stage]
      apply Phase.creating i { attempt with stage := .creating } _ _ (underWay_settled_here rfl here rfl)
        (alone_settled rfl alone) _ captured rfl
      · rwa [savedFlag, settle_saved]
      · rwa [settle_server]
      · exact (settle_busy bloc i attempt .creating (by simp [stage])).trans busy
    · rcases complete_creating account generate stage missing with ⟨error, run, _⟩ | ⟨run, _, present⟩
      · rw [run]
        exact Phase.failed (.creating i attempt unsaved missing here alone busy captured early) here _ rfl rfl
          (fun _ => early) (fun _ => rfl) (fun _ absent => absent)
      · rw [run]
        have same : { bloc with server := (ServerRpcImpl.createAccount account bloc.server).2 }.attempts =
            bloc.attempts := rfl
        apply Phase.saving i { attempt with stage := .saving } _ _ (underWay_settled_here same here rfl)
          (alone_settled same alone) _ captured rfl
        · rwa [savedFlag, settle_saved]
        · rwa [settle_server]
        · exact (settle_busy _ i attempt .saving (by simp [stage])).trans busy
  | saving i' attempt' unsaved present here' alone busy captured stage =>
    obtain rfl := alone i attempt here
    obtain rfl := Option.some.inj (here.symm.trans here')
    rw [complete_saving account generate stage]
    have same : { bloc with saved := some attempt.newConfig }.attempts = bloc.attempts := rfl
    have flag : { bloc with saved := some attempt.newConfig }.savedFlag = true := newConfig_synchronized attempt
    apply Phase.shared_settled flag
      (fun j other before differ => absurd (alone j other before) differ) _ same
    · intro stage' run
      obtain rfl := Outcome.ok.inj run
      rfl
    · intro failure run
      cases run
    · intro config now
      have none : bloc.getLoadedAccountConfig = some config := now
      rw [busy] at none
      cases none
  | shared saved late shown =>
    have stage := late i attempt here
    have other : attempt.stage ≠ .saving := fun saving => by rw [saving] at stage; cases stage
    apply Phase.shared_settled _ (fun j other before _ => late j other before) _ attempts
      (fun _ => complete_late account generate stage)
    · intro failure run
      by_contra captured
      rw [unsaved_of_early (allowed failure run (by simpa using captured))] at stage
      cases stage
    · rw [savedFlag, complete_kept account generate other]
      exact saved
    · rw [loaded_same emitted]
      exact shown

theorem Phase.step (phase : Phase account bloc) {event : SharingEvent σ account.uuid}
    (spared : Spared account generate event bloc) (stepped : Stepped account generate bloc event bloc') :
    Phase account bloc' := by
  cases stepped with
  | ignored => exact phase
  | shared => exact phase.started true
  | synchronized => exact phase.started false
  | completed i attempt here =>
    exact phase.next here fun failure run captured => (spared i attempt here (.next failure run) captured).1
  | failed i attempt here message =>
    exact phase.failed here _ rfl rfl (fun captured => (spared i attempt here (.fail message) captured).1)
      (fun _ => rfl) (fun _ missing => missing)
  | lost i attempt here message =>
    apply phase.failed here _ (unheard_same account attempt bloc).1 (unheard_same account attempt bloc).2
      (fun captured => (spared i attempt here (.lost message) captured).1) (unheard_kept account)
    intro early missing
    rcases early_iff.mp early with stage | stage
    · simpa only [unheard, stage] using missing
    · simp only [unheard, stage]
      rcases ServerRpcImpl.createAccount_cases account bloc.server with ⟨error, run⟩ | ⟨_, run⟩
      · rwa [run]
      · exact absurd (by rw [run])
          ((spared i attempt here (.lost message) (phase.first here early).1.2).2 message rfl stage)
  | stored device =>
    cases phase with
    | unshared unsaved missing idle shown => exact .unshared unsaved missing idle shown
    | creating i attempt unsaved missing here alone busy captured early =>
      exact .creating i attempt unsaved missing here alone busy captured early
    | saving i attempt unsaved present here alone busy captured stage =>
      exact .saving i attempt unsaved present here alone busy captured stage
    | shared saved late shown => exact .shared saved late shown
  | elsewhere call apart =>
    have same : (ServerRpcImpl.answer call bloc.server).2.account? account.uuid = none ↔
        bloc.server.account? account.uuid = none := ServerRpcImpl.answer_missing_iff apart
    cases phase with
    | unshared unsaved missing idle shown => exact .unshared unsaved (same.mpr missing) idle shown
    | creating i attempt unsaved missing here alone busy captured early =>
      exact .creating i attempt unsaved (same.mpr missing) here alone busy captured early
    | saving i attempt unsaved present here alone busy captured stage =>
      exact .saving i attempt unsaved (fun missing => present (same.mp missing)) here alone busy captured stage
    | shared saved late shown => exact .shared saved late shown

theorem Unrefused.step (unrefused : Unrefused account bloc) (phase : Phase account bloc)
    {event : SharingEvent σ account.uuid} (stepped : Stepped account generate bloc event bloc') :
    Unrefused account bloc' := by
  cases stepped with
  | ignored => exact unrefused
  | shared => exact unrefused.started true
  | synchronized => exact unrefused.started false
  | completed i attempt here =>
    change Unrefused account (settle i attempt
      ((complete account generate attempt bloc).1, (complete account generate attempt bloc).2))
    apply unrefused.settled (complete_same account generate attempt bloc).2
    intro error refused
    have stage := complete_refused account generate refused
    rcases complete_creating account generate stage (phase.first here (early_iff.mpr (.inr stage))).2 with
      ⟨_, _, invalid⟩ | ⟨run, _⟩
    · exact invalid
    · rw [run] at refused
      cases refused
  | failed i attempt here message => exact unrefused.settled rfl fun error refused => by cases refused
  | lost i attempt here message =>
    exact unrefused.settled (unheard_same account attempt bloc).2 fun error refused => by cases refused
  | stored device => exact unrefused
  | elsewhere call apart => exact unrefused

/-- An attempt that fails shows the flag that it started with, whatever has become true since. -/
theorem stranded (captured : attempt.config.synchronized = false) (failure : Failure)
    (known : bloc'.savedFlag = true ∨ bloc'.server.account? account.uuid ≠ none) :
    ¬ Retryable account generate (settle i attempt (.err failure, bloc')) := by
  intro retryable
  have shown := settle_failed_loaded bloc' i attempt failure
  rcases known with saved | present
  · have flag := retryable.flag attempt.config shown
    rw [captured, savedFlag, settle_saved] at flag
    rw [savedFlag, ← flag] at saved
    cases saved
  · have missing := retryable.first attempt.config shown captured
    rw [settle_server] at missing
    exact present missing

theorem Phase.broken (phase : Phase account bloc) (event : SharingEvent σ account.uuid)
    (reckless : ¬ Spared account generate event bloc) :
    ¬ Retryable account generate (AccountSyncBloc.step account generate event bloc) := by
  unfold Spared at reckless
  push Not at reckless
  rcases reckless with ⟨i, attempt, here, fails, captured, after⟩
  cases phase with
  | unshared unsaved missing idle shown =>
    rw [idle i] at here
    cases here
  | creating i' attempt' unsaved missing here' alone busy captured' early =>
    obtain rfl := alone i attempt here
    obtain rfl := Option.some.inj (here.symm.trans here')
    rcases after early with ⟨message, rfl, stage, accepted⟩
    simp only [AccountSyncBloc.step, here]
    apply stranded captured
    right
    simp only [unheard, stage]
    rcases ServerRpcImpl.createAccount_cases account bloc.server with ⟨error, run⟩ | ⟨_, run⟩
    · rw [run] at accepted
      cases accepted
    · rw [run, Store.account?_putAccount, if_pos rfl]
      simp
  | saving i' attempt' unsaved present here' alone busy captured' stage =>
    obtain rfl := alone i attempt here
    obtain rfl := Option.some.inj (here.symm.trans here')
    cases fails with
    | fail message =>
      simp only [AccountSyncBloc.step, here]
      exact stranded captured _ (.inr present)
    | lost message =>
      simp only [AccountSyncBloc.step, here]
      apply stranded captured
      left
      simp only [unheard, stage]
      exact newConfig_synchronized attempt
    | next failure run =>
      rw [complete_saving account generate stage] at run
      cases run
  | shared saved late shown =>
    have stage := late i attempt here
    have other : attempt.stage ≠ .saving := fun saving => by rw [saving] at stage; cases stage
    cases fails with
    | fail message =>
      simp only [AccountSyncBloc.step, here]
      exact stranded captured _ (.inl saved)
    | lost message =>
      simp only [AccountSyncBloc.step, here]
      apply stranded captured
      left
      rwa [savedFlag, unheard_kept account other]
    | next failure run =>
      simp only [AccountSyncBloc.step, here]
      have ended : complete account generate attempt bloc =
          (.err failure, (complete account generate attempt bloc).2) := Prod.ext run rfl
      rw [ended]
      apply stranded captured
      left
      rwa [savedFlag, complete_kept account generate other]

end Transitions

section Progress

variable {σ : Type} [Repository σ] {account : Account} {generate : Nat → TransactionId}
variable {bloc bloc' : AccountSyncBloc σ} {i : Nat} {attempt : Attempt σ}

theorem Succeeds.before {stage : Stage σ} (here : bloc.underWay i = some attempt)
    (run : complete account generate attempt bloc = (.ok stage, bloc'))
    (later : Succeeds account generate i (settle i attempt (.ok stage, bloc'))) :
    Succeeds account generate i bloc := by
  rcases later with ⟨n, ended⟩
  have first : step account generate (.next i) bloc = settle i attempt (.ok stage, bloc') := by
    simp only [step, here, run]
  rw [← first] at ended
  exact ⟨n + 1, ended⟩

theorem Succeeds.last (here : bloc.underWay i = some attempt)
    (run : complete account generate attempt bloc = (.ok .succeeded, bloc')) :
    Succeeds account generate i bloc := by
  apply Succeeds.before here run
  rcases underWay_iff.mp here with ⟨found, _⟩
  rcases List.getElem?_eq_some_iff.mp found with ⟨inside, _⟩
  have same : bloc'.attempts = bloc.attempts := by
    have kept := (complete_same account generate attempt bloc).2
    rwa [run] at kept
  refine ⟨0, ?_⟩
  change ((settle i attempt (.ok .succeeded, bloc')).attempts[i]?).map Attempt.stage = _
  rw [settle_attempts, same, List.getElem?_set_self inside]
  rfl

theorem sharing_succeeds (here : bloc.underWay i = some attempt) (stage : attempt.stage = .sharing) :
    Succeeds account generate i bloc := by
  have run : complete account generate attempt bloc = (.ok .succeeded, bloc) := by
    simp only [complete, stage]
  exact Succeeds.last here run

theorem flushing_succeeds (here : bloc.underWay i = some attempt) (stage : attempt.stage = .flushing)
    (flushed : (flush bloc.device.repo).1 = .ok ()) : Succeeds account generate i bloc := by
  have run : ∃ bloc', bloc'.attempts = bloc.attempts ∧ complete account generate attempt bloc =
      (.ok (if attempt.shares then .sharing else .succeeded), bloc') := by
    simp only [complete, stage, flushed]
    refine ⟨_, ?_, rfl⟩
    rfl
  rcases run with ⟨bloc', same, run⟩
  cases shares : attempt.shares with
  | false =>
    rw [shares] at run
    exact Succeeds.last here run
  | true =>
    rw [shares] at run
    exact Succeeds.before here run (sharing_succeeds (underWay_settled_here same here rfl) rfl)

theorem sync_succeeds {device : Device σ} {server : Store}
    (program : Resumption RemoteCall RemoteCall.Reply (Device σ) (Outcome ErrorKind Unit))
    (here : bloc.underWay i = some attempt)
    (completes : complete account generate attempt bloc = runSync program bloc')
    (run : program.run ServerRpcImpl.answer bloc'.server = ((.ok (), device), server))
    (flushed : (flush device.repo).1 = .ok ()) : Succeeds account generate i bloc := by
  induction program generalizing bloc bloc' attempt with
  | ret outcome state =>
    rcases Prod.mk.inj run |>.imp Prod.mk.inj id with ⟨⟨rfl, rfl⟩, _⟩
    have same : { bloc' with device := state }.attempts = bloc.attempts := by
      have kept := (complete_same account generate attempt bloc).2
      rwa [completes] at kept
    apply Succeeds.before here completes
    apply flushing_succeeds (underWay_settled_here same here rfl) rfl
    rwa [settle_device]
  | call request state resume ih =>
    have same : { bloc' with device := state }.attempts = bloc.attempts := by
      have kept := (complete_same account generate attempt bloc).2
      rwa [completes] at kept
    apply Succeeds.before here completes
    have goesOn : complete account generate { attempt with stage := .synchronizing ⟨request, resume⟩ }
        (settle i attempt (.ok (.synchronizing ⟨request, resume⟩), { bloc' with device := state })) =
        runSync (resume (ServerRpcImpl.answer request bloc'.server).1 state)
          { settle i attempt (.ok (.synchronizing ⟨request, resume⟩), { bloc' with device := state }) with
            server := (ServerRpcImpl.answer request bloc'.server).2 } := by
      simp only [complete, settle_server, settle_device]
    exact ih _ state (underWay_settled_here same here rfl) goesOn run

theorem preparing_succeeds {device : Device σ} {server : Store} (here : bloc.underWay i = some attempt)
    (stage : attempt.stage = .preparing)
    (run : (sync generate account.uuid bloc.device).run ServerRpcImpl.answer bloc.server = ((.ok (), device), server))
    (flushed : (flush device.repo).1 = .ok ()) : Succeeds account generate i bloc := by
  have completes : complete account generate attempt bloc = runSync (sync generate account.uuid bloc.device) bloc := by
    simp only [complete, stage]
  exact sync_succeeds _ here completes run flushed

theorem saving_succeeds {device : Device σ} {server : Store} (here : bloc.underWay i = some attempt)
    (stage : attempt.stage = .saving)
    (run : (sync generate account.uuid bloc.device).run ServerRpcImpl.answer bloc.server = ((.ok (), device), server))
    (flushed : (flush device.repo).1 = .ok ()) : Succeeds account generate i bloc := by
  apply Succeeds.before here (complete_saving account generate stage)
  have same : { bloc with saved := some attempt.newConfig }.attempts = bloc.attempts := rfl
  apply preparing_succeeds (underWay_settled_here same here rfl) rfl _ flushed
  · exact server
  · rw [settle_server, settle_device]
    exact run

theorem creating_succeeds {device : Device σ} {server : Store} (here : bloc.underWay i = some attempt)
    (stage : attempt.stage = .creating) (missing : bloc.server.account? account.uuid = none)
    (valid : validateAccount account = .ok ())
    (run : (sync generate account.uuid bloc.device).run ServerRpcImpl.answer
      (ServerRpcImpl.createAccount account bloc.server).2 = ((.ok (), device), server))
    (flushed : (flush device.repo).1 = .ok ()) : Succeeds account generate i bloc := by
  rcases complete_creating account generate stage missing with ⟨_, _, invalid⟩ | ⟨created, _⟩
  · exact absurd valid invalid
  · apply Succeeds.before here created
    have same : { bloc with server := (ServerRpcImpl.createAccount account bloc.server).2 }.attempts =
        bloc.attempts := rfl
    apply saving_succeeds (underWay_settled_here same here rfl) rfl _ flushed
    · exact server
    · rw [settle_server, settle_device]
      exact run

theorem connecting_succeeds {device : Device σ} {server : Store} (here : bloc.underWay i = some attempt)
    (stage : attempt.stage = .connecting) (missing : bloc.server.account? account.uuid = none)
    (valid : validateAccount account = .ok ())
    (run : (sync generate account.uuid bloc.device).run ServerRpcImpl.answer
      (ServerRpcImpl.createAccount account bloc.server).2 = ((.ok (), device), server))
    (flushed : (flush device.repo).1 = .ok ()) : Succeeds account generate i bloc := by
  apply Succeeds.before here (complete_connecting account generate stage)
  apply creating_succeeds (underWay_settled_here rfl here rfl) rfl _ valid _ flushed
  · exact server
  · rwa [settle_server]
  · rw [settle_server, settle_device]
    exact run

theorem attempt_succeeds {config : AccountConfig} {device : Device σ} {server : Store}
    (loaded : bloc.getLoadedAccountConfig = some config)
    (first : config.synchronized = false → bloc.server.account? account.uuid = none)
    (valid : config.synchronized = false → validateAccount account = .ok ())
    (run : (sync generate account.uuid bloc.device).run ServerRpcImpl.answer (bloc.ensured account config) =
      ((.ok (), device), server))
    (flushed : (flush device.repo).1 = .ok ()) (shares : Bool) :
    Succeeds account generate bloc.attempts.length (bloc.syncHelper shares) := by
  have here := underWay_started loaded shares bloc.attempts.length
  rw [if_pos rfl] at here
  have untouched := syncHelper_kept loaded shares
  cases captured : config.synchronized with
  | true =>
    simp only [captured, if_true] at here
    simp only [ensured, captured, if_true] at run
    apply preparing_succeeds here rfl _ flushed
    · exact server
    · rw [untouched.2.1, untouched.2.2]
      exact run
  | false =>
    simp only [captured] at here
    simp only [ensured, captured] at run
    apply connecting_succeeds here rfl _ (valid captured) _ flushed
    · exact server
    · rw [untouched.2.1]
      exact first captured
    · rw [untouched.2.1, untouched.2.2]
      exact run

end Progress

section Runs

variable {σ : Type} [Repository σ] {account : Account} {generate : Nat → TransactionId}

theorem Phase.retryable {bloc : AccountSyncBloc σ} (phase : Phase account bloc)
    (unrefused : Unrefused account bloc) : Retryable account generate bloc := by
  have first : ∀ config, bloc.getLoadedAccountConfig = some config → config.synchronized = bloc.savedFlag ∧
      (config.synchronized = false → bloc.server.account? account.uuid = none) := by
    intro config loaded
    cases phase with
    | unshared unsaved missing idle shown => exact ⟨(shown config loaded).trans unsaved.symm, fun _ => missing⟩
    | creating i attempt unsaved missing here alone busy =>
      rw [busy] at loaded
      cases loaded
    | saving i attempt unsaved present here alone busy =>
      rw [busy] at loaded
      cases loaded
    | shared saved late shown =>
      refine ⟨(shown config loaded).trans saved.symm, ?_⟩
      intro without
      rw [shown config loaded] at without
      cases without
  refine ⟨fun config loaded => (first config loaded).1, ?_, fun config loaded => (first config loaded).2,
    unrefused, ?_⟩
  · intro i attempt here early
    exact ⟨(phase.first here early).1.1, (phase.first here early).2⟩
  · intro config device server loaded valid run flushed
    have succeeds := attempt_succeeds loaded (first config loaded).2 valid run flushed
    exact ⟨succeeds true, succeeds false⟩

/-- Whatever fails, an account can be shared again, exactly if no step of an attempt fails after the
    server has created the account for it. -/
theorem retryable_iff (account : Account) (generate : Nat → TransactionId) (saved : Option AccountConfig)
    (server : Store) (device : Device σ) (events : List (SharingEvent σ account.uuid)) :
    (∀ before later, events = before ++ later →
      Retryable account generate (Machine.after (step account generate) before (opened saved server device))) ↔
    ((AccountConfigStore.loadAccountConfig saved).synchronized = false → server.account? account.uuid = none) ∧
      Machine.Throughout (step account generate) (Spared account generate) events
        (opened saved server device) := by
  have lasts : ((AccountConfigStore.loadAccountConfig saved).synchronized = false →
      server.account? account.uuid = none) → ((∀ before later, events = before ++ later → Retryable account generate
        (Machine.after (step account generate) before (opened saved server device))) ↔
      Machine.Throughout (step account generate) (Spared account generate) events (opened saved server device)) := by
    intro agreed
    apply Machine.stays_iff (fun bloc => Phase account bloc ∧ Unrefused account bloc)
    · intro bloc invariant
      exact invariant.1.retryable invariant.2
    · intro event bloc invariant spared
      have stepped := step_stepped account generate event bloc
      exact ⟨invariant.1.step spared stepped, invariant.2.step invariant.1 stepped⟩
    · intro event bloc invariant reckless
      exact invariant.1.broken event reckless
    · refine ⟨Phase.opened device agreed, ?_⟩
      intro attempt member
      cases member
  constructor
  · intro always
    have agreed := (always [] events rfl).first _ (opened_loaded saved server device)
    exact ⟨agreed, (lasts agreed).mp always⟩
  · intro given
    rcases given with ⟨agreed, spared⟩
    exact (lasts agreed).mpr spared

def trip : Account := ⟨List.replicate 16 7, "Trip", [], [], [⟨List.replicate 16 1, "Me"⟩]⟩

def tripRun (events : List (SharingEvent Store trip.uuid)) : AccountSyncBloc Store :=
  Machine.after (step trip fun n => [n.toUInt8]) events (opened none Store.empty ⟨Store.empty.putAccount trip, 0⟩)

example : ((tripRun (.share :: List.replicate 9 (.next 0))).attempts[0]?).map Attempt.stage = some .succeeded := rfl

/-- The connection is lost between the creation of the account and the sync. -/
def brokenShare : List (SharingEvent Store trip.uuid) :=
  [.share, .next 0, .next 0, .next 0, .fail 0 "connection lost"]

/-- The config that is shown no longer says what was saved, and the next attempt, in which nothing
    fails, is refused. -/
theorem broken_share_refused :
    (tripRun brokenShare).savedFlag = true ∧
    (tripRun brokenShare).getLoadedAccountConfig = some ⟨[], false⟩ ∧
    ((tripRun (brokenShare ++ [.share, .next 1, .next 1])).attempts[1]?).map Attempt.stage =
      some (.failed (.refused (.jsonRpcClientError "An account with this UUID already exists"))) ∧
    ¬ Retryable trip (fun n => [n.toUInt8]) (tripRun brokenShare) := by
  have saved : (tripRun brokenShare).savedFlag = true := by decide +kernel
  have shown : (tripRun brokenShare).getLoadedAccountConfig = some ⟨[], false⟩ := by decide +kernel
  refine ⟨saved, shown, rfl, ?_⟩
  intro retryable
  have flag := retryable.flag _ shown
  rw [saved] at flag
  cases flag

end Runs

end AccountSyncBloc

end Flouze
