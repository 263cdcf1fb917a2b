import Flouze.Sync.Basic
import Flouze.Repository.Store

namespace Flouze

open Repository

structure AccountConfig where
  meUuid : PersonId
  synchronized : Bool
deriving DecidableEq

def AccountConfigStore.loadAccountConfig (saved : Option AccountConfig) : AccountConfig :=
  saved.getD ⟨[], false⟩

inductive AccountSyncError where
  | loadAccountConfigError
  | saveAccountConfigError
  | shareError
  | synchronizationError
deriving DecidableEq

inductive Failure where
  | broken (message : String)
  | refused (error : ErrorKind)
  | unsynchronized (error : ErrorKind)
deriving DecidableEq

/-- An error state is emitted with the text of the failure. -/
inductive AccountSyncState where
  | loading
  | loaded (accountConfig : AccountConfig)
  | synchronizing (accountConfig : AccountConfig)
  | error (errorKind : AccountSyncError) (failure : Failure)
deriving DecidableEq

/-- What the chain of promises behind a call waits for. -/
inductive Stage (σ : Type) where
  | connecting
  | creating
  | saving
  | preparing
  | synchronizing (call : Resumption.Pending RemoteCall RemoteCall.Reply (Device σ) (Outcome ErrorKind Unit))
  | flushing
  | sharing
  | stuck
  | succeeded
  | failed (failure : Failure)

def Stage.waits {σ : Type} : Stage σ → Bool
  | .stuck | .succeeded | .failed _ => false
  | _ => true

def Stage.errorKind {σ : Type} : Stage σ → AccountSyncError
  | .sharing => .shareError
  | _ => .synchronizationError

/-- A call of `share` or of `synchronize` that was not ignored, with the config it has captured. -/
structure Attempt (σ : Type) where
  config : AccountConfig
  shares : Bool
  stage : Stage σ

/-- What `_ensureRemoteAccountExists` returns. -/
def Attempt.newConfig {σ : Type} (attempt : Attempt σ) : AccountConfig :=
  if attempt.config.synchronized then attempt.config else { attempt.config with synchronized := true }

/-- The bloc of an account and what it works on: the config that is saved under the key of the account,
    the server and the device. -/
structure AccountSyncBloc (σ : Type) where
  emitted : List AccountSyncState
  attempts : List (Attempt σ)
  saved : Option AccountConfig
  server : Store
  device : Device σ

namespace AccountSyncBloc

variable {σ : Type} [Repository σ] (account : Account) (generate : Nat → TransactionId)

/-- After `loadAccountConfig`. -/
def opened (saved : Option AccountConfig) (server : Store) (device : Device σ) : AccountSyncBloc σ :=
  ⟨[.loading, .loaded (AccountConfigStore.loadAccountConfig saved)], [], saved, server, device⟩

def add (state : AccountSyncState) (bloc : AccountSyncBloc σ) : AccountSyncBloc σ :=
  { bloc with emitted := bloc.emitted ++ [state] }

/-- The class of the current value is compared: a state that is being synchronized does not count. -/
def getLoadedAccountConfig (bloc : AccountSyncBloc σ) : Option AccountConfig :=
  match bloc.emitted.getLast? with
  | some (.loaded accountConfig) => some accountConfig
  | _ => none

/-- Without a loaded config the call is silently ignored. -/
def syncHelper (shares : Bool) (bloc : AccountSyncBloc σ) : AccountSyncBloc σ :=
  match bloc.getLoadedAccountConfig with
  | none => bloc
  | some config =>
    { bloc.add (.synchronizing config) with
      attempts := bloc.attempts ++ [⟨config, shares, if config.synchronized then .preparing else .connecting⟩] }

def share (bloc : AccountSyncBloc σ) : AccountSyncBloc σ := bloc.syncHelper true

def synchronize (bloc : AccountSyncBloc σ) : AccountSyncBloc σ := bloc.syncHelper false

def runSync : Resumption RemoteCall RemoteCall.Reply (Device σ) (Outcome ErrorKind Unit) →
    Routine (AccountSyncBloc σ) Failure (Stage σ)
  | .ret (.ok _) device, bloc => (.ok .flushing, { bloc with device := device })
  | .ret (.err error) device, bloc => (.err (.unsynchronized error), { bloc with device := device })
  | .ret .hang device, bloc => (.hang, { bloc with device := device })
  | .call request device resume, bloc =>
    (.ok (.synchronizing ⟨request, resume⟩), { bloc with device := device })

def complete (attempt : Attempt σ) : Routine (AccountSyncBloc σ) Failure (Stage σ) := fun bloc =>
  match attempt.stage with
  | .connecting => (.ok .creating, bloc)
  | .creating =>
    let (reply, server) := ServerRpcImpl.createAccount account bloc.server
    match reply with
    | .ok _ => (.ok .saving, { bloc with server := server })
    | .err error => (.err (.refused error), { bloc with server := server })
    | .hang => (.hang, { bloc with server := server })
  | .saving => (.ok .preparing, { bloc with saved := some attempt.newConfig })
  | .preparing => runSync (sync generate account.uuid bloc.device) bloc
  | .synchronizing call =>
    let (reply, server) := ServerRpcImpl.answer call.request bloc.server
    runSync (call.resume reply bloc.device) { bloc with server := server }
  | .flushing =>
    let (outcome, repo) := flush bloc.device.repo
    let bloc := { bloc with device := { bloc.device with repo := repo } }
    match outcome with
    | .ok _ => (.ok (if attempt.shares then .sharing else .succeeded), bloc)
    | .err error => (.err (.unsynchronized error), bloc)
    | .hang => (.hang, bloc)
  | .sharing => (.ok .succeeded, bloc)
  | .stuck | .succeeded | .failed _ => (.hang, bloc)

/-- What the attempt waits for is done, but nobody hears of it. -/
def unheard (attempt : Attempt σ) (bloc : AccountSyncBloc σ) : AccountSyncBloc σ :=
  match attempt.stage with
  | .creating => { bloc with server := (ServerRpcImpl.createAccount account bloc.server).2 }
  | .saving => { bloc with saved := some attempt.newConfig }
  | .synchronizing call => { bloc with server := (ServerRpcImpl.answer call.request bloc.server).2 }
  | _ => bloc

/-- The handlers of an attempt. Those for errors emit the config that it started with. -/
def settle (i : Nat) (attempt : Attempt σ) :
    Outcome Failure (Stage σ) × AccountSyncBloc σ → AccountSyncBloc σ
  | (.ok stage, bloc) =>
    let bloc := { bloc with attempts := bloc.attempts.set i { attempt with stage := stage } }
    match attempt.stage with
    | .flushing => bloc.add (.loaded attempt.newConfig)
    | _ => bloc
  | (.err failure, bloc) =>
    let bloc := { bloc with attempts := bloc.attempts.set i { attempt with stage := .failed failure } }
    (bloc.add (.error attempt.stage.errorKind failure)).add (.loaded attempt.config)
  | (.hang, bloc) => { bloc with attempts := bloc.attempts.set i { attempt with stage := .stuck } }

def underWay (bloc : AccountSyncBloc σ) (i : Nat) : Option (Attempt σ) :=
  bloc.attempts[i]?.filter fun attempt => attempt.stage.waits

end AccountSyncBloc

/-- What happens while the page of an account is open: its two buttons, the end of a step that an
    attempt waits for, what the rest of the app does to the repository, and what other clients send to
    the server. Nobody else creates an account with the id of this one. -/
inductive SharingEvent (σ : Type) (id : AccountId) where
  | share
  | synchronize
  | next (i : Nat)
  | fail (i : Nat) (message : String)
  | lost (i : Nat) (message : String)
  | stored (device : Device σ)
  | elsewhere (call : RemoteCall) (apart : ∀ account, call = .createAccount account → account.uuid ≠ id)

namespace AccountSyncBloc

variable {σ : Type} [Repository σ] (account : Account) (generate : Nat → TransactionId)

def step : SharingEvent σ account.uuid → AccountSyncBloc σ → AccountSyncBloc σ
  | .share, bloc => bloc.share
  | .synchronize, bloc => bloc.synchronize
  | .next i, bloc => match bloc.underWay i with
    | some attempt => settle i attempt (complete account generate attempt bloc)
    | none => bloc
  | .fail i message, bloc => match bloc.underWay i with
    | some attempt => settle i attempt (.err (.broken message), bloc)
    | none => bloc
  | .lost i message, bloc => match bloc.underWay i with
    | some attempt => settle i attempt (.err (.broken message), unheard account attempt bloc)
    | none => bloc
  | .stored device, bloc => { bloc with device := device }
  | .elsewhere call _, bloc => { bloc with server := (ServerRpcImpl.answer call bloc.server).2 }

end AccountSyncBloc

end Flouze
