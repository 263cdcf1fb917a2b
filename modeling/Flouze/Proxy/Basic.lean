import Flouze.Lib.Machine
import Mathlib.Logic.Function.Basic

/-! The proxy between the application and the native code, which runs in an isolate of its own. -/

namespace Flouze.IsolateProxy

/-- The native code behind a proxy. An instance is a pointer into the state that it works on. A call may never
    return, and what is said of its result then does not count. -/
structure Native (Ptr Call Value State : Type) where
  makeInstance : State → Except String Ptr × State
  handleCall : Ptr → Call → State → Except String Value × State
  free : Ptr → State → State
  makes : State → Bool
  returns : Ptr → Call → State → Bool

/-- What the isolate receives, in the order in which it was sent: a port takes the number of the handle
    that leads to it. A `raw` call comes by the proxy of another class, with the address of the instance. -/
inductive Message (Call : Type) where
  | init (handle : Nat)
  | call (handle id : Nat) (call : Call)
  | destroy (handle : Nat)
  | raw (handle id : Nat) (call : Call)

/-- What the isolate sends back. Nobody looks at the answer to `DestroyCall`, nor at the port that is
    sent after an instance could not be made. -/
inductive Reply (Value : Type) where
  | opened (handle : Nat) (result : Except String Unit)
  | answered (id : Nat) (result : Except String Value)

inductive Deferred (Call : Type) where
  | call (id : Nat) (call : Call)
  | close

inductive Handle (Call : Type) where
  | opening (waiting : List (Deferred Call))
  | opened
  | failed (error : String)

structure App (Call Value : Type) where
  current : Option Nat
  handles : Nat → Handle Call
  made : Nat
  called : Nat
  results : List (Nat × Except String Value)

structure Isolate (Ptr State : Type) where
  instances : Nat → Option Ptr
  state : State
  /-- An instance was used after it had been freed. -/
  faulted : Bool

structure System (Ptr Call Value State : Type) where
  app : App Call Value
  isolate : Isolate Ptr State
  queue : List (Message Call)
  replies : List (Reply Value)

inductive Event (Call : Type) where
  | call (call : Call)
  | destroy
  | raw (handle : Nat) (call : Call)
  /-- The isolate takes the next message. -/
  | handle
  /-- The application takes the next reply. -/
  | deliver

variable {Ptr Call Value State : Type}

def Deferred.message (handle : Nat) : Deferred Call → Message Call
  | call id c => .call handle id c
  | close => .destroy handle

def Deferred.refused (error : String) : Deferred Call → Option (Nat × Except String Value)
  | call id _ => some (id, .error error)
  | close => none

namespace App

def initial : App Call Value := ⟨none, fun _ => .opened, 0, 0, []⟩

/-- `ClosableHandle.ptr`, and `call` once it has the port. -/
def call (c : Call) (app : App Call Value) : List (Message Call) × App Call Value :=
  match app.current with
  | none =>
    ([.init app.made],
      { app with
        current := some app.made
        handles := Function.update app.handles app.made (.opening [.call app.called c])
        made := app.made + 1
        called := app.called + 1 })
  | some handle => match app.handles handle with
    | .opening waiting =>
      ([], { app with
        handles := Function.update app.handles handle (.opening (waiting ++ [.call app.called c]))
        called := app.called + 1 })
    | .opened => ([.call handle app.called c], { app with called := app.called + 1 })
    | .failed error =>
      ([], { app with results := app.results ++ [(app.called, .error error)], called := app.called + 1 })

/-- `ClosableHandle.close` -/
def destroy (app : App Call Value) : List (Message Call) × App Call Value :=
  match app.current with
  | none => ([], app)
  | some handle => match app.handles handle with
    | .opening waiting =>
      ([], { app with
        current := none
        handles := Function.update app.handles handle (.opening (waiting ++ [.close])) })
    | .opened => ([.destroy handle], { app with current := none })
    | .failed _ => ([], { app with current := none })

/-- `Sync.sync` and `Sync.cloneRemote`, once they have the address. -/
def raw (handle : Nat) (c : Call) (app : App Call Value) : List (Message Call) × App Call Value :=
  ([.raw handle app.called c], { app with called := app.called + 1 })

def receive : Reply Value → App Call Value → List (Message Call) × App Call Value
  | .opened handle result, app => match app.handles handle, result with
    | .opening waiting, .ok () =>
      (waiting.map (Deferred.message handle), { app with handles := Function.update app.handles handle .opened })
    | .opening waiting, .error error =>
      ([], { app with
        handles := Function.update app.handles handle (.failed error)
        results := app.results ++ waiting.filterMap (Deferred.refused error) })
    | _, _ => ([], app)
  | .answered id result, app => ([], { app with results := app.results ++ [(id, result)] })

end App

namespace Isolate

variable (native : Native Ptr Call Value State)

def hangs : Message Call → Isolate Ptr State → Bool
  | .init _, isolate => !native.makes isolate.state
  | .call handle _ c, isolate | .raw handle _ c, isolate => match isolate.instances handle with
    | some ptr => !native.returns ptr c isolate.state
    | none => false
  | .destroy _, _ => false

/-- `spawnInIsolate` and `handleCalls`. What is sent to a port that is closed is lost. -/
def work : Message Call → Isolate Ptr State → List (Reply Value) × Isolate Ptr State
  | .init handle, isolate => match native.makeInstance isolate.state with
    | (.ok ptr, state) =>
      ([.opened handle (.ok ())],
        { isolate with instances := Function.update isolate.instances handle (some ptr), state := state })
    | (.error error, state) => ([.opened handle (.error error)], { isolate with state := state })
  | .call handle id c, isolate => match isolate.instances handle with
    | some ptr =>
      ([.answered id (native.handleCall ptr c isolate.state).1],
        { isolate with state := (native.handleCall ptr c isolate.state).2 })
    | none => ([], isolate)
  | .destroy handle, isolate => match isolate.instances handle with
    | some ptr =>
      ([], { isolate with
        instances := Function.update isolate.instances handle none
        state := native.free ptr isolate.state })
    | none => ([], isolate)
  | .raw handle id c, isolate => match isolate.instances handle with
    | some ptr =>
      ([.answered id (native.handleCall ptr c isolate.state).1],
        { isolate with state := (native.handleCall ptr c isolate.state).2 })
    | none => ([], { isolate with faulted := true })

end Isolate

namespace System

def initial (state : State) : System Ptr Call Value State := ⟨.initial, ⟨fun _ => none, state, false⟩, [], []⟩

def send (sent : List (Message Call) × App Call Value) (system : System Ptr Call Value State) :
    System Ptr Call Value State :=
  { system with app := sent.2, queue := system.queue ++ sent.1 }

def step (native : Native Ptr Call Value State) (event : Event Call) (system : System Ptr Call Value State) :
    System Ptr Call Value State :=
  match event with
  | .call c => system.send (system.app.call c)
  | .destroy => system.send system.app.destroy
  | .raw handle c => system.send (system.app.raw handle c)
  | .handle => match system.queue with
    | [] => system
    | message :: queue =>
      if Isolate.hangs native message system.isolate then system
      else
        let worked := Isolate.work native message system.isolate
        { system with isolate := worked.2, queue := queue, replies := system.replies ++ worked.1 }
  | .deliver => match system.replies with
    | [] => system
    | reply :: replies => { system with replies := replies }.send (system.app.receive reply)

def Blocked (native : Native Ptr Call Value State) (system : System Ptr Call Value State) : Prop :=
  ∃ message queue, system.queue = message :: queue ∧ Isolate.hangs native message system.isolate = true

end System

/-- The same without an isolate: the instance is there, and a call returns what it returns. -/
inductive Instance (Ptr : Type) where
  | none
  | alive (ptr : Ptr)
  | failed (error : String)

structure Session (Ptr Value State : Type) where
  inst : Instance Ptr
  state : State
  called : Nat
  results : List (Nat × Except String Value)
  /-- A call has been made that never returns. -/
  stuck : Bool

namespace Session

variable (native : Native Ptr Call Value State)

def initial (state : State) : Session Ptr Value State := ⟨.none, state, 0, [], false⟩

def open_ (session : Session Ptr Value State) : Session Ptr Value State :=
  match session.inst with
  | .none =>
    if native.makes session.state then match native.makeInstance session.state with
      | (.ok ptr, state) => { session with inst := .alive ptr, state := state }
      | (.error error, state) => { session with inst := .failed error, state := state }
    else { session with stuck := true }
  | _ => session

def answer (c : Call) (session : Session Ptr Value State) : Session Ptr Value State :=
  match session.inst with
  | .alive ptr =>
    if native.returns ptr c session.state then
      { session with
        state := (native.handleCall ptr c session.state).2
        called := session.called + 1
        results := session.results ++ [(session.called, (native.handleCall ptr c session.state).1)] }
    else { session with stuck := true }
  | .failed error =>
    { session with
      called := session.called + 1
      results := session.results ++ [(session.called, .error error)] }
  | .none => session

def move (event : Event Call) (session : Session Ptr Value State) : Session Ptr Value State :=
  match event with
  | .call c => (session.open_ native).answer native c
  | .raw _ c => session.answer native c
  | .destroy => match session.inst with
    | .alive ptr => { session with inst := .none, state := native.free ptr session.state }
    | _ => { session with inst := .none }
  | .handle | .deliver => session

def step (event : Event Call) (session : Session Ptr Value State) : Session Ptr Value State :=
  if session.stuck then session else session.move native event

end Session

end Flouze.IsolateProxy
