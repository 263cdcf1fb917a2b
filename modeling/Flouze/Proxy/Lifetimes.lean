import Flouze.Proxy.Runs

namespace Flouze.IsolateProxy

open Machine

variable {Ptr Call Value State : Type}

def Reply.resultFor (handle : Nat) : Reply Value → Option (Except String Unit)
  | .opened other result => if other = handle then some result else none
  | .answered _ _ => none

structure View (Ptr Call : Type) where
  made : Bool
  current : Bool
  future : Handle Call
  arriving : List (Except String Unit)
  inst : Option Ptr

def System.view (system : System Ptr Call Value State) (handle : Nat) : View Ptr Call where
  made := decide (handle < system.app.made)
  current := decide (system.app.current = some handle)
  future := system.app.handles handle
  arriving := system.replies.filterMap (Reply.resultFor handle)
  inst := system.isolate.instances handle

/-- Whose the instance behind a handle is, once the isolate has nothing to do. -/
structure Owned (view : View Ptr Call) : Prop where
  fresh : view.made = false → view.current = false ∧ view.future = .opened
  opening : ∀ waiting, view.future = .opening waiting →
    ∃ result, view.arriving = [result] ∧ (view.inst ≠ none ↔ result = .ok ()) ∧
      (.close ∈ waiting ↔ view.current = false)
  opened : view.future = .opened → view.arriving = [] ∧ (view.inst ≠ none ↔ view.current = true)
  failed : ∀ error, view.future = .failed error → view.arriving = [] ∧ view.inst = none

section Messages

variable (native : Native Ptr Call Value State) (isolate : Isolate Ptr State) (handle id : Nat) (c : Call)

theorem work_call : ∃ replies : List (Reply Value), (∀ other, replies.filterMap (Reply.resultFor other) = []) ∧
    ∃ state, Isolate.work native (.call handle id c) isolate = (replies, { isolate with state := state }) := by
  cases there : isolate.instances handle with
  | none =>
    refine ⟨[], fun _ => rfl, isolate.state, ?_⟩
    simp only [Isolate.work, there]
  | some ptr =>
    refine ⟨[.answered id (native.handleCall ptr c isolate.state).1], fun _ => rfl,
      (native.handleCall ptr c isolate.state).2, ?_⟩
    simp only [Isolate.work, there]

theorem work_destroy : ∃ state, Isolate.work native (.destroy handle) isolate =
    ([], ⟨Function.update isolate.instances handle none, state, isolate.faulted⟩) := by
  cases there : isolate.instances handle with
  | none =>
    have same : Function.update isolate.instances handle none = isolate.instances := by
      rw [← there, Function.update_eq_self]
    refine ⟨isolate.state, ?_⟩
    simp only [same, Isolate.work, there]
  | some ptr =>
    refine ⟨native.free ptr isolate.state, ?_⟩
    simp only [Isolate.work, there]

theorem work_raw : ∃ replies : List (Reply Value), (∀ other, replies.filterMap (Reply.resultFor other) = []) ∧
    ∃ state, Isolate.work native (.raw handle id c) isolate =
      (replies, ⟨isolate.instances, state, isolate.faulted || (isolate.instances handle).isNone⟩) := by
  cases there : isolate.instances handle with
  | none =>
    refine ⟨[], fun _ => rfl, isolate.state, ?_⟩
    simp [Isolate.work, there]
  | some ptr =>
    refine ⟨[.answered id (native.handleCall ptr c isolate.state).1], fun _ => rfl,
      (native.handleCall ptr c isolate.state).2, ?_⟩
    simp [Isolate.work, there]

theorem work_init : ∃ (inst : Option Ptr) (result : Except String Unit) (state : State),
    (inst ≠ none ↔ result = .ok ()) ∧ (isolate.instances handle = none →
      Isolate.work native (.init handle) isolate =
        ([.opened handle result], ⟨Function.update isolate.instances handle inst, state, isolate.faulted⟩)) := by
  cases make : native.makeInstance isolate.state with
  | mk outcome state =>
    cases outcome with
    | ok ptr =>
      refine ⟨some ptr, .ok (), state, by simp, fun _ => ?_⟩
      simp only [Isolate.work, make]
    | error error =>
      refine ⟨none, .error error, state, by simp, fun missing => ?_⟩
      have same : Function.update isolate.instances handle none = isolate.instances := by
        rw [← missing, Function.update_eq_self]
      simp only [same, Isolate.work, make]

theorem work_deferred (waiting : List (Deferred Call)) (isolate : Isolate Ptr State) :
    ∃ (replies : List (Reply Value)) (after : Isolate Ptr State),
      workAll native (waiting.map (Deferred.message handle)) isolate = (replies, after) ∧
      (∀ other, replies.filterMap (Reply.resultFor other) = []) ∧ after.faulted = isolate.faulted ∧
      (∀ other, other ≠ handle → after.instances other = isolate.instances other) ∧
      (after.instances handle ≠ none ↔ isolate.instances handle ≠ none ∧ .close ∉ waiting) := by
  induction waiting generalizing isolate with
  | nil => exact ⟨[], isolate, rfl, fun _ => rfl, rfl, fun _ _ => rfl, by simp⟩
  | cons deferred waiting ih =>
    cases deferred with
    | call id c =>
      rcases work_call native isolate handle id c with ⟨first, silent, state, run⟩
      rcases ih { isolate with state := state } with ⟨rest, after, runs, silent', same, others, mine⟩
      refine ⟨first ++ rest, after, ?_, ?_, same, others, ?_⟩
      · simp only [List.map_cons, Deferred.message, workAll, run, runs]
      · intro other
        rw [List.filterMap_append, silent, silent', List.append_nil]
      · simpa using mine
    | close =>
      rcases work_destroy native isolate handle with ⟨state, run⟩
      rcases ih ⟨Function.update isolate.instances handle none, state, isolate.faulted⟩ with
        ⟨rest, after, runs, silent, same, others, mine⟩
      refine ⟨rest, after, ?_, silent, same, ?_, ?_⟩
      · simp only [List.map_cons, Deferred.message, workAll, run, runs, List.nil_append]
      · intro other differs
        exact (others other differs).trans (Function.update_of_ne differs _ _)
      · simpa using mine

end Messages

section Steps

variable {native : Native Ptr Call Value State} {system : System Ptr Call Value State}

theorem Owned.of_opened {view : View Ptr Call} (future : view.future = .opened)
    (fresh : view.made = false → view.current = false)
    (arrived : view.arriving = []) (held : view.inst ≠ none ↔ view.current = true) : Owned view := by
  refine ⟨fun unmade => ⟨fresh unmade, future⟩, ?_, fun _ => ⟨arrived, held⟩, ?_⟩
  · intro waiting other
    rw [future] at other
    cases other
  · intro error other
    rw [future] at other
    cases other

theorem Owned.of_opening {view : View Ptr Call} {waiting : List (Deferred Call)} (result : Except String Unit)
    (future : view.future = .opening waiting) (made : view.made = true) (arriving : view.arriving = [result])
    (there : view.inst ≠ none ↔ result = .ok ()) (closing : .close ∈ waiting ↔ view.current = false) : Owned view := by
  refine ⟨fun unmade => absurd (made.symm.trans unmade) (by decide), ?_, ?_, ?_⟩
  · intro other same
    obtain rfl := Handle.opening.inj (future.symm.trans same)
    exact ⟨result, arriving, there, closing⟩
  · intro other
    rw [future] at other
    cases other
  · intro error other
    rw [future] at other
    cases other

theorem Owned.of_failed {view : View Ptr Call} {error : String} (future : view.future = .failed error)
    (made : view.made = true) (arrived : view.arriving = []) (missing : view.inst = none) : Owned view := by
  refine ⟨fun unmade => absurd (made.symm.trans unmade) (by decide), ?_, ?_, fun _ _ => ⟨arrived, missing⟩⟩
  · intro waiting other
    rw [future] at other
    cases other
  · intro other
    rw [future] at other
    cases other

theorem Owned.made_of {view : View Ptr Call} (owned : Owned view) (future : view.future ≠ .opened) :
    view.made = true := by
  by_contra unmade
  exact future (owned.fresh (Bool.eq_false_iff.mpr unmade)).2

section Frames

variable {app app' : App Call Value} {isolate after : Isolate Ptr State} {replies answers : List (Reply Value)}
variable {handle : Nat}

theorem owned_apart (owned : Owned (System.view ⟨app, isolate, [], replies⟩ handle))
    (made : handle < app'.made ↔ handle < app.made)
    (current : app'.current = some handle ↔ app.current = some handle)
    (future : app'.handles handle = app.handles handle) (silent : answers.filterMap (Reply.resultFor handle) = [])
    (inst : after.instances handle = isolate.instances handle) :
    Owned (System.view ⟨app', after, [], replies ++ answers⟩ handle) := by
  have same : System.view ⟨app', after, [], replies ++ answers⟩ handle =
      System.view ⟨app, isolate, [], replies⟩ handle := by
    simp only [System.view, made, current, future, List.filterMap_append, silent, List.append_nil, inst]
  rw [same]
  exact owned

theorem owned_kept (owned : Owned (System.view ⟨app, isolate, [], replies⟩ handle)) (made : app'.made = app.made)
    (current : app'.current = app.current) (handles : app'.handles = app.handles)
    (silent : ∀ other, answers.filterMap (Reply.resultFor other) = []) (instances : after.instances = isolate.instances) :
    Owned (System.view ⟨app', after, [], replies ++ answers⟩ handle) :=
  owned_apart owned (by rw [made]) (by rw [current]) (by rw [handles]) (silent handle) (by rw [instances])

end Frames

section Calls

variable {app : App Call Value} {isolate : Isolate Ptr State} {replies : List (Reply Value)}

theorem owned_first (owned : ∀ handle, Owned (System.view ⟨app, isolate, [], replies⟩ handle))
    (closed : app.current = none) (c : Call) (handle : Nat) :
    Owned ((handled native (System.step native (.call c) ⟨app, isolate, [], replies⟩)).view handle) := by
  let app' : App Call Value := { app with
    current := some app.made
    handles := Function.update app.handles app.made (.opening [.call app.called c])
    made := app.made + 1
    called := app.called + 1 }
  have sent : app.call c = ([.init app.made], app') := by
    simp only [App.call, closed]
    rfl
  have new := owned app.made
  rcases new.fresh (by simp [System.view]) with ⟨unowned, future⟩
  rcases new.opened future with ⟨quiet, held⟩
  have missing : isolate.instances app.made = none := by
    rw [unowned] at held
    simpa [System.view] using held
  rcases work_init native isolate app.made with ⟨inst, result, state, there, run⟩
  have worked : workAll native [.init app.made] isolate =
      ([.opened app.made result], ⟨Function.update isolate.instances app.made inst, state, isolate.faulted⟩) := by
    simp only [workAll, run missing, List.append_nil]
  rw [System.step, sent, flush_send native rfl, worked]
  by_cases here : handle = app.made
  · subst here
    refine .of_opening result (Function.update_self _ _ _) ?_ ?_ ?_ ?_
    · simp [System.view, app']
    · simpa [System.view, Reply.resultFor] using quiet
    · simpa [System.view] using there
    · simp [System.view, app']
  · refine owned_apart (owned handle) ?_ ?_ (Function.update_of_ne here _ _) ?_ (Function.update_of_ne here _ _)
    · change handle < app.made + 1 ↔ handle < app.made
      omega
    · simp [app', closed, Ne.symm here]
    · simp [Reply.resultFor, Ne.symm here]

theorem owned_call (owned : ∀ handle, Owned (System.view ⟨app, isolate, [], replies⟩ handle)) (c : Call) (handle : Nat) :
    Owned ((handled native (System.step native (.call c) ⟨app, isolate, [], replies⟩)).view handle) := by
  cases current : app.current with
  | none => exact owned_first owned current c handle
  | some other =>
    rw [System.step, flush_send native rfl]
    cases future : app.handles other with
    | opening waiting =>
      let app' : App Call Value := { app with
        handles := Function.update app.handles other (.opening (waiting ++ [.call app.called c]))
        called := app.called + 1 }
      have sent : app.call c = ([], app') := by simp [App.call, current, future, app']
      rw [sent]
      by_cases here : handle = other
      · subst here
        rcases (owned handle).opening waiting future with ⟨result, arriving, there, closing⟩
        refine .of_opening result (Function.update_self _ _ _) ?_ ?_ there ?_
        · exact (owned handle).made_of (ne_of_eq_of_ne future (by simp))
        · simpa [System.view, workAll] using arriving
        · simpa [System.view, app'] using closing
      · exact owned_apart (owned handle) Iff.rfl Iff.rfl (Function.update_of_ne here _ _) rfl rfl
    | opened =>
      have sent : app.call c = ([.call other app.called c], { app with called := app.called + 1 }) := by
        simp only [App.call, current, future]
      rcases work_call native isolate other app.called c with
        ⟨answers, silent, state, run⟩
      have worked : workAll native [.call other app.called c] isolate = (answers, { isolate with state := state }) := by
        simp only [workAll, run, List.append_nil]
      rw [sent, worked]
      exact owned_kept (owned handle) rfl rfl rfl silent rfl
    | failed error =>
      have sent : app.call c = ([], { app with
          results := app.results ++ [(app.called, .error error)]
          called := app.called + 1 }) := by simp only [App.call, current, future]
      rw [sent]
      exact owned_kept (owned handle) rfl rfl rfl (fun _ => rfl) rfl

theorem owned_raw (owned : ∀ handle, Owned (System.view ⟨app, isolate, [], replies⟩ handle)) (target : Nat) (c : Call)
    (handle : Nat) :
    Owned ((handled native (System.step native (.raw target c) ⟨app, isolate, [], replies⟩)).view handle) := by
  rcases work_raw native isolate target app.called c with
    ⟨answers, silent, state, run⟩
  have worked : workAll native [.raw target app.called c] isolate =
      (answers, ⟨isolate.instances, state, isolate.faulted || (isolate.instances target).isNone⟩) := by
    simp only [workAll, run, List.append_nil]
  rw [System.step, App.raw, flush_send native rfl, worked]
  exact owned_kept (owned handle) rfl rfl rfl silent rfl

theorem owned_destroy (owned : ∀ handle, Owned (System.view ⟨app, isolate, [], replies⟩ handle)) (handle : Nat) :
    Owned ((handled native (System.step native .destroy ⟨app, isolate, [], replies⟩)).view handle) := by
  rw [System.step, flush_send native rfl]
  cases current : app.current with
  | none =>
    have sent : app.destroy = ([], app) := by simp only [App.destroy, current]
    rw [sent]
    exact owned_kept (owned handle) rfl rfl rfl (fun _ => rfl) rfl
  | some other =>
    have given_up : ∀ handle, handle ≠ other → ((none : Option Nat) = some handle ↔ app.current = some handle) := by
      intro handle apart
      simp [current, Ne.symm apart]
    cases future : app.handles other with
    | opening waiting =>
      let app' : App Call Value := { app with
        current := none
        handles := Function.update app.handles other (.opening (waiting ++ [.close])) }
      have sent : app.destroy = ([], app') := by simp only [App.destroy, current, future, app']
      rw [sent]
      by_cases here : handle = other
      · subst here
        rcases (owned handle).opening waiting future with ⟨result, arriving, there, _⟩
        refine .of_opening result (Function.update_self _ _ _) ?_ ?_ there ?_
        · exact (owned handle).made_of (ne_of_eq_of_ne future (by simp))
        · simpa [System.view, workAll] using arriving
        · simp [System.view, app']
      · exact owned_apart (owned handle) Iff.rfl (given_up handle here) (Function.update_of_ne here _ _) rfl rfl
    | opened =>
      have sent : app.destroy = ([.destroy other], { app with current := none }) := by
        simp only [App.destroy, current, future]
      rcases work_destroy native isolate other with ⟨state, run⟩
      have worked : workAll native [.destroy other] isolate =
          ([], ⟨Function.update isolate.instances other none, state, isolate.faulted⟩) := by
        simp only [workAll, run, List.append_nil]
      rw [sent, worked]
      by_cases here : handle = other
      · subst here
        refine .of_opened future (fun _ => rfl) ?_ ?_
        · simpa [System.view] using ((owned handle).opened future).1
        · simp [System.view]
      · exact owned_apart (owned handle) Iff.rfl (given_up handle here) rfl rfl (Function.update_of_ne here _ _)
    | failed error =>
      have sent : app.destroy = ([], { app with current := none }) := by simp only [App.destroy, current, future]
      rw [sent]
      by_cases here : handle = other
      · subst here
        rcases (owned handle).failed error future with ⟨arrived, missing⟩
        refine .of_failed future ?_ ?_ missing
        · exact (owned handle).made_of (ne_of_eq_of_ne future (by simp))
        · simpa [System.view, workAll] using arrived
      · exact owned_apart (owned handle) Iff.rfl (given_up handle here) rfl rfl rfl

theorem view_cons {handle : Nat} (reply : Reply Value) (silent : Reply.resultFor handle reply = none) :
    System.view ⟨app, isolate, [], reply :: replies⟩ handle = System.view ⟨app, isolate, [], replies⟩ handle := by
  simp only [System.view, List.filterMap_cons, silent]

theorem owned_arrived {other : Nat} {waiting : List (Deferred Call)} {result : Except String Unit}
    (owned : ∀ handle, Owned (System.view ⟨app, isolate, [], .opened other result :: replies⟩ handle))
    (future : app.handles other = .opening waiting) (handle : Nat) :
    Owned ((handled native (System.step native .deliver
      ⟨app, isolate, [], .opened other result :: replies⟩)).view handle) := by
  have apart : handle ≠ other → Owned (System.view ⟨app, isolate, [], replies⟩ handle) := by
    intro differs
    rw [← view_cons (.opened other result) (by simp [Reply.resultFor, Ne.symm differs])]
    exact owned handle
  have made := (owned other).made_of (ne_of_eq_of_ne future (by simp))
  rcases (owned other).opening waiting future with ⟨first, arriving, there, closing⟩
  have last : result = first ∧ replies.filterMap (Reply.resultFor other) = [] := by
    simpa [System.view, Reply.resultFor] using arriving
  rcases last with ⟨rfl, silent⟩
  rw [delivered_step, flush_send native rfl]
  cases result with
  | ok nothing =>
    cases nothing
    let app' : App Call Value := { app with handles := Function.update app.handles other .opened }
    have sent : app.receive (.opened other (.ok ()) : Reply Value) =
        (waiting.map (Deferred.message other), app') := by simp [App.receive, future, app']
    rcases work_deferred native other waiting isolate with ⟨answers, after, run, quiet, _, others, mine⟩
    rw [sent, run]
    by_cases here : handle = other
    · subst here
      refine .of_opened (Function.update_self _ _ _) ?_ ?_ ?_
      · intro unmade
        exact absurd (made.symm.trans unmade) (by decide)
      · simp [System.view, silent, quiet]
      · have alive : isolate.instances handle ≠ none := there.mpr rfl
        have closing' : .close ∉ waiting ↔ app.current = some handle := by simp [closing, System.view]
        simp [System.view, app', mine, alive, closing']
    · exact owned_apart (apart here) Iff.rfl Iff.rfl (Function.update_of_ne here _ _) (quiet handle) (others handle here)
  | error error =>
    let app' : App Call Value := { app with
      handles := Function.update app.handles other (.failed error)
      results := app.results ++ waiting.filterMap (Deferred.refused error) }
    have sent : app.receive (.opened other (.error error) : Reply Value) = ([], app') := by
      simp [App.receive, future, app']
    rw [sent]
    by_cases here : handle = other
    · subst here
      refine .of_failed (Function.update_self _ _ _) made ?_ ?_
      · simpa [System.view, workAll] using silent
      · simpa [System.view, workAll] using there
    · exact owned_apart (apart here) Iff.rfl Iff.rfl (Function.update_of_ne here _ _) rfl rfl

theorem owned_deliver {reply : Reply Value}
    (owned : ∀ handle, Owned (System.view ⟨app, isolate, [], reply :: replies⟩ handle)) (handle : Nat) :
    Owned ((handled native (System.step native .deliver ⟨app, isolate, [], reply :: replies⟩)).view handle) := by
  cases reply with
  | answered id result =>
    have mine := owned handle
    rw [view_cons _ rfl] at mine
    rw [delivered_step, flush_send native rfl]
    exact owned_kept mine rfl rfl rfl (fun _ => rfl) rfl
  | opened other result =>
    have awaited : ((⟨app, isolate, [], .opened other result :: replies⟩ :
        System Ptr Call Value State).view other).arriving ≠ [] := by
      simp [System.view, Reply.resultFor]
    cases future : app.handles other with
    | opening waiting => exact owned_arrived owned future handle
    | opened => exact absurd ((owned other).opened future).1 awaited
    | failed error => exact absurd ((owned other).failed error future).1 awaited

end Calls

theorem owned_step (owned : ∀ handle, Owned ((handled native system).view handle)) (event : Event Call) (handle : Nat) :
    Owned ((handled native (system.step native event)).view handle) := by
  have ahead : ∀ sent : App Call Value → List (Message Call) × App Call Value,
      handled native (system.send (sent system.app)) =
        handled native ((handled native system).send (sent (handled native system).app)) :=
    fun sent => handled_send (sent system.app)
  cases event with
  | call c =>
    rw [System.step, ahead (App.call c)]
    exact owned_call owned c handle
  | destroy =>
    rw [System.step, ahead App.destroy]
    exact owned_destroy owned handle
  | raw target c =>
    rw [System.step, ahead (App.raw target c)]
    exact owned_raw owned target c handle
  | handle =>
    rw [handled_handle]
    exact owned handle
  | deliver =>
    cases arrived : system.replies with
    | nil =>
      have stepped : system.step native .deliver = system := by simp only [System.step, arrived]
      rw [stepped]
      exact owned handle
    | cons reply replies =>
      have some : system.replies ≠ [] := by simp [arrived]
      rw [handled_deliver some]
      have shape : handled native system = ⟨system.app, (workAll native system.queue system.isolate).2, [],
          reply :: (replies ++ (workAll native system.queue system.isolate).1)⟩ := by
        rw [handled, arrived]
        rfl
      rw [shape] at owned ⊢
      exact owned_deliver owned handle

theorem owned_after (native : Native Ptr Call Value State) (events : List (Event Call)) (state : State) (handle : Nat) :
    Owned ((handled native (after (System.step native) events (.initial state))).view handle) := by
  suffices kept : ∀ (events : List (Event Call)) (system : System Ptr Call Value State),
      (∀ handle, Owned ((handled native system).view handle)) →
      ∀ handle, Owned ((handled native (after (System.step native) events system)).view handle) by
    refine kept events (.initial state) (fun handle => ?_) handle
    exact .of_opened rfl (fun _ => rfl) rfl (by simp [handled, System.view, System.initial, App.initial, workAll])
  intro events
  induction events with
  | nil => exact fun system owned => owned
  | cons event events ih => exact fun system owned => ih _ fun handle => owned_step owned event handle

end Steps

section Faults

variable {native : Native Ptr Call Value State} {system : System Ptr Call Value State}

def Message.Raw : Message Call → Prop
  | .raw _ _ _ => True
  | .init _ | .call _ _ _ | .destroy _ => False

theorem faulted_work {queue : List (Message Call)} (plain : ∀ message ∈ queue, ¬ message.Raw)
    (isolate : Isolate Ptr State) : (workAll native queue isolate).2.faulted = isolate.faulted := by
  induction queue generalizing isolate with
  | nil => rfl
  | cons message queue ih =>
    refine (ih (fun later member => plain later (by simp [member])) _).trans ?_
    cases message with
    | raw handle id c => exact absurd True.intro (plain (.raw handle id c) (by simp))
    | init handle =>
      simp only [Isolate.work]
      split <;> rfl
    | call handle id c =>
      simp only [Isolate.work]
      split <;> rfl
    | destroy handle =>
      simp only [Isolate.work]
      split <;> rfl

theorem plain_call (c : Call) (app : App Call Value) : ∀ message ∈ (app.call c).1, ¬ message.Raw := by
  unfold App.call
  split
  · simp [Message.Raw]
  · split <;> simp [Message.Raw]

theorem plain_destroy (app : App Call Value) : ∀ message ∈ app.destroy.1, ¬ message.Raw := by
  unfold App.destroy
  split
  · simp
  · split <;> simp [Message.Raw]

theorem plain_receive (reply : Reply Value) (app : App Call Value) :
    ∀ message ∈ (app.receive reply).1, ¬ message.Raw := by
  unfold App.receive
  split
  · split
    · intro message member
      rcases List.mem_map.mp member with ⟨deferred, _, rfl⟩
      cases deferred <;> exact id
    · simp
    · simp
  · simp

theorem faulted_send {sent : List (Message Call) × App Call Value} (plain : ∀ message ∈ sent.1, ¬ message.Raw) :
    (handled native (system.send sent)).isolate.faulted = (handled native system).isolate.faulted := by
  rw [handled_send, flush_send native rfl]
  exact faulted_work plain _

theorem faulted_raw (handle : Nat) (c : Call) :
    (handled native (system.step native (.raw handle c))).isolate.faulted =
      ((handled native system).isolate.faulted || ((handled native system).isolate.instances handle).isNone) := by
  rw [System.step, handled_send, flush_send native rfl]
  rcases work_raw native (handled native system).isolate handle system.app.called c with
    ⟨answers, _, state, run⟩
  simp only [App.raw, workAll, run]

theorem faulted_step {event : Event Call} (plain : ∀ handle c, event ≠ .raw handle c) :
    (handled native (system.step native event)).isolate.faulted = (handled native system).isolate.faulted := by
  cases event with
  | call c => exact faulted_send (plain_call c system.app)
  | destroy => exact faulted_send (plain_destroy system.app)
  | raw handle c => exact absurd rfl (plain handle c)
  | handle => rw [handled_handle]
  | deliver =>
    cases arrived : system.replies with
    | nil => simp only [System.step, arrived]
    | cons reply replies =>
      have stepped : system.step native .deliver =
          System.send (system.app.receive reply) { system with replies := replies } := by
        simp only [System.step, arrived]
      rw [stepped, faulted_send (plain_receive reply system.app)]
      rfl

end Faults

section Runs

variable {native : Native Ptr Call Value State}

theorem instances_workAll {queue : List (Message Call)} {handle : Nat} (kept : .destroy handle ∉ queue)
    {isolate : Isolate Ptr State} (there : isolate.instances handle ≠ none) :
    (workAll native queue isolate).2.instances handle ≠ none := by
  induction queue generalizing isolate with
  | nil => exact there
  | cons message queue ih =>
    refine ih (fun later => kept (List.mem_cons_of_mem _ later)) ?_
    cases message with
    | init other =>
      simp only [Isolate.work]
      split
      · by_cases here : handle = other
        · simp [here]
        · simpa [Function.update_of_ne here] using there
      · exact there
    | call other id c =>
      simp only [Isolate.work]
      split <;> exact there
    | raw other id c =>
      simp only [Isolate.work]
      split <;> exact there
    | destroy other =>
      have differ : handle ≠ other := fun same => kept (same ▸ List.mem_cons_self)
      simp only [Isolate.work]
      split
      · simpa [Function.update_of_ne differ] using there
      · exact there

def System.Freeing (system : System Ptr Call Value State) (handle : Nat) : Prop :=
  .destroy handle ∈ system.queue ∨ ∃ waiting, system.app.handles handle = .opening waiting ∧ .close ∈ waiting

/-- Whatever the application asks for, an instance that it does not hold is going to be freed. Everything comes
    to an end, unless the isolate is in a call that never returns, and then there is an instance behind the
    handle that the application holds and behind no other: none is lost, and none stays that was closed. -/
theorem instances_owned (native : Native Ptr Call Value State) (events : List (Event Call)) (state : State) :
    let reached := after (System.step native) events (.initial state)
    (∀ handle, reached.isolate.instances handle ≠ none → reached.app.current = some handle ∨ reached.Freeing handle) ∧
    ∃ rest, Draining rest ∧
      let ended := after (System.step native) rest reached
      ended.replies = [] ∧ (ended.Blocked native ∨ ended.queue = [] ∧
        ∀ handle, ended.isolate.instances handle ≠ none ↔
          ended.app.current = some handle ∧ ended.app.handles handle = .opened) := by
  intro reached
  constructor
  · intro handle there
    have owned : Owned ((handled native reached).view handle) := owned_after native events state handle
    by_cases freed : .destroy handle ∈ reached.queue
    · exact .inr (.inl freed)
    have stays : (handled native reached).isolate.instances handle ≠ none := instances_workAll freed there
    cases future : reached.app.handles handle with
    | opening waiting =>
      rcases owned.opening waiting future with ⟨_, _, _, closing⟩
      by_cases held : reached.app.current = some handle
      · exact .inl held
      · exact .inr (.inr ⟨waiting, future, closing.mpr (decide_eq_false held)⟩)
    | opened => exact .inl (of_decide_eq_true ((owned.opened future).2.mp stays))
    | failed error => exact absurd (owned.failed error future).2 stays
  · rcases rests_reached native reached with ⟨rest, draining, silent, stops⟩
    refine ⟨rest, draining, ?_⟩
    intro ended
    refine ⟨silent, stops.symm.imp id fun idle => ⟨idle, fun handle => ?_⟩⟩
    have owned := owned_after native (events ++ rest) state handle
    have whole : after (System.step native) (events ++ rest) (.initial state) = ended := after_append events rest _
    rw [whole, handled_idle idle] at owned
    cases future : ended.app.handles handle with
    | opening waiting =>
      rcases owned.opening waiting future with ⟨result, arriving, _⟩
      have nothing : ended.replies = [] := silent
      simp [System.view, nothing] at arriving
    | opened => simpa [System.view] using (owned.opened future).2
    | failed error => simpa [System.view] using (owned.failed error future).2

def Addressed (event : Event Call) (system : System Ptr Call Value State) : Prop :=
  ∀ handle c, event = .raw handle c → handle < system.app.made ∧ system.app.handles handle = .opened

def Held (event : Event Call) (system : System Ptr Call Value State) : Prop :=
  ∀ handle c, event = .raw handle c → system.app.current = some handle

/-- A use of an address comes after the instance has been freed exactly if the application has closed
    the handle before, however little the isolate has done of what it was sent by then. -/
theorem used_after_freed_iff (native : Native Ptr Call Value State) (events : List (Event Call)) (state : State)
    (addressed : Throughout (System.step native) Addressed events (.initial state)) :
    (∀ before later, events = before ++ later →
      (handled native (after (System.step native) before (.initial state))).isolate.faulted = false) ↔
        Throughout (System.step native) Held events (.initial state) := by
  let There : Event Call → System Ptr Call Value State → Prop := fun event system =>
    ∀ handle c, event = .raw handle c → (handled native system).isolate.instances handle ≠ none
  have exactly : ∀ event (system : System Ptr Call Value State), (handled native system).isolate.faulted = false →
      ((handled native (system.step native event)).isolate.faulted = false ↔ There event system) := by
    intro event system sound
    by_cases raw : ∃ handle c, event = .raw handle c
    · rcases raw with ⟨handle, c, rfl⟩
      rw [faulted_raw, sound, Bool.false_or, Option.isNone_eq_false_iff, Option.isSome_iff_ne_none]
      constructor
      · intro there other c' same
        rcases Event.raw.inj same with ⟨rfl, rfl⟩
        exact there
      · exact fun there => there handle c rfl
    · have plain : ∀ handle c, event ≠ .raw handle c := fun handle c same => raw ⟨handle, c, same⟩
      rw [faulted_step plain]
      exact iff_of_true sound fun handle c same => absurd same (plain handle c)
  rw [lasts_iff (fun system : System Ptr Call Value State => (handled native system).isolate.faulted = false) exactly rfl,
    throughout_iff, throughout_iff]
  rw [throughout_iff] at addressed
  have agree : ∀ before event later, events = before ++ event :: later →
      (There event (after (System.step native) before (.initial state)) ↔
        Held event (after (System.step native) before (.initial state))) := by
    intro before event later split
    refine forall_congr' fun handle => forall_congr' fun c => forall_congr' fun raw => ?_
    rcases addressed before event later split handle c raw with ⟨_, opened⟩
    have held := ((owned_after native before state handle).opened opened).2
    exact held.trans decide_eq_true_iff
  constructor
  · exact fun all before event later split => (agree before event later split).mp (all before event later split)
  · exact fun all before event later split => (agree before event later split).mpr (all before event later split)

def pausedSync : List (Event Nat) := [.call 2, .handle, .deliver, .handle, .deliver, .destroy, .raw 0 3]

theorem used_after_freed_iff_paused : ¬ ∀ before later, pausedSync = before ++ later →
    (handled tally (after (System.step tally) before (.initial 0))).isolate.faulted = false := by
  have addressed : Throughout (System.step tally) Addressed pausedSync (.initial 0) := by
    simp [pausedSync, Throughout, Addressed, System.step, System.initial, App.initial, App.call, App.destroy,
      System.send, Isolate.work, Isolate.hangs, App.receive, Deferred.message, tally, Function.update_apply]
  rw [used_after_freed_iff tally pausedSync 0 addressed, throughout_iff]
  intro held
  have at_raw := held [.call 2, .handle, .deliver, .handle, .deliver, .destroy] (.raw 0 3) [] rfl 0 3 rfl
  cases at_raw

end Runs

end Flouze.IsolateProxy
