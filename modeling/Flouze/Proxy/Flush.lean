import Flouze.Proxy.Basic

namespace Flouze.IsolateProxy

variable {Ptr Call Value State : Type}

/-- A call is not made while a handle that is closed already is still opening, and an address is used
    only as long as its handle is open. -/
def Calm : Event Call → System Ptr Call Value State → Prop
  | .call _, system => system.app.current = none → ∀ handle waiting, system.app.handles handle ≠ .opening waiting
  | .raw handle _, system => system.app.current = some handle ∧ system.app.handles handle = .opened
  | .destroy, _ | .handle, _ | .deliver, _ => True

structure Native.Returning (native : Native Ptr Call Value State) : Prop where
  makes : ∀ state, native.makes state = true
  returns : ∀ ptr c state, native.returns ptr c state = true

section Flush

variable (native : Native Ptr Call Value State)

def workAll : List (Message Call) → Isolate Ptr State → List (Reply Value) × Isolate Ptr State
  | [], isolate => ([], isolate)
  | message :: queue, isolate =>
    let first := Isolate.work native message isolate
    let rest := workAll queue first.2
    (first.1 ++ rest.1, rest.2)

def receiveAll : List (Reply Value) → App Call Value → List (Message Call) × App Call Value
  | [], app => ([], app)
  | reply :: replies, app =>
    let first := app.receive reply
    let rest := receiveAll replies first.2
    (first.1 ++ rest.1, rest.2)

/-- The isolate has taken everything that was sent to it, as if every call returned. -/
def handled (system : System Ptr Call Value State) : System Ptr Call Value State :=
  let worked := workAll native system.queue system.isolate
  { system with isolate := worked.2, queue := [], replies := system.replies ++ worked.1 }

def delivered (system : System Ptr Call Value State) : System Ptr Call Value State :=
  let received := receiveAll system.replies system.app
  { system with app := received.2, queue := system.queue ++ received.1, replies := [] }

/-- Everything under way has come to its end. The second time, no handle is opening any more. -/
def flush (system : System Ptr Call Value State) : System Ptr Call Value State :=
  delivered (handled native (delivered (handled native system)))

def System.session (system : System Ptr Call Value State) : Session Ptr Value State where
  inst := match system.app.current with
    | none => .none
    | some handle => match system.app.handles handle with
      | .opening _ => .none
      | .failed error => .failed error
      | .opened => match system.isolate.instances handle with
        | some ptr => .alive ptr
        | none => .none
  state := system.isolate.state
  called := system.app.called
  results := system.app.results
  stuck := false

variable {native}

theorem workAll_append (first second : List (Message Call)) (isolate : Isolate Ptr State) :
    workAll native (first ++ second) isolate =
      ((workAll native first isolate).1 ++ (workAll native second (workAll native first isolate).2).1,
        (workAll native second (workAll native first isolate).2).2) := by
  induction first generalizing isolate with
  | nil => rfl
  | cons message queue ih => simp only [List.cons_append, workAll, ih, List.append_assoc]

theorem receiveAll_append (first second : List (Reply Value)) (app : App Call Value) :
    receiveAll (first ++ second) app =
      ((receiveAll first app).1 ++ (receiveAll second (receiveAll first app).2).1,
        (receiveAll second (receiveAll first app).2).2) := by
  induction first generalizing app with
  | nil => rfl
  | cons reply replies ih => simp only [List.cons_append, receiveAll, ih, List.append_assoc]

theorem current_receive (reply : Reply Value) (app : App Call Value) : (app.receive reply).2.current = app.current := by
  unfold App.receive
  split
  · split <;> rfl
  · rfl

theorem current_receiveAll (replies : List (Reply Value)) (app : App Call Value) :
    (receiveAll replies app).2.current = app.current := by
  induction replies generalizing app with
  | nil => rfl
  | cons reply replies ih => exact (ih _).trans (current_receive reply app)

variable {system : System Ptr Call Value State}

theorem handled_idle (idle : system.queue = []) : handled native system = system := by
  rcases system with ⟨app, isolate, queue, replies⟩
  obtain rfl : queue = [] := idle
  simp [handled, workAll]

theorem handled_handled : handled native (handled native system) = handled native system := by
  simp [handled, workAll]

theorem handled_send (sent : List (Message Call) × App Call Value) :
    handled native (system.send sent) = handled native ((handled native system).send sent) := by
  simp [handled, System.send, workAll_append]

theorem handled_handle : handled native (system.step native .handle) = handled native system := by
  cases waiting : system.queue with
  | nil => simp only [System.step, waiting]
  | cons message queue =>
    simp only [System.step, waiting]
    split
    · rfl
    · simp [handled, waiting, workAll]

theorem handled_deliver (some : system.replies ≠ []) :
    handled native (system.step native .deliver) = handled native ((handled native system).step native .deliver) := by
  cases arrived : system.replies with
  | nil => exact absurd arrived some
  | cons reply replies => simp [handled, System.step, System.send, arrived, workAll_append]

theorem flush_handled : flush native (handled native system) = flush native system := by
  rw [flush, handled_handled]
  rfl

end Flush

def answer (given : Nat × Except String Value) : Reply Value := .answered given.1 given.2

def deferred (given : Nat × Call) : Deferred Call := .call given.1 given.2

/-- What a system can be like once its isolate has nothing to do. -/
inductive Phase (system : System Ptr Call Value State) : Prop
  | steady (answers : List (Nat × Except String Value)) (idle : system.queue = [])
      (replies : system.replies = answers.map answer)
      (still : ∀ handle waiting, system.app.handles handle ≠ .opening waiting)
      (alive : ∀ handle, system.app.current = some handle → system.app.handles handle = .opened →
        system.isolate.instances handle ≠ none)
      (silent : ∀ handle error, system.app.current = some handle → system.app.handles handle = .failed error →
        answers = [])
  | arriving (answers : List (Nat × Except String Value)) (handle : Nat) (result : Except String Unit)
      (calls : List (Nat × Call)) (waiting : List (Deferred Call)) (idle : system.queue = [])
      (replies : system.replies = answers.map answer ++ [.opened handle result])
      (opening : system.app.handles handle = .opening waiting)
      (only : ∀ other waiting', system.app.handles other = .opening waiting' → other = handle)
      (alive : result = .ok () → system.isolate.instances handle ≠ none) (asked : calls ≠ [])
      (waits : (system.app.current = some handle ∧ waiting = calls.map deferred) ∨
        (system.app.current = none ∧ waiting = calls.map deferred ++ [.close]))

section Ends

variable (native : Native Ptr Call Value State) {app : App Call Value} {isolate : Isolate Ptr State}
variable {handle : Nat} {waiting : List (Deferred Call)}

theorem receive_answers (answers : List (Nat × Except String Value)) (app : App Call Value) :
    receiveAll (answers.map answer) app = ([], { app with results := app.results ++ answers }) := by
  induction answers generalizing app with
  | nil => simp [receiveAll]
  | cons given answers ih => simp [receiveAll, answer, App.receive, ih]

theorem work_calls {ptr : Ptr} (calls : List (Nat × Call)) (isolate : Isolate Ptr State)
    (alive : isolate.instances handle = some ptr) :
    ∃ (answers : List (Nat × Except String Value)) (state : State),
      workAll native ((calls.map deferred).map (Deferred.message handle)) isolate =
        (answers.map answer, { isolate with state := state }) := by
  induction calls generalizing isolate with
  | nil => exact ⟨[], isolate.state, rfl⟩
  | cons given calls ih =>
    rcases given with ⟨id, c⟩
    let next : Isolate Ptr State := { isolate with state := (native.handleCall ptr c isolate.state).2 }
    rcases ih next alive with ⟨answers, state, run⟩
    refine ⟨(id, (native.handleCall ptr c isolate.state).1) :: answers, state, ?_⟩
    have first : Isolate.work native (.call handle id c) isolate =
        ([.answered id (native.handleCall ptr c isolate.state).1], next) := by
      simp only [Isolate.work, alive]
      rfl
    simp only [List.map_cons, deferred, Deferred.message, workAll, first]
    rw [run]
    rfl

theorem flush_steady (app : App Call Value) (isolate : Isolate Ptr State)
    (answers : List (Nat × Except String Value)) :
    flush native ⟨app, isolate, [], answers.map answer⟩ =
      ⟨{ app with results := app.results ++ answers }, isolate, [], []⟩ := by
  simp [flush, handled, delivered, workAll, receive_answers, receiveAll]

theorem flush_opened (answers : List (Nat × Except String Value)) (opening : app.handles handle = .opening waiting)
    {later : List (Nat × Except String Value)} {after : Isolate Ptr State}
    (run : workAll native (waiting.map (Deferred.message handle)) isolate = (later.map answer, after)) :
    flush native ⟨app, isolate, [], answers.map answer ++ [.opened handle (.ok ())]⟩ =
      ⟨{ app with
          handles := Function.update app.handles handle .opened
          results := app.results ++ answers ++ later }, after, [], []⟩ := by
  simp [flush, handled, delivered, workAll, receiveAll_append, receive_answers, receiveAll, App.receive, opening, run]

theorem flush_failed (isolate : Isolate Ptr State) (answers : List (Nat × Except String Value))
    (opening : app.handles handle = .opening waiting) (error : String) :
    flush native ⟨app, isolate, [], answers.map answer ++ [.opened handle (.error error)]⟩ =
      ⟨{ app with
          handles := Function.update app.handles handle (.failed error)
          results := app.results ++ answers ++ waiting.filterMap (Deferred.refused error) }, isolate, [], []⟩ := by
  simp [flush, handled, delivered, workAll, receiveAll_append, receive_answers, receiveAll, App.receive, opening]

theorem flush_send {system : System Ptr Call Value State} (idle : system.queue = [])
    (sent : List (Message Call) × App Call Value) :
    handled native (system.send sent) = ⟨sent.2, (workAll native sent.1 system.isolate).2, [],
      system.replies ++ (workAll native sent.1 system.isolate).1⟩ := by
  simp [handled, System.send, idle]

end Ends

section Events

variable {native : Native Ptr Call Value State} {system : System Ptr Call Value State}

/-- An event of the application comes to the same as one of the session, when everything under way ends. -/
def Simulated (native : Native Ptr Call Value State) (event : Event Call) (system : System Ptr Call Value State) :
    Prop :=
  Phase (handled native (system.step native event)) ∧
    (flush native (system.step native event)).session = (flush native system).session.step native event

theorem simulated_first (returning : native.Returning) {app : App Call Value} (closed : app.current = none)
    (still : ∀ handle waiting, app.handles handle ≠ .opening waiting) (answers : List (Nat × Except String Value))
    (isolate : Isolate Ptr State) (c : Call) :
    Simulated native (.call c) ⟨app, isolate, [], answers.map answer⟩ := by
  let waiting : List (Deferred Call) := [.call app.called c]
  let app' : App Call Value := { app with
    current := some app.made
    handles := Function.update app.handles app.made (.opening waiting)
    made := app.made + 1
    called := app.called + 1 }
  have sent : app.call c = ([.init app.made], app') := by
    simp only [App.call, closed]
    rfl
  have opening : app'.handles app.made = .opening waiting := Function.update_self _ _ _
  have only : ∀ other waiting', app'.handles other = .opening waiting' → other = app.made := by
    intro other waiting' same
    by_contra differ
    exact still other waiting' ((Function.update_of_ne differ _ _).symm.trans same)
  have stepped : (⟨app, isolate, [], answers.map answer⟩ : System Ptr Call Value State).step native (.call c) =
      System.send ([.init app.made], app') ⟨app, isolate, [], answers.map answer⟩ := by
    rw [System.step, sent]
  cases make : native.makeInstance isolate.state with
  | mk outcome state =>
    cases outcome with
    | ok ptr =>
      let isolate' : Isolate Ptr State :=
        { isolate with instances := Function.update isolate.instances app.made (some ptr), state := state }
      have worked : workAll native [.init app.made] isolate = ([.opened app.made (.ok ())], isolate') := by
        simp only [workAll, Isolate.work, make]
        rfl
      have reached : handled native ((⟨app, isolate, [], answers.map answer⟩ : System Ptr Call Value State).step native
          (.call c)) = ⟨app', isolate', [], answers.map answer ++ [.opened app.made (.ok ())]⟩ := by
        rw [stepped, flush_send native rfl, worked]
      have alive : isolate'.instances app.made = some ptr := Function.update_self _ _ _
      constructor
      · rw [reached]
        exact .arriving answers app.made (.ok ()) [(app.called, c)] waiting rfl rfl opening only
          (fun _ => by simp [alive]) (by simp) (.inl ⟨rfl, rfl⟩)
      · have run : workAll native (waiting.map (Deferred.message app.made)) isolate' =
            ([(app.called, (native.handleCall ptr c state).1)].map answer,
              { isolate' with state := (native.handleCall ptr c state).2 }) := by
          simp [waiting, workAll, Deferred.message, Isolate.work, answer, isolate']
        rw [← flush_handled, reached, flush_opened native answers opening run, flush_steady]
        simp [System.session, Session.step, Session.move, Session.open_, Session.answer, closed, make, app', isolate',
          returning.makes, returning.returns]
    | error error =>
      have worked : workAll native [.init app.made] isolate =
          ([.opened app.made (.error error)], { isolate with state := state }) := by
        simp only [workAll, Isolate.work, make]
        rfl
      have reached : handled native ((⟨app, isolate, [], answers.map answer⟩ : System Ptr Call Value State).step native
          (.call c)) = ⟨app', { isolate with state := state }, [], answers.map answer ++
            [.opened app.made (.error error)]⟩ := by
        rw [stepped, flush_send native rfl, worked]
      constructor
      · rw [reached]
        exact .arriving answers app.made (.error error) [(app.called, c)] waiting rfl rfl opening only
          (fun ok => by cases ok) (by simp) (.inl ⟨rfl, rfl⟩)
      · rw [← flush_handled, reached, flush_failed native _ answers opening, flush_steady]
        simp [System.session, Session.step, Session.move, Session.open_, Session.answer, closed, make, app', waiting,
          Deferred.refused, returning.makes]

theorem simulated_open (returning : native.Returning) {app : App Call Value} {handle : Nat}
    {isolate : Isolate Ptr State} {event : Event Call}
    {c : Call} (current : app.current = some handle) (opened : app.handles handle = .opened)
    (still : ∀ handle waiting, app.handles handle ≠ .opening waiting) (alive : isolate.instances handle ≠ none)
    (answers : List (Nat × Except String Value)) (asks : event = .call c ∨ event = .raw handle c) :
    Simulated native event ⟨app, isolate, [], answers.map answer⟩ := by
  rcases Option.ne_none_iff_exists'.mp alive with ⟨ptr, there⟩
  let given : Nat × Except String Value := (app.called, (native.handleCall ptr c isolate.state).1)
  let app' : App Call Value := { app with called := app.called + 1 }
  let isolate' : Isolate Ptr State := { isolate with state := (native.handleCall ptr c isolate.state).2 }
  have reached : handled native ((⟨app, isolate, [], answers.map answer⟩ : System Ptr Call Value State).step native
      event) =
      ⟨app', isolate', [], (answers ++ [given]).map answer⟩ := by
    rcases asks with rfl | rfl
    · have sent : app.call c = ([.call handle app.called c], app') := by simp [App.call, current, opened, app']
      rw [System.step, sent, flush_send native rfl]
      simp [workAll, Isolate.work, there, answer, given, isolate']
    · rw [System.step, flush_send native rfl]
      simp [App.raw, workAll, Isolate.work, there, answer, given, isolate', app']
  constructor
  · rw [reached]
    refine .steady (answers ++ [given]) rfl rfl still ?_ ?_
    · intro other same _
      obtain rfl := Option.some.inj (current.symm.trans same)
      exact alive
    · intro other error same failed
      obtain rfl := Option.some.inj (current.symm.trans same)
      rw [show app'.handles handle = .opened from opened] at failed
      cases failed
  · rw [← flush_handled, reached, flush_steady, flush_steady]
    rcases asks with rfl | rfl
    · simp [System.session, Session.step, Session.move, Session.open_, Session.answer, current, opened, there,
        app', isolate', given,
        returning.returns]
    · simp [System.session, Session.step, Session.move, Session.answer, current, opened, there, app', isolate', given,
        returning.returns]

theorem simulated_refused {app : App Call Value} {handle : Nat} {error : String} (current : app.current = some handle)
    (failed : app.handles handle = .failed error) (still : ∀ handle waiting, app.handles handle ≠ .opening waiting)
    (isolate : Isolate Ptr State) (c : Call) : Simulated native (.call c) ⟨app, isolate, [], []⟩ := by
  let app' : App Call Value :=
    { app with results := app.results ++ [(app.called, .error error)], called := app.called + 1 }
  have sent : app.call c = ([], app') := by simp [App.call, current, failed, app']
  have reached : handled native ((⟨app, isolate, [], []⟩ : System Ptr Call Value State).step native (.call c)) =
      ⟨app', isolate, [], [].map answer⟩ := by
    rw [System.step, sent, flush_send native rfl]
    rfl
  constructor
  · rw [reached]
    refine .steady [] rfl rfl still ?_ fun _ _ _ _ => rfl
    intro other same opened
    obtain rfl := Option.some.inj (current.symm.trans same)
    rw [show app'.handles handle = .failed error from failed] at opened
    cases opened
  · have before := flush_steady native app isolate []
    rw [← flush_handled, reached, flush_steady]
    rw [List.map_nil] at before
    rw [before]
    simp [System.session, Session.step, Session.move, Session.open_, Session.answer, current, failed, app']

theorem refused_calls (error : String) (calls : List (Nat × Call)) (last : List (Deferred Call)) :
    (calls.map deferred ++ last).filterMap (Deferred.refused error) =
      calls.map (fun given => ((given.1, .error error) : Nat × Except String Value)) ++
        last.filterMap (Deferred.refused error) := by
  induction calls with
  | nil => rfl
  | cons given calls ih =>
    rw [List.map_cons, List.cons_append, List.filterMap_cons, ih]
    rfl

theorem simulated_waiting (returning : native.Returning) {app : App Call Value} {handle : Nat}
    {isolate : Isolate Ptr State}
    {result : Except String Unit} {answers : List (Nat × Except String Value)} {calls : List (Nat × Call)}
    (current : app.current = some handle) (opening : app.handles handle = .opening (calls.map deferred))
    (only : ∀ other waiting, app.handles other = .opening waiting → other = handle)
    (alive : result = .ok () → isolate.instances handle ≠ none) (c : Call) :
    Simulated native (.call c) ⟨app, isolate, [], answers.map answer ++ [.opened handle result]⟩ := by
  let waiting := calls.map deferred ++ [.call app.called c]
  let app' : App Call Value := { app with
    handles := Function.update app.handles handle (.opening waiting)
    called := app.called + 1 }
  have sent : app.call c = ([], app') := by simp [App.call, current, opening, app', waiting]
  have reached : handled native ((⟨app, isolate, [], answers.map answer ++ [.opened handle result]⟩ :
      System Ptr Call Value State).step native (.call c)) =
        ⟨app', isolate, [], answers.map answer ++ [.opened handle result]⟩ := by
    rw [System.step, sent, flush_send native rfl]
    simp [workAll]
  have opening' : app'.handles handle = .opening waiting := Function.update_self _ _ _
  constructor
  · rw [reached]
    refine .arriving answers handle result (calls ++ [(app.called, c)]) waiting rfl rfl opening' ?_ alive
      (by simp) (.inl ⟨current, by simp [waiting, deferred]⟩)
    intro other waiting' same
    by_contra differ
    exact differ (only other waiting' ((Function.update_of_ne differ _ _).symm.trans same))
  · cases result with
    | error error =>
      rw [← flush_handled, reached, flush_failed native isolate answers opening',
        flush_failed native isolate answers opening]
      have plain : (calls.map deferred).filterMap (Deferred.refused error) =
          calls.map (fun given => ((given.1, .error error) : Nat × Except String Value)) := by
        simpa using refused_calls error calls []
      simp only [waiting, refused_calls, plain]
      simp [System.session, Session.step, Session.move, Session.open_, Session.answer, current, Deferred.refused, app']
    | ok _ =>
      rcases Option.ne_none_iff_exists'.mp (alive rfl) with ⟨ptr, there⟩
      rcases work_calls native calls isolate there with ⟨later, state, run⟩
      let given : Nat × Except String Value := (app.called, (native.handleCall ptr c state).1)
      have run' : workAll native (waiting.map (Deferred.message handle)) isolate =
          ((later ++ [given]).map answer, { isolate with state := (native.handleCall ptr c state).2 }) := by
        rw [List.map_append, workAll_append, run]
        simp [workAll, Deferred.message, Isolate.work, there, answer, given]
      rw [← flush_handled, reached, flush_opened native answers opening' run',
        flush_opened native answers opening run]
      simp [System.session, Session.step, Session.move, Session.open_, Session.answer, current, there, app', given,
        returning.returns]

theorem simulated_call (returning : native.Returning) (phase : Phase system) (c : Call) (calm : Calm (.call c) system) :
    Simulated native (.call c) system := by
  rcases system with ⟨app, isolate, queue, replies⟩
  cases phase with
  | steady answers idle replied still alive silent =>
    obtain rfl : queue = [] := idle
    obtain rfl : replies = answers.map answer := replied
    cases at_handle : app.current with
    | none => exact simulated_first returning at_handle still answers isolate c
    | some handle =>
      cases future : app.handles handle with
      | opening waiting => exact absurd future (still handle waiting)
      | opened => exact simulated_open returning at_handle future still (alive handle at_handle future) answers (.inl rfl)
      | failed error =>
        obtain rfl := silent handle error at_handle future
        exact simulated_refused at_handle future still isolate c
  | arriving answers handle result calls waiting idle replied opening only alive asked waits =>
    obtain rfl : queue = [] := idle
    obtain rfl : replies = answers.map answer ++ [.opened handle result] := replied
    rcases waits with ⟨current, rfl⟩ | ⟨closed, _⟩
    · exact simulated_waiting returning current opening only alive c
    · exact absurd opening (calm closed handle waiting)

theorem simulated_raw (returning : native.Returning) (phase : Phase system) {handle : Nat} {c : Call}
    (calm : Calm (.raw handle c) system) :
    Simulated native (.raw handle c) system := by
  rcases system with ⟨app, isolate, queue, replies⟩
  rcases calm with ⟨current, opened⟩
  cases phase with
  | steady answers idle replied still alive silent =>
    obtain rfl : queue = [] := idle
    obtain rfl : replies = answers.map answer := replied
    exact simulated_open returning current opened still (alive handle current opened) answers (.inr rfl)
  | arriving answers other result calls waiting idle replied opening only alive asked waits =>
    rcases waits with ⟨current', _⟩ | ⟨closed, _⟩
    · obtain rfl := Option.some.inj (current.symm.trans current')
      rw [opened] at opening
      cases opening
    · rw [current] at closed
      cases closed

theorem simulated_closed (phase : Phase system) (closed : system.app.current = none) (idle : system.queue = []) :
    Simulated native .destroy system := by
  rcases system with ⟨app, isolate, queue, replies⟩
  obtain rfl : queue = [] := idle
  have sent : app.destroy = ([], app) := by simp only [App.destroy, show app.current = none from closed]
  have stepped : (⟨app, isolate, [], replies⟩ : System Ptr Call Value State).step native .destroy =
      ⟨app, isolate, [], replies⟩ := by
    rw [System.step, sent]
    rfl
  have same : handled native (⟨app, isolate, [], replies⟩ : System Ptr Call Value State) =
      ⟨app, isolate, [], replies⟩ := handled_idle rfl
  have out : ((flush native ⟨app, isolate, [], replies⟩).session).inst = .none := by
    have kept : (flush native (⟨app, isolate, [], replies⟩ : System Ptr Call Value State)).app.current = none := by
      simp only [flush, handled, delivered, current_receiveAll]
      exact closed
    simp [System.session, kept]
  refine ⟨by rw [stepped, same]; exact phase, ?_⟩
  have unstuck : (flush native (⟨app, isolate, [], replies⟩ : System Ptr Call Value State)).session.stuck = false := rfl
  rw [stepped, Session.step, Session.move]
  simp only [out, unstuck, Bool.false_eq_true, if_false]
  rw [← out, ← unstuck]

theorem simulated_freed {app : App Call Value} {handle : Nat} {isolate : Isolate Ptr State}
    (current : app.current = some handle) (opened : app.handles handle = .opened)
    (still : ∀ handle waiting, app.handles handle ≠ .opening waiting) (alive : isolate.instances handle ≠ none)
    (answers : List (Nat × Except String Value)) :
    Simulated native .destroy ⟨app, isolate, [], answers.map answer⟩ := by
  rcases Option.ne_none_iff_exists'.mp alive with ⟨ptr, there⟩
  let isolate' : Isolate Ptr State := { isolate with
    instances := Function.update isolate.instances handle none
    state := native.free ptr isolate.state }
  have sent : app.destroy = ([.destroy handle], { app with current := none }) := by simp [App.destroy, current, opened]
  have reached : handled native ((⟨app, isolate, [], answers.map answer⟩ : System Ptr Call Value State).step native
      .destroy) = ⟨{ app with current := none }, isolate', [], answers.map answer⟩ := by
    rw [System.step, sent, flush_send native rfl]
    simp [workAll, Isolate.work, there, isolate']
  constructor
  · rw [reached]
    exact .steady answers rfl rfl still (fun _ same => by cases same) fun _ _ same => by cases same
  · rw [← flush_handled, reached, flush_steady, flush_steady]
    simp [System.session, Session.step, Session.move, current, opened, there, isolate']

theorem simulated_given_up {app : App Call Value} {handle : Nat} {error : String} (current : app.current = some handle)
    (failed : app.handles handle = .failed error) (still : ∀ handle waiting, app.handles handle ≠ .opening waiting)
    (isolate : Isolate Ptr State) : Simulated native .destroy ⟨app, isolate, [], []⟩ := by
  have sent : app.destroy = ([], { app with current := none }) := by simp [App.destroy, current, failed]
  have reached : handled native ((⟨app, isolate, [], []⟩ : System Ptr Call Value State).step native .destroy) =
      ⟨{ app with current := none }, isolate, [], [].map answer⟩ := by
    rw [System.step, sent, flush_send native rfl]
    rfl
  constructor
  · rw [reached]
    exact .steady [] rfl rfl still (fun _ same => by cases same) fun _ _ same => by cases same
  · have before := flush_steady native app isolate []
    rw [List.map_nil] at before
    rw [← flush_handled, reached, flush_steady, before]
    simp [System.session, Session.step, Session.move, current, failed]

theorem simulated_early {app : App Call Value} {handle : Nat} {isolate : Isolate Ptr State}
    {result : Except String Unit} {answers : List (Nat × Except String Value)} {calls : List (Nat × Call)}
    (current : app.current = some handle) (opening : app.handles handle = .opening (calls.map deferred))
    (only : ∀ other waiting, app.handles other = .opening waiting → other = handle)
    (alive : result = .ok () → isolate.instances handle ≠ none) (asked : calls ≠ []) :
    Simulated native .destroy ⟨app, isolate, [], answers.map answer ++ [.opened handle result]⟩ := by
  let waiting : List (Deferred Call) := calls.map deferred ++ [.close]
  let app' : App Call Value := { app with
    current := none
    handles := Function.update app.handles handle (.opening waiting) }
  have sent : app.destroy = ([], app') := by simp [App.destroy, current, opening, app', waiting]
  have reached : handled native ((⟨app, isolate, [], answers.map answer ++ [.opened handle result]⟩ :
      System Ptr Call Value State).step native .destroy) =
        ⟨app', isolate, [], answers.map answer ++ [.opened handle result]⟩ := by
    rw [System.step, sent, flush_send native rfl]
    simp [workAll]
  have opening' : app'.handles handle = .opening waiting := Function.update_self _ _ _
  constructor
  · rw [reached]
    refine .arriving answers handle result calls waiting rfl rfl opening' ?_ alive asked (.inr ⟨rfl, rfl⟩)
    intro other waiting' same
    by_contra differ
    exact differ (only other waiting' ((Function.update_of_ne differ _ _).symm.trans same))
  · cases result with
    | error error =>
      rw [← flush_handled, reached, flush_failed native isolate answers opening',
        flush_failed native isolate answers opening]
      have plain : (calls.map deferred).filterMap (Deferred.refused error) =
          calls.map (fun given => ((given.1, .error error) : Nat × Except String Value)) := by
        simpa using refused_calls error calls []
      simp only [waiting, refused_calls, plain]
      simp [System.session, Session.step, Session.move, current, Deferred.refused, app']
    | ok _ =>
      rcases Option.ne_none_iff_exists'.mp (alive rfl) with ⟨ptr, there⟩
      rcases work_calls native calls isolate there with ⟨later, state, run⟩
      have run' : workAll native (waiting.map (Deferred.message handle)) isolate = (later.map answer,
          { isolate with
            instances := Function.update isolate.instances handle none
            state := native.free ptr state }) := by
        rw [List.map_append, workAll_append, run]
        simp [workAll, Deferred.message, Isolate.work, there]
      rw [← flush_handled, reached, flush_opened native answers opening' run',
        flush_opened native answers opening run]
      simp [System.session, Session.step, Session.move, current, there, app']

theorem simulated_destroy (phase : Phase system) : Simulated native .destroy system := by
  cases at_handle : system.app.current with
  | none =>
    cases phase with
    | steady answers idle replied still alive silent =>
      exact simulated_closed (.steady answers idle replied still alive silent) at_handle idle
    | arriving answers handle result calls waiting idle replied opening only alive asked waits =>
      exact simulated_closed (.arriving answers handle result calls waiting idle replied opening only alive asked waits)
        at_handle idle
  | some handle =>
    rcases system with ⟨app, isolate, queue, replies⟩
    have current : app.current = some handle := at_handle
    cases phase with
    | steady answers idle replied still alive silent =>
      obtain rfl : queue = [] := idle
      obtain rfl : replies = answers.map answer := replied
      cases future : app.handles handle with
      | opening waiting => exact absurd future (still handle waiting)
      | opened => exact simulated_freed current future still (alive handle current future) answers
      | failed error =>
        obtain rfl := silent handle error current future
        exact simulated_given_up current future still isolate
    | arriving answers other result calls waiting idle replied opening only alive asked waits =>
      obtain rfl : queue = [] := idle
      obtain rfl : replies = answers.map answer ++ [.opened other result] := replied
      rcases waits with ⟨_, rfl⟩ | ⟨closed, _⟩
      · next same =>
        obtain rfl := Option.some.inj (current.symm.trans same)
        exact simulated_early current opening only alive asked
      · rw [show app.current = none from closed] at current
        cases current

theorem delivered_step (app : App Call Value) (isolate : Isolate Ptr State) (queue : List (Message Call))
    (reply : Reply Value) (replies : List (Reply Value)) :
    (⟨app, isolate, queue, reply :: replies⟩ : System Ptr Call Value State).step native .deliver =
      System.send (app.receive reply) ⟨app, isolate, queue, replies⟩ :=
  rfl

theorem answered_step (app : App Call Value) (isolate : Isolate Ptr State) (given : Nat × Except String Value)
    (replies : List (Reply Value)) :
    (⟨app, isolate, [], answer given :: replies⟩ : System Ptr Call Value State).step native .deliver =
      ⟨{ app with results := app.results ++ [given] }, isolate, [], replies⟩ := by
  simp [delivered_step, System.send, answer, App.receive]

theorem flush_answered (app : App Call Value) (isolate : Isolate Ptr State) (given : Nat × Except String Value)
    (replies : List (Reply Value)) :
    flush native ⟨{ app with results := app.results ++ [given] }, isolate, [], replies⟩ =
      flush native ⟨app, isolate, [], answer given :: replies⟩ := by
  simp [flush, handled, delivered, workAll, receiveAll, answer, App.receive]

theorem work_waiting (native : Native Ptr Call Value State) {app : App Call Value} {isolate : Isolate Ptr State}
    {handle : Nat} {calls : List (Nat × Call)} {waiting : List (Deferred Call)}
    (alive : isolate.instances handle ≠ none)
    (waits : (app.current = some handle ∧ waiting = calls.map deferred) ∨
      (app.current = none ∧ waiting = calls.map deferred ++ [.close])) :
    ∃ (later : List (Nat × Except String Value)) (after : Isolate Ptr State),
      workAll native (waiting.map (Deferred.message handle)) isolate = (later.map answer, after) ∧
        (app.current = some handle → after.instances handle ≠ none) := by
  rcases Option.ne_none_iff_exists'.mp alive with ⟨ptr, there⟩
  rcases work_calls native calls isolate there with ⟨later, state, run⟩
  rcases waits with ⟨_, rfl⟩ | ⟨closed, rfl⟩
  · exact ⟨later, _, run, fun _ => alive⟩
  · let after : Isolate Ptr State :=
      ⟨Function.update isolate.instances handle none, native.free ptr state, isolate.faulted⟩
    refine ⟨later, after, ?_, fun current => by rw [closed] at current; cases current⟩
    rw [List.map_append, workAll_append, run]
    simp [workAll, Deferred.message, Isolate.work, there, after]

theorem simulated_arrived {app : App Call Value} {isolate : Isolate Ptr State} {handle : Nat}
    {calls : List (Nat × Call)} {waiting : List (Deferred Call)} (result : Except String Unit)
    (opening : app.handles handle = .opening waiting)
    (only : ∀ other waiting', app.handles other = .opening waiting' → other = handle)
    (alive : result = .ok () → isolate.instances handle ≠ none)
    (waits : (app.current = some handle ∧ waiting = calls.map deferred) ∨
      (app.current = none ∧ waiting = calls.map deferred ++ [.close])) :
    Simulated native .deliver ⟨app, isolate, [], [.opened handle result]⟩ := by
  have known : ∀ other, app.current = some other → other = handle := by
    intro other current
    rcases waits with ⟨current', _⟩ | ⟨closed, _⟩
    · exact Option.some.inj (current.symm.trans current')
    · rw [closed] at current
      cases current
  have settled : ∀ (future : Handle Call), (∀ waiting', future ≠ .opening waiting') → ∀ other waiting',
      Function.update app.handles handle future other ≠ .opening waiting' := by
    intro future plain other waiting' same
    by_cases here : other = handle
    · subst here
      rw [Function.update_self] at same
      exact plain waiting' same
    · rw [Function.update_of_ne here] at same
      exact here (only other waiting' same)
  cases result with
  | ok nothing =>
    cases nothing
    rcases work_waiting native (alive rfl) waits with ⟨later, after, run, kept⟩
    let app' : App Call Value := { app with handles := Function.update app.handles handle .opened }
    have sent : app.receive (.opened handle (.ok ()) : Reply Value) =
        (waiting.map (Deferred.message handle), app') := by simp [App.receive, opening, app']
    have reached : handled native ((⟨app, isolate, [], [.opened handle (.ok ())]⟩ :
        System Ptr Call Value State).step native .deliver) = ⟨app', after, [], later.map answer⟩ := by
      rw [delivered_step, sent, flush_send native rfl, run, List.nil_append]
    constructor
    · rw [reached]
      refine .steady later rfl rfl (settled _ fun _ same => by cases same) ?_ ?_
      · intro other current _
        obtain rfl := known other current
        exact kept current
      · intro other error current failed
        obtain rfl := known other current
        rw [show app'.handles other = .opened from Function.update_self _ _ _] at failed
        cases failed
    · have whole := flush_opened native [] opening run
      rw [List.map_nil, List.nil_append] at whole
      rw [← flush_handled, reached, flush_steady, whole]
      simp [System.session, Session.step, Session.move, app']
  | error error =>
    let app' : App Call Value := { app with
      handles := Function.update app.handles handle (.failed error)
      results := app.results ++ waiting.filterMap (Deferred.refused error) }
    have sent : app.receive (.opened handle (.error error) : Reply Value) = ([], app') := by
      simp [App.receive, opening, app']
    have reached : handled native ((⟨app, isolate, [], [.opened handle (.error error)]⟩ :
        System Ptr Call Value State).step native .deliver) = ⟨app', isolate, [], [].map answer⟩ := by
      rw [delivered_step, sent, flush_send native rfl]
      rfl
    constructor
    · rw [reached]
      refine .steady [] rfl rfl (settled _ fun _ same => by cases same) ?_ fun _ _ _ _ => rfl
      intro other current opened
      obtain rfl := known other current
      rw [show app'.handles other = .failed error from Function.update_self _ _ _] at opened
      cases opened
    · have whole := flush_failed native isolate [] opening error
      rw [List.map_nil, List.nil_append] at whole
      rw [← flush_handled, reached, flush_steady, whole]
      simp [System.session, Session.step, Session.move, app']

theorem simulated_deliver (phase : Phase system) : Simulated native .deliver system := by
  rcases system with ⟨app, isolate, queue, replies⟩
  cases phase with
  | steady answers idle replied still alive silent =>
    obtain rfl : queue = [] := idle
    obtain rfl : replies = answers.map answer := replied
    cases answers with
    | nil =>
      have stepped : (⟨app, isolate, [], []⟩ : System Ptr Call Value State).step native .deliver =
          ⟨app, isolate, [], []⟩ := rfl
      rw [List.map_nil, Simulated, stepped, handled_idle rfl]
      exact ⟨.steady [] rfl rfl still alive silent, rfl⟩
    | cons given answers =>
      rw [List.map_cons, Simulated, answered_step, handled_idle rfl]
      refine ⟨.steady answers rfl rfl still alive ?_, congrArg System.session (flush_answered app isolate given _)⟩
      intro handle error current failed
      cases silent handle error current failed
  | arriving answers handle result calls waiting idle replied opening only alive asked waits =>
    obtain rfl : queue = [] := idle
    obtain rfl : replies = answers.map answer ++ [.opened handle result] := replied
    cases answers with
    | nil => exact simulated_arrived result opening only alive waits
    | cons given answers =>
      rw [List.map_cons, List.cons_append, Simulated, answered_step, handled_idle rfl]
      exact ⟨.arriving answers handle result calls waiting rfl rfl opening only alive asked waits,
        congrArg System.session (flush_answered app isolate given _)⟩

end Events

end Flouze.IsolateProxy
