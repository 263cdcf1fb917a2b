import Flouze.Proxy.Flush

namespace Flouze.IsolateProxy

open Machine

variable {Ptr Call Value State : Type} {native : Native Ptr Call Value State}
variable {system : System Ptr Call Value State}

section Steps

theorem simulated_sent {event : Event Call} {sent : App Call Value → List (Message Call) × App Call Value}
    (stepped : ∀ system : System Ptr Call Value State, system.step native event = system.send (sent system.app))
    (given : Simulated native event (handled native system)) : Simulated native event system := by
  rcases given with ⟨next, same⟩
  have ahead : handled native ((handled native system).step native event) =
      handled native (system.step native event) := by
    rw [stepped, stepped, handled_send (sent system.app)]
    rfl
  rw [ahead] at next
  rw [← flush_handled, ahead, flush_handled, flush_handled] at same
  exact ⟨next, same⟩

theorem simulated (returning : native.Returning) {event : Event Call} (phase : Phase (handled native system))
    (calm : Calm event system) : Simulated native event system := by
  cases event with
  | call c => exact simulated_sent (fun _ => rfl) (simulated_call returning phase c calm)
  | destroy => exact simulated_sent (fun _ => rfl) (simulated_destroy phase)
  | raw handle c => exact simulated_sent (fun _ => rfl) (simulated_raw returning phase calm)
  | handle =>
    refine ⟨by rw [handled_handle]; exact phase, ?_⟩
    rw [← flush_handled, handled_handle, flush_handled]
    rfl
  | deliver =>
    cases arrived : system.replies with
    | nil =>
      have stepped : system.step native .deliver = system := by simp only [System.step, arrived]
      rw [Simulated, stepped]
      exact ⟨phase, rfl⟩
    | cons reply replies =>
      have ahead : handled native (system.step native .deliver) =
          handled native ((handled native system).step native .deliver) := handled_deliver (by simp [arrived])
      rcases simulated_deliver phase with ⟨next, same⟩
      rw [← ahead] at next
      rw [← flush_handled, ← ahead, flush_handled, flush_handled] at same
      exact ⟨next, same⟩

theorem results_receiveAll (replies : List (Reply Value)) (app : App Call Value) :
    app.results <+: (receiveAll replies app).2.results := by
  induction replies generalizing app with
  | nil => exact List.prefix_rfl
  | cons reply replies ih =>
    refine List.IsPrefix.trans ?_ (ih _)
    unfold App.receive
    split
    · split
      · exact List.prefix_rfl
      · exact List.prefix_append _ _
      · exact List.prefix_rfl
    · exact List.prefix_append _ _

theorem results_deliver (system : System Ptr Call Value State) :
    system.app.results <+: (delivered system).app.results := results_receiveAll system.replies system.app

theorem called_deliver (system : System Ptr Call Value State) :
    (delivered system).app.called = system.app.called := by
  suffices same : ∀ (replies : List (Reply Value)) (app : App Call Value),
      (receiveAll replies app).2.called = app.called from same system.replies system.app
  intro replies
  induction replies with
  | nil => exact fun app => rfl
  | cons reply replies ih =>
    intro app
    refine (ih _).trans ?_
    unfold App.receive
    split
    · split <;> rfl
    · rfl

theorem called_flush (system : System Ptr Call Value State) : (flush native system).app.called = system.app.called :=
  (called_deliver _).trans (called_deliver _)

theorem results_flush (system : System Ptr Call Value State) :
    system.app.results <+: (flush native system).app.results :=
  (results_deliver (handled native system)).trans
    (results_deliver (handled native (delivered (handled native system))))

theorem flush_quiet (idle : system.queue = []) (silent : system.replies = []) : flush native system = system := by
  rcases system with ⟨app, isolate, queue, replies⟩
  obtain rfl : queue = [] := idle
  obtain rfl : replies = [] := silent
  rfl

theorem later_receiveAll (replies : List (Reply Value)) (app : App Call Value) :
    ∀ handle, .init handle ∉ (receiveAll replies app).1 := by
  induction replies generalizing app with
  | nil => simp [receiveAll]
  | cons reply replies ih =>
    intro handle
    simp only [receiveAll, List.mem_append, not_or]
    refine ⟨?_, ih _ handle⟩
    unfold App.receive
    split
    · split
      · intro member
        rcases List.mem_map.mp member with ⟨deferred, _, same⟩
        cases deferred <;> cases same
      · simp
      · simp
    · simp

theorem work_later {message : Message Call} (later : ∀ handle, message ≠ .init handle) (isolate : Isolate Ptr State) :
    ∃ answers : List (Nat × Except String Value), (Isolate.work native message isolate).1 = answers.map answer := by
  cases message with
  | init handle => exact absurd rfl (later handle)
  | call handle id c =>
    simp only [Isolate.work]
    split
    · exact ⟨[(id, _)], rfl⟩
    · exact ⟨[], rfl⟩
  | destroy handle =>
    simp only [Isolate.work]
    split <;> exact ⟨[], rfl⟩
  | raw handle id c =>
    simp only [Isolate.work]
    split
    · exact ⟨[(id, _)], rfl⟩
    · exact ⟨[], rfl⟩

end Steps

section Draining

/-- The isolate and the application work on, and nobody asks for more. -/
def Draining (events : List (Event Call)) : Prop := ∀ event ∈ events, event = .handle ∨ event = .deliver

theorem handles_stop (native : Native Ptr Call Value State) (system : System Ptr Call Value State) :
    ∃ n, ((after (System.step native) (List.replicate n .handle) system).queue = [] ∨
        (after (System.step native) (List.replicate n .handle) system).Blocked native) ∧
      ((∀ handle, .init handle ∉ system.queue) → ∃ answers : List (Nat × Except String Value),
        (after (System.step native) (List.replicate n .handle) system).replies =
          system.replies ++ answers.map answer) := by
  rcases system with ⟨app, isolate, queue, replies⟩
  induction queue generalizing isolate replies with
  | nil => exact ⟨0, .inl rfl, fun _ => ⟨[], (List.append_nil replies).symm⟩⟩
  | cons message queue ih =>
    cases hung : Isolate.hangs native message isolate with
    | true => exact ⟨0, .inr ⟨message, queue, rfl, hung⟩, fun _ => ⟨[], (List.append_nil replies).symm⟩⟩
    | false =>
      rcases ih (Isolate.work native message isolate).2 (replies ++ (Isolate.work native message isolate).1) with
        ⟨n, stops, answering⟩
      have first : (⟨app, isolate, message :: queue, replies⟩ : System Ptr Call Value State).step native .handle =
          ⟨app, (Isolate.work native message isolate).2, queue, replies ++ (Isolate.work native message isolate).1⟩ := by
        simp only [System.step, hung, Bool.false_eq_true, if_false]
      have reached : after (System.step native) (List.replicate (n + 1) .handle)
          (⟨app, isolate, message :: queue, replies⟩ : System Ptr Call Value State) = _ :=
        congrArg (after (System.step native) (List.replicate n .handle)) first
      rw [← reached] at stops answering
      refine ⟨n + 1, stops, fun later => ?_⟩
      rcases work_later (fun handle same => later handle (List.mem_cons.mpr (.inl same.symm))) isolate with ⟨own, run⟩
      rcases answering fun handle member => later handle (List.mem_cons_of_mem _ member) with ⟨answers, whole⟩
      exact ⟨own ++ answers, by rw [whole, run, List.map_append, List.append_assoc]⟩

theorem delivers_reach (system : System Ptr Call Value State) :
    after (System.step native) (List.replicate system.replies.length .deliver) system = delivered system := by
  rcases system with ⟨app, isolate, queue, replies⟩
  induction replies generalizing app queue with
  | nil => simp [after, delivered, receiveAll]
  | cons reply replies ih =>
    have whole := ih (app.receive reply).2 (queue ++ (app.receive reply).1)
    have first : (⟨app, isolate, queue, reply :: replies⟩ : System Ptr Call Value State).step native .deliver =
        ⟨(app.receive reply).2, isolate, queue ++ (app.receive reply).1, replies⟩ := rfl
    have reached : delivered (⟨app, isolate, queue, reply :: replies⟩ : System Ptr Call Value State) =
        delivered ⟨(app.receive reply).2, isolate, queue ++ (app.receive reply).1, replies⟩ := by
      simp [delivered, receiveAll]
    rw [reached, ← whole, ← first]
    rfl

theorem after_append (first second : List (Event Call)) (system : System Ptr Call Value State) :
    after (System.step native) (first ++ second) system =
      after (System.step native) second (after (System.step native) first system) :=
  List.foldl_append

theorem System.Blocked.delivered (blocked : system.Blocked native) : (delivered system).Blocked native := by
  rcases blocked with ⟨message, queue, waiting, hung⟩
  exact ⟨message, queue ++ (receiveAll system.replies system.app).1, by simp [IsolateProxy.delivered, waiting], hung⟩

/-- Left alone, the isolate and the application come to where neither has anything to do, unless the isolate
    is in a call that never returns. -/
theorem rests_reached (native : Native Ptr Call Value State) (system : System Ptr Call Value State) :
    ∃ rest, Draining rest ∧ (after (System.step native) rest system).replies = [] ∧
      ((after (System.step native) rest system).queue = [] ∨ (after (System.step native) rest system).Blocked native) := by
  rcases handles_stop native system with ⟨n, stops, _⟩
  let first := after (System.step native) (List.replicate n .handle) system
  let second := delivered first
  have begun : after (System.step native) (List.replicate n .handle ++ List.replicate first.replies.length .deliver)
      system = second := (after_append _ _ _).trans (delivers_reach first)
  have draining : ∀ n m : Nat, Draining (List.replicate n (.handle : Event Call) ++ List.replicate m .deliver) := by
    intro n m event member
    rcases List.mem_append.mp member with member | member
    · exact .inl (List.eq_of_mem_replicate member)
    · exact .inr (List.eq_of_mem_replicate member)
  rcases stops with idle | blocked
  · -- nothing that is sent now asks for an instance, so that the replies to it send no more
    have sent : second.queue = (receiveAll first.replies first.app).1 := by
      change first.queue ++ _ = _
      rw [show first.queue = [] from idle, List.nil_append]
    have later : ∀ handle, .init handle ∉ second.queue := sent ▸ later_receiveAll first.replies first.app
    rcases handles_stop native second with ⟨m, stops', answering⟩
    rcases answering later with ⟨answers, replied⟩
    let third := after (System.step native) (List.replicate m .handle) second
    have replied' : third.replies = answers.map answer := replied
    have quiet : (delivered third).queue = third.queue := by
      change third.queue ++ (receiveAll third.replies third.app).1 = _
      rw [replied', receive_answers, List.append_nil]
    have ended : after (System.step native) ((List.replicate n .handle ++ List.replicate first.replies.length .deliver) ++
        (List.replicate m .handle ++ List.replicate third.replies.length .deliver)) system = delivered third := by
      rw [after_append, begun, after_append]
      exact delivers_reach third
    refine ⟨_, ?_, (congrArg System.replies ended).trans rfl, ?_⟩
    · intro event member
      exact (List.mem_append.mp member).elim (draining _ _ event) (draining _ _ event)
    · rw [ended, quiet]
      exact stops'.imp id System.Blocked.delivered
  · refine ⟨_, draining n first.replies.length, ?_, .inr ?_⟩
    · rw [begun]
      rfl
    · rw [begun]
      exact System.Blocked.delivered blocked

end Draining

section Answers

/-- The same native code, with an error where a call does not return. -/
def Native.answering (native : Native Ptr Call Value State) (text : String) : Native Ptr Call Value State where
  makeInstance state := if native.makes state then native.makeInstance state else (.error text, state)
  handleCall ptr c state := if native.returns ptr c state then native.handleCall ptr c state else (.error text, state)
  free := native.free
  makes _ := true
  returns _ _ _ := true

theorem answering_returning (native : Native Ptr Call Value State) (text : String) : (native.answering text).Returning :=
  ⟨fun _ => rfl, fun _ _ _ => rfl⟩

theorem work_answering (text : String) {message : Message Call} {isolate : Isolate Ptr State}
    (passes : Isolate.hangs native message isolate = false) :
    Isolate.work (native.answering text) message isolate = Isolate.work native message isolate := by
  cases message with
  | init handle =>
    have makes : native.makes isolate.state = true := by simpa [Isolate.hangs] using passes
    simp only [Isolate.work, Native.answering, makes, if_true]
  | destroy handle => rfl
  | call handle id c =>
    cases there : isolate.instances handle with
    | none => simp only [Isolate.work, there]
    | some ptr =>
      have returns : native.returns ptr c isolate.state = true := by simpa [Isolate.hangs, there] using passes
      simp only [Isolate.work, there, Native.answering, returns, if_true]
  | raw handle id c =>
    cases there : isolate.instances handle with
    | none => simp only [Isolate.work, there]
    | some ptr =>
      have returns : native.returns ptr c isolate.state = true := by simpa [Isolate.hangs, there] using passes
      simp only [Isolate.work, there, Native.answering, returns, if_true]

theorem hangs_answering (text : String) (message : Message Call) (isolate : Isolate Ptr State) :
    Isolate.hangs (native.answering text) message isolate = false := by
  cases message with
  | init handle => rfl
  | destroy handle => rfl
  | call handle id c => simp only [Isolate.hangs, Native.answering]; split <;> rfl
  | raw handle id c => simp only [Isolate.hangs, Native.answering]; split <;> rfl

/-- What a run has reached is also reached if the calls that never return had an answer which the isolate does
    not get to. -/
theorem answering_reached (native : Native Ptr Call Value State) (text : String) (events : List (Event Call))
    {system : System Ptr Call Value State} (calm : Throughout (System.step native) Calm events system) :
    ∃ kept, after (System.step (native.answering text)) kept system = after (System.step native) events system ∧
      Throughout (System.step (native.answering text)) Calm kept system ∧
      ∀ session, after (Session.step (native.answering text)) kept session =
        after (Session.step (native.answering text)) events session := by
  induction events generalizing system with
  | nil => exact ⟨[], rfl, True.intro, fun _ => rfl⟩
  | cons event events ih =>
    rcases ih calm.2 with ⟨kept, reached, calm', same⟩
    by_cases waits : event = .handle ∧ system.Blocked native
    · rcases waits with ⟨rfl, message, queue, waiting, hung⟩
      have stays : system.step native .handle = system := by simp only [System.step, waiting, hung, if_true]
      rw [stays] at reached calm'
      refine ⟨kept, reached.trans (congrArg (after (System.step native) events) stays).symm, calm', fun session => ?_⟩
      have idle : session.step (native.answering text) .handle = session := by simp [Session.step, Session.move]
      exact (same session).trans (congrArg (after _ events) idle).symm
    · have stepped : system.step (native.answering text) event = system.step native event := by
        cases event with
        | handle =>
          cases waiting : system.queue with
          | nil => simp only [System.step, waiting]
          | cons message queue =>
            have passes : Isolate.hangs native message system.isolate = false := by
              by_contra hung
              exact waits ⟨rfl, message, queue, waiting, by simpa using hung⟩
            simp only [System.step, waiting, passes, hangs_answering, work_answering text passes]
        | call c => rfl
        | destroy => rfl
        | raw handle c => rfl
        | deliver => rfl
      refine ⟨event :: kept, ?_, ⟨calm.1, stepped ▸ calm'⟩, fun session => same _⟩
      exact (congrArg (after _ kept) stepped).trans reached

/-- What a session is like that gets an answer to the call which another one is stuck in. -/
inductive Session.Told (text : String) (session : Session Ptr Value State) : Session Ptr Value State → Prop
  | same (running : session.stuck = false) : Told text session session
  | apart {told : Session Ptr Value State} (stuck : session.stuck = true) (rest : List (Nat × Except String Value))
      (results : told.results = session.results ++ (session.called, .error text) :: rest) : Told text session told

theorem results_answer (native : Native Ptr Call Value State) (c : Call) (session : Session Ptr Value State) :
    session.results <+: (session.answer native c).results := by
  unfold Session.answer
  split
  · split
    · exact List.prefix_append _ _
    · exact List.prefix_rfl
  · exact List.prefix_append _ _
  · exact List.prefix_rfl

theorem results_open (native : Native Ptr Call Value State) (session : Session Ptr Value State) :
    (session.open_ native).results = session.results := by
  unfold Session.open_
  split
  · split
    · split <;> rfl
    · rfl
  · rfl

theorem step_running {session : Session Ptr Value State} (running : session.stuck = false) (event : Event Call) :
    session.step native event = session.move native event := by
  simp only [Session.step, running, Bool.false_eq_true, if_false]

theorem results_move (native : Native Ptr Call Value State) (event : Event Call)
    (session : Session Ptr Value State) :
    session.results <+: (session.move native event).results := by
  cases event with
  | call c => exact results_open native session ▸ results_answer native c (session.open_ native)
  | raw handle c => exact results_answer native c session
  | destroy =>
    simp only [Session.move]
    split <;> exact List.prefix_rfl
  | handle => exact List.prefix_rfl
  | deliver => exact List.prefix_rfl

theorem results_step (native : Native Ptr Call Value State) (event : Event Call)
    (session : Session Ptr Value State) :
    session.results <+: (session.step native event).results := by
  unfold Session.step
  split
  · exact List.prefix_rfl
  · exact results_move native event session

theorem told_answer (text : String) (c : Call) {session : Session Ptr Value State} (running : session.stuck = false) :
    (session.answer native c).Told text (session.answer (native.answering text) c) := by
  rcases session with ⟨inst, state, called, results, stuck⟩
  obtain rfl : stuck = false := running
  cases inst with
  | none => exact .same rfl
  | failed error => exact .same rfl
  | alive ptr =>
    cases returns : native.returns ptr c state with
    | true =>
      have same : Session.answer (native.answering text) c ⟨.alive ptr, state, called, results, false⟩ =
          Session.answer native c ⟨.alive ptr, state, called, results, false⟩ := by
        simp [Session.answer, Native.answering, returns]
      rw [same]
      exact .same (by simp [Session.answer, returns])
    | false =>
      refine .apart (by simp [Session.answer, returns]) [] ?_
      simp [Session.answer, Native.answering, returns]

theorem told_step (text : String) (event : Event Call) {session told : Session Ptr Value State}
    (given : session.Told text told) : (session.step native event).Told text (told.step (native.answering text) event) := by
  cases given with
  | apart stuck rest results =>
    have stays : session.step native event = session := by simp only [Session.step, stuck, if_true]
    rcases results_step (native.answering text) event told with ⟨more, grown⟩
    rw [stays]
    refine .apart stuck (rest ++ more) ?_
    rw [← grown, results, List.append_assoc]
    rfl
  | same running =>
    rw [step_running running, step_running running]
    cases event with
    | raw handle c => exact told_answer text c running
    | destroy =>
      refine .same ?_
      simp only [Session.move]
      split <;> exact running
    | handle => exact .same running
    | deliver => exact .same running
    | call c =>
      have asked : ∀ session : Session Ptr Value State, session.stuck = false →
          (session.answer native c).Told text (session.answer (native.answering text) c) :=
        fun _ running => told_answer text c running
      rcases session with ⟨inst, state, called, results, stuck⟩
      obtain rfl : stuck = false := running
      cases inst with
      | alive ptr => exact asked ⟨.alive ptr, state, called, results, false⟩ rfl
      | failed error => exact asked ⟨.failed error, state, called, results, false⟩ rfl
      | none =>
        cases makes : native.makes state with
        | true =>
          have same : Session.open_ (native.answering text) ⟨.none, state, called, results, false⟩ =
              Session.open_ native ⟨.none, state, called, results, false⟩ := by
            simp [Session.open_, Native.answering, makes]
          have opened : (Session.open_ native ⟨.none, state, called, results, false⟩).stuck = false := by
            simp only [Session.open_, makes, if_true]
            split <;> rfl
          rw [Session.move, Session.move, same]
          exact asked _ opened
        | false =>
          refine .apart (by simp [Session.move, Session.open_, Session.answer, makes]) [] ?_
          simp [Session.move, Session.open_, Session.answer, Native.answering, makes]

theorem Session.Told.both {text text' : String} {session told told' : Session Ptr Value State}
    (given : session.Told text told) (given' : session.Told text' told') :
    (session.stuck = false ∧ told = session ∧ told' = session) ∨
      (session.stuck = true ∧ ∃ rest rest', told.results = session.results ++ (session.called, .error text) :: rest ∧
        told'.results = session.results ++ (session.called, .error text') :: rest') := by
  cases given with
  | same running =>
    cases given' with
    | same _ => exact .inl ⟨running, rfl, rfl⟩
    | apart stuck _ _ => exact absurd (stuck.symm.trans running) (by decide)
  | apart stuck rest results =>
    cases given' with
    | same running => exact absurd (stuck.symm.trans running) (by decide)
    | apart _ rest' results' => exact .inr ⟨stuck, rest, rest', results, results'⟩

theorem told_after (text : String) (events : List (Event Call)) {session told : Session Ptr Value State}
    (given : session.Told text told) :
    (after (Session.step native) events session).Told text (after (Session.step (native.answering text)) events told) := by
  induction events generalizing session told with
  | nil => exact given
  | cons event events ih => exact ih (told_step text event given)

end Answers

section Parting

variable {α : Type} {short shared rest rest' : List α} {x y : α}

theorem prefix_of_parting (differ : x ≠ y) (first : short <+: shared ++ x :: rest)
    (second : short <+: shared ++ y :: rest') : short <+: shared := by
  induction shared generalizing short with
  | nil =>
    cases short with
    | nil => exact List.nil_prefix
    | cons z short =>
      have here := (List.cons_prefix_cons.mp first).1
      have there := (List.cons_prefix_cons.mp second).1
      exact absurd (here.symm.trans there) differ
  | cons w shared ih =>
    cases short with
    | nil => exact List.nil_prefix
    | cons z short =>
      rcases List.cons_prefix_cons.mp first with ⟨rfl, tail⟩
      exact List.cons_prefix_cons.mpr ⟨rfl, ih tail (List.cons_prefix_cons.mp second).2⟩

end Parting

section Runs

variable {events : List (Event Call)} {state : State} {text : String}

theorem calm_simulated (returning : native.Returning) (calm : Throughout (System.step native) Calm events system)
    (phase : Phase (handled native system)) :
    Phase (handled native (after (System.step native) events system)) ∧
      (flush native (after (System.step native) events system)).session =
        after (Session.step native) events (flush native system).session := by
  induction events generalizing system with
  | nil => exact ⟨phase, rfl⟩
  | cons event events ih =>
    rcases simulated returning phase calm.1 with ⟨next, same⟩
    rcases ih calm.2 next with ⟨last, run⟩
    exact ⟨last, by rw [same] at run; exact run⟩

theorem initial_phase : Phase (handled native (System.initial state : System Ptr Call Value State)) :=
  .steady [] rfl rfl (fun _ _ same => by cases same) (fun _ same => by cases same) fun _ _ _ _ => rfl

/-- If the calls that never return had an answer, a run would lead to where a session with that answer is. -/
theorem run_told (native : Native Ptr Call Value State) (text : String)
    (calm : Throughout (System.step native) Calm events (.initial state)) :
    Phase (handled (native.answering text) (after (System.step native) events (.initial state))) ∧
      (after (Session.step native) events (.initial state)).Told text
        (flush (native.answering text) (after (System.step native) events (.initial state))).session := by
  rcases answering_reached native text events calm with ⟨kept, reached, calm', same⟩
  rcases calm_simulated (answering_returning native text) calm' initial_phase with ⟨phase, run⟩
  rw [reached] at phase run
  rw [run, same]
  exact ⟨phase, told_after text events (.same rfl)⟩

theorem hung_cases {message : Message Call} {isolate : Isolate Ptr State}
    (hung : Isolate.hangs native message isolate = true) (text : String) :
    (∃ handle, message = .init handle ∧ native.makes isolate.state = false) ∨
      ∃ id, Isolate.work (native.answering text) message isolate = ([.answered id (.error text)], isolate) := by
  have called : ∀ handle id c, message = .call handle id c ∨ message = .raw handle id c →
      Isolate.work (native.answering text) message isolate = ([.answered id (.error text)], isolate) := by
    intro handle id c calls
    cases there : isolate.instances handle with
    | none => rcases calls with rfl | rfl <;> simp [Isolate.hangs, there] at hung
    | some ptr =>
      have never : native.returns ptr c isolate.state = false := by
        rcases calls with rfl | rfl <;> simpa [Isolate.hangs, there] using hung
      rcases calls with rfl | rfl <;> simp [Isolate.work, there, Native.answering, never]
  cases message with
  | init handle => exact .inl ⟨handle, rfl, by simpa [Isolate.hangs] using hung⟩
  | destroy handle => cases hung
  | call handle id c => exact .inr ⟨id, called handle id c (.inl rfl)⟩
  | raw handle id c => exact .inr ⟨id, called handle id c (.inr rfl)⟩

theorem flush_first {app : App Call Value} {isolate isolate' : Isolate Ptr State} {message : Message Call}
    {queue : List (Message Call)} {id : Nat} {result : Except String Value}
    (run : Isolate.work native message isolate = ([.answered id result], isolate')) :
    ∃ rest, (flush native ⟨app, isolate, message :: queue, []⟩).app.results =
      app.results ++ (id, result) :: rest := by
  let system : System Ptr Call Value State := ⟨app, isolate, message :: queue, []⟩
  let more := (workAll native queue isolate').1
  have replied : (handled native system).replies = .answered id result :: more := by
    simp only [system, handled, workAll, run, List.nil_append]
    rfl
  have first : app.results ++ [(id, result)] <+: (delivered (handled native system)).app.results := by
    rw [delivered, replied]
    exact results_receiveAll more { app with results := app.results ++ [(id, result)] }
  have whole : app.results ++ [(id, result)] <+: (flush native system).app.results :=
    first.trans (results_deliver (handled native (delivered (handled native system))))
  rcases whole with ⟨rest, same⟩
  refine ⟨rest, ?_⟩
  rw [← same, List.append_assoc]
  rfl

theorem flush_unmade {app : App Call Value} {isolate : Isolate Ptr State} {queue : List (Message Call)} {handle : Nat}
    (never : native.makes isolate.state = false)
    (phase : Phase (handled (native.answering text) ⟨app, isolate, .init handle :: queue, []⟩)) :
    ∃ id rest, (flush (native.answering text) ⟨app, isolate, .init handle :: queue, []⟩).app.results =
      app.results ++ (id, .error text) :: rest := by
  have run : Isolate.work (native.answering text) (.init handle) isolate = ([.opened handle (.error text)], isolate) := by
    simp [Isolate.work, Native.answering, never]
  have replied : (handled (native.answering text) ⟨app, isolate, .init handle :: queue, []⟩).replies =
      .opened handle (.error text) :: (workAll (native.answering text) queue isolate).1 := by
    simp only [handled, workAll, run, List.nil_append]
    rfl
  rw [← flush_handled]
  cases phase with
  | steady answers idle replies still alive silent =>
    rw [replied] at replies
    cases answers with
    | nil => cases replies
    | cons given answers => cases (List.cons.inj replies).1
  | arriving answers other result calls waiting idle replies opening only alive asked waits =>
    have shape : handled (native.answering text) ⟨app, isolate, .init handle :: queue, []⟩ =
        ⟨app, (handled (native.answering text) ⟨app, isolate, .init handle :: queue, []⟩).isolate, [],
          answers.map answer ++ [.opened other result]⟩ := by
      rw [← replies]
      rfl
    rw [replied] at replies
    cases answers with
    | cons given answers => cases (List.cons.inj replies).1
    | nil =>
      obtain ⟨rfl, rfl⟩ := Reply.opened.inj (List.cons.inj replies).1
      have future : app.handles handle = .opening waiting := opening
      rw [shape, List.map_nil, List.nil_append]
      have failing := flush_failed (native.answering text)
        (handled (native.answering text) ⟨app, isolate, .init handle :: queue, []⟩).isolate [] future text
      rw [List.map_nil, List.nil_append] at failing
      rw [failing]
      rcases List.exists_cons_of_ne_nil asked with ⟨given, later, rfl⟩
      obtain ⟨tail, rfl⟩ : ∃ tail, waiting = deferred given :: tail := by
        rcases waits with ⟨_, rfl⟩ | ⟨_, rfl⟩
        · exact ⟨later.map deferred, rfl⟩
        · exact ⟨later.map deferred ++ [.close], rfl⟩
      refine ⟨given.1, tail.filterMap (Deferred.refused text), ?_⟩
      rw [List.append_nil]
      rfl

theorem flush_blocked (blocked : system.Blocked native) (silent : system.replies = [])
    (phase : Phase (handled (native.answering text) system)) :
    ∃ id rest, (flush (native.answering text) system).app.results = system.app.results ++ (id, .error text) :: rest := by
  rcases blocked with ⟨message, queue, waiting, hung⟩
  rcases system with ⟨app, isolate, queue', replies⟩
  obtain rfl : queue' = message :: queue := waiting
  obtain rfl : replies = [] := silent
  rcases hung_cases hung text with ⟨handle, rfl, never⟩ | ⟨id, run⟩
  · exact flush_unmade never phase
  · exact ⟨id, flush_first run⟩

def Session.Complete (session : Session Ptr Value State) : Prop :=
  session.results.map Prod.fst = List.range session.called

theorem complete_answer (c : Call) {session : Session Ptr Value State} (complete : session.Complete) :
    (session.answer native c).Complete := by
  unfold Session.answer
  split
  · split
    · simp [Session.Complete, List.range_succ, complete.symm]
    · exact complete
  · simp [Session.Complete, List.range_succ, complete.symm]
  · exact complete

theorem complete_step (event : Event Call) {session : Session Ptr Value State} (complete : session.Complete) :
    (session.step native event).Complete := by
  unfold Session.step
  split
  · exact complete
  cases event with
  | call c =>
    apply complete_answer
    unfold Session.open_
    split
    · split
      · split <;> exact complete
      · exact complete
    · exact complete
  | raw handle c => exact complete_answer c complete
  | destroy =>
    simp only [Session.move]
    split <;> exact complete
  | handle => exact complete
  | deliver => exact complete

theorem complete_after (events : List (Event Call)) {session : Session Ptr Value State} (complete : session.Complete) :
    (after (Session.step native) events session).Complete := by
  induction events generalizing session with
  | nil => exact complete
  | cons event events ih => exact ih (complete_step event complete)

/-- What the application has been told is what it would be told without an isolate, up to the call that never
    returns if there is one, and all of it once nothing more comes. -/
theorem results_arrive (native : Native Ptr Call Value State)
    (calm : Throughout (System.step native) Calm events (.initial state)) :
    let reached := after (System.step native) events (.initial state)
    let session := after (Session.step native) events (.initial state)
    reached.app.results <+: session.results ∧ (session.stuck = false → session.called = reached.app.called) ∧
      (reached.queue = [] → reached.replies = [] → session.stuck = false ∧ session = reached.session) ∧
      (reached.Blocked native → reached.replies = [] → session.stuck = true ∧ reached.app.results = session.results) := by
  intro reached session
  -- two answers to the call that never returns: what is the same with both does not depend on it
  rcases run_told native "" calm with ⟨phase, told⟩
  rcases run_told native "-" calm with ⟨phase', told'⟩
  have parts : ∀ id id' : Nat, ((id, .error "") : Nat × Except String Value) ≠ (id', .error "-") := by simp
  have both := told.both told'
  have grown : reached.app.results <+: (flush (native.answering "") reached).session.results := results_flush reached
  have grown' : reached.app.results <+: (flush (native.answering "-") reached).session.results := results_flush reached
  have early : reached.app.results <+: session.results := by
    rcases both with ⟨_, same, _⟩ | ⟨_, rest, rest', results, results'⟩
    · rw [same] at grown
      exact grown
    · rw [results] at grown
      rw [results'] at grown'
      exact prefix_of_parting (parts _ _) grown grown'
  refine ⟨early, ?_, ?_, ?_⟩
  · intro running
    rcases both with ⟨_, same, _⟩ | ⟨stuck, _⟩
    · exact (congrArg Session.called same).symm.trans (called_flush reached)
    · exact absurd (stuck.symm.trans running) (by decide)
  · intro idle silent
    rcases both with ⟨running, same, _⟩ | ⟨_, rest, rest', results, results'⟩
    · exact ⟨running, same.symm.trans (congrArg System.session (flush_quiet idle silent))⟩
    · rw [flush_quiet idle silent] at results results'
      have again := List.append_cancel_left (results.symm.trans results')
      exact absurd (List.cons.inj again).1 (parts _ _)
  · intro blocked silent
    rcases flush_blocked blocked silent phase with ⟨id, more, next⟩
    rcases flush_blocked blocked silent phase' with ⟨id', more', next'⟩
    have there : (flush (native.answering "") reached).session.results =
        reached.app.results ++ (id, .error "") :: more := next
    have there' : (flush (native.answering "-") reached).session.results =
        reached.app.results ++ (id', .error "-") :: more' := next'
    rcases both with ⟨_, same, same'⟩ | ⟨stuck, rest, rest', results, results'⟩
    · rw [same] at there
      rw [same'] at there'
      exact absurd (List.cons.inj (List.append_cancel_left (there.symm.trans there'))).1 (parts _ _)
    · have late : session.results <+: reached.app.results := by
        rw [there] at results
        rw [there'] at results'
        exact prefix_of_parting (parts id id') ⟨_, results.symm⟩ ⟨_, results'.symm⟩
      exact ⟨stuck, early.eq_of_length_le late.length_le⟩

theorem calm_draining {rest : List (Event Call)} (draining : Draining rest) :
    Throughout (System.step native) Calm rest system := by
  induction rest generalizing system with
  | nil => exact True.intro
  | cons event rest ih =>
    refine ⟨?_, ih fun other member => draining other (List.mem_cons_of_mem _ member)⟩
    rcases draining event List.mem_cons_self with rfl | rfl <;> exact True.intro

theorem calm_append {rest : List (Event Call)} (calm : Throughout (System.step native) Calm events system)
    (draining : Draining rest) : Throughout (System.step native) Calm (events ++ rest) system := by
  induction events generalizing system with
  | nil => exact calm_draining draining
  | cons event events ih => exact ⟨calm.1, ih calm.2⟩

theorem session_draining {rest : List (Event Call)} (draining : Draining rest) (session : Session Ptr Value State) :
    after (Session.step native) rest session = session := by
  induction rest generalizing session with
  | nil => rfl
  | cons event rest ih =>
    have stays : session.step native event = session := by
      rcases draining event List.mem_cons_self with rfl | rfl <;> simp [Session.step, Session.move]
    exact (ih (fun other member => draining other (List.mem_cons_of_mem _ member)) _).trans stays

/-- Whatever order the isolate and the application get on in, the application gets what it would get if
    there were no isolate, and it gets all of it. With a call that never returns, this is what comes before it. -/
theorem proxy_transparent (native : Native Ptr Call Value State) (events : List (Event Call)) (state : State)
    (calm : Throughout (System.step native) Calm events (.initial state)) :
    let reached := after (System.step native) events (.initial state)
    let session := after (Session.step native) events (.initial state)
    reached.app.results <+: session.results ∧
      session.results.map Prod.fst = List.range session.called ∧
      (session.stuck = false → session.called = reached.app.called) ∧
      (reached.queue = [] → reached.replies = [] → session.stuck = false ∧
        reached.app.results = session.results ∧ reached.isolate.state = session.state) ∧
      ∃ rest, Draining rest ∧
        let ended := after (System.step native) rest reached
        ended.replies = [] ∧ ended.app.results = session.results ∧
          (session.stuck = false → ended.queue = []) ∧ (session.stuck = true → ended.Blocked native) := by
  intro reached session
  rcases results_arrive native calm with ⟨early, called, settled, _⟩
  refine ⟨early, complete_after events rfl, called, ?_, ?_⟩
  · intro idle silent
    rcases settled idle silent with ⟨running, same⟩
    exact ⟨running, congrArg Session.results same.symm, congrArg Session.state same.symm⟩
  · rcases rests_reached native reached with ⟨rest, draining, silent, stops⟩
    refine ⟨rest, draining, ?_⟩
    intro ended
    have whole : after (System.step native) (events ++ rest) (.initial state) = ended := after_append events rest _
    have told : after (Session.step native) (events ++ rest) (.initial state) = session :=
      (List.foldl_append).trans (session_draining draining session)
    rcases results_arrive native (calm_append calm draining) with ⟨_, _, settled', blocked'⟩
    rw [whole, told] at settled' blocked'
    rcases stops with idle | blocked
    · rcases settled' idle silent with ⟨running, same⟩
      refine ⟨silent, congrArg Session.results same.symm, fun _ => idle, fun stuck => ?_⟩
      exact absurd (stuck.symm.trans running) (by decide)
    · rcases blocked' blocked silent with ⟨stuck, same⟩
      refine ⟨silent, same, fun running => ?_, fun _ => blocked⟩
      exact absurd (stuck.symm.trans running) (by decide)

def tally : Native Unit Nat Nat Nat where
  makeInstance sum := (.ok (), sum)
  handleCall _ n sum := (.ok (sum + n), sum + n)
  free _ sum := sum
  makes _ := true
  returns _ n _ := n ≠ 0

def reopening : List (Event Nat) :=
  [.call 2, .handle, .call 3, .deliver, .handle, .destroy, .deliver, .handle, .handle, .call 4, .call 0, .call 1]

theorem proxy_transparent_tally : ∃ rest, Draining rest ∧
    let ended := after (System.step tally) rest (after (System.step tally) reopening (.initial 0))
    ended.app.results = [(0, .ok 2), (1, .ok 5), (2, .ok 9)] ∧ ended.Blocked tally := by
  have calm : Throughout (System.step tally) Calm reopening (.initial 0) := by
    simp [reopening, Throughout, Calm, System.step, System.initial, App.initial, App.call, App.destroy, System.send,
      Isolate.work, Isolate.hangs, App.receive, Deferred.message, tally, Function.update_apply]
  rcases (proxy_transparent tally reopening 0 calm).2.2.2.2 with ⟨rest, draining, _, all, _, blocked⟩
  exact ⟨rest, draining, all, blocked rfl⟩

end Runs

end Flouze.IsolateProxy
