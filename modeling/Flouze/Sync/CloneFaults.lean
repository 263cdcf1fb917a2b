import Flouze.Sync.Faults
import Flouze.Sync.Operations
import Flouze.Sync.References
import Flouze.Sync.Untrusted

namespace Flouze

open Linked Repository

structure Unchanged (store store' : Store) : Prop where
  accounts : store'.listAccounts = store.listAccounts
  records : ∀ id, store'.account? id = store.account? id
  chains : ∀ id chain, store'.Chain id chain ↔ store.Chain id chain

theorem Unchanged.refl (store : Store) : Unchanged store store := ⟨rfl, fun _ => rfl, fun _ _ => Iff.rfl⟩

def Pulls (id : AccountId) (latest : RemoteCall.Reply (.getLatestTransaction id))
    (children : (base : TransactionId) → RemoteCall.Reply (.getChildTransactions id base)) (store : Store) : Prop :=
  ∃ record latestRemote received unsynchronized, store.account? id = some record ∧ latest = .ok latestRemote ∧
    record.latestSynchronizedTransaction ≠ latestRemote ∧
    children record.latestSynchronizedTransaction = .ok received ∧ Accepted store record received ∧
    eachTransaction store record [] (collectUntil record.latestSynchronizedTransaction) = .ok unsynchronized

section Reads

variable {store : Store} {record : Account} {collected : List Transaction} {stop : TransactionId}

theorem collected_latest (returns : eachTransaction store record [] (collectUntil stop) = .ok collected)
    (some : collected ≠ []) :
    record.latestTransaction ≠ [] ∧ store.transaction? record.uuid record.latestTransaction ≠ none := by
  have unfolded : eachTransaction store record [] (collectUntil stop) =
      forChain store (collectUntil stop) (transactionCount store + 1) ⟨record.uuid, record.latestTransaction⟩ [] := rfl
  rw [unfolded] at returns
  by_cases empty : record.latestTransaction = []
  · rw [empty] at returns
    simp only [forChain, next_nil] at returns
    exact absurd (Outcome.ok.inj returns).symm some
  · refine ⟨empty, fun absent => ?_⟩
    simp [forChain, TransactionChain.next, empty, Store.getTransaction_none absent] at returns

theorem collect_synchronized (synchronized : record.latestTransaction = stop)
    (stored : stop = [] ∨ store.transaction? record.uuid stop ≠ none) :
    eachTransaction store record [] (collectUntil stop) = .ok [] := by
  have unfolded : eachTransaction store record [] (collectUntil stop) =
      forChain store (collectUntil stop) (transactionCount store + 1) ⟨record.uuid, record.latestTransaction⟩ [] := rfl
  rw [unfolded, synchronized]
  by_cases empty : stop = []
  · rw [empty]
    rfl
  · rcases Option.ne_none_iff_exists'.mp (stored.resolve_left empty) with ⟨tx, found⟩
    have uuid := Store.uuid_of_transaction? found
    simp [forChain, next_stored empty found, collectUntil, uuid]

end Reads

section Pulling

variable {generate : Nat → TransactionId} {device : Device Store} {record : Account}
variable {received rebased : List Transaction} {old : List TransactionId}

theorem adopt_short (generate : Nat → TransactionId) (device : Device Store) (record : Account)
    (received : List Transaction) :
    ((¬ Accepted device.repo record received ∨
        ∀ collected, eachTransaction device.repo record [] (collectUntil record.latestSynchronizedTransaction) ≠
          .ok collected) ∧
      ∃ outcome, adoptTransactions generate record received device = (outcome, device) ∧
        ∀ record', outcome ≠ .ok record') ∨
    (Accepted device.repo record received ∧
      ∃ collected, eachTransaction device.repo record [] (collectUntil record.latestSynchronizedTransaction) =
        .ok collected) := by
  by_cases accepted : Accepted device.repo record received
  · rcases accepted with ⟨nonempty, fresh, consistent⟩
    rcases Option.ne_none_iff_exists'.mp (mt List.getLast?_eq_none_iff.mp nonempty) with ⟨last, last?⟩
    have check : ∃ write, adoptTransactions generate record received device =
        (rebaseTransactions generate record last.uuid >>= write) device := by
      unfold adoptTransactions
      rw [last?]
      simp only
      rw [Routine.bind_ok (by rw [Routine.view_apply, checkUniqueness_fresh fresh])]
      simp only [consistent, Bool.not_true, Bool.false_eq_true, ite_false]
      exact ⟨_, rfl⟩
    rcases check with ⟨write, check⟩
    cases collected : eachTransaction device.repo record [] (collectUntil record.latestSynchronizedTransaction) with
    | ok unsynchronized => exact .inr ⟨⟨nonempty, fresh, consistent⟩, unsynchronized, rfl⟩
    | err error =>
      have stopped : rebaseTransactions generate record last.uuid device = (.err error, device) :=
        Routine.bind_err (by rw [Routine.view_apply, collected])
      refine .inl ⟨.inr (by simp), .err error, check.trans (Routine.bind_err stopped), by simp⟩
    | hang =>
      have stopped : rebaseTransactions generate record last.uuid device = (.hang, device) :=
        Routine.bind_hang (by rw [Routine.view_apply, collected])
      refine .inl ⟨.inr (by simp), .hang, check.trans (Routine.bind_hang stopped), by simp⟩
  · rcases adopt_unaccepted generate accepted with ⟨error, run⟩
    exact .inl ⟨.inl accepted, _, run, by simp⟩

theorem deletions_keep (account : AccountId) (store : Store) (old : List TransactionId) :
    ((old.map Write.deleteTransaction).forM (Write.perform account) store).1 ≠ .hang ∧
      ∀ other, ((old.map Write.deleteTransaction).forM (Write.perform account) store).2.account? other =
        store.account? other := by
  induction old generalizing store with
  | nil => exact ⟨by simp [Routine.pure_apply], fun _ => rfl⟩
  | cons id old ih =>
    change (((Write.deleteTransaction id).perform account >>= fun _ =>
      (old.map Write.deleteTransaction).forM (Write.perform account)) store).1 ≠ _ ∧ ∀ other,
        (((Write.deleteTransaction id).perform account >>= fun _ =>
          (old.map Write.deleteTransaction).forM (Write.perform account)) store).2.account? other = _
    cases found : store.transaction? account id with
    | none =>
      have failed : (Write.deleteTransaction id).perform account store = (.err (.noSuchTransaction id), store) :=
        Store.deleteTransaction_none found
      rw [Routine.bind_err failed]
      exact ⟨by simp, fun _ => rfl⟩
    | some tx =>
      have deleted : (Write.deleteTransaction id).perform account store =
          (.ok (), store.removeTransaction account id) := Store.deleteTransaction_some found
      rw [Routine.bind_ok deleted]
      exact ih (store.removeTransaction account id)

theorem adopt_written (generate : Nat → TransactionId) {unsynchronized : List Transaction}
    (accepted : Accepted device.repo record received)
    (collected : eachTransaction device.repo record [] (collectUntil record.latestSynchronizedTransaction) =
      .ok unsynchronized) :
    let rebased := moved generate device.generated (tip Transaction.uuid [] received) unsynchronized.reverse
    ∃ outcome device', adoptTransactions generate record received device = (outcome, device') ∧
      outcome ≠ .hang ∧ (∀ record', outcome = .ok record' → record' = record.advanced received rebased) ∧
      (∀ other, device'.repo.account? other =
        if other = record.uuid then some (record.advanced received rebased) else device.repo.account? other) ∧
      (unsynchronized = [] → outcome = .ok (record.advanced received rebased) ∧
        device'.repo = device.repo.adopted (record.advanced received rebased) received rebased []) := by
  intro rebased
  rcases accepted with ⟨nonempty, fresh, consistent⟩
  let old := unsynchronized.reverse.map Transaction.uuid
  let written := (device.repo.putTransactions record.uuid (received ++ rebased)).putAccount
    (record.advanced received rebased)
  have again : eachTransaction device.repo record [] (collectUntil record.latestSynchronizedTransaction) =
      .ok unsynchronized.reverse.reverse := by
    rw [List.reverse_reverse]
    exact collected
  have run : adoptTransactions generate record received device = _ :=
    adopt_writes nonempty (checkUniqueness_fresh fresh) consistent again
  have writes : (pullWrites (record.advanced received rebased) received rebased old).forM
      (Write.perform record.uuid) device.repo = (old.map Write.deleteTransaction).forM (Write.perform record.uuid)
        written := by
    rcases additions_succeed device.repo record.uuid (received ++ rebased) with ⟨additions, after⟩
    rw [pullWrites, Routine.forM_append, Routine.bind_ok additions.forM, after]
    rfl
  rcases deletions_keep record.uuid written old with ⟨returns, kept⟩
  rw [← writes] at returns kept
  have accounts : ∀ other, written.account? other =
      if other = record.uuid then some (record.advanced received rebased) else device.repo.account? other := by
    intro other
    rw [Store.account?_putAccount, Store.account?_putTransactions]
    rfl
  have nothing : unsynchronized = [] →
      (pullWrites (record.advanced received rebased) received rebased old).forM (Write.perform record.uuid)
        device.repo = (.ok (), device.repo.adopted (record.advanced received rebased) received rebased []) := by
    intro empty
    rw [writes]
    simp only [old, empty, List.reverse_nil, List.map_nil]
    change (Outcome.ok (), written) = _
    rw [Store.adopted]
    simp only [written, Store.putTransactions, List.foldl_append]
    rfl
  cases ended : (pullWrites (record.advanced received rebased) received rebased old).forM
    (Write.perform record.uuid) device.repo with
  | mk outcome store =>
    rw [ended] at returns kept nothing
    cases outcome with
    | ok value =>
      refine ⟨_, _, run.trans (Routine.bind_ok (onRepo_run ended)), by simp, ?_, ?_, ?_⟩
      · intro record' same
        exact (Outcome.ok.inj same).symm
      · intro other
        exact (kept other).trans (accounts other)
      · intro empty
        exact ⟨rfl, (Prod.mk.inj (nothing empty)).2⟩
    | err error =>
      refine ⟨_, _, run.trans (Routine.bind_err (onRepo_run ended)), by simp, by simp, ?_, ?_⟩
      · intro other
        exact (kept other).trans (accounts other)
      · intro empty
        cases (Prod.mk.inj (nothing empty)).1
    | hang => exact absurd rfl returns

end Pulling

section Push

variable {id : AccountId} {device : Device Store} {record stored : Account} {error : ErrorKind}
variable {ω : Type} {answer : (call : RemoteCall) → ω → call.Reply × ω}

theorem push_failed (found : device.repo.account? record.uuid = some stored) (partner : ω)
    (failed : ((pushLocalTransactions record device).run answer partner).1.1 = .err error) :
    ((pushLocalTransactions record device).run answer partner).1.2.repo = device.repo := by
  unfold pushLocalTransactions at failed ⊢
  cases collected : eachTransaction device.repo record [] (collectUntil record.latestSynchronizedTransaction) with
  | err error' =>
    rw [Process.run_bind_err (by rw [Process.run_perform, Routine.view_apply, collected])]
  | hang =>
    rw [Process.run_bind_hang (by rw [Process.run_perform, Routine.view_apply, collected])]
  | ok unsynchronized =>
    rw [Process.run_bind_ok (by rw [Process.run_perform, Routine.view_apply, collected])] at failed ⊢
    by_cases empty : unsynchronized.isEmpty
    · rw [if_pos empty]
      rfl
    · rw [if_neg empty] at failed ⊢
      cases replied : answer (.receiveTransactions record.uuid unsynchronized.reverse) partner with
      | mk reply partner' =>
        cases reply with
        | err error' => rw [Process.run_bind_err (remote_run device replied)]
        | hang => rw [Process.run_bind_hang (remote_run device replied)]
        | ok value =>
          rw [Process.run_bind_ok (remote_run device replied)] at failed
          have ended : ((onReceipt record () device).run answer partner').1.1 = .err error := failed
          rw [onReceipt_run found] at ended
          cases ended

theorem push_empty (collected : eachTransaction device.repo record []
    (collectUntil record.latestSynchronizedTransaction) = .ok []) (partner : ω) :
    (pushLocalTransactions record device).run answer partner = ((.ok (), device), partner) := by
  unfold pushLocalTransactions
  rw [Process.run_bind_ok (by rw [Process.run_perform, Routine.view_apply, collected])]
  rfl

end Push

section Sync

variable {id : AccountId} {generate : Nat → TransactionId} {device : Device Store} {error : ErrorKind}
variable {replies : Nat → (call : RemoteCall) → call.Reply} {n : Nat}

theorem heard_run {call : RemoteCall} {reply : call.Reply} (device : Device Store) (replied : replies n call = reply) :
    (remote call device).run (heard replies) n = ((reply, device), n + 1) :=
  remote_run device (by rw [heard, replied])

theorem rebase_heard {record : Account} (found : device.repo.account? record.uuid = some record) :
    let run := (rebaseLocalTransactions generate record device).run (heard replies) n
    let pulls := Pulls record.uuid (replies n (.getLatestTransaction record.uuid))
      (fun base => replies (n + 1) (.getChildTransactions record.uuid base)) device.repo
    (¬ pulls ∧ ∃ outcome m, run = ((outcome, device), m) ∧ ∀ record', outcome = .ok record' → record' = record) ∨
    (pulls ∧ ∃ received unsynchronized m, Accepted device.repo record received ∧
      eachTransaction device.repo record [] (collectUntil record.latestSynchronizedTransaction) = .ok unsynchronized ∧
      run = (adoptTransactions generate record received device, m)) := by
  intro run pulls
  have refused : (∀ latest, replies n (.getLatestTransaction record.uuid) = .ok latest →
      record.latestSynchronizedTransaction ≠ latest → ∀ received,
        replies (n + 1) (.getChildTransactions record.uuid record.latestSynchronizedTransaction) = .ok received →
          Accepted device.repo record received → ∀ unsynchronized, eachTransaction device.repo record []
            (collectUntil record.latestSynchronizedTransaction) ≠ .ok unsynchronized) → ¬ pulls := by
    intro refuses given
    rcases given with ⟨_, latest, received, unsynchronized, present, replied, differs, children, accepted, collected⟩
    obtain rfl := Option.some.inj (found.symm.trans present)
    exact refuses latest replied differs received children accepted unsynchronized collected
  have unfolded : run = (rebaseLocalTransactions generate record device).run (heard replies) n := rfl
  rw [rebaseLocalTransactions] at unfolded
  cases replied : replies n (.getLatestTransaction record.uuid) with
  | err error =>
    rw [Process.run_bind_err (heard_run device replied)] at unfolded
    exact .inl ⟨refused (by simp [replied]), _, _, unfolded, by simp⟩
  | hang =>
    rw [Process.run_bind_hang (heard_run device replied)] at unfolded
    exact .inl ⟨refused (by simp [replied]), _, _, unfolded, by simp⟩
  | ok latest =>
    rw [Process.run_bind_ok (heard_run device replied)] at unfolded
    by_cases same : record.latestSynchronizedTransaction = latest
    · rw [if_pos same] at unfolded
      refine .inl ⟨refused ?_, _, _, unfolded, fun record' ok => (Outcome.ok.inj ok).symm⟩
      intro value again differs
      obtain rfl := Outcome.ok.inj (replied.symm.trans again)
      exact absurd same differs
    · rw [if_neg same] at unfolded
      cases children : replies (n + 1) (.getChildTransactions record.uuid record.latestSynchronizedTransaction) with
      | err error =>
        rw [Process.run_bind_err (heard_run device children)] at unfolded
        exact .inl ⟨refused (by simp [children]), _, _, unfolded, by simp⟩
      | hang =>
        rw [Process.run_bind_hang (heard_run device children)] at unfolded
        exact .inl ⟨refused (by simp [children]), _, _, unfolded, by simp⟩
      | ok received =>
        rw [Process.run_bind_ok (heard_run device children), Process.run_perform] at unfolded
        rcases adopt_short generate device record received with ⟨short, outcome, ended, stops⟩ | ⟨accepted, collected⟩
        · rw [ended] at unfolded
          refine .inl ⟨refused ?_, outcome, _, unfolded, fun record' ok => absurd ok (stops record')⟩
          intro _ _ _ received' again accepted
          obtain rfl := Outcome.ok.inj (children.symm.trans again)
          exact short.resolve_left (not_not_intro accepted)
        · rcases collected with ⟨unsynchronized, collected⟩
          exact .inr ⟨⟨record, latest, received, unsynchronized, found, replied, same, children, accepted, collected⟩,
            received, unsynchronized, _, accepted, collected, unfolded⟩

theorem moved_tip (generate : Nat → TransactionId) (count : Nat) (parent base : TransactionId)
    {pending : List Transaction} (some : pending ≠ []) :
    ∃ m, count ≤ m ∧ tip Transaction.uuid base (moved generate count parent pending) = generate m := by
  have moves : moved generate count parent pending ≠ [] := by
    rw [← List.length_pos_iff, moved_length]
    exact List.length_pos_iff.mpr some
  rcases List.mem_map.mp (tip_mem Transaction.uuid base moves) with ⟨tx, member, same⟩
  rcases mem_moved _ _ _ member with ⟨m, later, _, drawn⟩
  exact ⟨m, later, by rw [← same, drawn]⟩

theorem advanced_synchronized {store : Store} {record : Account} {received : List Transaction}
    (accepted : Accepted store record received) :
    let record' := record.advanced received []
    eachTransaction (store.adopted record' received [] []) record' []
      (collectUntil record'.latestSynchronizedTransaction) = .ok [] := by
  intro record'
  have latest : record'.latestTransaction = record'.latestSynchronizedTransaction := by
    simp only [record', Account.advanced, List.append_nil]
  refine collect_synchronized latest (.inr ?_)
  rcases List.mem_map.mp (tip_mem Transaction.uuid [] accepted.1) with ⟨tx, member, same⟩
  have stored := Store.putTransactions_stored store record.uuid member
  rw [same] at stored
  exact stored

theorem pulled_failed {record : Account} {received unsynchronized : List Transaction} {m : Nat}
    (ids : ∀ m, device.generated ≤ m → device.repo.transaction? record.uuid (generate m) = none)
    (accepted : Accepted device.repo record received)
    (collected : eachTransaction device.repo record [] (collectUntil record.latestSynchronizedTransaction) =
      .ok unsynchronized)
    (ended : (rebaseLocalTransactions generate record device).run (heard replies) n =
      (adoptTransactions generate record received device, m))
    (failed : (((rebaseLocalTransactions generate record >>= pushLocalTransactions) device).run
      (heard replies) n).1.1 = .err error) :
    ∃ record' : Account, record.latestTransaction ≠ [] ∧ record'.latestTransaction ≠ record.latestTransaction ∧
      ∀ other, (((rebaseLocalTransactions generate record >>= pushLocalTransactions) device).run
        (heard replies) n).1.2.repo.account? other =
          if other = record.uuid then some record' else device.repo.account? other := by
  rcases adopt_written generate accepted collected with ⟨outcome, device', adopted, _, returned, accounts, nothing⟩
  rw [adopted] at ended
  by_cases empty : unsynchronized = []
  · subst empty
    rcases nothing rfl with ⟨rfl, store⟩
    rw [Process.run_bind_ok ended, push_empty] at failed
    · cases failed
    · rw [store]
      exact advanced_synchronized accepted
  · rcases collected_latest collected empty with ⟨named, stored⟩
    have unsent : unsynchronized.reverse ≠ [] := by simpa using empty
    let record' := record.advanced received
      (moved generate device.generated (tip Transaction.uuid [] received) unsynchronized.reverse)
    refine ⟨record', named, ?_, ?_⟩
    · obtain ⟨drawn, later, same⟩ := moved_tip generate device.generated (tip Transaction.uuid [] received)
        (tip Transaction.uuid [] received) unsent
      have latest : record'.latestTransaction = generate drawn := by
        simp only [record', Account.advanced, tip_append, same]
      rw [latest]
      intro equal
      exact stored (equal ▸ ids drawn later)
    · intro other
      cases outcome with
      | err error' =>
        rw [Process.run_bind_err ended]
        exact accounts other
      | hang =>
        rw [Process.run_bind_hang ended]
        exact accounts other
      | ok record'' =>
        obtain rfl := returned record'' rfl
        rw [Process.run_bind_ok ended] at failed ⊢
        have here : device'.repo.account? record'.uuid = some record' := by
          rw [accounts]
          exact if_pos rfl
        rw [push_failed here m failed]
        exact accounts other

/-- A sync that fails has left everything as it was, unless it had pulled before: then the account
    names another latest transaction. -/
theorem sync_failed (ids : ∀ m, device.generated ≤ m → device.repo.transaction? id (generate m) = none)
    (failed : ((sync generate id device).run (heard replies) n).1.1 = .err error) :
    let after := ((sync generate id device).run (heard replies) n).1.2.repo
    let pulls := Pulls id (replies n (.getLatestTransaction id))
      (fun base => replies (n + 1) (.getChildTransactions id base)) device.repo
    (¬ pulls ∧ after = device.repo) ∨
    (pulls ∧ ∃ record record', device.repo.account? id = some record ∧ record.latestTransaction ≠ [] ∧
      record'.latestTransaction ≠ record.latestTransaction ∧
      ∀ other, after.account? other = if other = id then some record' else device.repo.account? other) := by
  intro after pulls
  cases found : device.repo.account? id with
  | none =>
    have ended : after = device.repo := by
      simp only [after, sync_missing found]
      rfl
    refine .inl ⟨?_, ended⟩
    intro given
    rcases given with ⟨_, _, _, _, present, _⟩
    rw [found] at present
    cases present
  | some record =>
    obtain rfl : record.uuid = id := Store.uuid_of_account? found
    have opens : getAccount record.uuid device.repo = .ok record := Store.getAccount_some found
    have run : (sync generate record.uuid device).run (heard replies) n = _ := sync_opens opens n
    simp only [after, run]
    rw [run] at failed
    rcases rebase_heard found with ⟨short, outcome, m, ended, same⟩ | ⟨pulled, received, unsynchronized, m, accepted,
      collected, ended⟩
    · refine .inl ⟨short, ?_⟩
      cases outcome with
      | err error' => rw [Process.run_bind_err ended]
      | hang => rw [Process.run_bind_hang ended]
      | ok record' =>
        obtain rfl := same record' rfl
        rw [Process.run_bind_ok ended] at failed ⊢
        exact push_failed found m failed
    · rcases pulled_failed ids accepted collected ended failed with ⟨record', named, differs, accounts⟩
      exact .inr ⟨pulled, record, record', rfl, named, differs, accounts⟩

/-- A clone that fails after the account's description has arrived leaves nothing changed only if the
    same blank record was there before, and the sync has not got to its writes. -/
theorem clone_failed_iff (ids : ∀ m, device.generated ≤ m → device.repo.transaction? id (generate m) = none)
    (failed : ((cloneRemote generate id device).run (heard replies) 0).1.1 = .err error) :
    Unchanged device.repo ((cloneRemote generate id device).run (heard replies) 0).1.2.repo ↔
      (∃ unheard, replies 0 (.getAccountInfo id) = .err unheard) ∨
      ∃ info, replies 0 (.getAccountInfo id) = .ok info ∧ device.repo.account? info.uuid = some info.profile ∧
        ¬ Pulls id (replies 1 (.getLatestTransaction id)) (fun base => replies 2 (.getChildTransactions id base))
          device.repo := by
  unfold cloneRemote at failed ⊢
  cases replied : replies 0 (.getAccountInfo id) with
  | err unheard =>
    rw [Process.run_bind_err (heard_run device replied)]
    exact iff_of_true (Unchanged.refl _) (.inl ⟨unheard, rfl⟩)
  | hang =>
    rw [Process.run_bind_hang (heard_run device replied)] at failed
    cases failed
  | ok info =>
    let entered : Device Store := { device with repo := device.repo.putAccount info.profile }
    have written : (addAccount info.profile : Routine Store ErrorKind Unit) device.repo =
        (.ok (), device.repo.putAccount info.profile) := addAccount_run _ _
    have run : ∀ rest : Account → SyncM Store Unit, rest = (fun account => do
        Process.perform (onRepo (addAccount { account with latestTransaction := [], latestSynchronizedTransaction := [] }))
        sync generate id) → ((remote (.getAccountInfo id) >>= rest) device).run (heard replies) 0 =
          (sync generate id entered).run (heard replies) 1 := by
      intro rest same
      subst same
      rw [Process.run_bind_ok (heard_run device replied)]
      exact Process.run_bind_ok (perform_run written 1)
    rw [run _ rfl] at failed ⊢
    have same : device.repo.account? info.uuid = some info.profile → entered.repo = device.repo :=
      fun present => Store.putAccount_same device.repo present
    have put : ∀ other, entered.repo.account? other =
        if other = info.uuid then some info.profile else device.repo.account? other :=
      fun other => Store.account?_putAccount _ _ other
    have unused : ∀ m, entered.generated ≤ m → entered.repo.transaction? id (generate m) = none := ids
    constructor
    · intro unchanged
      rcases sync_failed unused failed with ⟨short, after⟩ | ⟨_, record, record', found, named, differs, after⟩
      · have blank := unchanged.records info.uuid
        rw [after, put, if_pos rfl] at blank
        rw [same blank.symm] at short
        exact .inr ⟨info, rfl, blank.symm, short⟩
      · have now := unchanged.records id
        rw [after, if_pos rfl] at now
        rw [put] at found
        split at found
        · obtain rfl := Option.some.inj found
          exact absurd rfl named
        · rw [found] at now
          exact absurd (congrArg Account.latestTransaction (Option.some.inj now)) differs
    · intro given
      rcases given with ⟨unheard, refused⟩ | ⟨info', again, present, short⟩
      · cases refused
      · obtain rfl := Outcome.ok.inj again
        rw [← same present] at short
        rcases sync_failed unused failed with ⟨_, after⟩ | ⟨pulled, _⟩
        · rw [after, same present]
          exact Unchanged.refl _
        · exact absurd pulled short

end Sync

def infoOnly (_ : Nat) : (call : RemoteCall) → call.Reply
  | .getAccountInfo id => .ok (makeAccount id)
  | .createAccount _ | .getLatestTransaction _ | .receiveTransactions _ _ | .getChildTransactions _ _ =>
    .err (.jsonRpcClientError "timeout")

theorem clone_failed_blank :
    Unchanged (Store.empty.putAccount (makeAccount [7]))
      ((cloneRemote (numbered 1) [7] ⟨Store.empty.putAccount (makeAccount [7]), 0⟩).run (heard infoOnly) 0).1.2.repo := by
  have failed : ((cloneRemote (numbered 1) [7] ⟨Store.empty.putAccount (makeAccount [7]), 0⟩).run
      (heard infoOnly) 0).1.1 = .err (.jsonRpcClientError "timeout") := by decide
  refine (clone_failed_iff (fun _ _ => rfl) failed).mpr (.inr ⟨makeAccount [7], rfl, by decide, ?_⟩)
  intro given
  rcases given with ⟨_, _, _, _, _, refused, _⟩
  cases refused

/-- A failed clone leaves an empty account behind, and detaches the history of one that was there. -/
theorem failed_clone_changes :
    (let result := ((cloneRemote (numbered 1) [7] ⟨Store.empty, 0⟩).run (heard infoOnly) 0).1
    result.1 = .err (.jsonRpcClientError "timeout") ∧ Store.empty.account? [7] = none ∧
      makeAccount [7] ∈ result.2.repo.listAccounts) ∧
    let result := ((cloneRemote (numbered 1) [7] enteredOne).run (heard infoOnly) 0).1
    result.1 = .err (.jsonRpcClientError "timeout") ∧ enteredOne.repo.Chain [7] [makeTransaction [0] []] ∧
      result.2.repo.Chain [7] [] := by
  refine ⟨⟨by decide, by decide, ?_⟩, by decide, ?_, ?_⟩
  · rw [Store.mem_listAccounts]
    decide
  · exact ⟨enteredAccount, Store.holding_account, Store.holding_read ⟨rfl, True.intro⟩ (by decide) (by decide)⟩
  · exact ⟨makeAccount [7], by decide, Chained.nil _ _ _ _⟩

end Flouze
