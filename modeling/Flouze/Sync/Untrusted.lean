import Flouze.Sync.Stages

namespace Flouze

open Linked Repository

section Answers

variable {ω : Type} (answer : (call : RemoteCall) → ω → call.Reply × ω) (record : Account) (remote : ω)

def latestReply : Outcome ErrorKind TransactionId := (answer (.getLatestTransaction record.uuid) remote).1

def childrenReply : Outcome ErrorKind (List Transaction) :=
  (answer (.getChildTransactions record.uuid record.latestSynchronizedTransaction)
    (answer (.getLatestTransaction record.uuid) remote).2).1

end Answers

/-- The transactions that a pull takes over if it succeeds. -/
def fetched (record : Account) : Outcome ErrorKind TransactionId → Outcome ErrorKind (List Transaction) →
    List Transaction
  | .ok latest, .ok received => if record.latestSynchronizedTransaction = latest then [] else received
  | _, _ => []

theorem fetched_same (record : Account) (children : Outcome ErrorKind (List Transaction)) :
    fetched record (.ok record.latestSynchronizedTransaction) children = [] := by
  cases children <;> simp [fetched]

theorem fetched_differs {record : Account} {latest : TransactionId}
    (differs : record.latestSynchronizedTransaction ≠ latest) (received : List Transaction) :
    fetched record (.ok latest) (.ok received) = received := if_neg differs

def Accepted (store : Store) (record : Account) (received : List Transaction) : Prop :=
  received ≠ [] ∧
  (∀ id ∈ received.map Transaction.uuid, store.transaction? record.uuid id = none) ∧
  checkChainConsistency received = true

/-- The old history up to what was synchronized, then what was received, then the rest of the old
    history under new ids; and the synchronized transaction is on it. -/
structure HistoryKept (record : Account) (chain received : List Transaction) (store : Store)
    (record' : Account) (rebased : List Transaction) : Prop where
  content : rebased.map Transaction.content =
    (since Transaction.uuid record.latestSynchronizedTransaction chain).map Transaction.content
  read : store.ChainAt record.uuid record'.latestTransaction
    (upTo Transaction.uuid record.latestSynchronizedTransaction chain ++ received ++ rebased)
  distinct : ((upTo Transaction.uuid record.latestSynchronizedTransaction chain ++ received ++ rebased).map
    Transaction.uuid).Nodup
  synchronized : record'.latestSynchronizedTransaction = [] ∨ record'.latestSynchronizedTransaction ∈
    (upTo Transaction.uuid record.latestSynchronizedTransaction chain ++ received ++ rebased).map
      Transaction.uuid
  stored : store.account? record.uuid = some record'
  returns : eachTransaction store record' [] (collectUntil record'.latestSynchronizedTransaction) ≠ .hang

/-- The client goes on from a synchronized transaction that it knows, and a batch that passes its
    checks starts there and has ids that are neither null nor given twice. -/
def Sincere (store : Store) (record : Account) (chain : List Transaction)
    (latest : Outcome ErrorKind TransactionId) (children : Outcome ErrorKind (List Transaction)) : Prop :=
  (latest = .ok record.latestSynchronizedTransaction →
    record.latestSynchronizedTransaction = [] ∨
      record.latestSynchronizedTransaction ∈ chain.map Transaction.uuid) ∧
  ∀ id first rest, latest = .ok id → record.latestSynchronizedTransaction ≠ id →
    children = .ok (first :: rest) → Accepted store record (first :: rest) →
    first.parent =
      tip Transaction.uuid [] (upTo Transaction.uuid record.latestSynchronizedTransaction chain) ∧
    (∀ tx ∈ first :: rest, tx.uuid ≠ []) ∧ ((first :: rest).map Transaction.uuid).Nodup

section Adopt

variable {generate : Nat → TransactionId} {device : Device Store} {record : Account}
variable {chain received : List Transaction}

theorem adopt_unaccepted (generate : Nat → TransactionId) {received : List Transaction}
    (unaccepted : ¬ Accepted device.repo record received) :
    ∃ error, adoptTransactions generate record received device = (.err error, device) := by
  by_cases empty : received = []
  · subst empty
    exact ⟨_, adopt_empty generate⟩
  by_cases fresh : ∀ id ∈ received.map Transaction.uuid, device.repo.transaction? record.uuid id = none
  · have inconsistent : ¬ checkChainConsistency received = true := fun consistent =>
      unaccepted ⟨empty, fresh, consistent⟩
    exact ⟨_, adopt_inconsistent generate fresh (Bool.eq_false_iff.mpr inconsistent)⟩
  · push Not at fresh
    rcases adopt_duplicate generate fresh with ⟨_, _, _, run⟩
    exact ⟨_, run⟩

theorem adopt_cases (generate : Nat → TransactionId)
    (read : device.repo.ChainAt record.uuid record.latestTransaction chain) (received : List Transaction) :
    let pending := since Transaction.uuid record.latestSynchronizedTransaction chain
    let rebased := moved generate device.generated (tip Transaction.uuid [] received) pending
    (¬ Accepted device.repo record received ∧
      ∃ error, adoptTransactions generate record received device = (.err error, device)) ∨
    (Accepted device.repo record received ∧ adoptTransactions generate record received device =
      (.ok (record.advanced received rebased),
        { repo := device.repo.adopted (record.advanced received rebased) received rebased
            (pending.map Transaction.uuid)
          generated := device.generated + pending.length })) := by
  intro pending rebased
  by_cases accepted : Accepted device.repo record received
  · rcases accepted with ⟨nonempty, fresh, consistent⟩
    exact .inr ⟨⟨nonempty, fresh, consistent⟩, adopt_run generate read nonempty fresh consistent⟩
  · exact .inl ⟨accepted, adopt_unaccepted generate accepted⟩

theorem unchanged_kept_iff (found : device.repo.account? record.uuid = some record)
    (read : device.repo.ChainAt record.uuid record.latestTransaction chain) :
    (∃ renamed, HistoryKept record chain [] device.repo record renamed) ↔
      (record.latestSynchronizedTransaction = [] ∨
        record.latestSynchronizedTransaction ∈ chain.map Transaction.uuid) := by
  have split := upTo_append_since Transaction.uuid record.latestSynchronizedTransaction chain
  constructor
  · intro given
    rcases given with ⟨renamed, kept⟩
    have same := Chained.unique kept.read read
    have synchronized := kept.synchronized
    rw [same] at synchronized
    exact synchronized
  · intro known
    refine ⟨since Transaction.uuid record.latestSynchronizedTransaction chain, rfl, ?_, ?_, ?_, found, ?_⟩
    · rw [List.append_nil, split]
      exact read
    · rw [List.append_nil, split]
      exact read.nodup
    · rw [List.append_nil, split]
      exact known
    · rw [collect_since read]
      simp

theorem adopted_kept_iff (read : device.repo.ChainAt record.uuid record.latestTransaction chain)
    (accepted : Accepted device.repo record received)
    (ids : FreshIds generate device.generated fun id =>
      device.repo.transaction? record.uuid id ≠ none ∨ id ∈ received.map Transaction.uuid) :
    let synced := upTo Transaction.uuid record.latestSynchronizedTransaction chain
    let pending := since Transaction.uuid record.latestSynchronizedTransaction chain
    let rebased := moved generate device.generated (tip Transaction.uuid [] received) pending
    (∃ renamed, HistoryKept record chain received (device.repo.adopted (record.advanced received rebased)
        received rebased (pending.map Transaction.uuid)) (record.advanced received rebased) renamed) ↔
      ∀ first rest, received = first :: rest → first.parent = tip Transaction.uuid [] synced ∧
        (∀ tx ∈ received, tx.uuid ≠ []) ∧ (received.map Transaction.uuid).Nodup := by
  intro synced pending rebased
  rcases accepted with ⟨some, fresh, consistent⟩
  rcases (checkChainConsistency_iff received).mp consistent with ⟨base, linked⟩
  constructor
  · intro given first rest same
    rcases given with ⟨renamed, kept⟩
    subst same
    have onTop := Chained.newer_linked (kept.read.older)
    have whole := kept.distinct
    rw [List.map_append, List.map_append] at whole
    refine ⟨onTop.1, ?_, (List.nodup_append.mp (List.nodup_append.mp whole).1).2.1⟩
    intro tx member
    exact (kept.read.stored tx (List.mem_append_left _ (List.mem_append_right _ member))).1
  · intro sincere
    rcases List.exists_cons_of_ne_nil some with ⟨first, rest, rfl⟩
    rcases sincere first rest rfl with ⟨parent, nonempty, distinct⟩
    have split : synced ++ pending = chain := upTo_append_since _ _ _
    rw [← split] at read
    have after := Store.ChainAt.adopted (record.advanced (first :: rest) rebased) read some
      ⟨parent, linked.2⟩ nonempty distinct
      (fun tx member => fresh _ (List.mem_map_of_mem member)) fun _ => ids
    have latest : tip Transaction.uuid [] (synced ++ first :: rest ++ rebased) =
        (record.advanced (first :: rest) rebased).latestTransaction := by
      rw [List.append_assoc, tip_append]
      exact tip_base Transaction.uuid _ (by simp) []
    change Chained _ _ _ _ (tip Transaction.uuid [] (synced ++ first :: rest ++ rebased)) _ at after
    rw [latest] at after
    refine ⟨rebased, moved_content _ _ _ _, after, after.nodup, .inr ?_, ?_, ?_⟩
    · have member := tip_mem Transaction.uuid [] some
      rw [List.map_append, List.map_append]
      exact List.mem_append_left _ (List.mem_append_right _ member)
    · rw [Store.account?_adopted]
      exact if_pos rfl
    · rw [collect_since after]
      simp

theorem answered_kept_iff (read : device.repo.ChainAt record.uuid record.latestTransaction chain)
    {latest : TransactionId} (differs : record.latestSynchronizedTransaction ≠ latest)
    (ids : FreshIds generate device.generated fun id =>
      device.repo.transaction? record.uuid id ≠ none ∨ id ∈ received.map Transaction.uuid) :
    let result := adoptTransactions generate record received device
    result.1 ≠ .hang ∧
    ((∀ record', result.1 = .ok record' → ∃ rebased,
        HistoryKept record chain received result.2.repo record' rebased) ↔
      Sincere device.repo record chain (.ok latest) (.ok received)) := by
  intro result
  rcases adopt_cases generate read received with ⟨refused, error, run⟩ | ⟨accepted, run⟩
  · have outcome : result = _ := run
    rw [outcome]
    refine ⟨by simp, iff_of_true (by simp) ⟨fun equal => absurd (Outcome.ok.inj equal).symm differs, ?_⟩⟩
    intro _ _ _ _ _ equal passes
    obtain rfl := Outcome.ok.inj equal
    exact absurd passes refused
  · have kept := adopted_kept_iff read accepted ids
    have outcome : result = _ := run
    rw [outcome]
    refine ⟨by simp, ?_⟩
    constructor
    · intro all
      refine ⟨fun equal => absurd (Outcome.ok.inj equal).symm differs, ?_⟩
      intro _ first rest _ _ equal _
      obtain rfl := Outcome.ok.inj equal
      exact kept.mp (all _ rfl) first rest rfl
    · intro given record' equal
      rcases given with ⟨_, sincere⟩
      obtain rfl := Outcome.ok.inj equal
      refine kept.mpr fun first rest equal => ?_
      subst equal
      exact sincere latest first rest rfl differs rfl accepted

end Adopt

section Rebase

variable {ω : Type} {answer : (call : RemoteCall) → ω → call.Reply × ω} {remote : ω}
variable {generate : Nat → TransactionId} {device : Device Store} {record : Account}
variable {chain : List Transaction}

theorem rebase_outcome (generate : Nat → TransactionId) :
    ((rebaseLocalTransactions generate record device).run answer remote).1 =
      match latestReply answer record remote with
      | .err error => (.err error, device)
      | .hang => (.hang, device)
      | .ok latest =>
        if record.latestSynchronizedTransaction = latest then (.ok record, device)
        else match childrenReply answer record remote with
          | .err error => (.err error, device)
          | .hang => (.hang, device)
          | .ok received => adoptTransactions generate record received device := by
  let adopt : List Transaction → SyncM Store Account := fun received =>
    Process.perform (adoptTransactions generate record received)
  let pull : TransactionId → SyncM Store Account := fun latest =>
    if record.latestSynchronizedTransaction = latest then pure record
    else Flouze.remote (.getChildTransactions record.uuid record.latestSynchronizedTransaction) >>= adopt
  have first : rebaseLocalTransactions generate record device =
      .call (.getLatestTransaction record.uuid) device (Process.andThen pull) := rfl
  rw [first, Resumption.run_call]
  unfold latestReply childrenReply
  generalize answer (.getLatestTransaction record.uuid) remote = latest
  rcases latest with ⟨latest | error | _, remote'⟩
  · simp only [Process.andThen, pull]
    split
    · rfl
    · have second : (Flouze.remote (.getChildTransactions record.uuid
            record.latestSynchronizedTransaction) >>= adopt) device =
          .call (.getChildTransactions record.uuid record.latestSynchronizedTransaction) device
            (Process.andThen adopt) := rfl
      rw [second, Resumption.run_call]
      generalize answer (.getChildTransactions record.uuid record.latestSynchronizedTransaction) remote' = children
      obtain ⟨received | error | _, _⟩ := children <;> rfl
  · rfl
  · rfl

/-- Whatever the remote answers, the pull returns; and when it succeeds it has kept the history
    exactly if the replies were sincere. -/
theorem pull_keeps_history_iff (found : device.repo.account? record.uuid = some record)
    (read : device.repo.ChainAt record.uuid record.latestTransaction chain)
    (answers : ∀ call remote, (answer call remote).1 ≠ .hang)
    (ids : FreshIds generate device.generated fun id =>
      device.repo.transaction? record.uuid id ≠ none ∨
        id ∈ (fetched record (latestReply answer record remote)
          (childrenReply answer record remote)).map Transaction.uuid) :
    let result := ((rebaseLocalTransactions generate record device).run answer remote).1
    result.1 ≠ .hang ∧
    ((∀ record', result.1 = .ok record' → ∃ rebased,
        HistoryKept record chain (fetched record (latestReply answer record remote)
          (childrenReply answer record remote)) result.2.repo record' rebased) ↔
      Sincere device.repo record chain (latestReply answer record remote)
        (childrenReply answer record remote)) := by
  intro result
  have outcome : result = _ := rebase_outcome generate
  have heard : latestReply answer record remote ≠ .hang := answers _ _
  have heard' : childrenReply answer record remote ≠ .hang := answers _ _
  generalize latestReply answer record remote = latest at outcome ids heard ⊢
  generalize childrenReply answer record remote = children at outcome ids heard' ⊢
  cases latest with
  | hang => exact absurd rfl heard
  | err error =>
    rw [outcome]
    simp [Sincere]
  | ok latest =>
    by_cases same : record.latestSynchronizedTransaction = latest
    · subst same
      simp only [if_true] at outcome
      rw [outcome, fetched_same]
      have kept := unchanged_kept_iff found read
      refine ⟨by simp, ?_⟩
      constructor
      · intro all
        exact ⟨fun _ => kept.mp (all record rfl), fun id _ _ equal differs =>
          absurd (Outcome.ok.inj equal) differs⟩
      · intro given record' equal
        rcases given with ⟨known, _⟩
        obtain rfl := Outcome.ok.inj equal
        exact kept.mpr (known rfl)
    · cases children with
      | hang => exact absurd rfl heard'
      | err error =>
        simp only [same, if_false] at outcome
        rw [outcome]
        refine ⟨by simp, iff_of_true (by simp) ⟨fun equal => absurd (Outcome.ok.inj equal).symm same, ?_⟩⟩
        intro _ _ _ _ _ equal
        cases equal
      | ok received =>
        simp only [same, if_false] at outcome
        rw [fetched_differs same] at ids ⊢
        rw [outcome]
        exact answered_kept_iff read same ids

end Rebase

def pendingAccount : Account :=
  { makeAccount [7] with latestTransaction := [0, 0], latestSynchronizedTransaction := [0] }

def pendingChain : List Transaction := [makeTransaction [0] [], makeTransaction [0, 0] [0]]

def pendingOne : Device Store := ⟨.holding pendingAccount pendingChain, 2⟩

def offering (tx : Transaction) : (call : RemoteCall) → Unit → call.Reply × Unit
  | .getLatestTransaction _, _ => (.ok tx.uuid, ())
  | .getChildTransactions _ _, _ => (.ok [tx], ())
  | .createAccount _, _ => (.err (.jsonRpcClientError "refused"), ())
  | .getAccountInfo _, _ => (.err (.jsonRpcClientError "refused"), ())
  | .receiveTransactions _ _, _ => (.err (.jsonRpcClientError "refused"), ())

theorem offering_answers (tx : Transaction) (call : RemoteCall) (remote : Unit) :
    (offering tx call remote).1 ≠ .hang := by
  cases call <;> simp [offering]

theorem pull_keeps_history_offered : ∃ record' rebased,
    rebased.map Transaction.content = [(makeTransaction [0, 0] [0]).content] ∧
    HistoryKept pendingAccount pendingChain [makeTransaction [1] [0]]
      ((rebaseLocalTransactions (numbered 0) pendingAccount pendingOne).run
        (offering (makeTransaction [1] [0])) ()).1.2.repo record' rebased := by
  have found : pendingOne.repo.account? pendingAccount.uuid = some pendingAccount := by decide
  have read : pendingOne.repo.ChainAt pendingAccount.uuid pendingAccount.latestTransaction pendingChain :=
    Store.holding_read (by decide) (by decide) (by decide)
  have ids : FreshIds (numbered 0) pendingOne.generated fun id =>
      pendingOne.repo.transaction? pendingAccount.uuid id ≠ none ∨
        id ∈ (fetched pendingAccount
          (latestReply (offering (makeTransaction [1] [0])) pendingAccount ())
          (childrenReply (offering (makeTransaction [1] [0])) pendingAccount ())).map Transaction.uuid := by
    apply numbered_freshIds
    intro n later given
    rcases given with stored | given
    · refine stored (Store.holding_absent _ fun known => ?_)
      rcases List.mem_pair.mp known with first | second
      · exact absurd ((numbered_inj (m := 0) first).2 ▸ later) (by decide)
      · exact absurd ((numbered_inj (m := 1) second).2 ▸ later) (by decide)
    · rcases numbered_inj (m := 0) (List.mem_singleton.mp given) with ⟨byte, _⟩
      exact absurd byte (by decide)
  have kept := pull_keeps_history_iff found read (offering_answers (makeTransaction [1] [0])) ids
  have sincere : Sincere pendingOne.repo pendingAccount pendingChain
      (latestReply (offering (makeTransaction [1] [0])) pendingAccount ())
      (childrenReply (offering (makeTransaction [1] [0])) pendingAccount ()) := by
    refine ⟨fun _ => .inr (by decide), ?_⟩
    intro id first rest _ _ children _
    rcases List.cons.inj (Outcome.ok.inj children) with ⟨rfl, rfl⟩
    decide
  obtain ⟨record', returned⟩ : ∃ record', ((rebaseLocalTransactions (numbered 0) pendingAccount
      pendingOne).run (offering (makeTransaction [1] [0])) ()).1.1 = .ok record' := ⟨_, rfl⟩
  rcases kept.2.mpr sincere record' returned with ⟨rebased, history⟩
  exact ⟨record', rebased, history.content, history⟩

def synchronizedAccount : Account :=
  { makeAccount [7] with latestTransaction := [0], latestSynchronizedTransaction := [0] }

def synchronizedOne : Device Store := ⟨.holding synchronizedAccount [makeTransaction [0] []], 1⟩

theorem synchronizedOne_read : synchronizedOne.repo.ChainAt [7] [0] [makeTransaction [0] []] :=
  Store.holding_read (by decide) (by decide) (by decide)

/-- A batch that starts nowhere is taken over, and what was synchronized before is cut off. -/
theorem detached_batch_accepted :
    synchronizedOne.repo.ChainAt [7] [0] [makeTransaction [0] []] ∧
    (∃ record', ((rebaseLocalTransactions (numbered 0) synchronizedAccount synchronizedOne).run
      (offering (makeTransaction [9] [])) ()).1.1 = .ok record' ∧
      ∀ rebased, ¬ HistoryKept synchronizedAccount [makeTransaction [0] []] [makeTransaction [9] []]
        ((rebaseLocalTransactions (numbered 0) synchronizedAccount synchronizedOne).run
          (offering (makeTransaction [9] [])) ()).1.2.repo record' rebased) := by
  refine ⟨synchronizedOne_read, _, rfl, ?_⟩
  intro rebased kept
  have first := (Chained.newer_linked kept.read.older).1
  exact absurd first (by decide)

end Flouze
