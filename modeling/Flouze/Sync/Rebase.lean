import Flouze.Lib.Faults
import Flouze.Repository.Receive
import Flouze.Sync.Basic

namespace Flouze

open Linked Repository

/-- Pending transactions moved onto `parent`, under the ids that the generator returns from its
    `count`-th call on. -/
def moved (generate : Nat → TransactionId) : Nat → TransactionId → List Transaction → List Transaction
  | _, _, [] => []
  | count, parent, tx :: pending =>
    { tx with uuid := generate count, parent := parent } ::
      moved generate (count + 1) (generate count) pending

section Moved

variable (generate : Nat → TransactionId) (count : Nat) (parent : TransactionId)

theorem moved_linked (pending : List Transaction) :
    LinkedOn Transaction.uuid Transaction.parent parent (moved generate count parent pending) := by
  induction pending generalizing count parent with
  | nil => exact True.intro
  | cons tx pending ih => exact ⟨rfl, ih (count + 1) (generate count)⟩

theorem moved_content (pending : List Transaction) :
    (moved generate count parent pending).map Transaction.content = pending.map Transaction.content := by
  induction pending generalizing count parent with
  | nil => rfl
  | cons tx pending ih =>
    simp only [moved, List.map_cons, ih]
    rfl

@[simp] theorem moved_length (pending : List Transaction) :
    (moved generate count parent pending).length = pending.length := by
  induction pending generalizing count parent with
  | nil => rfl
  | cons tx pending ih => simp [moved, ih]

theorem mem_moved {pending : List Transaction} {tx : Transaction}
    (member : tx ∈ moved generate count parent pending) :
    ∃ n, count ≤ n ∧ n < count + pending.length ∧ tx.uuid = generate n := by
  induction pending generalizing count parent with
  | nil => cases member
  | cons first pending ih =>
    rcases List.mem_cons.mp member with rfl | later
    · exact ⟨count, Nat.le_refl _, by simp, rfl⟩
    · rcases ih (count + 1) (generate count) later with ⟨n, lower, upper, same⟩
      refine ⟨n, by omega, ?_, same⟩
      simp only [List.length_cons]
      omega

theorem mem_moved_ne_nil {generate : Nat → TransactionId} {count : Nat} {parent : TransactionId}
    {pending : List Transaction} {tx : Transaction} (member : tx ∈ moved generate count parent pending) :
    pending ≠ [] := by
  intro same
  subst same
  cases member

theorem moved_nodup (injective : Function.Injective generate) (pending : List Transaction) :
    ((moved generate count parent pending).map Transaction.uuid).Nodup := by
  induction pending generalizing count parent with
  | nil => simp [moved]
  | cons tx pending ih =>
    simp only [moved, List.map_cons, List.nodup_cons]
    refine ⟨?_, ih (count + 1) (generate count)⟩
    intro again
    rcases List.mem_map.mp again with ⟨later, member, same⟩
    rcases mem_moved generate (count + 1) (generate count) member with ⟨n, lower, _, drawn⟩
    have equal := injective (drawn.symm.trans same)
    omega

/-- The pending transactions after a sync that found `newer` on the server. -/
def rebasedOnto (newer pending : List Transaction) : List Transaction :=
  if newer = [] then pending else moved generate count (tip Transaction.uuid [] newer) pending

theorem rebasedOnto_behind {newer : List Transaction} (behind : newer ≠ []) (pending : List Transaction) :
    rebasedOnto generate count newer pending = moved generate count (tip Transaction.uuid [] newer) pending :=
  if_neg behind

@[simp] theorem rebasedOnto_nil (newer : List Transaction) : rebasedOnto generate count newer [] = [] := by
  unfold rebasedOnto
  split <;> rfl

theorem rebasedOnto_content (newer pending : List Transaction) :
    (rebasedOnto generate count newer pending).map Transaction.content = pending.map Transaction.content := by
  unfold rebasedOnto
  split
  · rfl
  · exact moved_content generate count _ pending

end Moved

section Runs

variable {σ : Type} {generate : Nat → TransactionId}

theorem onRepo_run {α : Type} {routine : Routine σ ErrorKind α} {device : Device σ} {result : Outcome ErrorKind α}
    {repo : σ} (run : routine device.repo = (result, repo)) :
    onRepo routine device = (result, { device with repo := repo }) := by
  simp [onRepo, run]

theorem onRepo_bind {α β : Type} (routine : Routine σ ErrorKind α) (next : α → Routine σ ErrorKind β) :
    onRepo (routine >>= next) = (onRepo routine >>= fun value => onRepo (next value)) := by
  funext device
  cases run : routine device.repo with
  | mk outcome repo =>
    cases outcome with
    | ok value => rw [Routine.bind_ok (onRepo_run run), onRepo, Routine.bind_ok run, onRepo]
    | err error => rw [Routine.bind_err (onRepo_run run), onRepo_run (Routine.bind_err run)]
    | hang => rw [Routine.bind_hang (onRepo_run run), onRepo_run (Routine.bind_hang run)]

theorem generateTransactionId_run (device : Device σ) :
    generateTransactionId generate device =
      (.ok (generate device.generated), { device with generated := device.generated + 1 }) := rfl

theorem addAccount_run (record : Account) (store : Store) :
    (addAccount record : Routine Store ErrorKind Unit) store = (.ok (), store.putAccount record) := rfl

theorem rebaseFrom_run {device : Device σ} (parent : TransactionId) (pending : List Transaction) :
    rebaseFrom generate parent pending device =
      (.ok (moved generate device.generated parent pending, pending.map Transaction.uuid),
        { device with generated := device.generated + pending.length }) := by
  induction pending generalizing parent device with
  | nil => rfl
  | cons tx pending ih =>
    unfold rebaseFrom
    rw [Routine.bind_ok (generateTransactionId_run device), Routine.bind_ok (ih (generate device.generated))]
    simp only [moved, Routine.pure_apply, List.map_cons, List.length_cons, Prod.mk.injEq,
      true_and, Device.mk.injEq]
    omega

variable [Repository σ]

theorem rebaseTransactions_run {device : Device σ} {record : Account} {pending : List Transaction}
    (collected : eachTransaction device.repo record [] (collectUntil record.latestSynchronizedTransaction) =
      .ok pending.reverse) (newBase : TransactionId) :
    rebaseTransactions generate record newBase device =
      (.ok (moved generate device.generated newBase pending, pending.map Transaction.uuid),
        { device with generated := device.generated + pending.length }) := by
  unfold rebaseTransactions
  rw [Routine.bind_ok (by rw [Routine.view_apply, collected]), List.reverse_reverse]
  exact rebaseFrom_run _ _

theorem checkUniqueness_fresh {account : AccountId} {ids : List TransactionId} {store : Store}
    (fresh : ∀ id ∈ ids, store.transaction? account id = none) :
    checkTransactionIdUniqueness account ids store = .ok () := by
  induction ids with
  | nil => rfl
  | cons id ids ih =>
    simp only [checkTransactionIdUniqueness, Store.getTransaction_none (fresh id (by simp))]
    exact ih fun other member => fresh other (by simp [member])

theorem checkUniqueness_stored {account : AccountId} {ids : List TransactionId} {store : Store}
    (stored : ∃ id ∈ ids, store.transaction? account id ≠ none) :
    ∃ id ∈ ids, store.transaction? account id ≠ none ∧
      checkTransactionIdUniqueness account ids store = .err (.duplicateTransactionId id) := by
  induction ids with
  | nil =>
    rcases stored with ⟨_, member, _⟩
    cases member
  | cons id ids ih =>
    cases found : store.transaction? account id with
    | some tx =>
      refine ⟨id, by simp, by simp [found], ?_⟩
      simp only [checkTransactionIdUniqueness, Store.getTransaction_some found]
    | none =>
      rcases stored with ⟨other, member, present⟩
      have later : other ∈ ids := by
        rcases List.mem_cons.mp member with rfl | later
        · exact absurd found present
        · exact later
      rcases ih ⟨other, later, present⟩ with ⟨dup, among, present, run⟩
      refine ⟨dup, by simp [among], present, ?_⟩
      simp only [checkTransactionIdUniqueness, Store.getTransaction_none found]
      exact run

end Runs

/-- The repository after `received` was pulled and the pending transactions, stored under `old`
    until then, were moved on top of it. -/
def Store.adopted (store : Store) (record : Account) (received rebased : List Transaction)
    (old : List TransactionId) : Store :=
  (((store.putTransactions record.uuid received).putTransactions record.uuid rebased).putAccount
    record).removeTransactions record.uuid old

def Account.advanced (record : Account) (received rebased : List Transaction) : Account :=
  { record with
    latestTransaction := tip Transaction.uuid [] (received ++ rebased)
    latestSynchronizedTransaction := tip Transaction.uuid [] received }

section Adopt

variable (generate : Nat → TransactionId) {device : Device Store} {record : Account}
variable {chain received : List Transaction}

theorem adopt_empty : adoptTransactions generate record [] device =
    (.err .inconsistentServerResponse, device) := rfl

theorem adopt_duplicate
    (stored : ∃ id ∈ received.map Transaction.uuid, device.repo.transaction? record.uuid id ≠ none) :
    ∃ id ∈ received.map Transaction.uuid, device.repo.transaction? record.uuid id ≠ none ∧
      adoptTransactions generate record received device = (.err (.duplicateTransactionId id), device) := by
  rcases checkUniqueness_stored stored with ⟨id, member, present, check⟩
  refine ⟨id, member, present, ?_⟩
  unfold adoptTransactions
  cases last : received.getLast? with
  | none => simp [List.getLast?_eq_none_iff.mp last] at member
  | some tx => exact Routine.bind_err (by rw [Routine.view_apply, check])

theorem adopt_inconsistent
    (fresh : ∀ id ∈ received.map Transaction.uuid, device.repo.transaction? record.uuid id = none)
    (unlinked : checkChainConsistency received = false) :
    adoptTransactions generate record received device = (.err .inconsistentChain, device) := by
  unfold adoptTransactions
  cases last : received.getLast? with
  | none => simp [List.getLast?_eq_none_iff.mp last, checkChainConsistency] at unlinked
  | some tx =>
    simp only
    rw [Routine.bind_ok (by rw [Routine.view_apply, checkUniqueness_fresh fresh])]
    simp [unlinked]

theorem advanced_eq (count : Nat) (record : Account) (pending : List Transaction) {last : Transaction}
    (last? : received.getLast? = some last) :
    let rebased := moved generate count (tip Transaction.uuid [] received) pending
    { record with
      latestTransaction := (rebased.getLast?.getD last).uuid
      latestSynchronizedTransaction := (rebased.head?.map Transaction.parent).getD last.uuid } =
      record.advanced received rebased := by
  intro rebased
  have base : tip Transaction.uuid [] received = last.uuid := by simp [tip_eq_getLast?, last?]
  have newest : (rebased.getLast?.getD last).uuid = tip Transaction.uuid [] (received ++ rebased) := by
    rw [tip_append, base, tip_eq_getLast?]
    cases rebased.getLast? <;> rfl
  have synchronized : (rebased.head?.map Transaction.parent).getD last.uuid =
      tip Transaction.uuid [] received := by
    have linked := moved_linked generate count (tip Transaction.uuid [] received) pending
    change LinkedOn _ _ _ rebased at linked
    cases onTop : rebased with
    | nil => exact base.symm
    | cons first rest =>
      rw [onTop] at linked
      exact linked.1
  simp only [Account.advanced, newest, synchronized]

end Adopt

inductive Write where
  | addTransaction (tx : Transaction)
  | addAccount (account : Account)
  | deleteTransaction (id : TransactionId)

def Write.perform {σ : Type} [Repository σ] (account : AccountId) : Write → Routine σ ErrorKind PUnit
  | addTransaction tx => Repository.addTransaction account tx
  | addAccount record => Repository.addAccount record
  | deleteTransaction id => Repository.deleteTransaction account id

/-- First what is new, then the account, and at last the deletions. -/
def pullWrites (record : Account) (received rebased : List Transaction) (old : List TransactionId) : List Write :=
  (received ++ rebased).map .addTransaction ++ .addAccount record :: old.map .deleteTransaction

section Pull

variable {σ : Type} [Repository σ] {generate : Nat → TransactionId} {device : Device σ} {record : Account}
variable {received pending : List Transaction}

theorem adopt_refused {error : ErrorKind}
    (check : checkTransactionIdUniqueness record.uuid (received.map Transaction.uuid) device.repo = .err error) :
    adoptTransactions generate record received device = (.err error, device) := by
  unfold adoptTransactions
  cases last : received.getLast? with
  | none =>
    rw [List.getLast?_eq_none_iff.mp last] at check
    cases check
  | some tx => exact Routine.bind_err (by rw [Routine.view_apply, check])

theorem adopt_writes (nonempty : received ≠ [])
    (check : checkTransactionIdUniqueness record.uuid (received.map Transaction.uuid) device.repo = .ok ())
    (consistent : checkChainConsistency received = true)
    (collected : eachTransaction device.repo record [] (collectUntil record.latestSynchronizedTransaction) =
      .ok pending.reverse) :
    let rebased := moved generate device.generated (tip Transaction.uuid [] received) pending
    adoptTransactions generate record received device =
      (onRepo ((pullWrites (record.advanced received rebased) received rebased
          (pending.map Transaction.uuid)).forM (Write.perform record.uuid)) >>=
        fun _ => pure (record.advanced received rebased))
        { device with generated := device.generated + pending.length } := by
  intro rebased
  rcases Option.ne_none_iff_exists'.mp (mt List.getLast?_eq_none_iff.mp nonempty) with ⟨last, last?⟩
  have base : tip Transaction.uuid [] received = last.uuid := by simp [tip_eq_getLast?, last?]
  have rebase : rebaseTransactions generate record last.uuid device =
      (.ok (rebased, pending.map Transaction.uuid),
        { device with generated := device.generated + pending.length }) := by
    simp only [rebased, base]
    exact rebaseTransactions_run collected last.uuid
  have advanced : ({ record with
      latestTransaction := (rebased.getLast?.getD last).uuid
      latestSynchronizedTransaction := (rebased.head?.map Transaction.parent).getD last.uuid } : Account) =
      record.advanced received rebased := advanced_eq generate device.generated record pending last?
  have loop : ∀ {α : Type} (write : α → Write) (xs : List α),
      (xs.map write).forM (@Write.perform σ _ record.uuid) = xs.forM fun x => (write x).perform record.uuid := by
    intro α write xs
    induction xs with
    | nil => rfl
    | cons x xs ih => exact congrArg (fun rest => (write x).perform record.uuid >>= fun _ => rest) ih
  have cons : ∀ (write : Write) (writes : List Write), (write :: writes).forM (@Write.perform σ _ record.uuid) =
      (write.perform record.uuid >>= fun _ => writes.forM (Write.perform record.uuid)) := fun _ _ => rfl
  unfold adoptTransactions
  rw [last?]
  simp only
  rw [Routine.bind_ok (by rw [Routine.view_apply, check])]
  simp only [consistent, Bool.not_true, Bool.false_eq_true, ite_false]
  rw [Routine.bind_ok rebase]
  simp only [advanced]
  rw [pullWrites, List.map_append, Routine.forM_append, Routine.forM_append, cons, loop, loop, loop, onRepo_bind,
    onRepo_bind, onRepo_bind]
  simp only [Routine.bind_assoc]
  rfl

end Pull

section Stored

variable {store : Store} {account : AccountId} {old : List TransactionId}

theorem additions_succeed (store : Store) (account : AccountId) (transactions : List Transaction) :
    Routine.Succeed (Write.perform account) (transactions.map .addTransaction) store ∧
      Machine.after (Routine.effect (Write.perform account)) (transactions.map .addTransaction) store =
        store.putTransactions account transactions := by
  induction transactions generalizing store with
  | nil => exact ⟨True.intro, rfl⟩
  | cons tx transactions ih => exact ⟨⟨rfl, (ih (store.putTransaction account tx)).1⟩, (ih _).2⟩

theorem deletions_succeed (distinct : old.Nodup) (stored : ∀ id ∈ old, store.transaction? account id ≠ none) :
    Routine.Succeed (Write.perform account) (old.map .deleteTransaction) store ∧
      Machine.after (Routine.effect (Write.perform account)) (old.map .deleteTransaction) store =
        store.removeTransactions account old := by
  induction old generalizing store with
  | nil => exact ⟨True.intro, rfl⟩
  | cons id old ih =>
    rcases List.nodup_cons.mp distinct with ⟨absent, distinct⟩
    rcases Option.ne_none_iff_exists'.mp (stored id (by simp)) with ⟨tx, found⟩
    have run := Store.deleteTransaction_some found
    have remain : ∀ other ∈ old, (store.removeTransaction account id).transaction? account other ≠ none := by
      intro other member
      have differ : other ≠ id := fun equal => absent (equal ▸ member)
      simpa [differ] using stored other (by simp [member])
    have later := ih distinct remain
    have step : Routine.effect (Write.perform account) (.deleteTransaction id) store =
        store.removeTransaction account id := by
      simp only [Routine.effect, Write.perform, run]
    refine ⟨⟨by simp only [Write.perform, run], ?_⟩, ?_⟩
    · rw [step]
      exact later.1
    · rw [List.map_cons, Machine.after, List.foldl_cons, step]
      exact later.2

theorem pullWrites_succeed (record : Account) (received rebased : List Transaction) (owner : record.uuid = account)
    (distinct : old.Nodup) (stored : ∀ id ∈ old, store.transaction? account id ≠ none) :
    Routine.Succeed (Write.perform account) (pullWrites record received rebased old) store ∧
      Machine.after (Routine.effect (Write.perform account)) (pullWrites record received rebased old) store =
        store.adopted record received rebased old := by
  subst owner
  rcases additions_succeed store record.uuid (received ++ rebased) with ⟨additions, after⟩
  have kept : ∀ id ∈ old, ((store.putTransactions record.uuid (received ++ rebased)).putAccount
      record).transaction? record.uuid id ≠ none := by
    intro id member
    rw [Store.transaction?_putAccount]
    exact Store.putTransactions_ne_none _ _ _ _ _ (stored id member)
  rcases deletions_succeed distinct kept with ⟨deletions, cleared⟩
  refine ⟨Routine.succeed_append.mpr ⟨additions, rfl, ?_⟩, ?_⟩
  · rw [after]
    exact deletions
  · rw [pullWrites, Machine.after, List.foldl_append]
    change Machine.after _ (old.map Write.deleteTransaction)
      (Routine.effect _ (Write.addAccount record) (Machine.after _ _ _)) = _
    rw [after]
    refine cleared.trans ?_
    rw [Store.adopted, Store.putTransactions, List.foldl_append]
    rfl

end Stored

section Adopt

variable (generate : Nat → TransactionId) {device : Device Store} {record : Account}
variable {chain received : List Transaction}

theorem adopt_run (read : device.repo.ChainAt record.uuid record.latestTransaction chain)
    (nonempty : received ≠ [])
    (fresh : ∀ id ∈ received.map Transaction.uuid, device.repo.transaction? record.uuid id = none)
    (consistent : checkChainConsistency received = true) :
    let pending := since Transaction.uuid record.latestSynchronizedTransaction chain
    let rebased := moved generate device.generated (tip Transaction.uuid [] received) pending
    adoptTransactions generate record received device =
      (.ok (record.advanced received rebased),
        { repo := device.repo.adopted (record.advanced received rebased) received rebased
            (pending.map Transaction.uuid)
          generated := device.generated + pending.length }) := by
  intro pending rebased
  have distinct : (pending.map Transaction.uuid).Nodup := by
    have whole := Chained.nodup read
    rw [← upTo_append_since Transaction.uuid record.latestSynchronizedTransaction chain,
      List.map_append] at whole
    exact (List.nodup_append.mp whole).2.1
  have stored : ∀ id ∈ pending.map Transaction.uuid, device.repo.transaction? record.uuid id ≠ none := by
    intro id member
    rcases List.mem_map.mp member with ⟨tx, present, rfl⟩
    have onChain : tx ∈ chain := by
      rw [← upTo_append_since Transaction.uuid record.latestSynchronizedTransaction chain]
      exact List.mem_append_right _ present
    simp [(Chained.stored read tx onChain).2]
  obtain ⟨succeed, after⟩ := pullWrites_succeed (record.advanced received rebased) received rebased rfl distinct
    stored
  have written := succeed.forM
  rw [after] at written
  refine (adopt_writes nonempty (checkUniqueness_fresh fresh) consistent (collect_since read _)).trans ?_
  exact Routine.bind_ok (onRepo_run written)

end Adopt

namespace Store

variable {store : Store} (record : Account) {received rebased : List Transaction}
variable {old : List TransactionId}

@[simp] theorem account?_adopted (id : AccountId) :
    (store.adopted record received rebased old).account? id =
      if id = record.uuid then some record else store.account? id := by
  simp [adopted]

theorem transaction?_adopted_other {other : AccountId} (differ : other ≠ record.uuid) (id : TransactionId) :
    (store.adopted record received rebased old).transaction? other id = store.transaction? other id := by
  simp only [adopted, transaction?_removeTransactions, differ, false_and, ite_false,
    transaction?_putAccount]
  rw [transaction?_putTransactions_absent _ _ _ fun same => absurd same differ,
    transaction?_putTransactions_absent _ _ _ fun same => absurd same differ]

theorem transaction?_adopted_old {id : TransactionId} (collected : id ∈ old) :
    (store.adopted record received rebased old).transaction? record.uuid id = none := by
  simp [adopted, collected]

theorem transaction?_adopted_rebased {tx : Transaction}
    (distinct : (rebased.map Transaction.uuid).Nodup) (member : tx ∈ rebased) (kept : tx.uuid ∉ old) :
    (store.adopted record received rebased old).transaction? record.uuid tx.uuid = some tx := by
  simp only [adopted, transaction?_removeTransactions, kept, and_false, ite_false,
    transaction?_putAccount]
  exact transaction?_putTransactions_mem _ _ distinct member

theorem transaction?_adopted_received {tx : Transaction}
    (distinct : (received.map Transaction.uuid).Nodup) (member : tx ∈ received)
    (apart : tx.uuid ∉ rebased.map Transaction.uuid) (kept : tx.uuid ∉ old) :
    (store.adopted record received rebased old).transaction? record.uuid tx.uuid = some tx := by
  simp only [adopted, transaction?_removeTransactions, kept, and_false, ite_false,
    transaction?_putAccount]
  rw [transaction?_putTransactions_absent _ _ _ fun _ => apart]
  exact transaction?_putTransactions_mem _ _ distinct member

theorem transaction?_adopted_absent {id : TransactionId} (pulled : id ∉ received.map Transaction.uuid)
    (renamed : id ∉ rebased.map Transaction.uuid) (kept : id ∉ old) :
    (store.adopted record received rebased old).transaction? record.uuid id =
      store.transaction? record.uuid id := by
  simp only [adopted, transaction?_removeTransactions, kept, and_false, ite_false,
    transaction?_putAccount]
  rw [transaction?_putTransactions_absent _ _ _ fun _ => renamed,
    transaction?_putTransactions_absent _ _ _ fun _ => pulled]

end Store

structure FreshIds (generate : Nat → TransactionId) (count : Nat) (used : TransactionId → Prop) : Prop where
  injective : Function.Injective generate
  nonempty : ∀ n, generate n ≠ []
  unused : ∀ n, count ≤ n → ¬ used (generate n)

/-- A sequence of ids, told apart by their length. -/
def numbered (byte : UInt8) (n : Nat) : TransactionId := List.replicate (n + 1) byte

theorem numbered_inj {first second : UInt8} {n m : Nat} (same : numbered first n = numbered second m) :
    first = second ∧ n = m := by
  rcases List.replicate_inj.mp same with ⟨length, byte⟩
  exact ⟨byte.resolve_left (by omega), by omega⟩

theorem numbered_freshIds (byte : UInt8) (count : Nat) {used : TransactionId → Prop}
    (unused : ∀ n, count ≤ n → ¬ used (numbered byte n)) : FreshIds (numbered byte) count used :=
  ⟨fun _ _ same => (numbered_inj same).2, fun _ => List.cons_ne_nil _ _, unused⟩

section AdoptedChain

variable {generate : Nat → TransactionId} {count : Nat} {store : Store} (record : Account)
variable {head : TransactionId} {synced pending received : List Transaction}

theorem Store.ChainAt.adopted (read : store.ChainAt record.uuid head (synced ++ pending))
    (some : received ≠ [])
    (linked : LinkedOn Transaction.uuid Transaction.parent (tip Transaction.uuid [] synced) received)
    (nonempty : ∀ tx ∈ received, tx.uuid ≠ []) (distinct : (received.map Transaction.uuid).Nodup)
    (fresh : ∀ tx ∈ received, store.transaction? record.uuid tx.uuid = none)
    (ids : pending ≠ [] → FreshIds generate count fun id =>
      store.transaction? record.uuid id ≠ none ∨ id ∈ received.map Transaction.uuid) :
    let rebased := moved generate count (tip Transaction.uuid [] received) pending
    (store.adopted record received rebased (pending.map Transaction.uuid)).ChainAt record.uuid
      (tip Transaction.uuid [] (synced ++ received ++ rebased)) (synced ++ received ++ rebased) := by
  intro rebased
  have base := tip_base Transaction.uuid (tip Transaction.uuid [] synced) some []
  have stored : ∀ tx ∈ synced ++ pending, store.transaction? record.uuid tx.uuid ≠ none :=
    fun tx member => by simp [(Chained.stored read tx member).2]
  have apartReceived : ∀ tx ∈ received, tx.uuid ∉ (synced ++ pending).map Transaction.uuid := by
    intro tx member again
    rcases List.mem_map.mp again with ⟨other, present, same⟩
    exact stored other present (same ▸ fresh tx member)
  have apartRebased : ∀ tx ∈ rebased, tx.uuid ∉ (synced ++ pending).map Transaction.uuid ∧
      tx.uuid ∉ received.map Transaction.uuid := by
    intro tx member
    have ids := ids (mem_moved_ne_nil member)
    rcases mem_moved _ _ _ member with ⟨n, lower, _, drawn⟩
    refine ⟨fun again => ?_, fun again => ids.unused n lower (.inr (drawn ▸ again))⟩
    rcases List.mem_map.mp again with ⟨other, present, same⟩
    exact ids.unused n lower (.inl (drawn ▸ same ▸ stored other present))
  have older := Chained.older read
  have notOld : ∀ id, id ∉ (synced ++ pending).map Transaction.uuid → id ∉ pending.map Transaction.uuid :=
    fun id absent again => absent (by simp only [List.map_append, List.mem_append]; exact .inr again)
  have same : ∀ tx ∈ synced,
      (store.adopted record received rebased (pending.map Transaction.uuid)).transaction? record.uuid tx.uuid =
        store.transaction? record.uuid tx.uuid := by
    intro tx member
    apply Store.transaction?_adopted_absent
    · intro again
      rcases List.mem_map.mp again with ⟨other, present, equal⟩
      exact apartReceived other present (equal ▸ List.mem_map_of_mem (List.mem_append_left _ member))
    · intro again
      rcases List.mem_map.mp again with ⟨other, present, equal⟩
      exact (apartRebased other present).1 (equal ▸ List.mem_map_of_mem (List.mem_append_left _ member))
    · intro again
      rcases List.mem_map.mp again with ⟨other, present, equal⟩
      exact Chained.not_mem_right read member present equal
  have pulled := Chained.push older linked (fun tx member => ⟨nonempty tx member,
    Store.transaction?_adopted_received record distinct member (fun again => by
      rcases List.mem_map.mp again with ⟨other, present, equal⟩
      exact (apartRebased other present).2 (equal ▸ List.mem_map_of_mem member))
      (notOld _ (apartReceived tx member))⟩) same
  rw [base] at pulled
  have whole := Chained.push pulled (moved_linked generate count _ pending) (fun tx member => by
    have ids := ids (mem_moved_ne_nil member)
    rcases mem_moved _ _ _ member with ⟨n, _, _, drawn⟩
    exact ⟨drawn ▸ ids.nonempty n, Store.transaction?_adopted_rebased record
      (moved_nodup generate count _ ids.injective pending) member
      (notOld _ (apartRebased tx member).1)⟩) fun _ _ => rfl
  rw [tip_append, tip_append, base]
  exact whole

end AdoptedChain

end Flouze
