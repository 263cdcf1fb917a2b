import Flouze.Repository.Transfers

namespace Flouze

open Linked Repository

def persons (members : List Person) : Finset PersonId := (members.map Person.uuid).toFinset

/-- Unless it is a deletion, the members paid in total what was paid for members. -/
def Balanced (members : List Person) (tx : Transaction) : Prop :=
  tx.deleted = false → ∑ person ∈ persons members, tx.share person = 0

instance (members : List Person) (tx : Transaction) : Decidable (Balanced members tx) :=
  inferInstanceAs (Decidable (_ → _))

/-- Every transaction stored for an account is balanced among its members, also those that no chain
    leads to. -/
def Store.Balanced (store : Store) : Prop :=
  ∀ id record, store.account? id = some record →
    ∀ tx, store.transaction? id tx.uuid = some tx → Flouze.Balanced record.members tx

def Store.Fits (store : Store) (record : Account) : Prop :=
  ∀ chain, store.ChainAt record.uuid record.latestTransaction chain →
    ∀ m ∈ record.members, -2 ^ 63 ≤ net store record chain m.uuid ∧ net store record chain m.uuid < 2 ^ 63

namespace Store.Balanced

variable {store : Store}

theorem empty : Store.empty.Balanced := by
  intro id record found
  simp [account?, Store.empty] at found

theorem putAccount (balanced : store.Balanced) {account : Account}
    (stored : ∀ tx, store.transaction? account.uuid tx.uuid = some tx → Flouze.Balanced account.members tx) :
    (store.putAccount account).Balanced := by
  intro id record found tx present
  rw [account?_putAccount] at found
  split at found
  · next same =>
    subst same
    obtain rfl := Option.some.inj found
    exact stored tx present
  · exact balanced id record found tx present

theorem removeAccount (balanced : store.Balanced) (removed : AccountId) :
    (store.removeAccount removed).Balanced := by
  intro id record found tx present
  rw [account?_removeAccount] at found
  split at found
  · cases found
  · exact balanced id record found tx present

theorem putTransaction (balanced : store.Balanced) {owner : AccountId} {tx : Transaction}
    (new : ∀ record, store.account? owner = some record → Flouze.Balanced record.members tx) :
    (store.putTransaction owner tx).Balanced := by
  intro id record found other present
  rw [transaction?_putTransaction] at present
  split at present
  · next same =>
    obtain rfl := Option.some.inj present
    exact new record (same.1 ▸ found)
  · exact balanced id record found other present

theorem putTransactions (balanced : store.Balanced) {owner : AccountId} {transactions : List Transaction}
    (new : ∀ record, store.account? owner = some record → ∀ tx ∈ transactions, Flouze.Balanced record.members tx) :
    (store.putTransactions owner transactions).Balanced := by
  induction transactions generalizing store with
  | nil => exact balanced
  | cons tx transactions ih =>
    apply ih (balanced.putTransaction fun record found => new record found tx (by simp))
    intro record found other member
    exact new record found other (by simp [member])

theorem moveAccount (balanced : store.Balanced) {record account : Account}
    (found : store.account? account.uuid = some record) (same : account.members = record.members) :
    (store.putAccount account).Balanced := by
  apply balanced.putAccount
  intro tx present
  rw [same]
  exact balanced _ record found tx present

theorem removeTransaction (balanced : store.Balanced) (owner : AccountId) (removed : TransactionId) :
    (store.removeTransaction owner removed).Balanced := by
  intro id record found other present
  rw [transaction?_removeTransaction] at present
  split at present
  · cases present
  · exact balanced id record found other present

end Store.Balanced

section Net

variable {store : Store} {record : Account} {chain : List Transaction} {tx original : Transaction}

theorem ancestor_stored {fuel : Nat} {cur : Transaction}
    (found : firstNonDeletedFrom store record fuel cur = .ok original) :
    store.transaction? record.uuid original.uuid = some original ∧ original.deleted = false := by
  induction fuel generalizing cur with
  | zero => cases found
  | succ fuel ih =>
    unfold firstNonDeletedFrom at found
    split at found
    · cases found
    · cases stored : store.transaction? record.uuid cur.replaces with
      | none => simp [Store.getTransaction_none stored] at found
      | some tx =>
        rw [Store.getTransaction_some stored, Outcome.ok_bind] at found
        cases deleted : tx.deleted with
        | true =>
          simp only [deleted, Bool.not_true, Bool.false_eq_true, if_false] at found
          exact ih found
        | false =>
          simp only [deleted, Bool.not_false, if_true] at found
          obtain rfl := Outcome.ok.inj found
          obtain same := Store.uuid_of_transaction? stored
          exact ⟨same ▸ stored, deleted⟩

theorem effect_balanced (balanced : store.Balanced) (found : store.account? record.uuid = some record)
    (stored : store.transaction? record.uuid tx.uuid = some tx) :
    ∑ person ∈ persons record.members, effect store record person tx = 0 := by
  have own : ∑ person ∈ persons record.members, (if tx.deleted then 0 else tx.share person) = 0 := by
    cases deleted : tx.deleted with
    | true => simp
    | false => simpa using balanced _ record found tx stored deleted
  unfold effect
  rw [Finset.sum_sub_distrib, own, zero_sub, neg_eq_zero]
  split
  · cases ancestor : getFirstNonDeletedAncestor store record tx with
    | ok original =>
      rcases ancestor_stored ancestor with ⟨present, kept⟩
      exact balanced _ record found original present kept
    | err error => simp
    | hang => simp
  · simp

theorem net_balanced (balanced : store.Balanced) (found : store.account? record.uuid = some record)
    (stored : ∀ tx ∈ chain, store.transaction? record.uuid tx.uuid = some tx) :
    ∑ person ∈ persons record.members, net store record chain person = 0 := by
  induction chain with
  | nil => simp [net]
  | cons tx chain ih =>
    have first := effect_balanced balanced found (stored tx (by simp))
    have rest := ih fun other member => stored other (by simp [member])
    simp only [net, List.map_cons, List.sum_cons, Finset.sum_add_distrib] at rest ⊢
    rw [first, rest]
    rfl

theorem total_of_fits {balance : Balance} (sums : Sums record.members (net store record chain) balance)
    (read : store.ChainAt record.uuid record.latestTransaction chain) (fits : store.Fits record) :
    balance.total = ∑ person ∈ persons record.members, net store record chain person := by
  rw [total_of_sums sums]
  apply Finset.sum_congr rfl
  intro person member
  rcases List.mem_map.mp (List.mem_toFinset.mp member) with ⟨m, among, rfl⟩
  have wrapped := (wrapped_eq_iff (net store record chain m.uuid) 0).mpr ⟨fits chain read m among, by simp⟩
  simpa using wrapped

theorem transfers_of_balanced (order : IterationOrder) (balanced : store.Balanced)
    (found : store.account? record.uuid = some record) (fits : store.Fits record) {balance : Balance}
    (returns : getBalance store record = .ok balance) :
    ∃ transfers, getTransfers order balance = .ok transfers := by
  rcases getBalance_ok returns with ⟨chain, read, _, sums⟩
  have settled := net_balanced balanced found fun tx member => (read.stored tx member).2
  have total := total_of_fits sums read fits
  rcases getTransfers_cases order balance with ⟨_, paid⟩ | ⟨owed, _⟩
  · exact paid
  · omega

end Net

end Flouze
