import Flouze.Repository.Balance

namespace Flouze

open Linked Repository

/-- From the transaction `id` it takes `n` reads to come back to one that is not deleted. -/
inductive LeadsTo (store : Store) (account : AccountId) : Nat → TransactionId → Transaction → Prop
  | here {id : TransactionId} {tx : Transaction} (named : id ≠ []) (stored : store.transaction? account id = some tx)
      (kept : tx.deleted = false) : LeadsTo store account 1 id tx
  | back {n : Nat} {id : TransactionId} {tx original : Transaction} (named : id ≠ [])
      (stored : store.transaction? account id = some tx) (deleted : tx.deleted = true)
      (rest : LeadsTo store account n tx.replaces original) : LeadsTo store account (n + 1) id original

section Ancestors

variable {store store' : Store} {account : AccountId} {record record' : Account} {cur cur' original : Transaction}
variable {n m fuel : Nat} {id : TransactionId}

theorem LeadsTo.steps_eq {other : Transaction} (first : LeadsTo store account n id original)
    (second : LeadsTo store account m id other) : n = m := by
  induction first generalizing m other with
  | here _ stored kept =>
    cases second with
    | here => rfl
    | back _ stored' deleted _ =>
      obtain rfl := Option.some.inj (stored.symm.trans stored')
      rw [kept] at deleted
      cases deleted
  | back _ stored deleted _ ih =>
    cases second with
    | here _ stored' kept =>
      obtain rfl := Option.some.inj (stored.symm.trans stored')
      rw [kept] at deleted
      cases deleted
    | back _ stored' _ rest =>
      obtain rfl := Option.some.inj (stored.symm.trans stored')
      rw [ih rest]

theorem LeadsTo.reads (leads : LeadsTo store account n id original) :
    ∃ ids : List TransactionId, ids.length = n ∧ ids.Nodup ∧
      ∀ key ∈ ids, store.transaction? account key ≠ none ∧ ∃ m ≤ n, LeadsTo store account m key original := by
  induction leads with
  | @here id tx named stored kept =>
    refine ⟨[id], rfl, by simp, ?_⟩
    intro key member
    obtain rfl := List.mem_singleton.mp member
    exact ⟨by simp [stored], 1, Nat.le_refl 1, .here named stored kept⟩
  | @back n id tx original named stored deleted rest ih =>
    rcases ih with ⟨ids, length, distinct, each⟩
    have whole := LeadsTo.back named stored deleted rest
    refine ⟨id :: ids, by simp [length], List.nodup_cons.mpr ⟨?_, distinct⟩, ?_⟩
    · intro again
      rcases each id again with ⟨_, m, fewer, shorter⟩
      have same := shorter.steps_eq whole
      omega
    · intro key member
      rcases List.mem_cons.mp member with rfl | later
      · exact ⟨by simp [stored], n + 1, Nat.le_refl _, whole⟩
      · rcases each key later with ⟨present, m, fewer, leads⟩
        exact ⟨present, m, by omega, leads⟩

theorem LeadsTo.le_count (leads : LeadsTo store account n id original) : n ≤ transactionCount store := by
  rcases leads.reads with ⟨ids, length, distinct, each⟩
  rw [← length]
  exact Store.length_le_count distinct fun key member => (each key member).1

theorem firstNonDeletedFrom_ok_iff :
    firstNonDeletedFrom store record fuel cur = .ok original ↔
      ∃ n ≤ fuel, LeadsTo store record.uuid n cur.replaces original := by
  induction fuel generalizing cur with
  | zero =>
    refine iff_of_false (by simp [firstNonDeletedFrom]) ?_
    intro given
    rcases given with ⟨n, none, leads⟩
    obtain rfl : n = 0 := by omega
    cases leads
  | succ fuel ih =>
    unfold firstNonDeletedFrom
    by_cases empty : cur.replaces = []
    · simp only [empty, List.isEmpty_nil, if_true]
      refine iff_of_false (by simp) ?_
      intro given
      rcases given with ⟨n, _, leads⟩
      cases leads <;> contradiction
    · have named : cur.replaces.isEmpty = false := by simpa using empty
      simp only [named, Bool.false_eq_true, if_false]
      cases stored : store.transaction? record.uuid cur.replaces with
      | none =>
        rw [Store.getTransaction_none stored, Outcome.err_bind]
        refine iff_of_false (by simp) ?_
        intro given
        rcases given with ⟨n, _, leads⟩
        cases leads with
        | here _ stored' _ => simp [stored] at stored'
        | back _ stored' _ _ => simp [stored] at stored'
      | some tx =>
        rw [Store.getTransaction_some stored, Outcome.ok_bind]
        cases deleted : tx.deleted with
        | false =>
          simp only [Bool.not_false, if_true, Outcome.pure_eq, Outcome.ok.injEq]
          constructor
          · intro same
            subst same
            exact ⟨1, by omega, .here empty stored deleted⟩
          · intro given
            rcases given with ⟨n, _, leads⟩
            cases leads with
            | here _ stored' _ => exact Option.some.inj (stored.symm.trans stored')
            | back _ stored' deleted' _ =>
              obtain rfl := Option.some.inj (stored.symm.trans stored')
              rw [deleted] at deleted'
              cases deleted'
        | true =>
          simp only [Bool.not_true, Bool.false_eq_true, if_false]
          rw [ih]
          constructor
          · intro given
            rcases given with ⟨n, fewer, leads⟩
            exact ⟨n + 1, by omega, .back empty stored deleted leads⟩
          · intro given
            rcases given with ⟨n, fewer, leads⟩
            cases leads with
            | here _ stored' kept =>
              obtain rfl := Option.some.inj (stored.symm.trans stored')
              rw [deleted] at kept
              cases kept
            | @back n _ _ _ _ stored' _ rest =>
              obtain rfl := Option.some.inj (stored.symm.trans stored')
              exact ⟨n, by omega, rest⟩

theorem ancestor_ok_iff :
    getFirstNonDeletedAncestor store record cur = .ok original ↔
      ∃ n, LeadsTo store record.uuid n cur.replaces original := by
  unfold getFirstNonDeletedAncestor
  rw [firstNonDeletedFrom_ok_iff]
  constructor
  · intro given
    rcases given with ⟨n, _, leads⟩
    exact ⟨n, leads⟩
  · intro given
    rcases given with ⟨n, leads⟩
    have bound := leads.le_count
    exact ⟨n, by omega, leads⟩

/-- Two stores hold the same transactions under the ids that are `apart`, and these refer to such ids only. -/
structure Agreeing (account : AccountId) (apart : TransactionId → Prop) (store store' : Store) : Prop where
  same : ∀ key, apart key → store.transaction? account key = store'.transaction? account key
  closed : ∀ key tx, apart key → store.transaction? account key = some tx → apart tx.replaces

theorem Agreeing.symm {apart : TransactionId → Prop} (agreeing : Agreeing account apart store store') :
    Agreeing account apart store' store :=
  ⟨fun key here => (agreeing.same key here).symm,
    fun key tx here stored => agreeing.closed key tx here ((agreeing.same key here).trans stored)⟩

theorem LeadsTo.agree {apart : TransactionId → Prop} (agreeing : Agreeing account apart store store')
    (leads : LeadsTo store account n id original) (here : apart id) : LeadsTo store' account n id original := by
  induction leads with
  | here named stored kept => exact .here named ((agreeing.same _ here).symm.trans stored) kept
  | back named stored deleted _ ih =>
    exact .back named ((agreeing.same _ here).symm.trans stored) deleted
      (ih (agreeing.closed _ _ here stored))

theorem ancestor_agree {apart : TransactionId → Prop} (agreeing : Agreeing record.uuid apart store store')
    (owner : record'.uuid = record.uuid) (replaces : cur'.replaces = cur.replaces) (here : apart cur.replaces) :
    getFirstNonDeletedAncestor store record cur = .ok original ↔
      getFirstNonDeletedAncestor store' record' cur' = .ok original := by
  rw [ancestor_ok_iff, ancestor_ok_iff, owner, replaces]
  constructor
  · intro given
    rcases given with ⟨n, leads⟩
    exact ⟨n, leads.agree agreeing here⟩
  · intro given
    rcases given with ⟨n, leads⟩
    exact ⟨n, leads.agree agreeing.symm here⟩

end Ancestors

section Contents

variable {store store' : Store} {record record' : Account} {tx tx' : Transaction} {chain chain' : List Transaction}
variable {apart : TransactionId → Prop}

theorem effect_congr (content : tx.content = tx'.content)
    (ancestors : ∀ original, getFirstNonDeletedAncestor store record tx = .ok original ↔
      getFirstNonDeletedAncestor store' record' tx' = .ok original) (person : PersonId) :
    effect store record person tx = effect store' record' person tx' := by
  have share : tx.share person = tx'.share person :=
    show tx.content.share person = tx'.content.share person by rw [content]
  unfold effect
  rw [deleted_of_content content, replaces_of_content content, share]
  congr 1
  split
  · cases found : getFirstNonDeletedAncestor store record tx with
    | ok original => rw [(ancestors original).mp found]
    | err error =>
      cases found' : getFirstNonDeletedAncestor store' record' tx' with
      | ok original => rw [(ancestors original).mpr found'] at found; cases found
      | err error => rfl
      | hang => rfl
    | hang =>
      cases found' : getFirstNonDeletedAncestor store' record' tx' with
      | ok original => rw [(ancestors original).mpr found'] at found; cases found
      | err error => rfl
      | hang => rfl
  · rfl

theorem effect_content (store : Store) (record : Account) (person : PersonId) (tx : Transaction) :
    effect store record person tx.content = effect store record person tx :=
  effect_congr rfl (fun _ => ancestor_ok_iff.trans ancestor_ok_iff.symm) person

theorem resolved_content : Resolved store record tx.content ↔ Resolved store record tx := by
  unfold Resolved
  simp only [ancestor_ok_iff, Transaction.content]

theorem net_contents (store : Store) (record : Account) (chain : List Transaction) (person : PersonId) :
    net store record chain person = ((chain.map Transaction.content).map (effect store record person)).sum := by
  have each : effect store record person = effect store record person ∘ Transaction.content := by
    funext tx
    exact (effect_content store record person tx).symm
  rw [net, List.map_map, ← each]

/-- The balance does not depend on the order of a chain, nor on the ids of those transactions that no
    other refers to. -/
theorem getBalance_agree (agreeing : Agreeing record.uuid apart store store') (owner : record'.uuid = record.uuid)
    (members : record'.members = record.members)
    (read : store.ChainAt record.uuid record.latestTransaction chain)
    (read' : store'.ChainAt record'.uuid record'.latestTransaction chain')
    (contents : (chain.map Transaction.content).Perm (chain'.map Transaction.content))
    (refers : ∀ tx ∈ chain, apart tx.replaces) {balance : Balance}
    (returns : getBalance store record = .ok balance) : getBalance store' record' = .ok balance := by
  rcases getBalance_ok returns with ⟨_, again, resolved, sums⟩
  obtain rfl := Chained.unique read again
  have moved : ∀ tx ∈ chain', ∃ old ∈ chain, old.content = tx.content := fun tx member =>
    List.mem_map.mp (contents.mem_iff.mpr (List.mem_map_of_mem member))
  have ancestors : ∀ tx ∈ chain', ∀ original, getFirstNonDeletedAncestor store record tx = .ok original ↔
      getFirstNonDeletedAncestor store' record' tx = .ok original := by
    intro tx member original
    rcases moved tx member with ⟨old, before, same⟩
    have replaces := replaces_of_content same
    exact ancestor_agree agreeing owner rfl (replaces ▸ refers old before)
  have resolved' : ∀ tx ∈ chain', Resolved store' record' tx := by
    intro tx member revises
    rcases moved tx member with ⟨old, before, same⟩
    have here : Resolved store record tx := by
      rw [← resolved_content, ← same, resolved_content]
      exact resolved old before
    rcases here revises with ⟨original, found⟩
    exact ⟨original, (ancestors tx member original).mp found⟩
  rcases getBalance_run read' resolved' with ⟨balance', returns', sums'⟩
  have nets : ∀ person, net store record chain person = net store' record' chain' person := by
    intro person
    calc
      net store record chain person =
          ((chain'.map Transaction.content).map (effect store record person)).sum := by
        rw [net_contents]
        exact (contents.map _).sum_eq
      _ = net store record chain' person := (net_contents store record chain' person).symm
      _ = net store' record' chain' person := by
        unfold net
        congr 1
        apply List.map_congr_left
        intro tx member
        exact effect_congr rfl (ancestors tx member) person
  have same : balance' = balance := by
    apply Finmap.ext_lookup
    intro person
    rw [sums', sums, members, nets]
  rw [returns', same]

end Contents

end Flouze
