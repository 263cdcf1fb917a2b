import Flouze.Lib.Machine
import Flouze.Mobile.TransactionsBloc

namespace Flouze

open Linked Repository

structure SaveCall where
  transaction : Transaction
  previousLatestTransaction : TransactionId

/-- An account page and what its saves wait for: the repository, the isolate that adds one transaction
    after another, the flushes that follow, and the transactions to be loaded again. -/
structure Saving where
  bloc : TransactionsBloc
  repo : Store
  opening : List SaveCall
  adding : List Transaction
  flushing : Nat
  loading : Nat

/-- What is waited for may fail with an error. -/
inductive SavingEvent where
  | save (transaction : Transaction)
  | repository (error : Option ErrorKind)
  | addTransaction (error : Option ErrorKind)
  | flush (error : Option ErrorKind)
  | display

namespace Saving

def step (sorting : Sorting) : SavingEvent → Saving → Saving
  | .save transaction, page =>
    match page.bloc.saveTransaction sorting transaction with
    | (bloc, some tx) =>
      { page with
        bloc := bloc
        opening := page.opening ++ [⟨tx, page.bloc.account.latestTransaction⟩] }
    | (bloc, none) => { page with bloc := bloc }
  | .repository none, page =>
    match page.opening with
    | call :: opening =>
      { page with
        bloc := page.bloc.loadTransactions
        opening := opening
        adding := page.adding ++ [call.transaction]
        loading := page.loading + 1 }
    | [] => page
  -- the error that the handler shows is replaced at once, when the transactions are loaded again
  | .repository (some _), page =>
    match page.opening with
    | call :: opening =>
      { page with
        bloc := ({ page.bloc with
          account := { page.bloc.account with latestTransaction := call.previousLatestTransaction }
          : TransactionsBloc }).loadTransactions
        opening := opening
        loading := page.loading + 1 }
    | [] => page
  | .addTransaction none, page =>
    match page.adding with
    | tx :: adding =>
      match Ffi.addTransaction page.bloc.account.uuid tx page.repo with
      | (.ok _, repo) => { page with repo := repo, adding := adding, flushing := page.flushing + 1 }
      | (_, repo) => { page with repo := repo, adding := adding }
    | [] => page
  -- the future of `addTransaction` is not returned to the chain that the handler is at the end of
  | .addTransaction (some _), page => { page with adding := page.adding.tail }
  | .flush _, page => { page with flushing := page.flushing - 1 }
  | .display, page => { page with bloc := page.bloc.showTransactions sorting page.repo, loading := page.loading - 1 }

structure Completed (page : Saving) : Prop where
  opening : page.opening = []
  adding : page.adding = []
  flushing : page.flushing = 0
  loading : page.loading = 0

def Agrees (page : Saving) : Prop :=
  ∃ record, page.repo.account? page.bloc.account.uuid = some record ∧
    page.bloc.account.latestTransaction = record.latestTransaction

structure Opened (page : Saving) : Prop where
  account : page.repo.account? page.bloc.account.uuid = some page.bloc.account
  read : ∃ chain, page.repo.ChainAt page.bloc.account.uuid page.bloc.account.latestTransaction chain
  completed : page.Completed

/-- What was stored since `opened` has a parent that is null or stored. -/
def Rooted (opened page : Saving) : Prop :=
  ∀ key tx, page.repo.transaction? page.bloc.account.uuid key = some tx →
    opened.repo.transaction? page.bloc.account.uuid key = some tx ∨ tx.parent = [] ∨
      ∃ parent, page.repo.transaction? page.bloc.account.uuid tx.parent = some parent

end Saving

def SavingEvent.Fails : SavingEvent → Saving → Prop
  | .addTransaction (some _), page => page.adding ≠ []
  | _, _ => False

/-- Reading back from `head` stays among ids that are stored. -/
structure Known (store : Store) (id : AccountId) (head : TransactionId) (known : Set TransactionId) : Prop where
  head : head = [] ∨ head ∈ known
  closed : ∀ key ∈ known, ∃ tx, store.transaction? id key = some tx ∧ (tx.parent = [] ∨ tx.parent ∈ known)

section Known

variable {store : Store} {id : AccountId} {head : TransactionId} {known : Set TransactionId}
variable {chain : List Transaction} {β : Type}

theorem tip_known (base : TransactionId) (chain : List Transaction) :
    tip Transaction.uuid base chain = base ∨ tip Transaction.uuid base chain ∈ chain.map Transaction.uuid := by
  by_cases empty : chain = []
  · subst empty
    exact .inl rfl
  · exact .inr (tip_mem Transaction.uuid base empty)

theorem Known.of_chain (read : store.ChainAt id head chain) :
    Known store id head {key | key ∈ chain.map Transaction.uuid} := by
  constructor
  · rw [read.head_eq]
    exact tip_known [] chain
  · intro key member
    rcases List.mem_map.mp member with ⟨tx, inside, rfl⟩
    refine ⟨tx, (read.stored tx inside).2, ?_⟩
    rcases List.append_of_mem inside with ⟨older, newer, split⟩
    have linked := read.linked
    rw [split, linkedOn_append] at linked
    have parent : tx.parent = tip Transaction.uuid [] older := linked.2.1
    rw [parent]
    rcases tip_known [] older with null | before
    · exact .inl null
    · refine .inr ?_
      show _ ∈ chain.map Transaction.uuid
      rw [split, List.map_append]
      exact List.mem_append_left _ before

theorem Known.put (reads : Known store id head known) {tx : Transaction} (parent : tx.parent = head) :
    Known (store.putTransaction id tx) id tx.uuid (insert tx.uuid known) := by
  have wider : head = [] ∨ head ∈ insert tx.uuid known := reads.head.imp_right fun member => .inr member
  constructor
  · exact .inr (.inl rfl)
  · intro key member
    rw [Store.transaction?_putTransaction]
    by_cases same : key = tx.uuid
    · rw [if_pos ⟨rfl, same⟩]
      exact ⟨tx, rfl, parent ▸ wider⟩
    · rw [if_neg fun both => same both.2]
      rcases reads.closed key (member.resolve_left same) with ⟨old, stored, back⟩
      exact ⟨old, stored, back.imp_right fun member => .inr member⟩

theorem Known.reads (reads : Known store id head known) {pass : β → Transaction → Outcome ErrorKind (ForInStep β)}
    (fine : ∀ acc tx error, pass acc tx ≠ .err error) (fuel : Nat) (acc : β) (error : ErrorKind) :
    forChain store pass fuel ⟨id, head⟩ acc ≠ .err error := by
  induction fuel generalizing head acc with
  | zero => simp [forChain]
  | succ fuel ih =>
    by_cases empty : head = []
    · subst empty
      simp [forChain, next_nil]
    · rcases reads.closed head (reads.head.resolve_left empty) with ⟨tx, stored, back⟩
      simp only [forChain, next_stored empty stored, Outcome.ok_bind]
      cases passed : pass acc tx with
      | ok step =>
        cases step with
        | done value => simp
        | yield value => exact ih ⟨back, reads.closed⟩ value
      | err error' => exact absurd passed (fine acc tx error')
      | hang => simp

theorem Known.lists {record : Account} (found : store.account? id = some record)
    (reads : Known store id record.latestTransaction known) (error : ErrorKind) :
    Ffi.listTransactions id store ≠ .err error := by
  have owner := Store.uuid_of_account? found
  rw [Ffi.listTransactions, Store.getAccount_some found, Outcome.ok_bind, eachTransaction, getTransactionChain, owner]
  exact reads.reads (fun _ _ _ same => by cases same) _ _ error

end Known

namespace Saving

def pending (page : Saving) : List Transaction := page.adding ++ page.opening.map SaveCall.transaction

/-- What is to be stored goes on top of what is stored, up to the latest transaction that the page knows. -/
structure Sound (opened page : Saving) : Prop where
  same : page.bloc.account.uuid = opened.bloc.account.uuid
  stored : ∃ record known, page.repo.account? page.bloc.account.uuid = some record ∧
    LinkedOn Transaction.uuid Transaction.parent record.latestTransaction page.pending ∧
    page.bloc.account.latestTransaction = tip Transaction.uuid record.latestTransaction page.pending ∧
    Known page.repo page.bloc.account.uuid record.latestTransaction known ∧
    ∀ key tx, page.repo.transaction? page.bloc.account.uuid key = some tx →
      opened.repo.transaction? page.bloc.account.uuid key = some tx ∨ tx.parent = [] ∨ tx.parent ∈ known

variable {opened page : Saving} {sorting : Sorting}

theorem Opened.sound (start : opened.Opened) : Sound opened opened := by
  rcases start.read with ⟨chain, read⟩
  have none : opened.pending = [] := by simp [pending, start.completed.adding, start.completed.opening]
  refine ⟨rfl, opened.bloc.account, _, start.account, ?_, ?_, Known.of_chain read, ?_⟩
  · rw [none]
    exact True.intro
  · rw [none]
    rfl
  · intro key tx stored
    exact .inl stored

theorem Sound.lists (sound : Sound opened page) (error : ErrorKind) :
    Ffi.listTransactions page.bloc.account.uuid page.repo ≠ .err error := by
  rcases sound.stored with ⟨record, known, found, _, _, reads, _⟩
  exact reads.lists found error

theorem Sound.rooted (sound : Sound opened page) : Rooted opened page := by
  rcases sound.stored with ⟨record, known, _, _, _, reads, parents⟩
  intro key tx stored
  rcases parents key tx stored with before | null | member
  · exact .inl before
  · exact .inr (.inl null)
  · rcases reads.closed _ member with ⟨parent, found, _⟩
    exact .inr (.inr ⟨parent, found⟩)

theorem Sound.agrees (sound : Sound opened page) (completed : page.Completed) : page.Agrees := by
  rcases sound.stored with ⟨record, _, found, _, latest, _⟩
  have none : page.pending = [] := by simp [pending, completed.adding, completed.opening]
  rw [none] at latest
  exact ⟨record, found, latest⟩

theorem save_loaded {transactions : List Transaction} (loaded : page.bloc.state = .loaded transactions)
    (transaction : Transaction) :
    let tx := { transaction with parent := page.bloc.account.latestTransaction }
    step sorting (.save transaction) page =
      { page with
        bloc := ⟨{ page.bloc.account with latestTransaction := tx.uuid },
          .loaded (flattenHistory sorting (tx :: transactions))⟩
        opening := page.opening ++ [⟨tx, page.bloc.account.latestTransaction⟩] } := by
  simp only [step, TransactionsBloc.saveTransaction, loaded]

theorem save_unloaded (unloaded : ∀ transactions, page.bloc.state ≠ .loaded transactions) (transaction : Transaction) :
    step sorting (.save transaction) page = page := by
  cases state : page.bloc.state with
  | loaded transactions => exact absurd state (unloaded transactions)
  | loading => simp only [step, TransactionsBloc.saveTransaction, state]
  | loadError => simp only [step, TransactionsBloc.saveTransaction, state]

theorem save_sound (sound : Sound opened page) (transaction : Transaction) :
    Sound opened (step sorting (.save transaction) page) := by
  by_cases loaded : ∃ transactions, page.bloc.state = .loaded transactions
  · rcases loaded with ⟨transactions, loaded⟩
    rw [save_loaded loaded]
    rcases sound.stored with ⟨record, known, found, linked, latest, reads, parents⟩
    refine ⟨sound.same, record, known, found, ?_, ?_, reads, parents⟩
    · simp only [pending, List.map_append, ← List.append_assoc]
      exact (linkedOn_concat _ _ _ _ _).mpr ⟨linked, latest⟩
    · simp only [pending, List.map_append, List.map_singleton, ← List.append_assoc, tip_concat]
  · rw [save_unloaded fun transactions state => loaded ⟨transactions, state⟩]
    exact sound

theorem add_sound (sound : Sound opened page) : Sound opened (step sorting (.addTransaction none) page) := by
  cases waiting : page.adding with
  | nil => simpa only [step, waiting] using sound
  | cons tx adding =>
    rcases sound.stored with ⟨record, known, found, linked, latest, reads, parents⟩
    have owner : record.uuid = page.bloc.account.uuid := Store.uuid_of_account? found
    simp only [pending, waiting, List.cons_append] at linked latest
    simp only [step, waiting, Ffi.addTransaction_run tx found]
    refine ⟨sound.same, { record with latestTransaction := tx.uuid }, insert tx.uuid known, ?_, linked.2, latest,
      ?_, ?_⟩
    · simp [owner]
    · exact ⟨(reads.put linked.1).head, (reads.put linked.1).closed⟩
    · intro key other stored
      rw [Store.transaction?_putAccount, Store.transaction?_putTransaction] at stored
      by_cases same : key = tx.uuid
      · rw [if_pos ⟨rfl, same⟩] at stored
        obtain rfl := Option.some.inj stored
        rw [linked.1]
        exact .inr (reads.head.imp_right .inr)
      · rw [if_neg fun both => same both.2] at stored
        exact (parents key other stored).imp_right fun back => back.imp_right .inr

theorem Sound.congr {page' : Saving} (sound : Sound opened page) (account : page'.bloc.account = page.bloc.account)
    (repo : page'.repo = page.repo) (pending : page'.pending = page.pending) : Sound opened page' := by
  constructor
  · rw [account]
    exact sound.same
  · rw [account, repo, pending]
    exact sound.stored

theorem step_sound {event : SavingEvent} (sound : Sound opened page)
    (found : ∀ error, event ≠ .repository (some error)) (added : ¬ event.Fails page) :
    Sound opened (step sorting event page) := by
  cases event with
  | save transaction => exact save_sound sound transaction
  | repository error =>
    cases error with
    | some error => exact absurd rfl (found error)
    | none =>
      cases waiting : page.opening with
      | nil => simpa only [step, waiting] using sound
      | cons call opening =>
        apply sound.congr
        · simp only [step, waiting]
          rfl
        · simp only [step, waiting]
        · simp only [step, waiting, pending]
          simp
  | addTransaction error =>
    cases error with
    | some error =>
      have none : page.adding = [] := Classical.not_not.mp added
      exact sound.congr rfl rfl (by simp [step, pending, none])
    | none => exact add_sound sound
  | flush error => exact sound.congr rfl rfl rfl
  | display => exact sound.congr (page.bloc.showTransactions_account sorting page.repo) rfl rfl

def failedSave (transaction : Transaction) (error : ErrorKind) : List SavingEvent :=
  [.save transaction, .repository none, .addTransaction (some error), .display]

theorem failed_save {transactions : List Transaction} (completed : page.Completed)
    (loaded : page.bloc.state = .loaded transactions) (transaction : Transaction) (error : ErrorKind) :
    let failed := Machine.after (step sorting) (failedSave transaction error) page
    failed.Completed ∧ failed.repo = page.repo ∧
      failed.bloc.account = { page.bloc.account with latestTransaction := transaction.uuid } := by
  rcases page with ⟨bloc, repo, opening, adding, flushing, loading⟩
  cases completed.opening
  cases completed.adding
  cases completed.flushing
  cases completed.loading
  simp only [failedSave, Machine.after, List.foldl_cons, List.foldl_nil, save_loaded loaded]
  refine ⟨⟨rfl, rfl, rfl, rfl⟩, rfl, ?_⟩
  exact TransactionsBloc.showTransactions_account sorting repo _

/-- As long as no transaction fails to be stored, the page and the store agree once everything has completed,
    what was stored has its parent in the store, and the history can be listed. From such a state on, a save
    that fails leaves the page ahead of the store. -/
theorem saves_agree (start : opened.Opened) {events : List SavingEvent}
    (found : ∀ event ∈ events, ∀ error, event ≠ .repository (some error))
    (added : Machine.Throughout (step sorting) (fun event page => ¬ event.Fails page) events opened)
    {before later : List SavingEvent} (split : events = before ++ later) :
    let page := Machine.after (step sorting) before opened
    (page.Completed → page.Agrees) ∧ Rooted opened page ∧
      (∀ error, Ffi.listTransactions page.bloc.account.uuid page.repo ≠ .err error) ∧
      ∀ transactions, page.Completed → page.bloc.state = .loaded transactions → ∀ transaction error,
        let failed := Machine.after (step sorting) (failedSave transaction error) page
        failed.Completed ∧ (failed.Agrees ↔ transaction.uuid = page.bloc.account.latestTransaction) := by
  intro page
  have fine : Machine.Throughout (step sorting)
      (fun event page => (∀ error, event ≠ .repository (some error)) ∧ ¬ event.Fails page) events opened := by
    apply Machine.throughout_iff.mpr
    intro before event later split
    exact ⟨found event (by rw [split]; simp), Machine.throughout_iff.mp added before event later split⟩
  have sound : Sound opened page :=
    Machine.after_keeps (Sound opened) (fun _ _ sound fine => step_sound sound fine.1 fine.2) start.sound fine split
  refine ⟨sound.agrees, sound.rooted, sound.lists, ?_⟩
  intro transactions completed loaded transaction error
  rcases failed_save completed loaded transaction error with ⟨done, repo, account⟩
  rcases sound.agrees completed with ⟨record, stored, latest⟩
  refine ⟨done, ?_⟩
  rw [Agrees, repo, account, latest]
  show (∃ record', page.repo.account? page.bloc.account.uuid = some record' ∧ _) ↔ _
  rw [stored]
  simp

def untouched : Saving :=
  ⟨⟨makeAccount [7], .loaded []⟩, .holding (makeAccount [7]) [], [], [], 0, 0⟩

theorem untouched_opened : untouched.Opened := by
  refine ⟨Store.holding_account, ⟨[], Chained.nil _ _ _ _⟩, rfl, rfl, rfl, rfl⟩

def unflushed : List SavingEvent :=
  [.save (makeTransaction [0] []), .repository none, .addTransaction none, .flush (some (.storage "full")), .display]

theorem saves_agree_unflushed :
    (Machine.after (step .insertion) unflushed untouched).Completed ∧
    (Machine.after (step .insertion) unflushed untouched).Agrees := by
  have completed : (Machine.after (step .insertion) unflushed untouched).Completed := ⟨rfl, rfl, rfl, rfl⟩
  have kept : Machine.Throughout (step .insertion) (fun event page => ¬ event.Fails page) unflushed untouched :=
    ⟨id, id, id, id, id, True.intro⟩
  exact ⟨completed, (saves_agree untouched_opened (by simp [unflushed]) kept (List.append_nil _).symm).1 completed⟩

/-- A save fails and is not rolled back, and the next one stores a transaction whose parent is not stored. -/
theorem failed_save_not_rolled_back :
    let failed := Machine.after (step .insertion) (failedSave (makeTransaction [0] []) (.storage "full")) untouched
    let page := Machine.after (step .insertion)
      [.save (makeTransaction [1] []), .repository none, .addTransaction none, .flush none, .display] failed
    untouched.Opened ∧ failed.Completed ∧ ¬ failed.Agrees ∧
    page.Completed ∧ page.repo.transaction? [7] [1] = some (makeTransaction [1] [0]) ∧
    Ffi.listTransactions [7] page.repo = .err (.noSuchTransaction [0]) := by
  intro failed page
  have stored : failed.repo.account? [7] = some (makeAccount [7]) := by decide
  refine ⟨untouched_opened, ⟨rfl, rfl, rfl, rfl⟩, ?_, ⟨rfl, rfl, rfl, rfl⟩, by decide, by decide⟩
  intro agrees
  rcases agrees with ⟨record, found, latest⟩
  obtain rfl := Option.some.inj (stored.symm.trans found)
  exact absurd latest (by decide)

end Saving

end Flouze
