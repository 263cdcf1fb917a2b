import Flouze.Mobile.Transactions
import Flouze.Sync.World

namespace Flouze

open Linked Repository

/-- What the page shows. The balance and the transfers that come with the transactions are passed on
    unread. -/
inductive TransactionsState where
  | loading
  | loaded (transactions : List Transaction)
  | loadError

/-- The account is the object that the page was opened with. -/
structure TransactionsBloc where
  account : Account
  state : TransactionsState

namespace TransactionsBloc

def loadTransactions (bloc : TransactionsBloc) : TransactionsBloc := { bloc with state := .loading }

/-- The end of `loadTransactions`, when the repository has answered. -/
def showTransactions (sorting : Sorting) (repo : Store) (bloc : TransactionsBloc) : TransactionsBloc :=
  let answer : Outcome ErrorKind (List Transaction) := do
    let transactions ← Ffi.listTransactions bloc.account.uuid repo
    let _ ← getBalance repo (← getAccount bloc.account.uuid repo)
    pure transactions
  match answer with
  | .ok transactions => { bloc with state := .loaded (flattenHistory sorting transactions) }
  | .err _ => { bloc with state := .loadError }
  | .hang => bloc

theorem showTransactions_account (sorting : Sorting) (repo : Store) (bloc : TransactionsBloc) :
    (bloc.showTransactions sorting repo).account = bloc.account := by
  unfold showTransactions
  dsimp only
  split <;> rfl

/-- The bloc afterwards, and the transaction that is sent to the repository, if any. -/
def saveTransaction (sorting : Sorting) (transaction : Transaction) (bloc : TransactionsBloc) :
    TransactionsBloc × Option Transaction :=
  let transaction := { transaction with parent := bloc.account.latestTransaction }
  match bloc.state with
  | .loaded transactions =>
    ({ account := { bloc.account with latestTransaction := transaction.uuid }
       state := .loaded (flattenHistory sorting (transaction :: transactions)) }, some transaction)
  | .loading | .loadError => (bloc, none)

end TransactionsBloc

/-- An account page that is open on the client `me` of a world. The repository and `sync` run in one
    isolate, which takes one call at a time; `sending` are the calls of `addTransaction` that it has
    not come to yet. -/
structure AccountPage (ι : Type) where
  world : World ι
  bloc : TransactionsBloc
  sending : List Transaction

inductive PageEvent (ι : Type) where
  | elsewhere (event : Event ι)
  | save (transaction : Transaction)
  | add
  | load
  | display

variable {ι : Type} [DecidableEq ι]

inductive AccountPage.Step (id : AccountId) (generate : ι → Nat → TransactionId) (me : ι) (sorting : Sorting) :
    AccountPage ι → PageEvent ι → AccountPage ι → Prop
  /-- The syncs of this device, and whatever the other devices do. -/
  | elsewhere {page : AccountPage ι} {event : Event ι} {after : World ι}
      (step : World.Step id generate page.world event after) (kept : ∀ tx, event ≠ .append me tx) :
      Step id generate me sorting page (.elsewhere event) { page with world := after }
  | save (page : AccountPage ι) (transaction : Transaction) :
      Step id generate me sorting page (.save transaction)
        { page with
          bloc := (page.bloc.saveTransaction sorting transaction).1
          sending := page.sending ++ (page.bloc.saveTransaction sorting transaction).2.toList }
  | add {page : AccountPage ι} {tx : Transaction} {rest : List Transaction}
      (next : page.sending = tx :: rest) (idle : (page.world.clients me).pending = none)
      (uuid : tx.uuid = generate me (page.world.clients me).state.generated) :
      Step id generate me sorting page .add
        { page with
          world := page.world.put page.world.server me
            ⟨⟨(Ffi.addTransaction id tx (page.world.clients me).state.repo).2,
              (page.world.clients me).state.generated + 1⟩, none⟩
          sending := rest }
  | load (page : AccountPage ι) :
      Step id generate me sorting page .load { page with bloc := page.bloc.loadTransactions }
  | display (page : AccountPage ι) :
      Step id generate me sorting page .display
        { page with bloc := page.bloc.showTransactions sorting (page.world.clients me).state.repo }

inductive AccountPage.Run (id : AccountId) (generate : ι → Nat → TransactionId) (me : ι) (sorting : Sorting)
    (opened : AccountPage ι) : List (AccountPage ι × PageEvent ι) → AccountPage ι → Prop
  | nil : Run id generate me sorting opened [] opened
  | step {trace : List (AccountPage ι × PageEvent ι)} {page after : AccountPage ι} {event : PageEvent ι}
      (run : Run id generate me sorting opened trace page)
      (step : AccountPage.Step id generate me sorting page event after) :
      Run id generate me sorting opened (trace ++ [(page, event)]) after

structure AccountPage.Opened (id : AccountId) (me : ι) (page : AccountPage ι) : Prop where
  account : (page.world.clients me).state.repo.account? id = some page.bloc.account
  sending : page.sending = []

/-- The server answers a sync of this device with transactions that the device does not have. -/
def AccountPage.Pulls (id : AccountId) (me : ι) (page : AccountPage ι) (event : PageEvent ι) : Prop :=
  event = .elsewhere (.reply me) ∧
    ∃ wait base batch, (page.world.clients me).pending = some wait ∧
      wait.request = .getChildTransactions id base ∧
      (getChildTransactions id base page.world.server) = .ok batch ∧ batch ≠ [] ∧
      ∀ tx ∈ batch, (page.world.clients me).state.repo.transaction? id tx.uuid = none

/-- Nothing that was saved is stored once a sync has pulled. -/
def AccountPage.Calm (id : AccountId) (me : ι) (trace : List (AccountPage ι × PageEvent ι)) : Prop :=
  trace.Pairwise fun earlier later => AccountPage.Pulls id me earlier.1 earlier.2 → later.2 ≠ .add

/-- What one step does to the chain of this device: it loses nothing, and a transaction that is stored
    goes on top of it. -/
def AccountPage.Grows (id : AccountId) (me : ι) (page : AccountPage ι) (event : PageEvent ι)
    (after : AccountPage ι) : Prop :=
  ∃ record chain record' chain',
    (page.world.clients me).state.repo.account? id = some record ∧
    (page.world.clients me).state.repo.ChainAt id record.latestTransaction chain ∧
    (after.world.clients me).state.repo.account? id = some record' ∧
    (after.world.clients me).state.repo.ChainAt id record'.latestTransaction chain' ∧
    (chain.map Transaction.content).Sublist (chain'.map Transaction.content) ∧
    ∀ tx rest, event = .add → page.sending = tx :: rest →
      tx.parent = record.latestTransaction ∧ chain' = chain ++ [tx]

end Flouze
