import Flouze.Commands.Steps
import Flouze.Report
import Flouze.Repository.Conservation

namespace Flouze

open Linked Repository CommandM

/-- The ids that are still to be drawn are not those of a person of a stored transaction. -/
def Store.Unknown (generate : Nat → TransactionId) (count : Nat) (store : Store) : Prop :=
  ∀ id tx n, store.transaction? id tx.uuid = some tx → count ≤ n →
    generate n ∉ tx.payedBy.map PayedBy.person ++ tx.payedFor.map PayedFor.person

/-- What keeps an account solvent: new members are nobody in what is stored, and servers and clients bring
    in what is balanced. -/
def CommandInput.Sound (generate : Nat → TransactionId) (input : CommandInput) (terminal : Terminal Store) : Prop :=
  match input.2 with
  | .addAccount _ _ _ => terminal.device.repo.Unknown generate terminal.device.generated
  | .clone remoteAddress accountId =>
    ∀ id, input.1.parseUuid accountId = .ok id →
      (Operation.cloneRemote id (input.1.network (cloneAddress remoteAddress)).replies).Settles terminal.device
  | .sync accountName remoteAddress =>
    ∀ record, terminal.device.repo.labelled accountName = some record →
      (Operation.sync record.uuid (input.1.network (httpAddress remoteAddress)).replies).Settles terminal.device
  | .serve listenAddress =>
    ∀ calls, input.1.clients listenAddress = .ok calls →
      Machine.Throughout (fun call store => (ServerRpcImpl.answer call store).2) RemoteCall.Settles calls
        terminal.device.repo
  | _ => True

section Entered

variable {draws : Draws} {record : Account} {member : PersonId} {payedBy label : String} {amount : UInt32}
variable {uuid : TransactionId} {timestamp : UInt64} {tx : Transaction}

theorem addTransactionOf_even (among : ∃ m ∈ record.members, m.name = payedBy ∧ m.uuid = member)
    (made : addTransactionOf draws record member label amount uuid timestamp = .ok tx) : tx.Even record.members := by
  rcases among with ⟨m, inside, _, rfl⟩
  rw [addTransactionOf, Outcome.bind_eq_ok] at made
  rcases made with ⟨shares, split, made⟩
  obtain rfl := Outcome.ok.inj made
  have positive : 0 < UInt64.ofNat record.members.length := by
    by_contra none
    have zero : UInt64.ofNat record.members.length = 0 := UInt64.not_lt.mp none |> UInt64.le_zero_iff.mp
    rw [zero] at split
    cases split
  have members : 0 < (UInt64.ofNat record.members.length).toNat := UInt64.lt_iff_toNat_lt.mp positive
  rw [splitAmount_run positive] at split
  obtain rfl := Outcome.ok.inj split
  let shares := (parts amount.toNat (UInt64.ofNat record.members.length).toNat).map UInt32.ofNat
  have perm : (seqShuffle draws shares).Perm shares := seqShuffle_perm draws shares
  have length : (seqShuffle draws shares).length ≤ record.members.length := by
    rw [perm.length_eq, List.length_map, length_parts members, UInt64.toNat_ofNat']
    exact Nat.mod_le _ _
  refine ⟨?_, ?_, ?_⟩
  · have amounts : (((seqShuffle draws shares).zip record.members).map fun share => share.1.toNat) =
        (seqShuffle draws shares).map UInt32.toNat :=
      (List.map_map (g := UInt32.toNat) (f := Prod.fst)).symm.trans (congrArg _ (List.map_fst_zip length))
    have total := (perm.map UInt32.toNat).sum_nat
    rw [toNat_shares amount members, sum_parts members] at total
    rw [List.map_map]
    exact (Nat.add_zero _).trans ((congrArg List.sum amounts).trans total).symm
  · intro p member
    obtain rfl := List.mem_singleton.mp member
    exact List.mem_map_of_mem inside
  · intro p member
    rcases List.mem_map.mp member with ⟨share, zipped, rfl⟩
    exact List.mem_map_of_mem (List.of_mem_zip zipped).2

end Entered

section Run

variable {generate : Nat → TransactionId} {terminal : Terminal Store}

theorem run_cases (generate : Nat → TransactionId) (input : CommandInput) (terminal : Terminal Store) :
    terminal.Untouched (Command.step generate input terminal) ∨
      input.2.Performed generate input.1 terminal (Command.step generate input terminal) ∨
      input.2.Served input.1 terminal (Command.step generate input terminal) := by
  rcases input with ⟨surroundings, command⟩
  let Left (after : Terminal Store) : Prop := terminal.Untouched after ∨
    command.Performed generate surroundings terminal after ∨ command.Served surroundings terminal after
  have still : ∀ {routine : CommandM Store Unit}, routine.Ends terminal (fun _ after => terminal.Untouched after)
      (fun error after => Calm error ∧ terminal.Untouched after) →
      routine.Ends terminal (fun _ after => Left after) fun _ after => Left after :=
    fun ends => Routine.Ends.mono ends (fun _ _ => .inl) fun _ _ given => .inl given.2
  have performed : ∀ {after}, command.Performed generate surroundings terminal after → Left after :=
    fun given => .inr (.inl given)
  suffices ends : (command.run generate surroundings).Ends terminal
      (fun _ after => Left after) fun _ after => Left after from
    Routine.Ends.always ends
  cases command with
  | addAccount label id members =>
    exact Routine.Ends.mono (addAccount_ends label id members terminal) (fun _ _ => performed)
      fun _ _ given => .inl given.2
  | deleteAccount label =>
    exact Routine.Ends.mono (deleteAccount_ends label terminal) (fun _ _ => performed) fun _ _ given => .inl given.2
  | addTransaction accountName label amount payedBy =>
    exact Routine.Ends.mono (addTransaction_ends accountName label amount payedBy terminal) (fun _ _ => performed)
      fun _ _ given => .inl given.1
  | clone remoteAddress accountId =>
    exact Routine.Ends.mono (clone_ends remoteAddress accountId terminal) (fun _ _ => performed)
      fun _ _ given => given.2.imp id .inl
  | sync accountName remoteAddress =>
    exact Routine.Ends.mono (sync_ends accountName remoteAddress terminal) (fun _ _ => performed)
      fun _ _ given => given.2.imp id .inl
  | settle accountName =>
    exact Routine.Ends.mono (settle_ends accountName terminal) (fun _ _ => .inl) fun _ _ given => .inl given.1
  | serve listenAddress =>
    refine Routine.Ends.mono (serve_ends listenAddress terminal) (fun _ _ never => never.elim) fun _ _ given => ?_
    rcases given.2 with rfl | served
    · exact .inl (.refl _)
    · exact .inr (.inr served)
  | listAccounts => exact still (listAccounts_ends terminal)
  | listTransactions accountName => exact still (listTransactions_ends accountName terminal)
  | balance accountName => exact still (balance_ends accountName terminal)
  | addRemoteAccount remoteAddress label id members =>
    exact still (addRemoteAccount_ends remoteAddress label id members terminal)

theorem share_unknown {tx : Transaction} {person : PersonId}
    (unknown : person ∉ tx.payedBy.map PayedBy.person ++ tx.payedFor.map PayedFor.person) : tx.share person = 0 := by
  have payed : (tx.payedBy.filter fun p => p.person = person) = [] := by
    rw [List.filter_eq_nil_iff]
    intro p member same
    exact unknown (List.mem_append_left _ (List.mem_map.mpr ⟨p, member, by simpa using same⟩))
  have received : (tx.payedFor.filter fun p => p.person = person) = [] := by
    rw [List.filter_eq_nil_iff]
    intro p member same
    exact unknown (List.mem_append_right _ (List.mem_map.mpr ⟨p, member, by simpa using same⟩))
  rw [Transaction.share, payed, received]
  rfl

theorem sound_settles {input : CommandInput} (sound : input.Sound generate terminal) {middle : Terminal Store}
    (untouched : terminal.Untouched middle) {operation : Operation}
    (writes : input.2.Writes generate input.1 terminal.device.generated middle.device operation) :
    operation.Settles middle.device := by
  rcases input with ⟨surroundings, command⟩
  have same := untouched.repo
  cases writes with
  | @addAccount label id members account first unused chosen labelled blank named drawn new last =>
    intro tx stored _
    apply Finset.sum_eq_zero
    intro person member
    rw [persons, List.mem_toFinset, drawn] at member
    rcases List.mem_map.mp member with ⟨n, _, rfl⟩
    rw [same] at stored
    exact share_unknown (sound account.uuid tx (first + n) stored (by omega))
  | deleteAccount found => exact True.intro
  | addTransaction found payer new last clock made =>
    intro record stored _
    have even := addTransactionOf_even (findMemberByName_member payer) made
    obtain rfl := Option.some.inj ((Store.labelled_stored found).1.symm.trans stored)
    exact share_even even
  | clone parsed =>
    have settles := sound _ parsed
    simp only [Operation.Settles] at settles ⊢
    rw [same]
    exact settles
  | sync found =>
    rw [same] at found
    have settles := sound _ found
    simp only [Operation.Settles] at settles ⊢
    rw [same]
    exact settles

theorem step_balanced (input : CommandInput) (terminal : Terminal Store) (balanced : terminal.device.repo.Balanced)
    (sound : input.Sound generate terminal) : (Command.step generate input terminal).device.repo.Balanced := by
  rcases run_cases generate input terminal with untouched | ⟨middle, operation, untouched, writes, performed⟩ |
    ⟨listenAddress, calls, served, listens, reached⟩
  · rw [untouched.repo]
    exact balanced
  · rw [performed]
    exact apply_balanced operation middle.device (untouched.repo ▸ balanced) (sound_settles sound untouched writes)
  · rcases input with ⟨surroundings, command⟩
    obtain rfl : command = .serve listenAddress := served
    rw [reached]
    exact serve_balanced balanced (sound calls listens)

theorem panic_cases {surroundings : Surroundings} {command : Command} {error : CommandError}
    (ended : (command.run generate surroundings terminal).1 = .err error) (panics : error.Panics) :
    surroundings.now = none ∨
      ∃ label record, terminal.device.repo.labelled label = some record ∧ (2 ^ 64 ≤ record.members.length ∨
        ∃ balance, getBalance terminal.device.repo record = .ok balance ∧
          ∀ transfers, getTransfers surroundings.order balance ≠ .ok transfers) := by
  have calmly : ∀ {P : Terminal Store → Prop} {post : Unit → Terminal Store → Prop},
      (command.run generate surroundings).Ends terminal post (fun error after => Calm error ∧ P after) → False :=
    fun ends => (Routine.Ends.failed ends ended).1 error rfl panics
  cases command with
  | addAccount label id members => exact (calmly (addAccount_ends label id members terminal)).elim
  | deleteAccount label =>
    have ends : ((Command.deleteAccount label).run generate surroundings).Ends terminal
        (fun _ after => (Command.deleteAccount label).Performed generate surroundings terminal after)
        fun error after => Calm error ∧ terminal.Untouched after := deleteAccount_ends label terminal
    exact (calmly ends).elim
  | addTransaction accountName label amount payedBy =>
    rcases (Routine.Ends.failed (addTransaction_ends accountName label amount payedBy terminal) ended).2 error rfl panics
      with early | ⟨record, found, many⟩
    · exact .inl early
    · exact .inr ⟨accountName, record, found, .inl many⟩
  | settle accountName =>
    rcases (Routine.Ends.failed (settle_ends accountName terminal) ended).2 error rfl panics
      with ⟨record, balance, found, unsettled⟩
    exact .inr ⟨accountName, record, found, .inr ⟨balance, unsettled⟩⟩
  | serve listenAddress => exact (calmly (serve_ends listenAddress terminal)).elim
  | clone remoteAddress accountId => exact (calmly (clone_ends remoteAddress accountId terminal)).elim
  | sync accountName remoteAddress => exact (calmly (sync_ends accountName remoteAddress terminal)).elim
  | listAccounts => exact (calmly (listAccounts_ends terminal)).elim
  | listTransactions accountName => exact (calmly (listTransactions_ends accountName terminal)).elim
  | balance accountName => exact (calmly (balance_ends accountName terminal)).elim
  | addRemoteAccount remoteAddress label id members =>
    exact (calmly (addRemoteAccount_ends remoteAddress label id members terminal)).elim

/-- No run of commands leads to a panic, as long as the amounts fit and the clock is right. -/
theorem commands_never_panic (generate : Nat → TransactionId) {inputs before later : List CommandInput}
    (sound : Machine.Throughout (Command.step generate) (CommandInput.Sound generate) inputs ⟨⟨Store.empty, 0⟩, []⟩)
    (split : inputs = before ++ later) {surroundings : Surroundings} (clock : surroundings.now ≠ none)
    (command : Command) :
    let reached := Machine.after (Command.step generate) before (⟨⟨Store.empty, 0⟩, []⟩ : Terminal Store)
    (∀ id record, reached.device.repo.account? id = some record →
      record.members.length < 2 ^ 64 ∧ reached.device.repo.Fits record) →
    ∀ error, (command.run generate surroundings reached).1 = .err error → ¬ error.Panics := by
  intro reached fits error ended panics
  have balanced : reached.device.repo.Balanced :=
    Machine.after_keeps (fun terminal : Terminal Store => terminal.device.repo.Balanced) step_balanced
      Store.Balanced.empty sound split
  rcases panic_cases ended panics with early | ⟨label, record, found, many | ⟨balance, returns, unsettled⟩⟩
  · exact clock early
  · have few := (fits record.uuid record (Store.labelled_stored found).1).1
    omega
  · have stored := (Store.labelled_stored found).1
    rcases transfers_of_balanced surroundings.order balanced stored (fits record.uuid record stored).2 returns
      with ⟨transfers, settled⟩
    exact unsettled transfers settled

end Run

def Surroundings.offline : Surroundings where
  parseUuid _ := .error "Invalid UUID"
  network _ := ⟨.err (.jsonRpcClientError "Connection refused"), fun _ _ => .hang, .ok ()⟩
  clients _ := .err (.jsonRpcClientError "Cannot assign requested address")
  draws := ⟨id, fun _ => Nat.le_refl _⟩
  now := some 0
  order := .byPerson

def dining : List CommandInput :=
  [(.offline, .addAccount "Trip" none ["first", "second"]),
   (.offline, .addTransaction "Trip" "Supper" 10 "first")]

def supper : Transaction where
  uuid := numbered 0 3
  parent := []
  amount := 10
  payedBy := [⟨numbered 0 1, 10⟩]
  payedFor := [⟨numbered 0 1, 5⟩, ⟨numbered 0 2, 5⟩]
  label := "Supper"
  timestamp := 0
  deleted := false
  replaces := []

def trip : Account where
  uuid := numbered 0 0
  label := "Trip"
  latestTransaction := numbered 0 3
  latestSynchronizedTransaction := []
  members := [⟨numbered 0 1, "first"⟩, ⟨numbered 0 2, "second"⟩]

def snack : Transaction := { supper with uuid := [9], parent := numbered 0 3, label := "Snack" }

/-- A server on the file, and a client that has a transaction to send. -/
def hosting : List CommandInput :=
  [({ Surroundings.offline with clients := fun _ => .ok [.receiveTransactions trip.uuid [snack]] },
    .serve "127.0.0.1:3142")]

theorem commands_never_panic_hosting :
    let reached := Machine.after (Command.step (numbered 0)) (dining ++ hosting) (⟨⟨Store.empty, 0⟩, []⟩ : Terminal Store)
    ∀ error, ((Command.settle "Trip").run (numbered 0) .offline reached).1 = .err error → ¬ error.Panics := by
  intro reached
  have met : (Machine.after (Command.step (numbered 0)) dining
      (⟨⟨Store.empty, 0⟩, []⟩ : Terminal Store)).device.repo.account? (numbered 0 0) = some trip := by decide +kernel
  have sound : Machine.Throughout (Command.step (numbered 0)) (CommandInput.Sound (numbered 0)) (dining ++ hosting)
      ⟨⟨Store.empty, 0⟩, []⟩ := by
    refine ⟨?_, True.intro, ?_, True.intro⟩
    · intro id tx n stored
      simp [Store.transaction?, Store.empty] at stored
    · intro calls listens
      obtain rfl := Outcome.ok.inj listens
      refine ⟨?_, True.intro⟩
      intro record found tx sent
      obtain rfl := List.mem_singleton.mp sent
      obtain rfl := Option.some.inj (met.symm.trans found)
      decide +kernel
  let trip' : Account := { trip with latestTransaction := [9] }
  have accounts : reached.device.repo.accounts.keys = {numbered 0 0} := by decide +kernel
  have stored : reached.device.repo.account? (numbered 0 0) = some trip' := by decide +kernel
  have read : reached.device.repo.ChainAt trip'.uuid trip'.latestTransaction [supper, snack] := by
    refine ⟨rfl, ⟨rfl, rfl, True.intro⟩, ?_⟩
    decide +kernel
  have clock : Surroundings.offline.now ≠ none := by decide
  apply commands_never_panic (numbered 0) sound (List.append_nil _).symm clock (.settle "Trip")
  intro id record found
  have known : id ∈ reached.device.repo.accounts.keys := Finmap.mem_keys.mpr (Finmap.mem_iff.mpr ⟨record, found⟩)
  rw [accounts, Finset.mem_singleton] at known
  subst known
  obtain rfl := Option.some.inj (stored.symm.trans found)
  refine ⟨by decide, ?_⟩
  intro chain read'
  obtain rfl := Chained.unique read read'
  decide +kernel

end Flouze
