import Flouze.Commands.Labels

namespace Flouze

open Linked Repository CommandM

structure Entry where
  label : String
  amount : UInt32
  payedBy : String
deriving DecidableEq

def Entry.line (entry : Entry) : String :=
  entry.label ++ ": " ++ toString entry.amount ++ " (payed by " ++ entry.payedBy ++ ")"

abbrev CommandRun := Σ _ : CommandInput, Outcome CommandError Unit

def CommandInput.act (generate : Nat → TransactionId) (input : CommandInput) (terminal : Terminal Store) :
    Outcome CommandError Unit × Terminal Store := input.2.run generate input.1 terminal

def CommandRun.note (label : String) (entries : List Entry) : CommandRun → List Entry
  | ⟨(_, .addAccount name _ _), .ok ()⟩ | ⟨(_, .deleteAccount name), .ok ()⟩ => if name = label then [] else entries
  | ⟨(_, .addTransaction name txLabel amount payedBy), .ok ()⟩ =>
    if name = label then entries ++ [⟨txLabel, amount, payedBy⟩] else entries
  | _ => entries

/-- What was entered into the account with a label since it was added. -/
def noted (label : String) (runs : List CommandRun) : List Entry := runs.foldl (CommandRun.note label) []

def Command.Local : Command → Prop
  | .serve _ | .clone _ _ | .sync _ _ => False
  | _ => True

/-- Each account holds what was entered into it, under ids that have been drawn. -/
structure Holds (generate : Nat → TransactionId) (runs : List CommandRun) (terminal : Terminal Store) : Prop where
  labels : terminal.device.repo.DistinctLabels
  drawn : ∀ id key tx, terminal.device.repo.transaction? id key = some tx →
    ∃ n, n < terminal.device.generated ∧ key = generate n
  members : ∀ id record, terminal.device.repo.account? id = some record → (record.members.map Person.uuid).Nodup
  history : ∀ id record, terminal.device.repo.account? id = some record →
    ∃ chain, terminal.device.repo.ChainAt id record.latestTransaction chain ∧
      chain.map (transactionLine record.members) = (noted record.label runs).map Entry.line

section Steps

variable {generate : Nat → TransactionId} {runs : List CommandRun} {terminal after : Terminal Store}

theorem noted_concat (label : String) (runs : List CommandRun) (run : CommandRun) :
    noted label (runs ++ [run]) = run.note label (noted label runs) := by
  rw [noted, List.foldl_append]
  rfl

theorem Holds.empty (generate : Nat → TransactionId) : Holds generate [] ⟨⟨Store.empty, 0⟩, []⟩ := by
  refine ⟨?_, ?_, ?_, ?_⟩
  · intro id other record record' found
    simp [Store.account?, Store.empty] at found
  · intro id key tx found
    simp [Store.transaction?, Store.empty] at found
  · intro id record found
    simp [Store.account?, Store.empty] at found
  · intro id record found
    simp [Store.account?, Store.empty] at found

theorem Holds.untouched (holds : Holds generate runs terminal) (untouched : terminal.Untouched after) {run : CommandRun}
    (silent : ∀ label entries, run.note label entries = entries) : Holds generate (runs ++ [run]) after := by
  have same := untouched.repo
  refine ⟨same ▸ holds.labels, ?_, same ▸ holds.members, ?_⟩
  · rw [same]
    intro id key tx found
    rcases holds.drawn id key tx found with ⟨n, bound, rfl⟩
    exact ⟨n, Nat.lt_of_lt_of_le bound untouched.generated, rfl⟩
  · rw [same]
    intro id record found
    rw [noted_concat, silent]
    exact holds.history id record found

theorem transactionLine_entered {draws : Draws} {record : Account} {member : PersonId} {payedBy label : String}
    {amount : UInt32} {uuid : TransactionId} {timestamp : UInt64} {tx : Transaction}
    (distinct : (record.members.map Person.uuid).Nodup) (payer : findMemberByName record.members payedBy = some member)
    (made : addTransactionOf draws record member label amount uuid timestamp = .ok tx) :
    transactionLine record.members tx = Entry.line ⟨label, amount, payedBy⟩ ∧ tx.uuid = uuid ∧
      tx.parent = record.latestTransaction := by
  rcases findMemberByName_member payer with ⟨m, inside, named, rfl⟩
  rw [addTransactionOf, Outcome.bind_eq_ok] at made
  rcases made with ⟨shares, _, made⟩
  obtain rfl := Outcome.ok.inj made
  refine ⟨?_, rfl, rfl⟩
  have name : personName record.members m.uuid = some payedBy := by
    unfold personName
    cases search : record.members.reverse.find? fun p => p.uuid = m.uuid with
    | none =>
      have absent := List.find?_eq_none.mp search m (List.mem_reverse.mpr inside)
      simp at absent
    | some p =>
      have same : p.uuid = m.uuid := by simpa using List.find?_some search
      have among := List.mem_reverse.mp (List.mem_of_find?_eq_some search)
      rw [List.inj_on_of_nodup_map distinct among inside same, Option.map_some, named]
  simp only [transactionLine, name, Option.getD_some, Entry.line]

theorem Holds.added (injective : Function.Injective generate) (holds : Holds generate runs terminal)
    {surroundings : Surroundings} {label : String} {id : Option String} {members : List String}
    (performed : (Command.addAccount label id members).Performed generate surroundings terminal after) :
    Holds generate (runs ++ [⟨(surroundings, .addAccount label id members), .ok ()⟩]) after := by
  have labels := performed_labels holds.labels (by intro _ _ same; cases same) performed
  rcases performed with ⟨middle, operation, untouched, writes, reached⟩
  have same := untouched.repo
  cases writes with
  | @addAccount _ _ _ account first unused _ labelled blank _ drawn _ _ =>
    have repo : after.device.repo = terminal.device.repo.putAccount account := by
      rw [reached, ← same]
      rfl
    have generated : terminal.device.generated ≤ after.device.generated := by
      rw [reached]
      exact untouched.generated
    refine ⟨labels, ?_, ?_, ?_⟩
    · rw [repo]
      intro owner key tx found
      rcases holds.drawn owner key tx found with ⟨n, bound, rfl⟩
      exact ⟨n, Nat.lt_of_lt_of_le bound generated, rfl⟩
    · rw [repo]
      intro other record found
      rw [Store.account?_putAccount] at found
      split at found
      · obtain rfl := Option.some.inj found
        rw [drawn]
        exact List.nodup_range.map fun n m equal => Nat.add_left_cancel (injective equal)
      · exact holds.members other record found
    · rw [repo]
      intro other record found
      rw [Store.account?_putAccount] at found
      rw [noted_concat]
      split at found
      · obtain rfl := Option.some.inj found
        refine ⟨[], ?_, ?_⟩
        · rw [blank]
          exact Chained.nil _ _ _ _
        · simp [CommandRun.note, labelled]
      · have differ : label ≠ record.label := Ne.symm (Store.labelled_none unused (same ▸ found))
        rcases holds.history other record found with ⟨chain, read, lines⟩
        exact ⟨chain, read, by simpa [CommandRun.note, differ] using lines⟩

theorem Holds.deleted (holds : Holds generate runs terminal) {surroundings : Surroundings} {label : String}
    (performed : (Command.deleteAccount label).Performed generate surroundings terminal after) :
    Holds generate (runs ++ [⟨(surroundings, .deleteAccount label), .ok ()⟩]) after := by
  have labels := performed_labels holds.labels (by intro _ _ same; cases same) performed
  rcases performed with ⟨middle, operation, untouched, writes, reached⟩
  have same := untouched.repo
  cases writes with
  | @deleteAccount _ named found =>
    rw [same] at found
    rcases Store.labelled_stored found with ⟨stored, at_label⟩
    have repo : after.device.repo = terminal.device.repo.removeAccount named.uuid := by
      rw [reached]
      simp only [Operation.apply, onRepo, same, Store.deleteAccount_some stored]
    have generated : terminal.device.generated ≤ after.device.generated := by
      rw [reached]
      exact untouched.generated
    refine ⟨labels, ?_, ?_, ?_⟩
    · rw [repo]
      intro owner key tx found
      rcases holds.drawn owner key tx found with ⟨n, bound, rfl⟩
      exact ⟨n, Nat.lt_of_lt_of_le bound generated, rfl⟩
    · rw [repo]
      intro other record found
      rw [Store.account?_removeAccount] at found
      split at found
      · cases found
      · exact holds.members other record found
    · rw [repo]
      intro other record found
      rw [Store.account?_removeAccount] at found
      split at found
      · cases found
      · next apart =>
        have differ : label ≠ record.label := by
          intro equal
          exact apart (holds.labels other named.uuid record named found stored (equal.symm.trans at_label.symm))
        rcases holds.history other record found with ⟨chain, read, lines⟩
        exact ⟨chain, read, by rw [noted_concat]; simpa [CommandRun.note, differ] using lines⟩

theorem Holds.entered (injective : Function.Injective generate) (nonnull : ∀ n, generate n ≠ [])
    (holds : Holds generate runs terminal) {surroundings : Surroundings} {accountName label : String} {amount : UInt32}
    {payedBy : String}
    (performed : (Command.addTransaction accountName label amount payedBy).Performed generate
      surroundings terminal after) :
    Holds generate (runs ++ [⟨(surroundings, .addTransaction accountName label amount payedBy), .ok ()⟩]) after := by
  have labels := performed_labels holds.labels (by intro _ _ same; cases same) performed
  rcases performed with ⟨middle, operation, untouched, writes, reached⟩
  have same := untouched.repo
  cases writes with
  | @addTransaction _ _ _ _ named _ n _ tx found payer new last clock made =>
    rw [same] at found
    rcases Store.labelled_stored found with ⟨stored, at_label⟩
    rcases transactionLine_entered (holds.members named.uuid named stored) payer made with ⟨line, uuid, parent⟩
    have repo : after.device.repo = terminal.device.repo.received named [tx] := by
      rw [reached]
      simp only [Operation.apply, onRepo, same, Ffi.addTransaction_run tx stored]
      rfl
    have generated : after.device.generated = n + 1 := by
      rw [reached]
      exact last.symm
    have fresh : ∀ id key other, terminal.device.repo.transaction? id key = some other → key ≠ tx.uuid := by
      intro id key other found' equal
      rcases holds.drawn id key other found' with ⟨m, bound, rfl⟩
      rw [uuid] at equal
      have := injective equal
      omega
    refine ⟨labels, ?_, ?_, ?_⟩
    · rw [repo, generated]
      intro id key other found'
      have given : (terminal.device.repo.putTransaction named.uuid tx).transaction? id key = some other := found'
      rw [Store.transaction?_putTransaction] at given
      split at given
      · next here => exact ⟨n, Nat.lt_succ_self n, here.2.trans uuid⟩
      · rcases holds.drawn id key other given with ⟨m, bound, rfl⟩
        exact ⟨m, by omega, rfl⟩
    · rw [repo]
      intro other record found'
      rw [Store.account?_received] at found'
      split at found'
      · obtain rfl := Option.some.inj found'
        exact holds.members named.uuid named stored
      · exact holds.members other record found'
    · rw [repo]
      intro other record found'
      rw [Store.account?_received] at found'
      rw [noted_concat]
      split at found'
      · next here =>
        subst here
        obtain rfl := Option.some.inj found'
        rcases holds.history named.uuid named stored with ⟨chain, read, lines⟩
        refine ⟨chain ++ [tx], ?_, ?_⟩
        · apply Store.ChainAt.received read
          · exact ⟨parent, True.intro⟩
          · simp [uuid, nonnull]
          · simp
          · intro sent member again
            obtain rfl := List.mem_singleton.mp member
            rcases List.mem_map.mp again with ⟨old, inside, equal⟩
            exact fresh _ _ old (read.stored old inside).2 equal
        · simpa [CommandRun.note, at_label, line] using lines
      · next apart =>
        have differ : accountName ≠ record.label := by
          intro equal
          exact apart (holds.labels other named.uuid record named found' stored (equal.symm.trans at_label.symm))
        rcases holds.history other record found' with ⟨chain, read, lines⟩
        refine ⟨chain, Store.ChainAt.received_other read apart, ?_⟩
        simpa [CommandRun.note, differ] using lines

theorem note_failed {input : CommandInput} {outcome : Outcome CommandError Unit} (failed : ∀ value, outcome ≠ .ok value)
    (label : String) (entries : List Entry) : CommandRun.note label entries ⟨input, outcome⟩ = entries := by
  rcases input with ⟨surroundings, command⟩
  cases outcome with
  | ok value => exact absurd rfl (failed value)
  | err error => cases command <;> rfl
  | hang => cases command <;> rfl

section Ends

variable {surroundings : Surroundings} {command : Command} {fails : Option CommandError → Terminal Store → Prop}

theorem Holds.reads (holds : Holds generate runs terminal)
    (silent : ∀ outcome label entries, CommandRun.note label entries ⟨(surroundings, command), outcome⟩ = entries)
    (ends : (command.run generate surroundings).Ends terminal (fun _ after => terminal.Untouched after) fails)
    (quiet : ∀ error after, fails error after → terminal.Untouched after) :
    Holds generate (runs ++ [⟨(surroundings, command), (CommandInput.act generate (surroundings, command) terminal).1⟩])
      (CommandInput.act generate (surroundings, command) terminal).2 := by
  rcases ends.cases with ⟨_, _, untouched⟩ | ⟨_, error, failed⟩
  · exact holds.untouched untouched (silent _)
  · exact holds.untouched (quiet error _ failed) (silent _)

theorem Holds.writes (holds : Holds generate runs terminal)
    (ends : (command.run generate surroundings).Ends terminal
      (fun _ after => command.Performed generate surroundings terminal after) fails)
    (quiet : ∀ error after, fails error after → terminal.Untouched after)
    (works : ∀ after, command.Performed generate surroundings terminal after →
      Holds generate (runs ++ [⟨(surroundings, command), .ok ()⟩]) after) :
    Holds generate (runs ++ [⟨(surroundings, command), (CommandInput.act generate (surroundings, command) terminal).1⟩])
      (CommandInput.act generate (surroundings, command) terminal).2 := by
  rcases ends.cases with ⟨_, returned, performed⟩ | ⟨unreturned, error, failed⟩
  · have outcome : (CommandInput.act generate (surroundings, command) terminal).1 = .ok () := returned
    rw [outcome]
    exact works _ performed
  · exact holds.untouched (quiet error _ failed) (note_failed unreturned)

end Ends

theorem Holds.step (injective : Function.Injective generate) (nonnull : ∀ n, generate n ≠ [])
    (holds : Holds generate runs terminal) (input : CommandInput) (here : input.2.Local) :
    Holds generate (runs ++ [⟨input, (input.act generate terminal).1⟩]) (input.act generate terminal).2 := by
  rcases input with ⟨surroundings, command⟩
  cases command with
  | addAccount label id members =>
    exact holds.writes (addAccount_ends label id members terminal) (fun _ _ => And.right)
      fun _ => holds.added injective
  | deleteAccount label =>
    exact holds.writes (deleteAccount_ends label terminal) (fun _ _ => And.right) fun _ => holds.deleted
  | addTransaction accountName label amount payedBy =>
    exact holds.writes (addTransaction_ends accountName label amount payedBy terminal) (fun _ _ => And.left)
      fun _ => holds.entered injective nonnull
  | settle accountName => exact holds.reads (fun _ _ _ => rfl) (settle_ends accountName terminal) fun _ _ => And.left
  | listAccounts => exact holds.reads (fun _ _ _ => rfl) (listAccounts_ends terminal) fun _ _ => And.right
  | listTransactions accountName =>
    exact holds.reads (fun _ _ _ => rfl) (listTransactions_ends accountName terminal) fun _ _ => And.right
  | balance accountName => exact holds.reads (fun _ _ _ => rfl) (balance_ends accountName terminal) fun _ _ => And.right
  | addRemoteAccount remoteAddress label id members =>
    exact holds.reads (fun _ _ _ => rfl) (addRemoteAccount_ends remoteAddress label id members terminal)
      fun _ _ => And.right
  | serve _ => exact here.elim
  | clone _ _ => exact here.elim
  | sync _ _ => exact here.elim

theorem Holds.run (injective : Function.Injective generate) (nonnull : ∀ n, generate n ≠ [])
    (holds : Holds generate runs terminal) {inputs : List CommandInput} (local_ : ∀ input ∈ inputs, input.2.Local) :
    Holds generate (runs ++ Machine.outputs (CommandInput.act generate) inputs terminal)
      (Machine.after (Command.step generate) inputs terminal) := by
  induction inputs generalizing runs terminal with
  | nil => simpa [Machine.outputs, Machine.after] using holds
  | cons input inputs ih =>
    have next := holds.step injective nonnull input (local_ input (by simp))
    have rest := ih next fun other member => local_ other (by simp [member])
    rw [List.append_assoc] at rest
    exact rest

theorem printChain_run {id : AccountId} {head : TransactionId} {chain : List Transaction} (members : List Person)
    (read : terminal.device.repo.ChainAt id head chain) {fuel : Nat} (enough : chain.length < fuel) :
    printChain members fuel ⟨id, head⟩ terminal =
      (.ok (), { terminal with printed := terminal.printed ++ (chain.reverse.map (transactionLine members)) }) := by
  induction chain using List.reverseRecOn generalizing head fuel terminal with
  | nil =>
    obtain rfl := read.head_eq
    obtain ⟨fuel, rfl⟩ : ∃ n, fuel = n + 1 := ⟨fuel - 1, by simp at enough; omega⟩
    simp [printChain, next_nil]
  | append_singleton older tx ih =>
    rcases (Chained.concat_iff tx).mp read with ⟨rfl, nonnull, stored, rest⟩
    obtain ⟨fuel, rfl⟩ : ∃ n, fuel = n + 1 := ⟨fuel - 1, by simp at enough; omega⟩
    let printed : Terminal Store := { terminal with printed := terminal.printed ++ [transactionLine members tx] }
    have unfolded : printChain members (fuel + 1) ⟨id, tx.uuid⟩ terminal =
        printChain members fuel ⟨id, tx.parent⟩ printed := by
      simp only [printChain, next_stored nonnull stored]
      exact Routine.bind_ok rfl
    have rest' : printed.device.repo.ChainAt id tx.parent older := rest
    rw [unfolded, ih rest' (by simp at enough; omega)]
    simp [printed]

/-- `list-transactions` prints what was entered into the account since it was added, the newest first. -/
theorem transactions_listed (generate : Nat → TransactionId) (injective : Function.Injective generate)
    (nonnull : ∀ n, generate n ≠ []) (inputs : List CommandInput) (local_ : ∀ input ∈ inputs, input.2.Local)
    (surroundings : Surroundings) (label : String) :
    let start : Terminal Store := ⟨⟨Store.empty, 0⟩, []⟩
    let runs : List CommandRun := Machine.outputs (CommandInput.act generate) inputs start
    let reached := Machine.after (Command.step generate) inputs start
    (∃ id record, reached.device.repo.account? id = some record ∧ record.label = label) →
      (Command.listTransactions label).run generate surroundings reached =
        (.ok (), { reached with printed := reached.printed ++ (noted label runs).reverse.map Entry.line }) := by
  intro start runs reached known
  rcases known with ⟨id, record, stored, rfl⟩
  have holds : Holds generate runs reached := (Holds.empty generate).run injective nonnull local_
  have named := Store.addressable_iff.mpr holds.labels id record stored
  rcases holds.history id record stored with ⟨chain, read, lines⟩
  obtain rfl : record.uuid = id := Store.uuid_of_account? stored
  have found : namedAccount record.label reached = (.ok record, reached) := by
    refine (Routine.bind_ok (find_run record.label reached)).trans ?_
    rw [named]
    rfl
  have counted : onFile (Routine.view fun repo : Store => .ok (transactionCount repo)) reached =
      (.ok (transactionCount reached.device.repo), reached) := rfl
  have printing := printChain_run record.members read (Nat.lt_succ_of_le read.length_le)
  have order : chain.reverse.map (transactionLine record.members) = (noted record.label runs).reverse.map Entry.line := by
    rw [List.map_reverse, lines, List.map_reverse]
  rw [order] at printing
  exact (Routine.bind_ok found).trans ((Routine.bind_ok counted).trans printing)

end Steps

theorem transactions_listed_dining :
    let start : Terminal Store := ⟨⟨Store.empty, 0⟩, []⟩
    let reached := Machine.after (Command.step (numbered 0)) dining start
    (Command.listTransactions "Trip").run (numbered 0) .offline reached =
      (.ok (), { reached with printed := reached.printed ++ ["Supper: 10 (payed by first)"] }) := by
  intro start reached
  have injective : Function.Injective (numbered 0) := fun _ _ same => (numbered_inj same).2
  have stored : reached.device.repo.account? (numbered 0 0) = some trip := by decide +kernel
  have local_ : ∀ input ∈ dining, input.2.Local := by
    intro input member
    rcases List.mem_cons.mp member with rfl | member
    · exact True.intro
    · obtain rfl := List.mem_singleton.mp member
      exact True.intro
  have lines : (noted "Trip" (Machine.outputs (CommandInput.act (numbered 0)) dining start)).reverse.map Entry.line =
      ["Supper: 10 (payed by first)"] := by decide +kernel
  have listed := transactions_listed (numbered 0) injective (fun _ => List.cons_ne_nil _ _) dining local_ .offline "Trip"
    ⟨_, trip, stored, rfl⟩
  rw [← lines]
  exact listed

end Flouze
