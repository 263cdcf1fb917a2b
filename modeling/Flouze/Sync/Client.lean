import Mathlib.Data.Set.Operations
import Flouze.Ffi
import Flouze.Sync.Undisturbed

namespace Flouze

open Linked Repository

abbrev SyncThread :=
  Resumption.Thread RemoteCall RemoteCall.Reply (Device Store) (Outcome ErrorKind Unit)

abbrev SyncPending :=
  Resumption.Pending RemoteCall RemoteCall.Reply (Device Store) (Outcome ErrorKind Unit)

open Classical in
noncomputable def contentsOf (generate : Nat → TransactionId) (chain : List Transaction) : List Transaction :=
  (chain.filter fun tx => tx.uuid ∈ Set.range generate).map Transaction.content

def Foreign (generate : Nat → TransactionId) (transactions : List Transaction) : Prop :=
  ∀ tx ∈ transactions, tx.uuid ∉ Set.range generate

theorem Foreign.append {generate : Nat → TransactionId} {first second : List Transaction}
    (left : Foreign generate first) (right : Foreign generate second) : Foreign generate (first ++ second) := by
  intro tx member
  rcases List.mem_append.mp member with before | after
  · exact left tx before
  · exact right tx after

def Own (generate : Nat → TransactionId) (transactions : List Transaction) : Prop :=
  ∀ tx ∈ transactions, tx.uuid ∈ Set.range generate

/-- The server has accepted the batch `lost` and the client, which never heard of it, still has it
    pending. The rest of what the client has to pull is not its own. -/
def Unacknowledged (generate : Nat → TransactionId) (lost pending newer : List Transaction) : Prop :=
  ∃ kept later, pending = lost ++ kept ∧ newer = lost ++ later ∧ Foreign generate later

section Contents

variable (generate : Nat → TransactionId) {first second : List Transaction}

@[simp] theorem contentsOf_nil : contentsOf generate [] = [] := by simp [contentsOf]

theorem contentsOf_append (first second : List Transaction) :
    contentsOf generate (first ++ second) = contentsOf generate first ++ contentsOf generate second := by
  simp [contentsOf]

theorem contentsOf_own (own : Own generate first) :
    contentsOf generate first = first.map Transaction.content := by
  classical
  rw [contentsOf, List.filter_eq_self.mpr]
  intro tx member
  simpa using own tx member

theorem contentsOf_foreign (foreign : Foreign generate first) : contentsOf generate first = [] := by
  classical
  rw [contentsOf, List.map_eq_nil_iff, List.filter_eq_nil_iff]
  intro tx member
  simpa using foreign tx member

theorem moved_own (count : Nat) (parent : TransactionId) (pending : List Transaction) :
    Own generate (moved generate count parent pending) := by
  intro tx member
  rcases mem_moved generate count parent member with ⟨n, _, _, drawn⟩
  exact ⟨n, drawn.symm⟩

end Contents

section Unacknowledged

variable {generate : Nat → TransactionId} {lost pending newer : List Transaction}

theorem unacknowledged_nil : Unacknowledged generate [] pending newer ↔ Foreign generate newer := by
  constructor
  · intro given
    rcases given with ⟨kept, later, _, rfl, foreign⟩
    exact foreign
  · intro foreign
    exact ⟨pending, newer, rfl, rfl, foreign⟩

theorem Unacknowledged.nothing_newer (mode : Unacknowledged generate lost pending []) : lost = [] := by
  rcases mode with ⟨_, _, _, none, _⟩
  exact (List.append_eq_nil_iff.mp none.symm).1

theorem Unacknowledged.contents_prefix (mode : Unacknowledged generate lost pending newer)
    (own : Own generate pending) : contentsOf generate newer <+: pending.map Transaction.content := by
  rcases mode with ⟨kept, later, rfl, rfl, foreign⟩
  have sent : Own generate lost := fun tx member => own tx (List.mem_append_left _ member)
  rw [contentsOf_append, contentsOf_own generate sent, contentsOf_foreign generate foreign, List.map_append,
    List.append_nil]
  exact List.prefix_append _ _

end Unacknowledged

def Account.extended (record : Account) (batch : List Transaction) : Account :=
  { record with latestTransaction := tip Transaction.uuid record.latestTransaction batch }

structure Extends (record : Account) (chain batch : List Transaction) : Prop where
  linked : LinkedOn Transaction.uuid Transaction.parent record.latestTransaction batch
  nonempty : ∀ tx ∈ batch, tx.uuid ≠ []
  distinct : (batch.map Transaction.uuid).Nodup
  apart : ∀ tx ∈ batch, tx.uuid ∉ chain.map Transaction.uuid

theorem Extends.nil (record : Account) (chain : List Transaction) : Extends record chain [] :=
  ⟨True.intro, by simp, by simp, by simp⟩

theorem Honest.extends_pending {id : AccountId} {store server : Store} {record serverRecord : Account}
    {synced pending : List Transaction}
    (honest : Honest id store server record serverRecord synced pending []) :
    Extends serverRecord synced pending := by
  have whole := Chained.nodup honest.read
  rw [List.map_append] at whole
  refine ⟨honest.pending_linked, ?_, (List.nodup_append.mp whole).2.1, ?_⟩
  · intro tx member
    exact (honest.read.stored tx (List.mem_append_right _ member)).1
  · intro tx member again
    rcases List.mem_map.mp again with ⟨other, present, same⟩
    exact Chained.not_mem_right honest.read present member same.symm

theorem Honest.extended {id : AccountId} {store server : Store} {record serverRecord : Account}
    {synced pending newer batch : List Transaction}
    (honest : Honest id store server record serverRecord synced pending newer)
    (extra : Extends serverRecord (synced ++ newer) batch) :
    Honest id store (server.received serverRecord batch) record (serverRecord.extended batch)
      synced pending (newer ++ batch) := by
  obtain rfl : serverRecord.uuid = id := Store.uuid_of_account? honest.remote_found
  refine ⟨honest.toReplica, ?_, ?_⟩
  · rw [Store.account?_received, if_pos rfl]
    rfl
  · rw [← List.append_assoc]
    exact honest.remote_read.received extra.linked extra.nonempty extra.distinct extra.apart

/-- How a client's store stands to the server and to what was entered on the client. -/
structure Tracks (id : AccountId) (generate : Nat → TransactionId) (server : Store)
    (device : Device Store) (record serverRecord : Account)
    (synced pending newer log lost : List Transaction) : Prop
    extends Honest id device.repo server record serverRecord synced pending newer where
  stored : ∀ key, device.repo.transaction? id key ≠ none → key ∈ (synced ++ pending).map Transaction.uuid
  own : Own generate pending
  drawn : ∀ n, generate n ∈ (synced ++ pending ++ newer).map Transaction.uuid → n < device.generated
  logged : contentsOf generate synced ++ pending.map Transaction.content = log
  mode : Unacknowledged generate lost pending newer

inductive Waiting (id : AccountId) (generate : Nat → TransactionId) (record : Account)
    (pending newer : List Transaction) : Option SyncPending → Prop
  | idle : Waiting id generate record pending newer none
  | latest : Waiting id generate record pending newer
      (some ⟨.getLatestTransaction id, Process.andThen (onLatest generate record)⟩)
  | children : Waiting id generate record pending newer
      (some ⟨.getChildTransactions id record.latestSynchronizedTransaction,
        Process.andThen (onChildren generate record)⟩)
  | receipt (unsent : pending ≠ []) (foreign : Foreign generate newer) :
      Waiting id generate record pending newer
        (some ⟨.receiveTransactions id pending, Process.andThen (onReceipt record)⟩)

namespace Tracks

variable {id : AccountId} {generate : Nat → TransactionId} {server : Store} {device : Device Store}
variable {record serverRecord : Account} {synced pending newer log lost : List Transaction}

theorem freshIds (tracks : Tracks id generate server device record serverRecord synced pending newer log lost)
    (injective : Function.Injective generate) (nonempty : ∀ n, generate n ≠ []) :
    FreshIds generate device.generated fun key =>
      device.repo.transaction? id key ≠ none ∨ key ∈ newer.map Transaction.uuid := by
  refine ⟨injective, nonempty, ?_⟩
  intro n later used
  have below : n < device.generated := by
    apply tracks.drawn n
    rw [List.map_append, List.mem_append]
    rcases used with stored | pushed
    · exact .inl (tracks.stored _ stored)
    · exact .inr pushed
  omega

theorem newer_fresh (tracks : Tracks id generate server device record serverRecord synced pending newer log lost)
    (foreign : Foreign generate newer) : ∀ tx ∈ newer, device.repo.transaction? id tx.uuid = none := by
  intro tx member
  by_contra present
  have known := tracks.stored _ present
  rw [List.map_append, List.mem_append] at known
  rcases known with older | unsent
  · rcases List.mem_map.mp older with ⟨other, among, same⟩
    exact Chained.not_mem_right tracks.remote_read among member same.symm
  · rcases List.mem_map.mp unsent with ⟨other, among, same⟩
    exact foreign tx member (same ▸ tracks.own other among)

theorem newer_stored (tracks : Tracks id generate server device record serverRecord synced pending newer log lost)
    (some : lost ≠ []) : ∃ tx ∈ newer, device.repo.transaction? id tx.uuid ≠ none := by
  rcases tracks.mode with ⟨kept, later, rfl, rfl, _⟩
  rcases List.exists_cons_of_ne_nil some with ⟨tx, rest, rfl⟩
  exact ⟨tx, by simp, by simp [(tracks.read.stored tx (by simp)).2]⟩

theorem extended (tracks : Tracks id generate server device record serverRecord synced pending newer log lost)
    {batch : List Transaction} (extra : Extends serverRecord (synced ++ newer) batch)
    (foreign : Foreign generate batch) :
    Tracks id generate (server.received serverRecord batch) device record (serverRecord.extended batch)
      synced pending (newer ++ batch) log lost := by
  refine ⟨tracks.toHonest.extended extra, tracks.stored, tracks.own, ?_, tracks.logged, ?_⟩
  · intro n used
    rw [← List.append_assoc, List.map_append, List.mem_append] at used
    rcases used with before | sent
    · exact tracks.drawn n before
    · rcases List.mem_map.mp sent with ⟨tx, member, same⟩
      exact absurd ⟨n, same.symm⟩ (foreign tx member)
  · rcases tracks.mode with ⟨kept, later, split, behind, clean⟩
    exact ⟨kept, later ++ batch, split, by rw [behind, List.append_assoc], clean.append foreign⟩

theorem appended (tracks : Tracks id generate server device record serverRecord synced pending newer log lost)
    (injective : Function.Injective generate) (nonempty : ∀ n, generate n ≠ []) {tx : Transaction}
    (uuid : tx.uuid = generate device.generated) (parent : tx.parent = record.latestTransaction) :
    Tracks id generate server
      ⟨(Ffi.addTransaction id tx device.repo).2, device.generated + 1⟩
      { record with latestTransaction := tx.uuid } serverRecord synced (pending ++ [tx]) newer
      (log ++ [tx.content]) lost := by
  obtain rfl : record.uuid = id := tracks.owner
  have unused : device.repo.transaction? record.uuid tx.uuid = none := by
    by_contra present
    exact (tracks.freshIds injective nonempty).unused _ (Nat.le_refl _) (.inl (uuid ▸ present))
  have apart : ∀ other ∈ synced ++ pending, other.uuid ≠ tx.uuid := by
    intro other member same
    have present := (tracks.read.stored other member).2
    rw [same, unused] at present
    cases present
  rw [Ffi.addTransaction_run tx tracks.found]
  refine ⟨⟨⟨?_, ?_, tracks.base⟩, tracks.remote_found, tracks.remote_read⟩, ?_, ?_, ?_, ?_, ?_⟩
  · simp
  · rw [← List.append_assoc]
    refine (Chained.concat_iff tx).mpr ⟨rfl, uuid ▸ nonempty _, by simp, ?_⟩
    rw [parent]
    apply Chained.congr tracks.read
    intro other member
    simp [apart other member]
  · intro key present
    by_cases same : key = tx.uuid
    · simp [same]
    · simp only [Store.transaction?_putAccount, Store.transaction?_putTransaction, same, and_false,
        ite_false] at present
      have known := tracks.stored key present
      rw [← List.append_assoc, List.map_append, List.mem_append]
      exact .inl known
  · intro other member
    rcases List.mem_append.mp member with before | new
    · exact tracks.own other before
    · obtain rfl := List.mem_singleton.mp new
      exact ⟨_, uuid.symm⟩
  · intro n used
    by_cases new : generate n = tx.uuid
    · have equal := injective (new.trans uuid)
      simp only
      omega
    · have before : generate n ∈ (synced ++ pending ++ newer).map Transaction.uuid := by
        simp only [List.map_append, List.mem_append, List.map_cons, List.map_nil,
          List.mem_singleton, new, or_false] at used ⊢
        exact used
      have below := tracks.drawn n before
      simp only
      omega
  · rw [← tracks.logged]
    simp
  · rcases tracks.mode with ⟨kept, later, split, behind, clean⟩
    exact ⟨kept ++ [tx], later, by rw [split, List.append_assoc], behind, clean⟩

theorem pulled (tracks : Tracks id generate server device record serverRecord synced pending newer log [])
    (injective : Function.Injective generate) (nonempty : ∀ n, generate n ≠ [])
    (behind : newer ≠ []) :
    let rebased := moved generate device.generated (tip Transaction.uuid [] newer) pending
    let record' := record.advanced newer rebased
    let device' : Device Store := ⟨device.repo.adopted record' newer rebased (pending.map Transaction.uuid),
      device.generated + pending.length⟩
    adoptTransactions generate record newer device = (.ok record', device') ∧
    Tracks id generate server device' record' serverRecord (synced ++ newer) rebased [] log [] := by
  intro rebased record' device'
  have foreign : Foreign generate newer := unacknowledged_nil.mp tracks.mode
  obtain rfl : record.uuid = id := tracks.owner
  obtain ⟨run, honest⟩ := tracks.toHonest.pulled behind (tracks.newer_fresh foreign)
    (fun _ => tracks.freshIds injective nonempty)
  refine ⟨run, honest, ?_, moved_own generate _ _ _, ?_, ?_, unacknowledged_nil.mpr (by simp [Foreign])⟩
  · intro key present
    by_contra absent
    simp only [List.map_append, List.mem_append, not_or] at absent
    rcases absent with ⟨⟨notSynced, notPulled⟩, notRebased⟩
    by_cases old : key ∈ pending.map Transaction.uuid
    · exact present (Store.transaction?_adopted_old record' old)
    · have same : device'.repo.transaction? record.uuid key = device.repo.transaction? record.uuid key :=
        Store.transaction?_adopted_absent record' notPulled notRebased old
      rw [same] at present
      have known := tracks.stored key present
      rw [List.map_append, List.mem_append] at known
      exact known.elim notSynced old
  · intro n used
    rw [List.append_nil, List.map_append, List.mem_append] at used
    rcases used with kept | renamed
    · have before : n < device.generated := by
        apply tracks.drawn n
        simp only [List.map_append, List.mem_append] at kept ⊢
        rcases kept with synced | pulled
        · exact .inl (.inl synced)
        · exact .inr pulled
      simp only [device']
      omega
    · rcases List.mem_map.mp renamed with ⟨tx, member, same⟩
      rcases mem_moved _ _ _ member with ⟨m, _, upper, drawn⟩
      have equal := injective (same.symm.trans drawn)
      simp only [device']
      omega
  · rw [contentsOf_append, contentsOf_foreign generate foreign, List.append_nil,
      moved_content generate _ _ pending]
    exact tracks.logged

theorem pushed (tracks : Tracks id generate server device record serverRecord synced pending [] log []) :
    Tracks id generate (server.received serverRecord pending)
      { device with repo := device.repo.putAccount record.synchronized } record.synchronized
      (serverRecord.extended pending) (synced ++ pending) [] [] log [] := by
  refine ⟨tracks.toHonest.pushed, ?_, by simp [Own], ?_, ?_, unacknowledged_nil.mpr (by simp [Foreign])⟩
  · intro key present
    rw [List.append_nil]
    exact tracks.stored key present
  · intro n used
    apply tracks.drawn n
    simpa using used
  · rw [contentsOf_append, contentsOf_own generate tracks.own]
    simpa using tracks.logged

theorem unacknowledged
    (tracks : Tracks id generate server device record serverRecord synced pending [] log lost) :
    Tracks id generate (server.received serverRecord pending) device record (serverRecord.extended pending)
      synced pending pending log pending := by
  have extra := tracks.toHonest.extends_pending
  refine ⟨?_, tracks.stored, tracks.own, ?_, tracks.logged, ?_⟩
  · have honest := tracks.toHonest.extended (by simpa using extra)
    simpa using honest
  · intro n used
    apply tracks.drawn n
    simp only [List.map_append, List.mem_append, List.map_nil, List.not_mem_nil, or_false] at used ⊢
    rcases used with before | again
    · exact before
    · exact .inr again
  · exact ⟨[], [], by simp, by simp, by simp [Foreign]⟩

end Tracks

end Flouze
