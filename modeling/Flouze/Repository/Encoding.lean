import Flouze.Lib.Protobuf
import Flouze.Repository.Sled

namespace Flouze

open Protobuf

/-! The messages of `flouze.proto` in the wire format, to run the model with: the results are about any codec
    that inverts. -/

def encodeText (text : String) : Bytes := text.toUTF8.data.toList

def decodeText (data : Bytes) : Except String String :=
  match String.fromUTF8? ⟨⟨data⟩⟩ with
  | some text => .ok text
  | none => .error "invalid string value: data is not UTF-8 encoded"

/-- Fields of other numbers are skipped, and known ones have to be written in the right way. -/
def otherField {α : Type} (last : Nat) (message : α) (field : Field) : Except String α :=
  if field.1 ≤ last then .error "invalid wire type" else .ok message

def decodeMessage {α : Type} (merge : α → Field → Except String α) (default : α) (data : Bytes) : Except String α :=
  match decodeFields data with
  | some fields => fields.foldlM merge default
  | none => .error "invalid varint"

def payedByFields (p : PayedBy) : List Field := bytesField 1 p.person ++ varintField 2 p.amount.toNat

def mergePayedBy (p : PayedBy) : Field → Except String PayedBy
  | (1, .bytes data) => .ok { p with person := data }
  | (2, .varint n) => .ok { p with amount := UInt32.ofNat n }
  | field => otherField 2 p field

def decodePayedBy (data : Bytes) : Except String PayedBy := decodeMessage mergePayedBy ⟨[], 0⟩ data

def payedForFields (p : PayedFor) : List Field := bytesField 1 p.person ++ varintField 2 p.amount.toNat

def mergePayedFor (p : PayedFor) : Field → Except String PayedFor
  | (1, .bytes data) => .ok { p with person := data }
  | (2, .varint n) => .ok { p with amount := UInt32.ofNat n }
  | field => otherField 2 p field

def decodePayedFor (data : Bytes) : Except String PayedFor := decodeMessage mergePayedFor ⟨[], 0⟩ data

def personFields (person : Person) : List Field :=
  bytesField 1 person.uuid ++ bytesField 2 (encodeText person.name)

def mergePerson (person : Person) : Field → Except String Person
  | (1, .bytes data) => .ok { person with uuid := data }
  | (2, .bytes data) => do
    let name ← decodeText data
    .ok { person with name := name }
  | field => otherField 2 person field

def decodePerson (data : Bytes) : Except String Person := decodeMessage mergePerson ⟨[], ""⟩ data

def transactionFields (tx : Transaction) : List Field :=
  bytesField 1 tx.uuid ++ (bytesField 2 tx.parent ++ (varintField 3 tx.amount.toNat ++
    ((tx.payedBy.map fun p => (4, Value.bytes (encodeFields (payedByFields p)))) ++
      ((tx.payedFor.map fun p => (5, Value.bytes (encodeFields (payedForFields p)))) ++
        (bytesField 6 (encodeText tx.label) ++ (varintField 7 tx.timestamp.toNat ++
          (varintField 8 tx.deleted.toNat ++ (bytesField 9 tx.replaces ++ []))))))))

def mergeTransaction (tx : Transaction) : Field → Except String Transaction
  | (1, .bytes data) => .ok { tx with uuid := data }
  | (2, .bytes data) => .ok { tx with parent := data }
  | (3, .varint n) => .ok { tx with amount := UInt32.ofNat n }
  | (4, .bytes data) => do
    let p ← decodePayedBy data
    .ok { tx with payedBy := tx.payedBy ++ [p] }
  | (5, .bytes data) => do
    let p ← decodePayedFor data
    .ok { tx with payedFor := tx.payedFor ++ [p] }
  | (6, .bytes data) => do
    let label ← decodeText data
    .ok { tx with label := label }
  | (7, .varint n) => .ok { tx with timestamp := UInt64.ofNat n }
  | (8, .varint n) => .ok { tx with deleted := n ≠ 0 }
  | (9, .bytes data) => .ok { tx with replaces := data }
  | field => otherField 9 tx field

def accountFields (account : Account) : List Field :=
  bytesField 1 account.uuid ++ (bytesField 2 (encodeText account.label) ++
    (bytesField 3 account.latestTransaction ++ (bytesField 4 account.latestSynchronizedTransaction ++
      ((account.members.map fun m => (5, Value.bytes (encodeFields (personFields m)))) ++ []))))

def mergeAccount (account : Account) : Field → Except String Account
  | (1, .bytes data) => .ok { account with uuid := data }
  | (2, .bytes data) => do
    let label ← decodeText data
    .ok { account with label := label }
  | (3, .bytes data) => .ok { account with latestTransaction := data }
  | (4, .bytes data) => .ok { account with latestSynchronizedTransaction := data }
  | (5, .bytes data) => do
    let member ← decodePerson data
    .ok { account with members := account.members ++ [member] }
  | field => otherField 5 account field

/-- The codec of the records: an empty message has all fields at their defaults. -/
def protobuf : Codec where
  encodeAccount account := encodeFields (accountFields account)
  decodeAccount := decodeMessage mergeAccount ⟨[], "", [], [], []⟩
  encodeTransaction tx := encodeFields (transactionFields tx)
  decodeTransaction := decodeMessage mergeTransaction ⟨[], [], 0, [], [], "", 0, false, []⟩

theorem decodeText_encodeText (text : String) : decodeText (encodeText text) = .ok text := by
  have bytes : (⟨⟨encodeText text⟩⟩ : ByteArray) = text.toUTF8 := rfl
  have valid : text.toUTF8.IsValidUTF8 := text.isValidUTF8
  rw [decodeText, bytes, String.fromUTF8?, dif_pos valid]
  rfl

theorem eq_empty_of_encodeText {text : String} (nothing : encodeText text = []) : text = "" := by
  have empty : encodeText "" = [] := rfl
  have same := decodeText_encodeText text
  rw [nothing, ← empty, decodeText_encodeText] at same
  exact (Except.ok.inj same).symm

theorem decodeMessage_encode {α : Type} (merge : α → Field → Except String α) (default : α) (fields : List Field) :
    decodeMessage merge default (encodeFields fields) = fields.foldlM merge default := by
  rw [decodeMessage, decodeFields_encodeFields]

theorem eq_zero_of_amount {amount : UInt32} (zero : amount.toNat = 0) : amount = 0 := UInt32.toNat_inj.mp zero

theorem eq_zero_of_timestamp {timestamp : UInt64} (zero : timestamp.toNat = 0) : timestamp = 0 :=
  UInt64.toNat_inj.mp zero

theorem decodePayedBy_encode (p : PayedBy) : decodePayedBy (encodeFields (payedByFields p)) = .ok p := by
  rw [decodePayedBy, decodeMessage_encode, payedByFields,
    foldlM_bytesField (y := ⟨p.person, 0⟩) (fun empty => by rw [empty]) rfl,
    ← List.append_nil (varintField _ _),
    foldlM_varintField (y := p) (fun zero => by rw [← eq_zero_of_amount zero]) (by simp [mergePayedBy])]
  rfl

theorem decodePayedFor_encode (p : PayedFor) : decodePayedFor (encodeFields (payedForFields p)) = .ok p := by
  rw [decodePayedFor, decodeMessage_encode, payedForFields,
    foldlM_bytesField (y := ⟨p.person, 0⟩) (fun empty => by rw [empty]) rfl,
    ← List.append_nil (varintField _ _),
    foldlM_varintField (y := p) (fun zero => by rw [← eq_zero_of_amount zero]) (by simp [mergePayedFor])]
  rfl

theorem decodePerson_encode (person : Person) : decodePerson (encodeFields (personFields person)) = .ok person := by
  rw [decodePerson, decodeMessage_encode, personFields,
    foldlM_bytesField (y := ⟨person.uuid, ""⟩) (fun empty => by rw [empty]) rfl,
    ← List.append_nil (bytesField _ _),
    foldlM_bytesField (y := person) (fun empty => by rw [← eq_empty_of_encodeText empty])
      (by simp only [mergePerson, decodeText_encodeText]; rfl)]
  rfl

theorem mergeAccount_fields (account : Account) :
    (accountFields account).foldlM mergeAccount ⟨[], "", [], [], []⟩ = .ok account := by
  have members : ∀ (more : List Person) (before : Account),
      more.foldl (fun account m => { account with members := account.members ++ [m] }) before =
        { before with members := before.members ++ more } := by
    intro more
    induction more with
    | nil => simp
    | cons m more ih => simp [ih]
  rw [accountFields,
    foldlM_bytesField (y := ⟨account.uuid, "", [], [], []⟩) (fun empty => by rw [empty]) rfl,
    foldlM_bytesField (y := ⟨account.uuid, account.label, [], [], []⟩)
      (fun empty => by rw [eq_empty_of_encodeText empty])
      (by simp only [mergeAccount, decodeText_encodeText]; rfl),
    foldlM_bytesField (y := ⟨account.uuid, account.label, account.latestTransaction, [], []⟩)
      (fun empty => by rw [empty]) rfl,
    foldlM_bytesField (y := { account with members := [] }) (fun empty => by rw [empty]) rfl,
    foldlM_repeated (fun account m => by simp only [mergeAccount, decodePerson_encode]; rfl), members]
  rfl

theorem mergeTransaction_fields (tx : Transaction) :
    (transactionFields tx).foldlM mergeTransaction ⟨[], [], 0, [], [], "", 0, false, []⟩ = .ok tx := by
  have payers : ∀ (more : List PayedBy) (before : Transaction),
      more.foldl (fun tx p => { tx with payedBy := tx.payedBy ++ [p] }) before =
        { before with payedBy := before.payedBy ++ more } := by
    intro more
    induction more with
    | nil => simp
    | cons p more ih => simp [ih]
  have payees : ∀ (more : List PayedFor) (before : Transaction),
      more.foldl (fun tx p => { tx with payedFor := tx.payedFor ++ [p] }) before =
        { before with payedFor := before.payedFor ++ more } := by
    intro more
    induction more with
    | nil => simp
    | cons p more ih => simp [ih]
  rw [transactionFields,
    foldlM_bytesField (y := ⟨tx.uuid, [], 0, [], [], "", 0, false, []⟩) (fun empty => by rw [empty]) rfl,
    foldlM_bytesField (y := ⟨tx.uuid, tx.parent, 0, [], [], "", 0, false, []⟩)
      (fun empty => by rw [empty]) rfl,
    foldlM_varintField (y := ⟨tx.uuid, tx.parent, tx.amount, [], [], "", 0, false, []⟩)
      (fun zero => by rw [eq_zero_of_amount zero]) (by simp [mergeTransaction]),
    foldlM_repeated (fun tx p => by simp only [mergeTransaction, decodePayedBy_encode]; rfl), payers,
    foldlM_repeated (fun tx p => by simp only [mergeTransaction, decodePayedFor_encode]; rfl), payees,
    foldlM_bytesField (y := { tx with timestamp := 0, deleted := false, replaces := [] })
      (fun empty => by rw [eq_empty_of_encodeText empty]; rfl)
      (by simp only [mergeTransaction, decodeText_encodeText]; rfl),
    foldlM_varintField (y := { tx with deleted := false, replaces := [] })
      (fun zero => by rw [← eq_zero_of_timestamp zero]) (by simp [mergeTransaction]),
    foldlM_varintField (y := { tx with replaces := [] })
      (fun zero => by
        cases deleted : tx.deleted with
        | false => rfl
        | true => simp [deleted] at zero)
      (by cases deleted : tx.deleted <;> simp [mergeTransaction]),
    foldlM_bytesField (y := tx) (fun empty => by rw [← empty]) rfl]
  rfl

theorem protobuf_inverts : protobuf.Inverts :=
  ⟨fun account => (decodeMessage_encode _ _ _).trans (mergeAccount_fields account),
    fun tx => (decodeMessage_encode _ _ _).trans (mergeTransaction_fields tx)⟩

end Flouze
