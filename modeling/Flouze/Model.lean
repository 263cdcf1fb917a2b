import Mathlib.Data.List.Defs

namespace Flouze

abbrev AccountId := List UInt8
abbrev TransactionId := List UInt8
abbrev PersonId := List UInt8

structure PayedBy where
  person : PersonId
  amount : UInt32
deriving DecidableEq

structure PayedFor where
  person : PersonId
  amount : UInt32
deriving DecidableEq

structure Transaction where
  uuid : TransactionId
  parent : TransactionId
  amount : UInt32
  payedBy : List PayedBy
  payedFor : List PayedFor
  label : String
  timestamp : UInt64
  deleted : Bool
  replaces : TransactionId
deriving DecidableEq

structure Person where
  uuid : PersonId
  name : String
deriving DecidableEq

structure Account where
  uuid : AccountId
  label : String
  latestTransaction : TransactionId
  latestSynchronizedTransaction : TransactionId
  members : List Person
deriving DecidableEq

inductive ErrorKind where
  | noSuchAccount (id : AccountId)
  | noSuchTransaction (id : TransactionId)
  | storage (text : String)
  | invalidEncoding (text : String)
  | mustRebase
  | inconsistentChain
  | inconsistentServerResponse
  | duplicateTransactionId (id : TransactionId)
  | jsonRpcClientError (text : String)
deriving DecidableEq

def makeAccount (uuid : AccountId) : Account := ⟨uuid, "Account", [], [], []⟩

def makeTransaction (uuid parent : TransactionId) : Transaction := ⟨uuid, parent, 0, [], [], "", 0, false, []⟩

/-- What is left of a transaction when it is moved in the history. -/
def Transaction.content (tx : Transaction) : Transaction := { tx with uuid := [], parent := [] }

section Content

variable {tx tx' : Transaction}

theorem deleted_of_content (same : tx.content = tx'.content) : tx.deleted = tx'.deleted :=
  show tx.content.deleted = tx'.content.deleted by rw [same]

theorem replaces_of_content (same : tx.content = tx'.content) : tx.replaces = tx'.replaces :=
  show tx.content.replaces = tx'.content.replaces by rw [same]

end Content

end Flouze
