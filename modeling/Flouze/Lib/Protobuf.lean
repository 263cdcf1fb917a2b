import Mathlib.Data.List.Defs

/-! The wire format of protocol buffers: a message is a sequence of numbered fields. -/

namespace Protobuf

/-- What a field holds on the wire. Text and messages inside messages are bytes. -/
inductive Value where
  | varint (n : Nat)
  | fixed64 (data : Vector UInt8 8)
  | bytes (data : List UInt8)
  | fixed32 (data : Vector UInt8 4)
deriving DecidableEq

abbrev Field := Nat × Value

/-- Seven bits a byte, the lowest first. All bytes but the last have their highest bit set. -/
def encodeVarint (n : Nat) : List UInt8 :=
  if n < 128 then [UInt8.ofNat n] else UInt8.ofNat (n % 128 + 128) :: encodeVarint (n / 128)
termination_by n
decreasing_by omega

def decodeVarint : List UInt8 → Option (Nat × List UInt8)
  | [] => none
  | byte :: rest =>
    if byte.toNat < 128 then some (byte.toNat, rest)
    else do
      let (high, rest) ← decodeVarint rest
      some (byte.toNat % 128 + 128 * high, rest)

def encodeField : Field → List UInt8
  | (number, .varint n) => encodeVarint (number * 8) ++ encodeVarint n
  | (number, .fixed64 data) => encodeVarint (number * 8 + 1) ++ data.toList
  | (number, .bytes data) => encodeVarint (number * 8 + 2) ++ encodeVarint data.length ++ data
  | (number, .fixed32 data) => encodeVarint (number * 8 + 5) ++ data.toList

def takeFixed (n : Nat) (data : List UInt8) : Option (Vector UInt8 n × List UInt8) :=
  if enough : n ≤ data.length then some (⟨(data.take n).toArray, by simpa using Nat.min_eq_left enough⟩, data.drop n)
  else none

/-- The key of a field is its number and, in the lowest three bits, how its value is written. -/
def decodeField (data : List UInt8) : Option (Field × List UInt8) := do
  let (key, data) ← decodeVarint data
  match key % 8 with
  | 0 =>
    let (n, data) ← decodeVarint data
    some ((key / 8, .varint n), data)
  | 1 =>
    let (bits, data) ← takeFixed 8 data
    some ((key / 8, .fixed64 bits), data)
  | 2 =>
    let (length, data) ← decodeVarint data
    if data.length < length then none else some ((key / 8, .bytes (data.take length)), data.drop length)
  | 5 =>
    let (bits, data) ← takeFixed 4 data
    some ((key / 8, .fixed32 bits), data)
  -- groups are not read
  | _ => none

def encodeFields (fields : List Field) : List UInt8 := fields.flatMap encodeField

def decodeFieldsFrom : Nat → List UInt8 → Option (List Field)
  | _, [] => some []
  | 0, _ :: _ => none
  | fuel + 1, byte :: data => do
    let (field, data) ← decodeField (byte :: data)
    let fields ← decodeFieldsFrom fuel data
    some (field :: fields)

def decodeFields (data : List UInt8) : Option (List Field) := decodeFieldsFrom data.length data

theorem encodeVarint_ne_nil (n : Nat) : encodeVarint n ≠ [] := by
  rw [encodeVarint]
  split <;> simp

theorem decodeVarint_encodeVarint (n : Nat) (rest : List UInt8) :
    decodeVarint (encodeVarint n ++ rest) = some (n, rest) := by
  induction n using encodeVarint.induct with
  | case1 n small =>
    have byte : (UInt8.ofNat n).toNat = n := by
      rw [UInt8.toNat_ofNat']
      omega
    rw [encodeVarint, if_pos small]
    simp [decodeVarint, byte, small]
  | case2 n large ih =>
    have byte : (UInt8.ofNat (n % 128 + 128)).toNat = n % 128 + 128 := by
      rw [UInt8.toNat_ofNat']
      omega
    have continues : ¬ n % 128 + 128 < 128 := by omega
    rw [encodeVarint, if_neg large, List.cons_append, decodeVarint, byte, if_neg continues, ih]
    have whole : n % 128 + 128 * (n / 128) = n := by omega
    simp [whole]

theorem takeFixed_append {n : Nat} (data : Vector UInt8 n) (rest : List UInt8) :
    takeFixed n (data.toList ++ rest) = some (data, rest) := by
  have enough : n ≤ (data.toList ++ rest).length := by simp
  rcases data with ⟨bytes, rfl⟩
  rw [takeFixed, dif_pos enough]
  simp [Vector.toList]

theorem decodeField_encodeField (field : Field) (rest : List UInt8) :
    decodeField (encodeField field ++ rest) = some (field, rest) := by
  rcases field with ⟨number, value⟩
  cases value with
  | varint n =>
    have wire : number * 8 % 8 = 0 := by omega
    have at_number : number * 8 / 8 = number := by omega
    rw [encodeField, List.append_assoc, decodeField, decodeVarint_encodeVarint]
    simp [wire, at_number, decodeVarint_encodeVarint]
  | fixed64 data =>
    have wire : (number * 8 + 1) % 8 = 1 := by omega
    have at_number : (number * 8 + 1) / 8 = number := by omega
    rw [encodeField, List.append_assoc, decodeField, decodeVarint_encodeVarint]
    simp [wire, at_number, takeFixed_append]
  | fixed32 data =>
    have wire : (number * 8 + 5) % 8 = 5 := by omega
    have at_number : (number * 8 + 5) / 8 = number := by omega
    rw [encodeField, List.append_assoc, decodeField, decodeVarint_encodeVarint]
    simp [wire, at_number, takeFixed_append]
  | bytes data =>
    have wire : (number * 8 + 2) % 8 = 2 := by omega
    have at_number : (number * 8 + 2) / 8 = number := by omega
    rw [encodeField, List.append_assoc, List.append_assoc, decodeField, decodeVarint_encodeVarint]
    simp [wire, at_number, decodeVarint_encodeVarint]

theorem encodeField_ne_nil (field : Field) : encodeField field ≠ [] := by
  rcases field with ⟨number, value⟩
  cases value <;> simp [encodeField, encodeVarint_ne_nil]

theorem decodeFieldsFrom_encodeFields (fields : List Field) {fuel : Nat}
    (enough : (encodeFields fields).length ≤ fuel) :
    decodeFieldsFrom fuel (encodeFields fields) = some fields := by
  induction fields generalizing fuel with
  | nil => cases fuel <;> rfl
  | cons field fields ih =>
    have split : encodeFields (field :: fields) = encodeField field ++ encodeFields fields := rfl
    rcases List.exists_cons_of_ne_nil (encodeField_ne_nil field) with ⟨byte, data, written⟩
    have decoded := decodeField_encodeField field (encodeFields fields)
    rw [split, written, List.cons_append, List.length_cons, List.length_append] at enough
    obtain ⟨fuel, rfl⟩ : ∃ n, fuel = n + 1 := ⟨fuel - 1, by omega⟩
    rw [written, List.cons_append] at decoded
    rw [split, written, List.cons_append, decodeFieldsFrom, decoded]
    simp [ih (show (encodeFields fields).length ≤ fuel by omega)]

theorem decodeFields_encodeFields (fields : List Field) :
    decodeFields (encodeFields fields) = some fields :=
  decodeFieldsFrom_encodeFields fields (Nat.le_refl _)

section Messages

/-- Fields that have their default value are left out. -/
def varintField (number n : Nat) : List Field := if n = 0 then [] else [(number, .varint n)]

def bytesField (number : Nat) (data : List UInt8) : List Field :=
  if data = [] then [] else [(number, .bytes data)]

variable {α ε : Type}

theorem foldlM_varintField {merge : α → Field → Except ε α} {number n : Nat} {x y : α} {rest : List Field}
    (absent : n = 0 → x = y) (merges : merge x (number, .varint n) = .ok y) :
    (varintField number n ++ rest).foldlM merge x = rest.foldlM merge y := by
  unfold varintField
  split
  · next zero => rw [absent zero, List.nil_append]
  · rw [List.cons_append, List.nil_append, List.foldlM_cons, merges]
    rfl

theorem foldlM_bytesField {merge : α → Field → Except ε α} {number : Nat} {data : List UInt8} {x y : α}
    {rest : List Field} (absent : data = [] → x = y) (merges : merge x (number, .bytes data) = .ok y) :
    (bytesField number data ++ rest).foldlM merge x = rest.foldlM merge y := by
  unfold bytesField
  split
  · next none => rw [absent none, List.nil_append]
  · rw [List.cons_append, List.nil_append, List.foldlM_cons, merges]
    rfl

theorem foldlM_repeated {β : Type} {merge : α → Field → Except ε α} {number : Nat} {encode : β → List UInt8}
    {add : α → β → α} (merges : ∀ x item, merge x (number, .bytes (encode item)) = .ok (add x item))
    (items : List β) (x : α) (rest : List Field) :
    ((items.map fun item => (number, Value.bytes (encode item))) ++ rest).foldlM merge x =
      rest.foldlM merge (items.foldl add x) := by
  induction items generalizing x with
  | nil => rfl
  | cons item items ih =>
    rw [List.map_cons, List.cons_append, List.foldlM_cons, merges]
    exact ih (add x item)

end Messages

end Protobuf
