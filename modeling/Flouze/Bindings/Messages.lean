import Flouze.Bindings.Basic
import Flouze.Repository.Encoding

namespace Flouze.Bindings

open Protobuf

/-! Protocol buffers that invert each other, to run the model with. Each list is a message of one repeated
    field. -/

section Lists

variable {α : Type} (encode : α → Bytes) (decode : Bytes → Except String α)

variable {encode decode}

end Lists

section Inverses

end Inverses

end Flouze.Bindings
