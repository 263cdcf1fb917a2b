import Flouze.Bindings.Messages
import Flouze.Isolation

namespace Flouze

open Repository

section Reads

variable {codec : Codec} {repo : SledRepository codec} {store : Store} {id : AccountId}

end Reads

namespace Bindings

section Bytes

variable {ε σ α β : Type} {repo : σ}

theorem view_bind (routine : Routine σ ε α) (next : α → Outcome ε β) (repo : σ) :
    (routine >>= fun value => Routine.view fun _ => next value) repo = ((routine repo).1 >>= next, (routine repo).2) := by
  cases run : routine repo with
  | mk outcome repo' =>
    cases outcome with
    | ok value => exact Routine.bind_ok run
    | err error => exact Routine.bind_err run
    | hang => exact Routine.bind_hang run

theorem pure_bind_run (routine : Routine σ ε α) (result : α → β) (repo : σ) :
    (routine >>= fun value => pure (result value)) repo =
      ((routine repo).1 >>= fun value => .ok (result value), (routine repo).2) :=
  view_bind routine (fun value => .ok (result value)) repo

end Bytes

section Requests

variable {σ : Type} [Repository σ] {messages : Messages} (inverts : messages.Inverts) (order : IterationOrder)

include inverts

end Requests

section Hashes

end Hashes

section Refinement

variable {codec : Codec} {repo : SledRepository codec} {store : Store} {messages : Messages} {id : AccountId}

end Refinement

end Bindings

end Flouze
