/-!
# Finite interactions

A program that talks to collaborators is a tree: it is finished, or it asks one question and
goes on with the reply. Nothing is performed while the tree is built, so the same program can
be run against a simulated world, a recorded script or a live cluster.
-/

set_option autoImplicit false

namespace Registrar

/-- The questions of one kind of conversation, and the type of the reply to each. -/
structure Signature where
  Question : Type
  Reply : Question → Type

/-- A computation that asks the questions of `signature` before it yields a value.
Every branch is finite, so every interpretation of it ends. -/
inductive Interaction (signature : Signature) (α : Type) where
  | done (value : α)
  | ask (question : signature.Question)
      (resume : signature.Reply question → Interaction signature α)

namespace Interaction

variable {signature other : Signature} {α β : Type}

/-- Continue with `next` once the first interaction is finished. -/
def bind (first : Interaction signature α) (next : α → Interaction signature β) :
    Interaction signature β :=
  match first with
  | done value => next value
  | ask question resume => ask question fun reply => (resume reply).bind next

instance : Monad (Interaction signature) where
  pure := done
  bind := bind

def request (question : signature.Question) : Interaction signature (signature.Reply question) :=
  ask question done

def interpret {m : Type → Type} [Monad m]
    (answer : (question : signature.Question) → m (signature.Reply question)) :
    Interaction signature α → m α
  | done value => pure value
  | ask question resume => do
      let reply ← answer question
      (resume reply).interpret answer

def translate
    (answer : (question : signature.Question) → Interaction other (signature.Reply question))
    (program : Interaction signature α) : Interaction other α :=
  program.interpret answer

@[simp]
theorem pure_eq_done (value : α) : (pure value : Interaction signature α) = done value :=
  rfl

@[simp]
theorem done_bind (value : α) (next : α → Interaction signature β) :
    (done value >>= next) = next value :=
  rfl

@[simp]
theorem ask_bind (question : signature.Question)
    (resume : signature.Reply question → Interaction signature α)
    (next : α → Interaction signature β) :
    (ask question resume >>= next) = ask question fun reply => resume reply >>= next :=
  rfl

/-- Binding with the finished interaction changes nothing. -/
theorem bind_done (program : Interaction signature α) : (program >>= done) = program := by
  induction program with
  | done value => rfl
  | ask question resume ih => exact congrArg (ask question) (funext ih)

/-- Sequencing is associative, whatever the questions asked on the way. -/
theorem bind_bind {γ : Type} (program : Interaction signature α)
    (next : α → Interaction signature β) (last : β → Interaction signature γ) :
    ((program >>= next) >>= last) = (program >>= fun value => next value >>= last) := by
  induction program with
  | done value => rfl
  | ask question resume ih => exact congrArg (ask question) (funext ih)

instance : LawfulMonad (Interaction signature) :=
  LawfulMonad.mk' (Interaction signature) bind_done (fun _ _ => rfl) bind_bind

/-- An interpretation respects sequencing. -/
theorem interpret_bind {m : Type → Type} [Monad m] [LawfulMonad m]
    (answer : (question : signature.Question) → m (signature.Reply question))
    (program : Interaction signature α) (next : α → Interaction signature β) :
    (program >>= next).interpret answer =
      (program.interpret answer >>= fun value => (next value).interpret answer) := by
  induction program with
  | done value => simp [interpret]
  | ask question resume ih => simp [interpret, ih]

end Interaction

end Registrar
