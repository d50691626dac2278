set_option autoImplicit false

namespace BeanRegistry

inductive Program (Operation : Type) (Answer : Operation → Type) (Result : Type) where
  | done (result : Result)
  | ask (operation : Operation) (next : Answer operation → Program Operation Answer Result)

namespace Program

variable {Operation : Type} {Answer : Operation → Type} {Result Other Last : Type}

def bind : Program Operation Answer Result → (Result → Program Operation Answer Other) →
    Program Operation Answer Other
  | .done result, next => next result
  | .ask operation rest, next => .ask operation fun answer => (rest answer).bind next

instance : Monad (Program Operation Answer) where
  pure := .done
  bind := bind

theorem bind_eq (program : Program Operation Answer Result)
    (next : Result → Program Operation Answer Other) : program >>= next = program.bind next :=
  rfl

def request (operation : Operation) : Program Operation Answer (Answer operation) :=
  .ask operation .done

theorem bind_done (program : Program Operation Answer Result) :
    program.bind .done = program := by
  induction program with
  | done result => rfl
  | ask operation rest ih => simp [bind, ih]

theorem bind_assoc (program : Program Operation Answer Result)
    (next : Result → Program Operation Answer Other)
    (last : Other → Program Operation Answer Last) :
    (program.bind next).bind last = program.bind fun result => (next result).bind last := by
  induction program with
  | done result => rfl
  | ask operation rest ih => simp [bind, ih]

def run {Context : Type → Type} [Monad Context]
    (handle : (operation : Operation) → Context (Answer operation)) :
    Program Operation Answer Result → Context Result
  | .done result => pure result
  | .ask operation next => handle operation >>= fun answer => (next answer).run handle

theorem run_bind {Context : Type → Type} [Monad Context] [LawfulMonad Context]
    (handle : (operation : Operation) → Context (Answer operation))
    (program : Program Operation Answer Result) (next : Result → Program Operation Answer Other) :
    (program.bind next).run handle =
      program.run handle >>= fun result => (next result).run handle := by
  induction program with
  | done result => simp [bind, run]
  | ask operation rest ih => simp [bind, run, ih]

end Program
end BeanRegistry
