import BeanRegistry.Program

set_option autoImplicit false

namespace BeanRegistry.Program

variable {Operation : Type} {Answer : Operation → Type} {Result Other : Type}

def Every (Allowed : Operation → Prop) : Program Operation Answer Result → Prop
  | .done _ => True
  | .ask operation next => Allowed operation ∧ ∀ answer, (next answer).Every Allowed

theorem every_bind {Allowed : Operation → Prop} {program : Program Operation Answer Result}
    {next : Result → Program Operation Answer Other} (first : program.Every Allowed)
    (rest : ∀ result, (next result).Every Allowed) : (program.bind next).Every Allowed := by
  induction program with
  | done result => exact rest result
  | ask operation _ ih => exact ⟨first.1, fun answer => ih answer (first.2 answer)⟩

inductive AtMost (Counted : Operation → Prop) : Nat → Program Operation Answer Result → Prop where
  | done {count : Nat} (result : Result) : AtMost Counted count (.done result)
  | pass {count : Nat} {operation : Operation} {next : Answer operation → Program Operation Answer Result}
      (uncounted : ¬ Counted operation) (rest : ∀ answer, AtMost Counted count (next answer)) :
      AtMost Counted count (.ask operation next)
  | spend {count : Nat} {operation : Operation} {next : Answer operation → Program Operation Answer Result}
      (rest : ∀ answer, AtMost Counted count (next answer)) :
      AtMost Counted (count + 1) (.ask operation next)

variable {Counted : Operation → Prop} {program : Program Operation Answer Result}

theorem AtMost.weaken {count larger : Nat} (bounded : program.AtMost Counted count)
    (order : count ≤ larger) : program.AtMost Counted larger := by
  induction bounded generalizing larger with
  | done result => exact .done result
  | pass uncounted _ ih => exact .pass uncounted fun answer => ih answer order
  | spend _ ih =>
    obtain ⟨rest, rfl⟩ := Nat.exists_eq_add_of_lt order
    exact .spend fun answer => ih answer (by omega)

theorem atMost_bind {next : Result → Program Operation Answer Other} {first second : Nat}
    (before : program.AtMost Counted first) (after : ∀ result, (next result).AtMost Counted second) :
    (program.bind next).AtMost Counted (first + second) := by
  induction before with
  | done result => exact (after result).weaken (Nat.le_add_left _ _)
  | pass uncounted _ ih => exact .pass uncounted ih
  | spend _ ih =>
    rw [Nat.add_right_comm]
    exact .spend ih

theorem none_bind {next : Result → Program Operation Answer Other} {count : Nat}
    (before : program.AtMost Counted 0) (after : ∀ result, (next result).AtMost Counted count) :
    (program.bind next).AtMost Counted count := by
  simpa using atMost_bind before after

theorem bind_none {next : Result → Program Operation Answer Other} {count : Nat}
    (before : program.AtMost Counted count) (after : ∀ result, (next result).AtMost Counted 0) :
    (program.bind next).AtMost Counted count :=
  atMost_bind before after

end BeanRegistry.Program
