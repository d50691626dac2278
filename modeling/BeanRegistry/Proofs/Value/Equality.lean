import BeanRegistry.Proofs.Floating.Number
import BeanRegistry.Value

set_option autoImplicit false

namespace BeanRegistry

variable {Content : Type}

def Kind.Same : (kind : Kind) → kind.Carrier Content → kind.Carrier Content → Prop
  | .void, _, _ => True
  | .bool, left, right => left = right
  | .int8, left, right => left = right
  | .int16, left, right => left = right
  | .int32, left, right => left = right
  | .int64, left, right => left = right
  | .float32, left, right => ∃ number,
    Floating.single.number? left.toNat = some number ∧ Floating.single.number? right.toNat = some number
  | .float64, left, right => ∃ number,
    Floating.double.number? left.toNat = some number ∧ Floating.double.number? right.toNat = some number
  | .char, left, right => left = right
  | .object, left, right => left.identity = right.identity

def Kind.Alike (kind : Kind) : Except ChainFailure (kind.Carrier Content) →
    Except ChainFailure (kind.Carrier Content) → Prop
  | .ok left, .ok right => kind.Same left right
  | .error left, .error right => left = right
  | _, _ => False

namespace Kind

variable {kind : Kind} {left middle right : kind.Carrier Content}

theorem Same.symm (same : kind.Same left right) : kind.Same right left := by
  cases kind with
  | void => trivial
  | float32 | float64 =>
    obtain ⟨number, first, second⟩ := same
    exact ⟨number, second, first⟩
  | _ => exact Eq.symm same

theorem Same.trans (first : kind.Same left middle) (second : kind.Same middle right) :
    kind.Same left right := by
  cases kind with
  | void => trivial
  | float32 | float64 =>
    obtain ⟨number, lefts, middles⟩ := first
    obtain ⟨other, again, rights⟩ := second
    cases middles.symm.trans again
    exact ⟨number, lefts, rights⟩
  | _ => exact Eq.trans first second

end Kind

namespace Value

def IsNaN : Value Content → Prop
  | .float32 pattern => 0x7f800000 < pattern &&& 0x7fffffff
  | .float64 pattern => 0x7ff0000000000000 < pattern &&& 0x7fffffffffffffff
  | _ => False

variable {kind : Kind} {left middle right value : Value Content}

theorem equal_wrap_iff (first second : kind.Carrier Content) :
    (wrap kind first).equal (wrap kind second) = true ↔ kind.Same first second := by
  cases kind with
  | void => exact iff_of_true rfl trivial
  | float32 => exact Floating.Format.equal_iff first.toNat_lt second.toNat_lt (by decide)
  | float64 => exact Floating.Format.equal_iff first.toNat_lt second.toNat_lt (by decide)
  | _ => exact beq_iff_eq

theorem kind_of_equal (equal : left.equal right = true) : left.kind = right.kind := by
  cases left <;> cases right <;> first | rfl | cases equal

theorem equal_iff : left.equal right = true ↔
    ∃ kind first second, left = wrap kind first ∧ right = wrap kind second ∧ kind.Same first second := by
  constructor
  · intro equal
    obtain ⟨first, split⟩ := kind_eq_iff.mp (kind_of_equal equal)
    obtain ⟨second, other⟩ := kind_eq_iff.mp (Eq.refl right.kind)
    refine ⟨_, first, second, split, other, (equal_wrap_iff first second).mp ?_⟩
    rwa [← split, ← other]
  · rintro ⟨kind, first, second, rfl, rfl, same⟩
    exact (equal_wrap_iff first second).mpr same

theorem equal_symm (equal : left.equal right = true) : right.equal left = true := by
  obtain ⟨kind, first, second, rfl, rfl, same⟩ := equal_iff.mp equal
  exact (equal_wrap_iff second first).mpr same.symm

theorem equal_trans (before : left.equal middle = true) (after : middle.equal right = true) :
    left.equal right = true := by
  obtain ⟨kind, first, second, rfl, rfl, same⟩ := equal_iff.mp before
  obtain ⟨third, rfl⟩ := kind_eq_iff.mp ((kind_of_equal after).symm.trans (kind_wrap second))
  exact (equal_wrap_iff first third).mpr (same.trans ((equal_wrap_iff second third).mp after))

theorem equal_self_iff : value.equal value = true ↔ ¬ value.IsNaN := by
  cases value with
  | float32 pattern =>
    change Floating.single.equal _ _ = true ↔ ¬ (_ < _)
    rw [← Floating.Format.single_isNaN_iff]
    simp [Floating.Format.equal]
  | float64 pattern =>
    change Floating.double.equal _ _ = true ↔ ¬ (_ < _)
    rw [← Floating.Format.double_isNaN_iff]
    simp [Floating.Format.equal]
  | _ => simp [equal, IsNaN]

theorem unwrap_alike (equal : left.equal right = true) (kind : Kind) :
    kind.Alike (left.unwrap kind) (right.unwrap kind) := by
  obtain ⟨own, first, second, rfl, rfl, same⟩ := equal_iff.mp equal
  by_cases wanted : own = kind
  · subst wanted
    rw [unwrap_wrap, unwrap_wrap]
    exact same
  · have apart (carried : own.Carrier Content) : (wrap own carried).kind ≠ kind := by
      rwa [kind_wrap]
    rw [unwrap_mismatch (apart first), unwrap_mismatch (apart second), kind_wrap, kind_wrap]
    rfl

theorem equality_stays_in_kinds (left middle right : Value Content) :
    (left.equal right = true → right.equal left = true) ∧
    (left.equal middle = true → middle.equal right = true → left.equal right = true) ∧
    (left.equal right = true → left.kind = right.kind) ∧
    (left.equal left = true ↔ ¬ left.IsNaN) ∧
    (∀ first second : Object Content,
      (Value.object first).equal (.object second) = true ↔ first.identity = second.identity) ∧
    (left.equal right = true → ∀ kind : Kind, kind.Alike (left.unwrap kind) (right.unwrap kind)) ∧
    (left.equal right = true ↔
      ∃ kind first second, left = wrap kind first ∧ right = wrap kind second ∧ kind.Same first second) :=
  ⟨equal_symm, equal_trans, kind_of_equal, equal_self_iff,
    fun first second => @equal_wrap_iff Content .object first second, unwrap_alike, equal_iff⟩

theorem zeros_stay_in_kind :
    let zero : Value Unit := .float32 0
    let negative : Value Unit := .float32 0x80000000
    zero.equal negative = true ∧ negative.equal zero = true ∧ zero.equal zero = true ∧
      zero.kind = negative.kind ∧ Kind.float32.Alike (zero.unwrap .float32) (negative.unwrap .float32) ∧
      Kind.int32.Alike (zero.unwrap .int32) (negative.unwrap .int32) := by
  intro zero negative
  have equal : zero.equal negative = true := by decide
  obtain ⟨flips, joins, within, _, _, alike, _⟩ := equality_stays_in_kinds zero negative negative
  obtain ⟨_, around, _⟩ := equality_stays_in_kinds zero negative zero
  exact ⟨equal, flips equal, around equal (flips equal), within equal, alike equal .float32,
    alike equal .int32⟩

end Value

end BeanRegistry
