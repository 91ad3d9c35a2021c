import HotPath.Proofs.Native.CopyBack

/-!
Selection and resolution are two rules for the same relation: the entry points that resolve for a
signature are those of the shape it selects, and an adapter stands exactly in front of code whose
selection is not exact.
-/

namespace HotPath

namespace Signature

variable (signature : Signature)

theorem arity_selectShape : signature.selectShape.shape.arity = signature.arity := by
  rcases signature.selectShape_cases with ⟨selected, -, modes⟩ | ⟨selected, -⟩ | selected
  · rw [selected, ← length_modes, modes]
    rfl
  · rw [selected]
    cases signature.isVoid <;> rfl
  · rw [selected]
    rfl

theorem isVoid_iff : signature.isVoid = true ↔ signature.returns = .void := by
  simp [isVoid]

/-- The signatures that are served without an adapter. -/
theorem selectShape_exact :
    signature.selectShape.exact = true ↔
      (∀ parameter ∈ signature.params, parameter.mode = .byValue) ∧
          signature.params.length ≤ 16 ∨
        signature.returns = .void ∧
          signature.params.map (·.mode) = [.byRef, .byRef] := by
  have pair : (signature.returns = .void ∧ signature.params.map (·.mode) = [.byRef, .byRef]) ↔
      signature.isVoid = true ∧ signature.arity = 2 ∧ signature.byRefIndices.length = 2 :=
    and_congr signature.isVoid_iff.symm signature.modes_eq_pair
  rw [pair, ← length_byRefIndices_eq_zero]
  by_cases both : signature.isVoid = true ∧ signature.arity = 2 ∧
      signature.byRefIndices.length = 2
  · simp [selectShape, both]
  · by_cases plain : signature.byRefIndices.length = 0 ∧ signature.arity ≤ maxDirectArity
    · have exact : signature.selectShape.exact = true := by
        simp only [selectShape, if_neg both, if_pos plain]
      exact iff_of_true exact (.inl plain)
    · have boxed : signature.selectShape.exact = false := by
        simp only [selectShape, if_neg both, if_neg plain]
      exact iff_of_false (by simp [boxed]) (not_or.mpr ⟨plain, both⟩)

end Signature

namespace CompiledEntry

/-- An entry made of an entry point: the entry point itself if the selection is exact,
and otherwise uniform code behind an adapter with the modes of the signature. -/
inductive MadeOf (signature : Signature) : NativeFn → CompiledEntry → Prop where
  | direct {native : NativeFn} (exact : signature.selectShape.exact = true) :
    MadeOf signature native (.direct native)
  | adapted {run : Callee Value} (boxed : signature.selectShape.exact = false) :
    MadeOf signature (.uniform signature.arity (!signature.isVoid) run)
      (.adapted ⟨signature.modes, !signature.isVoid, run⟩)

structure Fits (signature : Signature) (entry : CompiledEntry) : Prop where
  shape : entry.shape = signature.selectShape.shape
  adapted : entry.isAdapted = !signature.selectShape.exact

variable {signature : Signature} {native : NativeFn} {entry : CompiledEntry}

namespace MadeOf

theorem shape_eq (made : MadeOf signature native entry) : entry.shape = native.shape := by
  cases made with
  | direct => rfl
  | adapted => simp [CompiledEntry.shape, NativeFn.shape, Signature.length_modes]

theorem isAdapted_eq (made : MadeOf signature native entry) :
    entry.isAdapted = !signature.selectShape.exact := by
  cases made with
  | direct exact => simp [isAdapted, exact]
  | adapted boxed => simp [isAdapted, boxed]

end MadeOf

/-- Resolution gives an entry for code of the selected shape, and for no other. -/
theorem resolve_eq_ok :
    resolve signature native = .ok entry ↔
      native.shape = signature.selectShape.shape ∧ MadeOf signature native entry := by
  cases exact : signature.selectShape.exact with
  | true =>
    constructor
    · intro resolved
      simp only [resolve, exact, ↓reduceIte] at resolved
      split at resolved
      next same =>
        cases resolved
        exact ⟨same, .direct exact⟩
      next => cases resolved
    · rintro ⟨same, made⟩
      cases made with
      | direct => simp [resolve, exact, same]
      | adapted boxed => simp [exact] at boxed
  | false =>
    -- Only uniform shapes are not exact, so the adapter's test is the selected shape.
    have selected : signature.selectShape =
        ⟨.uniform signature.arity (!signature.isVoid), false⟩ := by
      rcases signature.selectShape_cases with ⟨selected, -⟩ | ⟨selected, -⟩ | selected
      · simp [selected] at exact
      · simp [selected] at exact
      · exact selected
    constructor
    · intro resolved
      simp only [resolve, exact, Bool.false_eq_true, ↓reduceIte] at resolved
      cases fitted : Adapter.fit signature native with
      | error mismatch => simp [fitted, Except.map] at resolved
      | ok adapter =>
        obtain ⟨run, rfl, rfl⟩ := Adapter.fit_eq_ok.mp fitted
        simp only [fitted, Except.map, Except.ok.injEq] at resolved
        subst resolved
        rw [selected]
        exact ⟨rfl, .adapted exact⟩
    · rintro ⟨-, made⟩
      cases made with
      | direct direct => simp [exact] at direct
      | @adapted run =>
        have fitted : Adapter.fit signature (.uniform signature.arity (!signature.isVoid) run) =
            .ok ⟨signature.modes, !signature.isVoid, run⟩ :=
          Adapter.fit_eq_ok.mpr ⟨run, rfl, rfl⟩
        simp [resolve, exact, fitted, Except.map]

theorem resolve_of_shape (same : native.shape = signature.selectShape.shape) :
    ∃ entry, resolve signature native = .ok entry ∧ entry.Fits signature := by
  have madeOf {entry : CompiledEntry} (made : MadeOf signature native entry) :
      ∃ entry, resolve signature native = .ok entry ∧ entry.Fits signature :=
    ⟨entry, resolve_eq_ok.mpr ⟨same, made⟩, made.shape_eq.trans same, made.isAdapted_eq⟩
  cases exact : signature.selectShape.exact with
  | true => exact madeOf (.direct exact)
  | false =>
    rcases signature.selectShape_cases with ⟨selected, -⟩ | ⟨selected, -⟩ | selected
    · simp [selected] at exact
    · simp [selected] at exact
    · rw [selected] at same
      cases native with
      | func | action | actionRef2 => cases same
      | uniform =>
        cases same
        exact madeOf (.adapted exact)

/-- A refusal names the signature and the shape of the code, in either branch. -/
theorem resolve_error {mismatch : Mismatch}
    (refused : resolve signature native = .error mismatch) :
    mismatch = ⟨signature, native.shape⟩ := by
  simp only [resolve] at refused
  split at refused
  · split at refused
    · cases refused
    · exact (Except.error.inj refused).symm
  · cases native with
    | func | action | actionRef2 => exact (Except.error.inj refused).symm
    | uniform =>
      simp only [Adapter.fit] at refused
      split at refused
      · cases refused
      · exact (Except.error.inj refused).symm

theorem resolve_of_other_shape (other : native.shape ≠ signature.selectShape.shape) :
    resolve signature native = .error ⟨signature, native.shape⟩ := by
  cases result : resolve signature native with
  | ok entry => exact absurd (resolve_eq_ok.mp result).1 other
  | error mismatch => rw [resolve_error result]

theorem resolve_ok (resolved : resolve signature native = .ok entry) :
    native.shape = signature.selectShape.shape ∧ entry.Fits signature := by
  obtain ⟨same, made⟩ := resolve_eq_ok.mp resolved
  exact ⟨same, made.shape_eq.trans same, made.isAdapted_eq⟩

/-- The shape that a signature selects is the one that resolution takes, for every signature and
every entry point. -/
theorem resolves_as_selected (signature : Signature) (native : NativeFn) :
    signature.selectShape.shape.arity = signature.params.length ∧
    (signature.selectShape.exact = true ↔
      (∀ parameter ∈ signature.params, parameter.mode = .byValue) ∧
          signature.params.length ≤ 16 ∨
        signature.returns = .void ∧
          signature.params.map (·.mode) = [.byRef, .byRef]) ∧
    ((∃ entry, resolve signature native = .ok entry) ↔
      native.shape = signature.selectShape.shape) ∧
    (∀ entry, resolve signature native = .ok entry →
      MadeOf signature native entry ∧
      (entry.isAdapted = true ↔ signature.selectShape.exact = false) ∧
      entry.shape = native.shape) ∧
    ∀ mismatch, resolve signature native = .error mismatch →
      mismatch = ⟨signature, native.shape⟩ ∧
      mismatch.message =
        s!"Signature mismatch: native shape {native.shape.display} cannot serve " ++
          signature.display := by
  refine ⟨signature.arity_selectShape, signature.selectShape_exact, ?_, ?_, ?_⟩
  · constructor
    · rintro ⟨entry, resolved⟩
      exact (resolve_eq_ok.mp resolved).1
    · intro same
      obtain ⟨entry, resolved, -⟩ := resolve_of_shape same
      exact ⟨entry, resolved⟩
  · intro entry resolved
    have made := (resolve_eq_ok.mp resolved).2
    refine ⟨made, ?_, made.shape_eq⟩
    rw [made.isAdapted_eq, Bool.not_eq_true']
  · intro mismatch refused
    obtain rfl := resolve_error refused
    exact ⟨rfl, rfl⟩

end CompiledEntry

end HotPath
