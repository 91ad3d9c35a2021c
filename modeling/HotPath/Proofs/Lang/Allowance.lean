import HotPath.Lang.Interpreter

/-!
The allowance of loop tests is no part of a finished call: a larger one changes nothing about a call
that a smaller one let come to an end.
-/

namespace HotPath

namespace Run

variable {α β : Type}

/-- The second run does what the first does, wherever the first does not run out
of loop tests. -/
def ExtendedBy (shorter longer : Run α) : Prop :=
  ∀ frame, (∃ left, shorter frame = .error .exhausted left) ∨ longer frame = shorter frame

theorem ExtendedBy.refl (run : Run α) : ExtendedBy run run := fun _ => .inr rfl

theorem ExtendedBy.bind {shorter longer : Run α} {next next' : α → Run β}
    (head : ExtendedBy shorter longer) (tail : ∀ value, ExtendedBy (next value) (next' value)) :
    ExtendedBy (shorter >>= next) (longer >>= next') := by
  intro frame
  simp only [Bind.bind, EStateM.bind]
  rcases head frame with ⟨left, out⟩ | same
  · exact .inl ⟨left, by rw [out]⟩
  · rw [same]
    cases shorter frame with
    | ok value after => exact tail value after
    | error stop after => exact .inr rfl

theorem ExtendedBy.whileTrue {test test' : Run Bool} {body body' : Run Value}
    (tests : ExtendedBy test test') (bodies : ExtendedBy body body') {rounds more : Nat}
    (larger : rounds ≤ more) :
    ExtendedBy (Run.whileTrue test body rounds) (Run.whileTrue test' body' more) := by
  induction rounds generalizing more with
  | zero => exact fun frame => .inl ⟨frame, rfl⟩
  | succ rounds ih =>
    obtain ⟨fewer, rfl⟩ : ∃ fewer, more = fewer + 1 := ⟨more - 1, by omega⟩
    apply tests.bind
    intro holds
    cases holds with
    | false => exact .refl _
    | true => exact bodies.bind fun _ => ih (Nat.le_of_succ_le_succ larger)

end Run

open Run (ExtendedBy)

variable {rounds more : Nat}

namespace Expr

mutual

theorem eval_extendedBy (larger : rounds ≤ more) (binding : Binding) :
    ∀ e : Expr, ExtendedBy (e.eval rounds binding) (e.eval more binding)
  | .const _ => .refl _
  | .readParam _ => .refl _
  | .readLocal _ => .refl _
  | .readCapture _ => .refl _
  | .writeParam _ e => (eval_extendedBy larger binding e).bind fun _ => .refl _
  | .writeLocal _ e => (eval_extendedBy larger binding e).bind fun _ => .refl _
  | .writeCapture _ e => (eval_extendedBy larger binding e).bind fun _ => .refl _
  | .unary _ e => (eval_extendedBy larger binding e).bind fun _ => .refl _
  | .binary _ a b => (eval_extendedBy larger binding a).bind fun _ =>
      (eval_extendedBy larger binding b).bind fun _ => .refl _
  | .ifElse test yes no => by
    refine (eval_extendedBy larger binding test).bind fun _ => ?_
    refine ExtendedBy.bind (.refl _) fun holds => ?_
    cases holds with
    | false => exact eval_extendedBy larger binding no
    | true => exact eval_extendedBy larger binding yes
  | .whileLoop test body => by
    refine .whileTrue ?_ (eval_extendedBy larger binding body) larger
    exact (eval_extendedBy larger binding test).bind fun _ => .refl _
  | .block items => evalBlock_extendedBy larger binding items .unit
  | .ret e => (eval_extendedBy larger binding e).bind fun _ => .refl _
  | .raise e => (eval_extendedBy larger binding e).bind fun _ => .refl _

theorem evalBlock_extendedBy (larger : rounds ≤ more) (binding : Binding) :
    ∀ (items : List Expr) (last : Value),
      ExtendedBy (evalBlock rounds binding last items) (evalBlock more binding last items)
  | [], _ => .refl _
  | e :: rest, _ => (eval_extendedBy larger binding e).bind fun value =>
      evalBlock_extendedBy larger binding rest value

end

end Expr

end HotPath
