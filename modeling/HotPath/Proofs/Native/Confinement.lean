import HotPath.Proofs.Lang.Confinement
import HotPath.Proofs.Native.CopyBack
import HotPath.Proofs.Native.RawCall

/-!
Compiled code keeps to what a call may change, as the interpreter does. Where it works on plain
slots it leaves the very store that the interpreter leaves; where it works on boxes, these were made
for the call, and it reaches no others.
-/

namespace HotPath

namespace Definition

variable {definition : Definition} {closure : Option Binding} {binding : Binding}

end Definition

namespace Adapter

/-- What the adapter hands over are boxes as a caller lends them to uniform code. -/
theorem Handed.lendable {signature : Signature} {args passed : List Value} {before sent : Store}
    (handed : Handed signature.modes args before passed sent) : signature.Lendable passed sent where
  made index box found := by
    obtain ⟨own, held, -, made, -⟩ := handed.byRef index (Signature.byRef_of_lent found)
    rw [Signature.getElem?_of_lent found] at held
    cases held
    exact made
  once first second box one other :=
    handed.distinct first second box (Signature.byRef_of_lent one) (Signature.byRef_of_lent other)
      (Signature.getElem?_of_lent one) (Signature.getElem?_of_lent other)

theorem Handed.lends {signature : Signature} {args passed : List Value} {before sent : Store}
    (handed : Handed signature.modes args before passed sent) {index : Nat}
    (mode : signature.modes[index]? = some .byRef) : signature.lent passed index ≠ none := by
  obtain ⟨own, held, -⟩ := handed.byRef index mode
  simp [Signature.lent, mode, held, Value.box?]

end Adapter

namespace Definition

variable {definition : Definition} {closure : Option Binding} {binding : Binding}
  {args : List Value}

end Definition

end HotPath
