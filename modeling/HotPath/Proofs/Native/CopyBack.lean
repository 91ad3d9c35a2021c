import HotPath.Proofs.Native.Agreement

/-!
What the adapter hands to the code it wraps and what it takes back, whatever that code does with
the boxes it was given: every by-reference argument is copied into a box of its own and copied back
from it, also when the code ends with an error.
-/

namespace HotPath

namespace Adapter

/-- What the code is handed for the arguments of a call: by value the argument itself, by
reference a box of its own, made for this call, that holds it. -/
structure Handed (modes : List PassMode) (args : List Value) (before : Store)
    (passed : List Value) (sent : Store) : Prop where
  length : passed.length = modes.length
  byValue : ∀ index : Nat, modes[index]? = some .byValue → passed[index]? = args[index]?
  byRef : ∀ index : Nat, modes[index]? = some .byRef → ∃ box,
    passed[index]? = some (.ref box) ∧ ¬ before.HasBox box ∧ sent.HasBox box ∧
      args[index]? = some (sent.readBox box)
  distinct : ∀ (first second : Nat) (box : BoxId),
    modes[first]? = some .byRef → modes[second]? = some .byRef →
      passed[first]? = some (.ref box) → passed[second]? = some (.ref box) → first = second
  cells : sent.cells = before.cells
  boxes : ∀ box, before.HasBox box → sent.HasBox box ∧ sent.readBox box = before.readBox box

/-- What is left of a call whose code left the store `after`: the by-reference slots hold what
their boxes held, and all else is as the code left it. -/
structure TakenBack (modes : List PassMode) (args passed : List Value) (before after : Store)
    (reply : Reply) : Prop where
  length : reply.slots.length = args.length
  byValue : ∀ index : Nat, modes[index]? = some .byValue → reply.slots[index]? = args[index]?
  byRef : ∀ (index : Nat) (box : BoxId), modes[index]? = some .byRef →
    passed[index]? = some (.ref box) → reply.slots[index]? = some (after.readBox box)
  cells : reply.store.cells = after.cells
  boxes : ∀ box, before.HasBox box → reply.store.readBox box = after.readBox box

section Boxes

variable {modes : List PassMode} {index : Nat}

theorem boxOf_of_byValue (base : Nat) (mode : modes[index]? = some .byValue) :
    boxOf base modes index = none := by
  have unboxed := boxOf_isSome base modes index
  simp only [mode] at unboxed
  exact Option.isNone_iff_eq_none.mp (by rw [← Option.not_isSome, unboxed]; rfl)

theorem boxOf_of_byRef (base : Nat) (mode : modes[index]? = some .byRef) :
    ∃ made, boxOf base modes index = some made :=
  Option.isSome_iff_exists.mp (by rw [boxOf_isSome, mode]; rfl)

theorem not_hasBox_of_boxOf {store : Store} {made : Nat}
    (boxed : boxOf store.frameBoxes.size modes index = some made) :
    ¬ store.HasBox (.frame made) := Nat.not_lt.mpr (le_of_boxOf boxed)

end Boxes

theorem boxArgs_handed (store : Store) (modes : List PassMode) (args : List Value)
    (fits : args.length = modes.length) :
    Handed modes args store (boxArgs store modes args).1 (boxArgs store modes args).2 := by
  have boxed := boxArgs_boxed store modes args fits
  obtain ⟨made, after⟩ := boxArgs_frameBoxes store modes args
  refine ⟨boxed.length.trans fits, ?_, ?_, ?_, ?_, ?_⟩
  · intro index mode
    exact boxed.slot index (boxOf_of_byValue _ mode)
  · intro index mode
    obtain ⟨own, found⟩ := boxOf_of_byRef store.frameBoxes.size mode
    exact ⟨.frame own, boxed.box index own found, not_hasBox_of_boxOf found,
      boxed.made index own found, boxed.contents index own found⟩
  · intro first second box one other first' second'
    obtain ⟨own, found⟩ := boxOf_of_byRef store.frameBoxes.size one
    obtain ⟨its, owned⟩ := boxOf_of_byRef store.frameBoxes.size other
    rw [boxed.box first own found] at first'
    rw [boxed.box second its owned, ← first'] at second'
    obtain rfl : its = own := by simpa using second'
    exact boxOf_injective found owned
  · rw [after]
  · rintro (index | index) owned
    · exact ⟨by rw [after]; exact owned, by rw [after]; rfl⟩
    · have earlier : index < store.frameBoxes.size := owned
      refine ⟨?_, ?_⟩
      · simp only [after, Store.HasBox, Array.size_append]
        omega
      · simp [after, Store.readBox, Array.getElem?_append_left earlier]

section Unboxing

variable {base : Nat} {modes : List PassMode} {args passed : List Value} {before sender : Store}

/-- Emptying the boxes that were sent puts what each holds into its slot, whatever the code left
in the store: they are distinct, so none is emptied before its turn. -/
theorem unboxArgs_slots (sent : Boxed (boxOf base modes) args before passed sender)
    (fits : args.length = modes.length) (store : Store) (index : Nat) :
    (unboxArgs store modes passed args).1[index]? =
      (boxOf base modes index).elim args[index]? fun made =>
        some (store.readBox (.frame made)) := by
  induction modes generalizing base args passed store index with
  | nil => simp [unboxArgs, boxOf]
  | cons mode modes ih =>
    obtain ⟨arg, args, rfl⟩ := List.exists_cons_of_length_eq_add_one fits
    obtain ⟨sending, passed, rfl⟩ := List.exists_cons_of_length_eq_add_one sent.length
    have fewer : args.length = modes.length := Nat.succ.inj fits
    cases mode with
    | byValue =>
      cases index with
      | zero => rfl
      | succ index => exact ih sent.tailValue fewer store index
    | byRef =>
      obtain rfl : sending = .ref (.frame base) := Option.some.inj (sent.box 0 base rfl)
      cases index with
      | zero => rfl
      | succ index =>
        refine (ih sent.tailRef fewer (store.writeBox (.frame base) .unit) index).trans ?_
        simp only [boxOf, List.getElem?_cons_succ]
        cases found : boxOf (base + 1) modes index with
        | none => rfl
        | some made =>
          have later := le_of_boxOf found
          have apart : BoxId.frame base ≠ .frame made := by
            rintro ⟨⟩
            omega
          simp only [Option.elim_some, Store.readBox_writeBox_of_ne store apart]

theorem unboxArgs_store (sent : Boxed (boxOf base modes) args before passed sender)
    (fits : args.length = modes.length) (store : Store) :
    (unboxArgs store modes passed args).2.cells = store.cells ∧
      ∀ box, (∀ index made, boxOf base modes index = some made → box ≠ .frame made) →
        (unboxArgs store modes passed args).2.readBox box = store.readBox box := by
  induction modes generalizing base args passed store with
  | nil => exact ⟨rfl, fun _ _ => rfl⟩
  | cons mode modes ih =>
    obtain ⟨arg, args, rfl⟩ := List.exists_cons_of_length_eq_add_one fits
    obtain ⟨sending, passed, rfl⟩ := List.exists_cons_of_length_eq_add_one sent.length
    have fewer : args.length = modes.length := Nat.succ.inj fits
    cases mode with
    | byValue =>
      obtain ⟨cells, boxes⟩ := ih sent.tailValue fewer store
      exact ⟨cells, fun box other => boxes box fun index => other (index + 1)⟩
    | byRef =>
      obtain rfl : sending = .ref (.frame base) := Option.some.inj (sent.box 0 base rfl)
      obtain ⟨cells, boxes⟩ := ih sent.tailRef fewer (store.writeBox (.frame base) .unit)
      refine ⟨cells.trans (store.cells_writeBox _ _), fun box other => ?_⟩
      have apart : BoxId.frame base ≠ box := (other 0 base rfl).symm
      exact (boxes box fun index => other (index + 1)).trans
        (store.readBox_writeBox_of_ne apart .unit)

theorem length_unboxArgs (modes : List PassMode) (passed slots : List Value) (store : Store) :
    (unboxArgs store modes passed slots).1.length = slots.length := by
  fun_induction unboxArgs store modes passed slots with
  | case1 store modes value passed slot slots rest after split ih => simp_all
  | case2 store modes box passed slot slots value emptied taken rest after split ih => simp_all
  | case3 => rfl

end Unboxing

/-- A call of the adapter once the code it wraps is back. -/
theorem call_takenBack {adapter : Adapter} {args : List Value}
    (fits : args.length = adapter.modes.length) {rounds : Nat} {before after : Store}
    {outcome : Outcome Value}
    (ran : adapter.target rounds (boxArgs before adapter.modes args).1
      (boxArgs before adapter.modes args).2 = (outcome, after)) :
    TakenBack adapter.modes args (boxArgs before adapter.modes args).1 before after
        (adapter.call rounds args before) ∧
      (adapter.call rounds args before).outcome =
        if adapter.returns then outcome else outcome.map fun _ => .unit := by
  have sent := boxArgs_boxed before adapter.modes args fits
  obtain ⟨cells, others⟩ := unboxArgs_store sent fits after
  have called : adapter.call rounds args before =
      ⟨if adapter.returns then outcome else outcome.map fun _ => .unit,
        (unboxArgs after adapter.modes (boxArgs before adapter.modes args).1 args).1,
        (unboxArgs after adapter.modes (boxArgs before adapter.modes args).1 args).2⟩ := by
    simp only [call, ran]
  rw [called]
  refine ⟨⟨length_unboxArgs .., ?_, ?_, cells, ?_⟩, rfl⟩
  · intro index mode
    refine (unboxArgs_slots sent fits after index).trans ?_
    rw [boxOf_of_byValue _ mode, Option.elim_none]
  · intro index box mode holds
    obtain ⟨made, found⟩ := boxOf_of_byRef before.frameBoxes.size mode
    obtain rfl : BoxId.frame made = box := by simpa [sent.box index made found] using holds
    refine (unboxArgs_slots sent fits after index).trans ?_
    rw [found, Option.elim_some]
  · intro box owned
    refine others box fun index made found => ?_
    rintro rfl
    exact not_hasBox_of_boxOf found owned

theorem fit_eq_ok {signature : Signature} {native : NativeFn} {adapter : Adapter} :
    fit signature native = .ok adapter ↔ ∃ run,
      native = .uniform signature.arity (!signature.isVoid) run ∧
        adapter = ⟨signature.modes, !signature.isVoid, run⟩ := by
  constructor
  · intro fits
    cases native with
    | uniform arity returns run =>
      simp only [fit] at fits
      split at fits
      next agree =>
        obtain ⟨rfl, rfl⟩ := agree
        exact ⟨run, rfl, (Except.ok.inj fits).symm⟩
      next => cases fits
    | _ => cases fits
  · rintro ⟨run, rfl, rfl⟩
    simp [fit]

/-- The adapter passes arguments by reference as copies in fresh boxes, copies these back into
their slots however the code ends, and passes its end on. -/
theorem call_copies (signature : Signature) {args : List Value}
    (arity : args.length = signature.arity) (before : Store) :
    ∃ passed sent, Handed signature.modes args before passed sent ∧
      ∀ native adapter, fit signature native = .ok adapter →
        ∃ run, native = .uniform signature.arity (!signature.isVoid) run ∧
          ∀ rounds after,
            (∀ value, run rounds passed sent = (.value value, after) →
              TakenBack signature.modes args passed before after
                (adapter.call rounds args before) ∧
              (adapter.call rounds args before).outcome =
                .value (if signature.isVoid then .unit else value)) ∧
            ∀ fault, run rounds passed sent = (.fault fault, after) →
              TakenBack signature.modes args passed before after
                (adapter.call rounds args before) ∧
              (adapter.call rounds args before).outcome = .fault fault := by
  have fits : args.length = signature.modes.length := arity.trans signature.length_modes.symm
  refine ⟨_, _, boxArgs_handed before signature.modes args fits, ?_⟩
  intro native adapter fitted
  obtain ⟨run, rfl, rfl⟩ := fit_eq_ok.mp fitted
  let adapter : Adapter := ⟨signature.modes, !signature.isVoid, run⟩
  refine ⟨run, rfl, fun rounds after => ⟨fun value ran => ?_, fun fault ran => ?_⟩⟩
  · obtain ⟨back, ended⟩ := adapter.call_takenBack fits ran
    refine ⟨back, ended.trans ?_⟩
    cases void : signature.isVoid <;> simp [adapter, void, Outcome.map]
  · obtain ⟨back, ended⟩ := adapter.call_takenBack fits ran
    refine ⟨back, ended.trans ?_⟩
    cases void : signature.isVoid <;> simp [adapter, void, Outcome.map]

/-- Code that puts its second argument into its first box, moves it on into its last
one, clears the first, and ends with an error. -/
def passOn : Callee Value := fun _ passed store =>
  match passed with
  | [.ref first, label, .ref last] =>
    let store := store.writeBox first label
    let store := store.writeBox last (store.readBox first)
    (.fault (.raised label), store.writeBox first .unit)
  | _ => (.value .unit, store)

/-- A caller that passes one box of its own in both by-reference positions. -/
theorem call_copies_passOn :
    let signature : Signature :=
      ⟨[⟨"first", .byRef⟩, ⟨"label", .byValue⟩, ⟨"last", .byRef⟩], .value⟩
    let args : List Value := [.ref (.host 0), .int 3, .ref (.host 0)]
    let before : Store := { hostBoxes := #[.int 5] }
    let adapter : Adapter := ⟨[.byRef, .byValue, .byRef], true, passOn⟩
    args.length = signature.arity ∧ fit signature (.uniform 3 true passOn) = .ok adapter ∧
      (adapter.call 0 args before).outcome = .fault (.raised (.int 3)) ∧
      (adapter.call 0 args before).slots[1]? = some (.int 3) ∧
      ∃ passed sent after, Handed signature.modes args before passed sent ∧
        passOn 0 passed sent = (.fault (.raised (.int 3)), after) ∧
        TakenBack signature.modes args passed before after (adapter.call 0 args before) := by
  intro signature args before adapter
  have arity : args.length = signature.arity := rfl
  have fitted : fit signature (.uniform 3 true passOn) = .ok adapter := rfl
  obtain ⟨passed, sent, handed, copies⟩ := call_copies signature arity before
  obtain ⟨run, same, back⟩ := copies _ adapter fitted
  obtain rfl : passOn = run := by injection same
  obtain ⟨first, ofFirst, -⟩ := handed.byRef 0 rfl
  obtain ⟨last, ofLast, -⟩ := handed.byRef 2 rfl
  have ofLabel := handed.byValue 1 rfl
  have three : passed = [.ref first, .int 3, .ref last] := by
    match passed, handed.length with
    | [_, _, _], _ => simp_all [args]
  have ran := congrArg (passOn 0 · sent) three
  have ended := (back 0 _).2 _ ran
  exact ⟨arity, fitted, ended.2, ended.1.byValue 1 rfl, passed, sent, _, handed, ran, ended.1⟩

end Adapter

end HotPath
