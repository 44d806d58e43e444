/-
# Proofs.Evm.Sealing — machines that leave the ledger as it is

In a read-only frame an attempt to change the ledger halts the frame
(`execute_of_attempt`), and the frames that it enters are read-only again. A frame
that may write is no danger either while its instructions are calm: they leave the
ledger alone, and what they enter is read-only (`leaves_of_calm`). So a machine
whose lowest frame runs calm code is sealed: above that frame all are read-only,
the ledger is the one it started with, and so is every ledger to go back to. A step
keeps it sealed (`Sealed.step`), hence a run does (`Sealed.after`, `Sealed.run`).
-/
import ReleaseGate.Proofs.Evm.Runs

namespace ReleaseGate.Evm

set_option autoImplicit false

/-! ## Attempts to change the ledger -/

theorem Stack.pops_of_peek? {s : Stack} {value : Word} (asked : s.peek? 2 = some value) :
    ∃ a b s₁ s₂, s.pop2? = some (a, b, s₁) ∧ s₁.pop? = some (value, s₂) := by
  obtain ⟨items, room, fits⟩ := s
  match items, fits, asked with
  | a :: b :: _ :: rest, fits, asked =>
      cases asked
      exact ⟨a, b, _, _, rfl, rfl⟩

namespace Frame

variable {f later : Frame} {block : Block} {w world : World}

/-- Whether a frame is about to change the ledger: by an instruction that does, or
by a call that pays the account it calls. -/
def AttemptsChange (f : Frame) : Prop :=
  match f.code.instructionAt f.place with
  | .sstore | .tstore | .log _ | .create | .create2 | .selfDestruct => True
  | .call .call => ∃ value, f.stack.peek? 2 = some value ∧ value ≠ 0
  | _ => False

theorem mayWrite_readOnly (readOnly : f.message.readOnly = true) :
    f.mayWrite = .error .readOnly := if_pos readOnly

/-- A call that pays is refused before its other operands are looked at. -/
theorem callOperands_of_payment {value : Word} (readOnly : f.message.readOnly = true)
    (asked : f.stack.peek? 2 = some value) (pays : value ≠ 0) :
    f.callOperands .call = .error .readOnly := by
  obtain ⟨price, target, stack, rest, first, second⟩ := Stack.pops_of_peek? asked
  have operands : f.pop2 = .ok (price, target, { f with stack := stack }) := by
    simp only [pop2, first]
  have taken : { f with stack := stack }.popValue .call =
      .ok (value, { f with stack := rest }) := by
    simp only [popValue, takesValue, if_true, pop, second]
  have refused : { f with stack := rest }.mayPay .call value = .error .readOnly := by
    rw [mayPay, if_pos ⟨rfl, pays⟩]
    exact mayWrite_readOnly readOnly
  rw [callOperands, operands, bind_ok]
  simp only [taken, bind_ok, refused, bind_error]

/-- **In a read-only frame an attempt to change the ledger halts the frame.** -/
theorem execute_of_attempt (readOnly : f.message.readOnly = true) (attempts : f.AttemptsChange) :
    f.execute block w = .error .readOnly := by
  have refused := mayWrite_readOnly readOnly
  unfold AttemptsChange at attempts
  unfold execute
  generalize f.code.instructionAt f.place = instruction at attempts ⊢
  cases instruction with
  | sstore => simp only [sstore, refused, bind_error]
  | tstore => simp only [tstore, refused, bind_error]
  | log topics => simp only [log, refused, bind_error]
  | create => simp only [refused, bind_error]
  | create2 => simp only [refused, bind_error]
  | selfDestruct => simp only [selfDestruct, refused, bind_error]
  | call kind =>
      cases kind with
      | call =>
          obtain ⟨value, asked, pays⟩ := attempts
          simp only [call, callOperands_of_payment readOnly asked pays, bind_error]
      | callCode | delegateCall | staticCall => exact attempts.elim
  | _ => exact attempts.elim

/-- What a storage slot is read as is what the ledger holds for it. -/
theorem execute_sload (here : f.code.instructionAt f.place = .sload)
    (ran : f.execute block w = .ok (.go later world)) :
    ∃ key stack, f.stack.pop? = some (key, stack) ∧
      later.stack.pop? = some (w.ledger.stored (f.message.self, key), stack) := by
  simp only [execute, here, sload, bind_eq_ok, pure_eq_ok, Prod.exists, Turn.go.injEq] at ran
  obtain ⟨key, f₁, popped, f₂, paid, f₃, answered, rfl, -⟩ := ran
  unfold pop at popped
  split at popped
  · next stack top =>
      cases popped
      unfold pay at paid
      split at paid
      · cases paid
        unfold answer at answered
        split at answered
        · next pushed =>
            cases answered
            exact ⟨_, _, top, Stack.pop?_push? pushed⟩
        · cases answered
      · cases paid
  · cases popped

end Frame

/-! ## Calm instructions -/

/-- Whether an instruction leaves the ledger alone in any frame, and enters
read-only frames only. -/
def Instruction.isCalm : Instruction → Bool
  | .sstore | .tstore | .log _ | .create | .create2 | .selfDestruct => false
  | .call kind => kind = .staticCall
  | _ => true

/-- Code that is calm at every place, operands of pushes included. -/
def Code.IsCalm (code : Code) : Prop := ∀ place, (code.instructionAt place).isCalm = true

/-- Code is calm if its bytes are; behind them it stops. -/
theorem Code.isCalm_of_bytes {code : Code}
    (bytes : ∀ place < code.bytes.size, (code.instructionAt place).isCalm = true) :
    code.IsCalm := by
  intro place
  by_cases inside : place < code.bytes.size
  · exact bytes place inside
  · have stops : code.instructionAt place = .stop := dif_neg inside
    rw [stops]
    rfl

/-- What comes of an instruction leaves the ledger as it was, to go back to as well,
and a frame that is entered is read-only. -/
def Turn.Leaves (ledger : Ledger) : Turn → Prop
  | .go _ world => world.ledger = ledger
  | .enter _ child _ _ saved world =>
      child.message.readOnly = true ∧ saved.ledger = ledger ∧ world.ledger = ledger
  | .finish _ world => world.ledger = ledger

namespace Frame

variable {f : Frame} {block : Block} {w : World} {t : Turn} {ledger : Ledger}

/-- Whatever turn a computation comes to leaves the ledger as it was. -/
def Leaves (ledger : Ledger) (x : Except Halt Turn) : Prop := ∀ t, x = .ok t → t.Leaves ledger

theorem Leaves.bind {α : Type} {x : Except Halt α} {k : α → Except Halt Turn}
    (each : ∀ a, x = .ok a → Leaves ledger (k a)) : Leaves ledger (x >>= k) := by
  intro t ran
  obtain ⟨a, first, second⟩ := bind_eq_ok.mp ran
  exact each a first t second

theorem Leaves.pure (leaves : t.Leaves ledger) : Leaves ledger (pure t) := by
  intro t' ran
  exact pure_eq_ok.mp ran ▸ leaves

theorem Leaves.error {why : Halt} : Leaves ledger (.error why) := fun _ ran => nomatch ran

theorem Leaves.visit {a : Address} {price : Nat} {k : Frame × World → Except Halt Turn}
    (each : ∀ g world, world.ledger = w.ledger → Leaves w.ledger (k (g, world))) :
    Leaves w.ledger (f.visit w a price >>= k) :=
  .bind fun (g, world) visited => each g world (visit_pays visited).2

/-- A read-only call moves nothing, and enters a read-only frame. -/
theorem runCall_leaves {builtIns : BuiltIns} {target : Address} {value : Word} {input : ByteArray}
    {allowance outOffset outLength : Nat} (same : w.ledger = ledger) :
    (f.runCall builtIns w .staticCall target value input allowance outOffset outLength).Leaves
      ledger := by
  simp only [runCall]
  split
  · exact same
  split
  · exact same
  split
  · split
    · split <;> exact same
    · exact same
  split
  · exact same
  · exact ⟨rfl, same, same⟩

theorem leaves_of_calm (calm : (f.code.instructionAt f.place).isCalm = true) :
    Leaves w.ledger (f.execute block w) := by
  unfold execute
  generalize f.code.instructionAt f.place = instruction at calm ⊢
  -- Most instructions go on in the world that they find.
  have inFrame {x : Except Halt Frame} : Leaves w.ledger (do return Turn.go (← x) w) :=
    .bind fun _ _ => .pure rfl
  cases instruction with
  | sstore | tstore | log | create | create2 | selfDestruct => cases calm
  | push | dup | swap | jump | jumpIf | keccak256 | callDataLoad | callDataCopy | codeCopy
  | returnDataCopy | mload | mstore | mstore8 | mcopy | tload => exact inFrame
  | jumpdest => exact .bind fun _ _ => .pure rfl
  | read => exact .bind fun _ _ => inFrame
  | pop => exact .bind fun _ _ => .bind fun _ _ => .pure rfl
  | unary | binary | ternary | exp | blockHash | blobHash =>
      exact .bind fun _ _ => .bind fun _ _ => inFrame
  | balance | extCodeSize | extCodeHash =>
      exact .bind fun _ _ => .visit fun _ _ same => .bind fun _ _ => .pure same
  | extCodeCopy =>
      exact .bind fun _ _ => .bind fun _ _ => .visit fun _ _ same => .bind fun _ _ => .pure same
  | sload =>
      exact .bind fun _ _ => .bind fun _ _ => .bind fun _ _ => .pure (World.ledger_touchSlot w _)
  | call kind =>
      cases of_decide_eq_true calm
      exact .bind fun (asked, _) _ => .bind fun _ _ => .bind fun _ _ => .bind fun _ _ =>
        .bind fun _ _ => .pure (runCall_leaves (ledger_callWorld w asked.target))
  | stop => exact .pure rfl
  | «return» | revert => exact .bind fun _ _ => .pure rfl
  | invalid => exact .error

theorem leaves_of_readOnly (readOnly : f.message.readOnly = true) :
    Leaves w.ledger (f.execute block w) := by
  intro t ran
  cases execute_turn ran with
  | go _ kept => exact kept readOnly
  | enter _ _ undone kept =>
      obtain ⟨inherited, same⟩ := kept readOnly
      exact ⟨inherited, undone, same⟩
  | finish _ _ kept => exact kept readOnly

end Frame

/-! ## Sealed machines -/

/-- The frame `f` and those that wait for it, over `base`: the lowest is `base`
further on, all others are read-only and would go back to `ledger`. -/
def Guarded (base : Frame) (ledger : Ledger) : Frame → List Pending → Prop
  | f, [] => f.code = base.code ∧ f.message = base.message
  | f, waiting :: rest =>
      f.message.readOnly = true ∧ waiting.saved.ledger = ledger ∧
        Guarded base ledger waiting.frame rest

section Guarded

variable {base f g : Frame} {ledger : Ledger} {pending : List Pending}

theorem Guarded.same (guarded : Guarded base ledger f pending) (code : g.code = f.code)
    (message : g.message = f.message) : Guarded base ledger g pending := by
  cases pending with
  | nil => exact ⟨code.trans guarded.1, message.trans guarded.2⟩
  | cons waiting rest => exact ⟨message ▸ guarded.1, guarded.2⟩

/-- All frames but the lowest are read-only. -/
theorem Guarded.frames (guarded : Guarded base ledger f pending) :
    ∃ above bottom, f :: pending.map (·.frame) = above ++ [bottom] ∧
      bottom.code = base.code ∧ bottom.message = base.message ∧
      ∀ g ∈ above, g.message.readOnly = true := by
  induction pending generalizing f with
  | nil => exact ⟨[], f, rfl, guarded.1, guarded.2, by simp⟩
  | cons waiting rest ih =>
      obtain ⟨readOnly, -, below⟩ := guarded
      obtain ⟨above, bottom, split, code, message, each⟩ := ih below
      refine ⟨f :: above, bottom, ?_, code, message, List.forall_mem_cons.mpr ⟨readOnly, each⟩⟩
      rw [List.map_cons, split, List.cons_append]

/-- The lowest frame is calm and the others are read-only, so none changes the ledger. -/
theorem Guarded.leaves {block : Block} {w : World} (calm : base.code.IsCalm)
    (guarded : Guarded base ledger f pending) : Frame.Leaves w.ledger (f.execute block w) := by
  cases pending with
  | nil => exact Frame.leaves_of_calm (guarded.1 ▸ calm f.place)
  | cons waiting rest => exact Frame.leaves_of_readOnly guarded.1

end Guarded

namespace Machine

/-- The frames of a machine, the one that runs first. -/
def frames (m : Machine) : List Frame := m.frame :: m.pending.map (·.frame)

/-- The machine after a number of instructions, if it is still running. -/
def after : Nat → Machine → Option Machine
  | 0, m => some m
  | n + 1, m =>
      match m.step with
      | .inl next => next.after n
      | .inr _ => none

/-- A machine over `base` that cannot change `ledger`. -/
structure Sealed (base : Frame) (ledger : Ledger) (m : Machine) : Prop where
  unchanged : m.world.ledger = ledger
  guarded : Guarded base ledger m.frame m.pending

/-- What a sealed machine comes to: it goes on sealed, or ends with the ledger. -/
def StaysSealed (base : Frame) (ledger : Ledger) : Machine ⊕ Result → Prop
  | .inl next => next.Sealed base ledger
  | .inr result => result.world.ledger = ledger

variable {base f : Frame} {ledger : Ledger} {m : Machine}

/-- A frame ends in the ledger it had, and the one that waits goes on in it or goes
back to its own. -/
theorem staysSealed_conclude {block : Block} {ending : Ending} {world : World}
    {pending : List Pending} (guarded : Guarded base ledger f pending)
    (same : world.ledger = ledger) :
    StaysSealed base ledger (conclude block ending world pending) := by
  cases pending with
  | nil => exact same
  | cons waiting rest =>
      obtain ⟨-, undone, below⟩ := guarded
      rw [conclude_cons]
      refine ⟨?_, below.same rfl rfl⟩
      show (if ending.succeeds then world else waiting.saved).ledger = ledger
      split
      · exact same
      · exact undone

/-- **A step leaves a sealed machine sealed**, whatever the instruction. -/
theorem Sealed.step (calm : base.code.IsCalm) (sealed : m.Sealed base ledger) :
    StaysSealed base ledger m.step := by
  obtain ⟨block, frame, world, pending⟩ := m
  obtain ⟨rfl, guarded⟩ := sealed
  have leaves : Frame.Leaves world.ledger (frame.execute block world) := guarded.leaves calm
  simp only [Machine.step]
  split
  · exact staysSealed_conclude guarded rfl
  · next ran =>
      cases Frame.execute_turn ran with
      | go paid _ => exact ⟨leaves _ ran, guarded.same paid.code paid.message⟩
  · next ran =>
      obtain ⟨readOnly, undone, same⟩ := leaves _ ran
      cases Frame.execute_turn ran with
      | enter _ paid _ _ =>
          exact ⟨same, readOnly, undone, guarded.same paid.code paid.message⟩
  · next ran => exact staysSealed_conclude guarded (leaves _ ran)

/-- A sealed machine is sealed at every later moment. -/
theorem Sealed.after {n : Nat} {later : Machine} (calm : base.code.IsCalm)
    (sealed : m.Sealed base ledger) (ran : m.after n = some later) :
    later.Sealed base ledger := by
  induction n generalizing m with
  | zero =>
      cases ran
      exact sealed
  | succ n ih =>
      have next := sealed.step calm
      unfold Machine.after at ran
      split at ran
      · next stepped =>
          rw [stepped] at next
          exact ih next ran
      · cases ran

/-- A sealed machine ends with the ledger it had. -/
theorem Sealed.run {fuel : Nat} {result : Result} (calm : base.code.IsCalm)
    (sealed : m.Sealed base ledger) (ran : m.run fuel = some result) :
    result.world.ledger = ledger := by
  induction fuel generalizing m with
  | zero => cases ran
  | succ fuel ih =>
      have next := sealed.step calm
      unfold Machine.run at ran
      split at ran
      · next stepped =>
          rw [stepped] at next
          exact ih next ran
      · next stepped =>
          cases ran
          rw [stepped] at next
          exact next

/-- In a sealed machine an attempt to change the ledger ends the frame that makes it. -/
theorem Sealed.step_of_attempt (sealed : m.Sealed base ledger) (above : m.pending ≠ [])
    (attempts : m.frame.AttemptsChange) :
    m.step = conclude m.block (.halt .readOnly) m.world m.pending := by
  obtain ⟨block, frame, world, pending⟩ := m
  cases pending with
  | nil => exact absurd rfl above
  | cons waiting rest =>
      simp only [Machine.step, Frame.execute_of_attempt sealed.guarded.1 attempts]

end Machine

end ReleaseGate.Evm
