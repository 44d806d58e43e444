/-
# Proofs.Evm.Runs — how machines run to their end

Every step that does not end a frame takes gas out of the frames of a machine
(`step_burns`), so gas bounds its steps (`isSome_run`). A run is followed by `Reaches`, which also keeps the calls that
the lowest frame asks for; `Machine.requests` computes them. What a machine does
does not depend on the frames that wait for it: below others it comes to the end
that it comes to alone, and hands that end on (`Reaches.under`).
-/
import ReleaseGate.Evm.Machine
import ReleaseGate.Proofs.Evm.Turns

namespace ReleaseGate.Evm

set_option autoImplicit false

/-- Whether the end of a frame is a success. -/
def Ending.succeeds : Ending → Bool
  | .success _ _ => true
  | .revert _ _ => false
  | .halt _ => false

namespace Machine

/-- A machine whose lowest frame hands its end to the frames of `below`. -/
def under (m : Machine) (below : List Pending) : Machine :=
  { m with pending := m.pending ++ below }

/-- The call that the lowest frame is about to make, if it is its turn. -/
def asked (m : Machine) : List (CallKind × Message) :=
  if m.pending.isEmpty then m.frame.request?.toList else []

/-- The calls that the lowest frame asks for in a number of instructions. -/
def requests : Nat → Machine → List (CallKind × Message)
  | 0, _ => []
  | fuel + 1, m =>
      match m.step with
      | .inl next => m.asked ++ next.requests fuel
      | .inr _ => m.asked

/-- The frame that waited, after the one above it ended. -/
theorem conclude_cons (block : Block) (ending : Ending) (world : World) (waiting : Pending)
    (rest : List Pending) :
    conclude block ending world (waiting :: rest) =
      .inl { block := block
             frame := waiting.frame.resume ending.succeeds ending.data ending.gas
               waiting.outOffset waiting.outLength
             world := if ending.succeeds then world else waiting.saved
             pending := rest } := by
  cases ending <;> rfl

/-! ## Gas bounds the steps -/

/-- The gas of frames that wait. -/
def gasBelow : List Pending → Nat
  | [] => 0
  | waiting :: rest => waiting.frame.gas + gasBelow rest

/-- The gas that the frames of a machine share. -/
def sharedGas (m : Machine) : Nat := m.frame.gas + gasBelow m.pending

/-- What an instruction of `m` comes to, and what it burns of the shared gas. -/
inductive Burns (m : Machine) : Machine ⊕ Result → Prop where
  /-- The frame goes on. -/
  | stays {next : Machine} (pending : next.pending = m.pending)
      (paid : m.frame.Later 1 next.frame) (gas : next.sharedGas + 1 ≤ m.sharedGas) :
      Burns m (.inl next)
  /-- The frame opens another one and waits; the end of that one is paid for as well. -/
  | opens {next : Machine} {waiting : Pending} (pending : next.pending = waiting :: m.pending)
      (paid : m.frame.Later (next.frame.gas + 2) waiting.frame)
      (gas : next.sharedGas + 2 ≤ m.sharedGas) : Burns m (.inl next)
  /-- The frame ends, and the one that waited goes on. -/
  | closes {next : Machine} {waiting : Pending} (pending : m.pending = waiting :: next.pending)
      (gas : next.sharedGas ≤ m.sharedGas) : Burns m (.inl next)
  /-- The lowest frame ends. -/
  | ends {result : Result} (pending : m.pending = []) (gas : result.ending.gas ≤ m.sharedGas) :
      Burns m (.inr result)

theorem burns_conclude {block : Block} {frame : Frame} {world after : World}
    {pending : List Pending} {ending : Ending} (left : ending.gas ≤ frame.gas) :
    Burns ⟨block, frame, world, pending⟩ (conclude block ending after pending) := by
  cases pending with
  | nil => exact .ends rfl (Nat.le_trans left (Nat.le_add_right _ _))
  | cons waiting rest =>
      rw [conclude_cons]
      refine .closes rfl ?_
      simp only [sharedGas, gasBelow, Frame.resume]
      omega

/-- **Every instruction is paid for out of the shared gas**, unless it ends its frame. -/
theorem step_burns (m : Machine) : m.Burns m.step := by
  obtain ⟨block, frame, world, pending⟩ := m
  simp only [step]
  split
  · exact burns_conclude (Nat.zero_le _)
  · next ran =>
      cases Frame.execute_turn ran with
      | go paid _ =>
          refine .stays rfl paid ?_
          have := paid.gas
          simp only [sharedGas]
          omega
  · next ran =>
      cases Frame.execute_turn ran with
      | enter _ paid _ _ =>
          refine .opens rfl paid ?_
          have := paid.gas
          simp only [sharedGas, gasBelow, Frame.start]
          omega
  · next ran =>
      cases Frame.execute_turn ran with
      | finish left _ _ => exact burns_conclude left

/-- The gas of frames that wait, and one for each. -/
def weightBelow : List Pending → Nat
  | [] => 0
  | waiting :: rest => waiting.frame.gas + 1 + weightBelow rest

/-- The gas of all frames, and one for each. -/
def weight (m : Machine) : Nat := m.frame.gas + 1 + weightBelow m.pending

theorem weightBelow_eq (pending : List Pending) :
    weightBelow pending = gasBelow pending + pending.length := by
  induction pending with
  | nil => rfl
  | cons waiting rest ih =>
      rw [weightBelow, gasBelow, ih, List.length_cons]
      omega

theorem weight_eq (m : Machine) : m.weight = m.sharedGas + (m.pending.length + 1) := by
  rw [weight, weightBelow_eq, sharedGas]
  omega

/-- Every step takes some weight off. -/
theorem weight_step {m next : Machine} (stepped : m.step = .inl next) :
    next.weight < m.weight := by
  have burns := m.step_burns
  rw [stepped] at burns
  rw [weight_eq, weight_eq]
  cases burns with
  | stays pending _ gas =>
      rw [pending]
      omega
  | opens pending _ gas =>
      rw [pending, List.length_cons]
      omega
  | closes pending gas =>
      rw [pending, List.length_cons]
      omega

/-- **A machine ends within as many steps as it weighs.** -/
theorem isSome_run {m : Machine} {fuel : Nat} (enough : m.weight ≤ fuel) :
    (m.run fuel).isSome := by
  induction fuel generalizing m with
  | zero =>
      simp only [weight] at enough
      omega
  | succ fuel ih =>
      unfold run
      split
      · next next stepped =>
          have := weight_step stepped
          exact ih (by omega)
      · rfl

/-! ## Following a run -/

/-- From a machine a run comes to another machine or to its end, while the lowest
frame asks for the given calls. -/
inductive Reaches : Machine → List (CallKind × Message) → Machine ⊕ Result → Prop where
  | here (m : Machine) : Reaches m [] (.inl m)
  | step {m next : Machine} {calls : List (CallKind × Message)} {outcome : Machine ⊕ Result}
      (stepped : m.step = .inl next) (rest : Reaches next calls outcome) :
      Reaches m (m.asked ++ calls) outcome
  | stop {m : Machine} {result : Result} (stepped : m.step = .inr result) :
      Reaches m m.asked (.inr result)

variable {m next : Machine} {calls more : List (CallKind × Message)} {result : Result}

theorem Reaches.trans {outcome : Machine ⊕ Result} (first : m.Reaches calls (.inl next))
    (then_ : next.Reaches more outcome) : m.Reaches (calls ++ more) outcome := by
  generalize reached : Sum.inl next = between at first
  induction first with
  | here m =>
      cases reached
      exact then_
  | step stepped _ ih =>
      rw [List.append_assoc]
      exact .step stepped (ih reached)
  | stop _ => cases reached

/-- A step that ends in whatever `outcome` is. -/
theorem Reaches.of_step {outcome : Machine ⊕ Result} (stepped : m.step = outcome) :
    m.Reaches m.asked outcome := by
  cases outcome with
  | inl next => simpa using Reaches.step stepped (.here next)
  | inr result => exact .stop stepped

theorem reaches_run {fuel : Nat} (ran : m.run fuel = some result) :
    m.Reaches (m.requests fuel) (.inr result) := by
  induction fuel generalizing m with
  | zero => cases ran
  | succ fuel ih =>
      cases stepped : m.step with
      | inl next =>
          simp only [run, requests, stepped] at ran ⊢
          exact .step stepped (ih ran)
      | inr ended =>
          simp only [run, requests, stepped] at ran ⊢
          cases ran
          exact .stop stepped

/-- A run that ends has one end, and asks for the calls on the way to it. -/
theorem Reaches.run_eq {fuel : Nat} {other : Result} (reached : m.Reaches calls (.inr result))
    (ran : m.run fuel = some other) : other = result ∧ m.requests fuel = calls := by
  generalize ended : Sum.inr result = outcome at reached
  induction reached generalizing fuel with
  | here _ => cases ended
  | step stepped _ ih =>
      cases fuel with
      | zero => cases ran
      | succ fuel =>
          simp only [run, stepped] at ran
          obtain ⟨same, calls⟩ := ih ran ended
          exact ⟨same, by simp only [requests, stepped, calls]⟩
  | stop stepped =>
      cases ended
      cases fuel with
      | zero => cases ran
      | succ fuel =>
          simp only [run, stepped] at ran
          cases ran
          exact ⟨rfl, by simp only [requests, stepped]⟩

/-- In fewer steps the lowest frame asks for no other calls. -/
theorem Reaches.requests_isPrefix {fuel : Nat} (reached : m.Reaches calls (.inr result)) :
    m.requests fuel <+: calls := by
  generalize ended : Sum.inr result = outcome at reached
  induction reached generalizing fuel with
  | here _ => cases ended
  | step stepped _ ih =>
      cases fuel with
      | zero => exact List.nil_prefix
      | succ fuel =>
          simp only [requests, stepped]
          exact (List.prefix_append_right_inj _).mpr (ih ended)
  | stop stepped =>
      cases fuel with
      | zero => exact List.nil_prefix
      | succ fuel =>
          simp only [requests, stepped]
          exact List.prefix_rfl

/-! ## What a run hands back -/

theorem conclude_nil {block : Block} {ending : Ending} {world : World} {pending : List Pending}
    (ended : conclude block ending world pending = .inr result) :
    pending = [] ∧ result = ⟨ending, world⟩ := by
  cases pending with
  | nil =>
      cases ended
      exact ⟨rfl, rfl⟩
  | cons waiting rest =>
      rw [conclude_cons] at ended
      cases ended

theorem data_step (stepped : m.step = .inr result) : FitsWord result.ending.data.size := by
  obtain ⟨block, frame, world, pending⟩ := m
  simp only [step] at stepped
  split at stepped
  · obtain ⟨_, rfl⟩ := conclude_nil stepped
    exact fitsWord_zero
  · cases stepped
  · cases stepped
  · next ran =>
      obtain ⟨_, rfl⟩ := conclude_nil stepped
      cases Frame.execute_turn ran with
      | finish _ fits _ => exact fits

/-- The data at the end of a run has a length that fits in a word. -/
theorem data_run {fuel : Nat} (ran : m.run fuel = some result) :
    FitsWord result.ending.data.size := by
  induction fuel generalizing m with
  | zero => cases ran
  | succ fuel ih =>
      unfold run at ran
      split at ran
      · exact ih ran
      · next stepped =>
          cases ran
          exact data_step stepped

/-! ## Below other frames -/

theorem conclude_append (block : Block) (ending : Ending) (world : World)
    (pending below : List Pending) :
    conclude block ending world (pending ++ below) =
      match conclude block ending world pending with
      | .inl next => .inl (next.under below)
      | .inr result => conclude block result.ending result.world below := by
  cases pending with
  | nil => rfl
  | cons waiting rest =>
      rw [List.cons_append, conclude_cons, conclude_cons]
      rfl

theorem step_under (m : Machine) (below : List Pending) :
    (m.under below).step =
      match m.step with
      | .inl next => .inl (next.under below)
      | .inr result => conclude m.block result.ending result.world below := by
  obtain ⟨block, frame, world, pending⟩ := m
  simp only [step, under]
  cases frame.execute block world with
  | error why => exact conclude_append block (.halt why) world pending below
  | ok turn =>
      cases turn with
      | go later after => rfl
      | enter waiting child outOffset outLength saved after => rfl
      | finish ending after => exact conclude_append block ending after pending below

theorem block_step (stepped : m.step = .inl next) : next.block = m.block := by
  obtain ⟨block, frame, world, pending⟩ := m
  have ofConclude {ending : Ending} {world : World}
      (ended : conclude block ending world pending = .inl next) : next.block = block := by
    cases pending with
    | nil => cases ended
    | cons waiting rest =>
        rw [conclude_cons] at ended
        cases ended
        rfl
  simp only [step] at stepped
  split at stepped
  · exact ofConclude stepped
  · cases stepped
    rfl
  · cases stepped
    rfl
  · exact ofConclude stepped

theorem asked_under (m : Machine) (waiting : Pending) (below : List Pending) :
    (m.under (waiting :: below)).asked = [] := by
  simp [asked, under]

/-- **What waits for a machine does not change its run**: its end is handed on. -/
theorem Reaches.under (waiting : Pending) (below : List Pending)
    (reached : m.Reaches calls (.inr result)) :
    (m.under (waiting :: below)).Reaches []
      (conclude m.block result.ending result.world (waiting :: below)) := by
  -- Step by step the same, until the last step finds a frame that waits.
  generalize ended : Sum.inr result = outcome at reached
  induction reached with
  | here _ => cases ended
  | @step m next _ _ stepped _ ih =>
      have first := step_under m (waiting :: below)
      rw [stepped] at first
      rw [← block_step stepped]
      simpa [asked_under] using Reaches.step first (ih ended)
  | @stop m _ stepped =>
      cases ended
      have last := step_under m (waiting :: below)
      rw [stepped] at last
      simpa [asked_under] using Reaches.of_step last

end Machine

end ReleaseGate.Evm
