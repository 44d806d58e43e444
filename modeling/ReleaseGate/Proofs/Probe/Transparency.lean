/-
# Proofs.Probe.Transparency — a probe answers what the code under probe does

The stretches of the forwarder's code are joined to whole runs. For every gas limit
and every input a probe is refused in advance, or ends for want of gas of the
forwarder's own, or hands on what the code under probe comes to on its own
(`callWith_transparent`).
-/
import ReleaseGate.Proofs.Probe.Forwarder

namespace ReleaseGate.Probe

set_option autoImplicit false

open Evm

/-- Why a message is refused whose gas limit is below what it must cover. -/
def refusal (input : List UInt8) (limit : Nat) : Fault :=
  if limit < intrinsicGas input then .belowIntrinsic (intrinsicGas input) limit
  else .belowFloor (floorGas input) limit

/-- An answer that tells of gas that did not last. -/
def IsStarved (answer : Except Fault (List UInt8)) : Prop :=
  ∃ why : Halt, why.IsOutOfGas ∧ answer = .error (.halted why)

section Whole

variable {builtIns : BuiltIns} {code input : List UInt8} {limit : Nat}

theorem intrinsicGas_le_floorGas (input : List UInt8) : intrinsicGas input ≤ floorGas input := by
  unfold intrinsicGas floorGas
  omega

/-- Input that is paid for has a length that fits in a word. -/
theorem fits_of_floorGas {gasLimit : UInt64} (paid : floorGas input ≤ gasLimit.toNat) :
    FitsWord input.toByteArray.size := by
  rw [List.size_toByteArray]
  rw [floorGas, inputWeight_eq] at paid
  exact fitsWord_of_le gasLimit (by omega)

/-- Whatever a probe's machine reaches is what the probe answers, and the calls on
the way are all the forwarder asks for. -/
theorem value_of_reaches {calls : List (CallKind × Message)} {result : Result}
    (installs : checkCode code = .ok ()) (paid : floorGas input ≤ limit)
    (reached : (startMachine builtIns code input limit).Reaches calls (.inr result)) :
    (callWith builtIns code input limit).value = answerOf (some result) ∧
      (startMachine builtIns code input limit).requests limit = calls := by
  have cost := intrinsicGas_le_floorGas input
  have some : 21000 ≤ intrinsicGas input := Nat.le_add_right _ _
  have light : (startMachine builtIns code input limit).weight ≤ limit := by
    show limit - intrinsicGas input + 1 + 0 ≤ limit
    omega
  obtain ⟨other, ran⟩ := Option.isSome_iff_exists.mp (Machine.isSome_run light)
  obtain ⟨rfl, asked⟩ := reached.run_eq ran
  refine ⟨?_, asked⟩
  rw [value_callWith builtIns input limit installs, if_neg (by omega), if_neg (by omega), run, ran]

theorem value_of_refused (installs : checkCode code = .ok ()) (less : limit < floorGas input) :
    (callWith builtIns code input limit).value = .error (refusal input limit) := by
  rw [value_callWith builtIns input limit installs, refusal]
  by_cases below : limit < intrinsicGas input
  · rw [if_pos below, if_pos below]
  · rw [if_neg below, if_neg below, if_pos less]

theorem starved_of_starves {calls : List (CallKind × Message)}
    (installs : checkCode code = .ok ()) (paid : floorGas input ≤ limit)
    (starves : (startMachine builtIns code input limit).Starves calls) :
    IsStarved (callWith builtIns code input limit).value := by
  obtain ⟨why, world, wants, reached⟩ := starves
  exact ⟨why, wants, (value_of_reaches installs paid reached).1⟩

/-- The code under probe comes to an end within the gas limit. -/
theorem targetMachine_ends (block : Block) (code : List UInt8) (data : ByteArray)
    {allowance : Nat} (less : allowance < limit) :
    ∃ result, (targetMachine block code data allowance).run limit = some result := by
  apply Option.isSome_iff_exists.mp
  apply Machine.isSome_run
  show allowance + 1 + 0 ≤ limit
  omega

/-- If the gas lasts, the answer is what the code under probe reaches on its own. -/
theorem value_of_target {gasLimit : UInt64} {calls : List (CallKind × Message)} {result : Result}
    {rest : Nat} (installs : checkCode code = .ok ()) (paid : floorGas input ≤ gasLimit.toNat)
    (lasts : intrinsicGas input + askPrice input.toByteArray + targetPrice code + rest =
      gasLimit.toNat)
    (reached : (targetMachine ⟨callerAddress, gasLimit.toNat, builtIns⟩ code input.toByteArray
      (rest - rest / 64)).Reaches calls (.inr result))
    (hands : replyPrice input.toByteArray result.ending ≤ rest / 64 + result.ending.gas) :
    (callWith builtIns code input gasLimit.toNat).value = relay result.ending := by
  have fits := fits_of_floorGas paid
  have cost : 21000 ≤ intrinsicGas input := Nat.le_add_right _ _
  let block : Block := ⟨callerAddress, gasLimit.toNat, builtIns⟩
  obtain ⟨other, ran⟩ : ∃ other, (targetMachine block code input.toByteArray
      (rest - rest / 64)).run gasLimit.toNat = some other := targetMachine_ends _ _ _ (by omega)
  obtain ⟨rfl, -⟩ := reached.run_eq ran
  have dataFits := Machine.data_run ran
  -- The gas before the call, at the call and behind it.
  let gas := gasLimit.toNat - intrinsicGas input
  have asking : (startMachine builtIns code input gasLimit.toNat).Reaches []
      (.inl ((askingFrame input.toByteArray (gas - askPrice input.toByteArray)).alone block
        (startWorld code))) := reaches_asking fits (by omega)
  have left : gas - askPrice input.toByteArray - targetPrice code = rest := by omega
  rw [← left] at ran hands
  obtain ⟨after, replied⟩ := reaches_reply fits (fitsWord_of_le gasLimit (by omega)) (by omega) ran
  have reply : Toll block after _ (repliedFrame input.toByteArray other.ending) _ :=
    toll_reply dataFits
  have whole := ((asking.trans replied).trans (reply.passes _ hands)).trans (reaches_end dataFits)
  exact (value_of_reaches installs paid whole).1.trans (answerOf_handedOn _ _ _)

end Whole

/-- **A probe answers what the code under probe comes to on its own.** A message whose
gas limit is below what it must cover is refused. Of any other the forwarder makes
one call at most, a read-only one of the code under probe with just the input. If
the gas lasts, what that code hands back is the answer, or else its length is. The
forwarder has no other end than for want of gas. -/
theorem callWith_transparent (builtIns : BuiltIns) {code : List UInt8} (input : List UInt8)
    (gasLimit : UInt64) (installs : checkCode code = .ok ()) :
    let limit := gasLimit.toNat
    let data := input.toByteArray
    let machine := startMachine builtIns code input limit
    let answer := (callWith builtIns code input limit).value
    let call := (CallKind.staticCall, targetMessage data)
    let gas := limit - intrinsicGas input
    let rest := gas - askPrice data - targetPrice code
    let target := targetMachine machine.block code data (rest - rest / 64)
    (limit < floorGas input → answer = .error (refusal input limit)) ∧
    (floorGas input ≤ limit →
      (∀ fuel, machine.requests fuel <+: [call]) ∧
      (gas < askPrice data + targetPrice code → IsStarved answer) ∧
      (askPrice data + targetPrice code ≤ gas →
        ∃ result, target.run limit = some result ∧ machine.requests limit = [call] ∧
          (replyPrice data result.ending ≤ rest / 64 + result.ending.gas →
            answer = relay result.ending) ∧
          (rest / 64 + result.ending.gas < replyPrice data result.ending →
            IsStarved answer))) := by
  intro limit data machine answer call gas rest target
  refine ⟨value_of_refused installs, fun paid => ?_⟩
  have fits := fits_of_floorGas paid
  -- The gas runs out before the call, at the call, or behind it, or not at all.
  by_cases early : gas < askPrice data
  · have starves : machine.Starves [] := starves_early fits early
    refine ⟨fun fuel => (starves.requests_isPrefix fuel).trans List.nil_prefix,
      fun _ => starved_of_starves installs paid starves, fun enough => ?_⟩
    omega
  have asking : machine.Reaches [] (.inl ((askingFrame data (gas - askPrice data)).alone
      machine.block (startWorld code))) := reaches_asking fits (Nat.le_of_not_lt early)
  by_cases poor : gas - askPrice data < targetPrice code
  · have starves : machine.Starves [call] := (starves_asking fits poor).before asking
    refine ⟨fun fuel => starves.requests_isPrefix fuel,
      fun _ => starved_of_starves installs paid starves, fun enough => ?_⟩
    omega
  have spent : gas + 21000 ≤ limit := by
    have cost := intrinsicGas_le_floorGas input
    have least : 21000 ≤ intrinsicGas input := Nat.le_add_right _ _
    omega
  obtain ⟨result, ran⟩ : ∃ result, target.run limit = some result :=
    targetMachine_ends _ _ _ (by omega)
  have dataFits := Machine.data_run ran
  obtain ⟨after, replied⟩ := reaches_reply fits (fitsWord_of_le gasLimit (by omega))
    (Nat.le_of_not_lt poor) ran
  have toReply : machine.Reaches [call] _ := asking.trans replied
  have reply : Toll machine.block after _ (repliedFrame data result.ending) _ :=
    toll_reply dataFits
  by_cases lasts : replyPrice data result.ending ≤ rest / 64 + result.ending.gas
  · have whole : machine.Reaches [call] (.inr _) :=
      (toReply.trans (reply.passes _ lasts)).trans (reaches_end dataFits)
    obtain ⟨answered, asked⟩ := value_of_reaches installs paid whole
    refine ⟨fun fuel => whole.requests_isPrefix, fun less => ?_,
      fun _ => ⟨result, ran, asked, fun _ => ?_, fun less => ?_⟩⟩
    · omega
    · exact answered.trans (answerOf_handedOn _ _ _)
    · omega
  · have starves : machine.Starves [call] :=
      (reply.starves _ (Nat.lt_of_not_le lasts)).before toReply
    obtain ⟨why, world, wants, whole⟩ := starves
    obtain ⟨answered, asked⟩ := value_of_reaches installs paid whole
    refine ⟨fun fuel => whole.requests_isPrefix, fun less => ?_,
      fun _ => ⟨result, ran, asked, fun enough => ?_, fun _ => ⟨why, wants, answered⟩⟩⟩
    · omega
    · exact absurd enough lasts

/-- Code that copies its input to memory and ends with it: `f3` returns it, `fd`
reverts with it. -/
def echoing (last : UInt8) : List UInt8 := [0x36, 0x5f, 0x5f, 0x37, 0x36, 0x5f, last]

/-- The input goes to the code as it is. Of bytes that are returned the answer is made,
of bytes that are reverted with only their number is told. -/
theorem callWith_transparent_echo :
    checkCode (echoing 0xf3) = .ok () ∧ checkCode (echoing 0xfd) = .ok () ∧
    (startMachine .basic (echoing 0xf3) [0x01, 0x02] 100000).requests 100000 =
      [(.staticCall, targetMessage [0x01, 0x02].toByteArray)] ∧
    (callWith .basic (echoing 0xf3) [0x01, 0x02] 100000).value = .ok [0x01, 0x02] ∧
    (callWith .basic (echoing 0xfd) [0x01, 0x02] 100000).value = .error (.reverted 2) := by
  have installs (last : UInt8) : checkCode (echoing last) = .ok () := rfl
  have probed (last : UInt8) := callWith_transparent .basic [0x01, 0x02] 100000 (installs last)
  obtain ⟨-, -, returns⟩ := (probed 0xf3).2 (by decide)
  obtain ⟨-, -, reverts⟩ := (probed 0xfd).2 (by decide)
  obtain ⟨returned, ran, asked, answers, -⟩ := returns (by decide +kernel)
  obtain ⟨reverted, ended, -, tells, -⟩ := reverts (by decide +kernel)
  -- The code under probe leaves more gas than handing its bytes on takes.
  have seen : (some returned).map (fun result =>
      (result.ending.succeeds, result.ending.data.data.toList,
        decide (replyPrice [0x01, 0x02].toByteArray result.ending ≤ result.ending.gas))) =
      some (true, [0x01, 0x02], true) := by
    rw [← ran]
    decide +kernel
  have seen' : (some reverted).map (fun result =>
      (result.ending.succeeds, result.ending.data.size,
        decide (replyPrice [0x01, 0x02].toByteArray result.ending ≤ result.ending.gas))) =
      some (false, 2, true) := by
    rw [← ended]
    decide +kernel
  simp only [Option.map_some, Option.some.injEq, Prod.mk.injEq, decide_eq_true_eq] at seen seen'
  obtain ⟨succeeds, bytes, paid⟩ := seen
  obtain ⟨fails, length, paid'⟩ := seen'
  have answered := answers (Nat.le_add_left_of_le paid)
  have told := tells (Nat.le_add_left_of_le paid')
  rw [relay_eq, succeeds, bytes, if_pos rfl] at answered
  rw [relay_eq, fails, length, if_neg Bool.false_ne_true] at told
  exact ⟨installs _, installs _, asked, answered, told⟩

end ReleaseGate.Probe
