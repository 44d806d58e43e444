/-
# Evm.Stack — a frame's stack

At most 1024 words, the newest first. The free room is counted along, so that
pushing need not measure the stack.
-/
import ReleaseGate.Evm.Word

namespace ReleaseGate.Evm

set_option autoImplicit false

/-- Words a stack can hold. -/
def stackLimit : Nat := 1024

/-- A stack and its free room. -/
structure Stack where
  items : List Word
  room : Nat
  fits : items.length + room = stackLimit

namespace Stack

def empty : Stack := ⟨[], stackLimit, by simp⟩

/-- Put a word on top. -/
def push? (s : Stack) (w : Word) : Option Stack :=
  match h : s.room with
  | 0 => none
  | room + 1 => some ⟨w :: s.items, room, by
      have := s.fits
      simp only [List.length_cons]
      omega⟩

/-- Take the top word. -/
def pop? (s : Stack) : Option (Word × Stack) :=
  match h : s.items with
  | [] => none
  | w :: rest => some (w, ⟨rest, s.room + 1, by
      have := s.fits
      rw [h, List.length_cons] at this
      omega⟩)

/-- Take the two top words, the topmost first. -/
def pop2? (s : Stack) : Option (Word × Word × Stack) :=
  match h : s.items with
  | a :: b :: rest => some (a, b, ⟨rest, s.room + 2, by
      have := s.fits
      rw [h, List.length_cons, List.length_cons] at this
      omega⟩)
  | _ => none

/-- Take the three top words. -/
def pop3? (s : Stack) : Option (Word × Word × Word × Stack) := do
  let (a, b, s) ← s.pop2?
  let (c, s) ← s.pop?
  return (a, b, c, s)

/-- Take the four top words. -/
def pop4? (s : Stack) : Option (Word × Word × Word × Word × Stack) := do
  let (a, b, s) ← s.pop2?
  let (c, d, s) ← s.pop2?
  return (a, b, c, d, s)

/-- Take `n` words, the topmost first. -/
def popMany? (s : Stack) : Nat → Option (List Word × Stack)
  | 0 => some ([], s)
  | n + 1 => do
      let (w, s) ← s.pop?
      let (ws, s) ← s.popMany? n
      return (w :: ws, s)

/-- The word at depth `n`. -/
def peek? (s : Stack) (n : Nat) : Option Word := s.items[n]?

/-- Exchange the top word with the one at depth `n`. -/
def swap? (s : Stack) (n : Nat) : Option Stack := do
  let top ← s.items[0]?
  let other ← s.items[n]?
  return ⟨(s.items.set 0 other).set n top, s.room, by simpa using s.fits⟩

/-- What was put on top is taken first. -/
theorem pop?_push? {s t : Stack} {w : Word} (h : s.push? w = some t) : t.pop? = some (w, s) := by
  unfold push? at h
  split at h
  · cases h
  · next room eq =>
      cases h
      obtain ⟨items, _, fits⟩ := s
      cases eq
      rfl

end Stack

end ReleaseGate.Evm
