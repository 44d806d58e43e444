/-
# Journal — what an operation says while it works

An operation that reports on itself answers with a `Logged` value: its result
and the entries it made, first entry first. `Logged` is a plain pair with the
evident sequencing, so the result of a composite operation can be read off
without its entries (`value_bind`) and the entries without its result
(`entries_bind`).
-/
namespace ReleaseGate

set_option autoImplicit false

/-- How much attention an entry asks for. -/
inductive Level where
  | debug
  | info
  | warn
  deriving DecidableEq, Repr

/-- The level's name in a written journal. -/
def Level.name : Level → String
  | .debug => "debug"
  | .info => "info"
  | .warn => "warn"

/-- One line of a journal. -/
structure Entry where
  level : Level
  text : String
  deriving DecidableEq, Repr

/-- A result together with the entries made on the way to it. -/
structure Logged (α : Type) where
  value : α
  entries : List Entry

namespace Logged

variable {α β : Type}

instance : Monad Logged where
  pure a := ⟨a, []⟩
  bind x f := ⟨(f x.value).value, x.entries ++ (f x.value).entries⟩

/-- Make one entry. -/
def note (level : Level) (text : String) : Logged Unit := ⟨(), [⟨level, text⟩]⟩

def debug (text : String) : Logged Unit := note .debug text

def info (text : String) : Logged Unit := note .info text

def warn (text : String) : Logged Unit := note .warn text

/-- Run `f` on each element in order, keeping the results and all entries. -/
def each (f : α → Logged β) : List α → Logged (List β)
  | [] => pure []
  | a :: rest => do
      let b ← f a
      let bs ← each f rest
      pure (b :: bs)

@[simp] theorem value_pure (a : α) : (pure a : Logged α).value = a := rfl

@[simp] theorem entries_pure (a : α) : (pure a : Logged α).entries = [] := rfl

@[simp] theorem value_bind (x : Logged α) (f : α → Logged β) :
    (x >>= f).value = (f x.value).value := rfl

@[simp] theorem entries_bind (x : Logged α) (f : α → Logged β) :
    (x >>= f).entries = x.entries ++ (f x.value).entries := rfl

@[simp] theorem value_each (f : α → Logged β) (as : List α) :
    (each f as).value = as.map fun a => (f a).value := by
  induction as with
  | nil => rfl
  | cons a rest ih => simp [each, ih]

end Logged

end ReleaseGate
