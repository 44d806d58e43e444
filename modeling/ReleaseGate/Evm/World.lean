/-
# Evm.World — accounts, storage, and what a call has already touched

A `Ledger` is what calls can change for good: accounts, storage, transient
storage and logs. A `World` adds the accounts and storage slots that are warm,
that is, already touched in this call; touching a cold one costs more. When a
frame fails, the whole world goes back to what it was.

* `ledger_touchAccount`, `ledger_touchSlot`: touching leaves the ledger alone.
-/
import ReleaseGate.Evm.Instruction

namespace ReleaseGate.Evm

set_option autoImplicit false

structure Account where
  nonce : Nat
  balance : Nat
  code : Code

/-- The account of an address nobody has used. -/
def Account.vacant : Account := ⟨0, 0, Code.empty⟩

/-- Whether an account is as good as unused. -/
def Account.isVacant (a : Account) : Bool := a.nonce = 0 && a.balance = 0 && a.code.size = 0

/-- A log entry made by an account. -/
structure LogEntry where
  address : Address
  topics : List Word
  data : ByteArray

/-- A storage slot of an account. -/
abbrev Slot := Address × Word

/-- What calls can change for good; the newest entry for a key counts. -/
structure Ledger where
  accounts : List (Address × Account)
  storage : List (Slot × Word)
  transient : List (Slot × Word)
  logs : List LogEntry

namespace Ledger

def account (l : Ledger) (a : Address) : Account := (l.accounts.lookup a).getD .vacant

def balance (l : Ledger) (a : Address) : Nat := (l.account a).balance

def code (l : Ledger) (a : Address) : Code := (l.account a).code

def setAccount (l : Ledger) (a : Address) (account : Account) : Ledger :=
  { l with accounts := (a, account) :: l.accounts }

/-- Move an amount that `source` has. -/
def transfer (l : Ledger) (source target : Address) (amount : Nat) : Ledger :=
  if amount = 0 then l
  else
    let giver := l.account source
    let l := l.setAccount source { giver with balance := giver.balance - amount }
    let taker := l.account target
    l.setAccount target { taker with balance := taker.balance + amount }

def stored (l : Ledger) (slot : Slot) : Word := (l.storage.lookup slot).getD 0

def store (l : Ledger) (slot : Slot) (w : Word) : Ledger :=
  { l with storage := (slot, w) :: l.storage }

def storedTransient (l : Ledger) (slot : Slot) : Word := (l.transient.lookup slot).getD 0

def storeTransient (l : Ledger) (slot : Slot) (w : Word) : Ledger :=
  { l with transient := (slot, w) :: l.transient }

def log (l : Ledger) (entry : LogEntry) : Ledger := { l with logs := l.logs ++ [entry] }

end Ledger

/-- The ledger and what is warm. -/
structure World where
  ledger : Ledger
  warmAccounts : List Address
  warmSlots : List Slot

namespace World

/-- The last address that belongs to a built-in contract; zero belongs to none
but is the address of the block's author. -/
def lastBuiltIn : Nat := 0x11

/-- Whether an account has been touched; built-in contracts and the block's
author count as touched from the start. -/
def isWarmAccount (w : World) (a : Address) : Bool :=
  a.toNat ≤ lastBuiltIn || w.warmAccounts.contains a

def isWarmSlot (w : World) (slot : Slot) : Bool := w.warmSlots.contains slot

/-- Touch an account. -/
def touchAccount (w : World) (a : Address) : World :=
  if w.isWarmAccount a then w else { w with warmAccounts := a :: w.warmAccounts }

/-- Touch a storage slot. -/
def touchSlot (w : World) (slot : Slot) : World :=
  if w.isWarmSlot slot then w else { w with warmSlots := slot :: w.warmSlots }

/-- What it costs to look at an account. -/
def accountCost (w : World) (a : Address) : Nat := if w.isWarmAccount a then 100 else 2600

/-- What it costs to look at a storage slot. -/
def slotCost (w : World) (slot : Slot) : Nat := if w.isWarmSlot slot then 100 else 2100

@[simp] theorem ledger_touchAccount (w : World) (a : Address) :
    (w.touchAccount a).ledger = w.ledger := by
  unfold touchAccount
  split <;> rfl

@[simp] theorem ledger_touchSlot (w : World) (slot : Slot) :
    (w.touchSlot slot).ledger = w.ledger := by
  unfold touchSlot
  split <;> rfl

/-- The code that runs when an account is called: that of the account it
delegates to, if it does; delegation is followed once. -/
def callee (w : World) (a : Address) : Code :=
  let code := w.ledger.code a
  match code.delegate? with
  | some other => w.ledger.code other
  | none => code

end World

end ReleaseGate.Evm
