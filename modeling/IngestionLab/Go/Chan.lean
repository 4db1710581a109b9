import Mathlib.Data.List.Basic

/-!
# Channels

A Go channel of any element type: a buffer of fixed capacity that may be closed. A
goroutine at a select takes one of its cases, and what each case asks of a channel is
an operation (`IngestionLab.Go.Chan.Op`): `IngestionLab.Go.Chan.Allows` says when the
case is ready, `IngestionLab.Go.Chan.apply` what taking it does.

A send and a receive may also meet without the buffer, which is the only way for a
channel of capacity zero: then nothing is buffered, and the channel is left as it is
(`IngestionLab.Go.Chan.MayPass`).

A send on a closed channel panics. Here it is possible and leaves a trace
(`sentClosed`), so that its absence can be stated; closing counts how often it was
done.
-/

namespace IngestionLab

namespace Go

/-- **A channel.** -/
structure Chan (α : Type*) where
  capacity : ℕ := 0
  buffer : List α := []
  closes : ℕ := 0
  sentClosed : Bool := false
  deriving DecidableEq, Repr

namespace Chan

variable {α : Type*}

/-- What the case of a select asks of a channel. -/
inductive Op (α : Type*)
  /-- The case is about something else. -/
  | nothing
  | send (x : α)
  /-- The default case beside a send. -/
  | full
  | receive (x : α)
  /-- A receive that finds the channel closed. -/
  | closed
  deriving DecidableEq, Repr

/-- The channel is closed. -/
def IsClosed (c : Chan α) : Prop := c.closes ≠ 0

instance (c : Chan α) : Decidable c.IsClosed := inferInstanceAs (Decidable (_ ≠ _))

/-- The case is ready, as far as the channel is concerned. -/
def Allows (c : Chan α) : Op α → Prop
  | .nothing => True
  | .send _ => c.IsClosed ∨ c.buffer.length < c.capacity
  | .full => ¬c.IsClosed ∧ c.capacity ≤ c.buffer.length
  | .receive x => c.buffer.head? = some x
  | .closed => c.IsClosed ∧ c.buffer = []

instance [DecidableEq α] (c : Chan α) (op : Op α) : Decidable (c.Allows op) := by
  cases op <;> dsimp only [Allows] <;> infer_instance

/-- What taking the case does. -/
def apply (c : Chan α) : Op α → Chan α
  | .nothing | .full | .closed => c
  | .send x =>
    if c.IsClosed then { c with sentClosed := true } else { c with buffer := c.buffer ++ [x] }
  | .receive _ => { c with buffer := c.buffer.tail }

/-- A sender and a receiver may meet: nothing is buffered. -/
def MayPass (c : Chan α) : Prop := ¬c.IsClosed ∧ c.buffer = []

instance [DecidableEq α] (c : Chan α) : Decidable c.MayPass := inferInstanceAs (Decidable (_ ∧ _))

/-- `make(chan α, capacity)`. -/
def make (capacity : ℕ) : Chan α := { capacity := capacity }

/-- `close`. -/
def close (c : Chan α) : Chan α := { c with closes := c.closes + 1 }

/-- Receive until nothing is buffered. -/
def drain (c : Chan α) : Chan α := { c with buffer := [] }

variable {c : Chan α} {op : Op α}

@[simp] theorem capacity_apply : (c.apply op).capacity = c.capacity := by
  cases op with
  | send x =>
    rw [apply]
    split <;> rfl
  | nothing => rfl
  | full => rfl
  | receive x => rfl
  | closed => rfl

/-- Taking a case never closes. -/
@[simp] theorem closes_apply : (c.apply op).closes = c.closes := by
  cases op with
  | send x =>
    rw [apply]
    split <;> rfl
  | nothing => rfl
  | full => rfl
  | receive x => rfl
  | closed => rfl

/-- Only a send on a closed channel leaves a trace. -/
theorem sentClosed_apply (h : c.closes = 0) : (c.apply op).sentClosed = c.sentClosed := by
  cases op with
  | send x =>
    rw [apply, if_neg (show ¬c.IsClosed from not_not.mpr h)]
  | nothing => rfl
  | full => rfl
  | receive x => rfl
  | closed => rfl

/-! ### First in, first out -/

/-- What a case puts into the channel. -/
def Op.sent : Op α → List α
  | .send x => [x]
  | _ => []

/-- What a case takes out of the channel. -/
def Op.received : Op α → List α
  | .receive x => [x]
  | _ => []

/-- **A channel is first in, first out**, as long as it is not closed. -/
theorem apply_buffer (h : c.Allows op) (hopen : c.closes = 0) :
    c.buffer ++ op.sent = op.received ++ (c.apply op).buffer := by
  cases op with
  | send x => simp [Op.sent, Op.received, apply, IsClosed, hopen]
  | receive x =>
    obtain ⟨rest, hrest⟩ := List.head?_eq_some_iff.mp h
    simp [Op.sent, Op.received, apply, hrest]
  | nothing => exact List.append_nil _
  | full => exact List.append_nil _
  | closed => exact List.append_nil _

/-- A channel holds no more than it has room for. -/
theorem apply_length_le (h : c.Allows op) (hopen : c.closes = 0)
    (hle : c.buffer.length ≤ c.capacity) : (c.apply op).buffer.length ≤ c.capacity := by
  cases op with
  | send x =>
    have hroom : c.buffer.length < c.capacity := h.resolve_left (not_not.mpr hopen)
    simpa [apply, IsClosed, hopen, Nat.succ_le_iff] using hroom
  | receive x =>
    rw [apply, List.length_tail]
    omega
  | nothing => exact hle
  | full => exact hle
  | closed => exact hle

end Chan

end Go

end IngestionLab
