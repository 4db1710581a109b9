import IngestionLab.Machine.Run

/-!
# A one-place relay

What a stage that only passes things on is for: it takes one thing, gives that same
thing, takes the next. It may close; and, once it has been revoked, it may close
with the thing in hand, which is then lost. Nothing else can happen to anything it
takes, so that what it has given is at all times a prefix of what it has taken,
short of it by at most one (`IngestionLab.Relay.faithful_of_reachable`).
-/

namespace IngestionLab

/-- **A one-place relay**: what it has taken and given so far, what it holds. -/
structure Relay (α : Type*) where
  taken : List α
  given : List α
  hand : Option α
  revoked : Bool
  closed : Bool

namespace Relay

variable {α : Type*}

/-- What a relay may do. -/
inductive Move (α : Type*)
  | revoke
  | take (a : α)
  | give (a : α)
  | drop (a : α)
  | close

/-- The relay that has taken nothing. -/
def fresh : Relay α := ⟨[], [], none, false, false⟩

/-- The relay as a machine. -/
def machine : Machine (Relay α) (Move α) where
  Enabled r
    | .revoke => True
    | .take _ => r.hand = none ∧ r.closed = false
    | .give a => r.hand = some a
    | .drop a => r.hand = some a ∧ r.revoked = true
    | .close => r.hand = none
  next r
    | .revoke => { r with revoked := true }
    | .take a => { r with taken := r.taken ++ [a], hand := some a }
    | .give a => { r with given := r.given ++ [a], hand := none }
    | .drop _ => { r with hand := none, closed := true }
    | .close => { r with closed := true }

/-- **Nothing is reordered, changed or lost**: what was taken is what was given and
what is in hand – or the relay was revoked, has closed, and one thing is missing at
the end. -/
def Faithful (r : Relay α) : Prop :=
  r.taken = r.given ++ r.hand.toList ∨
    r.revoked = true ∧ r.closed = true ∧ r.hand = none ∧ ∃ a, r.taken = r.given ++ [a]

theorem faithful_next (r : Relay α) (m : Move α) (h : r.Faithful) (hm : machine.Enabled r m) :
    (machine.next r m).Faithful := by
  cases m with
  | revoke =>
    rcases h with h | ⟨-, hc, hh, ha⟩
    · exact Or.inl h
    · exact Or.inr ⟨rfl, hc, hh, ha⟩
  | take a =>
    obtain ⟨hh, hc⟩ := hm
    rcases h with h | ⟨-, hc', -, -⟩
    · refine Or.inl ?_
      rw [hh, Option.toList_none, List.append_nil] at h
      exact congrArg (· ++ [a]) h
    · exact absurd (hc.symm.trans hc') nofun
  | give a =>
    have hh : r.hand = some a := hm
    rcases h with h | ⟨-, -, hn, -⟩
    · refine Or.inl ?_
      rw [hh] at h
      exact h.trans (List.append_nil _).symm
    · exact absurd (hh.symm.trans hn) nofun
  | drop a =>
    obtain ⟨hh, hr⟩ := hm
    rcases h with h | ⟨-, -, hn, -⟩
    · rw [hh] at h
      exact Or.inr ⟨hr, rfl, rfl, a, h⟩
    · exact absurd (hh.symm.trans hn) nofun
  | close =>
    rcases h with h | ⟨hr, -, hh, ha⟩
    · exact Or.inl h
    · exact Or.inr ⟨hr, rfl, hh, ha⟩

/-- **A relay is faithful throughout.** -/
theorem faithful_of_reachable {r : Relay α} (h : machine.Reachable fresh r) : r.Faithful :=
  h.invariant faithful_next (Or.inl rfl)

end Relay

end IngestionLab
