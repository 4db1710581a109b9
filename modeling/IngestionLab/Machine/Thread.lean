import Mathlib.Data.List.Basic

/-!
# A thread beside others

A thread executes a straight-line program while the others interfere between any two
of its statements. What can be relied on at a point of the program is kept in a finite
record of facts; executing a statement turns the facts into others, or is refused
where the facts do not justify it. If the facts survive what the others do and the
statements do what they are said to do (`IngestionLab.Thread.Sound`), then a program
that passes the check from the facts that hold where it starts leads to the facts the
check ends with, whatever is interleaved (`IngestionLab.Thread.Covered.env`,
`IngestionLab.Thread.Covered.exec`).
-/

namespace IngestionLab

/-- A kind of thread: when a statement may be executed and what it does; what the facts
mean; and what a statement makes of them. -/
structure Thread (σ ι φ : Type*) where
  Ready : σ → ι → Prop
  exec : σ → ι → σ
  Holds : φ → σ → Prop
  after : φ → ι → Option φ

namespace Thread

variable {σ ι φ : Type*} (T : Thread σ ι φ)

/-- The facts a program ends with, `none` where one of its statements is refused. -/
def check (f : φ) (program : List ι) : Option φ := program.foldlM T.after f

/-- **The facts are sound** beside the others: they survive every step of these, and a
statement that is not refused establishes the facts it is said to. -/
structure Sound (Env : σ → σ → Prop) : Prop where
  env : ∀ f s t, T.Holds f s → Env s t → T.Holds f t
  exec : ∀ f g s i, T.Holds f s → T.Ready s i → T.after f i = some g → T.Holds g (T.exec s i)

/-- **The rest of the program is covered** up to facts that meet `Final`: it passes the
check from facts that hold now. -/
def Covered (Final : φ → Prop) (s : σ) (rest : List ι) : Prop :=
  ∃ f g, T.Holds f s ∧ T.check f rest = some g ∧ Final g

variable {T} {Env : σ → σ → Prop} {Final : φ → Prop} {s t : σ} {i : ι} {rest : List ι}

/-- The others leave the rest of the program covered. -/
theorem Covered.env (h : T.Covered Final s rest) (hT : T.Sound Env) (hst : Env s t) :
    T.Covered Final t rest := by
  obtain ⟨f, g, hf, hcheck, hg⟩ := h
  exact ⟨f, g, hT.env f s t hf hst, hcheck, hg⟩

/-- **Executing a statement leaves what follows covered.** -/
theorem Covered.exec (h : T.Covered Final s (i :: rest)) (hT : T.Sound Env) (hi : T.Ready s i) :
    T.Covered Final (T.exec s i) rest := by
  obtain ⟨f, g, hf, hcheck, hg⟩ := h
  rw [check, List.foldlM_cons] at hcheck
  obtain ⟨f', hf', hrest⟩ := Option.bind_eq_some_iff.mp hcheck
  exact ⟨f', g, hT.exec f f' s i hf hi hf', hrest, hg⟩

/-- A statement about to be executed was not refused. -/
theorem Covered.exists_after (h : T.Covered Final s (i :: rest)) :
    ∃ f f', T.Holds f s ∧ T.after f i = some f' := by
  obtain ⟨f, g, hf, hcheck, -⟩ := h
  rw [check, List.foldlM_cons] at hcheck
  obtain ⟨f', hf', -⟩ := Option.bind_eq_some_iff.mp hcheck
  exact ⟨f, f', hf, hf'⟩

/-- At the end of the program the facts it was to end with hold. -/
theorem Covered.final (h : T.Covered Final s []) : ∃ f, T.Holds f s ∧ Final f := by
  obtain ⟨f, g, hf, hcheck, hg⟩ := h
  obtain rfl : f = g := Option.some.inj hcheck
  exact ⟨f, hf, hg⟩

end Thread

end IngestionLab
