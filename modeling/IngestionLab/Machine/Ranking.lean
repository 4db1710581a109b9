import IngestionLab.Machine.Run

/-!
# Ranks

A rank is a number that a machine can only use up. Two things follow from one.

* `IngestionLab.Machine.exists_leads_of_rank`: where a state that is not there yet has *some*
  step that lowers the rank, a run of such steps gets there. What the others could have done
  instead is not asked.
* `IngestionLab.Machine.Ranks.countP_add_le`: where *every* step that counts lowers the rank
  and no other raises it, a run takes at most as many steps that count as the rank it starts
  with, whatever is interleaved.
-/

namespace IngestionLab.Machine

variable {σ α : Type*} {m : Machine σ α}

/-! ### Getting there -/

/-- **A goal that can be approached is reached.** The induction is on the rank. -/
theorem exists_leads_of_rank {P : α → Prop} {I Q : σ → Prop} (rank : σ → ℕ)
    (hstep : ∀ s, I s → ¬Q s →
      ∃ a, m.Enabled s a ∧ P a ∧ I (m.next s a) ∧ rank (m.next s a) < rank s)
    {s : σ} (hs : I s) : ∃ t, m.Leads P s t ∧ I t ∧ Q t := by
  induction hn : rank s using Nat.strongRecOn generalizing s with
  | ind n ih =>
    subst hn
    by_cases hQ : Q s
    · exact ⟨s, .refl s, hs, hQ⟩
    · obtain ⟨a, ha, hP, hI, hlt⟩ := hstep s hs hQ
      obtain ⟨t, hlead, hIt, hQt⟩ := ih (rank (m.next s a)) hlt hI rfl
      exact ⟨t, (Leads.single ha hP).trans hlead, hIt, hQt⟩

/-- **What a part of a machine can do, the machine can do**, where each step of the part that
is not ruled out is one of the machine. -/
theorem Leads.lift {τ β : Type*} {n : Machine τ β} {P : α → Prop} {Q : β → Prop} {I : τ → Prop}
    {f : τ → σ} {g : α → β}
    (hstep : ∀ t a, I t → m.Enabled (f t) a → P a →
      n.Enabled t (g a) ∧ Q (g a) ∧ f (n.next t (g a)) = m.next (f t) a ∧ I (n.next t (g a)))
    {t : τ} (ht : I t) {s : σ} (h : m.Leads P (f t) s) : ∃ u, n.Leads Q t u ∧ f u = s ∧ I u := by
  obtain ⟨as, hrun, rfl, hP⟩ := h
  induction as generalizing t with
  | nil => exact ⟨t, .refl t, rfl, ht⟩
  | cons a as ih =>
    obtain ⟨ha, hQ, hnext, hI⟩ := hstep t a ht hrun.1 (hP a List.mem_cons_self)
    obtain ⟨u, hlead, hu, hIu⟩ := ih hI (hnext ▸ hrun.2) fun b hb => hP b (List.mem_cons_of_mem a hb)
    exact ⟨u, (Leads.single ha hQ).trans hlead, by rw [hu, hnext, after_cons], hIu⟩

/-! ### No more than so many steps -/

/-- **A rank of the steps that count**, while an invariant holds, in runs of steps that are
not ruled out: these steps lower it, the others do not raise it. -/
structure Ranks (m : Machine σ α) (I : σ → Prop) (C : α → Prop) (counts : α → Bool)
    (rank : σ → ℕ) : Prop where
  keep : ∀ s a, I s → m.Enabled s a → C a → I (m.next s a)
  lower : ∀ s a, I s → m.Enabled s a → C a → counts a = true → rank (m.next s a) < rank s
  stay : ∀ s a, I s → m.Enabled s a → C a → counts a = false → rank (m.next s a) ≤ rank s

/-- **What is left of the rank and the steps that counted** are together no more than the rank
at the start. -/
theorem Ranks.countP_add_le {I : σ → Prop} {C : α → Prop} {counts : α → Bool} {rank : σ → ℕ}
    (h : m.Ranks I C counts rank) {s : σ} {as : List α} (hs : I s) (hrun : m.Run s as)
    (hC : ∀ a ∈ as, C a) : as.countP counts + rank (m.after s as) ≤ rank s := by
  induction as generalizing s with
  | nil => exact Nat.le_of_eq (Nat.zero_add _)
  | cons a as ih =>
    have hCa := hC a List.mem_cons_self
    have hrest := ih (h.keep s a hs hrun.1 hCa) hrun.2 fun b hb => hC b (List.mem_cons_of_mem a hb)
    rw [after_cons, List.countP_cons]
    cases hcounts : counts a with
    | true =>
      have hlt := h.lower s a hs hrun.1 hCa hcounts
      simp only [if_true]
      omega
    | false =>
      have hle := h.stay s a hs hrun.1 hCa hcounts
      simp only [Bool.false_eq_true, if_false]
      omega

end IngestionLab.Machine
