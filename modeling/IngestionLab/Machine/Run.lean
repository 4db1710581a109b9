import Mathlib.Data.List.Basic
import Mathlib.Logic.Relation

/-!
# Machines of guarded commands, and what holds along their runs

A concurrent program is modelled here as one machine: a state, a set of named
actions, and for each action when it is **enabled** and what it **does**. An
interleaving is then nothing but a list of actions each of which is enabled
where it is taken (`IngestionLab.Machine.Run`), and the state it ends in is a
fold (`IngestionLab.Machine.after`), so that a concrete interleaving can be
evaluated.

Three ways of speaking about a run are used throughout.

* **Reachability** (`IngestionLab.Machine.Reachable`) and its induction
  principle, for invariants.
* **Always** and **Along** (`IngestionLab.Machine.Always`,
  `IngestionLab.Machine.Along`): a property of every state visited, and a
  condition on every step taken. The rules
  `IngestionLab.Machine.always_of_along` and
  `IngestionLab.Machine.along_of_always` together say *exactly when* a property
  survives a run: when no step of the run is one of those that break it.
* **Simulation** (`IngestionLab.Machine.Simulates`): a map of states under which
  every action of one machine is a run of another, so that what is reachable in
  the first is, seen through the map, reachable in the second.
-/

namespace IngestionLab

/-- **A machine of guarded commands**: when each action may be taken, and the
state it leads to. What `next` does to a state where the action is not enabled
is of no interest. -/
structure Machine (σ α : Type*) where
  /-- The action may be taken in this state. -/
  Enabled : σ → α → Prop
  /-- The state the action leads to. -/
  next : σ → α → σ

namespace Machine

variable {σ α τ β : Type*} (m : Machine σ α)

/-! ### Runs -/

/-- **A run**: each action is enabled in the state the ones before it lead to. -/
def Run : σ → List α → Prop
  | _, [] => True
  | s, a :: as => m.Enabled s a ∧ Run (m.next s a) as

/-- The state a list of actions leads to. -/
def after (s : σ) (as : List α) : σ := as.foldl m.next s

@[simp] theorem run_nil (s : σ) : m.Run s [] := trivial

@[simp] theorem run_cons (s : σ) (a : α) (as : List α) :
    m.Run s (a :: as) ↔ m.Enabled s a ∧ m.Run (m.next s a) as := Iff.rfl

@[simp] theorem after_nil (s : σ) : m.after s [] = s := rfl

@[simp] theorem after_cons (s : σ) (a : α) (as : List α) :
    m.after s (a :: as) = m.after (m.next s a) as := rfl

instance decidableRun [∀ s a, Decidable (m.Enabled s a)] :
    ∀ (s : σ) (as : List α), Decidable (m.Run s as)
  | _, [] => .isTrue trivial
  | s, a :: as =>
    have := decidableRun (m.next s a) as
    inferInstanceAs (Decidable (m.Enabled s a ∧ m.Run (m.next s a) as))

theorem after_append (s : σ) (as bs : List α) :
    m.after s (as ++ bs) = m.after (m.after s as) bs := List.foldl_append

theorem run_append (s : σ) (as bs : List α) :
    m.Run s (as ++ bs) ↔ m.Run s as ∧ m.Run (m.after s as) bs := by
  induction as generalizing s with
  | nil => simp
  | cons a as ih => simp [ih, and_assoc]

/-- Where every action is enabled, every list of actions is a run. -/
theorem run_of_forall {m : Machine σ α} (h : ∀ s a, m.Enabled s a) (s : σ) (as : List α) :
    m.Run s as := by
  induction as generalizing s with
  | nil => trivial
  | cons a as ih => exact ⟨h s a, ih (m.next s a)⟩

/-! ### Reachability -/

/-- A state some run leads to. -/
def Reachable (s t : σ) : Prop := ∃ as, m.Run s as ∧ m.after s as = t

variable {m}

theorem Reachable.refl (s : σ) : m.Reachable s s := ⟨[], trivial, rfl⟩

theorem Reachable.step {s t : σ} {a : α} (h : m.Reachable s t) (ha : m.Enabled t a) :
    m.Reachable s (m.next t a) := by
  obtain ⟨as, hrun, rfl⟩ := h
  exact ⟨as ++ [a], (m.run_append s as [a]).mpr ⟨hrun, ha, trivial⟩, m.after_append s as [a]⟩

theorem Reachable.trans {s t u : σ} (h : m.Reachable s t) (h' : m.Reachable t u) :
    m.Reachable s u := by
  obtain ⟨as, hrun, rfl⟩ := h
  obtain ⟨bs, hrun', rfl⟩ := h'
  exact ⟨as ++ bs, (m.run_append s as bs).mpr ⟨hrun, hrun'⟩, m.after_append s as bs⟩

/-- **The invariant rule**: what one enabled action preserves, every run
preserves. -/
theorem invariant_of_run {I : σ → Prop}
    (hstep : ∀ s a, I s → m.Enabled s a → I (m.next s a)) {s : σ} {as : List α}
    (hs : I s) (hrun : m.Run s as) : I (m.after s as) := by
  induction as generalizing s with
  | nil => exact hs
  | cons a as ih => exact ih (hstep s a hs hrun.1) hrun.2

theorem Reachable.invariant {I : σ → Prop}
    (hstep : ∀ s a, I s → m.Enabled s a → I (m.next s a)) {s t : σ}
    (hs : I s) (h : m.Reachable s t) : I t := by
  obtain ⟨as, hrun, rfl⟩ := h
  exact invariant_of_run hstep hs hrun

/-! ### Runs of some actions only -/

variable (m) in
/-- **A run of actions that meet a condition** leads from the one state to the other. -/
def Leads (P : α → Prop) (s t : σ) : Prop :=
  ∃ as, m.Run s as ∧ m.after s as = t ∧ ∀ a ∈ as, P a

variable {P Q : α → Prop}

theorem Leads.refl (s : σ) : m.Leads P s s := ⟨[], trivial, rfl, fun _ h => absurd h List.not_mem_nil⟩

theorem Leads.trans {s t u : σ} (h : m.Leads P s t) (h' : m.Leads P t u) : m.Leads P s u := by
  obtain ⟨as, hrun, rfl, hP⟩ := h
  obtain ⟨bs, hrun', rfl, hP'⟩ := h'
  refine ⟨as ++ bs, (m.run_append s as bs).mpr ⟨hrun, hrun'⟩, m.after_append s as bs, ?_⟩
  intro a ha
  exact (List.mem_append.mp ha).elim (hP a) (hP' a)

theorem Leads.single {s : σ} {a : α} (ha : m.Enabled s a) (hP : P a) : m.Leads P s (m.next s a) := by
  refine ⟨[a], ⟨ha, trivial⟩, rfl, fun b hb => ?_⟩
  rw [List.mem_singleton.mp hb]
  exact hP

theorem Leads.mono (h : ∀ a, P a → Q a) {s t : σ} (hst : m.Leads P s t) : m.Leads Q s t := by
  obtain ⟨as, hrun, rfl, hP⟩ := hst
  exact ⟨as, hrun, rfl, fun a ha => h a (hP a ha)⟩

theorem Leads.reachable {s t : σ} (h : m.Leads P s t) : m.Reachable s t := by
  obtain ⟨as, hrun, hafter, -⟩ := h
  exact ⟨as, hrun, hafter⟩

/-- What the actions that meet the condition keep, such a run keeps. -/
theorem Leads.invariant {I : σ → Prop}
    (hstep : ∀ s a, I s → m.Enabled s a → P a → I (m.next s a)) {s t : σ} (hs : I s)
    (h : m.Leads P s t) : I t := by
  obtain ⟨as, hrun, rfl, hP⟩ := h
  induction as generalizing s with
  | nil => exact hs
  | cons a as ih =>
    exact ih (hstep s a hs hrun.1 (hP a List.mem_cons_self)) hrun.2
      fun b hb => hP b (List.mem_cons_of_mem a hb)

/-! ### Along a run -/

variable (m) in
/-- The property holds in every state the run visits, both ends included. -/
def Always (P : σ → Prop) : σ → List α → Prop
  | s, [] => P s
  | s, a :: as => P s ∧ Always P (m.next s a) as

variable (m) in
/-- The condition holds of every step of the run, read in the state before it. -/
def Along (C : σ → α → Prop) : σ → List α → Prop
  | _, [] => True
  | s, a :: as => C s a ∧ Along C (m.next s a) as

variable (m) in
instance decidableAlong {C : σ → α → Prop} [h : ∀ s a, Decidable (C s a)] :
    ∀ (s : σ) (as : List α), Decidable (m.Along C s as)
  | _, [] => .isTrue trivial
  | s, a :: as =>
    have := h s a
    have : Decidable (m.Along C (m.next s a) as) := decidableAlong (m.next s a) as
    inferInstanceAs (Decidable (C s a ∧ m.Along C (m.next s a) as))

/-- A condition on the actions alone. -/
theorem along_of_forall {C : α → Prop} {s : σ} {as : List α} (h : ∀ a ∈ as, C a) :
    m.Along (fun _ a => C a) s as := by
  induction as generalizing s with
  | nil => trivial
  | cons a as ih =>
    exact ⟨h a List.mem_cons_self, ih fun b hb => h b (List.mem_cons_of_mem a hb)⟩

theorem Always.head {P : σ → Prop} {s : σ} : ∀ {as : List α}, m.Always P s as → P s
  | [], h => h
  | _ :: _, h => h.1

theorem Always.mono {P Q : σ → Prop} (h : ∀ s, P s → Q s) {s : σ} {as : List α}
    (hP : m.Always P s as) : m.Always Q s as := by
  induction as generalizing s with
  | nil => exact h s hP
  | cons a as ih => exact ⟨h s hP.1, ih hP.2⟩

theorem Always.last {P : σ → Prop} {s : σ} {as : List α} (h : m.Always P s as) :
    P (m.after s as) := by
  induction as generalizing s with
  | nil => exact h
  | cons a as ih => exact ih h.2

/-- **Always is every prefix**: the states a run visits are the ones its
prefixes lead to. -/
theorem always_iff_prefix {P : σ → Prop} {s : σ} {as : List α} :
    m.Always P s as ↔ ∀ bs, bs <+: as → P (m.after s bs) := by
  induction as generalizing s with
  | nil =>
    constructor
    · intro h bs hbs
      rw [List.prefix_nil.mp hbs]
      exact h
    · exact fun h => h [] List.prefix_rfl
  | cons a as ih =>
    constructor
    · rintro ⟨hs, hrest⟩ bs hbs
      cases bs with
      | nil => exact hs
      | cons b bs =>
        obtain ⟨rfl, hbs'⟩ := List.cons_prefix_cons.mp hbs
        exact ih.mp hrest bs hbs'
    · intro h
      exact ⟨h [] (List.nil_prefix), ih.mpr fun bs hbs =>
        h (a :: bs) (List.cons_prefix_cons.mpr ⟨rfl, hbs⟩)⟩

/-- The steps that meet `C` keep `P`; hence a run all of whose steps meet `C` keeps
`P` throughout. -/
theorem always_of_along {P : σ → Prop} {C : σ → α → Prop}
    (hkeep : ∀ s a, P s → m.Enabled s a → C s a → P (m.next s a))
    {s : σ} {as : List α} (hs : P s) (hrun : m.Run s as) (h : m.Along C s as) :
    m.Always P s as := by
  induction as generalizing s with
  | nil => exact hs
  | cons a as ih => exact ⟨hs, ih (hkeep s a hs hrun.1 h.1) hrun.2 h.2⟩

/-- What the steps that meet `C` keep gives `D` of each of them. -/
theorem Along.mono {I : σ → Prop} {C D : σ → α → Prop}
    (hkeep : ∀ s a, I s → m.Enabled s a → C s a → I (m.next s a))
    (h : ∀ s a, I s → m.Enabled s a → C s a → D s a)
    {s : σ} {as : List α} (hs : I s) (hrun : m.Run s as) (hC : m.Along C s as) :
    m.Along D s as := by
  induction as generalizing s with
  | nil => trivial
  | cons a as ih =>
    exact ⟨h s a hs hrun.1 hC.1, ih (hkeep s a hs hrun.1 hC.1) hrun.2 hC.2⟩

/-- What every step keeps holds throughout a run. -/
theorem always_of_run {P : σ → Prop} (hstep : ∀ s a, P s → m.Enabled s a → P (m.next s a))
    {s : σ} {as : List α} (hs : P s) (hrun : m.Run s as) : m.Always P s as := by
  induction as generalizing s with
  | nil => exact hs
  | cons a as ih => exact ⟨hs, ih (hstep s a hs hrun.1) hrun.2⟩

/-- The steps that meet `C` keep an invariant, under which the others break `P`; hence a
run that keeps `P` throughout takes no other step. -/
theorem along_of_always_of_keep {I P : σ → Prop} {C : σ → α → Prop}
    (hkeep : ∀ s a, I s → m.Enabled s a → C s a → I (m.next s a))
    (hbreak : ∀ s a, I s → m.Enabled s a → ¬C s a → ¬P (m.next s a))
    {s : σ} {as : List α} (hs : I s) (hrun : m.Run s as) (h : m.Always P s as) :
    m.Along C s as := by
  induction as generalizing s with
  | nil => trivial
  | cons a as ih =>
    have hC : C s a := by
      by_contra hC
      exact hbreak s a hs hrun.1 hC h.2.head
    exact ⟨hC, ih (hkeep s a hs hrun.1 hC) hrun.2 h.2⟩

/-- The steps that do not meet `C` break `P`, under an invariant `J`; hence a run
that keeps `P` throughout takes no such step. -/
theorem along_of_always {J P : σ → Prop} {C : σ → α → Prop}
    (hJ : ∀ s a, J s → m.Enabled s a → J (m.next s a))
    (hbreak : ∀ s a, J s → P s → m.Enabled s a → ¬C s a → ¬P (m.next s a))
    {s : σ} {as : List α} (hs : J s) (hrun : m.Run s as) (h : m.Always P s as) :
    m.Along C s as := by
  induction as generalizing s with
  | nil => trivial
  | cons a as ih =>
    obtain ⟨ha, hrest⟩ := hrun
    refine ⟨?_, ih (hJ s a hs ha) hrest h.2⟩
    by_contra hC
    exact hbreak s a hs h.1 ha hC h.2.head

/-! ### Observing a run -/

variable (m) in
/-- **What an observer has noted** at the end of a run: at every step it sees the state
before it and the action. -/
def observe {ω : Type*} (f : σ → α → ω → ω) : σ → ω → List α → ω
  | _, o, [] => o
  | s, o, a :: as => observe f (m.next s a) (f s a o) as

variable (m) in
theorem observe_append {ω : Type*} (f : σ → α → ω → ω) (s : σ) (o : ω) (as bs : List α) :
    m.observe f s o (as ++ bs) = m.observe f (m.after s as) (m.observe f s o as) bs := by
  induction as generalizing s o with
  | nil => rfl
  | cons a as ih => exact ih (m.next s a) (f s a o)

/-- An observer that appends what it sees in the actions. -/
theorem observe_append_eq_flatMap {β : Type*} (f : α → List β) (s : σ) (o : List β) (as : List α) :
    m.observe (fun _ a o => o ++ f a) s o as = o ++ as.flatMap f := by
  induction as generalizing s o with
  | nil => exact (List.append_nil o).symm
  | cons a as ih => rw [observe, ih, List.flatMap_cons, List.append_assoc]

/-- **The invariant rule for an observed run**, all of whose steps meet `C`. -/
theorem invariant_of_observe {ω : Type*} {f : σ → α → ω → ω} {I : σ → ω → Prop}
    {C : σ → α → Prop} (hstep : ∀ s a o, I s o → m.Enabled s a → C s a → I (m.next s a) (f s a o))
    {s : σ} {o : ω} {as : List α} (hs : I s o) (hrun : m.Run s as) (hC : m.Along C s as) :
    I (m.after s as) (m.observe f s o as) := by
  induction as generalizing s o with
  | nil => exact hs
  | cons a as ih => exact ih (hstep s a o hs hrun.1 hC.1) hrun.2 hC.2

/-! ### Simulation -/

/-- **A simulation**: seen through `f`, every action of `m` taken in a state
where `I` holds is a run of `n`. -/
def Simulates (m : Machine σ α) (n : Machine τ β) (I : σ → Prop) (f : σ → τ) : Prop :=
  ∀ s a, I s → m.Enabled s a → ∃ bs, n.Run (f s) bs ∧ n.after (f s) bs = f (m.next s a)

/-- **What is reachable in the simulated machine is reachable through the map.** -/
theorem Simulates.reachable {n : Machine τ β} {I : σ → Prop} {f : σ → τ}
    (h : Simulates m n I f) (hI : ∀ s a, I s → m.Enabled s a → I (m.next s a))
    {s t : σ} (hs : I s) (hst : m.Reachable s t) : n.Reachable (f s) (f t) := by
  have key : I t ∧ n.Reachable (f s) (f t) := by
    refine Reachable.invariant (I := fun u => I u ∧ n.Reachable (f s) (f u)) ?_
      ⟨hs, Reachable.refl _⟩ hst
    rintro u a ⟨hu, hreach⟩ ha
    obtain ⟨bs, hrun, hafter⟩ := h u a hu ha
    exact ⟨hI u a hu ha, hreach.trans ⟨bs, hrun, hafter⟩⟩
  exact key.2

end Machine

end IngestionLab
