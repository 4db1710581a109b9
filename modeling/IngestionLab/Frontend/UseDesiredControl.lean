import IngestionLab.Machine.Run

/-!
# Desired values and what becomes of them

The model of `hooks/useDesiredControl.ts`: a control shows the value that is applied, the
value the user moves it to, or the value that has been sent and is waited for.

React works the updates of the state off one after the other, at any time before it
renders again; until then the state the callbacks read is ahead of it. An effect is run at
any time after the render it belongs to, and before the next one. What the control comes
to once all this has happened is `IngestionLab.Frontend.UseDesiredControl.settled`.

Over it is the loop of the control with its backend
(`IngestionLab.Frontend.ControlLoop`), whose value others may change as well. A commit is
waited for until a later snapshot shows exactly its value, and no other snapshot ends that:
`IngestionLab.Frontend.ControlLoop.released_iff_applied`.
-/

namespace IngestionLab.Frontend

/-! ### Data -/

/-- `DesiredControlPhase`. -/
inductive DesiredControlPhase
  | idle
  | preview
  | pending
  deriving DecidableEq, Repr

/-- `DesiredState`. -/
structure DesiredState (T : Type) where
  desired : T
  phase : DesiredControlPhase
  submittedRevision : Option ℕ
  error : Option String
  deriving DecidableEq, Repr

/-- The state of a control nobody has moved. -/
def DesiredState.resting {T : Type} (applied : T) (error : Option String := none) :
    DesiredState T where
  desired := applied
  phase := .idle
  submittedRevision := none
  error := error

@[simp] theorem DesiredState.phase_resting {T : Type} (applied : T) (error : Option String) :
    (resting applied error).phase = .idle := rfl

/-- The messages among the `DesiredControlOptions`. -/
structure DesiredControlMessages where
  rejectionMessage : String := "Change rejected"
  unavailableMessage : String := "Change unavailable"

/-- **What is rendered**: `applied`, `revision` and `available`. -/
structure Rendered (T : Type) where
  applied : T
  revision : ℕ
  available : Bool
  deriving DecidableEq, Repr

/-- What is handed to `setState`: a state, or the function of the effect, with what it has
captured. -/
inductive StateUpdate (T : Type)
  | set (next : DesiredState T)
  | effect (rendered : Rendered T)
  deriving DecidableEq, Repr

/-- **A commit that has been dispatched.** -/
structure Commit (T : Type) where
  token : ℕ
  desired : T
  submittedRevision : ℕ
  deriving DecidableEq, Repr

/-- What becomes of a dispatch: a receipt, or an exception. -/
inductive DispatchOutcome
  | accepted
  | rejected
  | thrown
  deriving DecidableEq, Repr

/-- **The hook.** Its references to what is rendered are assigned together. The commits that
have been dispatched, the latest first, only observe. -/
structure UseDesiredControl (T : Type) where
  state : DesiredState T
  updates : List (StateUpdate T) := []
  stateRef : DesiredState T
  rendered : Rendered T
  tokenRef : ℕ := 0
  effectDue : Bool := true
  awaited : List (Commit T) := []
  commits : List (Commit T) := []
  deriving DecidableEq, Repr

/-- The state while a commit is waited for. -/
def Commit.state {T : Type} (commit : Commit T) : DesiredState T where
  desired := commit.desired
  phase := .pending
  submittedRevision := some commit.submittedRevision
  error := none

@[simp] theorem Commit.phase_state {T : Type} (commit : Commit T) :
    commit.state.phase = .pending := rfl

namespace UseDesiredControl

open DesiredState

variable {T : Type} [DecidableEq T]

/-! ### The hook -/

/-- What is rendered shows the value that is waited for, at a later revision. -/
def Shows (rendered : Rendered T) (current : DesiredState T) : Prop :=
  (current.submittedRevision.any fun submitted => submitted < rendered.revision) = true ∧
    rendered.applied = current.desired

instance (rendered : Rendered T) (current : DesiredState T) : Decidable (Shows rendered current) :=
  inferInstanceAs (Decidable (_ ∧ _))

/-- **The function of the effect**, with what it makes of `tokenRef`. -/
def effectUpdate (rendered : Rendered T) (current : DesiredState T) (token : ℕ) :
    DesiredState T × ℕ :=
  if rendered.available = false then
    (if current.desired = rendered.applied ∧ current.phase = .idle ∧ current.error = none then current
      else resting rendered.applied,
      if current.phase ≠ .idle then token + 1 else token)
  else if current.phase = .idle then
    (if current.desired = rendered.applied then current
      else { current with desired := rendered.applied }, token)
  else if current.phase = .pending ∧ Shows rendered current then
    (resting rendered.applied, token + 1)
  else (current, token)

/-- React works an update off. -/
def applyUpdate (current : DesiredState T × ℕ) : StateUpdate T → DesiredState T × ℕ
  | .set next => (next, current.2)
  | .effect rendered => effectUpdate rendered current.1 current.2

/-- The first render. -/
def mount (rendered : Rendered T) : UseDesiredControl T where
  state := resting rendered.applied
  stateRef := resting rendered.applied
  rendered := rendered

variable (messages : DesiredControlMessages) (hook : UseDesiredControl T)

/-- **A render**, once all updates have been worked off. The effect depends on all that is
rendered. -/
def render (rendered : Rendered T) : UseDesiredControl T :=
  { hook with stateRef := hook.state, rendered, effectDue := rendered ≠ hook.rendered }

/-- `setState`. -/
def setState (next : DesiredState T) : UseDesiredControl T :=
  { hook with updates := hook.updates ++ [.set next] }

/-- The effect is run. -/
def runEffect : UseDesiredControl T :=
  { hook with updates := hook.updates ++ [.effect hook.rendered], effectDue := false }

/-- The first of the updates is worked off. -/
def workOff : UseDesiredControl T :=
  match hook.updates with
  | [] => hook
  | update :: updates =>
    let (state, tokenRef) := applyUpdate (hook.state, hook.tokenRef) update
    { hook with state, tokenRef, updates }

/-- **`preview`.** -/
def preview (value : T) : UseDesiredControl T :=
  if hook.rendered.available = false ∨ hook.stateRef.phase = .pending then hook
  else
    let next : DesiredState T :=
      { desired := value, phase := .preview, submittedRevision := none, error := none }
    setState { hook with stateRef := next } next

/-- **`cancel`.** -/
def cancel : UseDesiredControl T :=
  if hook.stateRef.phase ≠ .preview then hook
  else
    let next := resting hook.rendered.applied
    setState { hook with tokenRef := hook.tokenRef + 1, stateRef := next } next

/-- **`commit`** up to its `await`; what it returns, where it does not come so far. -/
def commit (value : Option T) : UseDesiredControl T × Option Bool :=
  if hook.rendered.available = false ∨ hook.stateRef.phase = .pending then (hook, some false)
  else
    let desired := value.getD hook.stateRef.desired
    if desired = hook.rendered.applied then
      (hook.setState (resting hook.rendered.applied), some true)
    else
      let commit : Commit T :=
        { token := hook.tokenRef + 1, desired, submittedRevision := hook.rendered.revision }
      (setState { hook with
        tokenRef := commit.token
        stateRef := commit.state
        awaited := commit :: hook.awaited
        commits := commit :: hook.commits } commit.state, none)

/-- **`commit` from its `await` on**, and what it returns. -/
def receive (commit : Commit T) (outcome : DispatchOutcome) : UseDesiredControl T × Bool :=
  let hook := { hook with awaited := hook.awaited.erase commit }
  match outcome with
  | .accepted => (hook, true)
  | .rejected =>
    if hook.tokenRef ≠ commit.token then (hook, false)
    else
      (hook.setState (resting hook.rendered.applied (some messages.rejectionMessage)), false)
  | .thrown =>
    if hook.tokenRef = commit.token then
      (hook.setState (resting hook.rendered.applied (some messages.unavailableMessage)), false)
    else (hook, false)

/-- What the updates come to. -/
def worked : DesiredState T × ℕ := hook.updates.foldl applyUpdate (hook.state, hook.tokenRef)

/-- **What the control comes to** once the effect has been run and all updates have been
worked off. -/
def settled : DesiredState T × ℕ :=
  if hook.effectDue then effectUpdate hook.rendered hook.worked.1 hook.worked.2 else hook.worked

/-! ### Updates -/

variable {messages} {hook} {rendered : Rendered T} {current : DesiredState T} {token : ℕ}
  {updates : List (StateUpdate T)}

/-- **The effect leaves a control waiting** only where it finds it so, while it is available
and its value has not been shown. -/
theorem effectUpdate_of_pending (h : (effectUpdate rendered current token).1.phase = .pending) :
    effectUpdate rendered current token = (current, token) ∧ current.phase = .pending ∧
      rendered.available = true ∧ ¬Shows rendered current := by
  rw [effectUpdate] at h ⊢
  by_cases havailable : rendered.available = false
  · rw [if_pos havailable] at h
    dsimp only at h
    split at h
    · next hsame => exact absurd (h.symm.trans hsame.2.1) nofun
    · exact absurd h nofun
  rw [if_neg havailable] at h ⊢
  by_cases hidle : current.phase = .idle
  · rw [if_pos hidle] at h
    dsimp only at h
    split at h
    · exact absurd (h.symm.trans hidle) nofun
    · exact absurd (h.symm.trans hidle) nofun
  rw [if_neg hidle] at h ⊢
  by_cases hshows : current.phase = .pending ∧ Shows rendered current
  · rw [if_pos hshows] at h
    exact absurd h nofun
  rw [if_neg hshows] at h ⊢
  exact ⟨rfl, h, eq_true_of_ne_false havailable, fun hc => hshows ⟨h, hc⟩⟩

/-- It leaves one waiting there. -/
theorem effectUpdate_eq_self (hpending : current.phase = .pending)
    (havailable : rendered.available = true) (hshows : ¬Shows rendered current) :
    effectUpdate rendered current token = (current, token) := by
  rw [effectUpdate, if_neg (by rw [havailable]; exact nofun), if_neg (by rw [hpending]; exact nofun),
    if_neg fun hc => hshows hc.2]

/-- The token is kept where nothing is waited for. -/
theorem token_effectUpdate (havailable : rendered.available = true)
    (hpending : current.phase ≠ .pending) : (effectUpdate rendered current token).2 = token := by
  rw [effectUpdate, if_neg (by rw [havailable]; exact nofun)]
  split
  · rfl
  · rw [if_neg fun hc => hpending hc.1]

theorem le_effectUpdate (rendered : Rendered T) (current : DesiredState T) (token : ℕ) :
    token ≤ (effectUpdate rendered current token).2 := by
  rw [effectUpdate]
  split
  · dsimp only
    split
    · exact Nat.le_succ token
    · exact Nat.le_refl token
  split
  · exact Nat.le_refl token
  split
  · exact Nat.le_succ token
  · exact Nat.le_refl token

/-- A control that rests shows what is applied. -/
theorem effectUpdate_resting (rendered : Rendered T) (error : Option String) (token : ℕ) :
    (effectUpdate rendered (resting rendered.applied error) token).1.phase = .idle ∧
      (effectUpdate rendered (resting rendered.applied error) token).1.desired =
        rendered.applied := by
  rw [effectUpdate]
  split
  · dsimp only
    split
    · exact ⟨rfl, rfl⟩
    · exact ⟨rfl, rfl⟩
  · rw [if_pos (phase_resting _ _)]
    dsimp only
    split
    · exact ⟨rfl, rfl⟩
    · exact ⟨rfl, rfl⟩

theorem le_foldl (updates : List (StateUpdate T)) (x : DesiredState T × ℕ) :
    x.2 ≤ (updates.foldl applyUpdate x).2 := by
  induction updates generalizing x with
  | nil => exact Nat.le_refl _
  | cons update updates ih =>
    refine Nat.le_trans ?_ (ih _)
    cases update with
    | set next => exact Nat.le_refl _
    | effect rendered => exact le_effectUpdate ..

/-- **Where the updates lead to waiting**, the state has been set so, or it was so. -/
theorem foldl_of_pending {x : DesiredState T × ℕ}
    (h : (updates.foldl applyUpdate x).1.phase = .pending) :
    (updates.foldl applyUpdate x).1 = x.1 ∨
      .set (updates.foldl applyUpdate x).1 ∈ updates := by
  induction updates generalizing x with
  | nil => exact .inl rfl
  | cons update updates ih =>
    rw [List.foldl_cons] at h ⊢
    rcases ih h with hsame | hset
    · cases update with
      | set next => exact .inr (hsame ▸ List.mem_cons_self)
      | effect rendered =>
        rw [hsame] at h
        exact .inl (hsame.trans (congrArg Prod.fst (effectUpdate_of_pending h).1))
    · exact .inr (List.mem_cons_of_mem _ hset)

/-- **Updates of a control that is available and does not wait** keep the token. -/
theorem token_foldl {x : DesiredState T × ℕ} (hx : x.1.phase ≠ .pending)
    (hsets : ∀ next, .set next ∈ updates → next.phase ≠ .pending)
    (heffects : ∀ rendered, .effect rendered ∈ updates → rendered.available = true) :
    (updates.foldl applyUpdate x).2 = x.2 := by
  induction updates generalizing x with
  | nil => rfl
  | cons update updates ih =>
    have hsets' : ∀ next, .set next ∈ updates → next.phase ≠ .pending :=
      fun next hnext => hsets next (List.mem_cons_of_mem _ hnext)
    have heffects' : ∀ rendered, .effect rendered ∈ updates → rendered.available = true :=
      fun rendered hrendered => heffects rendered (List.mem_cons_of_mem _ hrendered)
    rw [List.foldl_cons]
    cases update with
    | set next => exact ih (x := (next, x.2)) (hsets next List.mem_cons_self) hsets' heffects'
    | effect rendered =>
      have havailable := heffects rendered List.mem_cons_self
      have hstays : (effectUpdate rendered x.1 x.2).1.phase ≠ .pending :=
        fun hc => hx (effectUpdate_of_pending hc).2.1
      exact (ih hstays hsets' heffects').trans (token_effectUpdate havailable hx)

theorem worked_setState (hook : UseDesiredControl T) (next : DesiredState T) :
    (hook.setState next).worked = (next, hook.worked.2) := by
  rw [worked, setState, List.foldl_append]
  rfl

/-- A state that does not wait, once it has been set, is what the control comes to. -/
theorem settled_setState (hook : UseDesiredControl T) {next : DesiredState T}
    (hnext : next.phase ≠ .pending) : (hook.setState next).settled.1.phase ≠ .pending := by
  intro hpending
  rw [settled, worked_setState] at hpending
  split at hpending
  · exact hnext (effectUpdate_of_pending hpending).2.1
  · exact hnext hpending

theorem settled_runEffect (hdue : hook.effectDue = true) : hook.runEffect.settled = hook.settled := by
  have hworked : hook.runEffect.worked =
      effectUpdate hook.rendered hook.worked.1 hook.worked.2 := by
    rw [worked, runEffect, List.foldl_append]
    rfl
  rw [settled, settled, hworked, if_pos hdue, if_neg]
  exact nofun

theorem worked_workOff (hook : UseDesiredControl T) : hook.workOff.worked = hook.worked := by
  rw [workOff]
  cases hupdates : hook.updates with
  | nil => rfl
  | cons update updates =>
    rw [worked, worked, hupdates]
    rfl

/-- What is still to come does not change by being worked off. -/
theorem settled_workOff (hook : UseDesiredControl T) : hook.workOff.settled = hook.settled := by
  have hsame : hook.workOff.effectDue = hook.effectDue ∧ hook.workOff.rendered = hook.rendered := by
    rw [workOff]
    cases hook.updates with
    | nil => exact ⟨rfl, rfl⟩
    | cons update updates => exact ⟨rfl, rfl⟩
  rw [settled, settled, worked_workOff, hsame.1, hsame.2]

theorem worked_le_settled (hook : UseDesiredControl T) : hook.worked.2 ≤ hook.settled.2 := by
  rw [settled]
  split
  · exact le_effectUpdate ..
  · exact Nat.le_refl _

/-! ### The invariant -/

/-- **The state of the hook hangs together.** Whatever waits, now or once it is worked off,
is what the callbacks read, and the latest commit; its token is the current one. -/
structure Sound (hook : UseDesiredControl T) : Prop where
  effects : ∀ rendered, .effect rendered ∈ hook.updates → rendered = hook.rendered
  waiting : ∀ state, state = hook.state ∨ .set state ∈ hook.updates → state.phase = .pending →
    state = hook.stateRef
  newest : hook.stateRef.phase = .pending →
    ∃ commit, hook.commits.head? = some commit ∧ hook.stateRef = commit.state
  ordered : hook.commits.Pairwise fun newer older => older.token < newer.token
  bounded : ∀ commit ∈ hook.commits, commit.token ≤ hook.tokenRef
  awaited : ∀ commit ∈ hook.awaited, commit ∈ hook.commits
  current : hook.settled.1.phase = .pending → hook.settled.2 = hook.tokenRef ∧
    (∀ commit ∈ hook.commits.head?, commit.token = hook.tokenRef) ∧
      hook.rendered.available = true ∧ ¬Shows hook.rendered hook.settled.1

theorem sound_mount (rendered : Rendered T) : (mount rendered).Sound := by
  have hidle : (mount rendered).settled.1.phase ≠ .pending := by
    intro hpending
    rw [settled] at hpending
    exact absurd (effectUpdate_of_pending hpending).2.1 nofun
  refine ⟨fun _ hmem => absurd hmem List.not_mem_nil, ?_, nofun, List.Pairwise.nil,
    fun _ hmem => absurd hmem List.not_mem_nil, fun _ hmem => absurd hmem List.not_mem_nil,
    fun hpending => absurd hpending hidle⟩
  rintro state (rfl | hmem) hpending
  · rfl
  · exact absurd hmem List.not_mem_nil

/-- What the control comes to, where it waits, is what the callbacks read. -/
theorem Sound.settled_eq (h : hook.Sound) (hpending : hook.settled.1.phase = .pending) :
    hook.settled.1 = hook.stateRef := by
  have hworked : hook.settled.1 = hook.worked.1 := by
    rw [settled] at hpending ⊢
    split
    · next hdue =>
      rw [if_pos hdue] at hpending
      rw [(effectUpdate_of_pending hpending).1]
    · rfl
  rw [hworked] at hpending ⊢
  exact h.waiting _ (foldl_of_pending hpending) hpending

/-- **A state that does not wait is set**, by a callback that finds nothing waiting or leaves
`stateRef` as it is. -/
theorem Sound.setState (h : hook.Sound) {hook' : UseDesiredControl T} {next : DesiredState T}
    (hnext : next.phase ≠ .pending) (hstate : hook'.state = hook.state)
    (hupdates : hook'.updates = hook.updates) (hrendered : hook'.rendered = hook.rendered)
    (hcommits : hook'.commits = hook.commits) (htoken : hook.tokenRef ≤ hook'.tokenRef)
    (hstateRef : hook'.stateRef = hook.stateRef ∨
      hook.stateRef.phase ≠ .pending ∧ hook'.stateRef.phase ≠ .pending)
    (hawaited : ∀ commit ∈ hook'.awaited, commit ∈ hook.awaited) : (hook'.setState next).Sound := by
  refine ⟨?_, ?_, ?_, ?_, ?_, ?_, fun hpending => absurd hpending (settled_setState hook' hnext)⟩
  · intro rendered hmem
    rcases List.mem_append.mp hmem with hmem | hmem
    · exact (h.effects rendered (hupdates ▸ hmem)).trans hrendered.symm
    · exact absurd (List.mem_singleton.mp hmem) nofun
  · intro state hsource hpending
    have hbefore : state = hook.stateRef := by
      rcases hsource with hsame | hmem
      · exact h.waiting state (.inl (hsame.trans hstate)) hpending
      · rcases List.mem_append.mp hmem with hmem | hmem
        · exact h.waiting state (.inr (hupdates ▸ hmem)) hpending
        · obtain rfl : state = next := StateUpdate.set.inj (List.mem_singleton.mp hmem)
          exact absurd hpending hnext
    rcases hstateRef with hsame | ⟨hfree, -⟩
    · exact hbefore.trans hsame.symm
    · exact absurd (hbefore ▸ hpending) hfree
  · intro hpending
    rcases hstateRef with hsame | ⟨-, hfree⟩
    · show ∃ commit, hook'.commits.head? = some commit ∧ hook'.stateRef = commit.state
      rw [hcommits, hsame]
      exact h.newest (hsame ▸ hpending)
    · exact absurd hpending hfree
  · show hook'.commits.Pairwise _
    rw [hcommits]
    exact h.ordered
  · intro commit hcommit
    exact Nat.le_trans (h.bounded commit (hcommits ▸ hcommit)) htoken
  · intro commit hcommit
    show commit ∈ hook'.commits
    rw [hcommits]
    exact h.awaited commit (hawaited commit hcommit)

theorem Sound.preview (h : hook.Sound) (value : T) : (hook.preview value).Sound := by
  rw [UseDesiredControl.preview]
  split
  · exact h
  · next hfree =>
    exact h.setState nofun rfl rfl rfl rfl (Nat.le_refl _)
      (.inr ⟨(not_or.mp hfree).2, nofun⟩) fun _ hcommit => hcommit

theorem Sound.cancel (h : hook.Sound) : hook.cancel.Sound := by
  rw [UseDesiredControl.cancel]
  split
  · exact h
  · next hpreview =>
    have hfree : hook.stateRef.phase ≠ .pending := by
      rw [not_not.mp hpreview]
      exact nofun
    exact h.setState nofun rfl rfl rfl rfl (Nat.le_succ _) (.inr ⟨hfree, nofun⟩)
      fun _ hcommit => hcommit

theorem Sound.receive (h : hook.Sound) (commit : Commit T) (outcome : DispatchOutcome) :
    (hook.receive messages commit outcome).1.Sound := by
  have herase : ∀ other ∈ hook.awaited.erase commit, other ∈ hook.awaited :=
    fun _ hother => List.mem_of_mem_erase hother
  have hdropped : Sound { hook with awaited := hook.awaited.erase commit } :=
    ⟨h.effects, h.waiting, h.newest, h.ordered, h.bounded,
      fun other hother => h.awaited other (herase other hother), h.current⟩
  have hset (error : String) : Sound (UseDesiredControl.setState
      { hook with awaited := hook.awaited.erase commit }
      (resting hook.rendered.applied (some error))) :=
    h.setState nofun rfl rfl rfl rfl (Nat.le_refl _) (.inl rfl) herase
  cases outcome with
  | accepted => exact hdropped
  | rejected =>
    rw [UseDesiredControl.receive]
    dsimp only
    split
    · exact hdropped
    · exact hset _
  | thrown =>
    rw [UseDesiredControl.receive]
    dsimp only
    split
    · exact hset _
    · exact hdropped

theorem Sound.runEffect (h : hook.Sound) (hdue : hook.effectDue = true) :
    hook.runEffect.Sound := by
  refine ⟨?_, ?_, h.newest, h.ordered, h.bounded, h.awaited, ?_⟩
  · intro rendered hmem
    rcases List.mem_append.mp hmem with hmem | hmem
    · exact h.effects rendered hmem
    · exact StateUpdate.effect.inj (List.mem_singleton.mp hmem)
  · intro state hsource hpending
    refine h.waiting state ?_ hpending
    rcases hsource with hsame | hmem
    · exact .inl hsame
    · rcases List.mem_append.mp hmem with hmem | hmem
      · exact .inr hmem
      · exact absurd (List.mem_singleton.mp hmem) nofun
  · rw [settled_runEffect hdue]
    exact h.current

theorem Sound.workOff (h : hook.Sound) : hook.workOff.Sound := by
  have hsettled := settled_workOff hook
  rw [UseDesiredControl.workOff] at hsettled ⊢
  cases hupdates : hook.updates with
  | nil => exact h
  | cons update updates =>
    rw [hupdates] at hsettled
    dsimp only at hsettled ⊢
    generalize hnext : applyUpdate (hook.state, hook.tokenRef) update = next at hsettled ⊢
    have hle : hook.tokenRef ≤ next.2 := by
      rw [← hnext]
      exact le_foldl [update] (hook.state, hook.tokenRef)
    refine ⟨?_, ?_, h.newest, h.ordered, ?_, h.awaited, ?_⟩
    · intro rendered hmem
      exact h.effects rendered (hupdates ▸ List.mem_cons_of_mem _ hmem)
    · rintro state (rfl | hmem) hpending
      · refine h.waiting _ ?_ hpending
        have hworked : ([update].foldl applyUpdate (hook.state, hook.tokenRef)).1 = next.1 :=
          congrArg Prod.fst hnext
        rcases foldl_of_pending (hworked ▸ hpending) with hsame | hset
        · exact .inl (hworked ▸ hsame)
        · rw [hworked] at hset
          exact .inr (hupdates ▸ List.mem_singleton.mp hset ▸ List.mem_cons_self)
      · exact h.waiting state (.inr (hupdates ▸ List.mem_cons_of_mem _ hmem)) hpending
    · intro commit hcommit
      exact Nat.le_trans (h.bounded commit hcommit) hle
    · rw [hsettled]
      intro hpending
      obtain ⟨htoken, hcommit, hrest⟩ := h.current hpending
      have hworked : hook.worked = updates.foldl applyUpdate next := by
        rw [worked, hupdates, List.foldl_cons, hnext]
      have hlast : next.2 ≤ hook.worked.2 := hworked ▸ le_foldl updates next
      have hsame : next.2 = hook.tokenRef :=
        Nat.le_antisymm (htoken ▸ Nat.le_trans hlast (worked_le_settled hook)) hle
      refine ⟨htoken.trans hsame.symm, fun commit hmem => ?_, hrest⟩
      exact (hcommit commit hmem).trans hsame.symm

/-- What is rendered again has been looked at by the effect. -/
theorem settled_render (rendered : Rendered T) (hupdates : hook.updates = [])
    (hdue : hook.effectDue = false) (hpending : (hook.render rendered).settled.1.phase = .pending) :
    hook.settled = (hook.state, hook.tokenRef) ∧
      (hook.render rendered).settled = (hook.state, hook.tokenRef) ∧
      (rendered = hook.rendered ∨ rendered.available = true ∧ ¬Shows rendered hook.state) := by
  have hworked : (hook.render rendered).worked = (hook.state, hook.tokenRef) := by
    rw [worked, UseDesiredControl.render, hupdates]
    rfl
  have hsettled : hook.settled = (hook.state, hook.tokenRef) := by
    rw [settled, hdue, if_neg Bool.false_ne_true, worked, hupdates]
    rfl
  refine ⟨hsettled, ?_⟩
  rw [settled, hworked] at hpending ⊢
  split
  · next hchanged =>
    rw [if_pos hchanged] at hpending
    obtain ⟨hsame, -, hrest⟩ := effectUpdate_of_pending hpending
    exact ⟨hsame, .inr hrest⟩
  · next hsame =>
    refine ⟨rfl, .inl ?_⟩
    rw [UseDesiredControl.render, decide_eq_true_eq] at hsame
    exact not_not.mp hsame

theorem Sound.render (h : hook.Sound) (rendered : Rendered T) (hupdates : hook.updates = [])
    (hdue : hook.effectDue = false) : (hook.render rendered).Sound := by
  have hnone : ∀ update, update ∉ hook.updates := by
    intro update
    rw [hupdates]
    exact List.not_mem_nil
  have hnewest : hook.state.phase = .pending →
      ∃ commit, hook.commits.head? = some commit ∧ hook.state = commit.state := by
    intro hpending
    have hsame := h.waiting hook.state (.inl rfl) hpending
    rw [hsame] at hpending ⊢
    exact h.newest hpending
  refine ⟨fun _ hmem => absurd hmem (hnone _), ?_, hnewest, h.ordered, h.bounded, h.awaited, ?_⟩
  · rintro state (rfl | hmem) -
    · rfl
    · exact absurd hmem (hnone _)
  · intro hpending
    obtain ⟨hbefore, hafter, hrendered⟩ := settled_render rendered hupdates hdue hpending
    rw [hafter] at hpending ⊢
    have hcurrent := h.current (hbefore ▸ hpending)
    rw [hbefore] at hcurrent
    refine ⟨rfl, hcurrent.2.1, ?_⟩
    rcases hrendered with rfl | hrendered
    · exact hcurrent.2.2
    · exact hrendered

theorem Sound.commit (h : hook.Sound) (value : Option T) : (hook.commit value).1.Sound := by
  rw [UseDesiredControl.commit]
  split
  · exact h
  next hfree =>
  obtain ⟨havailable, hfree⟩ := not_or.mp hfree
  dsimp only
  split
  · exact h.setState nofun rfl rfl rfl rfl (Nat.le_refl _) (.inl rfl) fun _ hcommit => hcommit
  -- Nothing waits, so the updates that are there keep the token of the new commit.
  generalize hnew : Commit.mk (hook.tokenRef + 1) _ hook.rendered.revision = new
  have htoken : new.token = hook.tokenRef + 1 := by rw [← hnew]
  have hstill : ∀ state, state = hook.state ∨ .set state ∈ hook.updates → state.phase ≠ .pending :=
    fun state hsource hpending => hfree (h.waiting state hsource hpending ▸ hpending)
  have hkept : (hook.updates.foldl applyUpdate (hook.state, hook.tokenRef + 1)).2 =
      hook.tokenRef + 1 :=
    token_foldl (hstill _ (.inl rfl)) (fun next hmem => hstill next (.inr hmem))
      fun rendered hmem => by
        rw [h.effects rendered hmem]
        exact eq_true_of_ne_false havailable
  have hshows : ¬Shows hook.rendered new.state := by
    rintro ⟨hlater, -⟩
    rw [← hnew] at hlater
    exact Nat.lt_irrefl _ (of_decide_eq_true hlater)
  have hsettled : (UseDesiredControl.setState { hook with
      tokenRef := hook.tokenRef + 1
      stateRef := new.state
      awaited := new :: hook.awaited
      commits := new :: hook.commits } new.state).settled = (new.state, hook.tokenRef + 1) := by
    rw [settled, worked_setState, worked]
    dsimp only
    rw [hkept]
    split
    · exact effectUpdate_eq_self rfl (eq_true_of_ne_false havailable) hshows
    · rfl
  refine ⟨?_, ?_, fun _ => ⟨new, rfl, rfl⟩, ?_, ?_, ?_, ?_⟩
  · intro rendered hmem
    rcases List.mem_append.mp hmem with hmem | hmem
    · exact h.effects rendered hmem
    · exact absurd (List.mem_singleton.mp hmem) nofun
  · rintro state (rfl | hmem) hpending
    · exact absurd hpending (hstill _ (.inl rfl))
    · rcases List.mem_append.mp hmem with hmem | hmem
      · exact absurd hpending (hstill state (.inr hmem))
      · exact StateUpdate.set.inj (List.mem_singleton.mp hmem)
  · refine List.pairwise_cons.mpr ⟨fun older holder => ?_, h.ordered⟩
    rw [htoken]
    exact Nat.lt_succ_of_le (h.bounded older holder)
  · intro commit hcommit
    rcases List.mem_cons.mp hcommit with rfl | hcommit
    · exact Nat.le_of_eq htoken
    · exact Nat.le_succ_of_le (h.bounded commit hcommit)
  · intro commit hcommit
    rcases List.mem_cons.mp hcommit with rfl | hcommit
    · exact List.mem_cons_self
    · exact List.mem_cons_of_mem _ (h.awaited commit hcommit)
  · rw [hsettled]
    intro hpending
    refine ⟨rfl, fun commit hcommit => ?_, eq_true_of_ne_false havailable, hshows⟩
    rw [← Option.some.inj hcommit]
    exact htoken

/-! ### What receipts and renders come to -/

/-- **A receipt of a commit that is not the latest** changes nothing. -/
theorem Sound.receive_older (h : hook.Sound) {commit : Commit T} (outcome : DispatchOutcome)
    (hawaited : commit ∈ hook.awaited) (holder : hook.commits.head? ≠ some commit) :
    (hook.receive messages commit outcome).1 =
      { hook with awaited := hook.awaited.erase commit } := by
  have hmem := h.awaited commit hawaited
  have hne : hook.tokenRef ≠ commit.token := by
    cases hcommits : hook.commits with
    | nil => exact absurd (hcommits ▸ hmem) List.not_mem_nil
    | cons newest older =>
      rw [hcommits] at hmem holder
      have hordered := h.ordered
      have hbound := h.bounded newest (hcommits ▸ List.mem_cons_self)
      rw [hcommits] at hordered
      rcases List.mem_cons.mp hmem with rfl | hmem
      · exact absurd rfl holder
      · exact Nat.ne_of_gt (Nat.lt_of_lt_of_le (List.rel_of_pairwise_cons hordered hmem) hbound)
  cases outcome with
  | accepted => rfl
  | rejected =>
    rw [UseDesiredControl.receive]
    exact congrArg Prod.fst (if_pos hne)
  | thrown =>
    rw [UseDesiredControl.receive]
    exact congrArg Prod.fst (if_neg hne)

/-- **Whatever waits is the latest commit**, and another one is not dispatched. -/
theorem Sound.pending_newest (h : hook.Sound) {state : DesiredState T}
    (hsource : state = hook.stateRef ∨ state = hook.state ∨ .set state ∈ hook.updates)
    (hpending : state.phase = .pending) :
    (∃ commit, hook.commits.head? = some commit ∧ state = commit.state) ∧
      ∀ value, hook.commit value = (hook, some false) := by
  have hsame : state = hook.stateRef :=
    hsource.elim id fun hsource => h.waiting state hsource hpending
  rw [hsame] at hpending ⊢
  refine ⟨h.newest hpending, fun value => ?_⟩
  rw [UseDesiredControl.commit, if_pos (.inr hpending)]

/-- **A commit that is refused**, where its token is the current one, brings the control back to
what is applied. -/
theorem settled_receive {commit : Commit T} {outcome : DispatchOutcome}
    (hrefused : outcome ≠ .accepted) (hcurrent : commit.token = hook.tokenRef) :
    let after := (hook.receive messages commit outcome).1
    after.settled.1.phase = .idle ∧ after.settled.1.desired = after.rendered.applied := by
  dsimp only
  have hset (error : String) :
      let after := setState { hook with awaited := hook.awaited.erase commit }
        (resting hook.rendered.applied (some error))
      after.settled.1.phase = .idle ∧ after.settled.1.desired = after.rendered.applied := by
    dsimp only
    rw [settled, worked_setState]
    split
    · exact effectUpdate_resting hook.rendered (some error) _
    · exact ⟨rfl, rfl⟩
  cases outcome with
  | accepted => exact absurd rfl hrefused
  | rejected =>
    rw [receive]
    dsimp only
    rw [if_neg (not_not.mpr hcurrent.symm)]
    exact hset _
  | thrown =>
    rw [receive]
    dsimp only
    rw [if_pos hcurrent.symm]
    exact hset _

/-- **What is rendered leaves the control waiting** if and only if it is available and does
not show the value of the commit at a later revision. -/
theorem Sound.render_pending_iff (h : hook.Sound) {commit : Commit T} (rendered : Rendered T)
    (hupdates : hook.updates = []) (hdue : hook.effectDue = false)
    (hpending : hook.state.phase = .pending) (hnewest : hook.commits.head? = some commit) :
    (hook.render rendered).settled.1.phase = .pending ↔ rendered.available = true ∧
      ¬(commit.submittedRevision < rendered.revision ∧ rendered.applied = commit.desired) := by
  have hstate : hook.state = commit.state := by
    obtain ⟨⟨newest, hhead, hstate⟩, -⟩ := h.pending_newest (.inr (.inl rfl)) hpending
    rw [hstate, Option.some.inj (hhead.symm.trans hnewest)]
  have hshows : Shows rendered hook.state ↔
      commit.submittedRevision < rendered.revision ∧ rendered.applied = commit.desired := by
    rw [Shows, hstate]
    exact and_congr_left' decide_eq_true_iff
  rw [← hshows]
  constructor
  · intro hwaits
    obtain ⟨hbefore, -, hrendered⟩ := settled_render rendered hupdates hdue hwaits
    rcases hrendered with rfl | hrendered
    · have hcurrent := (h.current (hbefore ▸ hpending)).2.2
      rw [hbefore] at hcurrent
      exact hcurrent
    · exact hrendered
  · rintro ⟨havailable, hunshown⟩
    have hworked : (hook.render rendered).worked = (hook.state, hook.tokenRef) := by
      rw [worked, UseDesiredControl.render, hupdates]
      rfl
    rw [settled, hworked]
    split
    · have hkept : effectUpdate rendered hook.state hook.tokenRef = (hook.state, hook.tokenRef) :=
        effectUpdate_eq_self hpending havailable hunshown
      exact (congrArg (fun x => x.1.phase) hkept).trans hpending
    · exact hpending

end UseDesiredControl

/-! ### The control and its backend -/

/-- A snapshot the backend has taken, with the answers it had given by then: the tokens of
the commits, and whether it has accepted them. -/
structure BackendSnapshot (T : Type) where
  applied : T
  handled : List (ℕ × Bool)
  deriving DecidableEq, Repr

/-- **The control and its backend**, with the snapshots that have been taken so far. -/
structure ControlLoop (T : Type) where
  control : UseDesiredControl T
  value : T
  handled : List (ℕ × Bool) := []
  snapshots : List (BackendSnapshot T) := []
  deriving DecidableEq, Repr

/-- **What may happen**: the user and React act on the control, the backend takes a commit
that has been dispatched, its receipt arrives, somebody else changes the value, a snapshot
is taken, and it is presented at some revision. -/
inductive ControlEvent (T : Type)
  | preview (value : T)
  | cancel
  | commit (value : Option T)
  | runEffect
  | workOff
  | rerender
  | handle (commit : Commit T) (accepted : Bool)
  | receive (commit : Commit T) (outcome : DispatchOutcome)
  | change (value : T)
  | observe
  | present (snapshot : BackendSnapshot T) (revision : ℕ) (available : Bool)
  deriving DecidableEq, Repr

namespace ControlLoop

variable {T : Type} [DecidableEq T]

/-- React renders once the effect has been run and all updates have been worked off. -/
def Ready (loop : ControlLoop T) : Prop :=
  loop.control.updates = [] ∧ loop.control.effectDue = false

instance (loop : ControlLoop T) : Decidable loop.Ready := inferInstanceAs (Decidable (_ ∧ _))

/-- **When an event may happen.** A receipt says what the backend has answered; an exception
says nothing. -/
def Enabled (loop : ControlLoop T) : ControlEvent T → Prop
  | .runEffect => loop.control.effectDue = true
  | .workOff => loop.control.updates ≠ []
  | .rerender => loop.Ready
  | .handle commit _ =>
    commit ∈ loop.control.commits ∧ ∀ answer, (commit.token, answer) ∉ loop.handled
  | .receive commit outcome =>
    commit ∈ loop.control.awaited ∧
      (outcome = .accepted → (commit.token, true) ∈ loop.handled) ∧
        (outcome = .rejected → (commit.token, false) ∈ loop.handled)
  | .present snapshot _ _ => snapshot ∈ loop.snapshots ∧ loop.Ready
  | _ => True

instance decidableEnabled (loop : ControlLoop T) :
    ∀ event : ControlEvent T, Decidable (loop.Enabled event)
  | .runEffect => inferInstanceAs (Decidable (_ = _))
  | .workOff => inferInstanceAs (Decidable (_ ≠ _))
  | .rerender => inferInstanceAs (Decidable loop.Ready)
  | .handle _ _ => inferInstanceAs (Decidable (_ ∧ ∀ _, _))
  | .receive _ _ => inferInstanceAs (Decidable (_ ∧ (_ → _) ∧ (_ → _)))
  | .present _ _ _ => inferInstanceAs (Decidable (_ ∧ _))
  | .preview _ | .cancel | .commit _ | .change _ | .observe => inferInstanceAs (Decidable True)

/-- **What an event does.** -/
def next (messages : DesiredControlMessages) (loop : ControlLoop T) :
    ControlEvent T → ControlLoop T
  | .preview value => { loop with control := loop.control.preview value }
  | .cancel => { loop with control := loop.control.cancel }
  | .commit value => { loop with control := (loop.control.commit value).1 }
  | .runEffect => { loop with control := loop.control.runEffect }
  | .workOff => { loop with control := loop.control.workOff }
  | .rerender => { loop with control := loop.control.render loop.control.rendered }
  | .handle commit accepted =>
    { loop with
      value := if accepted then commit.desired else loop.value
      handled := (commit.token, accepted) :: loop.handled }
  | .receive commit outcome =>
    { loop with control := (loop.control.receive messages commit outcome).1 }
  | .change value => { loop with value }
  | .observe => { loop with snapshots := ⟨loop.value, loop.handled⟩ :: loop.snapshots }
  | .present snapshot revision available =>
    { loop with control := loop.control.render ⟨snapshot.applied, revision, available⟩ }

/-- **The loop as a machine.** -/
def machine (messages : DesiredControlMessages) : Machine (ControlLoop T) (ControlEvent T) where
  Enabled := Enabled
  next := next messages

instance (messages : DesiredControlMessages) (loop : ControlLoop T) (event : ControlEvent T) :
    Decidable ((machine messages).Enabled loop event) :=
  decidableEnabled loop event

/-- A control that has just been mounted. -/
def start (applied : T) (revision : ℕ) (available : Bool) : ControlLoop T where
  control := UseDesiredControl.mount ⟨applied, revision, available⟩
  value := applied

variable {messages : DesiredControlMessages} {loop : ControlLoop T} {event : ControlEvent T}

/-- **Every event keeps the control sound.** -/
theorem sound_next (h : loop.control.Sound) (hevent : loop.Enabled event) :
    (loop.next messages event).control.Sound := by
  cases event with
  | preview value => exact h.preview value
  | cancel => exact h.cancel
  | commit value => exact h.commit value
  | runEffect => exact h.runEffect hevent
  | workOff => exact h.workOff
  | rerender => exact h.render _ hevent.1 hevent.2
  | handle commit accepted => exact h
  | receive commit outcome => exact h.receive commit outcome
  | change value => exact h
  | observe => exact h
  | present snapshot revision available => exact h.render _ hevent.2.1 hevent.2.2

/-- **A commit is waited for until its value is shown.** In every state that any events lead to:
the receipt of a commit that is not the latest changes nothing; whatever waits is the
latest commit, another one is not dispatched meanwhile, and its receipt is still looked
at; a receipt that is looked at and refuses brings the control back to what is applied; and
a control that waits goes on waiting after a snapshot has been rendered if and only if it is
available and the snapshot does not show the value of the commit at a later revision. -/
theorem released_iff_applied (messages : DesiredControlMessages) (applied : T) (revision : ℕ)
    (available : Bool) (events : List (ControlEvent T))
    (hrun : (machine messages).Run (start applied revision available) events) :
    let loop := (machine messages).after (start applied revision available) events
    (∀ commit outcome, loop.Enabled (.receive commit outcome) →
      loop.control.commits.head? ≠ some commit →
        loop.next messages (.receive commit outcome) = { loop with
          control := { loop.control with awaited := loop.control.awaited.erase commit } }) ∧
    (∀ state, state = loop.control.stateRef ∨ state = loop.control.state ∨
        .set state ∈ loop.control.updates → state.phase = .pending →
      (∃ commit, loop.control.commits.head? = some commit ∧ state = commit.state) ∧
        ∀ value, loop.control.commit value = (loop.control, some false)) ∧
    (loop.control.settled.1.phase = .pending → ∃ commit, loop.control.commits.head? = some commit ∧
      loop.control.settled.1 = commit.state ∧ commit.token = loop.control.tokenRef) ∧
    (∀ commit outcome, loop.Enabled (.receive commit outcome) → outcome ≠ .accepted →
      commit.token = loop.control.tokenRef →
        let control := (loop.next messages (.receive commit outcome)).control
        control.settled.1.phase = .idle ∧ control.settled.1.desired = control.rendered.applied) ∧
    ∀ snapshot revision available commit, loop.Enabled (.present snapshot revision available) →
      loop.control.state.phase = .pending → loop.control.commits.head? = some commit →
        ((loop.next messages (.present snapshot revision available)).control.settled.1.phase =
            .pending ↔
          available = true ∧
            ¬(commit.submittedRevision < revision ∧ snapshot.applied = commit.desired)) := by
  intro loop
  have hsound : loop.control.Sound := Machine.invariant_of_run (I := fun loop => loop.control.Sound)
    (fun _ _ h hevent => sound_next h hevent) (UseDesiredControl.sound_mount _) hrun
  refine ⟨?_, ?_, ?_, ?_, ?_⟩
  · intro commit outcome henabled holder
    show { loop with control := (loop.control.receive messages commit outcome).1 } = _
    rw [hsound.receive_older outcome henabled.1 holder]
  · exact fun state hsource hpending => hsound.pending_newest hsource hpending
  · intro hpending
    have hread := hsound.settled_eq hpending
    obtain ⟨commit, hnewest, hstate⟩ := hsound.newest (hread ▸ hpending)
    exact ⟨commit, hnewest, hread.trans hstate, (hsound.current hpending).2.1 commit hnewest⟩
  · intro commit outcome henabled hrefused hcurrent
    exact UseDesiredControl.settled_receive hrefused hcurrent
  · intro snapshot revision available commit henabled hpending hnewest
    exact hsound.render_pending_iff ⟨snapshot.applied, revision, available⟩ henabled.2.1 henabled.2.2
      hpending hnewest

/-- A commit of eight is accepted, somebody else sets six, and that is the next snapshot. -/
def overwrittenRun : List (ControlEvent ℕ) :=
  [.runEffect, .workOff, .preview 8, .workOff, .rerender, .commit none, .workOff, .rerender,
    .handle ⟨1, 8, 10⟩ true, .change 6, .observe, .receive ⟨1, 8, 10⟩ .accepted]

/-- The control waits, also after the snapshot has been rendered, and would no longer after
one that shows eight. -/
theorem released_iff_applied_overwrittenRun :
    let loop := (machine {}).after (start 4 10 true) overwrittenRun
    let six : BackendSnapshot ℕ := ⟨6, [(1, true)]⟩
    loop.control.state.phase = .pending ∧ (machine {}).Run (start 4 10 true) overwrittenRun ∧
      (loop.next {} (.present six 11 true)).control.settled.1.phase = .pending ∧
      ¬(loop.next {} (.present six 11 false)).control.settled.1.phase = .pending := by
  have hrun : (machine {}).Run (start 4 10 true) overwrittenRun := by decide
  obtain ⟨-, -, -, -, hpresent⟩ := released_iff_applied {} 4 10 true overwrittenRun hrun
  have hpending : ((machine {}).after (start 4 10 true)
      overwrittenRun).control.state.phase = .pending := by decide
  refine ⟨hpending, hrun, ?_, ?_⟩
  · exact (hpresent ⟨6, [(1, true)]⟩ 11 true ⟨1, 8, 10⟩ (by decide) hpending (by decide)).mpr
      (by decide)
  · exact fun hc => absurd ((hpresent ⟨6, [(1, true)]⟩ 11 false ⟨1, 8, 10⟩ (by decide) hpending
      (by decide)).mp hc) (by decide)

/-- **A control may stay stuck**: not every snapshot the backend takes after it has accepted a
commit ends the waiting for it, once it is rendered at a later revision. -/
theorem stays_pending_overwrittenRun :
    ¬∀ (events : List (ControlEvent ℕ)) (commit : Commit ℕ) (snapshot : BackendSnapshot ℕ)
        (revision : ℕ), (machine {}).Run (start 4 10 true) events →
      let loop := (machine {}).after (start 4 10 true) events
      loop.control.commits.head? = some commit → .receive commit .accepted ∈ events →
      (commit.token, true) ∈ snapshot.handled → loop.Enabled (.present snapshot revision true) →
      commit.submittedRevision < revision →
        (loop.next {} (.present snapshot revision true)).control.settled.1.phase ≠ .pending := by
  intro h
  exact absurd (by decide) (h overwrittenRun ⟨1, 8, 10⟩ ⟨6, [(1, true)]⟩ 11 (by decide) (by decide)
    (by decide) (by decide) (by decide) (by decide))

end ControlLoop

end IngestionLab.Frontend
