import IngestionLab.Loadgen.ReaderPool

/-!
# `readFile` cuts a file into batches

One call of `readFile` as a machine of its own: its position, and the moves of
`IngestionLab.ReadPc.move`, each made under whatever the worker sees of the pool at that
moment (`IngestionLab.fileMachine`). A step a worker of the pool takes inside `readFile`
is a step of it (`IngestionLab.ReaderPool.enabled_fileMachine`,
`IngestionLab.ReaderPool.next_read_pc`). Nothing is cancelled here.

An observer notes the rows the reader has returned, how the last read ended, the batches
put into the channel, and what the counter of the rows read has grown by
(`IngestionLab.FileLog`).

* `IngestionLab.Fits`: what a position says about the log, kept by every move
  (`IngestionLab.Fits.next`).
* `IngestionLab.readFile_cuts_batches`: **no row is lost**, at the end of the file and
  after an error, and the call returns after finitely many moves a read.
-/

namespace IngestionLab

/-! ### One call of `readFile` -/

/-- What is observed of one call: the rows read, how the last read ended, the batches
sent, and what the counter of the rows read has grown by. -/
structure FileLog where
  rows : Batch := []
  ending : ReadEnd := .more
  sent : List Batch := []
  counted : ℕ := 0
  deriving DecidableEq, Repr

/-- What the observer notes of a move. -/
def FileLog.note (log : FileLog) (pc : ReadPc) (m : ReadMove) : FileLog where
  rows := match m with
    | .read rows _ => log.rows ++ rows
    | _ => log.rows
  ending := match m with
    | .read _ ending => ending
    | _ => log.ending
  sent := match m with
    | .trySend batch | .waitSend batch => log.sent ++ [batch]
    | _ => log.sent
  counted := log.counted + (pc.remember {} m).reader.rowsRead

/-- **One call of `readFile`** with a given batch size, while nothing is cancelled. -/
def fileMachine (batchSize : ℕ) : Machine (ReadPc × FileLog) (ReadView × ReadMove) where
  Enabled s a := a.1.cancelled = false ∧ a.1.batchSize = batchSize ∧
    (s.1.move a.1 a.2).isSome = true
  next s a := ((s.1.move a.1 a.2).getD s.1, s.2.note s.1 a.2)

instance (N : ℕ) (s : ReadPc × FileLog) (a : ReadView × ReadMove) :
    Decidable ((fileMachine N).Enabled s a) :=
  inferInstanceAs (Decidable (_ ∧ _ ∧ _))

section Pool

variable {p : ReaderPool} {sh : Memory} {w : ℕ} {path : Go.Path} {pc : ReadPc} {m : ReadMove}

/-- A step inside `readFile` of a pool that is not cancelled is a step of the call. -/
theorem ReaderPool.enabled_fileMachine (ha : p.Enabled sh (.read w path pc m))
    (hc : p.cancelled = false) (log : FileLog) :
    (fileMachine p.batchSize).Enabled (pc, log) (p.view sh path, m) :=
  ⟨hc, rfl, ha.2⟩

/-- It moves the worker as it moves the call. -/
theorem ReaderPool.next_read_pc (log : FileLog) :
    ((p.next sh (.read w path pc m)).worker w).pc =
      .file path ((fileMachine p.batchSize).next (pc, log) (p.view sh path, m)).1 := by
  simp [ReaderPool.next, ReaderPool.setWorker, fileMachine]

/-- The counter of the rows read grows by what the observer notes. -/
theorem ReaderPool.rowsRead_remember (log : FileLog) :
    (ReaderPool.remember sh (.read w path pc m)).reader.rowsRead + log.counted =
      sh.reader.rowsRead + (log.note pc m).counted := by
  have h : (pc.remember sh m).reader.rowsRead =
      sh.reader.rowsRead + (pc.remember {} m).reader.rowsRead := by
    unfold ReadPc.remember
    split <;> simp [ReaderTelemetry.recordRead]
  simp only [ReaderPool.remember, FileLog.note, h]
  omega

end Pool

/-! ### What a position says about the log -/

variable {N : ℕ} {log : FileLog} {hand : Batch} {v : ReadView} {pc pc' : ReadPc} {m : ReadMove}

/-- The rows read are those in full batches, which are sent, and those in the hand. -/
structure Cut (N : ℕ) (log : FileLog) (hand : Batch) : Prop where
  full : ∀ batch ∈ log.sent, batch.length = N
  rows : log.sent.flatten ++ hand = log.rows

/-- The whole file is cut: only the last batch may be short, and none is empty. -/
structure CutWhole (N : ℕ) (log : FileLog) : Prop where
  rows : log.sent.flatten = log.rows
  full : ∀ batch ∈ log.sent.dropLast, batch.length = N
  last : ∀ batch ∈ log.sent.getLast?, batch ≠ [] ∧ batch.length ≤ N

/-- **What has been done with the rows** once no more are read: all are sent at the end
of the file, and after an error all but a short rest. -/
def Ended (N : ℕ) (log : FileLog) : Prop :=
  log.counted = log.rows.length ∧
    match log.ending with
    | .more => False
    | .eof => CutWhole N log
    | .failed _ => ∃ rest, rest.length < N ∧ Cut N log rest

/-- The batch has been put into the channel. -/
def SendPc.isSent : SendPc → Bool
  | recordTry | finish _ true | recordWait | unflag true => true
  | test | trying | begin | flag _ | waiting _ | finish _ false | unflag false => false

/-- The wait was given up, which only a cancellation does. -/
def SendPc.isGivenUp : SendPc → Bool
  | finish _ false | unflag false => true
  | _ => false

/-- **What a position says about the log.** -/
def Fits (N : ℕ) (log : FileLog) : ReadPc → Prop
  | .opening | .openingReader | .closingUnopened _ => log = {}
  | .head batch | .reading batch => Cut N log batch ∧ batch.length < N ∧
      log.counted = log.rows.length ∧ log.ending = .more
  | .recording batch rows ending => Cut N log (batch ++ rows) ∧ batch.length < N ∧
      log.counted + rows.length = log.rows.length ∧ log.ending = ending
  | .appending batch rows ending => Cut N log (batch ++ rows) ∧ batch.length < N ∧
      log.counted = log.rows.length ∧ log.ending = ending
  | .sending batch (some (rows, ending)) pc => pc.isGivenUp = false ∧ batch.length = N ∧
      Cut N log (if pc.isSent then rows else batch ++ rows) ∧ log.counted = log.rows.length ∧
      log.ending = ending
  | .sending batch none pc => pc.isGivenUp = false ∧ batch ≠ [] ∧ batch.length < N ∧
      (if pc.isSent then CutWhole N log else Cut N log batch) ∧
      log.counted = log.rows.length ∧ log.ending = .eof
  | .tail batch => Cut N log batch ∧ batch.length < N ∧ log.counted = log.rows.length ∧
      log.ending = .eof
  | .closing _ | .closingReader _ _ | .closingFile _ _ => Ended N log
  | .returned _ => log = {} ∨ Ended N log

/-- A batch is full and sent. -/
theorem Cut.send {batch rest : Batch} (h : Cut N log (batch ++ rest)) (hfull : batch.length = N) :
    Cut N { log with sent := log.sent ++ [batch] } rest where
  full b hb := by
    rcases List.mem_append.mp hb with hb | hb
    · exact h.full b hb
    · rw [List.mem_singleton.mp hb, hfull]
  rows := by
    rw [← h.rows]
    simp

/-- Nothing is left in the hand. -/
theorem Cut.whole (h : Cut N log []) (hN : 0 < N) : CutWhole N log where
  rows := by
    rw [← h.rows, List.append_nil]
  full b hb := h.full b (List.mem_of_mem_dropLast hb)
  last b hb := by
    have hlen := h.full b (List.mem_of_getLast? hb)
    exact ⟨List.ne_nil_of_length_pos (hlen ▸ hN), hlen.le⟩

/-- The last, short batch is sent. -/
theorem Cut.sendLast {batch : Batch} (h : Cut N log batch) (hne : batch ≠ [])
    (hle : batch.length ≤ N) : CutWhole N { log with sent := log.sent ++ [batch] } where
  rows := by
    rw [← h.rows]
    simp
  full b hb := by
    rw [List.dropLast_concat] at hb
    exact h.full b hb
  last b hb := by
    rw [List.getLast?_concat] at hb
    obtain rfl : batch = b := Option.some_inj.mp hb
    exact ⟨hne, hle⟩

/-- The loop goes on where a read has ended and its rows are appended. -/
theorem Fits.afterAppend {batch : Batch} {ending : ReadEnd} (hcut : Cut N log batch)
    (hlt : batch.length < N) (hcount : log.counted = log.rows.length)
    (hending : log.ending = ending) : Fits N log (ReadPc.afterAppend v batch ending) := by
  cases ending with
  | more => exact ⟨hcut, hlt, hcount, hending⟩
  | eof => exact ⟨hcut, hlt, hcount, hending⟩
  | failed message =>
    refine ⟨hcount, ?_⟩
    rw [hending]
    exact ⟨batch, hlt, hcut⟩

/-- Inside `sendBatch`, before or after the send. -/
theorem Fits.stays {batch : Batch} {back : Option (Batch × ReadEnd)} {pc pc' : SendPc}
    (h : Fits N log (.sending batch back pc)) (hsent : pc'.isSent = pc.isSent)
    (hgiven : pc'.isGivenUp = false) : Fits N log (.sending batch back pc') := by
  cases back with
  | none =>
    obtain ⟨-, hne, hlt, hcut, hcount, hending⟩ := h
    exact ⟨hgiven, hne, hlt, by rwa [hsent], hcount, hending⟩
  | some back =>
    obtain ⟨-, hfull, hcut, hcount, hending⟩ := h
    exact ⟨hgiven, hfull, by rwa [hsent], hcount, hending⟩

/-- The send. -/
theorem Fits.sends {batch : Batch} {back : Option (Batch × ReadEnd)} {pc pc' : SendPc}
    (h : Fits N log (.sending batch back pc)) (hunsent : pc.isSent = false)
    (hsent : pc'.isSent = true) (hgiven : pc'.isGivenUp = false) :
    Fits N { log with sent := log.sent ++ [batch] } (.sending batch back pc') := by
  cases back with
  | none =>
    obtain ⟨-, hne, hlt, hcut, hcount, hending⟩ := h
    rw [hunsent, if_neg Bool.false_ne_true] at hcut
    exact ⟨hgiven, hne, hlt, by rw [hsent, if_pos rfl]; exact hcut.sendLast hne hlt.le, hcount,
      hending⟩
  | some back =>
    obtain ⟨-, hfull, hcut, hcount, hending⟩ := h
    rw [hunsent, if_neg Bool.false_ne_true] at hcut
    exact ⟨hgiven, hfull, by rw [hsent, if_pos rfl]; exact hcut.send hfull, hcount, hending⟩

/-- The return from `sendBatch`. -/
theorem Fits.afterSend {batch : Batch} {back : Option (Batch × ReadEnd)} {pc : SendPc}
    (hN : 0 < N) (h : Fits N log (.sending batch back pc)) (hsent : pc.isSent = true) :
    Fits N log (ReadPc.afterSend back true) := by
  cases back with
  | none =>
    obtain ⟨-, -, -, hcut, hcount, hending⟩ := h
    rw [hsent, if_pos rfl] at hcut
    refine ⟨hcount, ?_⟩
    rw [hending]
    exact hcut
  | some back =>
    obtain ⟨-, -, hcut, hcount, hending⟩ := h
    rw [hsent, if_pos rfl] at hcut
    exact ⟨hcut, hN, hcount, hending⟩

/-- **Every move keeps what positions say.** -/
theorem Fits.next (h : Fits N log pc) (hN : 0 < N) (hc : v.cancelled = false)
    (hsize : v.batchSize = N) (hm : pc.move v m = some pc') : Fits N (log.note pc m) pc' := by
  cases pc with
  | opening =>
    cases m <;> simp only [ReadPc.move, reduceCtorEq, Option.some.injEq] at hm
    all_goals subst hm
    · exact h
    · exact Or.inl h
  | openingReader =>
    cases m <;> simp only [ReadPc.move, reduceCtorEq, Option.some.injEq] at hm
    all_goals subst hm
    · subst h
      exact ⟨⟨nofun, rfl⟩, hN, rfl, rfl⟩
    · exact h
  | closingUnopened message =>
    cases m <;> simp only [ReadPc.move, reduceCtorEq] at hm
    subst h
    split at hm
    all_goals
      obtain rfl := Option.some_inj.mp hm
      exact Or.inl rfl
  | head batch =>
    cases m <;> simp only [ReadPc.move, reduceCtorEq, Option.some.injEq, hc] at hm
    subst hm
    exact h
  | reading batch =>
    cases m <;> simp only [ReadPc.move, reduceCtorEq] at hm
    case read rows ending =>
      obtain ⟨hcut, hlt, hcount, -⟩ := h
      split_ifs at hm with hlong hnil
      · obtain rfl := Option.some_inj.mp hm
        subst hnil
        refine Fits.afterAppend ⟨hcut.full, ?_⟩ hlt ?_ rfl
        · exact hcut.rows.trans (List.append_nil _).symm
        · simpa [FileLog.note, ReadPc.remember] using hcount
      · obtain rfl := Option.some_inj.mp hm
        refine ⟨⟨hcut.full, ?_⟩, hlt, ?_, rfl⟩
        · simp only [FileLog.note, ← hcut.rows, List.append_assoc]
        · simp [FileLog.note, ReadPc.remember, hcount]
  | recording batch rows ending =>
    cases m <;> simp only [ReadPc.move, reduceCtorEq, Option.some.injEq] at hm
    subst hm
    obtain ⟨hcut, hlt, hcount, hending⟩ := h
    refine ⟨⟨hcut.full, hcut.rows⟩, hlt, ?_, hending⟩
    simpa [FileLog.note, ReadPc.remember, ReaderTelemetry.recordRead] using hcount
  | appending batch rows ending =>
    cases m <;> simp only [ReadPc.move, reduceCtorEq, hc, hsize, Bool.false_eq_true, if_false] at hm
    obtain ⟨hcut, hlt, hcount, hending⟩ := h
    split_ifs at hm with hnil hshort
    · obtain rfl := Option.some_inj.mp hm
      subst hnil
      rw [List.append_nil] at hcut
      exact Fits.afterAppend ⟨hcut.full, hcut.rows⟩ hlt hcount hending
    · obtain rfl := Option.some_inj.mp hm
      refine ⟨⟨hcut.full, ?_⟩, hshort, hcount, hending⟩
      rw [List.append_assoc, List.take_append_drop]
      exact hcut.rows
    · obtain rfl := Option.some_inj.mp hm
      refine ⟨rfl, ?_, ⟨hcut.full, ?_⟩, hcount, hending⟩
      · simp only [List.length_append, List.length_take] at hshort ⊢
        omega
      · rw [SendPc.isSent, if_neg Bool.false_ne_true, List.append_assoc, List.take_append_drop]
        exact hcut.rows
  | sending batch back pc =>
    cases pc
    case finish id sent =>
      cases sent with
      | true =>
        cases m <;> simp only [ReadPc.move, reduceCtorEq, Option.some.injEq] at hm
        subst hm
        exact h.stays rfl rfl
      | false => cases back <;> exact absurd h.1 nofun
    case unflag sent =>
      cases sent with
      | true =>
        cases m <;> simp only [ReadPc.move, reduceCtorEq, Option.some.injEq] at hm
        subst hm
        exact h.afterSend hN rfl
      | false => cases back <;> exact absurd h.1 nofun
    case recordTry =>
      cases m <;> simp only [ReadPc.move, reduceCtorEq, Option.some.injEq] at hm
      subst hm
      exact h.afterSend hN rfl
    case trying =>
      cases m <;> simp only [ReadPc.move, reduceCtorEq, Option.some.injEq] at hm
      case trySend sent =>
        split_ifs at hm with hbatch
        subst hbatch
        obtain rfl := Option.some_inj.mp hm
        exact h.sends rfl rfl rfl
      case tryDefault =>
        subst hm
        exact h.stays rfl rfl
    case waiting id =>
      cases m <;> simp only [ReadPc.move, reduceCtorEq, hc, Bool.false_eq_true, if_false] at hm
      case waitSend sent =>
        split_ifs at hm with hbatch
        subst hbatch
        obtain rfl := Option.some_inj.mp hm
        exact h.sends rfl rfl rfl
    all_goals
      cases m <;> simp only [ReadPc.move, reduceCtorEq, Option.some.injEq, hc, Bool.false_eq_true,
        if_false] at hm
      subst hm
      exact h.stays rfl rfl
  | tail batch =>
    cases m <;> simp only [ReadPc.move, reduceCtorEq, Option.some.injEq, hc, true_and] at hm
    obtain ⟨hcut, hlt, hcount, hending⟩ := h
    split_ifs at hm with hne
    · subst hm
      exact ⟨rfl, hne, hlt, ⟨hcut.full, hcut.rows⟩, hcount, hending⟩
    · subst hm
      rw [not_not] at hne
      subst hne
      refine ⟨hcount, ?_⟩
      rw [show (log.note (.tail []) .sendTail).ending = .eof from hending]
      exact Cut.whole ⟨hcut.full, hcut.rows⟩ hN
  | closing error =>
    cases m <;> simp only [ReadPc.move, reduceCtorEq, Option.some.injEq] at hm
    subst hm
    exact h
  | closingReader error c =>
    cases m <;> simp only [ReadPc.move, reduceCtorEq, Option.some.injEq] at hm
    subst hm
    exact h
  | closingFile error c =>
    cases m <;> simp only [ReadPc.move, reduceCtorEq, Option.some.injEq] at hm
    subst hm
    exact Or.inr h
  | returned error => cases m <;> simp only [ReadPc.move, reduceCtorEq] at hm

/-! ### The call returns -/

/-- The moves `sendBatch` has still to make, at most. -/
def SendPc.rank : SendPc → ℕ
  | test => 9
  | trying => 8
  | begin => 7
  | flag _ => 6
  | waiting _ => 5
  | finish _ _ => 4
  | recordWait => 3
  | recordTry | unflag _ => 2

/-- The moves a call of `readFile` has still to make before it reads again or returns, at
most: a row may fill a batch, and sending it takes ten moves and one round of the loop of
`appendRows`. -/
def ReadPc.rank : ReadPc → ℕ
  | opening => 3
  | openingReader => 2
  | closingUnopened _ => 1
  | head _ => 1
  | reading _ => 0
  | recording _ rows _ => 22 + 20 * rows.length
  | appending _ rows _ => 21 + 20 * rows.length
  | sending _ (some (rows, _)) pc => 22 + 20 * rows.length + pc.rank
  | sending _ none pc => 4 + pc.rank
  | tail _ => 20
  | closing _ => 3
  | closingReader _ _ => 2
  | closingFile _ _ => 1
  | returned _ => 0

/-- What a read may cost in moves. -/
def ReadMove.cost : ReadMove → ℕ
  | .read rows _ => 23 + 20 * rows.length
  | _ => 0

theorem ReadPc.rank_afterAppend (v : ReadView) (batch : Batch) (ending : ReadEnd) :
    (ReadPc.afterAppend v batch ending).rank ≤ 20 := by
  cases ending <;> simp [ReadPc.afterAppend, ReadPc.rank]

/-- **Every move but a read brings the return nearer**, and a read costs what its rows
cost. -/
theorem Fits.rank_move (h : Fits N log pc) (hc : v.cancelled = false) (hsize : v.batchSize = N)
    (hm : pc.move v m = some pc') : 1 + pc'.rank ≤ pc.rank + m.cost := by
  cases pc with
  | opening | openingReader =>
    cases m <;> simp only [ReadPc.move, reduceCtorEq, Option.some.injEq] at hm
    all_goals
      subst hm
      simp [ReadPc.rank, ReadMove.cost]
  | closingUnopened message =>
    cases m <;> simp only [ReadPc.move, reduceCtorEq] at hm
    split at hm
    all_goals
      obtain rfl := Option.some_inj.mp hm
      simp [ReadPc.rank, ReadMove.cost]
  | head batch =>
    cases m <;> simp only [ReadPc.move, reduceCtorEq, Option.some.injEq, hc, Bool.false_eq_true,
      if_false] at hm
    subst hm
    simp [ReadPc.rank, ReadMove.cost]
  | reading batch =>
    cases m <;> simp only [ReadPc.move, reduceCtorEq] at hm
    case read rows ending =>
      split_ifs at hm with hlong hnil
      · obtain rfl := Option.some_inj.mp hm
        have hle := ReadPc.rank_afterAppend v batch ending
        generalize (ReadPc.afterAppend v batch ending).rank = r at hle ⊢
        simp only [ReadPc.rank, ReadMove.cost]
        omega
      · obtain rfl := Option.some_inj.mp hm
        simp only [ReadPc.rank, ReadMove.cost]
        omega
  | recording batch rows ending =>
    cases m <;> simp only [ReadPc.move, reduceCtorEq, Option.some.injEq] at hm
    subst hm
    simp only [ReadPc.rank, ReadMove.cost]
    omega
  | appending batch rows ending =>
    cases m <;> simp only [ReadPc.move, reduceCtorEq, hc, hsize, Bool.false_eq_true, if_false] at hm
    have hlt := h.2.1
    split_ifs at hm with hnil hshort
    · obtain rfl := Option.some_inj.mp hm
      have hle := ReadPc.rank_afterAppend v batch ending
      generalize (ReadPc.afterAppend v batch ending).rank = r at hle ⊢
      simp only [ReadPc.rank, ReadMove.cost]
      omega
    · obtain rfl := Option.some_inj.mp hm
      have hpos := List.length_pos_of_ne_nil hnil
      simp only [ReadPc.rank, ReadMove.cost, List.length_drop]
      omega
    · obtain rfl := Option.some_inj.mp hm
      have hpos := List.length_pos_of_ne_nil hnil
      simp only [ReadPc.rank, ReadMove.cost, List.length_drop, SendPc.rank]
      omega
  | sending batch back pc =>
    have hreturn : ∀ pc : SendPc, 1 + (ReadPc.afterSend back true).rank ≤
        (ReadPc.sending batch back pc).rank := fun pc => by
      cases back with
      | none =>
        simp only [ReadPc.afterSend, ReadPc.rank]
        omega
      | some back =>
        simp only [ReadPc.afterSend, ReadPc.rank]
        omega
    have hinside : ∀ pc pc' : SendPc, 1 + pc'.rank ≤ pc.rank →
        1 + (ReadPc.sending batch back pc').rank ≤ (ReadPc.sending batch back pc).rank :=
      fun pc pc' hle => by
        cases back with
        | none =>
          simp only [ReadPc.rank]
          omega
        | some back =>
          simp only [ReadPc.rank]
          omega
    cases pc
    case finish id sent =>
      cases m <;> simp only [ReadPc.move, reduceCtorEq, Option.some.injEq] at hm
      subst hm
      refine hinside _ _ ?_
      cases sent <;> simp [SendPc.rank]
    case unflag sent =>
      cases sent with
      | true =>
        cases m <;> simp only [ReadPc.move, reduceCtorEq, Option.some.injEq] at hm
        subst hm
        exact hreturn _
      | false => cases back <;> exact absurd h.1 nofun
    case recordTry =>
      cases m <;> simp only [ReadPc.move, reduceCtorEq, Option.some.injEq] at hm
      subst hm
      exact hreturn _
    case trying =>
      cases m <;> simp only [ReadPc.move, reduceCtorEq, Option.some.injEq] at hm
      case trySend sent =>
        split_ifs at hm with hbatch
        obtain rfl := Option.some_inj.mp hm
        exact hinside _ _ (by simp [SendPc.rank])
      case tryDefault =>
        subst hm
        exact hinside _ _ (by simp [SendPc.rank])
    case waiting id =>
      cases m <;> simp only [ReadPc.move, reduceCtorEq, hc, Bool.false_eq_true, if_false] at hm
      case waitSend sent =>
        split_ifs at hm with hbatch
        obtain rfl := Option.some_inj.mp hm
        exact hinside _ _ (by simp [SendPc.rank])
    all_goals
      cases m <;> simp only [ReadPc.move, reduceCtorEq, Option.some.injEq, hc, Bool.false_eq_true,
        if_false] at hm
      subst hm
      exact hinside _ _ (by simp [SendPc.rank])
  | tail batch =>
    cases m <;> simp only [ReadPc.move, reduceCtorEq, Option.some.injEq, hc, true_and] at hm
    split_ifs at hm with hne
    all_goals
      subst hm
      simp [ReadPc.rank, ReadMove.cost, SendPc.rank]
  | closing error | closingReader error c | closingFile error c =>
    cases m <;> simp only [ReadPc.move, reduceCtorEq, Option.some.injEq] at hm
    subst hm
    simp [ReadPc.rank, ReadMove.cost]
  | returned error => cases m <;> simp only [ReadPc.move, reduceCtorEq] at hm

/-- **A call that has not returned can move**, whatever the pool looks like. -/
theorem Fits.exists_move (h : Fits N log pc) (hpc : ∀ error, pc ≠ .returned error)
    (hc : v.cancelled = false) : ∃ m, (pc.move v m).isSome = true := by
  cases pc with
  | opening => exact ⟨.opened, rfl⟩
  | openingReader => exact ⟨.readerOpened, rfl⟩
  | closingUnopened message => exact ⟨.closedUnopened none, rfl⟩
  | head batch => exact ⟨.testHead, rfl⟩
  | reading batch => exact ⟨.read [] .eof, by simp [ReadPc.move]⟩
  | recording batch rows ending => exact ⟨.recordRead, rfl⟩
  | appending batch rows ending =>
    refine ⟨.appendRows, ?_⟩
    simp only [ReadPc.move, hc, Bool.false_eq_true, if_false]
    split_ifs <;> rfl
  | sending batch back pc =>
    cases pc with
    | test => exact ⟨.testSend, rfl⟩
    | trying => exact ⟨.tryDefault, rfl⟩
    | recordTry => exact ⟨.recordTry, rfl⟩
    | begin => exact ⟨.beginBlockedSend, rfl⟩
    | flag id => exact ⟨.setBlocked, rfl⟩
    | waiting id => exact ⟨.waitSend batch, by simp [ReadPc.move]⟩
    | finish id sent => exact ⟨.finishBlockedWriter, rfl⟩
    | recordWait => exact ⟨.recordWait, rfl⟩
    | unflag sent => exact ⟨.clearBlocked, rfl⟩
  | tail batch => exact ⟨.sendTail, rfl⟩
  | closing error => exact ⟨.testClosing, rfl⟩
  | closingReader error c => exact ⟨.closedReader none, rfl⟩
  | closingFile error c => exact ⟨.closedFile none, rfl⟩
  | returned error => exact absurd rfl (hpc error)

/-! ### Whole calls -/

/-- **`readFile` cuts a file into batches without loss.** In every run of a call with a
batch size of at least one, nothing being cancelled:

* every read is asked for a row at least;
* when the call has returned the counter of the rows read has grown by the rows read; at
  the end of the file the batches sent are the rows read, in order, all of the batch size
  but the last, which is not empty; after an error the batches sent are full and followed
  by fewer rows than make a batch, which are not sent; and without a read nothing is;
* a call that has not returned can go on, and the moves a call makes are bounded by what
  its reads cost, so that a call whose reader comes to an end returns. -/
theorem readFile_cuts_batches (N : ℕ) (hN : 1 ≤ N) (as : List (ReadView × ReadMove))
    (hrun : (fileMachine N).Run (.opening, {}) as) :
    let s := (fileMachine N).after (.opening, {}) as
    (∀ batch, s.1 = .reading batch → 1 ≤ N - batch.length) ∧
    (∀ error, s.1 = .returned error → s.2.counted = s.2.rows.length ∧
      (s.2.ending = .eof → s.2.sent.flatten = s.2.rows ∧
        (∀ batch ∈ s.2.sent.dropLast, batch.length = N) ∧
        ∀ batch ∈ s.2.sent.getLast?, batch ≠ [] ∧ batch.length ≤ N) ∧
      (∀ message, s.2.ending = .failed message → (∀ batch ∈ s.2.sent, batch.length = N) ∧
        ∃ rest, rest.length < N ∧ s.2.sent.flatten ++ rest = s.2.rows) ∧
      (s.2.ending = .more → s.2 = {})) ∧
    ((∀ error, s.1 ≠ .returned error) → ∀ v : ReadView, v.cancelled = false → v.batchSize = N →
      ∃ m, (fileMachine N).Enabled s (v, m)) ∧
    as.length ≤ 3 + (as.map fun a => a.2.cost).sum := by
  intro s
  have hstep : ∀ (s : ReadPc × FileLog) (a : ReadView × ReadMove), Fits N s.2 s.1 →
      (fileMachine N).Enabled s a → Fits N ((fileMachine N).next s a).2 ((fileMachine N).next s a).1 :=
    fun s a h ha => by
      obtain ⟨hc, hsize, hsome⟩ := ha
      obtain ⟨pc', hm⟩ := Option.isSome_iff_exists.mp hsome
      have hnext := h.next hN hc hsize hm
      simp only [fileMachine, hm]
      exact hnext
  have hfits : Fits N s.2 s.1 :=
    Machine.invariant_of_run (I := fun s : ReadPc × FileLog => Fits N s.2 s.1) hstep rfl hrun
  have hbound : ∀ (as : List (ReadView × ReadMove)) (s : ReadPc × FileLog), Fits N s.2 s.1 →
      (fileMachine N).Run s as → as.length + ((fileMachine N).after s as).1.rank ≤
        s.1.rank + (as.map fun a => a.2.cost).sum := fun as => by
    induction as with
    | nil => exact fun s _ _ => by simp
    | cons a as ih =>
      rintro s h ⟨ha, hrest⟩
      have hlater := ih _ (hstep s a h ha) hrest
      obtain ⟨hc, hsize, hsome⟩ := ha
      obtain ⟨pc', hm⟩ := Option.isSome_iff_exists.mp hsome
      have hrank := h.rank_move hc hsize hm
      have hpc : ((fileMachine N).next s a).1 = pc' := by simp [fileMachine, hm]
      rw [hpc] at hlater
      simp only [Machine.after_cons, List.length_cons, List.map_cons, List.sum_cons]
      omega
  refine ⟨fun batch hpc => ?_, fun error hpc => ?_, fun hpc v hc hsize => ?_, ?_⟩
  · rw [hpc] at hfits
    have hlt : batch.length < N := hfits.2.1
    omega
  · rw [hpc] at hfits
    rcases hfits with hlog | ⟨hcount, hended⟩
    · rw [hlog]
      exact ⟨rfl, nofun, nofun, fun _ => rfl⟩
    · refine ⟨hcount, fun heof => ?_, fun message hfailed => ?_, fun hmore => ?_⟩
      · rw [heof] at hended
        exact ⟨hended.rows, hended.full, hended.last⟩
      · rw [hfailed] at hended
        obtain ⟨rest, hlt, hcut⟩ := hended
        exact ⟨hcut.full, rest, hlt, hcut.rows⟩
      · rw [hmore] at hended
        exact absurd hended id
  · obtain ⟨m, hm⟩ := hfits.exists_move hpc hc
    exact ⟨m, hc, hsize, hm⟩
  · have h := hbound as (.opening, {}) rfl hrun
    have hrank : (ReadPc.opening).rank = 3 := rfl
    dsimp only at h
    omega

/-- What a worker with a batch size of two sees. -/
def viewOfTwo : ReadView := ⟨false, 2, fun operation message => ⟨"source", operation, "f", message⟩, 1⟩

/-- A read of one row, and one that brings a row together with the end of the file, after
a read that brought nothing. -/
def threeReads : List (ReadView × ReadMove) :=
  [.opened, .readerOpened, .testHead, .read [⟨"a"⟩] .more, .recordRead, .appendRows, .appendRows,
    .testHead, .read [] .more, .testHead, .read [⟨"b"⟩] .eof, .recordRead, .appendRows, .testSend,
    .trySend [⟨"a"⟩, ⟨"b"⟩], .recordTry, .appendRows, .sendTail, .testClosing, .closedReader none,
    .closedFile none].map fun m => (viewOfTwo, m)

/-- They make one full batch. -/
theorem readFile_cuts_threeReads :
    let s := (fileMachine 2).after (.opening, {}) threeReads
    s.1 = .returned none ∧ s.2.sent = [[⟨"a"⟩, ⟨"b"⟩]] ∧ s.2.sent.flatten = s.2.rows ∧
      s.2.counted = s.2.rows.length := by
  have h := readFile_cuts_batches 2 (by decide) threeReads (by decide +kernel)
  have hreturned : ((fileMachine 2).after (.opening, {}) threeReads).1 = .returned none := by
    decide +kernel
  obtain ⟨hcount, heof, -⟩ := h.2.1 none hreturned
  exact ⟨hreturned, by decide +kernel, (heof (by decide +kernel)).1, hcount⟩

end IngestionLab
