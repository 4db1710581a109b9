import IngestionLab.Loadgen.SenderHttp
import IngestionLab.Wire.Ingest

/-!
# A batch that is sent

What a sender writes is what is read at the other end. Which batches the receiver takes is
said exactly (`IngestionLab.Receiver.handleIngest_eq_accept_iff`), and a batch written by a
sender is one of them.

* `IngestionLab.Ingest.batch_arrives`: **a batch that can be written and is not too large is
  taken by either endpoint**, each of which reads the transactions that were sent, in their
  order; the receiver counts as many as there are, and its answer is a success for the
  sender.
-/

namespace IngestionLab

open Go

/-! ### What the receiver takes -/

namespace Receiver

variable {Time : Type} {time : Decoder Time} {zeroTime : Time} {config : Config} {r : Request}

/-- An answer that is not that of a batch taken has another status. -/
theorem status_of_answer {status : ℕ} (h : handleIngest time zeroTime config r = .answer status) :
    status ≠ statusNoContent := by
  -- every refusal but the configured one is a bad request or worse
  have hrefused : ∀ {s : ℕ}, s ∈ [statusBadRequest, statusMethodNotAllowed,
      statusRequestEntityTooLarge] → Handling.answer s = .answer status → status ≠ statusNoContent := by
    rintro s hs heq
    rw [← Handling.answer.inj heq]
    rintro rfl
    exact absurd hs (by decide)
  rw [handleIngest] at h
  by_cases hmethod : r.method ≠ methodPost
  · rw [if_pos hmethod] at h
    exact hrefused (by decide) h
  by_cases htype : r.mediaType ≠ some "application/json"
  · rw [if_neg hmethod, if_pos htype] at h
    exact hrefused (by decide) h
  rw [if_neg hmethod, if_neg htype] at h
  split at h
  · exact hrefused (by decide) h
  · exact hrefused (by decide) h
  · split at h
    · exact hrefused (by decide) h
    · split_ifs at h with hlength hnil hend hwait hother
      · exact hrefused (by decide) h
      · exact hrefused (by decide) h
      · exact hrefused (by decide) h
      · rw [← Handling.answer.inj h]
        exact hother

/-- **What the receiver takes**: an array of transactions, none of them a null, and nothing after
it. It counts its elements. -/
theorem handleIngest_eq_accept_iff {n : ℕ} :
    handleIngest time zeroTime config r = .accept n ↔
      r.method = methodPost ∧ r.mediaType = some "application/json" ∧
        (∃ body ∈ r.body, body.length ≤ config.ingest.maxBodyBytes ∧
          ∃ elements, body.content = ⟨[.array elements], true⟩ ∧ elements ≠ [] ∧
            (∀ json ∈ elements, json ≠ .null ∧
              (Transaction.decoder time json (.zero zeroTime)).isSome = true) ∧
            n = elements.length) ∧
        waitForDelay r config.lab.responseDelay = true ∧ config.lab.status = statusNoContent := by
  constructor
  · intro h
    rw [handleIngest] at h
    by_cases hmethod : r.method ≠ methodPost
    · rw [if_pos hmethod] at h
      cases h
    by_cases htype : r.mediaType ≠ some "application/json"
    · rw [if_neg hmethod, if_pos htype] at h
      cases h
    rw [if_neg hmethod, if_neg htype] at h
    split at h
    case h_1 => cases h
    case h_2 => cases h
    case h_3 content hread =>
      split at h
      case h_1 => cases h
      case h_2 transactions rest hdecode =>
        split_ifs at h with hlength hnil hend hwait hother
        have hn := Handling.accept.inj h
        have hne : transactions ≠ [] := fun hnone => hlength (List.length_eq_zero_iff.mpr hnone)
        obtain ⟨-, elements, hcontent, hne, hall⟩ :=
          decode_slice_iff.mp ⟨hdecode, hne, by simpa using hend⟩
        have hnull : Json.null ∉ elements := fun hmem =>
          hnil ((Decoder.any_isNone_iff hall).mpr hmem)
        obtain ⟨body, hbody, hsize, rfl⟩ : ∃ body ∈ r.body,
            body.length ≤ config.ingest.maxBodyBytes ∧ body.content = content := by
          rw [Request.readAll] at hread
          split at hread
          · cases hread
          · rename_i body hbody
            split_ifs at hread with hlarge
            exact ⟨body, hbody, not_lt.mp hlarge, Reading.read.inj hread⟩
        refine ⟨not_not.mp hmethod, not_not.mp htype, ⟨body, hbody, hsize, elements, hcontent, hne,
          fun json hjson => ?_, ?_⟩, by simpa using hwait, not_not.mp hother⟩
        · have hne' : json ≠ .null := ne_of_mem_of_not_mem hjson hnull
          refine ⟨hne', ?_⟩
          rw [← Decoder.isSome_pointer hne']
          exact Decoder.exists_forall₂_iff.mp ⟨_, hall⟩ json hjson
        · rw [← hn]
          exact hall.length_eq.symm
  · rintro ⟨hmethod, htype, ⟨body, hbody, hsize, elements, hcontent, hne, hdecodes, rfl⟩, hwait,
      hstatus⟩
    have hpointers : ∀ json ∈ elements, (Decoder.pointer (Transaction.decoder time)
        (.zero zeroTime) json none).isSome = true := by
      intro json hjson
      rw [Decoder.isSome_pointer (hdecodes json hjson).1]
      exact (hdecodes json hjson).2
    obtain ⟨transactions, hall⟩ := Decoder.exists_forall₂_iff.mpr hpointers
    have hnil : ¬transactions.any Option.isNone = true := fun hnil =>
      (hdecodes _ ((Decoder.any_isNone_iff hall).mp hnil)).1 rfl
    obtain ⟨hdecode, hne', hend⟩ := decode_slice_iff.mpr ⟨rfl, elements, hcontent, hne, hall⟩
    have hread : r.readAll config.ingest.maxBodyBytes = .read body.content := by
      have heq : r.body = some body := hbody
      simp only [Request.readAll, heq]
      exact if_neg (not_lt.mpr hsize)
    rw [handleIngest, if_neg (not_not.mpr hmethod), if_neg (not_not.mpr htype), hread]
    dsimp only
    rw [hdecode]
    dsimp only
    rw [if_neg (mt List.length_eq_zero_iff.mp hne'), if_neg hnil, hend, hwait, hstatus,
      ← hall.length_eq]
    rfl

end Receiver

/-! ### The batch at both ends -/

namespace Ingest

variable {Time : Type} {time : Decoder Time} {zeroTime : Time} {writeTime : Time → Option Json}
  {batch : List (InternalTest.Transaction Time)}

/-- **A batch that can be written**: every number has the size of its type, and every time can be
written so that it is read back. -/
structure Writable (time : Decoder Time) (writeTime : Time → Option Json)
    (batch : List (InternalTest.Transaction Time)) : Prop where
  ne_nil : batch ≠ []
  fits : ∀ t ∈ batch, t.Fits
  times : ∀ t ∈ batch, ∃ json, writeTime t.eventTime = some json ∧
    ∀ old, time json old = some t.eventTime

/-- What is written of a batch. -/
theorem Writable.exists_marshal (h : Writable time writeTime batch) :
    ∃ elements, InternalTest.marshal writeTime batch = some (.array elements) ∧ elements ≠ [] ∧
      .null ∉ elements ∧ List.Forall₂ (fun json t =>
        ∀ old, InternalTest.Transaction.decoder time json old = some t) elements batch := by
  have hwritten : ∀ b : List (InternalTest.Transaction Time), (∀ t ∈ b, t ∈ batch) →
      ∃ elements, InternalTest.marshal writeTime b = some (.array elements) ∧
        .null ∉ elements ∧ List.Forall₂ (fun json t =>
          ∀ old, InternalTest.Transaction.decoder time json old = some t) elements b := by
    intro b hb
    induction b with
    | nil =>
      exact ⟨[], InternalTest.marshal_eq_some_iff.mpr ⟨[], rfl, .nil⟩, List.not_mem_nil, .nil⟩
    | cons t b ih =>
      obtain ⟨elements, helements, hnull, hall⟩ := ih fun t ht => hb t (List.mem_cons_of_mem _ ht)
      obtain ⟨json, hjson, htime⟩ := h.times t (hb t List.mem_cons_self)
      obtain ⟨elements', heq, hall'⟩ := InternalTest.marshal_eq_some_iff.mp helements
      obtain rfl := Json.array.inj heq
      refine ⟨t.toJson json :: elements, ?_, ?_, .cons (fun old => ?_) hall⟩
      · exact InternalTest.marshal_eq_some_iff.mpr ⟨_, rfl, .cons (by rw [hjson]; rfl) hall'⟩
      · exact fun hmem => (List.mem_cons.mp hmem).elim (by rintro ⟨⟩) hnull
      · exact InternalTest.Transaction.decoder_toJson (h.fits t (hb t List.mem_cons_self)) htime old
  obtain ⟨elements, helements, hnull, hall⟩ := hwritten batch fun _ ht => ht
  refine ⟨elements, helements, ?_, hnull, hall⟩
  rintro rfl
  exact h.ne_nil (List.forall₂_nil_left_iff.mp hall)

/-- **What is sent arrives.** A batch that can be written, not too large for either endpoint, is
written as a body of which

* the test endpoint of the load generator reads the batch, and answers that it has taken it;
* the receiver reads the same transactions, none of them missing, and accepts as many of
  them, if it is configured to answer without content and the client waits for that;
* and with this answer the attempt has succeeded. -/
theorem batch_arrives (hbatch : Writable time writeTime batch) {size : Json → ℕ}
    {config : Receiver.Config} {doneWithin : ℤ → Bool}
    (hsize : ∀ body ∈ InternalTest.marshal writeTime batch,
      size body ≤ InternalTest.internalTestIngestMaxBodySize ∧
        size body ≤ config.ingest.maxBodyBytes)
    (hstatus : config.lab.status = statusNoContent)
    (hwait : doneWithin config.lab.responseDelay = false) :
    ∃ body ∈ InternalTest.marshal writeTime batch,
      let r := SenderHTTPAttempt.request size body doneWithin
      (decode (Decoder.slice (InternalTest.Transaction.decoder time) (.zero zeroTime)) []
          ⟨[body], true⟩ = some (batch, ⟨[], true⟩) ∧
        InternalTest.internalTestIngestHandler time zeroTime r = statusNoContent) ∧
      (decode (Decoder.slice (Decoder.pointer (Receiver.Transaction.decoder time) (.zero zeroTime))
          none) [] ⟨[body], true⟩ = some (batch.map fun t => some (toReceiver t), ⟨[], true⟩) ∧
        Receiver.handleIngest time zeroTime config r = .accept batch.length) ∧
      (SenderHTTPAttempt.mk true).deliver (some body) (.response statusNoContent true) = .success := by
  obtain ⟨elements, hbody, hne, hnull, hall⟩ := hbatch.exists_marshal
  obtain ⟨hlarge, hlarge'⟩ := hsize _ hbody
  have hread : List.Forall₂ (fun json t =>
      InternalTest.Transaction.decoder time json (.zero zeroTime) = some t) elements batch :=
    hall.imp fun _ _ h => h _
  -- the receiver decodes alike, into pointers
  have hreceived : List.Forall₂ (fun json t =>
      Receiver.Transaction.decoder time json (.zero zeroTime) = some t) elements
        (batch.map toReceiver) := by
    refine List.forall₂_map_right_iff.mpr (hall.imp fun json t h => ?_)
    have hdecode := alike_decoder time json (.zero zeroTime)
    rw [h, Option.map_some] at hdecode
    exact hdecode.symm
  have hpointers := Decoder.forall₂_pointer hnull hreceived
  rw [List.map_map] at hpointers
  refine ⟨_, hbody, ⟨?_, ?_⟩, ⟨?_, ?_⟩, SenderHTTPAttempt.deliver_eq_success_iff.mpr ⟨rfl, rfl, rfl⟩⟩
  · exact (decode_slice_iff.mpr ⟨rfl, elements, rfl, hne, hread⟩).1
  · refine (internalTestIngestHandler_eq_iff rfl rfl ?_).mpr ⟨_, rfl, elements, rfl, hne, ?_⟩
    · rintro body ⟨⟩
      exact hlarge
    · exact Decoder.exists_forall₂_iff.mp ⟨_, hread⟩
  · exact (decode_slice_iff.mpr ⟨rfl, elements, rfl, hne, hpointers⟩).1
  · refine Receiver.handleIngest_eq_accept_iff.mpr ⟨rfl, rfl, ⟨_, rfl, hlarge', elements, rfl, hne,
      fun json hjson => ⟨ne_of_mem_of_not_mem hjson hnull, ?_⟩, hall.length_eq.symm⟩, ?_, hstatus⟩
    · exact Decoder.exists_forall₂_iff.mp ⟨_, hreceived⟩ json hjson
    · rw [Receiver.waitForDelay, Bool.not_eq_true']
      exact hwait

/-- A transaction, whose time is kept as it is written. -/
def exampleTransaction : InternalTest.Transaction String where
  clientID := "c"
  eventTime := "2026-01-01T00:00:00Z"
  amount := 5 / 2
  eventType := 1
  eventSubtype := 2
  currency := 3
  srcType11 := 0
  srcType12 := 0
  dstType11 := 0
  dstType12 := 0
  srcType21 := 0
  srcType22 := 0
  srcType31 := 0
  srcType32 := 0
  fold := 4

/-- It is sent alone. -/
theorem batch_arrives_transaction :
    ∃ body ∈ InternalTest.marshal (fun time => some (.string time)) [exampleTransaction],
      Receiver.handleIngest Decoder.string "" ⟨⟨1024⟩, {}⟩
        (SenderHTTPAttempt.request (fun _ => 260) body fun _ => false) = .accept 1 := by
  have hwritable : Writable Decoder.string (fun time => some (.string time))
      [exampleTransaction] := by
    refine ⟨List.cons_ne_nil _ _, fun t ht => ?_, fun t _ => ⟨.string t.eventTime, rfl, fun _ => rfl⟩⟩
    obtain rfl := List.mem_singleton.mp ht
    exact ⟨by decide +kernel, by simp [exampleTransaction, Decoder.IsInt32]⟩
  have hsize : ∀ body ∈ InternalTest.marshal (fun time => some (.string time))
      [exampleTransaction], 260 ≤ InternalTest.internalTestIngestMaxBodySize ∧ 260 ≤ 1024 :=
    fun _ _ => ⟨by decide, by decide⟩
  obtain ⟨body, hbody, -, ⟨-, haccept⟩, -⟩ := @batch_arrives String Decoder.string "" _ _ hwritable
    (fun _ => 260) ⟨⟨1024⟩, {}⟩ (fun _ => false) hsize rfl rfl
  exact ⟨body, hbody, haccept⟩

end Ingest

end IngestionLab
