import IngestionLab.Loadgen.HttpInternalTestEndpoint
import IngestionLab.Receiver.Server

/-!
# Two endpoints for batches

The test endpoint of the load generator and the receiver decode transactions alike
(`IngestionLab.Ingest.alike_decoder`). A null among them makes the difference: the load
generator takes it for a transaction of zeros, and the receiver refuses the batch
(`IngestionLab.Ingest.endpoints_agree_iff`).
-/

namespace IngestionLab.Ingest

open Go

variable {Time : Type} {time : Decoder Time} {zeroTime : Time} {r : Request}

/-- The transaction the receiver knows. -/
def toReceiver (t : InternalTest.Transaction Time) : Receiver.Transaction Time :=
  ⟨t.clientID, t.eventTime, t.amount, t.eventType, t.eventSubtype, t.currency, t.srcType11,
    t.srcType12, t.dstType11, t.dstType12, t.srcType21, t.srcType22, t.srcType31, t.srcType32,
    t.fold⟩

/-- **Both decode a transaction alike**. -/
theorem alike_decoder (time : Decoder Time) :
    Decoder.Alike toReceiver (InternalTest.Transaction.decoder time)
      (Receiver.Transaction.decoder time) := by
  refine Decoder.alike_openRecord ?_
  rw [InternalTest.Transaction.fields, Receiver.Transaction.fields]
  repeat refine .cons ⟨rfl, Decoder.alike_field _ _ (fun _ => rfl) (fun _ _ => rfl)⟩ ?_
  exact .nil

/-- **What the load generator takes**: a batch, of which nulls may be part. -/
theorem internalTestIngestHandler_eq_iff (hmethod : r.method = methodPost)
    (htype : r.mediaType = some "application/json")
    (hsize : ∀ body ∈ r.body, body.length ≤ InternalTest.internalTestIngestMaxBodySize) :
    InternalTest.internalTestIngestHandler time zeroTime r = statusNoContent ↔
      ∃ body ∈ r.body, ∃ elements, InternalTest.IsBatch time zeroTime body.content elements := by
  rw [InternalTest.internalTestIngestHandler, if_neg (not_not.mpr hmethod),
    if_neg (not_not.mpr htype), r.readAll_of_le hsize]
  cases hbody : r.body with
  | none => exact ⟨nofun, nofun⟩
  | some body =>
    simp only [Option.mem_some_iff, exists_eq_left', Option.elim_some]
    constructor
    · intro h
      split at h
      · exact absurd h (by decide)
      · rename_i transactions rest hdecode
        split_ifs at h with hlength hend
        · exact absurd h (by decide)
        · exact absurd h (by decide)
        · have hne : transactions ≠ [] := fun hnil => hlength (List.length_eq_zero_iff.mpr hnil)
          obtain ⟨-, elements, hcontent, hne, hall⟩ :=
            decode_slice_iff.mp ⟨hdecode, hne, by simpa using hend⟩
          exact ⟨elements, hcontent, hne, Decoder.exists_forall₂_iff.mp ⟨_, hall⟩⟩
    · rintro ⟨elements, hcontent, hne, hdecodes⟩
      obtain ⟨transactions, hall⟩ := Decoder.exists_forall₂_iff.mpr hdecodes
      obtain ⟨hdecode, hne, hend⟩ := decode_slice_iff.mpr ⟨rfl, elements, hcontent, hne, hall⟩
      rw [hdecode]
      dsimp only
      rw [if_neg (mt List.length_eq_zero_iff.mp hne), hend]
      rfl

/-- **What the receiver takes**, which answers at once and with no content: a batch without nulls, of
a client that has not gone away. -/
theorem handleIngest_status_iff {config : Receiver.Config} (hmethod : r.method = methodPost)
    (htype : r.mediaType = some "application/json")
    (hsize : ∀ body ∈ r.body, body.length ≤ config.ingest.maxBodyBytes)
    (hdelay : config.lab.responseDelay = 0) (hstatus : config.lab.status = statusNoContent) :
    (Receiver.handleIngest time zeroTime config r).status = some statusNoContent ↔
      ∃ body ∈ r.body, ∃ elements, InternalTest.IsBatch time zeroTime body.content elements ∧
        .null ∉ elements ∧ r.doneWithin 0 = false := by
  have halike : ∀ json, (Receiver.Transaction.decoder time json (.zero zeroTime)).isSome =
      (InternalTest.Transaction.decoder time json (.zero zeroTime)).isSome := by
    intro json
    rw [← Option.isSome_map (f := toReceiver), alike_decoder]
    rfl
  rw [Receiver.handleIngest, if_neg (not_not.mpr hmethod), if_neg (not_not.mpr htype),
    r.readAll_of_le hsize]
  cases hbody : r.body with
  | none => exact ⟨nofun, nofun⟩
  | some body =>
    simp only [Option.mem_some_iff, exists_eq_left', Option.elim_some]
    constructor
    · intro h
      split at h
      · exact absurd h (by decide)
      · rename_i transactions rest hdecode
        split_ifs at h with hlength hnil hend hwait hother
        · exact absurd h (by decide)
        · exact absurd h (by decide)
        · exact absurd h (by decide)
        · exact absurd h nofun
        · exact absurd (Option.some_inj.mp h) hother
        · have hne : transactions ≠ [] := fun hnil => hlength (List.length_eq_zero_iff.mpr hnil)
          obtain ⟨-, elements, hcontent, hne, hall⟩ :=
            decode_slice_iff.mp ⟨hdecode, hne, by simpa using hend⟩
          have hnull : Json.null ∉ elements := fun hmem =>
            hnil ((Decoder.any_isNone_iff hall).mpr hmem)
          refine ⟨elements, ⟨hcontent, hne, fun json hjson => ?_⟩, hnull, ?_⟩
          · rw [← halike, ← Decoder.isSome_pointer (ne_of_mem_of_not_mem hjson hnull)]
            exact Decoder.exists_forall₂_iff.mp ⟨_, hall⟩ json hjson
          · rw [hdelay] at hwait
            simpa [Receiver.waitForDelay] using hwait
    · rintro ⟨elements, ⟨hcontent, hne, hdecodes⟩, hnull, hdone⟩
      have hpointers : ∀ json ∈ elements, (Decoder.pointer (Receiver.Transaction.decoder time)
          (.zero zeroTime) json none).isSome = true := by
        intro json hjson
        rw [Decoder.isSome_pointer (ne_of_mem_of_not_mem hjson hnull), halike]
        exact hdecodes json hjson
      obtain ⟨transactions, hall⟩ := Decoder.exists_forall₂_iff.mpr hpointers
      have hnil : ¬transactions.any Option.isNone = true := fun hnil =>
        hnull ((Decoder.any_isNone_iff hall).mp hnil)
      have hwait : Receiver.waitForDelay r config.lab.responseDelay = true := by
        rw [Receiver.waitForDelay, hdelay, hdone]
        rfl
      obtain ⟨hdecode, hne, hend⟩ := decode_slice_iff.mpr ⟨rfl, elements, hcontent, hne, hall⟩
      rw [hdecode]
      dsimp only
      rw [if_neg (mt List.length_eq_zero_iff.mp hne), if_neg hnil, hend, hwait, hstatus]
      rfl

/-- **The endpoints agree** unless a batch has a null in it, or the client of the receiver has gone
away. -/
theorem endpoints_agree_iff {config : Receiver.Config} (hmethod : r.method = methodPost)
    (htype : r.mediaType = some "application/json")
    (hsize : ∀ body ∈ r.body, body.length ≤ InternalTest.internalTestIngestMaxBodySize ∧
      body.length ≤ config.ingest.maxBodyBytes)
    (hdelay : config.lab.responseDelay = 0) (hstatus : config.lab.status = statusNoContent) :
    (InternalTest.internalTestIngestHandler time zeroTime r = statusNoContent ↔
        (Receiver.handleIngest time zeroTime config r).status = some statusNoContent) ↔
      ∀ body ∈ r.body, ∀ elements, InternalTest.IsBatch time zeroTime body.content elements →
        .null ∉ elements ∧ r.doneWithin 0 = false := by
  rw [internalTestIngestHandler_eq_iff hmethod htype fun body hbody => (hsize body hbody).1,
    handleIngest_status_iff hmethod htype (fun body hbody => (hsize body hbody).2) hdelay hstatus]
  constructor
  · rintro hagree body hbody elements hbatch
    obtain ⟨body', hbody', elements', hbatch', hnull, hdone⟩ :=
      hagree.mp ⟨body, hbody, elements, hbatch⟩
    obtain rfl : body = body' := Option.mem_unique hbody hbody'
    have heq := hbatch.content.symm.trans hbatch'.content
    obtain rfl : elements = elements' := by simpa using heq
    exact ⟨hnull, hdone⟩
  · intro h
    constructor
    · rintro ⟨body, hbody, elements, hbatch⟩
      exact ⟨body, hbody, elements, hbatch, h body hbody elements hbatch⟩
    · rintro ⟨body, hbody, elements, hbatch, -⟩
      exact ⟨body, hbody, elements, hbatch⟩

/-- A batch of one transaction, taken by both; its time is kept as it is written. -/
theorem endpoints_agree_on_transaction :
    (InternalTest.internalTestIngestHandler Decoder.string ""
        ⟨"POST", some "application/json", some ⟨19, ⟨[.array [.object [("client_id", .string "a")]]],
          true⟩⟩, fun _ => false⟩ = statusNoContent ↔
      (Receiver.handleIngest Decoder.string "" ⟨⟨1024⟩, {}⟩
        ⟨"POST", some "application/json", some ⟨19, ⟨[.array [.object [("client_id", .string "a")]]],
          true⟩⟩, fun _ => false⟩).status = some statusNoContent) := by
  refine (endpoints_agree_iff rfl rfl ?_ rfl rfl).mpr ?_
  · rintro body ⟨⟩
    exact ⟨by decide, by decide⟩
  · rintro body ⟨⟩ elements hbatch
    have heq := hbatch.content
    obtain rfl : [Json.object [("client_id", .string "a")]] = elements := by simpa using heq
    exact ⟨by simp, rfl⟩

/-- The batch `[null]`: the load generator takes it, and the receiver does not. -/
theorem endpoints_disagree_on_null :
    InternalTest.internalTestIngestHandler Decoder.string ""
        ⟨"POST", some "application/json", some ⟨6, ⟨[.array [.null]], true⟩⟩, fun _ => false⟩ =
          statusNoContent ∧
      (Receiver.handleIngest Decoder.string "" ⟨⟨1024⟩, {}⟩
        ⟨"POST", some "application/json", some ⟨6, ⟨[.array [.null]], true⟩⟩, fun _ => false⟩).status =
          some statusBadRequest := ⟨rfl, rfl⟩

end IngestionLab.Ingest
