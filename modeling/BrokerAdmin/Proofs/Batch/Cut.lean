import BrokerAdmin.Proofs.Batch
import BrokerAdmin.Proofs.Batch.Accounting
import BrokerAdmin.Proofs.Batch.Extension

/-!
# Batches that are cut off

A connection may break in the middle of a body. The bytes that have arrived by then may look like a
shorter batch, with all of its records whole: only the count says that more were to come. So the
count and the body together must leave no cut unnoticed, wherever it falls, and what has arrived must
not be mistaken for messages or for bad metadata.

The whole body gives as many records as the count says and nothing behind them. If a part of it in
front gave a result of its own, the bytes that were cut off could not change it (`Batch.Extended`).
They would be left over behind the same records, and nothing is left over. So the part in front has
no result, and all that can be said of it is that bytes are missing.

## Main results

* `Batch.readRecords_cut`: records cannot be read from fewer bytes than theirs.
* `Batch.decode_cut`: a cut is an error wherever it falls.
-/

namespace BrokerAdmin.Batch

open Result Wire

/-- **Records cannot be read from fewer bytes than theirs.** The read that fails asks for no more than
has been cut off. -/
theorem readRecords_cut {tooMany : Error}
    (htooMany : ∀ needed remaining, tooMany ≠ .truncatedBatch needed remaining)
    {records : List Record} (hroom : records.length ≤ maxIndex + 1) {front more : Bytes}
    (hwhole : Sequence IsRecord records (front ++ more)) (hmore : more ≠ []) :
    ∃ needed remaining, remaining < needed ∧ needed ≤ remaining + more.length ∧
      readRecords tooMany records.length 0 front = .error (.truncatedBatch needed remaining) := by
  have hsteps : Steps readRecord (front ++ more) records [] :=
    readRecord_accepts.steps_iff.2 ⟨_, hwhole, (List.append_nil _).symm⟩
  have hread : readRecords tooMany records.length 0 (front ++ more) = .ok records :=
    readRecords_eq_ok_iff.2 ⟨rfl, .inr (by omega), [], hsteps⟩
  have hextended := readRecords_extended htooMany records.length 0 front more
  rw [hread] at hextended
  generalize hresult : readRecords tooMany records.length 0 front = result at hextended
  cases hextended with
  | value =>
    -- What was cut off would be left over behind the same records, which leave nothing over.
    obtain ⟨-, -, rest, hfront⟩ := readRecords_eq_ok_iff.1 hresult
    have hnil := hsteps.rest_unique (readRecord_accepts.steps_append hfront more)
    exact absurd (List.append_eq_nil_iff.1 hnil.symm).2 hmore
  | @short needed remaining _ hlt hgrow =>
    refine ⟨needed, remaining, hlt, Nat.le_of_not_lt fun hless => ?_, rfl⟩
    cases hgrow hless

/-- **A cut is an error wherever it falls.** A batch can be encoded, and what is left of it when some
bytes at its end are missing is refused as too short: inside a record, and just as well between two of
them. The error names a read that asks for more bytes than are left, and for no more than have been
cut off. -/
theorem decode_cut {records : List Record} (hfits : ∀ record ∈ records, record.Fits)
    (hcount : records.length ≤ 2 ^ 31) :
    ∃ body, encode records = .ok body ∧ ∀ front more, body = front ++ more → more ≠ [] →
      ∀ (topic : String) (id : MessageId) (base : Dict String) (count : String),
        IsCount records.length count →
        ∃ needed remaining, decode topic id front base count =
            .error (.truncatedBatch needed remaining) ∧
          remaining < needed ∧ needed ≤ remaining + more.length := by
  obtain ⟨body, hbody, hsequence⟩ := sequence_encode hfits
  refine ⟨body, hbody, ?_⟩
  rintro front more rfl hmore topic id base count htext
  have hroom : records.length ≤ maxIndex + 1 := by
    rw [maxIndex]
    omega
  have htooMany : ∀ needed remaining,
      Error.invalidBatchCount count ≠ .truncatedBatch needed remaining :=
    fun _ _ => Error.noConfusion
  obtain ⟨needed, remaining, hlt, hle, hread⟩ := readRecords_cut htooMany hroom hsequence hmore
  refine ⟨needed, remaining, ?_, hlt, hle⟩
  rw [decode_eq_map htext (by omega), hread, map_error]

/-- Two records of which the second is cut off in front, so that the first is there with all of its
bytes. -/
theorem decode_cut_betweenRecords :
    (∀ record ∈ twoRecords, record.Fits) ∧ twoRecords.length ≤ 2 ^ 31 ∧
    IsCount twoRecords.length " +2" ∧
    ∃ front more, encode twoRecords = .ok (front ++ more) ∧ more = [0, 0, 0, 2, 0x18, 0] ∧
      ∃ needed remaining, decode "t" (.ofPosition 3 0) front (.ofList []) " +2" =
          .error (.truncatedBatch needed remaining) ∧
        remaining < needed ∧ needed ≤ remaining + 6 := by
  have hcount : IsCount twoRecords.length " +2" := (parseCount_eq_ok_iff.1 (by decide +kernel)).1
  have hencode : encode twoRecords = .ok ([0, 0, 0, 18, 0x0A, 6, 0x0A, 1, 0x6B, 0x12, 1, 0x61, 0x0A,
      6, 0x0A, 1, 0x6B, 0x12, 1, 0x62, 0x18, 2, 0x00, 0xFF] ++ [0, 0, 0, 2, 0x18, 0]) := by
    decide +kernel
  obtain ⟨body, hbody, hcut⟩ := decode_cut fits_twoRecords (by decide)
  obtain rfl := Except.ok.inj (hencode.symm.trans hbody)
  exact ⟨fits_twoRecords, by decide, hcount, _, _, hencode, rfl,
    hcut _ _ rfl (by decide) "t" (.ofPosition 3 0) (.ofList []) " +2" hcount⟩

end BrokerAdmin.Batch
