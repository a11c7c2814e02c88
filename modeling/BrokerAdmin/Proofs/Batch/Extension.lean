import BrokerAdmin.Proofs.Batch.Framing

/-!
# More bytes behind a batch

A body may arrive in pieces, so it matters what is already settled by its first bytes. A record is
cut off the front and its metadata is decoded from its own bytes alone, so nothing that has been read
is looked at again, and nothing behind it has been looked at. Only a body that ends inside a record
has not said yet what it holds. Its error names the read that failed, and as long as bytes are missing
the same read fails, with more bytes at hand.

What a result becomes is said for any reader, and carried through the reads of a record and through
the records one after the other.

## Main definitions

* `Batch.Extended`: what becomes of a result when more bytes follow.

## Main results

* `Batch.Extended.bind`: readers one after the other.
* `Batch.readRecord_extended`, `Batch.readRecords_extended`: one record, and all records.
* `Batch.decode_append`: the messages of a batch with more bytes behind it.
-/

namespace BrokerAdmin.Batch

open Result

variable {α β : Type} {more : Bytes}

/-- What becomes of a result when more bytes follow. -/
inductive Extended (more : Bytes) (grow : α → α) : Except Error α → Except Error α → Prop
  /-- A value is found again, with the bytes behind it that are left over. -/
  | value {x : α} : Extended more grow (.ok x) (.ok (grow x))
  /-- What is wrong stays wrong. -/
  | fault {error : Error} : (∀ needed remaining, error ≠ .truncatedBatch needed remaining) →
      Extended more grow (.error error) (.error error)
  /-- What is missing is missing as long as there are too few bytes. -/
  | short {needed remaining : Nat} {result : Except Error α} : remaining < needed →
      (remaining + more.length < needed →
        result = .error (.truncatedBatch needed (remaining + more.length))) →
      Extended more grow (.error (.truncatedBatch needed remaining)) result

/-- **Readers one after the other**: the second goes on where the first has come to. -/
theorem Extended.bind {grow : α → α} {grow' : β → β} {r r' : Except Error α}
    {f f' : α → Except Error β} (h : Extended more grow r r')
    (hf : ∀ x, Extended more grow' (f x) (f' (grow x))) :
    Extended more grow' (r >>= f) (r' >>= f') := by
  cases h with
  | value => exact hf _
  | fault hfault => exact .fault hfault
  | short hlt hresult =>
    refine .short hlt fun hmore => ?_
    rw [hresult hmore]
    rfl

/-- Without a rest that grows, a result stays as it is unless bytes are missing. -/
theorem Extended.eq_of_ne {r r' : Except Error α} (h : Extended more (fun x => x) r r')
    (hr : ∀ needed remaining, r ≠ .error (.truncatedBatch needed remaining)) : r' = r := by
  cases h with
  | value => rfl
  | fault _ => rfl
  | short _ _ => exact absurd rfl (hr _ _)

/-- While bytes are missing, the same read fails. -/
theorem Extended.of_short {grow : α → α} {needed remaining : Nat} {r' : Except Error α}
    (h : Extended more grow (.error (.truncatedBatch needed remaining)) r') :
    remaining < needed ∧ (remaining + more.length < needed →
      r' = .error (.truncatedBatch needed (remaining + more.length))) := by
  cases h with
  | fault hfault => exact absurd rfl (hfault _ _)
  | short hlt hresult => exact ⟨hlt, hresult⟩

/-- What is read from other bytes is not affected. -/
theorem extended_mapError_ofValue (result : Except ValueError α) :
    Extended more (fun x => x) (result.mapError Error.ofValue) (result.mapError Error.ofValue) := by
  cases result with
  | ok x => exact .value
  | error error => exact .fault fun needed remaining => by cases error <;> exact Error.noConfusion

/-! ### Records -/

/-- What has been read, and the rest behind it with the bytes that follow. -/
def growRest (more : Bytes) (p : α × Bytes) : α × Bytes := (p.1, p.2 ++ more)

theorem take_extended (n : Nat) (body more : Bytes) :
    Extended more (growRest more) (take n body) (take n (body ++ more)) := by
  rcases Nat.lt_or_ge body.length n with hlt | hle
  · have hnone : ∀ {bytes : Bytes}, bytes.length < n →
        take n bytes = .error (.truncatedBatch n bytes.length) := fun hbytes => by
      rw [take, Bytes.splitExactly_eq_none_iff.2 hbytes]
    rw [hnone hlt]
    refine .short hlt fun hmore => ?_
    rw [← List.length_append] at hmore ⊢
    exact hnone hmore
  · obtain ⟨front, rest, rfl, rfl⟩ : ∃ front rest, body = front ++ rest ∧ front.length = n :=
      ⟨body.take n, body.drop n, (List.take_append_drop n body).symm, List.length_take_of_le hle⟩
    rw [List.append_assoc, take_append rfl, take_append rfl]
    exact .value

/-- **A record is read from its own bytes.** -/
theorem readRecord_extended (body more : Bytes) :
    Extended more (growRest more) (readRecord body) (readRecord (body ++ more)) := by
  refine (take_extended 4 body more).bind fun ⟨size, body⟩ => ?_
  refine (take_extended size.bigEndian body more).bind fun ⟨head, body⟩ => ?_
  refine (extended_mapError_ofValue (Metadata.ofBytes head)).bind fun metadata => ?_
  exact (take_extended metadata.payloadSize body more).bind fun ⟨payload, body⟩ => .value

/-- **Records one after the other** are read from their own bytes. -/
theorem readRecords_extended {tooMany : Error}
    (h : ∀ needed remaining, tooMany ≠ .truncatedBatch needed remaining) (count index : Nat)
    (body more : Bytes) : Extended more (fun records => records)
      (readRecords tooMany count index body) (readRecords tooMany count index (body ++ more)) := by
  induction count generalizing index body with
  | zero => exact .value
  | succ count ih =>
    refine (readRecord_extended body more).bind fun ⟨record, body⟩ => ?_
    dsimp only [growRest]
    split
    · exact .fault h
    · exact (ih (index + 1) body).bind fun records => .value

theorem decode_extended (topic : String) (id : MessageId) (body more : Bytes) (base : Dict String)
    (count : String) : Extended more (fun messages => messages) (decode topic id body base count)
      (decode topic id (body ++ more) base count) := by
  have hcount : Extended more (fun n => n) (parseCount count) (parseCount count) := by
    rw [parseCount]
    split
    · exact .value
    · exact .fault fun _ _ => Error.noConfusion
  refine hcount.bind fun n => ?_
  exact (readRecords_extended (fun _ _ => Error.noConfusion) n 0 body more).bind fun records => .value

/-- **More bytes behind a batch.** A result stays as it is, be it messages or an error, unless the
error is that bytes are missing. Then fewer bytes were left than needed, and as long as this is so
with the bytes that follow, the same number is needed and they are left as well. -/
theorem decode_append (topic : String) (id : MessageId) (base : Dict String) (count : String)
    (body more : Bytes) :
    (∀ result, decode topic id body base count = result →
      (∀ needed remaining, result ≠ .error (.truncatedBatch needed remaining)) →
      decode topic id (body ++ more) base count = result) ∧
    ∀ needed remaining,
      decode topic id body base count = .error (.truncatedBatch needed remaining) →
      remaining < needed ∧ (remaining + more.length < needed →
        decode topic id (body ++ more) base count =
          .error (.truncatedBatch needed (remaining + more.length))) := by
  have h := decode_extended topic id body more base count
  constructor
  · rintro result rfl hresult
    exact h.eq_of_ne hresult
  · intro needed remaining hshort
    rw [hshort] at h
    exact h.of_short

/-- A record with its length cut off after two bytes, with one byte more and with all of them; and a
payload of one byte that is followed by another. -/
theorem decode_append_cutOff :
    decode "t" (.ofPosition 3 0) [0, 0] (.ofList []) "1" = .error (.truncatedBatch 4 2) ∧
    decode "t" (.ofPosition 3 0) [0, 0, 0] (.ofList []) "1" = .error (.truncatedBatch 4 3) ∧
    decode "t" (.ofPosition 3 0) [0, 0, 0, 2, 0x18, 1, 0x41] (.ofList []) "1" =
      .ok [⟨"t", ⟨3, 0, -1, 0⟩, [0x41], .ofList []⟩] ∧
    decode "t" (.ofPosition 3 0) [0, 0, 0, 2, 0x18, 1, 0x41, 0x42] (.ofList []) "1" =
      .ok [⟨"t", ⟨3, 0, -1, 0⟩, [0x41], .ofList []⟩] := by
  have hshort : decode "t" (.ofPosition 3 0) [0, 0] (.ofList []) "1" =
      .error (.truncatedBatch 4 2) := by decide +kernel
  have hwhole : decode "t" (.ofPosition 3 0) [0, 0, 0, 2, 0x18, 1, 0x41] (.ofList []) "1" =
      .ok [⟨"t", ⟨3, 0, -1, 0⟩, [0x41], .ofList []⟩] := by decide +kernel
  obtain ⟨-, hgrow⟩ := decode_append "t" (.ofPosition 3 0) (.ofList []) "1" [0, 0] [0]
  obtain ⟨hkeep, -⟩ := decode_append "t" (.ofPosition 3 0) (.ofList []) "1"
    [0, 0, 0, 2, 0x18, 1, 0x41] [0x42]
  exact ⟨hshort, (hgrow 4 2 hshort).2 (by decide), hwhole,
    hkeep _ hwhole nofun⟩

end BrokerAdmin.Batch
