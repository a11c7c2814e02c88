import BrokerAdmin.Proofs.Batch.Accounting
import BrokerAdmin.Proofs.Metadata.Meaning

/-!
# The count of a batch

How many records a batch has is said by a text that comes with it from outside, and nothing makes the
text agree with the body. What the count decides is where reading ends. A record is read in the same
way whatever the count, so a smaller count gives the first messages, and an error that a smaller
count runs into is the error of every greater one.

A count that is too great does no harm either, since the body runs out first.

## The bound that decides it

A record has four bytes for the length of its metadata. The metadata has at least two: it must give a
payload size, and a field has a tag and a value. Six bytes for each record bound

* the records that are read, whether or not an error follows them,
* the room for their messages, which is set aside by the four bytes of the length alone, and
* the indices, which fit as long as the body has less than six times as many bytes.

## Main definitions

* `Batch.BreaksOff`: reading ends behind some records with an error.

## Main results

* `Batch.readRecords_eq_error_iff`: with which error reading ends, and where.
* `Batch.decode_smallerCount`: what a smaller count gives.
* `Batch.length_le_of_steps`: how many records a body can hold.
* `Batch.decode_greaterCount`: what a count that is too great leads to.
-/

namespace BrokerAdmin

open Result Wire

/-! ### The least length of metadata -/

/-- A field that gives a payload size has a tag and a number. -/
theorem Metadata.two_le_length_of_payloadSize {n : Int} {bytes : Bytes}
    (h : IsField (.payloadSize n) bytes) : 2 ≤ bytes.length := by
  obtain ⟨number, wireType, tag, value, htag, -, hvalue, rfl⟩ := h
  have htag' : 0 < tag.length := List.length_pos_iff.2 htag.ne_nil
  cases hvalue with
  | payloadSize hsize =>
    obtain ⟨m, hvarint, -⟩ := hsize
    have hvalue' : 0 < value.length := List.length_pos_iff.2 hvarint.ne_nil
    rw [List.length_append]
    omega

/-- **Metadata has at least two bytes**, since the payload size cannot be left out. -/
theorem Metadata.two_le_length_of_ofBytes {bytes : Bytes} {m : Metadata}
    (h : Metadata.ofBytes bytes = .ok m) : 2 ≤ bytes.length := by
  obtain ⟨entries, hsteps, hfinish⟩ := decode_eq_ok_iff.1 (ofBytes_eq_ok_iff.1 h)
  obtain ⟨n, hn, -, -⟩ := finish_meaning_eq_ok_iff.1 hfinish
  obtain ⟨entry, hmem, hsize⟩ := mem_of_lastOf hn
  cases entry <;> cases hsize
  obtain ⟨mid, rest, hread, hle⟩ := hsteps.exists_of_mem readEntry_consumes hmem
  rcases readEntry_eq_ok_iff.1 hread with ⟨front, hfield, rfl⟩ | ⟨-, _, _, _, _, hproperty, -⟩
  · have hfront := two_le_length_of_payloadSize hfield
    rw [List.length_append] at hle
    omega
  · cases hproperty

namespace Batch

/-! ### Where reading ends -/

/-- Reading at most `n` records of a body ends behind these, with an error: the bytes that follow are
no record, or the last one that was read has the first index that does not fit, which is the error
`tooMany`. The first record has the given index. -/
def BreaksOff (tooMany : Error) (n index : Nat) (body : Bytes) (records : List Record)
    (error : Error) : Prop :=
  ∃ rest, Steps readRecord body records rest ∧
    (records.length < n ∧ index + records.length ≤ maxIndex + 1 ∧ readRecord rest = .error error ∨
      records.length ≤ n ∧ index + records.length = maxIndex + 2 ∧ error = tooMany)

theorem breaksOff_of_readRecords {tooMany error : Error} {n index : Nat} {body : Bytes}
    (hindex : index ≤ maxIndex + 1) (h : readRecords tooMany n index body = .error error) :
    ∃ records, BreaksOff tooMany n index body records error := by
  induction n generalizing index body with
  | zero => cases h
  | succ n ih =>
    rw [readRecords, bind_eq_error_iff] at h
    rcases h with h | ⟨⟨record, mid⟩, hrecord, h⟩
    · exact ⟨[], body, .done, .inl ⟨Nat.succ_pos n, hindex, h⟩⟩
    · dsimp only at h
      split at h
      · next hlarge =>
        refine ⟨[record], mid, .step hrecord .done, .inr ⟨?_, ?_, (Except.error.inj h).symm⟩⟩
        · simp
        · simp only [List.length_singleton]
          omega
      · rcases bind_eq_error_iff.1 h with h | ⟨_, _, h⟩
        · obtain ⟨records, rest, hsteps, hend⟩ := ih (by omega) h
          refine ⟨record :: records, rest, .step hrecord hsteps, ?_⟩
          simp only [List.length_cons]
          refine hend.imp (fun hend => ?_) fun hend => ?_
          · exact ⟨by omega, by omega, hend.2.2⟩
          · exact ⟨by omega, by omega, hend.2.2⟩
        · cases h

theorem BreaksOff.readRecords_eq {tooMany error : Error} {n index : Nat} {body : Bytes}
    {records : List Record} (hindex : index ≤ maxIndex + 1)
    (h : BreaksOff tooMany n index body records error) :
    readRecords tooMany n index body = .error error := by
  obtain ⟨rest, hsteps, hend⟩ := h
  induction hsteps generalizing n index with
  | done =>
    simp only [List.length_nil] at hend
    rcases hend with ⟨hlt, -, herror⟩ | ⟨-, hlast, -⟩
    · obtain ⟨n, rfl⟩ := Nat.exists_eq_add_of_lt hlt
      rw [Nat.zero_add, readRecords, herror, error_bind]
    · omega
  | @step body mid rest record records hrecord hsteps ih =>
    simp only [List.length_cons] at hend
    obtain ⟨n, rfl⟩ : ∃ n', n = n' + 1 := ⟨n - 1, by omega⟩
    rw [readRecords, hrecord, ok_bind]
    dsimp only
    by_cases hlarge : maxIndex < index
    · rcases hend with ⟨-, hroom, -⟩ | ⟨-, -, rfl⟩
      · omega
      · rw [if_pos hlarge]
    · rw [if_neg hlarge, ih (by omega) ?_, error_bind]
      refine hend.imp (fun hend => ?_) fun hend => ?_
      · exact ⟨by omega, by omega, hend.2.2⟩
      · exact ⟨by omega, by omega, hend.2.2⟩

/-- **With which error reading ends, and where**: at the first record that cannot be read, or behind
the first one whose index does not fit. -/
theorem readRecords_eq_error_iff {tooMany error : Error} {n index : Nat} {body : Bytes}
    (hindex : index ≤ maxIndex + 1) :
    readRecords tooMany n index body = .error error ↔
      ∃ records, BreaksOff tooMany n index body records error :=
  ⟨breaksOff_of_readRecords hindex, fun ⟨_, h⟩ => h.readRecords_eq hindex⟩

variable {topic : String} {id : MessageId} {body : Bytes} {base : Dict String} {count : String}
  {n : Nat} {error : Error}

/-- **With which error a batch is refused**, once its count is known. -/
theorem decode_eq_error_iff (hcount : IsCount n count) (hn : n < 2 ^ 64) :
    decode topic id body base count = .error error ↔
      ∃ records, BreaksOff (.invalidBatchCount count) n 0 body records error := by
  rw [decode_eq_map hcount hn, ← readRecords_eq_error_iff (Nat.zero_le _)]
  cases readRecords (.invalidBatchCount count) n 0 body <;> simp

/-! ### Smaller counts -/

theorem toMessages_take (index j : Nat) (records : List Record) :
    toMessages topic id base index (records.take j) =
      (toMessages topic id base index records).take j := by
  induction records generalizing index j with
  | nil => cases j <;> rfl
  | cons record records ih =>
    cases j with
    | zero => rfl
    | succ j => rw [List.take_succ_cons, toMessages, toMessages, List.take_succ_cons, ih]

/-- The first records are those that a smaller count asks for. -/
theorem readRecords_take {tooMany tooMany' : Error} {j index : Nat} {records : List Record}
    (hle : j ≤ n) (h : readRecords tooMany n index body = .ok records) :
    readRecords tooMany' j index body = .ok (records.take j) := by
  obtain ⟨hlen, hroom, rest, hsteps⟩ := readRecords_eq_ok_iff.1 h
  obtain ⟨mid, hmid⟩ := hsteps.take j
  refine readRecords_eq_ok_iff.2 ⟨?_, by omega, mid, hmid⟩
  rw [List.length_take, hlen, Nat.min_eq_left hle]

/-- Where a smaller count breaks off, a greater one does, as long as there are indices. -/
theorem BreaksOff.mono {tooMany tooMany' : Error} {j : Nat} {records : List Record} (hle : j ≤ n)
    (hroom : j ≤ maxIndex + 1) (h : BreaksOff tooMany j 0 body records error) :
    BreaksOff tooMany' n 0 body records error := by
  obtain ⟨rest, hsteps, ⟨hlt, hindex, herror⟩ | ⟨hlt, hlast, -⟩⟩ := h
  · exact ⟨rest, hsteps, .inl ⟨by omega, hindex, herror⟩⟩
  · omega

/-- **Smaller counts read prefixes.** Where a batch is accepted, a smaller count gives the first of
its messages. Where a smaller count leads to an error, the batch is refused with the same error. -/
theorem decode_smallerCount {j : Nat} {count' : String} (hcount : IsCount n count)
    (hcount' : IsCount j count') (hle : j ≤ n) (hn : n ≤ 2 ^ 31) (topic : String) (id : MessageId)
    (body : Bytes) (base : Dict String) :
    (∀ messages, decode topic id body base count = .ok messages →
      decode topic id body base count' = .ok (messages.take j)) ∧
    ∀ error, decode topic id body base count' = .error error →
      decode topic id body base count = .error error := by
  have hroom : j ≤ maxIndex + 1 := by
    rw [maxIndex]
    omega
  constructor
  · intro messages h
    rw [decode_eq_map hcount (by omega), map_eq_ok_iff] at h
    obtain ⟨records, hrecords, rfl⟩ := h
    rw [decode_eq_map hcount' (by omega), readRecords_take hle hrecords, map_ok, toMessages_take]
  · intro error h
    obtain ⟨records, hbreak⟩ := (decode_eq_error_iff hcount' (by omega)).1 h
    exact (decode_eq_error_iff hcount (by omega)).2 ⟨records, hbreak.mono hle hroom⟩

/-- A batch of two records, of which one alone is asked for, and one whose first record is cut off. -/
theorem decode_smallerCount_twoRecords :
    IsCount 2 "2" ∧ IsCount 1 " +1" ∧ 1 ≤ 2 ∧ 2 ≤ 2 ^ 31 ∧
    decode "t" (.ofPosition 3 0) [0, 0, 0, 2, 0x18, 1, 0x41, 0, 0, 0, 2, 0x18, 0] (.ofList []) "2" =
      .ok [⟨"t", ⟨3, 0, -1, 0⟩, [0x41], .ofList []⟩, ⟨"t", ⟨3, 0, -1, 1⟩, [], .ofList []⟩] ∧
    decode "t" (.ofPosition 3 0) [0, 0, 0, 2, 0x18, 1, 0x41, 0, 0, 0, 2, 0x18, 0] (.ofList [])
      " +1" = .ok [⟨"t", ⟨3, 0, -1, 0⟩, [0x41], .ofList []⟩] ∧
    decode "t" (.ofPosition 3 0) [0, 0, 0, 2, 0x18, 1] (.ofList []) " +1" =
      .error (.truncatedBatch 1 0) ∧
    decode "t" (.ofPosition 3 0) [0, 0, 0, 2, 0x18, 1] (.ofList []) "2" =
      .error (.truncatedBatch 1 0) := by
  have htwo : IsCount 2 "2" := (parseCount_eq_ok_iff.1 (by decide +kernel)).1
  have hone : IsCount 1 " +1" := (parseCount_eq_ok_iff.1 (by decide +kernel)).1
  have hwhole : decode "t" (.ofPosition 3 0) [0, 0, 0, 2, 0x18, 1, 0x41, 0, 0, 0, 2, 0x18, 0]
      (.ofList []) "2" =
        .ok [⟨"t", ⟨3, 0, -1, 0⟩, [0x41], .ofList []⟩, ⟨"t", ⟨3, 0, -1, 1⟩, [], .ofList []⟩] := by
    decide +kernel
  have hcut : decode "t" (.ofPosition 3 0) [0, 0, 0, 2, 0x18, 1] (.ofList []) " +1" =
      .error (.truncatedBatch 1 0) := by decide +kernel
  obtain ⟨hfirst, -⟩ := decode_smallerCount htwo hone (by decide) (by decide) "t" (.ofPosition 3 0)
    [0, 0, 0, 2, 0x18, 1, 0x41, 0, 0, 0, 2, 0x18, 0] (.ofList [])
  obtain ⟨-, hsame⟩ := decode_smallerCount htwo hone (by decide) (by decide) "t" (.ofPosition 3 0)
    [0, 0, 0, 2, 0x18, 1] (.ofList [])
  exact ⟨htwo, hone, by decide, by decide, hwhole, hfirst _ hwhole, hcut, hsame _ hcut⟩

/-! ### Counts that are too great -/

/-- A record has at least six bytes. -/
theorem six_le_length_of_isRecord {record : Record} {bytes : Bytes} (h : IsRecord record bytes) :
    6 ≤ bytes.length := by
  obtain ⟨head, -, hmetadata, -, rfl⟩ := h
  have hhead := Metadata.two_le_length_of_ofBytes hmetadata
  rw [frame, List.length_append, List.length_append, Bytes.length_ofNat32]
  omega

theorem length_le_of_sequence {records : List Record} {bytes : Bytes}
    (h : Sequence IsRecord records bytes) : 6 * records.length ≤ bytes.length := by
  induction h with
  | nil => simp
  | cons hrecord _ ih =>
    have hlen := six_le_length_of_isRecord hrecord
    rw [List.length_cons, List.length_append]
    omega

/-- **How many records a body can hold.** -/
theorem length_le_of_steps {records : List Record} {rest : Bytes}
    (h : Steps readRecord body records rest) : 6 * records.length + rest.length ≤ body.length := by
  obtain ⟨front, hfront, rfl⟩ := readRecord_accepts.steps_iff.1 h
  have hlen := length_le_of_sequence hfront
  rw [List.length_append]
  omega

/-- No record is refused for the count, which is not looked at. -/
theorem readRecord_ne_invalidBatchCount (body : Bytes) (text : String) :
    readRecord body ≠ .error (.invalidBatchCount text) := by
  have htake : ∀ (k : Nat) (bytes : Bytes), take k bytes ≠ .error (.invalidBatchCount text) := by
    intro k bytes h
    rw [take] at h
    split at h <;> cases h
  intro h
  rcases bind_eq_error_iff.1 h with h | ⟨⟨size, body⟩, -, h⟩
  · exact htake _ _ h
  rcases bind_eq_error_iff.1 h with h | ⟨⟨head, body⟩, -, h⟩
  · exact htake _ _ h
  rcases bind_eq_error_iff.1 h with h | ⟨metadata, -, h⟩
  · obtain ⟨error, -, h⟩ := mapError_eq_error_iff.1 h
    cases error <;> cases h
  rcases bind_eq_error_iff.1 h with h | ⟨⟨payload, body⟩, -, h⟩
  · exact htake _ _ h
  · cases h

/-- **A count cannot outrun the body.** Each message that a batch gives has six bytes of the body to
itself. So a count that is greater than a sixth of the body leads to an error, behind no more records
than that. At any time the messages so far fit into the room that is set aside for them, by the count
and a fourth of the body. The indices fit as long as the body has less than `6 * 2 ^ 31` bytes. -/
theorem decode_greaterCount (topic : String) (id : MessageId) (body : Bytes) (base : Dict String)
    (count : String) :
    (∀ messages, decode topic id body base count = .ok messages →
      6 * messages.length ≤ body.length) ∧
    ∀ n, IsCount n count → n < 2 ^ 64 →
      (body.length / 6 < n → ∃ error records, decode topic id body base count = .error error ∧
        BreaksOff (.invalidBatchCount count) n 0 body records error ∧
        records.length ≤ body.length / 6) ∧
      (∀ records rest, Steps readRecord body records rest → records.length ≤ n →
        records.length ≤ min n (body.length / 4)) ∧
      (body.length < 6 * 2 ^ 31 →
        decode topic id body base count ≠ .error (.invalidBatchCount count)) := by
  have hgiven : ∀ messages, decode topic id body base count = .ok messages →
      6 * messages.length ≤ body.length := by
    intro messages h
    obtain ⟨n, records, front, rest, -, -, -, hfront, rfl, rfl⟩ := decode_eq_ok_iff.1 h
    have hlen := length_le_of_sequence hfront
    rw [length_toMessages, List.length_append]
    omega
  refine ⟨hgiven, fun n hcount hn => ⟨fun hgreat => ?_, fun records rest hsteps hle => ?_,
    fun hshort herror => ?_⟩⟩
  · cases hdecode : decode topic id body base count with
    | ok messages =>
      -- An accepted batch has as many messages as the count says.
      have hlen := hgiven messages hdecode
      obtain ⟨k, records, _, _, hk, -, hsame, -, -, rfl⟩ := decode_eq_ok_iff.1 hdecode
      rw [parseCount_eq_ok_iff.2 ⟨hcount, hn⟩] at hk
      obtain rfl := Except.ok.inj hk
      rw [length_toMessages, hsame] at hlen
      omega
    | error error =>
      obtain ⟨records, rest, hsteps, hend⟩ := (decode_eq_error_iff hcount hn).1 hdecode
      have hlen := length_le_of_steps hsteps
      exact ⟨error, records, rfl, ⟨rest, hsteps, hend⟩, by omega⟩
  · have hlen := length_le_of_steps hsteps
    exact Nat.le_min.2 ⟨hle, by omega⟩
  · obtain ⟨records, rest, hsteps, ⟨-, -, hread⟩ | ⟨-, hlast, -⟩⟩ :=
      (decode_eq_error_iff hcount hn).1 herror
    · exact readRecord_ne_invalidBatchCount rest count hread
    · have hlen := length_le_of_steps hsteps
      rw [maxIndex] at hlast
      omega

/-- Two records of six bytes each. -/
def smallestRecords : Bytes := [0, 0, 0, 2, 0x18, 0, 0, 0, 0, 2, 0x18, 0]

/-- Two messages from two records of six bytes, and the greatest count for the same bytes. -/
theorem decode_greaterCount_greatest :
    (∃ messages, decode "t" (.ofPosition 3 0) smallestRecords (.ofList []) "2" = .ok messages ∧
      messages.length = 2 ∧ 6 * messages.length ≤ smallestRecords.length) ∧
    IsCount (2 ^ 64 - 1) "18446744073709551615" ∧ smallestRecords.length / 6 < 2 ^ 64 - 1 ∧
    (∃ error records,
      decode "t" (.ofPosition 3 0) smallestRecords (.ofList []) "18446744073709551615" =
        .error error ∧ records.length ≤ 2 ∧
      BreaksOff (.invalidBatchCount "18446744073709551615") (2 ^ 64 - 1) 0 smallestRecords records
        error) ∧
    (∃ records, Steps readRecord smallestRecords records [] ∧ records.length = 2 ∧
      records.length ≤ min (2 ^ 64 - 1) 3) ∧
    decode "t" (.ofPosition 3 0) smallestRecords (.ofList []) "18446744073709551615" ≠
      .error (.invalidBatchCount "18446744073709551615") := by
  have hcount : IsCount (2 ^ 64 - 1) "18446744073709551615" :=
    (parseCount_eq_ok_iff.1 (by decide +kernel)).1
  have hdecode : decode "t" (.ofPosition 3 0) smallestRecords (.ofList []) "2" =
      .ok [⟨"t", ⟨3, 0, -1, 0⟩, [], .ofList []⟩, ⟨"t", ⟨3, 0, -1, 1⟩, [], .ofList []⟩] := by
    decide +kernel
  have hread : readRecord smallestRecords =
      .ok (⟨{ payloadSize := 0 }, []⟩, [0, 0, 0, 2, 0x18, 0]) := by
    decide +kernel
  have hread' : readRecord [0, 0, 0, 2, 0x18, 0] = .ok (⟨{ payloadSize := 0 }, []⟩, []) := by
    decide +kernel
  have hsteps := Steps.step hread (.step hread' .done)
  obtain ⟨hgiven, -⟩ :=
    decode_greaterCount "t" (.ofPosition 3 0) smallestRecords (.ofList []) "2"
  obtain ⟨-, hgreat⟩ := decode_greaterCount "t" (.ofPosition 3 0) smallestRecords (.ofList [])
    "18446744073709551615"
  obtain ⟨hrefused, hroom, hindex⟩ := hgreat (2 ^ 64 - 1) hcount (by decide)
  obtain ⟨error, records, herror, hbreak, hlen⟩ := hrefused (by decide)
  exact ⟨⟨_, hdecode, rfl, hgiven _ hdecode⟩, hcount, by decide,
    ⟨error, records, herror, hlen, hbreak⟩, ⟨_, hsteps, rfl, hroom _ _ hsteps (by decide)⟩, hindex (by decide)⟩

end Batch

end BrokerAdmin
