import BrokerAdmin.Proofs.Exchange
import BrokerAdmin.Proofs.Response
import BrokerAdmin.Subscription

/-!
# Peeking, position by position

A peek knows three things while it goes on: the position it is at, how many messages are still
missing, and what it has found. One position either ends it with an error, or moves all three. The
step is stated once, for any transport that answers for the positions, and the run follows by
induction on the number of positions that have been answered.

## What ends a peek

Only an error, or messages enough. A position whose answer is a batch of no messages moves the peek on
and brings it no nearer to its end, so the number of requests is not bounded by the number of messages
that are asked for: it is so exactly when, among that many positions, one fails or all together hold
the messages.

## Main definitions

* `Subscription.Serves`: a transport that answers for the positions of a subscription.
* `Transport.byNumber`: such a transport for whatever answers.
* `Subscription.EndsWithin`: an outcome after so many requests at most.

## Main results

* `Subscription.Serves.run_peekFrom`: a peek that has come some positions further.
* `Subscription.run_peek`: what a peek gives, and what it asks for.
* `Subscription.peek_endsWithin_iff`: when a peek ends after so many requests.
-/

namespace BrokerAdmin

open Exchange Result

/-- The number that the last segment of a request denotes. -/
def Request.lastNumber (request : Request) : Nat :=
  Nat.ofDigitChars 10 (request.endpoint.segments.getLastD "").toList 0

/-- A transport on which every request leaves as it is and is answered by the number at its end. -/
def Transport.byNumber (server : Nat → Except Error Response) : Transport Request where
  outgoing := .ok
  answer _ request := server request.lastNumber

namespace Subscription

variable {ω : Type}

/-- The request for the messages at a position. -/
def positionRequest (version : ApiVersion) (s : Subscription) (position : Nat) : Request where
  method := .get
  endpoint := (s.endpoint version).add ["position", intText position]
  withHeaders := true

/-- The messages at a position, as a server answers for it. -/
def messagesAt (s : Subscription) (server : Nat → Except Error Response) (position : Nat) :
    Except Error (List Message) := do
  let response ← server position
  response.messages s.topic.toText

/-- The messages found at a position, none if it fails. -/
def foundAt (s : Subscription) (server : Nat → Except Error Response) (position : Nat) :
    List Message :=
  match s.messagesAt server position with
  | .ok found => found
  | .error _ => []

/-- The requests for positions leave as `out` says and are answered by `server`, whatever has left
before. -/
structure Serves (version : ApiVersion) (s : Subscription) (server : Nat → Except Error Response)
    (transport : Transport ω) (out : Nat → ω) : Prop where
  /-- Requests leave. -/
  outgoing (position : Nat) :
    transport.outgoing (s.positionRequest version position) = .ok (out position)
  /-- Requests are answered. -/
  answer (log : List ω) (position : Nat) : transport.answer log (out position) = server position

theorem lastNumber_positionRequest (version : ApiVersion) (s : Subscription) (position : Nat) :
    (s.positionRequest version position).lastNumber = position := by
  have hdigits : (intText position).toList = Nat.toDigits 10 position := by
    rw [intText, String.toList_ofList, intChars, if_neg (by omega), Int.natAbs_natCast]
  simp [Request.lastNumber, positionRequest, Endpoint.add, hdigits, Nat.ofDigitChars_ten_toDigits]

/-- Whatever a server answers, there is a transport to it. -/
theorem serves_byNumber (version : ApiVersion) (s : Subscription)
    (server : Nat → Except Error Response) :
    s.Serves version server (.byNumber server) (s.positionRequest version) where
  outgoing _ := rfl
  answer _ position := congrArg server (lastNumber_positionRequest version s position)

/-- An outcome with messages in front of those that it gives. -/
def withFront (front : List Message) (outcome : Option (Except Error (List Message)) × List ω) :
    Option (Except Error (List Message)) × List ω :=
  (outcome.1.map fun result => result.map (front ++ ·), outcome.2)

@[simp] theorem withFront_nil (outcome : Option (Except Error (List Message)) × List ω) :
    withFront [] outcome = outcome := by
  obtain ⟨result, log⟩ := outcome
  cases result with
  | none => rfl
  | some result => cases result <;> rfl

@[simp] theorem withFront_withFront (front front' : List Message)
    (outcome : Option (Except Error (List Message)) × List ω) :
    withFront front (withFront front' outcome) = withFront (front ++ front') outcome := by
  obtain ⟨result, log⟩ := outcome
  cases result with
  | none => rfl
  | some result => cases result <;> simp [withFront]

namespace Serves

variable {version : ApiVersion} {s : Subscription} {server : Nat → Except Error Response}
  {transport : Transport ω} {out : Nat → ω} {position : Nat}

/-! ### One position -/

theorem run_peekAt (h : s.Serves version server transport out) (files : Files) (position : Nat)
    (log : List ω) :
    (s.peekAt version position).run files transport log =
      (some (s.messagesAt server position), log ++ [out position]) := by
  rw [peekAt, run_messages files transport (h.outgoing position), h.answer]
  rfl

/-- A position with an error ends the peek. -/
theorem run_step_error (h : s.Serves version server transport out) {error : Error}
    (herror : s.messagesAt server position = .error error) (files : Files) (left missing : Nat)
    (log : List ω) :
    (s.peekFrom version (left + 1) position (missing + 1)).run files transport log =
      (some (.error error), log ++ [out position]) := by
  rw [peekFrom, run_bind, h.run_peekAt, herror]

/-- A position with messages, however many, moves the peek on. -/
theorem run_step_ok (h : s.Serves version server transport out) {found : List Message}
    (hfound : s.messagesAt server position = .ok found) (files : Files) (left missing : Nat)
    (log : List ω) :
    (s.peekFrom version (left + 1) position (missing + 1)).run files transport log =
      withFront found ((s.peekFrom version left (position + 1) (missing + 1 - found.length)).run
        files transport (log ++ [out position])) := by
  rw [peekFrom, run_bind, h.run_peekAt, hfound]
  dsimp only
  rw [run_bind]
  cases (s.peekFrom version left (position + 1) (missing + 1 - found.length)).run files transport
      (log ++ [out position]) with
  | mk result log' =>
    cases result with
    | none => rfl
    | some result => cases result <;> rfl

/-! ### Many positions -/

/-- **A peek that has come `k` positions further.** While what is found is not enough, each position
has been asked for once, in order, and what is found stands in front of the rest. -/
theorem run_peekFrom (h : s.Serves version server transport out) (files : Files)
    (found : Nat → List Message) (k : Nat) {left missing : Nat} {log : List ω}
    (hfound : ∀ p, position ≤ p → p < position + k → s.messagesAt server p = .ok (found p))
    (hless : ((List.range' position k).flatMap found).length < missing) :
    (s.peekFrom version (left + k) position missing).run files transport log =
      withFront ((List.range' position k).flatMap found)
        ((s.peekFrom version left (position + k)
          (missing - ((List.range' position k).flatMap found).length)).run files transport
            (log ++ (List.range' position k).map out)) := by
  -- The number of positions left is fixed: what changes from one position to the next is where the
  -- peek is, what is missing and what has left.
  induction k generalizing position missing log with
  | zero => simp
  | succ k ih =>
    rw [List.range'_succ, List.flatMap_cons, List.length_append] at hless
    obtain ⟨missing, rfl⟩ : ∃ m, missing = m + 1 := ⟨missing - 1, by omega⟩
    have hfirst := hfound position (Nat.le_refl _) (by omega)
    rw [← Nat.add_assoc, h.run_step_ok hfirst,
      ih (fun p hp hp' => hfound p (by omega) (by omega)), withFront_withFront, List.range'_succ,
      List.flatMap_cons, List.length_append, List.map_cons, Nat.sub_sub, List.append_assoc,
      Nat.add_assoc position 1 k, Nat.add_comm 1 k]
    · rfl
    · omega

/-! ### Ends -/

/-- Where the first `k` positions do not hold enough, the next one is asked for. -/
theorem run_peek_next (h : s.Serves version server transport out) (files : Files)
    (found : Nat → List Message) {k count : Nat} (hk : k < lastPosition)
    (hfound : ∀ p, 1 ≤ p → p ≤ k → s.messagesAt server p = .ok (found p))
    (hless : ((List.range' 1 k).flatMap found).length < count) (log : List ω) :
    ∃ left missing, count = ((List.range' 1 k).flatMap found).length + (missing + 1) ∧
      (s.peek version count).run files transport log =
        withFront ((List.range' 1 k).flatMap found)
          ((s.peekFrom version (left + 1) (k + 1) (missing + 1)).run files transport
            (log ++ (List.range' 1 k).map out)) := by
  obtain ⟨left, hleft⟩ : ∃ left, lastPosition = left + 1 + k := ⟨lastPosition - k - 1, by omega⟩
  obtain ⟨missing, hmissing⟩ := Nat.exists_eq_add_of_lt hless
  refine ⟨left, missing, hmissing, ?_⟩
  rw [peek, hleft, h.run_peekFrom files found k (fun p hp hp' => hfound p hp (by omega)) hless,
    hmissing, Nat.add_assoc, Nat.add_sub_cancel_left, Nat.add_comm 1 k]

/-- The peek ends at the position that brings messages enough. -/
theorem run_peek_enough (h : s.Serves version server transport out) (files : Files)
    (found : Nat → List Message) {last : List Message} {k count : Nat} (hk : k < lastPosition)
    (hfound : ∀ p, 1 ≤ p → p ≤ k → s.messagesAt server p = .ok (found p))
    (hless : ((List.range' 1 k).flatMap found).length < count)
    (hlast : s.messagesAt server (k + 1) = .ok last)
    (henough : count ≤ ((List.range' 1 k).flatMap found).length + last.length) (log : List ω) :
    (s.peek version count).run files transport log =
      (some (.ok ((List.range' 1 k).flatMap found ++ last)),
        log ++ (List.range' 1 (k + 1)).map out) := by
  obtain ⟨left, missing, hcount, hrun⟩ := h.run_peek_next files found hk hfound hless log
  have hnone : missing + 1 - last.length = 0 := by omega
  rw [hrun, h.run_step_ok hlast, hnone, peekFrom, run_done, withFront_withFront,
    List.range'_1_concat, List.map_append, List.append_assoc, Nat.add_comm 1 k]
  simp [withFront]

/-- The peek ends at the first position with an error, and gives nothing but the error. -/
theorem run_peek_error (h : s.Serves version server transport out) (files : Files)
    (found : Nat → List Message) {error : Error} {k count : Nat} (hk : k < lastPosition)
    (hfound : ∀ p, 1 ≤ p → p ≤ k → s.messagesAt server p = .ok (found p))
    (hless : ((List.range' 1 k).flatMap found).length < count)
    (herror : s.messagesAt server (k + 1) = .error error) (log : List ω) :
    (s.peek version count).run files transport log =
      (some (.error error), log ++ (List.range' 1 (k + 1)).map out) := by
  obtain ⟨left, missing, -, hrun⟩ := h.run_peek_next files found hk hfound hless log
  rw [hrun, h.run_step_error herror, List.range'_1_concat, List.map_append, List.append_assoc,
    Nat.add_comm 1 k]
  rfl

/-- **Against batches of no messages a peek does not end**: it asks for all the positions there are. -/
theorem run_peek_empty (h : s.Serves version server transport out) (files : Files) {count : Nat}
    (hcount : 0 < count) (hempty : ∀ p, s.messagesAt server p = .ok []) (log : List ω) :
    (s.peek version count).run files transport log =
      (none, log ++ (List.range' 1 lastPosition).map out) := by
  have hnothing : (List.range' 1 lastPosition).flatMap (fun _ => ([] : List Message)) = [] := by
    simp
  obtain ⟨missing, rfl⟩ : ∃ m, count = m + 1 := ⟨count - 1, by omega⟩
  rw [peek, ← Nat.zero_add lastPosition, h.run_peekFrom files (fun _ => []) lastPosition
    (fun p _ _ => hempty p) (by simp), hnothing, withFront_nil]
  rfl

end Serves

/-! ### What a peek gives -/

/-- **What a peek gives, and what it asks for.** Nothing is asked for where no message is. Otherwise,
as long as the first positions do not hold enough, the next one decides: if it brings enough, the
peek gives what all of these positions hold, in order, and if it fails, so does the peek. Each of
them has been asked for once, in order, and nothing else. Positions are numbers of 64 bits. -/
theorem run_peek (version : ApiVersion) (s : Subscription) (server : Nat → Except Error Response)
    (files : Files) (count : Nat) :
    (count = 0 → (s.peek version count).run files (.byNumber server) [] = (some (.ok []), [])) ∧
    ∀ (k : Nat) (found : Nat → List Message), k < lastPosition →
      (∀ p, 1 ≤ p → p ≤ k → s.messagesAt server p = .ok (found p)) →
      ((List.range' 1 k).flatMap found).length < count →
        (∀ last, s.messagesAt server (k + 1) = .ok last →
          count ≤ ((List.range' 1 k).flatMap found).length + last.length →
          (s.peek version count).run files (.byNumber server) [] =
            (some (.ok ((List.range' 1 k).flatMap found ++ last)),
              (List.range' 1 (k + 1)).map (s.positionRequest version))) ∧
        ∀ error, s.messagesAt server (k + 1) = .error error →
          (s.peek version count).run files (.byNumber server) [] =
            (some (.error error), (List.range' 1 (k + 1)).map (s.positionRequest version)) := by
  have h := serves_byNumber version s server
  constructor
  · rintro rfl
    rw [peek, peekFrom, run_done]
  · intro k found hk hfound hless
    constructor
    · intro last hlast henough
      exact h.run_peek_enough files found hk hfound hless hlast henough []
    · intro error herror
      exact h.run_peek_error files found hk hfound hless herror []

/-- A subscription to peek at. -/
def sample : Subscription := ⟨⟨.persistent, "public", "default", "t"⟩, "sub"⟩

/-- A batch of no messages. -/
def emptyBatch : Response :=
  ⟨200, .ofList [("X-Pulsar-Message-ID", Utf8.encode "1:0"),
    ("X-Pulsar-Num-Batch-Message", Utf8.encode "0")], []⟩

/-- A message. -/
def oneMessage : Response :=
  ⟨200, .ofList [("X-Pulsar-Message-ID", Utf8.encode "1:1")], Utf8.encode "x"⟩

/-- Two messages at the first position, none at the second, one at the third and nothing behind. -/
def fewMessages : Nat → Except Error Response
  | 1 => .ok ⟨200, .ofList Response.mixedHeaders, Response.mixedBody⟩
  | 2 => .ok emptyBatch
  | 3 => .ok oneMessage
  | _ => .error (.http 404 "Not Found")

theorem messagesAt_fewMessages (p : Nat) (hp : 1 ≤ p) (hp' : p ≤ 3) :
    sample.messagesAt fewMessages p = .ok (sample.foundAt fewMessages p) := by
  obtain rfl | rfl | rfl : p = 1 ∨ p = 2 ∨ p = 3 := by omega
  all_goals decide +kernel

/-- Three messages are found at three positions, and for the fourth one a fourth position is asked
for. -/
theorem run_peek_fewMessages :
    (∃ first second third,
      (sample.peek .v2 3).run (fun _ => .error .notFound) (.byNumber fewMessages) [] =
        (some (.ok [first, second, third]), [sample.positionRequest .v2 1,
          sample.positionRequest .v2 2, sample.positionRequest .v2 3])) ∧
      (sample.peek .v2 4).run (fun _ => .error .notFound) (.byNumber fewMessages) [] =
        (some (.error (.http 404 "Not Found")), [sample.positionRequest .v2 1,
          sample.positionRequest .v2 2, sample.positionRequest .v2 3, sample.positionRequest .v2 4]) := by
  have htwo : ((List.range' 1 2).flatMap (sample.foundAt fewMessages)).length = 2 := by
    decide +kernel
  have hthree : ((List.range' 1 3).flatMap (sample.foundAt fewMessages)).length = 3 := by
    decide +kernel
  have hthird : (sample.foundAt fewMessages 3).length = 1 := by decide +kernel
  have herror : sample.messagesAt fewMessages 4 = .error (.http 404 "Not Found") := by
    decide +kernel
  obtain ⟨first, second, hpair⟩ := List.length_eq_two.1 htwo
  obtain ⟨third, hlast⟩ := List.length_eq_one_iff.1 hthird
  constructor
  · have hrun := ((run_peek .v2 sample fewMessages (fun _ => .error .notFound) 3).2 2
      (sample.foundAt fewMessages) (by decide)
      (fun p hp hp' => messagesAt_fewMessages p hp (by omega)) (by omega)).1 _
        (messagesAt_fewMessages 3 (by omega) (Nat.le_refl _)) (by omega)
    rw [hpair, hlast] at hrun
    exact ⟨first, second, third, hrun⟩
  · exact ((run_peek .v2 sample fewMessages (fun _ => .error .notFound) 4).2 3
      (sample.foundAt fewMessages) (by decide) messagesAt_fewMessages (by omega)).2 _ herror

/-! ### How many requests a peek sends -/

/-- An outcome that is there after `n` requests at most, those before included. -/
def EndsWithin (n : Nat) (outcome : Option (Except Error (List Message)) × List ω) : Prop :=
  outcome.1.isSome ∧ outcome.2.length ≤ n

@[simp] theorem endsWithin_withFront {n : Nat} {front : List Message}
    {outcome : Option (Except Error (List Message)) × List ω} :
    EndsWithin n (withFront front outcome) ↔ EndsWithin n outcome := by
  simp [EndsWithin, withFront]

namespace Serves

variable {version : ApiVersion} {s : Subscription} {server : Nat → Except Error Response}
  {transport : Transport ω} {out : Nat → ω} {position : Nat}

/-- A peek with messages missing has not ended before its next request. -/
theorem not_endsWithin (h : s.Serves version server transport out) (files : Files)
    (left missing : Nat) (log : List ω) :
    ¬ EndsWithin log.length
      ((s.peekFrom version left position (missing + 1)).run files transport log) := by
  cases left with
  | zero => simp [EndsWithin, peekFrom]
  | succ left =>
    cases hfound : s.messagesAt server position with
    | error error => simp [h.run_step_error hfound, EndsWithin]
    | ok found =>
      rw [h.run_step_ok hfound, endsWithin_withFront]
      rintro ⟨-, hlen⟩
      have hprefix := (prefix_run files transport (s.peekFrom version left (position + 1)
        (missing + 1 - found.length)) (log ++ [out position])).length_le
      rw [List.length_append, List.length_singleton] at hprefix
      omega

/-- **When a peek ends after `n` more requests at most**: when one of the next `n` positions fails, or
they hold what is missing. -/
theorem endsWithin_peekFrom_iff (h : s.Serves version server transport out) (files : Files)
    {n left : Nat} (hn : n ≤ left) (position missing : Nat) (log : List ω) :
    EndsWithin (log.length + n)
        ((s.peekFrom version left position missing).run files transport log) ↔
      (∃ p error, position ≤ p ∧ p < position + n ∧ s.messagesAt server p = .error error) ∨
        missing ≤ ((List.range' position n).flatMap (s.foundAt server)).length := by
  -- By the number of requests allowed. If none is, all depends on whether messages are missing.
  induction n generalizing left position missing log with
  | zero =>
    cases missing with
    | zero => simp [peekFrom, EndsWithin]
    | succ missing =>
      refine iff_of_false (h.not_endsWithin files left missing log) ?_
      rintro (⟨p, -, hp, hp', -⟩ | hle)
      · omega
      · simp at hle
  | succ n ih =>
    obtain ⟨left, rfl⟩ : ∃ l, left = l + 1 := ⟨left - 1, by omega⟩
    cases missing with
    | zero => simp [peekFrom, EndsWithin]
    | succ missing =>
      cases hfound : s.messagesAt server position with
      | error error =>
        refine iff_of_true ?_ (.inl ⟨position, error, Nat.le_refl _, by omega, hfound⟩)
        simp [h.run_step_error hfound, EndsWithin]
      | ok found =>
        have hlog : log.length + (n + 1) = (log ++ [out position]).length + n := by
          rw [List.length_append, List.length_singleton]
          omega
        have hat : s.foundAt server position = found := by rw [foundAt, hfound]
        rw [h.run_step_ok hfound, endsWithin_withFront, hlog, ih (by omega), List.range'_succ,
          List.flatMap_cons, List.length_append, hat]
        refine or_congr ?_ (by omega)
        constructor
        · rintro ⟨p, error, hp, hp', herror⟩
          exact ⟨p, error, by omega, by omega, herror⟩
        · rintro ⟨p, error, hp, hp', herror⟩
          have hne : p ≠ position := by
            rintro rfl
            rw [hfound] at herror
            cases herror
          exact ⟨p, error, by omega, by omega, herror⟩

end Serves

/-- **When a peek ends after `n` requests at most**: exactly when one of the first `n` positions fails
or these positions hold the messages that are asked for. With as many requests as messages this may
fail, since a position may hold none: it is then a batch whose number of messages is zero. -/
theorem peek_endsWithin_iff (version : ApiVersion) (s : Subscription)
    (server : Nat → Except Error Response) (files : Files) (count : Nat) {n : Nat}
    (hn : n ≤ lastPosition) :
    (EndsWithin n ((s.peek version count).run files (.byNumber server) []) ↔
      (∃ p error, 1 ≤ p ∧ p ≤ n ∧ s.messagesAt server p = .error error) ∨
        count ≤ ((List.range' 1 n).flatMap (s.foundAt server)).length) ∧
    ∀ p, s.messagesAt server p = .ok [] ↔
      ∃ response, server p = .ok response ∧ (∃ id, Response.messageId response.headers = .ok id) ∧
        ∃ value, response.headers.get? Response.batchHeader = some value ∧
          Batch.parseCount (Utf8.decodeLossy value) = .ok 0 := by
  constructor
  · have hends := (serves_byNumber version s server).endsWithin_peekFrom_iff files hn 1 count []
    rw [List.length_nil, Nat.zero_add] at hends
    rw [peek, hends]
    refine or_congr_left ?_
    constructor
    · rintro ⟨p, error, hp, hp', herror⟩
      exact ⟨p, error, hp, by omega, herror⟩
    · rintro ⟨p, error, hp, hp', herror⟩
      exact ⟨p, error, hp, by omega, herror⟩
  · intro p
    rw [messagesAt, bind_eq_ok_iff]
    simp only [Response.messages_eq_ok_nil_iff]

/-- Two requests are enough for the two messages of the first position and a third one is not there
in time. -/
theorem peek_endsWithin_fewMessages :
    2 ≤ lastPosition ∧
      EndsWithin 2 ((sample.peek .v2 2).run (fun _ => .error .notFound) (.byNumber fewMessages) []) ∧
      ¬ EndsWithin 2
        ((sample.peek .v2 3).run (fun _ => .error .notFound) (.byNumber fewMessages) []) ∧
      sample.messagesAt fewMessages 2 = .ok [] := by
  have htwo : ((List.range' 1 2).flatMap (sample.foundAt fewMessages)).length = 2 := by
    decide +kernel
  have hle : 2 ≤ lastPosition := by decide
  refine ⟨hle, ?_, ?_, ?_⟩
  · exact (peek_endsWithin_iff .v2 sample fewMessages _ 2 hle).1.2 (.inr (Nat.le_of_eq htwo.symm))
  · rw [(peek_endsWithin_iff .v2 sample fewMessages _ 3 hle).1, htwo]
    rintro (⟨p, error, hp, hp', herror⟩ | hless)
    · rw [messagesAt_fewMessages p hp (by omega)] at herror
      cases herror
    · omega
  · refine ((peek_endsWithin_iff .v2 sample fewMessages (fun _ => .error .notFound) 3 hle).2 2).2 ?_
    exact ⟨emptyBatch, rfl, ⟨⟨1, 0, -1, -1⟩, by decide +kernel⟩, Utf8.encode "0", by decide +kernel,
      by decide +kernel⟩

/-- One message is asked for, and the first position holds an empty batch: two requests are sent. If
all positions hold empty batches, the peek does not end. -/
theorem peek_exceeds_count :
    (∃ message, (sample.peek .v2 1).run (fun _ => .error .notFound)
        (.byNumber fun p => .ok (if p = 1 then emptyBatch else oneMessage)) [] =
      (some (.ok [message]), [sample.positionRequest .v2 1, sample.positionRequest .v2 2])) ∧
    (∃ requests, (sample.peek .v2 1).run (fun _ => .error .notFound)
        (.byNumber fun _ => .ok emptyBatch) [] = (none, requests) ∧
      requests.length = lastPosition) := by
  have hempty : ∀ server : Nat → Except Error Response, ∀ p, server p = .ok emptyBatch →
      sample.messagesAt server p = .ok [] := by
    intro server p hp
    rw [messagesAt, hp]
    decide +kernel
  constructor
  · have hserves := serves_byNumber .v2 sample
      fun p => .ok (if p = 1 then emptyBatch else oneMessage)
    refine ⟨⟨"persistent://public/default/t", ⟨1, 1, -1, -1⟩, Utf8.encode "x", ∅⟩, ?_⟩
    exact hserves.run_peek_enough _ (fun _ => []) (k := 1) (by decide)
      (fun p hp hp' => hempty _ p (by rw [if_pos (by omega)])) (by decide) (by decide +kernel)
      (by decide) []
  · have hserves := serves_byNumber .v2 sample fun _ => .ok emptyBatch
    exact ⟨_, hserves.run_peek_empty _ (by decide) (fun p => hempty _ p rfl) [], by simp⟩

end Subscription

end BrokerAdmin
