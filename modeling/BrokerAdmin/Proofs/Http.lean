import BrokerAdmin.Http
import BrokerAdmin.Proofs.Exchange.Contract
import Mathlib.Data.List.Induction

/-!
# Where replies lead

One request of a caller is sent, and then whatever its reply leads on to is sent too. What the caller
gets is what comes of the last of them. As many requests are sent as callers have made, exactly if no
reply leads on; otherwise there are more, and not all of them are carried out, but each is carried out
or leads on to the next, and what the caller gets comes from the one that is carried out.

## Main definitions

* `Http.Fulfils`: an answer that says that a request has been carried out.
* `Http.LeadsTo`, `Http.LedOn`: a reply leads on to a request, and one of several does.
* `Http.Carried`: each request is carried out or has led on to the next.
* `Http.Course`: what is sent for one request of a caller, and what comes of it.

## Main results

* `Http.Server.exists_follow_eq`: a request of a caller keeps to a course.
* `Http.Server.length_sent_eq_iff`: how many requests are sent.
* `Http.Server.carried_sent`: what has become of all that is sent.
* `Http.Carried.answered`: what this means where no reply leads on.
-/

namespace BrokerAdmin.Http

variable {server : Server} {before asked sent sent' : List Outgoing} {out next : Outgoing}
  {response : Response} {responses responses' : List Response} {hops : Nat}

/-! ### Single replies -/

/-- A server answers a request with success. -/
def Fulfils (server : Server) (before : List Outgoing) (out : Outgoing) (response : Response) :
    Prop :=
  server before out = .complete response ∧ 200 ≤ response.status ∧ response.status < 300

/-- The reply of a server to a request leads on to another one. -/
def LeadsTo (server : Server) (before : List Outgoing) (out next : Outgoing) : Prop :=
  out.onward (server before out) = some (.ok next)

theorem fulfils_of_result (h : (server before out).result = .ok response) :
    Fulfils server before out response := by
  cases hreply : server before out with
  | silence => simp [hreply, Reply.result] at h
  | brokenOff => simp [hreply, Reply.result] at h
  | complete response' =>
    rw [hreply, Reply.result] at h
    split at h
    · next hsuccess =>
      obtain rfl := Except.ok.inj h
      have hrange : 200 ≤ response'.status ∧ response'.status < 300 := by
        simpa [Status.isSuccess] using hsuccess
      exact ⟨hreply, hrange⟩
    · cases h

/-- **What it takes to lead on**: a status that asks for something else, and an address to ask at. -/
theorem LeadsTo.inv (h : LeadsTo server before out next) :
    ∃ status headers turned url, (server before out).head = some (status, headers) ∧
      out.instead status = some turned ∧ out.location headers = some url ∧
      Client.isReachable url = true ∧ next.method = turned.method ∧ next.url = url := by
  simp only [LeadsTo, Outgoing.onward, Option.bind_eq_bind, Option.bind_eq_some_iff] at h
  obtain ⟨⟨status, headers⟩, hhead, turned, hturned, url, hurl, h⟩ := h
  split at h
  · next hreachable =>
    obtain rfl := Except.ok.inj (Option.some.inj h)
    exact ⟨status, headers, turned, url, hhead, hturned, hurl, hreachable, rfl, rfl⟩
  · cases Option.some.inj h

/-- A status of success asks for nothing else. -/
theorem Outgoing.instead_of_success {status : Nat} (h : status < 300) :
    out.instead status = none := by
  have h301 : status ≠ 301 := by omega
  have h302 : status ≠ 302 := by omega
  have h303 : status ≠ 303 := by omega
  have h307 : status ≠ 307 := by omega
  have h308 : status ≠ 308 := by omega
  simp [instead, h301, h302, h303, h307, h308]

/-- **An answer of success leads nowhere.** -/
theorem Fulfils.not_leadsTo (h : Fulfils server before out response) :
    ¬ LeadsTo server before out next := by
  obtain ⟨hreply, -, hstatus⟩ := h
  intro hleads
  obtain ⟨status, headers, turned, url, hhead, hturned, -⟩ := hleads.inv
  rw [hreply, Reply.head, Option.some.injEq, Prod.mk.injEq] at hhead
  rw [← hhead.1, Outgoing.instead_of_success hstatus] at hturned
  cases hturned

/-- What is asked for in place of a look is a look. -/
theorem Outgoing.method_instead {status : Status} (hget : out.method = .get)
    (h : out.instead status = some next) : next.method = .get := by
  rw [instead] at h
  split at h
  · obtain rfl := Option.some.inj h
    rfl
  split at h
  · split at h
    · cases h
    · obtain rfl := Option.some.inj h
      exact hget
  · cases h

theorem LeadsTo.method (h : LeadsTo server before out next) (hget : out.method = .get) :
    next.method = .get := by
  obtain ⟨status, headers, turned, url, -, hturned, -, -, hmethod, -⟩ := h.inv
  rw [hmethod, Outgoing.method_instead hget hturned]

/-! ### Several requests -/

/-- One of the replies to requests leads on to another one. -/
inductive LedOn (server : Server) : (before sent : List Outgoing) → Prop
  /-- The first reply does. -/
  | here {before sent : List Outgoing} {out next : Outgoing} :
      LeadsTo server before out next → LedOn server before (out :: sent)
  /-- A later one does. -/
  | later {before sent : List Outgoing} {out : Outgoing} :
      LedOn server (before ++ [out]) sent → LedOn server before (out :: sent)

/-- Each request is carried out or has led on to the next one. The responses are those to the
requests that are carried out. -/
inductive Carried (server : Server) : (before sent : List Outgoing) → List Response → Prop
  /-- Nothing has been sent. -/
  | nil {before : List Outgoing} : Carried server before [] []
  /-- The first request is carried out. -/
  | done {before sent : List Outgoing} {out : Outgoing} {response : Response}
      {responses : List Response} : Fulfils server before out response →
      Carried server (before ++ [out]) sent responses →
      Carried server before (out :: sent) (response :: responses)
  /-- The first request leads on to the second. -/
  | led {before sent : List Outgoing} {out next : Outgoing} {responses : List Response} :
      LeadsTo server before out next → Carried server (before ++ [out]) (next :: sent) responses →
      Carried server before (out :: next :: sent) responses

theorem not_ledOn_nil : ¬ LedOn server before [] := fun h => nomatch h

theorem ledOn_cons_iff : LedOn server before (out :: sent) ↔
    (∃ next, LeadsTo server before out next) ∨ LedOn server (before ++ [out]) sent := by
  constructor
  · intro h
    cases h with
    | here hleads => exact .inl ⟨_, hleads⟩
    | later hlater => exact .inr hlater
  · rintro (⟨next, hleads⟩ | hlater)
    · exact .here hleads
    · exact .later hlater

theorem ledOn_append_iff : LedOn server before (sent ++ sent') ↔
    LedOn server before sent ∨ LedOn server (before ++ sent) sent' := by
  induction sent generalizing before with
  | nil => simp [not_ledOn_nil]
  | cons out sent ih => simp [ledOn_cons_iff, ih, or_assoc]

/-- Where every request has been answered with success, no reply has led on. -/
theorem not_ledOn_of_answered (h : Answered (Fulfils server) before sent responses) :
    ¬ LedOn server before sent := by
  induction h with
  | nil => exact not_ledOn_nil
  | cons hfulfils _ ih =>
    rw [ledOn_cons_iff]
    rintro (⟨next, hleads⟩ | hlater)
    · exact hfulfils.not_leadsTo hleads
    · exact ih hlater

namespace Carried

/-- **Where no reply has led on**, every request has been answered with success. -/
theorem answered (h : Carried server before sent responses) (hled : ¬ LedOn server before sent) :
    Answered (Fulfils server) before sent responses := by
  induction h with
  | nil => exact .nil
  | done hfulfils _ ih => exact .cons hfulfils (ih fun hlater => hled (.later hlater))
  | led hleads _ _ => exact absurd (.here hleads) hled

theorem append (h : Carried server before sent responses)
    (h' : Carried server (before ++ sent) sent' responses') :
    Carried server before (sent ++ sent') (responses ++ responses') := by
  induction h with
  | nil => simpa using h'
  | done hfulfils _ ih => exact .done hfulfils (ih (by simpa using h'))
  | led hleads _ ih => exact .led hleads (ih (by simpa using h'))

end Carried

/-! ### The requests for one -/

/-- What is sent behind a request because of the replies, and what comes of it in the end. -/
inductive Course (server : Server) :
    (hops : Nat) → (before : List Outgoing) → (out : Outgoing) → (behind : List Outgoing) →
      Except Error Response → Prop
  /-- The reply leads nowhere. -/
  | alone {hops : Nat} {before : List Outgoing} {out : Outgoing} {result : Except Error Response} :
      (∀ next, ¬ LeadsTo server before out next) →
      (∀ response, result = .ok response → Fulfils server before out response) →
      Course server hops before out [] result
  /-- The reply leads on, but no hops are left. -/
  | stopped {before : List Outgoing} {out next : Outgoing} {error : Error} :
      LeadsTo server before out next → Course server 0 before out [] (.error error)
  /-- The reply leads on to the next request. -/
  | led {hops : Nat} {before behind : List Outgoing} {out next : Outgoing}
      {result : Except Error Response} : LeadsTo server before out next →
      Course server hops (before ++ [out]) next behind result →
      Course server (hops + 1) before out (next :: behind) result

namespace Course

variable {behind : List Outgoing} {result : Except Error Response}

theorem length_le (h : Course server hops before out behind result) : behind.length ≤ hops := by
  induction h with
  | alone _ _ => exact Nat.zero_le _
  | stopped _ => exact Nat.le_refl _
  | led _ _ ih => simpa using ih

/-- A request stands alone exactly if its reply leads nowhere, provided that there are hops left. -/
theorem behind_eq_nil_iff (h : Course server (hops + 1) before out behind result) :
    behind = [] ↔ ¬ LedOn server before (out :: behind) := by
  cases h with
  | alone hnowhere _ =>
    rw [ledOn_cons_iff]
    exact iff_of_true rfl (not_or.2 ⟨not_exists.2 hnowhere, not_ledOn_nil⟩)
  | led hleads _ => exact iff_of_false (List.cons_ne_nil _ _) (not_not.2 (.here hleads))

theorem method (h : Course server hops before out behind result) (hget : out.method = .get) :
    ∀ out' ∈ out :: behind, out'.method = .get := by
  induction h with
  | alone _ _ => simpa using hget
  | stopped _ => simpa using hget
  | led hleads _ ih => exact List.forall_mem_cons.2 ⟨hget, ih (hleads.method hget)⟩

/-- **What a caller gets** is the answer to the last request, and all others have led there. -/
theorem carried (h : Course server hops before out behind result) (hresult : result = .ok response) :
    Carried server before (out :: behind) [response] := by
  induction h with
  | alone _ hfulfils => exact .done (hfulfils response hresult) .nil
  | stopped _ => cases hresult
  | led hleads _ ih => exact .led hleads (ih hresult)

end Course

namespace Server

/-- **What is sent for a request** begins with it and keeps to a course. -/
theorem exists_follow_eq (server : Server) (hops : Nat) (before : List Outgoing) (out : Outgoing) :
    ∃ behind result, server.follow hops before out = (out :: behind, result) ∧
      Course server hops before out behind result := by
  fun_induction follow server hops before out with
  | case1 hops before out hnone =>
    exact ⟨[], _, rfl, .alone (by simp [LeadsTo, hnone]) fun _ => fulfils_of_result⟩
  | case2 hops before out error herror =>
    exact ⟨[], _, rfl, .alone (by simp [LeadsTo, herror]) (by simp)⟩
  | case3 before out next hleads => exact ⟨[], _, rfl, .stopped hleads⟩
  | case4 before out next hleads hops sent result hrest ih =>
    obtain ⟨behind, result', hfollow, hcourse⟩ := ih
    obtain ⟨rfl, rfl⟩ := Prod.mk.inj (hrest.symm.trans hfollow)
    exact ⟨next :: behind, _, rfl, .led hleads hcourse⟩

/-! ### All requests -/

@[simp] theorem sent_nil : server.sent [] = [] := rfl

theorem sent_concat : server.sent (asked ++ [out]) =
    server.sent asked ++ (server.follow maxHops (server.sent asked) out).1 := by
  simp [sent, List.foldl_append]

theorem length_le_length_sent (server : Server) (asked : List Outgoing) :
    asked.length ≤ (server.sent asked).length := by
  induction asked using List.reverseRecOn with
  | nil => exact Nat.zero_le _
  | append_singleton asked out ih =>
    obtain ⟨behind, result, hfollow, -⟩ := server.exists_follow_eq maxHops (server.sent asked) out
    rw [sent_concat, hfollow]
    simp only [List.length_append, List.length_cons, List.length_nil]
    omega

/-- **As many requests are sent as callers have made**, exactly if no reply leads on. -/
theorem length_sent_eq_iff (server : Server) (asked : List Outgoing) :
    (server.sent asked).length = asked.length ↔ ¬ LedOn server [] (server.sent asked) := by
  induction asked using List.reverseRecOn with
  | nil => simp [not_ledOn_nil]
  | append_singleton asked out ih =>
    obtain ⟨behind, result, hfollow, hcourse⟩ :=
      server.exists_follow_eq maxHops (server.sent asked) out
    have hbehind : behind.length = 0 ↔ ¬ LedOn server (server.sent asked) (out :: behind) :=
      List.length_eq_zero_iff.trans hcourse.behind_eq_nil_iff
    have hlength := server.length_le_length_sent asked
    rw [sent_concat, hfollow, ledOn_append_iff, not_or, List.nil_append, ← ih, ← hbehind]
    simp only [List.length_append, List.length_cons, List.length_nil]
    omega

theorem length_sent_le (server : Server) (asked : List Outgoing) :
    (server.sent asked).length ≤ asked.length * (maxHops + 1) := by
  induction asked using List.reverseRecOn with
  | nil => exact Nat.zero_le _
  | append_singleton asked out ih =>
    obtain ⟨behind, result, hfollow, hcourse⟩ :=
      server.exists_follow_eq maxHops (server.sent asked) out
    have hbehind : behind.length ≤ maxHops := hcourse.length_le
    rw [sent_concat, hfollow, List.length_append, List.length_append, Nat.add_mul]
    simp only [List.length_cons, List.length_nil]
    omega

/-- Callers that only look have nothing sent that does more. -/
theorem method_of_mem_sent (hget : ∀ out ∈ asked, out.method = .get) :
    ∀ out ∈ server.sent asked, out.method = .get := by
  induction asked using List.reverseRecOn with
  | nil => simp
  | append_singleton asked out ih =>
    obtain ⟨behind, result, hfollow, hcourse⟩ :=
      server.exists_follow_eq maxHops (server.sent asked) out
    obtain ⟨hasked, hout⟩ := List.forall_mem_append.1 hget
    rw [sent_concat, hfollow]
    exact List.forall_mem_append.2 ⟨ih hasked, hcourse.method (hout out (List.mem_singleton_self out))⟩

/-- **What callers get**: if each has an answer, then all that is sent for them is carried out or has
led on, and their answers are those of what is carried out. -/
theorem carried_sent {client : Client}
    (h : Answered (client.transport server).Answers before asked responses) :
    ∃ behind, server.sent (before ++ asked) = server.sent before ++ behind ∧
      Carried server (server.sent before) behind responses := by
  induction h with
  | nil => exact ⟨[], by simp, .nil⟩
  | @cons before asked out response responses hanswer _ ih =>
    obtain ⟨behind, result, hfollow, hcourse⟩ :=
      server.exists_follow_eq maxHops (server.sent before) out
    have hresult : result = .ok response := by
      have hanswer : (server.follow maxHops (server.sent before) out).2 = .ok response := hanswer
      rwa [hfollow] at hanswer
    obtain ⟨others, hothers, hcarried⟩ := ih
    rw [sent_concat, hfollow] at hothers hcarried
    refine ⟨out :: behind ++ others, by simpa using hothers, ?_⟩
    exact (hcourse.carried hresult).append hcarried

end Server

end BrokerAdmin.Http
