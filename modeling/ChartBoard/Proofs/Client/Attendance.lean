import ChartBoard.Proofs.Client.Conduct

/-!
What the calls of a client have to do with their link, whatever arrives on it. A link is led on by
sending and by waiting for lines alone (`Recorded.Leads`), and a call ends with the first arrival
that is no line (`Client.Attends`).
-/

namespace ChartBoard

open Connection

namespace Recorded

variable {σ : Type} [Link σ]

/-- A link is led on by sending texts and by waiting for lines. -/
inductive Leads : Recorded σ → Recorded σ → Prop where
  | rests (recorded : Recorded σ) : Leads recorded recorded
  | sends {before after : Recorded σ} (h : Leads before after) (text : String) :
      Leads before (Link.send text after)
  | receives {before after : Recorded σ} (h : Leads before after) :
      Leads before (Link.receive after).2

theorem Leads.trans {first second third : Recorded σ} (h : Leads first second)
    (h' : Leads second third) : Leads first third := by
  induction h' with
  | rests => exact h
  | sends _ text ih => exact ih.sends text
  | receives _ ih => exact ih.receives

end Recorded

/-- An arrival that a client takes for a reply. -/
def Arrival.isLine : Arrival → Bool
  | .line _ => true
  | .unreadable | .closed | .silence => false

/-- Why a client fails that waits for a line. -/
def ClientError.isOfLink : ClientError → Bool
  | .unreadable | .closed | .silence _ => true
  | .unreachable _ | .notServer _ _ | .refused _ | .invalidKind _ => false

namespace Client

variable {σ α β : Type}

/-- What a call answers goes with what has arrived during it: either it has taken lines only, and
has not failed for want of one, or the last arrival is none and is the reason why it fails. -/
inductive Concluded (patience : Nat) : List Arrival → Except ClientError α → Prop where
  | answered {arrivals : List Arrival} {answer : Except ClientError α}
      (hlines : ∀ arrival ∈ arrivals, arrival.isLine = true)
      (hanswer : ∀ fault, answer = .error fault → fault.isOfLink = false) :
      Concluded patience arrivals answer
  | failed {arrivals : List Arrival} {last : Arrival} {fault : ClientError}
      (hlines : ∀ arrival ∈ arrivals, arrival.isLine = true)
      (hfault : lineOf patience last = .error fault) :
      Concluded patience (arrivals ++ [last]) (.error fault)

section Concluded

variable {patience : Nat}

theorem isLine_of_lineOf {arrival : Arrival} {line : String}
    (h : lineOf patience arrival = .ok line) :
    arrival.isLine = true := by
  cases arrival <;> first | rfl | cases h

/-- A call that succeeds has taken lines only. -/
theorem Concluded.lines {arrivals : List Arrival} {x : α}
    (h : Concluded patience arrivals (.ok x : Except ClientError α)) :
    ∀ arrival ∈ arrivals, arrival.isLine = true := by
  cases h with
  | answered hlines => exact hlines

/-- What follows a call that fails is not made. -/
theorem Concluded.error {arrivals : List Arrival} {fault : ClientError}
    (h : Concluded patience arrivals (.error fault : Except ClientError α)) :
    Concluded patience arrivals (.error fault : Except ClientError β) := by
  generalize hanswer : (.error fault : Except ClientError α) = answer at h
  cases h with
  | answered hlines hlink =>
      refine .answered hlines fun other hother => ?_
      cases hother
      exact hlink fault hanswer.symm
  | failed hlines hfault =>
      cases hanswer
      exact .failed hlines hfault

theorem Concluded.behind {arrivals later : List Arrival} {answer : Except ClientError α}
    (hlines : ∀ arrival ∈ arrivals, arrival.isLine = true) (h : Concluded patience later answer) :
    Concluded patience (arrivals ++ later) answer := by
  cases h with
  | answered hlater hanswer => exact .answered (List.forall_mem_append.mpr ⟨hlines, hlater⟩) hanswer
  | failed hlater hfault =>
      rw [← List.append_assoc]
      exact .failed (List.forall_mem_append.mpr ⟨hlines, hlater⟩) hfault

end Concluded

/-- A call that sends nothing. -/
def Silent (call : Call (Recorded σ) α) : Prop :=
  ∀ client, (run call client).2.link.sent = client.link.sent

theorem Silent.bind {call : Call (Recorded σ) α} {next : α → Call (Recorded σ) β} (h : Silent call)
    (hnext : ∀ x, Silent (next x)) : Silent (call >>= next) := by
  intro client
  have hsent := h client
  generalize hrun : run call client = outcome at hsent
  obtain ⟨answer, after⟩ := outcome
  cases answer with
  | error fault =>
      rw [run_bind_error hrun]
      exact hsent
  | ok x =>
      rw [run_bind_ok hrun, hnext x after]
      exact hsent

theorem silent_pure (x : α) : Silent (pure x : Call (Recorded σ) α) := fun _ => rfl

theorem silent_settle (complaint : Option String) :
    Silent (settle complaint : Call (Recorded σ) Unit) := by
  intro client
  rw [run_settle]

/-- A call that succeeds only once so many lines have arrived. -/
def Takes (count : Nat) (call : Call (Recorded σ) α) : Prop :=
  ∀ client x after, run call client = (.ok x, after) →
    after.link.arrivals.length = client.link.arrivals.length + count

theorem Takes.bind {count later : Nat} {call : Call (Recorded σ) α} {next : α → Call (Recorded σ) β}
    (h : Takes count call) (hnext : ∀ x, Takes later (next x)) :
    Takes (count + later) (call >>= next) := by
  intro client y last hlast
  generalize hrun : run call client = outcome
  obtain ⟨answer, after⟩ := outcome
  cases answer with
  | error fault =>
      rw [run_bind_error hrun] at hlast
      cases hlast
  | ok x =>
      rw [run_bind_ok hrun] at hlast
      rw [hnext x after y last hlast, h client x after hrun, Nat.add_assoc]

theorem takes_pure (x : α) : Takes 0 (pure x : Call (Recorded σ) α) := by
  intro client y after hrun
  cases hrun
  rfl

theorem takes_settle (complaint : Option String) :
    Takes 0 (settle complaint : Call (Recorded σ) Unit) := by
  intro client x after hrun
  rw [run_settle] at hrun
  rw [(Prod.mk.inj hrun).2]
  rfl

variable [Link σ]

/-- The link of a client is led on, what is answered goes with what arrives meanwhile, and nothing
else of the client changes. -/
structure Attends (client : Client (Recorded σ))
    (outcome : Except ClientError α × Client (Recorded σ)) : Prop where
  leads : client.link.Leads outcome.2.link
  others : outcome.2 = { client with link := outcome.2.link }
  concluded : ∃ arrivals, outcome.2.link.arrivals = client.link.arrivals ++ arrivals ∧
    Concluded client.patience arrivals outcome.1

/-- Nothing is sent and nothing arrives. -/
theorem Attends.of_same (client : Client (Recorded σ)) {answer : Except ClientError α}
    (h : ∀ fault, answer = .error fault → fault.isOfLink = false) :
    Attends client (answer, client) where
  leads := .rests _
  others := rfl
  concluded := ⟨[], (List.append_nil _).symm, .answered (List.forall_mem_nil _) h⟩

theorem Attends.bind {client : Client (Recorded σ)} {call : Call (Recorded σ) α}
    {next : α → Call (Recorded σ) β} (h : Attends client (run call client))
    (hnext : ∀ x after, run call client = (.ok x, after) → Attends after (run (next x) after)) :
    Attends client (run (call >>= next) client) := by
  generalize hrun : run call client = outcome at h hnext
  obtain ⟨answer, after⟩ := outcome
  obtain ⟨arrivals, harrivals, hconcluded⟩ := h.concluded
  cases answer with
  | error fault =>
      rw [run_bind_error hrun]
      exact ⟨h.leads, h.others, arrivals, harrivals, hconcluded.error⟩
  | ok x =>
      rw [run_bind_ok hrun]
      have hlater := hnext x after rfl
      have hothers := h.others
      dsimp only at hothers harrivals
      have hpatience : after.patience = client.patience := by rw [hothers]
      obtain ⟨later, hlaterArrivals, hlaterConcluded⟩ := hlater.concluded
      rw [hpatience] at hlaterConcluded
      refine ⟨h.leads.trans hlater.leads, ?_, arrivals ++ later, ?_, ?_⟩
      · rw [hlater.others, hothers]
      · rw [hlaterArrivals, harrivals, List.append_assoc]
      · exact .behind hconcluded.lines hlaterConcluded

section Attends

variable (client : Client (Recorded σ))

theorem attends_transmit (text : String) : Attends client (run (transmit text) client) where
  leads := (Recorded.Leads.rests client.link).sends text
  others := rfl
  concluded := ⟨[], (List.append_nil _).symm, .answered (List.forall_mem_nil _) (by
    intro fault hfault
    cases hfault)⟩

theorem attends_settle (complaint : Option String) :
    Attends client (run (settle complaint) client) := by
  rw [run_settle]
  refine .of_same client fun fault hfault => ?_
  cases complaint <;> cases hfault
  rfl

theorem attends_readReply : Attends client (run readReply client) := by
  rw [run_readReply]
  refine ⟨(Recorded.Leads.rests client.link).receives, rfl,
    [(Link.receive client.link.link).1], rfl, ?_⟩
  have harrival : (Link.receive client.link).1 = (Link.receive client.link.link).1 := rfl
  rw [harrival, replyOf]
  cases hline : lineOf client.patience (Link.receive client.link.link).1 with
  | ok line =>
      refine .answered (List.forall_mem_singleton.mpr (isLine_of_lineOf hline))
        fun fault hfault => ?_
      cases hfault
  | error fault => exact .failed (List.forall_mem_nil _) hline

theorem attends_readReplies (count : Nat) : Attends client (run (readReplies count) client) := by
  induction count generalizing client with
  | zero =>
      refine .of_same client fun fault hfault => ?_
      cases hfault
  | succ count ih =>
      refine (attends_readReply client).bind fun first after _ => ?_
      refine (ih after).bind fun later last _ => ?_
      refine .of_same last fun fault hfault => ?_
      cases hfault

theorem attends_command (line : String) : Attends client (run (command line) client) := by
  refine (attends_transmit client _).bind fun _ sent _ => ?_
  exact (attends_readReply sent).bind fun complaint after _ => attends_settle after complaint

theorem attends_sayAll (lines : List String) : Attends client (run (sayAll lines) client) := by
  induction lines generalizing client with
  | nil =>
      refine .of_same client fun fault hfault => ?_
      cases hfault
  | cons line lines ih => exact (attends_command client line).bind fun _ after _ => ih after

theorem attends_sayTogether (lines : List String) :
    Attends client (run (sayTogether lines) client) := by
  refine (attends_transmit client _).bind fun _ sent _ => ?_
  exact (attends_readReplies sent _).bind fun complaint after _ => attends_settle after complaint

end Attends

theorem silent_readReply : Silent (readReply : Call (Recorded σ) (Option String)) := by
  intro client
  rw [run_readReply]
  rfl

theorem silent_readReplies (count : Nat) :
    Silent (readReplies count : Call (Recorded σ) (Option String)) := by
  induction count with
  | zero => exact silent_pure none
  | succ count ih =>
      exact silent_readReply.bind fun first => ih.bind fun later => silent_pure (first.or later)

theorem takes_transmit (text : String) : Takes 0 (transmit text : Call (Recorded σ) Unit) := by
  intro client x after hrun
  rw [run_transmit] at hrun
  cases hrun
  rfl

theorem takes_readReply : Takes 1 (readReply : Call (Recorded σ) (Option String)) := by
  intro client x after hrun
  rw [run_readReply] at hrun
  rw [← (Prod.mk.inj hrun).2]
  exact List.length_append

theorem takes_readReplies (count : Nat) :
    Takes count (readReplies count : Call (Recorded σ) (Option String)) := by
  induction count with
  | zero => exact takes_pure none
  | succ count ih =>
      have hreplies := takes_readReply.bind (σ := σ) fun first => ih.bind fun later =>
        takes_pure (first.or later)
      rwa [Nat.add_zero, Nat.add_comm] at hreplies

theorem takes_command (line : String) : Takes 1 (command line : Call (Recorded σ) Unit) :=
  (takes_transmit _).bind fun _ => takes_readReply.bind takes_settle

theorem takes_sayAll (lines : List String) :
    Takes lines.length (sayAll lines : Call (Recorded σ) Unit) := by
  induction lines with
  | nil => exact takes_pure ()
  | cons line lines ih =>
      have hlines := (takes_command (σ := σ) line).bind fun _ => ih
      rwa [Nat.add_comm] at hlines

theorem takes_sayTogether (lines : List String) :
    Takes lines.length (sayTogether lines : Call (Recorded σ) Unit) := by
  have hlines := (takes_transmit (σ := σ) (wireText lines)).bind fun _ =>
    (takes_readReplies lines.length).bind takes_settle
  rwa [Nat.zero_add, Nat.add_zero] at hlines

theorem sent_command (line : String) (client : Client (Recorded σ)) :
    (run (command line) client).2.link.sent = client.link.sent ++ [wireLine line] := by
  rw [run_command]
  rfl

theorem sent_sayTogether (lines : List String) (client : Client (Recorded σ)) :
    (run (sayTogether lines) client).2.link.sent = client.link.sent ++ [wireText lines] := by
  have hreplies := (silent_readReplies (σ := σ) lines.length).bind silent_settle
  rw [sayTogether, run_bind_ok (run_transmit _ client), hreplies]
  rfl

end Client

namespace ClientCall

open Client

variable {σ : Type} [Link σ]

/-- Whatever arrives, a call attends to its link. -/
theorem attends_make (call : ClientCall) (client : Client (Recorded σ)) :
    client.link.Leads (run call.make client).2.link ∧
      ∃ arrivals, (run call.make client).2.link.arrivals = client.link.arrivals ++ arrivals ∧
        Concluded client.patience arrivals (run call.make client).1 := by
  have hsilent {answer : Except ClientError Unit} {after : Client (Recorded σ)}
      (hlink : after.link = client.link)
      (h : ∀ fault, answer = .error fault → fault.isOfLink = false) :
      client.link.Leads after.link ∧ ∃ arrivals,
        after.link.arrivals = client.link.arrivals ++ arrivals ∧
        Concluded client.patience arrivals answer := by
    rw [hlink]
    exact ⟨.rests _, (Attends.of_same client h).concluded⟩
  have hconduct := conduct_make call client
  generalize run call.make client = outcome at hconduct
  cases hconduct with
  | waits | caches | keepsBack | idles => exact hsilent rfl fun fault hfault => nomatch hfault
  | rejects hkind =>
      refine hsilent rfl fun fault hfault => ?_
      cases hfault
      rfl
  | speaks =>
      have hattends := attends_sayAll client call.lines
      exact ⟨hattends.leads, hattends.concluded⟩
  | flushes =>
      have hattends := attends_sayTogether { client with cache := [] } client.cache
      exact ⟨hattends.leads, hattends.concluded⟩

/-- A call succeeds only once all replies that it waits for have arrived. -/
theorem arrivals_of_ok {call : ClientCall} {client after : Client (Recorded σ)}
    (h : run call.make client = (.ok (), after)) :
    after.link.arrivals.length = client.link.arrivals.length + call.requests client := by
  have hconduct := conduct_make call client
  generalize hrun : run call.make client = outcome at hconduct
  rw [h] at hrun
  cases hconduct with
  | waits | caches =>
      cases hrun
      rfl
  | rejects => cases hrun
  | keepsBack hdata hcaching =>
      cases hrun
      rw [requests_of_ne client (ne_update_of_isData hdata), hdata, hcaching]
      rfl
  | speaks hspeaks _ hready =>
      rw [requests_of_ne client (ne_update_of_speaks hspeaks), hready]
      exact takes_sayAll call.lines client () after hrun.symm
  | idles hcache =>
      cases hrun
      rw [requests, hcache]
      rfl
  | flushes => exact takes_sayTogether client.cache { client with cache := [] } () after hrun.symm

end ClientCall

namespace Client

variable {σ : Type} [Link σ]

/-- Whatever arrives, all that calls do with their link is to send and to receive. -/
theorem leads_afterCalls (calls : List ClientCall) (client : Client (Recorded σ)) :
    client.link.Leads (afterCalls calls client).link := by
  induction calls generalizing client with
  | nil => exact .rests _
  | cons call calls ih => exact (ClientCall.attends_make call client).1.trans (ih _)

end Client

end ChartBoard
