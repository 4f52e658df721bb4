import ChartBoard.Proofs.Client.Calls
import ChartBoard.Proofs.Server.Conversation

/-!
A client and its server exchange lines and replies. Sending lines and taking one reply for each
leaves the link as it was found, with nothing on its way, and the session where the lines have
led it (`Heard`); exchanges follow each other as their lines do. A client that stops at the
first refusal has had the lines up to it heard.
-/

namespace ChartBoard

open Text Connection

/-- What a server would make of one line sent over a link. -/
def ServedLink.respond (line : String) (link : ServedLink) : Session.Response :=
  link.session.respond (link.clocks link.answered) line link.server.board

/-- What a server would make of some lines sent over a link. -/
def ServedLink.hear (lines : List String) (link : ServedLink) : Exchange :=
  hearAll link.clocks link.answered lines link.session link.server.board

/-- Those of some lines that are heard up to the first refusal. -/
def ServedLink.untilRefused (lines : List String) (link : ServedLink) : List String :=
  Connection.untilRefused link.clocks link.answered lines link.session link.server.board

namespace ServedLink

theorem hear_singleton (line : String) (link : ServedLink) :
    link.hear [line] = ⟨[(link.respond line).reply], (link.respond line).session,
      (link.respond line).board, (link.respond line).events ++ []⟩ := by
  simp only [ServedLink.hear, hearAll, ServedLink.respond]

theorem untilRefused_cons (line : String) (lines : List String) (link : ServedLink) :
    link.untilRefused (line :: lines) =
      bif (link.respond line).reply.isOk then
        line :: Connection.untilRefused link.clocks (link.answered + 1) lines
          (link.respond line).session (link.respond line).board
      else
        [line] := by
  simp only [ServedLink.untilRefused, Connection.untilRefused, ServedLink.respond, cond_eq_ite]

theorem reply_respond (line : String) (link : ServedLink) :
    (link.respond line).reply = Session.replyTo (link.session.process (link.clocks link.answered)
      (Session.withoutLineEnd line) link.server.board).result := by
  simp only [ServedLink.respond, Session.respond]

/-- The first line is said in any case. -/
theorem mem_untilRefused (line : String) (lines : List String) (link : ServedLink) :
    line ∈ link.untilRefused (line :: lines) := by
  rw [untilRefused_cons]
  cases (link.respond line).reply.isOk
  · exact List.mem_singleton_self line
  · exact List.mem_cons_self

theorem untilRefused_of_error {line : String} {link : ServedLink} {message : String}
    (h : (link.respond line).reply = .error message) (lines : List String) :
    link.untilRefused (line :: lines) = [line] := by
  rw [untilRefused_cons, h]
  rfl

theorem untilRefused_stops (lines : List String) (link : ServedLink) :
    let said := link.untilRefused lines
    let replies := (link.hear said).replies
    said <+: lines ∧
      (said = lines ∧ (∀ reply ∈ replies, reply = .ok) ∨
        ∃ accepted message, replies = accepted ++ [.error message] ∧
          ∀ reply ∈ accepted, reply = .ok) :=
  Connection.untilRefused_stops link.clocks link.answered lines link.session link.server.board

end ServedLink

namespace Recorded

/-- Some lines have been sent over a link, their replies have arrived, and nothing is left on its
way. -/
structure Heard (lines : List String) (before after : Recorded ServedLink) : Prop where
  clocks : after.link.clocks = before.link.clocks
  limit : after.link.server.maxLineLength = before.link.server.maxLineLength
  answered : after.link.answered = before.link.answered + lines.length
  session : after.link.session = (before.link.hear lines).session
  board : after.link.server.board = (before.link.hear lines).board
  sent : String.join after.sent = String.join before.sent ++ wireText lines
  arrivals : after.arrivals = before.arrivals ++
    (before.link.hear lines).replies.map fun reply => .line (wireLine reply.line)
  drained : after.link.inbox.bytes = []

theorem Heard.refl {recorded : Recorded ServedLink} (h : recorded.link.inbox.bytes = []) :
    Heard [] recorded recorded where
  clocks := rfl
  limit := rfl
  answered := rfl
  session := rfl
  board := rfl
  sent := by
    change _ = String.join recorded.sent ++ ""
    rw [String.append_empty]
  arrivals := (List.append_nil _).symm
  drained := h

/-- What is heard from where some lines have led to is heard behind them. -/
theorem Heard.hear_append {lines : List String} {before after : Recorded ServedLink}
    (h : Heard lines before after) (later : List String) :
    before.link.hear (lines ++ later) =
      { after.link.hear later with
        replies := (before.link.hear lines).replies ++ (after.link.hear later).replies
        events := (before.link.hear lines).events ++ (after.link.hear later).events } := by
  have hlater : after.link.hear later = hearAll before.link.clocks
      (before.link.answered + lines.length) later (before.link.hear lines).session
      (before.link.hear lines).board := by
    rw [ServedLink.hear, h.clocks, h.answered, h.session, h.board]
  rw [hlater]
  exact hearAll_append _ _ _ _ _ _

theorem Heard.trans {lines later : List String} {first second third : Recorded ServedLink}
    (h : Heard lines first second) (h' : Heard later second third) :
    Heard (lines ++ later) first third where
  clocks := h'.clocks.trans h.clocks
  limit := h'.limit.trans h.limit
  answered := by
    rw [h'.answered, h.answered, List.length_append, Nat.add_assoc]
  session := by
    rw [h.hear_append]
    exact h'.session
  board := by
    rw [h.hear_append]
    exact h'.board
  sent := by
    rw [h'.sent, h.sent, String.append_assoc]
    unfold wireText
    rw [List.map_append, String.join_append]
  arrivals := by
    rw [h'.arrivals, h.arrivals, h.hear_append, List.map_append, List.append_assoc]
  drained := h'.drained

theorem untilRefused_of_ok {line : String} {before after : Recorded ServedLink}
    (h : Heard [line] before after) (hok : (before.link.respond line).reply = .ok)
    (lines : List String) :
    before.link.untilRefused (line :: lines) = [line] ++ after.link.untilRefused lines := by
  have hsession := h.session
  have hboard := h.board
  rw [ServedLink.hear_singleton] at hsession hboard
  rw [ServedLink.untilRefused_cons, hok, ServedLink.untilRefused, h.clocks, h.answered,
    hsession, hboard, List.length_singleton, List.singleton_append, Reply.isOk, cond_true]

/-- A link with all replies taken. -/
def taken (replies : List Reply) (recorded : Recorded ServedLink) : Recorded ServedLink :=
  { recorded with
    link := { recorded.link with inbox := { recorded.link.inbox with bytes := [] } }
    arrivals := recorded.arrivals ++ replies.map fun reply => .line (wireLine reply.line) }

/-- A link on which the first reply has arrived. -/
def arrived (reply : Reply) (replies : List Reply) (recorded : Recorded ServedLink) :
    Recorded ServedLink :=
  { recorded with
    link := { recorded.link with
      inbox := { recorded.link.inbox with bytes := ServedLink.replyBytes replies } }
    arrivals := recorded.arrivals ++ [.line (wireLine reply.line)] }

theorem receive_eq (recorded : Recorded ServedLink) :
    Link.receive recorded = (recorded.link.inbox.receive.1,
      { recorded with
        link := { recorded.link with inbox := recorded.link.inbox.receive.2 }
        arrivals := recorded.arrivals ++ [recorded.link.inbox.receive.1] }) := rfl

theorem receive_reply {reply : Reply} {replies : List Reply} {recorded : Recorded ServedLink}
    (h : OneLine reply.line.toList)
    (hbytes : recorded.link.inbox.bytes = ServedLink.replyBytes (reply :: replies)) :
    Link.receive recorded = (.line (wireLine reply.line), recorded.arrived reply replies) := by
  have hinbox : recorded.link.inbox.receive =
      (.line (wireLine reply.line),
        ⟨ServedLink.replyBytes replies, recorded.link.inbox.ending⟩) := by
    rw [← Inbox.receive_replyBytes h, ← hbytes]
  rw [receive_eq, hinbox]
  rfl

theorem taken_arrived (reply : Reply) (replies : List Reply) (recorded : Recorded ServedLink) :
    (recorded.arrived reply replies).taken replies = recorded.taken (reply :: replies) := by
  unfold taken arrived
  rw [List.append_assoc]
  rfl

section Send

variable {recorded : Recorded ServedLink} (hdrained : recorded.link.inbox.bytes = [])
  {lines : List String} (hlines : ∀ line ∈ lines, Sendable recorded.link.server.maxLineLength line)

include hlines

include hdrained in
/-- As soon as lines have been sent, their replies are on their way. -/
theorem inbox_send : (Link.send (wireText lines) recorded).link.inbox.bytes =
    ServedLink.replyBytes (recorded.link.hear lines).replies := by
  change recorded.link.inbox.bytes ++ ServedLink.replyBytes (serve _ _ _ _ _ _).replies = _
  rw [hdrained, serve_wireText _ hlines]
  rfl

/-- Once they have been taken, the lines have been heard. -/
theorem heard_send : Heard lines recorded
    (taken (recorded.link.hear lines).replies (Link.send (wireText lines) recorded)) := by
  have hserve := serve_wireText recorded.link.clocks hlines recorded.link.answered
    recorded.link.session recorded.link.server.board
  refine ⟨rfl, rfl, ?_, ?_, ?_, ?_, rfl, rfl⟩
  · change recorded.link.answered + (serve _ _ _ _ _ _).replies.length = _
    rw [hserve, length_hearAll]
  · change (serve _ _ _ _ _ _).session = _
    rw [hserve]
    rfl
  · change (serve _ _ _ _ _ _).board = _
    rw [hserve]
    rfl
  · change String.join (recorded.sent ++ [wireText lines]) = _
    rw [String.join_append, String.join_cons, String.join_nil, String.append_empty]

end Send

end Recorded

namespace Client

/-- A reply that is on its way is read as it was given. -/
theorem replyOf_wireLine {reply : Reply} (h : Readable reply) (patience : Nat) :
    replyOf patience (.line (wireLine reply.line)) = .ok reply.complaint? := by
  have hwire : (wireLine reply.line).toList = reply.line.toList ++ ['\n'] := by
    rw [wireLine, String.toList_append]
    rfl
  unfold replyOf lineOf
  dsimp only
  rw [hwire]
  dsimp only [Except.map]
  rw [Reply.read_line h.visible]

/-- As many replies as are on their way are read, and the first error among them is told. -/
theorem run_readReplies {replies : List Reply} (hreadable : ∀ reply ∈ replies, Readable reply)
    (client : Client (Recorded ServedLink))
    (hbytes : client.link.link.inbox.bytes = ServedLink.replyBytes replies) :
    run (readReplies replies.length : Call (Recorded ServedLink) (Option String)) client =
      (.ok (replies.findSome? Reply.complaint?),
        { client with link := client.link.taken replies }) := by
  induction replies generalizing client with
  | nil =>
      have hempty : client.link.link.inbox.bytes = [] := hbytes
      have htaken : client.link.taken [] = client.link := by
        unfold Recorded.taken
        rw [← hempty, List.map_nil, List.append_nil]
      rw [htaken]
      rfl
  | cons reply replies ih =>
      have hreply := hreadable reply List.mem_cons_self
      have hfirst := run_readReply client
      have hrest := ih (fun later hlater => hreadable later (List.mem_cons_of_mem reply hlater))
        { client with link := client.link.arrived reply replies } rfl
      rw [Recorded.receive_reply hreply.oneLine hbytes, replyOf_wireLine hreply] at hfirst
      rw [List.length_cons, readReplies, run_bind_ok hfirst, run_bind_ok hrest, run_pure]
      dsimp only
      rw [Recorded.taken_arrived, List.findSome?_cons]
      cases reply <;> rfl

/-- The first error among the replies to some lines. -/
def firstComplaint? (lines : List String) (link : ServedLink) : Option String :=
  (link.hear lines).replies.findSome? Reply.complaint?

theorem firstComplaint?_singleton (line : String) (link : ServedLink) :
    firstComplaint? [line] link = (link.respond line).reply.complaint? := by
  rw [firstComplaint?, ServedLink.hear_singleton, List.findSome?_cons]
  cases (link.respond line).reply <;> rfl

/-- Send lines in one piece, and read a reply for each. -/
def sayTogether {σ : Type} [Link σ] (lines : List String) : Call σ Unit := do
  transmit (wireText lines)
  settle (← readReplies lines.length)

/-- A call over a link on which nothing is left answers the first error of the replies to its
lines, and has had them heard; besides its link nothing of the client has changed. -/
def Exchanges (call : Call (Recorded ServedLink) Unit) (lines : List String)
    (client : Client (Recorded ServedLink)) : Prop :=
  ∃ after, Recorded.Heard lines client.link after ∧
    run call client =
      (settled (firstComplaint? lines client.link.link), { client with link := after })

section Exchanges

variable {client : Client (Recorded ServedLink)} (hdrained : client.link.link.inbox.bytes = [])

include hdrained

theorem exchanges_nothing : Exchanges (pure ()) [] client :=
  ⟨client.link, .refl hdrained, rfl⟩

/-- Lines that are sent together are answered together. -/
theorem exchanges_batch {lines : List String}
    (hlines : ∀ line ∈ lines, Sendable client.link.link.server.maxLineLength line) :
    Exchanges (sayTogether lines) lines client := by
  have hinbox := Recorded.inbox_send hdrained hlines
  have hreadable : ∀ reply ∈ (client.link.link.hear lines).replies, Readable reply :=
    readable_hearAll _ _ _ _ fun line hline => (hlines line hline).oneLine
  have hcount : (client.link.link.hear lines).replies.length = lines.length :=
    length_hearAll _ _ _ _ _
  have hread := run_readReplies hreadable
    { client with link := Link.send (wireText lines) client.link } hinbox
  rw [hcount] at hread
  refine ⟨_, Recorded.heard_send hlines, ?_⟩
  rw [sayTogether, run_bind_ok (run_transmit _ client), run_bind_ok hread, run_settle]
  rfl

/-- A command is a batch of one line. -/
theorem exchanges_command {line : String}
    (hline : Sendable client.link.link.server.maxLineLength line) :
    Exchanges (command line) [line] client := by
  have hbatch := exchanges_batch hdrained (List.forall_mem_singleton.mpr hline)
  have htext : wireText [line] = wireLine line := by
    rw [wireText, List.map_singleton, String.join_cons, String.join_nil, String.append_empty]
  have hone : (readReplies 1 : Call (Recorded ServedLink) (Option String)) = readReply := by
    simp [readReplies]
  rw [sayTogether, htext, List.length_singleton, hone] at hbatch
  exact hbatch

omit hdrained in
/-- An exchange that is followed by another only if it ends well is the exchange of both. -/
theorem Exchanges.bind {call later : Call (Recorded ServedLink) Unit} {lines next : List String}
    (h : Exchanges call lines client) (hwell : firstComplaint? lines client.link.link = none)
    (hlater : ∀ after, Recorded.Heard lines client.link after →
      Exchanges later next { client with link := after }) :
    Exchanges (call >>= fun _ => later) (lines ++ next) client := by
  obtain ⟨between, hfirst, hrun⟩ := h
  obtain ⟨after, hsecond, hrun'⟩ := hlater between hfirst
  refine ⟨after, hfirst.trans hsecond, ?_⟩
  have hcomplaint : firstComplaint? (lines ++ next) client.link.link =
      firstComplaint? next between.link := by
    unfold firstComplaint? at hwell ⊢
    rw [hfirst.hear_append, List.findSome?_append, hwell, Option.none_or]
  rw [hwell] at hrun
  rw [run_bind_ok hrun, hrun', hcomplaint]

omit hdrained in
/-- One that ends with an error is not followed by another. -/
theorem Exchanges.stop {call later : Call (Recorded ServedLink) Unit} {lines : List String}
    (h : Exchanges call lines client) {message : String}
    (hrefused : firstComplaint? lines client.link.link = some message) :
    Exchanges (call >>= fun _ => later) lines client := by
  obtain ⟨after, hheard, hrun⟩ := h
  refine ⟨after, hheard, ?_⟩
  rw [hrefused] at hrun ⊢
  exact run_bind_error hrun _

/-- Say lines one after the other until one is refused. -/
def sayAll {σ : Type} [Link σ] : List String → Call σ Unit
  | [] => pure ()
  | line :: lines => do
      command line
      sayAll lines

/-- Only the lines that are said have to be sendable. -/
theorem exchanges_sayAll {lines : List String}
    (hlines : ∀ line ∈ client.link.link.untilRefused lines,
      Sendable client.link.link.server.maxLineLength line) :
    Exchanges (sayAll lines) (client.link.link.untilRefused lines) client := by
  induction lines generalizing client with
  | nil => exact exchanges_nothing hdrained
  | cons line lines ih =>
      have hcommand := exchanges_command hdrained (hlines line (ServedLink.mem_untilRefused _ _ _))
      have hcomplaint := firstComplaint?_singleton line client.link.link
      cases hreply : (client.link.link.respond line).reply with
      | ok =>
          rw [hreply] at hcomplaint
          obtain ⟨first, hfirst, -⟩ := id hcommand
          have hlater := Recorded.untilRefused_of_ok hfirst hreply lines
          rw [hlater]
          refine hcommand.bind hcomplaint fun after hheard => ?_
          have hsame : first.link.untilRefused lines = after.link.untilRefused lines :=
            List.append_cancel_left
              (hlater.symm.trans (Recorded.untilRefused_of_ok hheard hreply lines))
          rw [hsame]
          refine @ih { client with link := after } hheard.drained fun later hmem => ?_
          rw [hheard.limit]
          refine hlines later ?_
          rw [hlater, hsame]
          exact List.mem_append_right _ hmem
      | error message =>
          rw [hreply] at hcomplaint
          rw [ServedLink.untilRefused_of_error hreply]
          exact hcommand.stop hcomplaint

end Exchanges

end Client

end ChartBoard
