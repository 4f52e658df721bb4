import ChartBoard.Proofs.Client.CallAnswers

/-!
A client and its server stay in step. Whatever calls a client makes, each takes just the replies
to the lines that it sends, so that none is left for the next call, and its answer is about these
lines alone; the session has heard all lines in the order in which they were sent.
-/

namespace ChartBoard

open Text Connection

namespace Client

/-- A client with nothing left on its link, that keeps back no line which is not a single one. -/
structure InStep (client : Client (Recorded ServedLink)) : Prop where
  drained : client.link.link.inbox.bytes = []
  oneLine : ∀ line ∈ client.cache, OneLine line.toList

/-- Make calls one after the other, whatever they answer. -/
def callAll : List ClientCall → Client (Recorded ServedLink) → Client (Recorded ServedLink)
  | [], client => client
  | call :: calls, client => callAll calls (run call.make client).2

/-- The lines that calls send, one after the other. -/
def allSent : List ClientCall → Client (Recorded ServedLink) → List String
  | [], _ => []
  | call :: calls, client => call.sent client ++ allSent calls (run call.make client).2

section Step

variable {call : ClientCall} {client : Client (Recorded ServedLink)}
  (htexts : ∀ text ∈ call.texts, OneLine text.toList)

include htexts

theorem InStep.oneLine_sent (h : InStep client) :
    ∀ line ∈ call.sent client, OneLine line.toList := by
  have hlines := ClientCall.oneLine_lines htexts
  by_cases hupdate : call = .update
  · subst hupdate
    exact h.oneLine
  · rw [ClientCall.sent_of_ne client hupdate]
    split
    · intro line hline
      cases hline
    · intro line hline
      exact hlines line ((ServedLink.untilRefused_stops _ _).1.subset hline)

theorem InStep.oneLine_cacheAfter (h : InStep client) :
    ∀ line ∈ call.cacheAfter client, OneLine line.toList := by
  have hlines := ClientCall.oneLine_lines htexts
  by_cases hupdate : call = .update
  · subst hupdate
    intro line hline
    cases hline
  · rw [ClientCall.cacheAfter_of_ne client hupdate]
    split
    · exact List.forall_mem_append.mpr ⟨h.oneLine, hlines⟩
    · exact h.oneLine

variable (hfits : ∀ line ∈ call.sent client, Fits client.link.link.server.maxLineLength line)

include hfits

theorem InStep.keeps (h : InStep client) : call.Keeps client :=
  ClientCall.keeps_call h.drained fun line hline =>
    ⟨hfits line hline, h.oneLine_sent htexts line hline⟩

/-- A client stays in step with each call. -/
theorem InStep.made (h : InStep client) :
    InStep (run call.make client).2 ∧
      Recorded.Heard (call.sent client) client.link (run call.make client).2.link := by
  obtain ⟨after, hrun, hheard, hcache⟩ := h.keeps htexts hfits
  rw [hrun]
  refine ⟨⟨hheard.drained, ?_⟩, hheard⟩
  rw [hcache]
  exact h.oneLine_cacheAfter htexts

end Step

theorem callAll_append (calls later : List ClientCall) (client : Client (Recorded ServedLink)) :
    callAll (calls ++ later) client = callAll later (callAll calls client) := by
  induction calls generalizing client with
  | nil => rfl
  | cons call calls ih => exact ih _

theorem allSent_append (calls later : List ClientCall) (client : Client (Recorded ServedLink)) :
    allSent (calls ++ later) client =
      allSent calls client ++ allSent later (callAll calls client) := by
  induction calls generalizing client with
  | nil => rfl
  | cons call calls ih => rw [List.cons_append, allSent, allSent, callAll, ih, List.append_assoc]

/-- A client stays in step with all its calls, and their lines are heard one after the other. -/
theorem InStep.calls {client : Client (Recorded ServedLink)} (h : InStep client)
    {calls : List ClientCall} (htexts : ∀ call ∈ calls, ∀ text ∈ call.texts, OneLine text.toList)
    (hfits : ∀ line ∈ allSent calls client, Fits client.link.link.server.maxLineLength line) :
    InStep (callAll calls client) ∧
      Recorded.Heard (allSent calls client) client.link (callAll calls client).link := by
  induction calls generalizing client with
  | nil => exact ⟨h, .refl h.drained⟩
  | cons call calls ih =>
      obtain ⟨htext, hothers⟩ := List.forall_mem_cons.mp htexts
      obtain ⟨hfirst, hlater⟩ := List.forall_mem_append.mp hfits
      obtain ⟨hstep, hheard⟩ := h.made htext hfirst
      rw [← hheard.limit] at hlater
      obtain ⟨hsteps, hrest⟩ := ih hstep hothers hlater
      exact ⟨hsteps, hheard.trans hrest⟩

section Connected

variable (slot : Nat) (clocks : Nat → Clock) (server : Server)

/-- A client that has been accepted to a slot and has read the greeting. -/
def connected : Client (Recorded ServedLink) where
  link :=
    { link := { ServedLink.accepted slot clocks server with inbox := ⟨[], .silence⟩ }
      arrivals := [.line (wireLine Greeting.line)] }
  version := (Greeting.read? Greeting.line).getD .zero
  patience := defaultPatience

theorem inStep_connected : InStep (connected slot clocks server) where
  drained := rfl
  oneLine := List.forall_mem_nil _

theorem receive_greeting :
    Link.receive ({ link := .accepted slot clocks server } : Recorded ServedLink) =
      (.line (wireLine Greeting.line), (connected slot clocks server).link) := by
  have hinbox : Inbox.receive ⟨Utf8.encode (transcript []).toList, .silence⟩ =
      (.line (wireLine Greeting.line), ⟨[], .silence⟩) := by
    decide +kernel
  have haccepted : (ServedLink.accepted slot clocks server).inbox =
      ⟨Utf8.encode (transcript []).toList, .silence⟩ := rfl
  rw [Recorded.receive_eq, haccepted, hinbox]
  rfl

/-- The greeting of a server is read as one. -/
theorem ofLink_accepted (peer : String) :
    ofLink peer ({ link := .accepted slot clocks server } : Recorded ServedLink) =
      .ok (connected slot clocks server) := by
  have hline : lineOf defaultPatience (.line (wireLine Greeting.line)) = .ok Greeting.line :=
    congrArg Except.ok (by decide +kernel)
  obtain ⟨version, hversion⟩ : ∃ version, Greeting.read? Greeting.line = some version :=
    Option.isSome_iff_exists.mp (by decide +kernel)
  have hread := run_readLine
    (⟨{ link := .accepted slot clocks server }, .zero, defaultPatience, false, []⟩ :
      Client (Recorded ServedLink))
  dsimp only at hread
  rw [receive_greeting, hline] at hread
  rw [ofLink, greeted, run_bind_ok hread, hversion, connected, hversion]
  rfl

end Connected

/-- A client and its server stay in step. Of any calls that a client makes one after the other over
a link on which nothing is lost, take the last, and let it send some lines, each a single one. Then
just one reply for each of them is read, and nothing is left on the link. If it sends a single line,
it answers as the session processes that line. What is kept back is sent by `update`, which answers
the first error among the replies and keeps nothing back. Any other call says its lines one by one
up to the first that is refused, as `addPlot` does with its settings. The session and its board are
where all the lines have led to, in the order in which they have been written. -/
theorem calls_in_step (peer : String) (slot : Nat) (clocks : Nat → Clock) (server : Server)
    (calls : List ClientCall) (call : ClientCall)
    (htexts : ∀ made ∈ calls ++ [call], ∀ text ∈ made.texts, OneLine text.toList)
    (hlimit : ∀ line ∈ allSent (calls ++ [call]) (connected slot clocks server),
      Fits server.maxLineLength line) :
    let start := connected slot clocks server
    let client := callAll calls start
    let link := client.link.link
    let sent := call.sent client
    let replies := (link.hear sent).replies
    let answer := (run call.make client).1
    let after := (run call.make client).2
    let written := allSent (calls ++ [call]) start
    let heard := hearAll clocks 0 written { slot := slot } server.board
    ofLink peer ({ link := .accepted slot clocks server } : Recorded ServedLink) = .ok start ∧
    (String.join after.link.sent = String.join client.link.sent ++ wireText sent ∧
      (∀ line ∈ sent, OneLine line.toList) ∧ replies.length = sent.length ∧
      after.link.arrivals =
        client.link.arrivals ++ (replies.map fun reply => .line (wireLine reply.line)) ∧
      after.link.link.inbox.bytes = []) ∧
    (∀ line, sent = [line] → answer = (link.session.process (link.clocks link.answered)
      (Session.withoutLineEnd line) link.server.board).result.mapError
        fun refusal => .refused refusal.message) ∧
    (call = .update → sent = client.cache ∧
      answer = settled (replies.findSome? Reply.complaint?) ∧ after.cache = []) ∧
    (call.keepsBack client = true → sent = [] ∧ answer = .ok () ∧
      after.cache = client.cache ++ call.lines) ∧
    (∀ name, call.unknownKind? = some name → sent = [] ∧ answer = .error (.invalidKind name) ∧
      after.cache = client.cache) ∧
    (call ≠ .update → call.keepsBack client = false → call.unknownKind? = none →
      after.cache = client.cache ∧ sent <+: call.lines ∧
      (sent = call.lines ∧ (∀ reply ∈ replies, reply = .ok) ∧ answer = .ok () ∨
        ∃ accepted message, replies = accepted ++ [.error message] ∧
          (∀ reply ∈ accepted, reply = .ok) ∧ answer = .error (.refused message))) ∧
    String.join after.link.sent = wireText written ∧
    after.link.link.session = heard.session ∧ after.link.link.server.board = heard.board := by
  intro start client link sent replies answer after written heard
  obtain ⟨htextsBefore, htextsLast⟩ := List.forall_mem_append.mp htexts
  have htext := List.forall_mem_singleton.mp htextsLast
  have hlimits := hlimit
  rw [allSent_append] at hlimits
  obtain ⟨hfitsBefore, hfitsLast⟩ := List.forall_mem_append.mp hlimits
  obtain ⟨hstep, hbefore⟩ := (inStep_connected slot clocks server).calls htextsBefore hfitsBefore
  have hfits : ∀ line ∈ call.sent client, Fits client.link.link.server.maxLineLength line := by
    rw [hbefore.limit]
    exact (List.forall_mem_append.mp hfitsLast).1
  obtain ⟨made, hrun, hheard, hcache⟩ := hstep.keeps htext hfits
  have hanswer : answer = call.answer client := congrArg Prod.fst hrun
  have hafter : after = made := congrArg Prod.snd hrun
  have hwhole := ((inStep_connected slot clocks server).calls htexts hlimit).2
  rw [callAll_append] at hwhole
  rw [← hafter] at hheard hcache
  rw [hanswer]
  refine ⟨ofLink_accepted slot clocks server peer, ⟨hheard.sent, hstep.oneLine_sent htext,
    length_hearAll _ _ _ _ _, hheard.arrivals, hheard.drained⟩, ?single, ?update, ?keptBack,
    ?unknown, ?said, ?written, hwhole.session, hwhole.board⟩
  case single =>
    intro line hsent
    exact ClientCall.answer_of_single hsent
  case update =>
    rintro rfl
    exact ⟨rfl, ClientCall.answer_of_known rfl, hcache⟩
  case keptBack =>
    intro hkeeps
    obtain ⟨hnothing, hok, hkept⟩ := ClientCall.answer_of_keepsBack hkeeps
    exact ⟨hnothing, hok, hcache.trans hkept⟩
  case unknown =>
    intro name hname
    obtain ⟨hnothing, hkept⟩ := ClientCall.sent_of_unknown client hname
    exact ⟨hnothing, ClientCall.answer_of_unknown hname, hcache.trans hkept⟩
  case said =>
    intro hupdate hkeeps hkind
    obtain ⟨hkept, hsaid⟩ := ClientCall.answer_of_said hupdate hkeeps hkind
    exact ⟨hcache.trans hkept, hsaid⟩
  case written =>
    refine hwhole.sent.trans ?_
    change "" ++ wireText written = wireText written
    exact String.empty_append

/-- Two lines of values that have been kept back are refused, as no chart is set up, and the first
refusal is the answer. -/
theorem calls_in_step_refused_batch :
    let start := connected 0 (fun _ _ => 0) ⟨[], 100, .create 1 {} none⟩
    let client := callAll [.setCaching true, .addValues [.zero], .addValues [.zero, .zero]] start
    let after := (run ClientCall.update.make client).2
    client.cache = ["0", "0,0"] ∧
      (run ClientCall.update.make client).1 =
        .error (.refused "cannot add plot values as the plot has not been initialised yet") ∧
      after.cache = [] ∧ String.join after.link.sent = "0\n0,0\n" ∧ after.link.arrivals.length = 3 ∧
      after.link.link.inbox.bytes = [] := by
  have hsent :
      allSent ([.setCaching true, .addValues [.zero], .addValues [.zero, .zero]] ++ [.update])
        (connected 0 (fun _ _ => 0) ⟨[], 100, .create 1 {} none⟩) = ["0", "0,0"] := by
    decide +kernel
  obtain ⟨-, ⟨hwritten, -, -, harrivals, hinbox⟩, -, hupdate, -⟩ :=
    calls_in_step "" 0 (fun _ _ => 0) ⟨[], 100, .create 1 {} none⟩
      [.setCaching true, .addValues [.zero], .addValues [.zero, .zero]] .update (by decide) (by
        rw [hsent]
        simp only [List.forall_mem_cons]
        exact ⟨⟨by decide, .inl (by decide)⟩, ⟨by decide, .inl (by decide)⟩, List.forall_mem_nil _⟩)
  obtain ⟨-, hanswer, hempty⟩ := hupdate rfl
  refine ⟨?_, hanswer.trans ?_, hempty, hwritten.trans ?_,
    (congrArg List.length harrivals).trans ?_, hinbox⟩ <;> decide +kernel

end Client

end ChartBoard
