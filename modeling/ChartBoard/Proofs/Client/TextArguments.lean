import ChartBoard.Proofs.Client.Lockstep
import ChartBoard.Proofs.Text.Tokens

/-!
Commands and the texts in them. A client writes each of its commands in one piece, whatever it
holds, and takes one reply for it. A server hears a command with ends of line in it as several
lines and answers each of them, so that as many replies stay on their way as there are ends of line
(`Recorded.Commanded`). Only what is on one line is one line to the server, and only then is nothing
left for the next command (`Client.commands_written`).
-/

namespace ChartBoard

open Text Connection

namespace Text

/-- The lines that a text is to a server, if it is sent as a line. -/
def singleLines (text : String) : List String := (text.toList.splitOn '\n').map String.ofList

theorem oneLine_singleLines (text : String) : ∀ line ∈ singleLines text, OneLine line.toList := by
  intro line hline
  obtain ⟨piece, hpiece, rfl⟩ := List.mem_map.mp hline
  rw [← split_eq_splitOn] at hpiece
  refine oneLine_ofList fun hend => ?_
  exact absurd (not_separates_of_mem_split _ _ piece hpiece '\n' hend) (by decide)

theorem singleLines_of_oneLine {text : String} (h : OneLine text.toList) :
    singleLines text = [text] := by
  rw [singleLines, List.splitOn_eq_singleton h, List.map_singleton, String.ofList_toList]

/-- There is one line more than there are ends of line. -/
theorem length_singleLines (text : String) :
    (singleLines text).length = text.toList.count '\n' + 1 := by
  rw [singleLines, List.length_map, ← split_eq_splitOn]
  induction text.toList with
  | nil => rfl
  | cons c text ih =>
      rw [split_eq_splitOnP] at ih ⊢
      rw [List.splitOnP_cons_eq_if_modifyHead, List.count_cons]
      split
      · rw [List.length_cons, ih]
      · rw [List.length_modifyHead, ih, Nat.add_zero]

theorem flatMap_singleLines {texts : List String} (h : ∀ text ∈ texts, OneLine text.toList) :
    texts.flatMap singleLines = texts := by
  rw [List.flatMap_congr fun text htext => singleLines_of_oneLine (h text htext)]
  exact List.flatMap_singleton' texts

theorem length_flatMap_singleLines (texts : List String) :
    (texts.flatMap singleLines).length =
      texts.length + (texts.flatMap String.toList).count '\n' := by
  induction texts with
  | nil => rfl
  | cons text texts ih =>
      rw [List.flatMap_cons, List.flatMap_cons, List.length_append, List.count_append, ih,
        length_singleLines, List.length_cons]
      omega

end Text

namespace Connection

theorem wireLine_eq_wireText (text : String) : wireLine text = wireText (singleLines text) := by
  have hlines : singleLines text ≠ [] := by
    rw [singleLines, ne_eq, List.map_eq_nil_iff]
    exact List.splitOn_ne_nil _ _
  obtain ⟨line, lines, hcons⟩ := List.exists_cons_of_ne_nil hlines
  have hwhole : String.intercalate "\n" (singleLines text) = text := by
    rw [← String.toList_inj, String.toList_intercalate, singleLines, List.map_map]
    have hsame : String.toList ∘ String.ofList = id := funext fun _ => String.toList_ofList
    rw [hsame, List.map_id]
    exact List.intercalate_splitOn '\n'
  rw [hcons, ← ClientCall.wireLine_intercalate, ← hcons, hwhole]

theorem clocked_append (clocks : Nat → Clock) (number : Nat) (lines later : List (List UInt8)) :
    clocked clocks number (lines ++ later) =
      clocked clocks number lines ++ clocked clocks (number + lines.length) later := by
  rw [clocked, List.zipIdx_append, List.map_append]
  rfl

theorem answerAll_append (limit : Nat) (lines later : List (Clock × List UInt8)) (session : Session)
    (board : Board) :
    answerAll limit (lines ++ later) session board =
      let first := answerAll limit lines session board
      let second := answerAll limit later first.session first.board
      { second with
        replies := first.replies ++ second.replies
        events := first.events ++ second.events } := by
  induction lines generalizing session board with
  | nil => rfl
  | cons line lines ih =>
      obtain ⟨clock, piece⟩ := line
      rw [List.cons_append, answerAll, answerAll]
      split
      · rw [ih]
        rfl
      · simp only [ih, List.cons_append, List.append_assoc]

end Connection

namespace ServedLink

/-- What a server would make of some lines sent over a link, each of them a single one. -/
def answers (lines : List String) (link : ServedLink) : Exchange :=
  answerAll link.server.maxLineLength
    (clocked link.clocks link.answered (lines.map fun line => Utf8.encode line.toList))
    link.session link.server.board

theorem length_answers (lines : List String) (link : ServedLink) :
    (link.answers lines).replies.length = lines.length := by
  rw [answers, length_answerAll, clocked, List.length_map, List.length_zipIdx, List.length_map]

theorem oneLine_answers {lines : List String} (h : ∀ line ∈ lines, OneLine line.toList)
    (link : ServedLink) : ∀ reply ∈ (link.answers lines).replies, OneLine reply.line.toList := by
  refine oneLine_answerAll _ (fun line hline => ?_) _ _
  have hpiece := List.mem_map_of_mem (f := Prod.snd) hline
  rw [pieces_clocked] at hpiece
  obtain ⟨text, htext, heq⟩ := List.mem_map.mp hpiece
  rw [← heq]
  exact Utf8.newline_not_mem_encode (h text htext)

/-- A command that the server can count the bytes of. -/
def Countable (text : String) (link : ServedLink) : Prop :=
  LineReader.Countable link.server.maxLineLength (Utf8.encode (wireLine text).toList)

/-- A server answers every line that there is in what it is sent. -/
theorem send_wireLine {text : String} {link : ServedLink} (h : link.Countable text) :
    let exchange := link.answers (singleLines text)
    link.send (wireLine text) =
      { link with
        server := { link.server with board := exchange.board }
        session := exchange.session
        answered := link.answered + (singleLines text).length
        inbox :=
          { link.inbox with bytes := link.inbox.bytes ++ replyBytes exchange.replies } } := by
  intro exchange
  have hbytes : Chunks.bytes [Utf8.encode (wireLine text).toList] =
      Utf8.encode (wireLine text).toList :=
    List.append_nil _
  have hpieces : pieces (Utf8.encode (wireLine text).toList) =
      (singleLines text).map fun line => Utf8.encode line.toList := by
    rw [wireLine_eq_wireText]
    exact pieces_wireText (oneLine_singleLines text)
  have hserve : serve link.server.maxLineLength link.clocks link.answered
      [Utf8.encode (wireLine text).toList] link.session link.server.board = exchange := by
    rw [serve_eq_answerAll link.clocks (by rw [hbytes]; exact h), hbytes, hpieces]
    rfl
  have hlength : exchange.replies.length = (singleLines text).length := length_answers _ link
  rw [send, hserve]
  dsimp only
  rw [hlength]

theorem replyBytes_append (replies later : List Reply) :
    replyBytes (replies ++ later) = replyBytes replies ++ replyBytes later := by
  rw [replyBytes, List.map_append, String.join_append, String.toList_append, Utf8.encode_append]
  rfl

end ServedLink

namespace Recorded

/-- The replies on their way over a link, each on one line. -/
structure Awaiting (queue : List Reply) (recorded : Recorded ServedLink) : Prop where
  bytes : recorded.link.inbox.bytes = ServedLink.replyBytes queue
  oneLine : ∀ reply ∈ queue, OneLine reply.line.toList

/-- Commands have been written to a link, each in one piece, behind the replies that were on their
way. The server has answered every line in them, and for every command one reply has been taken. -/
structure Commanded (commands : List String) (queue unread : List Reply)
    (before after : Recorded ServedLink) : Prop where
  clocks : after.link.clocks = before.link.clocks
  limit : after.link.server.maxLineLength = before.link.server.maxLineLength
  answered : after.link.answered = before.link.answered + (commands.flatMap singleLines).length
  session : after.link.session = (before.link.answers (commands.flatMap singleLines)).session
  board : after.link.server.board = (before.link.answers (commands.flatMap singleLines)).board
  sent : after.sent = before.sent ++ commands.map wireLine
  taken : ∃ taken,
    queue ++ (before.link.answers (commands.flatMap singleLines)).replies = taken ++ unread ∧
    taken.length = commands.length ∧
    after.arrivals = before.arrivals ++ taken.map fun reply => .line (wireLine reply.line)
  awaiting : Awaiting unread after

theorem Commanded.refl {queue : List Reply} {recorded : Recorded ServedLink}
    (h : Awaiting queue recorded) :
    Commanded [] queue queue recorded recorded where
  clocks := rfl
  limit := rfl
  answered := rfl
  session := rfl
  board := rfl
  sent := (List.append_nil _).symm
  taken := ⟨[], List.append_nil queue, rfl, (List.append_nil _).symm⟩
  awaiting := h

/-- What is answered from where some commands have led to is answered behind them. -/
theorem Commanded.answers_append {commands : List String} {queue unread : List Reply}
    {before after : Recorded ServedLink} (h : Commanded commands queue unread before after)
    (later : List String) :
    before.link.answers (commands.flatMap singleLines ++ later) =
      { after.link.answers later with
        replies := (before.link.answers (commands.flatMap singleLines)).replies ++
          (after.link.answers later).replies
        events := (before.link.answers (commands.flatMap singleLines)).events ++
          (after.link.answers later).events } := by
  have hlater : after.link.answers later = answerAll before.link.server.maxLineLength
      (clocked before.link.clocks (before.link.answered + (commands.flatMap singleLines).length)
        (later.map fun line => Utf8.encode line.toList))
      (before.link.answers (commands.flatMap singleLines)).session
      (before.link.answers (commands.flatMap singleLines)).board := by
    rw [ServedLink.answers, h.clocks, h.limit, h.answered, h.session, h.board]
  rw [hlater, ServedLink.answers, List.map_append, clocked_append, List.length_map,
    answerAll_append]
  rfl

theorem Commanded.trans {commands later : List String} {queue unread rest : List Reply}
    {first second third : Recorded ServedLink} (h : Commanded commands queue unread first second)
    (h' : Commanded later unread rest second third) :
    Commanded (commands ++ later) queue rest first third where
  clocks := h'.clocks.trans h.clocks
  limit := h'.limit.trans h.limit
  answered := by
    rw [h'.answered, h.answered, List.flatMap_append, List.length_append, Nat.add_assoc]
  session := by
    rw [List.flatMap_append, h.answers_append]
    exact h'.session
  board := by
    rw [List.flatMap_append, h.answers_append]
    exact h'.board
  sent := by
    rw [h'.sent, h.sent, List.map_append, List.append_assoc]
  taken := by
    obtain ⟨taken, hreplies, hlength, harrivals⟩ := h.taken
    obtain ⟨more, hmore, hmoreLength, hmoreArrivals⟩ := h'.taken
    refine ⟨taken ++ more, ?_, ?_, ?_⟩
    · rw [List.flatMap_append, h.answers_append]
      dsimp only
      rw [← List.append_assoc, hreplies, List.append_assoc, hmore, List.append_assoc]
    · rw [List.length_append, List.length_append, hlength, hmoreLength]
    · rw [hmoreArrivals, harrivals, List.map_append, List.append_assoc]
  awaiting := h'.awaiting

/-- As soon as a command has been sent, at least one reply is on its way, and the first is taken. -/
theorem commanded_send {text : String} {queue : List Reply} {recorded : Recorded ServedLink}
    (h : Awaiting queue recorded) (hcount : recorded.link.Countable text) :
    ∃ (reply : Reply) (unread : List Reply) (after : Recorded ServedLink),
      Link.receive (Link.send (wireLine text) recorded) = (.line (wireLine reply.line), after) ∧
        Commanded [text] queue unread recorded after := by
  obtain ⟨exchange, hexchange⟩ : ∃ exchange, exchange =
      recorded.link.answers (singleLines text) := ⟨_, rfl⟩
  have hlink := ServedLink.send_wireLine hcount
  have hlength := ServedLink.length_answers (singleLines text) recorded.link
  dsimp only at hlink
  rw [← hexchange] at hlink hlength
  have hnone : queue ++ exchange.replies ≠ [] := by
    intro hempty
    rw [(List.append_eq_nil_iff.mp hempty).2, length_singleLines] at hlength
    cases hlength
  obtain ⟨reply, unread, hqueue⟩ := List.exists_cons_of_ne_nil hnone
  have honeLine : ∀ reply ∈ queue ++ exchange.replies, OneLine reply.line.toList := by
    rw [hexchange]
    exact List.forall_mem_append.mpr
      ⟨h.oneLine, ServedLink.oneLine_answers (oneLine_singleLines text) recorded.link⟩
  rw [hqueue] at honeLine
  obtain ⟨hreply, hunread⟩ := List.forall_mem_cons.mp honeLine
  have hsent : (Link.send (wireLine text) recorded).link = recorded.link.send (wireLine text) := rfl
  have hbytes : (Link.send (wireLine text) recorded).link.inbox.bytes =
      ServedLink.replyBytes (reply :: unread) := by
    rw [hsent, hlink]
    dsimp only
    rw [h.bytes, ← ServedLink.replyBytes_append, hqueue]
  have hsingle : [text].flatMap singleLines = singleLines text :=
    List.flatMap_singleton singleLines text
  refine ⟨reply, unread, _, receive_reply hreply hbytes, ?_⟩
  unfold arrived
  rw [hsent, hlink]
  refine ⟨rfl, rfl, ?_, ?_, ?_, rfl, ⟨[reply], ?_, rfl, rfl⟩, ⟨rfl, hunread⟩⟩
  all_goals rw [hsingle]
  · rw [← hexchange]
  · rw [← hexchange]
  · rw [← hexchange, hqueue]
    rfl

end Recorded

namespace Client

/-- Commands that are said one by one are written one by one, up to the first that fails. -/
theorem commanded_sayAll {lines : List String} {queue : List Reply}
    {client : Client (Recorded ServedLink)}
    (h : client.link.Awaiting queue) (hcount : ∀ line ∈ lines, client.link.link.Countable line) :
    ∃ issued unread, issued <+: lines ∧ (issued = [] → lines = []) ∧
      ((run (sayAll lines) client).1 = .ok () → issued = lines) ∧
      Recorded.Commanded issued queue unread client.link (run (sayAll lines) client).2.link := by
  induction lines generalizing queue client with
  | nil => exact ⟨[], queue, List.prefix_refl [], fun _ => rfl, fun _ => rfl, .refl h⟩
  | cons line lines ih =>
      obtain ⟨hline, hlater⟩ := List.forall_mem_cons.mp hcount
      obtain ⟨reply, unread, link, hreceive, hfirst⟩ := Recorded.commanded_send h hline
      have hrun := run_command line client
      rw [hreceive] at hrun
      dsimp only at hrun
      cases hanswer : (replyOf client.patience (.line (wireLine reply.line)) >>= settled :
          Except ClientError Unit) with
      | error fault =>
          rw [hanswer] at hrun
          rw [sayAll, run_bind_error hrun]
          refine ⟨[line], unread, ⟨lines, rfl⟩, fun hnone => ?_, fun hok => ?_, hfirst⟩
          · cases hnone
          · cases hok
      | ok _ =>
          rw [hanswer] at hrun
          have hcountable : ∀ other ∈ lines, link.link.Countable other := by
            intro other hother
            rw [ServedLink.Countable, hfirst.limit]
            exact hlater other hother
          obtain ⟨issued, rest, hopening, -, hall, hrest⟩ :=
            @ih unread { client with link := link } hfirst.awaiting hcountable
          rw [sayAll, run_bind_ok hrun]
          refine ⟨line :: issued, rest, List.cons_prefix_cons.mpr ⟨rfl, hopening⟩, fun hnone => ?_,
            fun hok => ?_, hfirst.trans hrest⟩
          · cases hnone
          · rw [hall hok]

/-- So are all commands of a call, whatever else it does. -/
theorem commanded_make {call : ClientCall} {queue : List Reply}
    {client : Client (Recorded ServedLink)}
    (h : client.link.Awaiting queue) (hdata : call.isData = false) (hupdate : call ≠ .update)
    (hcount : ∀ line ∈ call.lines, client.link.link.Countable line) :
    ∃ issued unread, issued <+: call.lines ∧ (issued = [] → call.lines = []) ∧
      ((run call.make client).1 = .ok () → issued = call.lines) ∧
      Recorded.Commanded issued queue unread client.link (run call.make client).2.link := by
  have hconduct := ClientCall.conduct_make call client
  generalize run call.make client = outcome at hconduct
  cases hconduct with
  | waits | caches => exact ⟨[], queue, List.nil_prefix, fun _ => rfl, fun _ => rfl, .refl h⟩
  | rejects hkind =>
      have hlines := (ClientCall.unknownKind?_eq_some hkind).1
      exact ⟨[], queue, List.nil_prefix, fun _ => hlines, fun _ => hlines.symm, .refl h⟩
  | keepsBack hkept =>
      rw [hdata] at hkept
      cases hkept
  | speaks => exact commanded_sayAll h hcount
  | idles | flushes => exact absurd rfl hupdate

/-- Of a call that brings no values, the lines are written one by one, each in one piece, up to the
first that fails. To the server a line is as many lines as its ends of line cut it into, and it
hears and answers every one of them. The client takes one reply for each line that it has written,
behind those that it has left before. So the replies that are left become more by the ends of line
in the lines written, and there is none more exactly if each of these is a single line; then the
server has heard just what the call has to say. It is so if the texts that are passed on are on one
line each. -/
theorem commands_written (client : Client (Recorded ServedLink)) (queue : List Reply)
    (hqueue : client.link.Awaiting queue) (call : ClientCall) (hdata : call.isData = false)
    (hupdate : call ≠ .update) (hcount : ∀ line ∈ call.lines, client.link.link.Countable line) :
    let link := client.link.link
    let answer := (run call.make client).1
    let after := (run call.make client).2
    ∃ issued taken unread,
      let singles := issued.flatMap singleLines
      let exchange := link.answers singles
      (issued <+: call.lines ∧ (issued = [] → call.lines = []) ∧
        (answer = .ok () → issued = call.lines)) ∧
      (after.link.sent = client.link.sent ++ issued.map wireLine ∧
        ∀ line ∈ issued, (singleLines line).length = line.toList.count '\n' + 1 ∧
          pieces (Utf8.encode (wireLine line).toList) =
            (singleLines line).map fun single => Utf8.encode single.toList) ∧
      (after.link.link.session = exchange.session ∧ after.link.link.server.board = exchange.board ∧
        after.link.link.answered = link.answered + singles.length ∧
        exchange.replies.length = singles.length) ∧
      (queue ++ exchange.replies = taken ++ unread ∧ taken.length = issued.length ∧
        after.link.arrivals =
          client.link.arrivals ++ (taken.map fun reply => .line (wireLine reply.line)) ∧
        after.link.link.inbox.bytes = ServedLink.replyBytes unread) ∧
      unread.length = queue.length + (issued.flatMap String.toList).count '\n' ∧
      (unread.length = queue.length ↔ ∀ line ∈ issued, OneLine line.toList) ∧
      ((∀ line ∈ issued, OneLine line.toList) → singles = issued) ∧
      ((∀ text ∈ call.texts, OneLine text.toList) → ∀ line ∈ issued, OneLine line.toList) := by
  intro link answer after
  obtain ⟨issued, unread, hopening, hsome, hall, hcommanded⟩ :=
    commanded_make hqueue hdata hupdate hcount
  obtain ⟨taken, hreplies, htaken, harrivals⟩ := hcommanded.taken
  have hanswered := ServedLink.length_answers (issued.flatMap singleLines) link
  have hunread : unread.length = queue.length + (issued.flatMap String.toList).count '\n' := by
    have hlength := congrArg List.length hreplies
    rw [List.length_append, List.length_append, hanswered, htaken, length_flatMap_singleLines]
      at hlength
    omega
  refine ⟨issued, taken, unread, ⟨hopening, hsome, hall⟩, ⟨hcommanded.sent, fun line _ => ?_⟩,
    ⟨hcommanded.session, hcommanded.board, hcommanded.answered, hanswered⟩,
    ⟨hreplies, htaken, harrivals, hcommanded.awaiting.bytes⟩, hunread, ?_, flatMap_singleLines,
    fun htexts line hline => ?_⟩
  · refine ⟨length_singleLines line, ?_⟩
    rw [wireLine_eq_wireText]
    exact pieces_wireText (oneLine_singleLines line)
  · rw [hunread, Nat.add_eq_left, List.count_eq_zero]
    simp only [OneLine, List.mem_flatMap, not_exists, not_and]
  · exact ClientCall.oneLine_lines htexts line (hopening.subset hline)

/-- A chart whose title has an end of line in it is opened with three lines that are four to the
server. -/
theorem commands_written_title :
    let client := connected 0 (fun _ _ => 0) ⟨[], 100, .create 1 {} none⟩
    let call := ClientCall.openChart "xy" "a\ninit"
    client.link.Awaiting [] ∧ call.isData = false ∧ call ≠ .update ∧
      (∀ line ∈ call.lines, client.link.link.Countable line) ∧
      (run call.make client).2.link.sent =
        ["set graph=xy\n", "set plot_title=a\ninit\n", "init\n"] ∧
      (run call.make client).2.link.link.answered = 4 ∧
      ∃ reply, (run call.make client).2.link.link.inbox.bytes = ServedLink.replyBytes [reply] := by
  intro client call
  have hawaiting : client.link.Awaiting [] := ⟨rfl, List.forall_mem_nil _⟩
  have hupdate : call ≠ .update := by simp [call]
  have hcount : ∀ line ∈ call.lines, client.link.link.Countable line := fun _ _ => .inl (by decide)
  have hok : (run call.make client).1 = .ok () := by decide +kernel
  have hlines : call.lines = ["set graph=xy", "set plot_title=a\ninit", "init"] := by decide +kernel
  obtain ⟨issued, taken, unread, ⟨-, -, hall⟩, ⟨hsent, -⟩, ⟨-, -, hanswered, -⟩, ⟨-, -, -, hbytes⟩,
      hunread, -⟩ :=
    commands_written client [] hawaiting call rfl hupdate hcount
  have hissued := (hall hok).trans hlines
  rw [hissued] at hsent hanswered hunread
  obtain ⟨reply, hreply⟩ : ∃ reply, unread = [reply] :=
    List.length_eq_one_iff.mp (hunread.trans (by decide +kernel))
  rw [hreply] at hbytes
  exact ⟨hawaiting, rfl, hupdate, hcount, hsent.trans (by decide +kernel),
    hanswered.trans (by decide +kernel), reply, hbytes⟩

/-- A title brings a command with it that initialises the chart. The reply to that command is left,
and the next call takes it for its own: it succeeds although its line is refused. -/
theorem title_carries_command :
    let client :=
      afterCalls [.setKind "xy"] (connected 0 (fun _ _ => 0) ⟨[], 100, .create 1 {} none⟩)
    let titled := run (ClientCall.setFrameTitle "a\ninit").make client
    let cleared := run (ClientCall.clear 5).make titled.2
    client.link.link.session.stage = .typeSelected ∧ client.link.link.inbox.bytes = [] ∧
      titled.1 = .ok () ∧ titled.2.link.link.session.stage = .initialized ∧
      titled.2.link.link.inbox.bytes = ServedLink.replyBytes [.ok] ∧ cleared.1 = .ok () ∧
      (titled.2.link.link.respond "clear 5").reply ≠ .ok := by
  decide +kernel

end Client

end ChartBoard
