import ChartBoard.Proofs.Client.Attendance

/-!
Replies from a server that hangs up, maybe within a line. A client takes the lines off its link one
after the other, and what is there of the last one counts as a line (`Recorded.Drawn`). So the
replies that it accepts are as many as the whole lines at most, and one more only if it has come
upon a part of a line behind them (`Client.replies_accepted`). Behind the last line every call that
waits for a reply fails.
-/

namespace ChartBoard

open Text

namespace Text

/-- Whether bytes end within a line. -/
def cutOff (bytes : List UInt8) : Bool := bytes.getLast?.any (· != newline)

theorem cutOff_newline (piece behind : List UInt8) :
    cutOff (piece ++ [newline] ++ behind) = cutOff behind := by
  rw [cutOff, cutOff, List.getLast?_append, List.getLast?_append]
  cases behind.getLast? <;> rfl

theorem cutOff_of_free {piece : List UInt8} (h : newline ∉ piece) (hne : piece ≠ []) :
    cutOff piece = true := by
  have hlast : piece.getLast hne ≠ newline := fun heq => h (heq ▸ List.getLast_mem hne)
  rw [cutOff, List.getLast?_eq_some_getLast hne, Option.any_some]
  exact bne_iff_ne.mpr hlast

/-- There are as many lines as newlines, and one more if the last line has none. -/
theorem length_cutLines (bytes : List UInt8) :
    (cutLines bytes).length = bytes.count newline + (cutOff bytes).toNat := by
  induction bytes using pieces_induction with
  | nil => rfl
  | @line bytes piece ending behind hfirst ih =>
      have hnone : piece.count newline = 0 := List.count_eq_zero.mpr hfirst.free
      rw [hfirst.cutLines_eq, List.length_cons, ih, hfirst.bytes_eq, List.count_append,
        List.count_append, hnone]
      rcases hfirst.ends with rfl | ⟨rfl, rfl, hne⟩
      · rw [cutOff_newline, List.count_singleton_self]
        omega
      · rw [List.append_nil, List.append_nil, cutOff_of_free hfirst.free hne]
        rfl

theorem cutLines_eq_nil {bytes : List UInt8} (h : cutLines bytes = []) : bytes = [] := by
  rw [← flatten_cutLines bytes, h]
  rfl

end Text

namespace Inbox

theorem isLine_arrived (line : List UInt8) :
    (arrived line).isLine = (Utf8.decode? line).isSome := by
  rw [arrived]
  cases Utf8.decode? line <;> rfl

/-- Of bytes behind which the server has hung up, the lines arrive one after the other. -/
theorem receive_cutLines {bytes line : List UInt8} {lines : List (List UInt8)}
    (h : cutLines bytes = line :: lines) :
    ∃ behind, receive ⟨bytes, .closed⟩ = (arrived line, ⟨behind, .closed⟩) ∧
    cutLines behind = lines := by
  obtain ⟨piece, ending, behind, hfirst, rfl, rfl⟩ := exists_firstPiece_of_cutLines h
  refine ⟨behind, ?_, rfl⟩
  rcases hfirst.ends with rfl | ⟨rfl, rfl, hne⟩
  · rw [receive, hfirst.bytes_eq, firstLine?_newline hfirst.free]
  · have hbytes : bytes = piece := by
      rw [hfirst.bytes_eq, List.append_nil, List.append_nil]
    have hfull : piece.isEmpty = false := List.isEmpty_eq_false_iff.mpr hne
    rw [hbytes, receive, firstLine?_eq_none hfirst.free, List.append_nil]
    dsimp only
    rw [hfull]
    rfl

end Inbox

namespace Recorded

/-- How many of the arrivals since then a client has taken for replies. -/
def accepted {σ : Type} (before after : Recorded σ) : Nat :=
  (after.arrivals.drop before.arrivals.length).countP Arrival.isLine

theorem receive_scripted (recorded : Recorded ScriptedLink) :
    Link.receive recorded = ((Inbox.receive recorded.link.inbox).1,
      { recorded with
        link := { recorded.link with inbox := (Inbox.receive recorded.link.inbox).2 }
        arrivals := recorded.arrivals ++ [(Inbox.receive recorded.link.inbox).1] }) := rfl

/-- Some lines have been taken off a link. Only behind the last line it has been found closed. -/
structure Drawn (lines : List (List UInt8)) (closings : Nat)
    (before after : Recorded ScriptedLink) :
    Prop where
  ending : after.link.inbox.ending = .closed
  cut : cutLines before.link.inbox.bytes = lines ++ cutLines after.link.inbox.bytes
  arrivals : after.arrivals =
    before.arrivals ++ (lines.map Inbox.arrived ++ List.replicate closings .closed)
  last : closings ≠ 0 → after.link.inbox.bytes = []

section Drawn

variable {before after : Recorded ScriptedLink}

theorem Drawn.receive {lines : List (List UInt8)} {closings : Nat}
    (h : Drawn lines closings before after) :
    ∃ lines closings, Drawn lines closings before (Link.receive after).2 := by
  have hinbox : after.link.inbox = ⟨after.link.inbox.bytes, .closed⟩ := by
    rw [← h.ending]
  rw [receive_scripted]
  cases hlines : cutLines after.link.inbox.bytes with
  | nil =>
      have hempty := cutLines_eq_nil hlines
      rw [hempty] at hinbox
      refine ⟨lines, closings + 1, ?_, ?_, ?_, fun _ => ?_⟩
      all_goals dsimp only
      · rw [hinbox]
        rfl
      · rw [hinbox, h.cut, hempty]
        rfl
      · rw [h.arrivals, hinbox, List.replicate_succ', ← List.append_assoc, ← List.append_assoc,
          ← List.append_assoc]
        rfl
      · rw [hinbox]
        rfl
  | cons line more =>
      obtain ⟨behind, hline, hmore⟩ := Inbox.receive_cutLines hlines
      rw [← hinbox] at hline
      have hopen : closings = 0 := by
        by_contra hclosed
        rw [h.last hclosed] at hlines
        cases hlines
      refine ⟨lines ++ [line], 0, ?_, ?_, ?_, fun hclosed => absurd rfl hclosed⟩
      all_goals dsimp only
      · rw [hline]
      · rw [hline, h.cut, hlines, hmore, List.append_assoc]
        rfl
      · rw [h.arrivals, hline, hopen, List.map_append, List.replicate_zero, List.append_nil,
          List.append_nil, List.append_assoc]
        rfl

/-- Whatever is sent over a link and however often one waits for a line, lines are taken off it one
after the other. -/
theorem exists_drawn (hclosed : before.link.inbox.ending = .closed) (h : before.Leads after) :
    ∃ lines closings, Drawn lines closings before after := by
  induction h with
  | rests =>
      refine ⟨[], 0, hclosed, rfl, ?_, fun hclosed => absurd rfl hclosed⟩
      exact (List.append_nil _).symm
  | sends h text ih =>
      obtain ⟨lines, closings, hdrawn⟩ := ih
      exact ⟨lines, closings, hdrawn.ending, hdrawn.cut, hdrawn.arrivals, hdrawn.last⟩
  | receives h ih =>
      obtain ⟨lines, closings, hdrawn⟩ := ih
      exact hdrawn.receive

variable {lines : List (List UInt8)} {closings : Nat} (h : Drawn lines closings before after)

include h

theorem Drawn.accepted_eq :
    accepted before after = lines.countP fun line => (Utf8.decode? line).isSome := by
  have hclosings : (List.replicate closings Arrival.closed).countP Arrival.isLine = 0 := by
    rw [List.countP_replicate]
    rfl
  rw [accepted, h.arrivals, List.drop_left, List.countP_append, hclosings, Nat.add_zero,
    List.countP_map]
  exact List.countP_congr fun line _ => by rw [Function.comp_apply, Inbox.isLine_arrived]

theorem Drawn.accepted_le : accepted before after ≤ lines.length := by
  rw [h.accepted_eq]
  exact List.countP_le_length

theorem Drawn.length_le : lines.length ≤
    before.link.inbox.bytes.count newline + (cutOff before.link.inbox.bytes).toNat := by
  rw [← length_cutLines, h.cut, List.length_append]
  exact Nat.le_add_right _ _

/-- More replies are accepted than there are whole lines exactly if the last line is a part of one,
all lines have been taken and all of them are text. -/
theorem Drawn.lt_accepted_iff :
    before.link.inbox.bytes.count newline < accepted before after ↔
      cutOff before.link.inbox.bytes = true ∧ after.link.inbox.bytes = [] ∧
        ∀ line ∈ cutLines before.link.inbox.bytes, (Utf8.decode? line).isSome = true := by
  have htotal := length_cutLines before.link.inbox.bytes
  rw [h.cut, List.length_append] at htotal
  constructor
  · intro hmore
    have haccepted := h.accepted_le
    have hcut : cutOff before.link.inbox.bytes = true := by
      by_contra hwhole
      rw [Bool.not_eq_true] at hwhole
      rw [hwhole, Bool.toNat_false] at htotal
      omega
    rw [hcut, Bool.toNat_true] at htotal
    have hunread : cutLines after.link.inbox.bytes = [] := List.length_eq_zero_iff.mp (by omega)
    have hall : accepted before after = lines.length := by omega
    rw [h.accepted_eq, List.countP_eq_length] at hall
    refine ⟨hcut, cutLines_eq_nil hunread, ?_⟩
    rw [h.cut, hunread, List.append_nil]
    exact hall
  · rintro ⟨hcut, hempty, hall⟩
    have hunread : cutLines after.link.inbox.bytes = [] := by
      rw [hempty]
      rfl
    rw [h.cut, hunread, List.append_nil] at hall
    rw [hcut, hunread, Bool.toNat_true, List.length_nil] at htotal
    rw [h.accepted_eq, List.countP_eq_length.mpr hall]
    omega

end Drawn

end Recorded

namespace Client

variable {σ α : Type}

/-- A call fails because its link is closed exactly if it has come upon that. -/
theorem Concluded.error_closed_iff {patience : Nat} {arrivals : List Arrival}
    {answer : Except ClientError α} (h : Concluded patience arrivals answer) :
    answer = .error .closed ↔ .closed ∈ arrivals := by
  have hnone {lines : List Arrival} (hlines : ∀ arrival ∈ lines, arrival.isLine = true) :
      .closed ∉ lines := fun hmem => nomatch hlines .closed hmem
  cases h with
  | answered hlines hanswer =>
      exact iff_of_false (fun hclosed => nomatch hanswer .closed hclosed) (hnone hlines)
  | @failed lines last fault hlines hfault =>
      have hlast : .closed ∈ lines ++ [last] ↔ last = .closed := by
        rw [List.mem_append, List.mem_singleton, eq_comm]
        exact or_iff_right (hnone hlines)
      rw [hlast]
      cases last <;> cases hfault <;> simp

section OfLink

variable [Link σ] {peer : String} {link : σ}

/-- A client takes a line off its link, and that is the greeting. -/
theorem ofLink_of_line {line : String}
    (h : lineOf defaultPatience (Link.receive link).1 = .ok line) :
    ofLink peer link = (Greeting.read? line).elim (.error (.notServer peer line)) fun version =>
      .ok ⟨(Link.receive link).2, version, defaultPatience, false, []⟩ := by
  have hread := run_readLine (⟨link, .zero, defaultPatience, false, []⟩ : Client σ)
  dsimp only at hread
  rw [h] at hread
  rw [ofLink, greeted, run_bind_ok hread]
  cases Greeting.read? line <;> rfl

theorem eq_of_ofLink {start : Client σ} (h : ofLink peer link = .ok start) :
    start.link = (Link.receive link).2 ∧ (Link.receive link).1.isLine = true := by
  cases hline : lineOf defaultPatience (Link.receive link).1 with
  | error fault =>
      have hread := run_readLine (⟨link, .zero, defaultPatience, false, []⟩ : Client σ)
      dsimp only at hread
      rw [hline] at hread
      rw [ofLink, greeted, run_bind_error hread] at h
      cases h
  | ok line =>
      rw [ofLink_of_line hline] at h
      cases hversion : Greeting.read? line with
      | none =>
          rw [hversion] at h
          cases h
      | some version =>
          rw [hversion] at h
          cases h
          exact ⟨rfl, isLine_of_lineOf hline⟩

end OfLink

section Exhausted

variable [Link σ] {client : Client σ}
  (hclosed : ∀ text, (Link.receive (Link.send text client.link)).1 = .closed)

include hclosed

theorem command_closed (line : String) :
    (run (command line : Call σ Unit) client).1 = .error .closed := by
  rw [run_command]
  dsimp only
  rw [hclosed]
  rfl

theorem sayAll_closed {lines : List String} (h : lines ≠ []) :
    (run (sayAll lines : Call σ Unit) client).1 = .error .closed := by
  obtain ⟨line, more, rfl⟩ := List.exists_cons_of_ne_nil h
  have hline := command_closed hclosed line
  generalize hrun : run (command line : Call σ Unit) client = outcome at hline
  obtain ⟨answer, after⟩ := outcome
  dsimp only at hline
  rw [hline] at hrun
  exact congrArg Prod.fst (run_bind_error hrun fun _ => sayAll more)

theorem sayTogether_closed {lines : List String} (h : lines ≠ []) :
    (run (sayTogether lines : Call σ Unit) client).1 = .error .closed := by
  obtain ⟨line, more, rfl⟩ := List.exists_cons_of_ne_nil h
  have hreply :=
    run_readReply { client with link := Link.send (Connection.wireText (line :: more)) client.link }
  dsimp only at hreply
  rw [hclosed] at hreply
  rw [sayTogether, run_bind_ok (run_transmit _ client), List.length_cons, readReplies,
    run_bind_error (run_bind_error hreply _)]

end Exhausted

end Client

namespace ClientCall

open Client

variable {σ : Type} [Link σ]

/-- Once its link is closed, a call that waits for a reply fails. -/
theorem make_closed {call : ClientCall} {client : Client σ}
    (hclosed : ∀ text, (Link.receive (Link.send text client.link)).1 = .closed)
    (hrequests : call.requests client ≠ 0) : (run call.make client).1 = .error .closed := by
  have hconduct := conduct_make call client
  generalize run call.make client = outcome at hconduct
  cases hconduct with
  | waits | caches => exact absurd rfl hrequests
  | rejects hkind =>
      obtain ⟨hlines, hdata, hupdate⟩ := unknownKind?_eq_some hkind
      rw [requests_of_ne client hupdate, hdata, hlines] at hrequests
      exact absurd rfl hrequests
  | keepsBack hdata hcaching =>
      rw [requests_of_ne client (ne_update_of_isData hdata), hdata, hcaching] at hrequests
      exact absurd rfl hrequests
  | speaks hspeaks _ hready =>
      rw [requests_of_ne client (ne_update_of_speaks hspeaks), hready] at hrequests
      exact sayAll_closed hclosed fun hlines => hrequests (by rw [hlines]; rfl)
  | idles hcache =>
      rw [requests, hcache] at hrequests
      exact absurd rfl hrequests
  | flushes hcache => exact @sayTogether_closed σ _ { client with cache := [] } hclosed _ hcache

end ClientCall

namespace Client

/-- A server sends any bytes and hangs up, be it within a line. What a client takes is the lines of
these bytes, one after the other, the greeting first, and behind the last of them nothing but that
the server has hung up. The replies that it accepts are no more than the newlines behind the
greeting, and one more if there is a part of a line behind the last newline. There is one more
exactly if there is such a part, it has been read and all of these lines are text. A call that
succeeds has accepted every reply that it waits for. One fails because the server has hung up
exactly if it comes upon that, and once all lines are read, so does every call that waits for a
reply. -/
theorem replies_accepted (peer : String) (bytes : List UInt8)
    (start : Client (Recorded ScriptedLink))
    (hstart : ofLink peer { link := { inbox := ⟨bytes, .closed⟩ } } = .ok start)
    (calls : List ClientCall) (call : ClientCall) :
    let client := afterCalls calls start
    let behind := start.link.link.inbox.bytes
    let unread := client.link.link.inbox.bytes
    let accepted := start.link.accepted client.link
    (∃ greeting, cutLines bytes = greeting :: cutLines behind ∧
      start.link.arrivals = [Inbox.arrived greeting]) ∧
    (∃ lines closings, cutLines behind = lines ++ cutLines unread ∧ (closings ≠ 0 → unread = []) ∧
      client.link.arrivals =
        start.link.arrivals ++ (lines.map Inbox.arrived ++ List.replicate closings .closed)) ∧
    accepted ≤ behind.count newline + (cutOff behind).toNat ∧
    (behind.count newline < accepted ↔ cutOff behind = true ∧ unread = [] ∧
      ∀ line ∈ cutLines behind, (Utf8.decode? line).isSome = true) ∧
    (∃ arrivals, (run call.make client).2.link.arrivals = client.link.arrivals ++ arrivals ∧
      ((run call.make client).1 = .ok () →
        arrivals.length = call.requests client ∧ ∀ arrival ∈ arrivals, arrival.isLine = true) ∧
      ((run call.make client).1 = .error .closed ↔ .closed ∈ arrivals)) ∧
    (unread = [] → call.requests client ≠ 0 → (run call.make client).1 = .error .closed) := by
  intro client behind unread accepted
  obtain ⟨hlink, hline⟩ := eq_of_ofLink hstart
  rw [Recorded.receive_scripted] at hlink hline
  dsimp only at hlink hline
  cases hcut : cutLines bytes with
  | nil =>
      rw [cutLines_eq_nil hcut] at hline
      cases hline
  | cons greeting lines =>
      obtain ⟨rest, hgreeting, hlines⟩ := Inbox.receive_cutLines hcut
      rw [hgreeting] at hlink
      dsimp only at hlink
      rw [List.nil_append] at hlink
      have hclosed : start.link.link.inbox.ending = .closed := by rw [hlink]
      have hbehind : cutLines behind = lines := by
        rw [← hlines]
        exact congrArg (fun link => cutLines link.link.inbox.bytes) hlink
      obtain ⟨taken, closings, hdrawn⟩ :=
        Recorded.exists_drawn hclosed (leads_afterCalls calls start)
      obtain ⟨-, arrivals, harrivals, hconcluded⟩ := ClientCall.attends_make call client
      refine ⟨⟨greeting, by rw [hbehind], by rw [hlink]⟩,
        ⟨taken, closings, hdrawn.cut, hdrawn.last, hdrawn.arrivals⟩,
        Nat.le_trans hdrawn.accepted_le hdrawn.length_le, hdrawn.lt_accepted_iff,
        ⟨arrivals, harrivals, fun hok => ?_, hconcluded.error_closed_iff⟩,
          fun hunread hrequests => ?_⟩
      · have hlength := ClientCall.arrivals_of_ok (Prod.ext hok rfl)
        rw [harrivals, List.length_append] at hlength
        rw [hok] at hconcluded
        exact ⟨Nat.add_left_cancel hlength, hconcluded.lines⟩
      · refine ClientCall.make_closed (fun text => ?_) hrequests
        have hinbox : client.link.link.inbox = ⟨[], .closed⟩ := by
          rw [← hunread, ← hdrawn.ending]
        change (Inbox.receive client.link.link.inbox).1 = .closed
        rw [hinbox]
        rfl

/-- A client that has read the greeting of a server which then sends a text and hangs up. -/
def greetedBefore (text : String) : Client (Recorded ScriptedLink) where
  link :=
    { link := { inbox := ⟨Utf8.encode text.toList, .closed⟩ }
      arrivals := [.line (Connection.wireLine Greeting.line)] }
  version := (Greeting.read? Greeting.line).getD .zero
  patience := defaultPatience

theorem ofLink_greetedBefore (peer text : String) :
    let bytes := Utf8.encode (Connection.wireLine Greeting.line ++ text).toList
    ofLink peer ({ link := { inbox := ⟨bytes, .closed⟩ } } : Recorded ScriptedLink) =
      .ok (greetedBefore text) := by
  intro bytes
  have hfree : newline ∉ Utf8.encode Greeting.line.toList := by decide +kernel
  have hbytes : bytes =
      Utf8.encode Greeting.line.toList ++ [newline] ++ Utf8.encode text.toList := by
    rw [show bytes = Utf8.encode _ from rfl, String.toList_append, Utf8.encode_append,
      Connection.encode_wireLine]
  have hinbox : Inbox.receive ⟨bytes, .closed⟩ =
      (.line (Connection.wireLine Greeting.line), ⟨Utf8.encode text.toList, .closed⟩) := by
    rw [hbytes, Inbox.receive, firstLine?_newline hfree, ← Connection.encode_wireLine]
    dsimp only
    rw [Inbox.arrived_encode]
  have hreceive :
      Link.receive ({ link := { inbox := ⟨bytes, .closed⟩ } } : Recorded ScriptedLink) =
        (.line (Connection.wireLine Greeting.line), (greetedBefore text).link) := by
    rw [Recorded.receive_scripted]
    dsimp only
    rw [hinbox]
    rfl
  have hline : lineOf defaultPatience (.line (Connection.wireLine Greeting.line)) =
      .ok Greeting.line :=
    congrArg Except.ok (by decide +kernel)
  obtain ⟨version, hversion⟩ : ∃ version, Greeting.read? Greeting.line = some version :=
    Option.isSome_iff_exists.mp (by decide +kernel)
  rw [ofLink_of_line (by rw [hreceive]; exact hline), hreceive, greetedBefore, hversion]
  rfl

/-- A reply and a part of another, which are both accepted, and then nothing. -/
theorem replies_accepted_cut_off :
    let bytes := Utf8.encode (Connection.wireLine Greeting.line ++ "OK\nERROR: n").toList
    let start := greetedBefore "OK\nERROR: n"
    let client := afterCalls [.init, .clear 0] start
    ofLink "" ({ link := { inbox := ⟨bytes, .closed⟩ } } : Recorded ScriptedLink) = .ok start ∧
      start.link.link.inbox.bytes.count newline = 1 ∧ start.link.accepted client.link = 2 ∧
      (run (ClientCall.replot 0).make client).1 = .error .closed := by
  intro bytes start client
  have hstart := ofLink_greetedBefore "" "OK\nERROR: n"
  have hcount : start.link.link.inbox.bytes.count newline = 1 := by decide +kernel
  have hcut : cutOff start.link.link.inbox.bytes = true := by decide +kernel
  have hunread : client.link.link.inbox.bytes = [] := by decide +kernel
  have hall : ∀ line ∈ cutLines start.link.link.inbox.bytes, (Utf8.decode? line).isSome = true := by
    decide +kernel
  obtain ⟨-, -, hatMost, hmore, -, hexhausted⟩ :=
    replies_accepted "" bytes start hstart [.init, .clear 0] (.replot 0)
  have hover := hmore.mpr ⟨hcut, hunread, hall⟩
  rw [hcount, hcut] at hatMost
  rw [hcount] at hover
  exact ⟨hstart, hcount, Nat.le_antisymm hatMost hover, hexhausted hunread (by decide)⟩

/-- A part of a reply is accepted although no reply has arrived as a whole line, and although it is
the beginning of an error the call succeeds. -/
theorem part_of_reply_accepted :
    let start := greetedBefore "ERROR"
    let outcome := run ClientCall.init.make start
    start.link.link.inbox.bytes.count newline = 0 ∧ outcome.1 = .ok () ∧
      start.link.accepted outcome.2.link = 1 := by
  decide +kernel

end Client

end ChartBoard
