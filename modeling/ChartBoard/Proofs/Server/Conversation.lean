import ChartBoard.Client.Link
import ChartBoard.Proofs.Protocol.ReplyLines
import ChartBoard.Proofs.Server.Replies

/-!
Lines out, replies back. Whole lines that are sent to a server are heard by its session one
after the other, as they were written, and its replies arrive one for each, as they were
given. So over a link to a server that waits for more, a client that has taken as many
lines as it has sent finds nothing left.
-/

namespace ChartBoard

open Text

namespace Utf8

theorem newline_not_mem_utf8EncodeChar {c : Char} (h : c ≠ '\n') :
    newline ∉ String.utf8EncodeChar c := by
  obtain ⟨n, hn⟩ : ∃ n, n = c.val.toNat := ⟨_, rfl⟩
  have hcode : n ≠ 10 := by
    intro heq
    refine h (Char.toNat_inj.mp ?_)
    exact (hn.symm.trans heq : c.val.toNat = 10)
  have hbyte {m : Nat} (hlow : 10 < m) (hhigh : m < 256) : newline ≠ UInt8.ofNat m := by
    intro heq
    have hten : (10 : Nat) = (UInt8.ofNat m).toNat := congrArg UInt8.toNat heq
    rw [toNat_byte hhigh] at hten
    omega
  unfold String.utf8EncodeChar
  rw [← hn]
  dsimp only
  split
  · intro hmem
    have heq := congrArg UInt8.toNat (List.mem_singleton.mp hmem)
    have hten : (10 : Nat) = (UInt8.ofNat n).toNat := heq
    rw [toNat_byte (by omega)] at hten
    omega
  split
  · simp only [List.mem_cons, List.not_mem_nil, or_false, not_or]
    exact ⟨hbyte (by omega) (by omega), hbyte (by omega) (by omega)⟩
  split
  · simp only [List.mem_cons, List.not_mem_nil, or_false, not_or]
    exact ⟨hbyte (by omega) (by omega), hbyte (by omega) (by omega), hbyte (by omega) (by omega)⟩
  · simp only [List.mem_cons, List.not_mem_nil, or_false, not_or]
    exact ⟨hbyte (by omega) (by omega), hbyte (by omega) (by omega), hbyte (by omega) (by omega),
      hbyte (by omega) (by omega)⟩

/-- Only an end of line has the byte of a newline. -/
theorem newline_not_mem_encode {text : List Char} (h : OneLine text) : newline ∉ encode text := by
  intro hmem
  obtain ⟨c, hc, hbyte⟩ := List.mem_flatMap.mp hmem
  exact newline_not_mem_utf8EncodeChar (fun heq => h (heq ▸ hc)) hbyte

theorem encode_append (text later : List Char) :
    encode (text ++ later) = encode text ++ encode later :=
  List.flatMap_append

end Utf8

namespace Connection

/-- Lines as they go over the wire, one after the other. -/
def wireText (lines : List String) : String := String.join (lines.map wireLine)

theorem encode_wireLine (line : String) :
    Utf8.encode (wireLine line).toList = Utf8.encode line.toList ++ [newline] := by
  rw [wireLine, String.toList_append, Utf8.encode_append]
  rfl

theorem encode_wireText_cons (line : String) (lines : List String) :
    Utf8.encode (wireText (line :: lines)).toList =
      Utf8.encode line.toList ++ [newline] ++ Utf8.encode (wireText lines).toList := by
  have hcons : wireText (line :: lines) = wireLine line ++ wireText lines := String.join_cons
  rw [hcons, String.toList_append, Utf8.encode_append, encode_wireLine]

theorem firstPiece_wireText {line : String} (h : OneLine line.toList) (lines : List String) :
    FirstPiece (Utf8.encode (wireText (line :: lines)).toList) (Utf8.encode line.toList) [newline]
      (Utf8.encode (wireText lines).toList) :=
  ⟨encode_wireText_cons line lines, Utf8.newline_not_mem_encode h, .inl rfl⟩

theorem pieces_wireText {lines : List String} (h : ∀ line ∈ lines, OneLine line.toList) :
    pieces (Utf8.encode (wireText lines).toList) =
      lines.map fun line => Utf8.encode line.toList := by
  induction lines with
  | nil => rfl
  | cons line lines ih =>
      rw [(firstPiece_wireText (h line List.mem_cons_self) lines).pieces_eq,
        ih fun later hlater => h later (List.mem_cons_of_mem line hlater)]
      rfl

/-- A line within the limit of a server. If the limit is the largest word there is, the line
still has to be countable with its newline. -/
structure Fits (limit : Nat) (line : String) : Prop where
  within : (Utf8.encode line.toList).length ≤ limit
  countable : limit + 1 < word64 ∨ (Utf8.encode line.toList).length + 1 < word64

/-- A single line that a server takes. -/
structure Sendable (limit : Nat) (line : String) : Prop extends Fits limit line where
  oneLine : OneLine line.toList

/-- Hear lines one after the other, each under its clock. -/
def hearAll (clocks : Nat → Clock) : Nat → List String → Session → Board → Exchange
  | _, [], session, board => ⟨[], session, board, []⟩
  | number, line :: lines, session, board =>
      let response := session.respond (clocks number) line board
      let later := hearAll clocks (number + 1) lines response.session response.board
      { later with
        replies := response.reply :: later.replies
        events := response.events ++ later.events }

theorem lineText_encode (line : String) : lineText (Utf8.encode line.toList) = line := by
  rw [lineText, Utf8.decodeLossy_encode, String.ofList_toList]

theorem answerAll_eq_hearAll {limit : Nat} (clocks : Nat → Clock) {lines : List String}
    (h : ∀ line ∈ lines, Sendable limit line) (number : Nat) (session : Session) (board : Board) :
    answerAll limit (clocked clocks number (lines.map fun line => Utf8.encode line.toList)) session
      board = hearAll clocks number lines session board := by
  induction lines generalizing number session board with
  | nil => rfl
  | cons line lines ih =>
      have hlength := Nat.not_lt.mpr (h line List.mem_cons_self).within
      rw [List.map_cons, clocked_cons, answerAll, if_neg hlength, lineText_encode, hearAll]
      dsimp only
      rw [ih fun later hlater => h later (List.mem_cons_of_mem line hlater)]

/-- A server hears the lines that are sent to it just as they were written. -/
theorem serve_wireText {limit : Nat} (clocks : Nat → Clock) {lines : List String}
    (h : ∀ line ∈ lines, Sendable limit line) (number : Nat) (session : Session) (board : Board) :
    serve limit clocks number [Utf8.encode (wireText lines).toList] session board =
      hearAll clocks number lines session board := by
  have hpieces := pieces_wireText fun line hline => (h line hline).oneLine
  have hbytes : Chunks.bytes [Utf8.encode (wireText lines).toList] =
      Utf8.encode (wireText lines).toList := List.append_nil _
  have hcount :
      LineReader.Countable limit (Chunks.bytes [Utf8.encode (wireText lines).toList]) := by
    by_cases hsmall : limit + 1 < word64
    · exact .inl hsmall
    · refine .inr fun piece hpiece => ?_
      rw [hbytes, hpieces] at hpiece
      obtain ⟨line, hline, rfl⟩ := List.mem_map.mp hpiece
      exact (h line hline).countable.resolve_left hsmall
  rw [serve_eq_answerAll clocks hcount, hbytes, hpieces, answerAll_eq_hearAll clocks h]

section HearAll

variable (clocks : Nat → Clock) (number : Nat) (lines later : List String) (session : Session)
  (board : Board)

theorem length_hearAll :
    (hearAll clocks number lines session board).replies.length = lines.length := by
  induction lines generalizing number session board with
  | nil => rfl
  | cons line lines ih =>
      rw [hearAll, List.length_cons]
      exact congrArg (· + 1) (ih _ _ _)

/-- Lines behind others are heard from where those have led to. -/
theorem hearAll_append :
    hearAll clocks number (lines ++ later) session board =
      let first := hearAll clocks number lines session board
      let second := hearAll clocks (number + lines.length) later first.session first.board
      { second with
        replies := first.replies ++ second.replies
        events := first.events ++ second.events } := by
  induction lines generalizing number session board with
  | nil => rfl
  | cons line lines ih =>
      have hnumber : number + (line :: lines).length = number + 1 + lines.length := by
        rw [List.length_cons]
        omega
      rw [List.cons_append, hearAll, ih, hnumber]
      simp only [hearAll, List.cons_append, List.append_assoc]

/-- A reply that a client can read from the line that carries it. -/
structure Readable (reply : Reply) : Prop where
  visible : reply.Visible
  oneLine : OneLine reply.line.toList

theorem readable_respond {line : String} (h : OneLine line.toList) (clock : Clock) :
    Readable (session.respond clock line board).reply := by
  refine ⟨?_, Session.oneLine_respond h clock session board⟩
  unfold Session.respond
  dsimp only
  cases (session.process clock (Session.withoutLineEnd line) board).result with
  | ok _ => trivial
  | error refusal => exact refusal.endsVisibly_message

variable {lines}

theorem readable_hearAll (h : ∀ line ∈ lines, OneLine line.toList) :
    ∀ reply ∈ (hearAll clocks number lines session board).replies, Readable reply := by
  induction lines generalizing number session board with
  | nil =>
      intro reply hreply
      cases hreply
  | cons line lines ih =>
      rw [hearAll]
      exact List.forall_mem_cons.mpr
        ⟨readable_respond session board (h line List.mem_cons_self) (clocks number),
          ih _ _ _ fun later hlater => h later (List.mem_cons_of_mem line hlater)⟩

end HearAll

/-- The lines up to the first that is refused, and that one. -/
def untilRefused (clocks : Nat → Clock) : Nat → List String → Session → Board → List String
  | _, [], _, _ => []
  | number, line :: lines, session, board =>
      let response := session.respond (clocks number) line board
      if response.reply.isOk then
        line :: untilRefused clocks (number + 1) lines response.session response.board
      else
        [line]

/-- Either all the lines are heard and accepted, or the first that is refused is the last that
is heard. -/
theorem untilRefused_stops (clocks : Nat → Clock) (number : Nat) (lines : List String)
    (session : Session) (board : Board) :
    let spoken := untilRefused clocks number lines session board
    let replies := (hearAll clocks number spoken session board).replies
    spoken <+: lines ∧
      (spoken = lines ∧ (∀ reply ∈ replies, reply = .ok) ∨
        ∃ accepted message, replies = accepted ++ [.error message] ∧
          ∀ reply ∈ accepted, reply = .ok) := by
  induction lines generalizing number session board with
  | nil => exact ⟨List.prefix_refl [], .inl ⟨rfl, fun reply hreply => (nomatch hreply)⟩⟩
  | cons line lines ih =>
      dsimp only at ih ⊢
      rw [untilRefused]
      cases hreply : (session.respond (clocks number) line board).reply with
      | ok =>
          obtain ⟨hopening, hends⟩ := ih (number + 1)
            (session.respond (clocks number) line board).session
            (session.respond (clocks number) line board).board
          rw [if_pos (show Reply.ok.isOk = true from rfl), hearAll]
          dsimp only
          rw [hreply]
          refine ⟨List.cons_prefix_cons.mpr ⟨rfl, hopening⟩, ?_⟩
          rcases hends with ⟨hall, haccepted⟩ | ⟨accepted, message, hreplies, haccepted⟩
          · exact .inl ⟨congrArg (line :: ·) hall, List.forall_mem_cons.mpr ⟨rfl, haccepted⟩⟩
          · exact .inr ⟨.ok :: accepted, message, congrArg (Reply.ok :: ·) hreplies,
              List.forall_mem_cons.mpr ⟨rfl, haccepted⟩⟩
      | error message =>
          rw [if_neg (show ¬(Reply.error message).isOk = true from Bool.false_ne_true),
            hearAll, hearAll]
          dsimp only
          rw [hreply]
          exact ⟨List.cons_prefix_cons.mpr ⟨rfl, List.nil_prefix⟩,
            .inr ⟨[], message, rfl, fun reply hmem => (nomatch hmem)⟩⟩

/-- Lines that are all accepted are all said. -/
theorem untilRefused_of_accepted {clocks : Nat → Clock} {number : Nat} {lines : List String}
    {session : Session} {board : Board}
    (h : ∀ reply ∈ (hearAll clocks number lines session board).replies, reply = .ok) :
    untilRefused clocks number lines session board = lines := by
  induction lines generalizing number session board with
  | nil => rfl
  | cons line lines ih =>
      rw [hearAll] at h
      obtain ⟨hfirst, hlater⟩ := List.forall_mem_cons.mp h
      rw [untilRefused, hfirst, if_pos (show Reply.ok.isOk = true from rfl), ih hlater]

end Connection

namespace Inbox

theorem arrived_encode (text : String) : arrived (Utf8.encode text.toList) = .line text := by
  rw [arrived, Utf8.decode?_encode]
  exact congrArg Arrival.line String.ofList_toList

/-- The first of the replies on their way arrives first, and the others stay. -/
theorem receive_replyBytes {reply : Reply} (h : OneLine reply.line.toList) (replies : List Reply)
    (ending : LinkEnd) :
    receive ⟨ServedLink.replyBytes (reply :: replies), ending⟩ =
      (.line (Connection.wireLine reply.line), ⟨ServedLink.replyBytes replies, ending⟩) := by
  have hbytes (replies : List Reply) : ServedLink.replyBytes replies =
      Utf8.encode (Connection.wireText (replies.map Reply.line)).toList := by
    unfold ServedLink.replyBytes Connection.wireText
    rw [List.map_map]
    rfl
  have hfirst : firstLine? (ServedLink.replyBytes (reply :: replies)) =
      some (Utf8.encode (Connection.wireLine reply.line).toList,
        ServedLink.replyBytes replies) := by
    rw [hbytes, hbytes, List.map_cons, Connection.encode_wireText_cons,
      firstLine?_newline (Utf8.newline_not_mem_encode h), Connection.encode_wireLine]
  unfold receive
  dsimp only
  rw [hfirst]
  dsimp only
  rw [arrived_encode]

end Inbox

end ChartBoard
