import ChartBoard.Proofs.Server.Framing
import ChartBoard.Proofs.Session.Likeness
import ChartBoard.Proofs.Session.OneLineReplies
import ChartBoard.Proofs.Text.LossyLines
import ChartBoard.Server.Connection

/-!
One reply for each line of a client. What a server makes of the chunks of a connection is
what it makes of the lines of their bytes, one after the other (`serve_eq_answerAll`): a
line beyond the limit is told so and has no other effect, and every other line goes to the
session. No reply has an end of line in it, so the client can tell them apart.
-/

namespace ChartBoard

open Text

namespace Connection

/-- Answer lines one after the other, each under its clock. -/
def answerAll (limit : Nat) : List (Clock × List UInt8) → Session → Board → Exchange
  | [], session, board => ⟨[], session, board, []⟩
  | (clock, piece) :: lines, session, board =>
      if limit < piece.length then
        let later := answerAll limit lines session board
        { later with replies := tooLong limit :: later.replies }
      else
        let response := session.respond clock (lineText piece) board
        let later := answerAll limit lines response.session response.board
        { later with
          replies := response.reply :: later.replies
          events := response.events ++ later.events }

/-- Lines with their clocks, which are told by their numbers. -/
def clocked (clocks : Nat → Clock) (number : Nat) (lines : List (List UInt8)) :
    List (Clock × List UInt8) :=
  (lines.zipIdx number).map fun (piece, number) => (clocks number, piece)

theorem clocked_cons (clocks : Nat → Clock) (number : Nat) (piece : List UInt8)
    (lines : List (List UInt8)) :
    clocked clocks number (piece :: lines) =
      (clocks number, piece) :: clocked clocks (number + 1) lines := rfl

theorem pieces_clocked (clocks : Nat → Clock) (number : Nat) (lines : List (List UInt8)) :
    (clocked clocks number lines).map Prod.snd = lines := by
  induction lines generalizing number with
  | nil => rfl
  | cons piece lines ih => rw [clocked_cons, List.map_cons, ih]

/-- The ending of a line is no part of what its session hears. -/
theorem withoutLineEnd_lineText {piece ending : List UInt8}
    (h : ending = [newline] ∨ ending = []) :
    Session.withoutLineEnd (lineText (piece ++ ending)) =
      Session.withoutLineEnd (lineText piece) := by
  rcases h with rfl | rfl
  · unfold lineText Session.withoutLineEnd
    rw [Utf8.decodeLossy_append_newline]
    simp
  · rw [List.append_nil]

theorem respond_lineText (clock : Clock) (session : Session) (board : Board)
    {piece ending : List UInt8} (h : ending = [newline] ∨ ending = []) :
    session.respond clock (lineText (piece ++ ending)) board =
      session.respond clock (lineText piece) board := by
  unfold Session.respond
  rw [withoutLineEnd_lineText h]

/-- However its bytes are cut into chunks, a stream is answered line by line. -/
theorem serve_eq_answerAll {limit : Nat} (clocks : Nat → Clock) {chunks : Chunks}
    (hcount : LineReader.Countable limit chunks.bytes) (number : Nat) (session : Session)
    (board : Board) :
    serve limit clocks number chunks session board =
      answerAll limit (clocked clocks number (pieces chunks.bytes)) session board := by
  obtain ⟨bytes, hbytes⟩ : ∃ bytes, bytes = chunks.bytes := ⟨_, rfl⟩
  rw [← hbytes] at hcount ⊢
  induction bytes using pieces_induction generalizing chunks number session board with
  | nil =>
      rw [serve, dif_pos (LineReader.read_nil hbytes.symm)]
      rfl
  | line hfirst ih =>
      rename_i bytes piece ending behind
      have hlines := hfirst.pieces_eq
      obtain ⟨hpiece, hbehind⟩ := hcount.of_first hfirst
      have hchunks : FirstPiece chunks.bytes piece ending behind := hbytes ▸ hfirst
      rw [hlines, clocked_cons, answerAll, serve]
      by_cases hlength : limit < piece.length
      · obtain ⟨hfound, hrest⟩ := LineReader.read_beyond hchunks hpiece hlength
        have hends : (LineReader.read limit chunks).found ≠ .ended := by
          rw [hfound]
          decide
        rw [if_pos hlength, dif_neg hends, if_pos hfound]
        dsimp only
        rw [ih (number + 1) session board hbehind hrest.symm]
      · obtain ⟨hfound, hbuffer, hrest⟩ :=
          LineReader.read_within hchunks hpiece (Nat.le_of_not_lt hlength)
        have hends : (LineReader.read limit chunks).found ≠ .ended := by
          rw [hfound]
          decide
        have hlong : (LineReader.read limit chunks).found ≠ .tooLong := by
          rw [hfound]
          decide
        have hending : ending = [newline] ∨ ending = [] := hfirst.ends.imp id And.left
        rw [if_neg hlength, dif_neg hends, if_neg hlong, hbuffer, respond_lineText _ _ _ hending]
        dsimp only
        rw [ih (number + 1) _ _ hbehind hrest.symm]

theorem length_answerAll (limit : Nat) (lines : List (Clock × List UInt8)) (session : Session)
    (board : Board) : (answerAll limit lines session board).replies.length = lines.length := by
  induction lines generalizing session board with
  | nil => rfl
  | cons line lines ih =>
      obtain ⟨clock, piece⟩ := line
      unfold answerAll
      split
      · simp only [List.length_cons, ih]
      · simp only [List.length_cons, ih]

theorem oneLine_tooLong (limit : Nat) : OneLine (tooLong limit).line.toList := by
  unfold tooLong Reply.line
  simp only [oneLine_string_append]
  exact ⟨oneLine_ofList (by decide), ⟨oneLine_ofList (by decide), oneLine_toString limit⟩,
    oneLine_ofList (by decide)⟩

/-- Lines without newlines are answered by replies on one line. -/
theorem oneLine_answerAll (limit : Nat) {lines : List (Clock × List UInt8)}
    (hlines : ∀ line ∈ lines, newline ∉ line.2) (session : Session) (board : Board) :
    ∀ reply ∈ (answerAll limit lines session board).replies, OneLine reply.line.toList := by
  induction lines generalizing session board with
  | nil =>
      intro reply hreply
      cases hreply
  | cons line lines ih =>
      obtain ⟨clock, piece⟩ := line
      have hpiece : newline ∉ piece := hlines (clock, piece) List.mem_cons_self
      have hlater := fun line hline => hlines line (List.mem_cons_of_mem (clock, piece) hline)
      have htext : OneLine (lineText piece).toList :=
        oneLine_ofList (Utf8.oneLine_decodeLossy hpiece)
      unfold answerAll
      split
      · dsimp only
        rw [List.forall_mem_cons]
        exact ⟨oneLine_tooLong limit, ih hlater session board⟩
      · dsimp only
        rw [List.forall_mem_cons]
        exact ⟨Session.oneLine_respond htext clock session board, ih hlater _ _⟩

/-- A client that cuts what it receives at the ends of lines finds the greeting and each of
the replies, and nothing behind the last. -/
theorem splitOn_transcript {replies : List Reply}
    (h : ∀ reply ∈ replies, OneLine reply.line.toList) :
    (transcript replies).toList.splitOn '\n' =
      (Greeting.line :: replies.map Reply.line).map String.toList ++ [[]] := by
  have hlines : (replies.flatMap fun reply => reply.line.toList ++ ['\n']).splitOn '\n' =
      replies.map (fun reply => reply.line.toList) ++ [[]] := by
    induction replies with
    | nil => rfl
    | cons reply replies ih =>
        have hreply := h reply List.mem_cons_self
        have hrest := ih fun later hlater => h later (List.mem_cons_of_mem reply hlater)
        rw [List.flatMap_cons, List.append_assoc, List.singleton_append,
          List.splitOn_append_cons_self_of_not_mem hreply, hrest]
        rfl
  have hgreeting : OneLine Greeting.line.toList := by
    unfold Greeting.line
    rw [oneLine_string_append]
    exact ⟨oneLine_ofList (by decide), oneLine_ofList (by decide)⟩
  have hwire (line : String) : (wireLine line).toList = line.toList ++ ['\n'] := by
    rw [wireLine, String.toList_append]
    rfl
  have htranscript : (transcript replies).toList =
      Greeting.line.toList ++ '\n' :: replies.flatMap fun reply => reply.line.toList ++ ['\n'] := by
    rw [transcript, String.toList_append, String.toList_join, hwire, List.flatMap_map]
    simp only [hwire, List.append_assoc, List.singleton_append]
  rw [htranscript, List.splitOn_append_cons_self_of_not_mem hgreeting, hlines]
  simp only [List.map_cons, List.map_map, List.cons_append]
  rfl

/-- Whether a line is within the limit. -/
def within (limit : Nat) (piece : List UInt8) : Bool := piece.length ≤ limit

/-- Without the lines beyond the limit all else that came of the lines is the same. -/
theorem answerAll_within (limit : Nat) (lines : List (Clock × List UInt8)) (session : Session)
    (board : Board) :
    let all := answerAll limit lines session board
    let short := answerAll limit (lines.filter fun line => within limit line.2) session board
    short.session = all.session ∧ short.board = all.board ∧ short.events = all.events ∧
      short.replies =
        (((lines.map Prod.snd).zip all.replies).filter fun (piece, _) => within limit piece).map
          Prod.snd := by
  intro all short
  induction lines generalizing session board with
  | nil => exact ⟨rfl, rfl, rfl, rfl⟩
  | cons line lines ih =>
      obtain ⟨clock, piece⟩ := line
      by_cases hlength : limit < piece.length
      · have hnot : within limit piece = false := by simpa [within] using hlength
        obtain ⟨hsession, hboard, hevents, hreplies⟩ := ih session board
        simp only [all, short, List.filter_cons, hnot, answerAll, if_pos hlength]
        refine ⟨hsession, hboard, hevents, ?_⟩
        simp only [Bool.false_eq_true, if_false, List.map_cons, List.zip_cons_cons,
          List.filter_cons, hnot]
        exact hreplies
      · have hyes : within limit piece = true := by simpa [within] using hlength
        obtain ⟨hsession, hboard, hevents, hreplies⟩ :=
          ih (session.respond clock (lineText piece) board).session
            (session.respond clock (lineText piece) board).board
        simp only [all, short, List.filter_cons, hyes, if_true, answerAll, if_neg hlength]
        refine ⟨hsession, hboard, by rw [hevents], ?_⟩
        simp only [List.map_cons, List.zip_cons_cons, List.filter_cons, hyes, if_true, hreplies]

/-- The replies to some lines are the same whatever the clocks read. -/
theorem replies_of_like (limit : Nat) {lines lines' : List (Clock × List UInt8)}
    (hlines : lines.map Prod.snd = lines'.map Prod.snd) {session session' : Session}
    {board board' : Board} (halike : Session.Alike Chart.SameOutline session session')
    (hcount : board.slotCount = board'.slotCount) :
    (answerAll limit lines session board).replies =
      (answerAll limit lines' session' board').replies := by
  induction lines generalizing lines' session session' board board' with
  | nil =>
      rw [List.map_nil, eq_comm, List.map_eq_nil_iff] at hlines
      rw [hlines]
      rfl
  | cons line lines ih =>
      cases lines' with
      | nil => cases hlines
      | cons line' lines' =>
          obtain ⟨clock, piece⟩ := line
          obtain ⟨clock', piece'⟩ := line'
          rw [List.map_cons, List.map_cons, List.cons.injEq] at hlines
          obtain ⟨hpiece, hrest⟩ := hlines
          dsimp only at hpiece
          subst hpiece
          unfold answerAll
          split
          · dsimp only
            rw [ih hrest halike hcount]
          · obtain ⟨hreply, hsession, hboard⟩ :=
              halike.respond (Chart.likeness_sameOutline clock clock') hcount (lineText piece)
            dsimp only
            rw [hreply, ih hrest hsession hboard]

/-- The bytes of a stream without its lines beyond the limit. -/
def withoutOverlong (limit : Nat) (bytes : List UInt8) : List UInt8 :=
  ((cutLines bytes).filter fun line => within limit (line.filter (· ≠ newline))).flatten

theorem filter_newline_line {bytes piece ending behind : List UInt8}
    (h : FirstPiece bytes piece ending behind) :
    (piece ++ ending).filter (· ≠ newline) = piece := by
  have hpiece : piece.filter (· ≠ newline) = piece := by
    rw [List.filter_eq_self]
    intro byte hbyte
    simpa using fun heq : byte = newline => h.free (heq ▸ hbyte)
  rw [List.filter_append, hpiece]
  rcases h.ends with hnewline | ⟨hnone, -, -⟩
  · simp [hnewline]
  · simp [hnone]

theorem pieces_withoutOverlong (limit : Nat) (bytes : List UInt8) :
    pieces (withoutOverlong limit bytes) = (pieces bytes).filter (within limit) := by
  induction bytes using pieces_induction with
  | nil => rfl
  | line hfirst ih =>
      rename_i bytes piece ending behind
      unfold withoutOverlong at ih ⊢
      rw [hfirst.cutLines_eq, hfirst.pieces_eq, List.filter_cons, List.filter_cons,
        filter_newline_line hfirst]
      split
      · have hshort : FirstPiece (((piece ++ ending) :: (cutLines behind).filter fun line =>
            within limit (line.filter (· ≠ newline))).flatten) piece ending
            (((cutLines behind).filter fun line =>
              within limit (line.filter (· ≠ newline))).flatten) := by
          refine ⟨List.flatten_cons, hfirst.free, ?_⟩
          rcases hfirst.ends with hnewline | ⟨hnone, hnothing, hne⟩
          · exact .inl hnewline
          · exact .inr ⟨hnone, by rw [hnothing]; rfl, hne⟩
        rw [hshort.pieces_eq, ih]
      · exact ih

/-- However the bytes of a client arrive, it receives the greeting and one reply for each of
its lines, each on one line: a line beyond the limit is told so, and any other is answered
by the session. Lines beyond the limit change neither the session nor the board, and
without them all other replies are the same. -/
theorem one_reply_per_line (limit : Nat) (clocks : Nat → Clock) (chunks : Chunks)
    (session : Session) (board : Board) (hcount : LineReader.Countable limit chunks.bytes) :
    let lines := pieces chunks.bytes
    let exchange := serve limit clocks 0 chunks session board
    let short := answerAll limit ((clocked clocks 0 lines).filter fun line => within limit line.2)
      session board
    exchange = answerAll limit (clocked clocks 0 lines) session board ∧
      exchange.replies.length = lines.length ∧
      (transcript exchange.replies).toList.splitOn '\n' =
        (Greeting.line :: exchange.replies.map Reply.line).map String.toList ++ [[]] ∧
      (short.session = exchange.session ∧ short.board = exchange.board ∧
        short.events = exchange.events) ∧
      ∀ (clocks' : Nat → Clock) (kept : Chunks),
        kept.bytes = withoutOverlong limit chunks.bytes →
          (serve limit clocks' 0 kept session board).replies =
            ((lines.zip exchange.replies).filter fun (piece, _) => within limit piece).map
              Prod.snd := by
  intro lines exchange short
  have hserve : exchange = answerAll limit (clocked clocks 0 lines) session board :=
    serve_eq_answerAll clocks hcount 0 session board
  have hpieces : (clocked clocks 0 lines).map Prod.snd = lines := pieces_clocked clocks 0 lines
  have hfree : ∀ line ∈ clocked clocks 0 lines, newline ∉ line.2 := by
    intro line hline
    have hpiece : line.2 ∈ lines := by
      rw [← hpieces]
      exact List.mem_map_of_mem hline
    exact newline_not_mem_of_mem_pieces hpiece
  obtain ⟨hsession, hboard, hevents, hreplies⟩ :=
    answerAll_within limit (clocked clocks 0 lines) session board
  refine ⟨hserve, ?_, ?_, ⟨?_, ?_, ?_⟩, ?_⟩
  · rw [hserve, length_answerAll, ← List.length_map Prod.snd, hpieces]
  · refine splitOn_transcript ?_
    rw [hserve]
    exact oneLine_answerAll limit hfree session board
  · rw [hserve]
    exact hsession
  · rw [hserve]
    exact hboard
  · rw [hserve]
    exact hevents
  · intro clocks' kept hkept
    have hshort : pieces kept.bytes = lines.filter (within limit) := by
      rw [hkept]
      exact pieces_withoutOverlong limit chunks.bytes
    have hcount' : LineReader.Countable limit kept.bytes := by
      refine hcount.imp id fun h piece hpiece => h piece ?_
      rw [hshort] at hpiece
      exact (List.mem_filter.mp hpiece).1
    have hsame : (clocked clocks' 0 (pieces kept.bytes)).map Prod.snd =
        ((clocked clocks 0 lines).filter fun line => within limit line.2).map Prod.snd := by
      rw [pieces_clocked, hshort]
      nth_rewrite 1 [← hpieces]
      exact List.filter_map
    have hlike : Session.Alike Chart.SameOutline session session := by
      refine ⟨rfl, rfl, ?_⟩
      cases session.chart with
      | none => exact .none
      | some chart => exact .some ⟨rfl, rfl⟩
    rw [serve_eq_answerAll clocks' hcount' 0 session board, replies_of_like limit hsame hlike rfl,
      hreplies, hpieces, hserve]

/-- A comment is accepted behind a line that is too long, and before it an error is told in
its place. -/
theorem one_reply_per_line_three_chunks :
    let chunks : Chunks := ["ini", "t\nadd_pl", "ot too long\n# end"].map fun text =>
      Utf8.encode text.toList
    let kept : Chunks := [Utf8.encode "init\n# end".toList]
    let session : Session := { slot := 0 }
    let board := Board.create 1 {} none
    let exchange := serve 10 (fun _ _ => 0) 0 chunks session board
    LineReader.Countable 10 chunks.bytes ∧ kept.bytes = withoutOverlong 10 chunks.bytes ∧
      exchange.replies = [.error (Refusal.noKind .init).message, tooLong 10, .ok] ∧
      (transcript exchange.replies).toList.splitOn '\n' =
        (Greeting.line :: exchange.replies.map Reply.line).map String.toList ++ [[]] ∧
      (serve 10 (fun _ _ => 1) 0 kept session board).replies =
        [.error (Refusal.noKind .init).message, .ok] := by
  intro chunks kept session board exchange
  have hcount : LineReader.Countable 10 chunks.bytes := .inl (by decide)
  have hkept : kept.bytes = withoutOverlong 10 chunks.bytes := by
    decide +kernel
  obtain ⟨hserve, -, htranscript, -, hshort⟩ :=
    one_reply_per_line 10 (fun _ _ => 0) chunks session board hcount
  have hreplies : exchange.replies = [.error (Refusal.noKind .init).message, tooLong 10, .ok] := by
    dsimp only [exchange]
    rw [hserve]
    decide +kernel
  refine ⟨hcount, hkept, hreplies, htranscript, ?_⟩
  have hpieces : pieces chunks.bytes = ["init", "add_plot too long", "# end"].map fun text =>
      Utf8.encode text.toList := by
    decide +kernel
  rw [hshort (fun _ _ => 1) kept hkept, hpieces]
  dsimp only [exchange] at hreplies
  rw [hreplies]
  decide +kernel

end Connection

end ChartBoard
