import ChartBoard.Proofs.Protocol.OneLineRefusals
import ChartBoard.Proofs.Session.Turns

/-!
Replies on one line. A line that is a single one is answered by a single line, whatever it
asks for and whatever state the session is in (`oneLine_respond`).
-/

namespace ChartBoard

open Text

namespace Chart

theorem wordless_plotRefusal {outline : Outline} {index : Nat} {refusal : Refusal}
    (h : outline.plotRefusal? index = some refusal) : refusal.Wordless := by
  unfold Outline.plotRefusal? at h
  split at h
  · cases h
  · cases h
    trivial

theorem wordless_lineRefusal {outline : Outline} {data : DataLine} {refusal : Refusal}
    (h : outline.lineRefusal? data = some refusal) : refusal.Wordless := by
  unfold Outline.lineRefusal? at h
  split at h
  · split at h
    · cases h
      trivial
    · split at h
      · cases h
        trivial
      · cases h
  · split at h
    · cases h
      trivial
    · split at h
      · cases h
        trivial
      · cases h
  · unfold Outline.timedRefusal? at h
    split at h
    · exact wordless_plotRefusal h
    · cases h
      trivial

theorem wordless_addPlot {chart : Chart} {refusal : Refusal}
    (h : chart.addPlot = .error refusal) : refusal.Wordless := by
  unfold addPlot checkRoom at h
  split at h
  · split at h
    · cases h
    · cases h
      trivial
  · cases h

theorem complains_setAttribute {name value : String} (hname : OneLine name.toList)
    (hvalue : OneLine value.toList) (chart : Chart) :
    ComplainsInLine Refusal.message (chart.setAttribute name value) := by
  have hset : ComplainsInLine Refusal.message (chart.attributes.set name value) := by
    unfold Attributes.set
    split
    · refine complainsInLine_error ?_
      unfold Refusal.message
      simp only [oneLine_string_append]
      exact ⟨⟨⟨hname, oneLine_ofList (by decide)⟩, hvalue⟩, oneLine_ofList (by decide)⟩
    · rename_i item _
      cases chart.attributes.put item value with
      | ok attributes => exact complainsInLine_ok attributes
      | error form =>
          refine complainsInLine_error ?_
          unfold Refusal.message
          simp only [oneLine_string_append]
          exact ⟨⟨⟨⟨hvalue, oneLine_ofList (by decide)⟩, hname⟩, oneLine_ofList (by decide)⟩,
            oneLine_valueForm form⟩
  unfold setAttribute
  cases hput : chart.attributes.set name value with
  | ok attributes => exact complainsInLine_ok _
  | error refusal => exact complainsInLine_error (hset refusal hput)

end Chart

namespace Session

theorem complains_refuse {refusal : Refusal} (h : refusal.Wordless) (session : Session)
    (board : Board) : ComplainsInLine Refusal.message (session.refuse refusal board).result :=
  complainsInLine_error h.oneLine

theorem complains_withChart {session : Session} {board : Board} {action : Action}
    {step : Chart → Fed}
    (hstep : ∀ chart refusal, (step chart).result = .error refusal → refusal.Wordless) :
    ComplainsInLine Refusal.message (session.withChart action step board).result := by
  cases hchart : session.chart with
  | none =>
      rw [withChart, hchart]
      exact complains_refuse (by trivial) session board
  | some chart =>
      intro refusal hrefused
      rw [(withChart_outcome hchart action step board).1] at hrefused
      exact (hstep chart refusal hrefused).oneLine

theorem complains_setKind {value : String} (hvalue : OneLine value.toList) (session : Session)
    (board : Board) : ComplainsInLine Refusal.message (session.setKind value board).result := by
  unfold setKind
  dsimp only
  split
  · refine complainsInLine_error ?_
    unfold Refusal.message ChartKind.unknownMessage
    simp only [oneLine_string_append, String.toList_ofList]
    exact ⟨hvalue.of_subset (trim_subset _), oneLine_ofList (by decide)⟩
  · exact complainsInLine_ok ()

theorem complains_setGrid {value : String} (hvalue : OneLine value.toList) (session : Session)
    (board : Board) : ComplainsInLine Refusal.message (session.setGrid value board).result := by
  have hdimension {text : List Char} (htext : text ⊆ value.toList) :
      ComplainsInLine LineFault.reason (readDimension text) := by
    unfold readDimension
    split
    · exact complainsInLine_ok _
    · have hword := List.Subset.trans (trim_subset text) htext
      exact complainsInLine_error (oneLine_quoted_word hvalue hword (by decide))
  have hgrid : ComplainsInLine LineFault.reason (readGrid value) := by
    unfold readGrid
    split
    · exact complainsInLine_error (oneLine_ofList (by decide))
    · rename_i rows columns hsplit
      obtain ⟨hrows, hcolumns⟩ := splitFirst?_subset hsplit
      refine (hdimension hrows).bind fun _ _ => ?_
      exact (hdimension hcolumns).bind fun _ _ => complainsInLine_ok _
  unfold setGrid
  cases hread : readGrid value with
  | error fault =>
      refine complainsInLine_error (Refusal.oneLine_unreadable ?_ (hgrid fault hread))
      simp only [oneLine_string_append]
      exact ⟨⟨⟨oneLine_ofList (by decide), oneLine_ofList (by decide)⟩,
        oneLine_ofList (by decide)⟩, hvalue⟩
  | ok grid =>
      dsimp only
      unfold Board.setGrid
      split
      · exact complainsInLine_ok ()
      · exact complainsInLine_error (Refusal.Wordless.oneLine (by trivial))

theorem complains_set {name value : String} (hname : OneLine name.toList)
    (hvalue : OneLine value.toList) (session : Session) (board : Board) :
    ComplainsInLine Refusal.message (session.set name value board).result := by
  unfold set
  split
  · exact complains_setKind hvalue session board
  split
  · exact complains_setGrid hvalue session board
  split
  · exact complainsInLine_ok ()
  unfold setAttribute
  split
  · exact complains_refuse (by trivial) session board
  · rename_i chart _
    have hset := Chart.complains_setAttribute hname hvalue chart
    split
    · rename_i refusal hrefused
      exact complainsInLine_error (hset refusal hrefused)
    · exact complainsInLine_ok ()

theorem complains_addPlot (session : Session) (board : Board) :
    ComplainsInLine Refusal.message (session.addPlot board).result := by
  unfold addPlot
  split
  · exact complains_refuse (by trivial) session board
  split
  · split
    · rename_i refusal hrefused
      exact complains_refuse (Chart.wordless_addPlot hrefused) session board
    · exact complainsInLine_ok ()
  · exact complains_refuse (by trivial) session board

theorem complains_init (session : Session) (board : Board) :
    ComplainsInLine Refusal.message (session.init board).result := by
  unfold init
  split
  · exact complains_refuse (by trivial) session board
  · exact complainsInLine_ok ()

theorem wordless_attempt {step : Chart → Except Refusal Chart} {index : Nat}
    (hruled : Chart.Ruled step (·.plotRefusal? index)) (chart : Chart) (refusal : Refusal)
    (h : (chart.attempt step).result = .error refusal) : refusal.Wordless := by
  rcases Chart.attempt_cases hruled chart with ⟨other, hother, hdone⟩ | ⟨_, _, _, hdone, _⟩
  · rw [hdone] at h
    cases h
    exact Chart.wordless_plotRefusal hother
  · rw [hdone] at h
    cases h

theorem complains_perform {command : Command} (h : command.OnOneLine) (clock : Clock)
    (session : Session) (board : Board) :
    ComplainsInLine Refusal.message (session.perform clock command board).result := by
  cases command with
  | comment => exact complainsInLine_ok ()
  | set name value => exact complains_set h.1 h.2 session board
  | init => exact complains_init session board
  | addPlot => exact complains_addPlot session board
  | clear index => exact complains_withChart (wordless_attempt (Chart.ruled_clear index))
  | replot index => exact complains_withChart (wordless_attempt (Chart.ruled_replot index))
  | enableStatus enabled => exact complainsInLine_ok ()
  | data values =>
      unfold perform feed
      dsimp only
      split
      · refine complains_withChart fun chart refusal hrefused => ?_
        rw [Chart.feed_result] at hrefused
        cases hline : chart.outline.lineRefusal? values with
        | none =>
            rw [hline] at hrefused
            cases hrefused
        | some other =>
            rw [hline] at hrefused
            cases hrefused
            exact Chart.wordless_lineRefusal hline
      · exact complains_refuse (by trivial) session board

theorem complains_process {line : String} (h : OneLine line.toList) (clock : Clock)
    (session : Session) (board : Board) :
    ComplainsInLine Refusal.message (session.process clock line board).result := by
  obtain ⟨hcomplains, hyields⟩ := Command.read_complains h
  unfold process
  cases hread : Command.read line with
  | error refusal => exact complainsInLine_error (hcomplains refusal hread)
  | ok command => exact complains_perform (hyields command hread) clock session board

/-- The reply to a single line is a single line. -/
theorem oneLine_respond {line : String} (h : OneLine line.toList) (clock : Clock)
    (session : Session) (board : Board) :
    OneLine (session.respond clock line board).reply.line.toList := by
  have hwithout : OneLine (withoutLineEnd line).toList := by
    refine h.of_subset fun c hc => ?_
    rw [withoutLineEnd, String.toList_ofList, List.mem_reverse] at hc
    exact List.mem_reverse.mp (List.dropWhile_sublist _ |>.subset hc)
  have hcomplains := complains_process hwithout clock session board
  unfold respond
  dsimp only
  cases hresult : (session.process clock (withoutLineEnd line) board).result with
  | ok _ => exact oneLine_ofList (by decide)
  | error refusal =>
      unfold replyTo Reply.line
      rw [oneLine_string_append]
      exact ⟨oneLine_ofList (by decide), hcomplains refusal hresult⟩

end Session

end ChartBoard
