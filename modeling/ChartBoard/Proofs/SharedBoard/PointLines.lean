import ChartBoard.Proofs.Protocol.PointLines
import ChartBoard.Proofs.Session.Displays
import ChartBoard.Proofs.SharedBoard.Acceptance
import ChartBoard.Proofs.SharedBoard.Isolation
import ChartBoard.Proofs.SharedBoard.Refusals

/-!
A line of many points and its points line by line. The points of one line are published together,
and those of single lines one after the other; but a chart takes points the same way whether changes
wait to be published or not (`Chart.feed_points_cons`), and of the charts that a session shows one
after the other only the last one counts. So a feeding session in the plane comes to the same, and
so does the board, also if another session has taken its slot (`SharedBoard.points_line_as_lines`).
-/

namespace ChartBoard

open Text

namespace Chart

section Points

variable {points : List PlotPoint}

/-- The changes that wait have no say in what a point does. -/
theorem settled_addPoint (index : Nat) (point : Point) {first second : Chart}
    (h : first.settled = second.settled) :
    (first.addPoint index point).map settled = (second.addPoint index point).map settled := by
  have hsettled (chart : Chart) :
      (chart.settled.addPoint index point).map settled =
        (chart.addPoint index point).map settled := by
    unfold addPoint
    have hseries : chart.settled.series = chart.series := rfl
    rw [hseries]
    cases chart.series with
    | xy plots =>
        dsimp only
        rw [bind_checkPlot, bind_checkPlot]
        have houtline : chart.settled.outline = chart.outline := rfl
        rw [houtline]
        cases chart.outline.plotRefusal? index <;> rfl
    | time | bar | dial => rfl
  rw [← hsettled first, ← hsettled second, h]

theorem settled_doEach {first second : Chart} (h : first.settled = second.settled) :
    (first.doEach (fun p => addPoint p.plot ⟨p.x, p.y⟩) points).chart.settled =
      (second.doEach (fun p => addPoint p.plot ⟨p.x, p.y⟩) points).chart.settled := by
  induction points generalizing first second with
  | nil => exact h
  | cons p points ih =>
      have hstep := settled_addPoint p.plot ⟨p.x, p.y⟩ h
      unfold doEach
      cases hfirst : first.addPoint p.plot ⟨p.x, p.y⟩ with
      | error refusal =>
          rw [hfirst] at hstep
          cases hsecond : second.addPoint p.plot ⟨p.x, p.y⟩ with
          | error refusal' => exact h
          | ok next =>
              rw [hsecond] at hstep
              cases hstep
      | ok next =>
          rw [hfirst] at hstep
          cases hsecond : second.addPoint p.plot ⟨p.x, p.y⟩ with
          | error refusal' =>
              rw [hsecond] at hstep
              cases hstep
          | ok next' =>
              rw [hsecond] at hstep
              exact ih (Except.ok.inj hstep)

variable {chart : Chart} (hkind : chart.kind = .xy)

/-- In the plane points are given one after the other, as there are plots for all of them. -/
theorem feed_points (hplots : ∀ p ∈ points, p.plot < chart.plotCount) (clock : Clock) :
    feed clock (.points points) chart =
      chart.doEach (fun p => addPoint p.plot ⟨p.x, p.y⟩) points := by
  have hnone : (points.find? fun p => chart.plotCount ≤ p.plot) = none :=
    List.find?_eq_none.mpr fun p hp => by simpa using hplots p hp
  rw [feed, hnone]

include hkind

/-- The first point of a line might have been given on a line of its own. -/
theorem feed_points_cons {p : PlotPoint} (hplots : ∀ q ∈ p :: points, q.plot < chart.plotCount)
    (clock clock' : Clock) : ∃ next, feed clock' (.points [p]) chart = ⟨next, .ok ()⟩ ∧
      chart.Advances next ∧ (feed clock (.points points) next.settled).chart.settled =
        (feed clock (.points (p :: points)) chart).chart.settled := by
  obtain ⟨hplot, hlater⟩ := List.forall_mem_cons.mp hplots
  have hnone : chart.outline.pointRefusal? p.plot = none := by
    have hxy : chart.outline.kind = .xy := hkind
    rw [Outline.pointRefusal?, if_pos hxy, Outline.plotRefusal?_eq_none_iff]
    exact hplot
  obtain ⟨next, hstep, hadvances⟩ := (ruled_addPoint p.plot ⟨p.x, p.y⟩).takes hnone
  have hlater' : ∀ q ∈ points, q.plot < next.settled.plotCount := fun q hq =>
    Nat.lt_of_lt_of_eq (hlater q hq) hadvances.plotCount.symm
  refine ⟨next, ?_, hadvances, ?_⟩
  · rw [feed_points (List.forall_mem_singleton.mpr hplot)]
    simp only [doEach, hstep]
  · rw [feed_points hplots, feed_points hlater']
    simp only [doEach, hstep]
    exact settled_doEach rfl

omit hkind in
/-- The first point without a plot is what a line of points is refused for, and none is taken. -/
theorem feed_points_refused {earlier later : List PlotPoint} {bad : PlotPoint}
    (hearlier : ∀ p ∈ earlier, p.plot < chart.plotCount) (hbad : chart.plotCount ≤ bad.plot)
    (clock : Clock) :
    feed clock (.points (earlier ++ bad :: later)) chart = chart.refuseIndex bad.plot := by
  have hfound : ((earlier ++ bad :: later).find? fun p => chart.plotCount ≤ p.plot) = some bad := by
    have hnone : (earlier.find? fun p => chart.plotCount ≤ p.plot) = none :=
      List.find?_eq_none.mpr fun p hp => by simpa using hearlier p hp
    rw [List.find?_append, hnone, Option.none_or, List.find?_cons_of_pos (by simpa using hbad)]
  rw [feed, hfound]

end Points

end Chart

namespace SharedBoard

variable {Name : Type} [DecidableEq Name]

/-- Lines that a session hears, each with one piece of a text and separators around it. -/
def HoldPieces (name : Name) (singles : List (Message Name)) (pieces : List (List Char)) : Prop :=
  List.Forall₂ (fun message piece => message.recipient = name ∧
    runs Command.separatesValues message.line.toList = [piece]) singles pieces

/-- Lines that a session hears, each with one point. -/
def GivesPoints (name : Name) (singles : List (Message Name)) (points : List PlotPoint) : Prop :=
  List.Forall₂ (fun message p => message.recipient = name ∧
    Command.read message.line = .ok (.data (.points [p]))) singles points

omit [DecidableEq Name] in
theorem HoldPieces.givesPoints {name : Name} {singles : List (Message Name)}
    {pieces : List (List Char)} (h : HoldPieces name singles pieces) {points : List PlotPoint}
    (hpoints : List.Forall₂ Command.PointText pieces points) : GivesPoints name singles points := by
  induction h generalizing points with
  | nil =>
      cases hpoints
      exact .nil
  | cons hmessage _ ih =>
      cases hpoints with
      | cons hpoint hlater =>
          refine .cons ⟨hmessage.1, Command.read_eq_points_iff.mpr ⟨List.cons_ne_nil _ _, ?_⟩⟩
            (ih hlater)
          rw [hmessage.2]
          exact .cons hpoint .nil

/-- What a feeding session makes of a line of values. -/
theorem Consistent.displays_hear {state : SharedBoard Name} (h : state.Consistent)
    (message : Message Name) {data : DataLine} {chart : Chart}
    (hfeeding : (state.sessions message.recipient).stage = .feeding)
    (hchart : (state.sessions message.recipient).chart = some chart)
    (hread : Command.read message.line = .ok (.data data)) :
    (state.response message).reply =
        Session.replyTo (Chart.feed message.clock data chart).result ∧
      (state.sessions message.recipient).Displays state.board
        (Chart.feed message.clock data chart).chart.settled
        ((state.hear message).sessions message.recipient) (state.hear message).board := by
  rw [hear_recipient, hear_board]
  exact Session.displays_respond (h.sound message.recipient) hfeeding hchart hread

/-- Points line by line are all taken, and then the session shows its chart as it is after all of
them on one line; the other sessions are as they were. -/
theorem Consistent.displays_points {name : Name} (clock : Clock) {points : List PlotPoint}
    {singles : List (Message Name)} (hsingles : GivesPoints name singles points)
    (hsome : points ≠ []) {state : SharedBoard Name} (h : state.Consistent) {chart : Chart}
    (hfeeding : (state.sessions name).stage = .feeding)
    (hchart : (state.sessions name).chart = some chart) (hkind : chart.kind = .xy)
    (hplots : ∀ p ∈ points, p.plot < chart.plotCount) :
    (state.answers name singles).map Answer.reply = singles.map (fun _ => .ok) ∧
      (state.sessions name).Displays state.board
        (Chart.feed clock (.points points) chart).chart.settled
        ((state.hearAll singles).sessions name) (state.hearAll singles).board ∧
      ∀ other, other ≠ name → (state.hearAll singles).sessions other = state.sessions other := by
  induction hsingles generalizing state chart with
  | nil => exact absurd rfl hsome
  | @cons message p singles points hmessage hsingles ih =>
      obtain ⟨rfl, hread⟩ := hmessage
      obtain ⟨next, hfeed, hadvances, hsame⟩ :=
        Chart.feed_points_cons hkind hplots clock message.clock
      obtain ⟨hreply, hshown⟩ := h.displays_hear message hfeeding hchart hread
      rw [hfeed] at hreply hshown
      have hothers : ∀ other, other ≠ message.recipient →
          (state.hear message).sessions other = state.sessions other := fun other hother =>
        hear_other hother state
      have hanswers : state.answers message.recipient (message :: singles) =
          (state.response message).answer :: (state.hear message).answers message.recipient
            singles := by
        rw [answers, if_pos rfl]
      have hreply' : (state.response message).answer.reply = .ok := by
        rw [Session.Response.answer, hreply]
        rfl
      rw [hanswers, List.map_cons, List.map_cons, hearAll_cons, ← hsame, hreply']
      cases points with
      | nil =>
          cases hsingles
          have hlast : (Chart.feed clock (.points []) next.settled).chart.settled =
              next.settled := rfl
          rw [hlast]
          exact ⟨rfl, hshown, hothers⟩
      | cons q points =>
          have hkind' : next.settled.kind = .xy := hadvances.kind.trans hkind
          have hplots' : ∀ p ∈ q :: points, p.plot < next.settled.plotCount := fun p hp =>
            Nat.lt_of_lt_of_eq (hplots p (List.mem_cons_of_mem _ hp)) hadvances.plotCount.symm
          obtain ⟨hreplies, hshown', hothers'⟩ := ih (List.cons_ne_nil q points) (h.hear message)
            (hshown.stage.trans hfeeding) hshown.chart_eq hkind' hplots'
          refine ⟨congrArg _ hreplies, hshown.trans hshown', fun other hother => ?_⟩
          exact (hothers' other hother).trans (hothers other hother)

/-- Whatever has gone on before, a feeding session in the plane hears a line of points. If there are
plots for all of them, it takes them all, and had it heard each on a line of its own, all sessions
and all slots would be the same, and all lines would be accepted. If not, the line is refused for
the first point without a plot; the chart stays as it was, and no slot shows anything new but this
chart, in the slot of the session. -/
theorem points_line_as_lines (slotOf : Name → Nat) (board : Board) (messages : List (Message Name))
    (name : Name) (clock : Clock) (line : String) (points : List PlotPoint) (chart : Chart)
    (hfeeding : (((fresh slotOf board).hearAll messages).sessions name).stage = .feeding)
    (hchart : (((fresh slotOf board).hearAll messages).sessions name).chart = some chart)
    (hkind : chart.kind = .xy) (hsome : points ≠ [])
    (hpoints : List.Forall₂ Command.PointText (runs Command.separatesValues line.toList) points) :
    let state := (fresh slotOf board).hearAll messages
    let whole : Message Name := ⟨name, clock, line⟩
    ((∀ p ∈ points, p.plot < chart.plotCount) →
      (state.response whole).reply = .ok ∧
      (∃ next, chart.takeAll ((DataLine.points points).steps clock) = .ok next ∧
        ((state.hear whole).sessions name).chart = some next.settled) ∧
      ∀ singles, HoldPieces name singles (runs Command.separatesValues line.toList) →
        (state.answers name singles).map Answer.reply = singles.map (fun _ => .ok) ∧
        (state.hearAll singles).sessions = (state.hear whole).sessions ∧
        (state.hear whole).board.SameSlots (state.hearAll singles).board) ∧
    ∀ earlier bad later, points = earlier ++ bad :: later →
      (∀ p ∈ earlier, p.plot < chart.plotCount) → chart.plotCount ≤ bad.plot →
        (state.response whole).reply =
            Session.replyTo (.error (.noSuchPlot .xy bad.plot chart.plotCount)) ∧
          ((state.hear whole).sessions name).chart = some chart ∧
          ∀ slot, (state.hear whole).board.picture? slot = state.board.picture? slot ∨
            slot = (state.sessions name).slot ∧
              (state.hear whole).board.picture? slot = some chart.picture := by
  intro state whole
  have hconsistent : state.Consistent := consistent_reached slotOf board messages
  have hread : Command.read line = .ok (.data (.points points)) :=
    Command.read_eq_points_iff.mpr ⟨hsome, hpoints⟩
  obtain ⟨hreply, hshown⟩ := hconsistent.displays_hear whole hfeeding hchart hread
  dsimp only [whole] at hreply hshown
  constructor
  · intro hplots
    have htaken : (Chart.feed clock (.points points) chart).result = .ok () := by
      have hnone : chart.outline.lineRefusal? (.points points) = none :=
        (chart.outline.lineRefusal?_eq_none_iff fun hnil => hsome (DataLine.points.inj hnil)).mpr
          (.inl ⟨hkind, hplots⟩)
      rw [Chart.feed_result, hnone]
      rfl
    rw [htaken] at hreply
    refine ⟨hreply, ⟨_, Chart.feed_accepted htaken, hshown.chart_eq⟩, fun singles hpieces => ?_⟩
    obtain ⟨hreplies, hshown', hothers⟩ := Consistent.displays_points clock
      (hpieces.givesPoints hpoints) hsome hconsistent hfeeding hchart hkind hplots
    obtain ⟨hsession, hslots⟩ := hshown.unique hshown'
    refine ⟨hreplies, funext fun other => ?_, hslots⟩
    by_cases hother : other = name
    · rw [hother]
      exact hsession.symm
    · have hwhole : (state.hear whole).sessions other = state.sessions other :=
        hear_other hother state
      rw [hothers other hother, hwhole]
  · rintro earlier bad later rfl hearlier hbad
    rw [Chart.feed_points_refused hearlier hbad clock, Chart.refuseIndex] at hreply hshown
    have hsettled : chart.settled = chart := by
      rw [Chart.settled, ← ((hconsistent.sound name).settled chart hchart).1]
    rw [hkind] at hreply
    rw [hsettled] at hshown
    exact ⟨hreply, hshown.chart_eq, hshown.picture?_cases⟩

/-- Three points, two of them for the plot that is being written over, after another session has
taken the slot. -/
theorem points_line_as_lines_taken_over :
    let heard (name : Bool) (line : String) : Message Bool := ⟨name, fun _ => 0, line⟩
    let messages :=
      ["set graph=xy", "init", "add_plot", "add_plot", "0:1:2", "replot 0"].map (heard true) ++
        ["set graph=bar", "init", "add_plot"].map (heard false)
    let state := (fresh (fun _ => 0) (Board.create 1 {} none)).hearAll messages
    let whole := heard true "0:5:6, 1:7:8,,0:9:10"
    let singles := ["0:5:6", ",1:7:8 ", " 0:9:10"].map (heard true)
    (state.sessions true).stage = .feeding ∧
      (state.sessions true).chart.map Chart.outline = some ⟨.xy, 2⟩ ∧
      Command.read whole.line = .ok (.data (.points
        [⟨0, .ofNat 5, .ofNat 6⟩, ⟨1, .ofNat 7, .ofNat 8⟩, ⟨0, .ofNat 9, .ofNat 10⟩])) ∧
      HoldPieces true singles (runs Command.separatesValues whole.line.toList) ∧
      (state.response whole).reply = .ok ∧
      (state.answers true singles).map Answer.reply = singles.map (fun _ => .ok) ∧
      (state.hearAll singles).sessions = (state.hear whole).sessions ∧
      (state.hear whole).board.SameSlots (state.hearAll singles).board := by
  intro heard messages state whole singles
  have hfeeding : (state.sessions true).stage = .feeding := by decide +kernel
  have houtline : (state.sessions true).chart.map Chart.outline = some ⟨.xy, 2⟩ := by decide +kernel
  have hread : Command.read whole.line = .ok (.data (.points [⟨0, .ofNat 5, .ofNat 6⟩,
      ⟨1, .ofNat 7, .ofNat 8⟩, ⟨0, .ofNat 9, .ofNat 10⟩])) := by decide +kernel
  have hpieces : HoldPieces true singles (runs Command.separatesValues whole.line.toList) := by
    have hruns : runs Command.separatesValues whole.line.toList =
        ["0:5:6".toList, "1:7:8".toList, "0:9:10".toList] := by decide +kernel
    rw [HoldPieces, hruns]
    exact .cons ⟨rfl, by decide +kernel⟩ (.cons ⟨rfl, by decide +kernel⟩
      (.cons ⟨rfl, by decide +kernel⟩ .nil))
  obtain ⟨chart, hchart, hxy⟩ := Option.map_eq_some_iff.mp houtline
  have hplots : chart.kind = .xy ∧ chart.plotCount = 2 := by
    rw [Chart.outline, Outline.mk.injEq] at hxy
    exact hxy
  obtain ⟨hsome, hpoints⟩ := Command.read_eq_points_iff.mp hread
  obtain ⟨htaken, -⟩ := points_line_as_lines (fun _ => 0) (Board.create 1 {} none) messages true
    (fun _ => 0) whole.line _ chart hfeeding hchart hplots.1 hsome hpoints
  rw [hplots.2] at htaken
  obtain ⟨hreply, -, hlines⟩ := htaken (by decide)
  exact ⟨hfeeding, houtline, hread, hpieces, hreply, hlines singles hpieces⟩

end SharedBoard

end ChartBoard
