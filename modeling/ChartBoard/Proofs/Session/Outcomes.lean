import ChartBoard.Proofs.Chart.Acceptance
import ChartBoard.Session.Basic

/-!
What a command can come to in a session: it is refused and nothing happens, or it does one of a few
things to the session and the board (`Session.Outcome`). Every command comes to one of them
(`Session.perform_outcome`), so what holds of all turns is shown by cases of the outcome, and the
commands themselves are looked into only here and where the text of a refusal matters.
-/

namespace ChartBoard

namespace Command

/-- Whether a command publishes: it adds a plot, or it works on the plots of a chart that
is being fed, and be it in vain. -/
def publishes (command : Command) (session : Session) (board : Board) : Bool :=
  match command with
  | .addPlot => (session.addPlot board).result.isOk
  | .clear _ | .replot _ | .data _ => session.stage == .feeding
  | _ => false

/-- What a command does with the plots of a chart that is fed. -/
def onPlots? (clock : Clock) : Command → Option (Chart → Fed)
  | .clear index => some (Chart.attempt (Chart.clear index))
  | .replot index => some (Chart.attempt (Chart.replot index))
  | .data values => some (Chart.feed clock values)
  | _ => none

section OnPlots

variable {clock : Clock} {command : Command} {step : Chart → Fed}
  (h : command.onPlots? clock = some step)

include h

theorem advances_onPlots (chart : Chart) : chart.Advances (step chart).chart := by
  cases command with
  | clear index =>
      obtain rfl := Option.some.inj h
      exact Chart.advances_attempt (Chart.ruled_clear index) chart
  | replot index =>
      obtain rfl := Option.some.inj h
      exact Chart.advances_attempt (Chart.ruled_replot index) chart
  | data values =>
      obtain rfl := Option.some.inj h
      exact Chart.advances_feed clock values chart
  | comment | set | init | addPlot | enableStatus => cases h

theorem publishes_onPlots (session : Session) (board : Board) :
    command.publishes session board = (session.stage == .feeding) := by
  cases command with
  | clear | replot | data => rfl
  | comment | set | init | addPlot | enableStatus => cases h

end OnPlots

end Command

namespace Session

/-- What a command comes to. Only a plot and a command on the plots reach the slots of the board. -/
inductive Outcome (clock : Clock) (session : Session) (board : Board) : Command → Turn → Prop where
  | refused {command : Command} (hquiet : command.publishes session board = false)
      (refusal : Refusal) : Outcome clock session board command (session.refuse refusal board)
  | ignored : Outcome clock session board .comment (session.accept board)
  | choosesKind {value : String} {kind : ChartKind}
      (hkind : ChartKind.ofName? (String.ofList (Text.trim value.toList)) = some kind) :
      Outcome clock session board (.set SettingName.graph value)
        (({ session with
          chart := some (.create kind)
          stage := .typeSelected
          generation := none } : Session).accept board)
  | arranges {value : String} {grid : Grid} (hgrid : readGrid value = .ok grid)
      (hroom : grid.rows * grid.columns ≤ board.slotCount) :
      Outcome clock session board (.set SettingName.grid value)
        ⟨session, { board with grid := grid }, [.layout grid.rows grid.columns], .ok ()⟩
  | titles (value : String) :
      Outcome clock session board (.set SettingName.frameTitle value)
        ⟨session, { board with frameTitle := value }, [.title value], .ok ()⟩
  | configures {name value : String} (hgraph : name ≠ SettingName.graph)
      (hgrid : name ≠ SettingName.grid) (htitle : name ≠ SettingName.frameTitle)
      {before after : Chart} (hchart : session.chart = some before)
      (hset : before.setAttribute name value = .ok after) :
      Outcome clock session board (.set name value)
        (({ session with
          chart := some after
          stage := if session.stage = .typeSelected then .configured else session.stage } :
            Session).accept board)
  | initializes {chart : Chart} (hchart : session.chart = some chart) :
      Outcome clock session board .init
        (({ session with chart := some chart.init, stage := .initialized } : Session).accept board)
  | addsPlot {before after : Chart} (hchart : session.chart = some before)
      (hready : session.stage = .initialized ∨ session.stage = .feeding)
      (hadd : before.addPlot = .ok after) :
      Outcome clock session board .addPlot
        (({ session with stage := .feeding } : Session).present after board)
  | works {command : Command} {step : Chart → Fed} (hstep : command.onPlots? clock = some step)
      (action : Action) :
      Outcome clock session board command (session.withChart action step board)
  | enablesStatus (enabled : Bool) :
      Outcome clock session board (.enableStatus enabled)
        (session.accept (board.setStatusEnabled enabled))

variable (clock : Clock) (session : Session) (board : Board)

theorem set_outcome (name value : String) :
    session.Outcome clock board (.set name value) (session.set name value board) := by
  unfold set
  split
  · rename_i hgraph
    subst hgraph
    unfold setKind
    dsimp only
    split
    · exact .refused rfl _
    · rename_i hkind
      exact .choosesKind hkind
  split
  · rename_i hgrid
    subst hgrid
    unfold setGrid
    split
    · exact .refused rfl _
    · rename_i grid hread
      unfold Board.setGrid
      dsimp only
      split
      · rename_i hroom
        exact .arranges hread hroom
      · exact .refused rfl _
  split
  · rename_i htitle
    subst htitle
    exact .titles value
  · rename_i hgraph hgrid htitle
    unfold setAttribute
    split
    · exact .refused rfl _
    · rename_i chart hchart
      split
      · exact .refused rfl _
      · rename_i after hset
        exact .configures hgraph hgrid htitle hchart hset

variable {session} in
/-- A plot for which there is room is shown with the chart. -/
theorem addPlot_eq {before after : Chart} (hchart : session.chart = some before)
    (hready : session.stage = .initialized ∨ session.stage = .feeding)
    (hadd : before.addPlot = .ok after) :
    session.addPlot board = ({ session with stage := .feeding } : Session).present after board := by
  rw [addPlot, hchart]
  dsimp only
  rw [if_pos (by simpa using hready), hadd]

variable {session} in
theorem publishes_addPlot {before after : Chart} (hchart : session.chart = some before)
    (hready : session.stage = .initialized ∨ session.stage = .feeding)
    (hadd : before.addPlot = .ok after) : Command.addPlot.publishes session board = true := by
  rw [Command.publishes, addPlot_eq board hchart hready hadd]
  rfl

theorem addPlot_outcome :
    session.Outcome clock board .addPlot (session.addPlot board) := by
  have hrefused (refusal : Refusal) (h : session.addPlot board = session.refuse refusal board) :
      session.Outcome clock board .addPlot (session.addPlot board) := by
    have hquiet : Command.addPlot.publishes session board = false := by
      rw [Command.publishes, h]
      rfl
    rw [h]
    exact .refused hquiet refusal
  cases hchart : session.chart with
  | none => exact hrefused _ (by rw [addPlot, hchart])
  | some chart =>
      by_cases hready : session.stage = .initialized ∨ session.stage = .feeding
      · cases hadd : chart.addPlot with
        | error refusal =>
            refine hrefused refusal ?_
            rw [addPlot, hchart]
            dsimp only
            rw [if_pos (by simpa using hready), hadd]
        | ok after =>
            rw [addPlot_eq board hchart hready hadd]
            exact .addsPlot hchart hready hadd
      · refine hrefused (.notInitialized .addPlot) ?_
        rw [addPlot, hchart]
        dsimp only
        rw [if_neg (by simpa using hready)]

/-- Every command comes to one of the outcomes. -/
theorem perform_outcome (command : Command) :
    session.Outcome clock board command (session.perform clock command board) := by
  cases command with
  | comment => exact .ignored
  | set name value => exact set_outcome clock session board name value
  | init =>
      unfold perform init
      dsimp only
      split
      · exact .refused rfl _
      · rename_i chart hchart
        exact .initializes hchart
  | addPlot => exact addPlot_outcome clock session board
  | clear index => exact .works rfl .clearPlot
  | replot index => exact .works rfl .replot
  | enableStatus enabled => exact .enablesStatus enabled
  | data values =>
      by_cases hstage : session.stage = .feeding
      · rw [perform, feed, if_pos hstage]
        exact .works rfl .addValues
      · have hquiet : (Command.data values).publishes session board = false :=
          beq_eq_false_iff_ne.mpr hstage
        rw [perform, feed, if_neg hstage]
        exact .refused hquiet _

end Session

end ChartBoard
