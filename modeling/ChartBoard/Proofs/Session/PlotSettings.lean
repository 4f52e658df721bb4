import ChartBoard.Proofs.Chart.AddedPlots
import ChartBoard.Proofs.Session.RefusedTurns

/-!
What a session makes of the lines that say a plot. Each assigns one attribute of the chart and
leaves the slots of the board alone; the last adds the plot and shows the chart with it.
-/

namespace ChartBoard.Session

open Text

theorem set_attribute (item : Attribute) (value : String) (session : Session) (board : Board) :
    session.set item.name value board = session.setAttribute item.name value board := by
  have hnames : item.name ≠ SettingName.graph ∧ item.name ≠ SettingName.grid ∧
      item.name ≠ SettingName.frameTitle := by
    cases item <;> decide
  obtain ⟨hgraph, hgrid, htitle⟩ := hnames
  rw [set, if_neg hgraph, if_neg hgrid, if_neg htitle]

section Respond

variable {session : Session} {chart : Chart} (hchart : session.chart = some chart)

include hchart

/-- A line that assigns an attribute is accepted if the attribute takes the value. -/
theorem respond_set {line : String} {item : Attribute} {value : String}
    (hread : Command.read line = .ok (.set item.name value)) {attributes : Attributes}
    (hset : chart.attributes.set item.name value = .ok attributes)
    (hstage : session.stage ≠ .typeSelected) (clock : Clock) (board : Board) :
    let response := session.respond clock line board
    response.reply = .ok ∧
      response.session = { session with chart := some { chart with attributes := attributes } } ∧
      board.SameSlots response.board := by
  have hturn : session.process clock (withoutLineEnd line) board =
      ({ session with chart := some { chart with attributes := attributes } } : Session).accept
        board := by
    rw [process, read_withoutLineEnd, hread]
    dsimp only [perform]
    rw [set_attribute, setAttribute, hchart]
    dsimp only
    rw [Chart.setAttribute, hset]
    dsimp only [Except.map]
    rw [if_neg hstage]
  intro response
  refine ⟨?_, ?_, ?_⟩
  · simp only [response, respond, hturn]
    rfl
  · rw [session_respond, hturn]
    rfl
  · simp only [response, respond, hturn]
    exact Board.sameSlots_echo _ board

/-- The line that adds a plot shows the chart with the plot, if there is room for it. -/
theorem respond_addPlot {line : String} (hread : Command.read line = .ok .addPlot) {after : Chart}
    (hadd : chart.addPlot = .ok after)
    (hstage : session.stage = .initialized ∨ session.stage = .feeding) (clock : Clock)
    (board : Board) :
    let response := session.respond clock line board
    response.reply = .ok ∧ response.session.chart = some after.settled ∧
      (session.slot < board.slotCount →
        response.board.picture? session.slot = some after.picture) := by
  have hturn : session.process clock (withoutLineEnd line) board =
      ({ session with stage := .feeding } : Session).present after board := by
    rw [process, read_withoutLineEnd, hread]
    exact addPlot_eq board hchart hstage hadd
  intro response
  refine ⟨?_, ?_, ?_⟩
  · simp only [response, respond, hturn]
    rfl
  · rw [session_respond, hturn]
    rfl
  · intro hslot
    have hshown := Board.shown?_attach after.picture hslot
    simp only [response, respond, hturn]
    rw [Board.picture?, (Board.sameSlots_echo _ _).shown?]
    exact congrArg (Option.map Shown.picture) hshown

end Respond

end ChartBoard.Session
