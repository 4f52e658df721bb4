import ChartBoard.Proofs.Server.Conversation
import ChartBoard.Proofs.Session.PlotSettings

/-!
Lines that a session accepts. `Session.Accepts` says of some lines what they lead to: from whatever
they are heard, all of them are accepted, and what is expected then holds of the session and its
board. Such runs are composed line by line (`Accepts.append`). What is expected of a session is that
it is sound at its place (`Session.Stands`), which every line keeps, and what it has come to: it
holds a chart (`Session.Holds`), or it feeds one, which its slot shows (`Session.Feeds`).
-/

namespace ChartBoard.Session

open Connection

/-- The slot of a session, and how many slots there are. -/
structure Place where
  slot : Nat
  slotCount : Nat

/-- A sound session at its place, whatever it has heard. -/
structure Stands (place : Place) (session : Session) (board : Board) : Prop where
  slot : session.slot = place.slot
  slotCount : board.slotCount = place.slotCount
  sound : session.Sound board

section Stands

variable {place : Place} {session : Session} {board : Board} (h : Stands place session board)

include h

/-- Every line leaves a session at its place. -/
theorem Stands.respond (clock : Clock) (line : String) :
    Stands place (session.respond clock line board).session
      (session.respond clock line board).board := by
  rcases respond_cases h.sound clock line with ⟨-, hpublished⟩ | ⟨-, hquiet⟩
  · exact ⟨hpublished.slot.trans h.slot, hpublished.slotCount.trans h.slotCount, hpublished.sound⟩
  · exact ⟨hquiet.slot.trans h.slot, hquiet.slots.slotCount.trans h.slotCount, hquiet.sound h.sound⟩

theorem Stands.hearAll (clocks : Nat → Clock) (number : Nat) (lines : List String) :
    Stands place (hearAll clocks number lines session board).session
      (hearAll clocks number lines session board).board := by
  induction lines generalizing number session board with
  | nil => exact h
  | cons line lines ih =>
      rw [Connection.hearAll]
      exact ih (h.respond (clocks number) line) (number + 1)

end Stands

/-- A session at its place of which something holds. -/
structure Holds (place : Place) (OfSession : Session → Prop) (session : Session) (board : Board) :
    Prop extends Stands place session board where
  holds : OfSession session

/-- A session with a chart to which plots can be added. -/
structure Ready (OfChart : Chart → Prop) (session : Session) : Prop where
  stage : session.stage = .initialized ∨ session.stage = .feeding
  chart : ∃ chart, session.chart = some chart ∧ OfChart chart

/-- A session that feeds a chart and shows it in its slot. -/
structure Feeds (place : Place) (OfChart : Chart → Prop) (session : Session) (board : Board) :
    Prop extends Stands place session board where
  stage : session.stage = .feeding
  chart : ∃ chart, session.chart = some chart ∧ OfChart chart ∧
    (place.slot < place.slotCount → board.picture? place.slot = some chart.picture)

section Weaken

variable {place : Place} {session : Session} {board : Board} {OfChart OfChart' : Chart → Prop}

theorem Feeds.ready (h : Feeds place OfChart session board) :
    Holds place (Ready OfChart) session board := by
  obtain ⟨chart, hchart, hholds, -⟩ := h.chart
  exact ⟨h.toStands, .inr h.stage, chart, hchart, hholds⟩

theorem Feeds.imp (h : Feeds place OfChart session board)
    (himp : ∀ chart, OfChart chart → OfChart' chart) :
    Feeds place OfChart' session board := by
  obtain ⟨chart, hchart, hholds, hshown⟩ := h.chart
  exact ⟨h.toStands, h.stage, chart, hchart, himp chart hholds, hshown⟩

end Weaken

/-- Lines that are all accepted, and what they lead to. -/
def Accepts (Before : Session → Board → Prop) (lines : List String)
    (After : Session → Board → Prop) : Prop :=
  ∀ clocks number session board, Before session board →
    let heard := hearAll clocks number lines session board
    (∀ reply ∈ heard.replies, reply = .ok) ∧ After heard.session heard.board

section Accepts

variable {Before Middle After : Session → Board → Prop} {lines later : List String}

theorem accepts_nil : Accepts Before [] Before :=
  fun _ _ _ _ h => ⟨fun _ hreply => (nomatch hreply), h⟩

theorem Accepts.append (h : Accepts Before lines Middle) (h' : Accepts Middle later After) :
    Accepts Before (lines ++ later) After := by
  intro clocks number session board hbefore
  obtain ⟨haccepted, hmiddle⟩ := h clocks number session board hbefore
  obtain ⟨hlater, hafter⟩ := h' clocks (number + lines.length) _ _ hmiddle
  rw [hearAll_append]
  exact ⟨List.forall_mem_append.mpr ⟨haccepted, hlater⟩, hafter⟩

theorem Accepts.imp {Before' After' : Session → Board → Prop} (h : Accepts Before lines After)
    (hbefore : ∀ session board, Before' session board → Before session board)
    (hafter : ∀ session board, After session board → After' session board) :
    Accepts Before' lines After' := by
  intro clocks number session board hholds
  obtain ⟨haccepted, hreached⟩ := h clocks number session board (hbefore session board hholds)
  exact ⟨haccepted, hafter _ _ hreached⟩

theorem accepts_singleton {line : String}
    (h : ∀ clock session board, Before session board →
      (session.respond clock line board).reply = .ok ∧
        After (session.respond clock line board).session (session.respond clock line board).board) :
    Accepts Before [line] After := by
  intro clocks number session board hbefore
  obtain ⟨hreply, hafter⟩ := h (clocks number) session board hbefore
  simp only [hearAll]
  exact ⟨List.forall_mem_singleton.mpr hreply, hafter⟩

/-- Lines of which each leads back to where it was heard. -/
theorem accepts_each (h : ∀ line ∈ lines, Accepts Before [line] Before) :
    Accepts Before lines Before := by
  induction lines with
  | nil => exact accepts_nil
  | cons line lines ih =>
      obtain ⟨hline, hlater⟩ := List.forall_mem_cons.mp h
      exact hline.append (ih hlater)

end Accepts

section Line

variable {place : Place} {line : String} {command : Command}
    (hread : Command.read line = .ok command)

include hread

/-- A line is replied to as its command is performed. -/
theorem respond_read (clock : Clock) (session : Session) (board : Board) :
    (session.respond clock line board).reply =
        replyTo (session.perform clock command board).result ∧
      (session.respond clock line board).session = (session.perform clock command board).session ∧
      (session.perform clock command board).board.SameSlots
        (session.respond clock line board).board := by
  have hprocess : session.process clock (withoutLineEnd line) board =
      session.perform clock command board := by
    rw [process, read_withoutLineEnd, hread]
  simp only [respond, hprocess, true_and]
  exact Board.sameSlots_echo _ _

theorem accepts_command {OfSession OfSession' : Session → Prop}
    (h : ∀ clock session board, OfSession session →
      (session.perform clock command board).result = .ok () ∧
        OfSession' (session.perform clock command board).session) :
    Accepts (Holds place OfSession) [line] (Holds place OfSession') := by
  refine accepts_singleton fun clock session board hbefore => ?_
  obtain ⟨hreply, hsession, -⟩ := respond_read hread clock session board
  obtain ⟨hresult, hafter⟩ := h clock session board hbefore.holds
  rw [hresult] at hreply
  refine ⟨hreply, hbefore.toStands.respond clock line, ?_⟩
  rw [hsession]
  exact hafter

end Line

section Plots

variable {place : Place} {line : String} {OfChart OfChart' : Chart → Prop}

/-- A plot for which there is room is added and shown with the chart. -/
theorem accepts_addPlot (hread : Command.read line = .ok .addPlot)
    (h : ∀ chart, OfChart chart → ∃ after, chart.addPlot = .ok after ∧ OfChart' after.settled) :
    Accepts (Holds place (Ready OfChart)) [line] (Feeds place OfChart') := by
  refine accepts_singleton fun clock session board hbefore => ?_
  obtain ⟨hstage, chart, hchart, hholds⟩ := hbefore.holds
  obtain ⟨after, hadd, hafter⟩ := h chart hholds
  obtain ⟨hreply, hsettled, hshown⟩ := respond_addPlot hchart hread hadd hstage clock board
  have hfeeding : (session.respond clock line board).session.stage = .feeding := by
    rw [(respond_read hread clock session board).2.1, perform, addPlot_eq board hchart hstage hadd]
    rfl
  refine ⟨hreply, hbefore.toStands.respond clock line, hfeeding, after.settled, hsettled,
    hafter, ?_⟩
  rw [← hbefore.slot, ← hbefore.slotCount]
  exact hshown

/-- A command on the plots that is taken by every chart of one kind and makes it one of another. -/
def Updates (OfChart : Chart → Prop) (command : Command) (OfChart' : Chart → Prop) : Prop :=
  ∀ clock, ∃ step, command.onPlots? clock = some step ∧
    ∀ chart, OfChart chart → (step chart).result = .ok () ∧ OfChart' (step chart).chart.settled

/-- A command on the plots is published while the chart is being fed. -/
theorem perform_onPlots {clock : Clock} {command : Command} {step : Chart → Fed}
    (hstep : command.onPlots? clock = some step) {session : Session}
    (hstage : session.stage = .feeding) (board : Board) :
    ∃ action, session.perform clock command board = session.withChart action step board := by
  cases command with
  | clear index | replot index =>
      obtain rfl := Option.some.inj hstep
      exact ⟨_, rfl⟩
  | data data =>
      obtain rfl := Option.some.inj hstep
      refine ⟨.addValues, ?_⟩
      rw [perform, feed, if_pos hstage]
  | comment | set | init | addPlot | enableStatus => cases hstep

theorem accepts_onPlots {command : Command} (hread : Command.read line = .ok command)
    (h : Updates OfChart command OfChart') :
    Accepts (Feeds place OfChart) [line] (Feeds place OfChart') := by
  refine accepts_singleton fun clock session board hbefore => ?_
  obtain ⟨step, hstep, hupdates⟩ := h clock
  obtain ⟨chart, hchart, hholds, -⟩ := hbefore.chart
  obtain ⟨hresult, hafter⟩ := hupdates chart hholds
  obtain ⟨hreply, hsession, hslots⟩ := respond_read hread clock session board
  obtain ⟨action, hperform⟩ := perform_onPlots hstep hbefore.stage board
  obtain ⟨hturn, hstage, hsettled⟩ := withChart_outcome hchart action step board
  have hpublished := published_withChart hbefore.sound (Command.advances_onPlots hstep)
    hbefore.stage action
  rw [hperform] at hreply hsession hslots
  rw [hturn, hresult] at hreply
  refine ⟨hreply, hbefore.toStands.respond clock line, ?_, (step chart).chart.settled, ?_,
    hafter, ?_⟩
  · rw [hsession, hstage, hbefore.stage]
  · rw [hsession, hsettled]
  · intro hin
    obtain ⟨shown, hshown, hpicture⟩ := hpublished.shows
    obtain rfl := Option.some.inj (hsettled.symm.trans hshown)
    rw [Board.picture?, hslots.shown?, ← hbefore.slot]
    rw [← hbefore.slot, ← hbefore.slotCount] at hin
    exact hpicture hin

end Plots

end ChartBoard.Session
