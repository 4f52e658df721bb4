import ChartBoard.Proofs.SharedBoard.Basic

/-!
A refused line leaves its session as it was. Most refusals come before anything has been
done. On the plots of a chart that is fed, whatever has been done is published also after
a refusal; but then nothing has been done, for a line of values is refused before its
first value is taken. So all values of a line are taken, or none
(`refused_line_leaves_session`).
-/

namespace ChartBoard

instance decidableEqOutcome {ε α : Type} [DecidableEq ε] [DecidableEq α] :
    DecidableEq (Except ε α)
  | .ok x, .ok y => decidable_of_iff (x = y) (by simp)
  | .error refusal, .error other => decidable_of_iff (refusal = other) (by simp)
  | .ok _, .error _ => isFalse (by simp)
  | .error _, .ok _ => isFalse (by simp)

namespace Session

/-- What a refusal leaves alone: the whole chart, and how far the session is with it. -/
structure Kept (session : Session) (turn : Turn) : Prop where
  chart : turn.session.chart = session.chart
  stage : turn.session.stage = session.stage

/-- A turn that keeps the session if it is refused. -/
def KeptIfRefused (session : Session) (turn : Turn) : Prop :=
  ∀ refusal, turn.result = .error refusal → session.Kept turn

theorem keptIfRefused_refuse (session : Session) (board : Board) (refusal : Refusal) :
    session.KeptIfRefused (session.refuse refusal board) := fun _ _ => ⟨rfl, rfl⟩

theorem keptIfRefused_of_ok {session : Session} {turn : Turn} (h : turn.result = .ok ()) :
    session.KeptIfRefused turn := by
  intro refusal hrefused
  rw [h] at hrefused
  cases hrefused

/-- A step that does nothing when it is refused keeps the session, for there was nothing
left to settle. -/
theorem keptIfRefused_withChart {session : Session} {board : Board}
    (hsound : session.Sound board) {step : Chart → Fed}
    (hstep : ∀ chart refusal, (step chart).result = .error refusal → (step chart).chart = chart)
    (action : Action) : session.KeptIfRefused (session.withChart action step board) := by
  intro refusal hrefused
  cases hchart : session.chart with
  | none =>
      rw [withChart, hchart]
      exact ⟨rfl, rfl⟩
  | some chart =>
      obtain ⟨hresult, hstage, hafter⟩ := withChart_outcome hchart action step board
      rw [hresult] at hrefused
      have hpending := (hsound.settled chart hchart).1
      have hsettled : chart.settled = chart := by
        rw [Chart.settled, ← hpending]
      refine ⟨?_, hstage⟩
      rw [hafter, hstep chart refusal hrefused, hsettled, hchart]

end Session

namespace Chart

theorem attempt_refused {step : Chart → Except Refusal Chart} (chart : Chart) (refusal : Refusal)
    (h : (attempt step chart).result = .error refusal) : (attempt step chart).chart = chart := by
  unfold attempt at h ⊢
  cases hstep : step chart with
  | ok next =>
      rw [hstep] at h
      cases h
  | error _ => rfl

theorem feed_refused (clock : Clock) (data : DataLine) (chart : Chart) (refusal : Refusal)
    (h : (feed clock data chart).result = .error refusal) :
    (feed clock data chart).chart = chart := by
  rcases decided clock data chart with ⟨_, _, hfeed⟩ | ⟨_, next, _, hfeed, _⟩
  · rw [hfeed]
  · rw [hfeed] at h
    cases h

theorem feed_accepted {clock : Clock} {data : DataLine} {chart : Chart}
    (h : (feed clock data chart).result = .ok ()) :
    chart.takeAll (data.steps clock) = .ok (feed clock data chart).chart := by
  rcases decided clock data chart with ⟨_, _, hfeed⟩ | ⟨_, next, htaken, hfeed, _⟩
  · rw [hfeed] at h
    cases h
  · rw [hfeed]
    exact htaken

end Chart

/-- What is refused on the plots of a chart has not touched the chart. -/
theorem Command.refused_onPlots {clock : Clock} {command : Command} {step : Chart → Fed}
    (h : command.onPlots? clock = some step) (chart : Chart) (refusal : Refusal)
    (hrefused : (step chart).result = .error refusal) : (step chart).chart = chart := by
  cases command with
  | clear | replot =>
      obtain rfl := Option.some.inj h
      exact Chart.attempt_refused chart refusal hrefused
  | data values =>
      obtain rfl := Option.some.inj h
      exact Chart.feed_refused clock values chart refusal hrefused
  | comment | set | init | addPlot | enableStatus => cases h

namespace Session

theorem Outcome.keptIfRefused {clock : Clock} {session : Session} {board : Board}
    {command : Command} {turn : Turn} (h : session.Outcome clock board command turn)
    (hsound : session.Sound board) : session.KeptIfRefused turn := by
  cases h with
  | refused _ refusal => exact keptIfRefused_refuse session board refusal
  | works hstep action =>
      exact keptIfRefused_withChart hsound (Command.refused_onPlots hstep) action
  | ignored | choosesKind | arranges | titles | configures | initializes | addsPlot
  | enablesStatus => exact keptIfRefused_of_ok rfl

theorem keptIfRefused_process {session : Session} {board : Board} (hsound : session.Sound board)
    (clock : Clock) (line : String) :
    session.KeptIfRefused (session.process clock line board) := by
  unfold process
  cases Command.read line with
  | error refusal => exact keptIfRefused_refuse session board refusal
  | ok command => exact (perform_outcome clock session board command).keptIfRefused hsound

/-- An accepted line of values has been taken with all of its values. -/
theorem process_data_accepted {session : Session} {board : Board} {clock : Clock} {line : String}
    {data : DataLine} (hread : Command.read line = .ok (.data data)) {chart : Chart}
    (hchart : session.chart = some chart)
    (haccepted : (session.process clock line board).result = .ok ()) :
    ∃ next, chart.takeAll (data.steps clock) = .ok next ∧
      (session.process clock line board).session.chart = some next.settled := by
  rw [process, hread] at haccepted ⊢
  dsimp only [perform] at haccepted ⊢
  by_cases hstage : session.stage = .feeding
  · rw [feed, if_pos hstage] at haccepted ⊢
    obtain ⟨hresult, -, hafter⟩ := withChart_outcome hchart .addValues (Chart.feed clock data) board
    rw [hresult] at haccepted
    exact ⟨_, Chart.feed_accepted haccepted, hafter⟩
  · rw [feed, if_neg hstage] at haccepted
    cases haccepted

end Session

namespace SharedBoard

variable {Name : Type} [DecidableEq Name]

/-- Whatever has gone on before, a refused line leaves the chart and the stage of its
session as they were, with no change waiting to be shown; and an accepted line of values
has been taken as a whole. -/
theorem refused_line_leaves_session (slotOf : Name → Nat) (slotCount : Nat)
    (settings : BoardSettings) (window : Option Window) (messages : List (Message Name))
    (name : Name) (clock : Clock) (line : String) :
    let state := (fresh slotOf (Board.create slotCount settings window)).hearAll messages
    let session := state.sessions name
    let turn := session.process clock line state.board
    (∀ refusal, turn.result = .error refusal →
      turn.session.chart = session.chart ∧ turn.session.stage = session.stage ∧
        ∀ chart, turn.session.chart = some chart → chart.pending = []) ∧
    (∀ data chart, Command.read line = .ok (.data data) → session.chart = some chart →
      turn.result = .ok () →
        ∃ next, chart.takeAll (data.steps clock) = .ok next ∧
          turn.session.chart = some next.settled) := by
  intro state session turn
  have hsound : session.Sound state.board :=
    (consistent_reached slotOf (Board.create slotCount settings window) messages).sound name
  constructor
  · intro refusal hrefused
    have hkept := Session.keptIfRefused_process hsound clock line refusal hrefused
    refine ⟨hkept.chart, hkept.stage, ?_⟩
    intro chart hchart
    rw [hkept.chart] at hchart
    exact (hsound.settled chart hchart).1
  · intro data chart hread hchart haccepted
    exact Session.process_data_accepted hread hchart haccepted

/-- Of two points for the plane the second has no plot, so the first is not taken either;
with a plot for each both are. -/
theorem refused_line_leaves_session_two_points :
    let lines := ["set graph=xy", "init", "add_plot", "add_plot", "0:1:2"]
    let messages := lines.map fun line => (⟨true, fun _ => 0, line⟩ : Message Bool)
    let state := (fresh (fun _ => 0) (Board.create 1 {} none)).hearAll messages
    let session := state.sessions true
    let turn line := session.process (fun _ => 0) line state.board
    ((turn "0:3:4 2:5:6").result = .error (.noSuchPlot .xy 2 2) ∧
      (turn "0:3:4 2:5:6").session.chart = session.chart ∧
      (turn "0:3:4 2:5:6").session.stage = session.stage ∧
      ∀ chart, (turn "0:3:4 2:5:6").session.chart = some chart → chart.pending = []) ∧
    ∃ data chart next, Command.read "0:3:4 1:5:6" = .ok (.data data) ∧
      session.chart = some chart ∧ (turn "0:3:4 1:5:6").result = .ok () ∧
      chart.takeAll (data.steps fun _ => 0) = .ok next ∧
      (turn "0:3:4 1:5:6").session.chart = some next.settled := by
  intro lines messages state session turn
  have hrefused : (turn "0:3:4 2:5:6").result = .error (.noSuchPlot .xy 2 2) := by
    decide +kernel
  have haccepted : (turn "0:3:4 1:5:6").result = .ok () := by
    decide +kernel
  have hread : Command.read "0:3:4 1:5:6" = .ok (.data (.points
      [⟨0, .ofNat 3, .ofNat 4⟩, ⟨1, .ofNat 5, .ofNat 6⟩])) := by
    decide +kernel
  obtain ⟨chart, hchart⟩ : ∃ chart, session.chart = some chart :=
    Option.isSome_iff_exists.mp (by decide +kernel)
  dsimp only [turn, session, state] at hrefused haccepted hchart ⊢
  obtain ⟨hkeeps, -⟩ := refused_line_leaves_session (fun _ => 0) 1 {} none messages true
    (fun _ => 0) "0:3:4 2:5:6"
  obtain ⟨-, htakes⟩ := refused_line_leaves_session (fun _ => 0) 1 {} none messages true
    (fun _ => 0) "0:3:4 1:5:6"
  obtain ⟨next, htaken, hafter⟩ := htakes _ chart hread hchart haccepted
  exact ⟨⟨hrefused, hkeeps _ hrefused⟩, _, chart, next, hread, hchart, haccepted, htaken, hafter⟩

end SharedBoard

end ChartBoard
