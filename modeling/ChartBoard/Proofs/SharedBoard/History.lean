import ChartBoard.Proofs.Session.History
import ChartBoard.Proofs.SharedBoard.Basic

/-!
The stage of a session tells its history, whatever the other sessions on the board do: which
stage it is in, whether it has a chart and how many plots the chart has follow from the
commands that the session has accepted (`stage_tells_history`). In return the stage tells
what may come next: a chart that is initialised takes a plot, and values are refused for
want of an initialisation exactly as long as the session does not feed its chart.
-/

namespace ChartBoard.SharedBoard

variable {Name : Type} [DecidableEq Name]

/-- The commands that a session accepts in a run, the oldest first. -/
def historyOf (name : Name) : List (Message Name) → SharedBoard Name → History
  | [], _ => []
  | message :: messages, state =>
      let later := historyOf name messages (state.hear message)
      if message.recipient = name then
        ((state.sessions name).accepted? message.clock message.line state.board).toList ++ later
      else
        later

theorem Consistent.bears_hearAll {state : SharedBoard Name} (h : state.Consistent) {name : Name}
    {history : History} (hbears : (state.sessions name).Bears history)
    (messages : List (Message Name)) :
    ((state.hearAll messages).sessions name).Bears (history ++ state.historyOf name messages) := by
  induction messages generalizing state history with
  | nil =>
      rw [historyOf, List.append_nil]
      exact hbears
  | cons message messages ih =>
      rw [hearAll_cons, historyOf]
      by_cases hname : message.recipient = name
      · subst hname
        rw [if_pos rfl, ← List.append_assoc]
        refine ih (h.hear message) ?_
        rw [hear_recipient]
        exact Session.bears_respond (h.sound _) hbears message.clock message.line
      · rw [if_neg hname]
        refine ih (h.hear message) ?_
        rw [hear_other (Ne.symm hname)]
        exact hbears

theorem hasChart_reached (slotOf : Name → Nat) (board : Board) (messages : List (Message Name))
    (name : Name)
    (hstage : (((fresh slotOf board).hearAll messages).sessions name).stage ≠ .noType) :
    ∃ chart, (((fresh slotOf board).hearAll messages).sessions name).chart = some chart :=
  ((consistent_fresh slotOf board).bears_hearAll (Session.bears_nil rfl rfl)
    messages).hasChart hstage

/-- Stage, chart and plots of a session are told by what it has accepted: the last choice of
a kind, the last initialisation since, and the plots added since then. -/
theorem stage_tells_history (slotOf : Name → Nat) (slotCount : Nat) (settings : BoardSettings)
    (window : Option Window) (messages : List (Message Name)) (name : Name) :
    let start := fresh slotOf (Board.create slotCount settings window)
    let state := start.hearAll messages
    let session := state.sessions name
    let history := start.historyOf name messages
    (session.stage = .noType ↔ history.sinceKind? = none) ∧
    (session.chart = none ↔ history.sinceKind? = none) ∧
    (session.stage = .typeSelected ∨ session.stage = .configured ↔
      history.sinceKind?.isSome = true ∧ history.sinceInit? = none) ∧
    (session.stage = .configured ↔ history.sinceInit? = none ∧
      ∃ since, history.sinceKind? = some since ∧ ∃ command ∈ since, command.setsAttribute = true) ∧
    (session.stage = .initialized ↔ history.sinceInit?.isSome = true ∧ history.plotCount = 0) ∧
    (session.stage = .feeding ↔ 0 < history.plotCount) ∧
    (∀ chart, session.chart = some chart →
      chart.plotCount = history.plotCount ∧ chart.pending = [] ∧
        (chart.kind = .bar → chart.plotCount ≤ 1) ∧ (chart.kind = .dial → chart.plotCount ≤ 2)) ∧
    ∀ clock line,
      (Command.read line = .ok .addPlot → session.stage = .initialized →
        (session.process clock line state.board).result = .ok ()) ∧
      ∀ data, Command.read line = .ok (.data data) →
        ((∃ action, (session.process clock line state.board).result =
          .error (.notInitialized action)) ↔ session.stage ≠ .feeding) := by
  intro start state session history
  have hstart : start.Consistent := consistent_fresh slotOf _
  have hsound : session.Sound state.board := (hstart.hearAll messages).sound name
  have hbears : session.Bears history :=
    hstart.bears_hearAll (Session.bears_nil rfl rfl) messages
  obtain ⟨hnoType, huninitialized, hconfigured, hinitialized, hfeeding⟩ := history.stage_iff
  rw [← hbears.stage] at hnoType huninitialized hconfigured hinitialized hfeeding
  refine ⟨hnoType, hbears.chart_eq_none_iff, huninitialized, hconfigured, hinitialized, hfeeding,
    ?_, ?_⟩
  · intro chart hchart
    have houtline : session.chart.map Chart.outline = some chart.outline := by rw [hchart]; rfl
    have hroom := hbears.room _ houtline
    refine ⟨hbears.plotCount _ houtline, (hsound.settled chart hchart).1, ?_, ?_⟩
    · intro hbar
      exact hroom 1 (by rw [Chart.outline, hbar]; rfl)
    · intro hdial
      exact hroom 2 (by rw [Chart.outline, hdial]; rfl)
  · intro clock line
    constructor
    · intro hread hinitialized
      rw [Session.process, hread]
      exact Session.addPlot_accepted hbears hinitialized
    · intro data hread
      rw [Session.process, hread]
      exact Session.feed_notInitialized_iff hsound clock data

/-- A dial chart has had two plots, refused a third and been initialised again; so it has
none, takes one, and takes no value before that. -/
theorem stage_tells_history_second_init :
    let lines := [(true, "set graph=dial"), (true, "set plot_title=T"), (false, "set graph=bar"),
      (true, "init"), (true, "add_plot"), (true, "add_plot"), (false, "init"), (true, "add_plot"),
      (true, "init")]
    let messages := lines.map fun (name, line) => (⟨name, fun _ => 0, line⟩ : Message Bool)
    let start := fresh (fun _ => 0) (Board.create 1 {} none)
    let state := start.hearAll messages
    let session := state.sessions true
    let result line := (session.process (fun _ => 0) line state.board).result
    start.historyOf true messages = [.set "graph" "dial", .set "plot_title" "T", .init, .addPlot,
        .addPlot, .init] ∧
      session.stage = .initialized ∧
      (∃ chart, session.chart = some chart ∧ chart.kind = .dial ∧ chart.plotCount = 0 ∧
        chart.plotCount ≤ 2 ∧ chart.pending = []) ∧
      Command.read "add_plot" = .ok .addPlot ∧ result "add_plot" = .ok () ∧
      Command.read "1" = .ok (.data (.sequential [.ofNat 1])) ∧
      ∃ action, result "1" = .error (.notInitialized action) := by
  intro lines messages start state session result
  have hhistory : start.historyOf true messages = [.set "graph" "dial", .set "plot_title" "T",
      .init, .addPlot, .addPlot, .init] := by
    decide +kernel
  have hplot : Command.read "add_plot" = .ok .addPlot := by decide +kernel
  have hvalue : Command.read "1" = .ok (.data (.sequential [.ofNat 1])) := by decide +kernel
  obtain ⟨chart, hchart⟩ : ∃ chart, session.chart = some chart :=
    Option.isSome_iff_exists.mp (by decide +kernel)
  have hkind : session.chart.map Chart.kind = some .dial := by decide +kernel
  rw [hchart, Option.map_some, Option.some.injEq] at hkind
  obtain ⟨-, -, -, -, hinitialized, -, hplots, hlines⟩ :=
    stage_tells_history (fun _ => 0) 1 {} none messages true
  have hstage : session.stage = .initialized := by
    refine hinitialized.mpr ?_
    rw [hhistory]
    decide +kernel
  obtain ⟨hcount, hpending, -, hdial⟩ := hplots chart hchart
  rw [hhistory] at hcount
  refine ⟨hhistory, hstage, ⟨chart, hchart, hkind, hcount, hdial hkind, hpending⟩, hplot, ?_,
    hvalue, ?_⟩
  · exact (hlines _ "add_plot").1 hplot hstage
  · exact ((hlines _ "1").2 _ hvalue).mpr (by rw [hstage]; decide)

end ChartBoard.SharedBoard
