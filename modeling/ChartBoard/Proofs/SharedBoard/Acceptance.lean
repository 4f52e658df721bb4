import ChartBoard.Proofs.Chart.Acceptance
import ChartBoard.Proofs.Protocol.Grammar
import ChartBoard.Proofs.SharedBoard.Basic

/-!
Which lines of values a feeding session accepts: those of a form that its kind of chart supports,
with a plot for each of their values (`Outline.Supports`). There is one exception. Support for
values without an index is asked for value by value, so a line of nothing but separators, which
is read as no values at all, is accepted in the plane too, where that form is not supported.
-/

namespace ChartBoard

open Text

namespace Outline

/-- A form that the kind of chart supports, and a plot for each value. -/
def Supports (outline : Outline) : DataLine → Prop
  | .sequential values =>
      outline.kind ∈ [ChartKind.time, .bar, .dial] ∧ values.length ≤ outline.plotCount
  | .points points => outline.kind = .xy ∧ ∀ p ∈ points, p.plot < outline.plotCount
  | .timed index _ _ => outline.kind = .time ∧ index < outline.plotCount

variable (outline : Outline)

theorem mem_sequential_iff : outline.kind ∈ [ChartKind.time, .bar, .dial] ↔ outline.kind ≠ .xy := by
  cases outline.kind <;> decide

theorem plotRefusal?_eq_none_iff (index : Nat) :
    outline.plotRefusal? index = none ↔ index < outline.plotCount := by
  rw [plotRefusal?]
  split <;> simp [*]

/-- Nothing speaks against a line of values of a supported form, nor against one without any
values in the plane. -/
theorem lineRefusal?_eq_none_iff {data : DataLine} (hpoints : data ≠ .points []) :
    outline.lineRefusal? data = none ↔
      outline.Supports data ∨ outline.kind = .xy ∧ data = .sequential [] := by
  cases data with
  | sequential values =>
      rw [lineRefusal?, Supports, mem_sequential_iff]
      by_cases hmany : outline.plotCount < values.length
      · have hsome : values ≠ [] := by
          rintro rfl
          exact absurd hmany (Nat.not_lt_zero _)
        simp [hmany, hsome]
      · rw [if_neg hmany]
        by_cases hxy : outline.kind = .xy
        · simp [hxy]
        · simp [hxy, Nat.le_of_not_lt hmany]
  | points points =>
      have hsome : points ≠ [] := fun hnone => hpoints (congrArg _ hnone)
      rw [lineRefusal?, Supports]
      cases hbad : points.find? fun p => outline.plotCount ≤ p.plot with
      | some p =>
          have hmem := List.mem_of_find?_eq_some hbad
          have hmissing : outline.plotCount ≤ p.plot := by simpa using List.find?_some hbad
          have hnone : ¬∀ p ∈ points, p.plot < outline.plotCount := fun hall =>
            absurd (hall p hmem) (Nat.not_lt.mpr hmissing)
          simp [hnone]
      | none =>
          have hall : ∀ p ∈ points, p.plot < outline.plotCount := fun p hp => by
            simpa using List.find?_eq_none.mp hbad p hp
          by_cases hxy : outline.kind = .xy
          · simpa [hxy] using hall
          · simp [hxy, hsome]
  | timed index time y =>
      rw [lineRefusal?, timedRefusal?, Supports]
      by_cases htime : outline.kind = .time
      · simp [htime, plotRefusal?_eq_none_iff]
      · simp [htime]

end Outline

namespace Session

/-- A line of values in a feeding session is decided by the outline of the session's chart. -/
theorem process_data_result {session : Session} {board : Board} {clock : Clock} {line : String}
    {data : DataLine} (hread : Command.read line = .ok (.data data)) {chart : Chart}
    (hchart : session.chart = some chart) (hstage : session.stage = .feeding) :
    (session.process clock line board).result = verdict (chart.outline.lineRefusal? data) := by
  rw [process, hread, ← Chart.feed_result clock data chart]
  dsimp only [perform]
  rw [feed, if_pos hstage]
  exact (withChart_outcome hchart .addValues (Chart.feed clock data) board).1

end Session

theorem verdict_eq_ok_iff {refusal? : Option Refusal} :
    verdict refusal? = .ok () ↔ refusal? = none := by
  cases refusal? <;> simp [verdict]

namespace SharedBoard

variable {Name : Type} [DecidableEq Name]

/-- Whatever has gone on before, a feeding session has a chart, and it accepts a line of values
exactly if the chart supports its form and has the plots for it, or the chart is a plane and the
line is made of separators. So these lines in the plane are the ones that are accepted without
being supported. -/
theorem data_line_accepted_iff (slotOf : Name → Nat) (board : Board)
    (messages : List (Message Name)) (name : Name) (clock : Clock) (line : String) (data : DataLine)
    (hfeeding : (((fresh slotOf board).hearAll messages).sessions name).stage = .feeding)
    (hread : Command.read line = .ok (.data data)) :
    let state := (fresh slotOf board).hearAll messages
    let session := state.sessions name
    let turn := session.process clock line state.board
    ∃ chart, session.chart = some chart ∧
      (turn.result = .ok () ↔ chart.outline.Supports data ∨
        chart.kind = .xy ∧ ∀ c ∈ line.toList, Command.separatesValues c = true) ∧
      ((turn.result = .ok () ↔ chart.outline.Supports data) ↔
        ¬(chart.kind = .xy ∧ ∀ c ∈ line.toList, Command.separatesValues c = true)) := by
  intro state session turn
  have hsound : session.Sound state.board := (consistent_reached slotOf board messages).sound name
  obtain ⟨chart, hchart⟩ := hsound.hasChart hfeeding
  have hdata := Command.dataText_of_read hread
  have hpoints : data ≠ .points [] := by
    rintro rfl
    exact Command.points_ne_nil hdata rfl
  have hblank : ∀ c, isBlank c = true → Command.separatesValues c = true := fun c hc => by
    simp [Command.separatesValues, hc]
  have hempty : data = .sequential [] ↔ ∀ c ∈ line.toList, Command.separatesValues c = true := by
    rw [Command.sequential_nil_iff hdata, ← tokens_eq_nil_iff, tokens_trim hblank,
      tokens_eq_nil_iff]
  have hresult : turn.result = .ok () ↔ chart.outline.Supports data ∨
      chart.kind = .xy ∧ ∀ c ∈ line.toList, Command.separatesValues c = true := by
    rw [← hempty]
    dsimp only [turn]
    rw [Session.process_data_result hread hchart hfeeding, verdict_eq_ok_iff]
    exact chart.outline.lineRefusal?_eq_none_iff hpoints
  refine ⟨chart, hchart, hresult, ?_⟩
  rw [hresult, ← hempty]
  constructor
  · rintro hsame ⟨hxy, rfl⟩
    have hsupports := hsame.mp (.inr ⟨hxy, rfl⟩)
    exact chart.outline.mem_sequential_iff.mp hsupports.1 hxy
  · intro hnot
    exact or_iff_left hnot

/-- Two plots over time take two values. -/
theorem data_line_accepted_iff_two_values :
    let messages := ["set graph=time", "init", "add_plot", "add_plot"].map fun line =>
      (⟨true, fun _ => 0, line⟩ : Message Bool)
    let state := (fresh (fun _ => 0) (Board.create 1 {} none)).hearAll messages
    let session := state.sessions true
    session.stage = .feeding ∧
      Command.read "1 2" = .ok (.data (.sequential [.ofNat 1, .ofNat 2])) ∧
      (session.process (fun _ => 0) "1 2" state.board).result = .ok () := by
  intro messages state session
  have hfeeding : session.stage = .feeding := by decide +kernel
  have hread : Command.read "1 2" = .ok (.data (.sequential [.ofNat 1, .ofNat 2])) := by
    decide +kernel
  obtain ⟨chart, hchart, haccepted, -⟩ :=
    data_line_accepted_iff (fun _ => 0) (Board.create 1 {} none) messages true (fun _ => 0) "1 2" _
      hfeeding hread
  have houtline : session.chart.map Chart.outline = some ⟨.time, 2⟩ := by decide +kernel
  have hsupports : chart.outline = ⟨.time, 2⟩ := by
    rw [show session.chart = some chart from hchart] at houtline
    exact Option.some.inj houtline
  refine ⟨hfeeding, hread, haccepted.mpr (.inl ?_)⟩
  rw [hsupports]
  exact ⟨by decide, by decide⟩

/-- A plane accepts a line of one separator, which is read as values without an index. -/
theorem separator_accepted_by_plane :
    let messages := ["set graph=xy", "init", "add_plot"].map fun line =>
      (⟨true, fun _ => 0, line⟩ : Message Bool)
    let state := (fresh (fun _ => 0) (Board.create 1 {} none)).hearAll messages
    let session := state.sessions true
    session.stage = .feeding ∧ Command.read "," = .ok (.data (.sequential [])) ∧
      (session.process (fun _ => 0) "," state.board).result = .ok () ∧
      ∀ chart, session.chart = some chart → ¬chart.outline.Supports (.sequential []) := by
  intro messages state session
  refine ⟨by decide +kernel, by decide +kernel, by decide +kernel, ?_⟩
  intro chart hchart hsupports
  have hkind : session.chart.map Chart.kind = some .xy := by decide +kernel
  rw [hchart] at hkind
  exact chart.outline.mem_sequential_iff.mp hsupports.1 (Option.some.inj hkind)

end SharedBoard

end ChartBoard
