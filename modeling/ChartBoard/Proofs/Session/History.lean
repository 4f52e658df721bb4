import ChartBoard.Proofs.Session.RefusedTurns
import ChartBoard.Proofs.SharedBoard.Refusals
import Mathlib.Data.List.DropRight

/-!
What a session has been told. Its history is the list of the commands that it has accepted.
From the history alone one reads off how far the session is: the last choice of a kind of
chart counts, behind it the last initialisation, and behind that the plots that have been
added. A session bears its history out (`Bears`), and every accepted command keeps it so;
a refused line leaves both as they are.
-/

namespace ChartBoard

namespace Command

/-- Whether the command, once it is accepted, begins a new chart. -/
def choosesKind : Command → Bool
  | .set name _ => name == SettingName.graph
  | _ => false

/-- Whether the command sets an attribute of a chart, and nothing of the session or of the
board. -/
def setsAttribute : Command → Bool
  | .set name _ =>
      name != SettingName.graph && name != SettingName.grid && name != SettingName.frameTitle
  | _ => false

end Command

/-- The commands that a session has accepted, the oldest first. -/
abbrev History := List Command

namespace History

/-- The commands behind the last one with a property, if there is one. -/
def behindLast? (p : Command → Bool) (history : History) : Option History :=
  if history.any p then some (history.rtakeWhile fun command => !p command) else none

/-- The commands behind the last choice of a kind. -/
def sinceKind? (history : History) : Option History := history.behindLast? Command.choosesKind

/-- The commands behind the last initialisation of the chart chosen last. -/
def sinceInit? (history : History) : Option History :=
  history.sinceKind?.bind (behindLast? fun command => command == .init)

/-- The number of plots added since. -/
def plotCount (history : History) : Nat := (history.sinceInit?.getD []).count .addPlot

def stage (history : History) : Stage :=
  match history.sinceKind?, history.sinceInit? with
  | none, _ => .noType
  | some sinceKind, none =>
      if sinceKind.any Command.setsAttribute then .configured else .typeSelected
  | some _, some _ => if history.plotCount = 0 then .initialized else .feeding

theorem behindLast?_concat (p : Command → Bool) (history : History) (command : Command) :
    behindLast? p (history ++ [command]) =
      if p command then some [] else (history.behindLast? p).map (· ++ [command]) := by
  unfold behindLast?
  rw [List.any_append, List.rtakeWhile_concat]
  by_cases hp : p command = true
  · simp [hp]
  · simp [hp]

section Concat

variable (history : History) {command : Command}

theorem sinceKind?_chooses (h : command.choosesKind = true) :
    sinceKind? (history ++ [command]) = some [] := by
  rw [sinceKind?, behindLast?_concat, if_pos h]

theorem sinceKind?_concat (h : command.choosesKind = false) :
    sinceKind? (history ++ [command]) = history.sinceKind?.map (· ++ [command]) := by
  rw [sinceKind?, behindLast?_concat, h]
  rfl

theorem sinceInit?_init :
    sinceInit? (history ++ [.init]) = history.sinceKind?.map fun _ => [] := by
  rw [sinceInit?, sinceKind?_concat history rfl]
  cases history.sinceKind? with
  | none => rfl
  | some since => simp [behindLast?_concat]

theorem sinceInit?_concat (hkind : command.choosesKind = false) (hinit : command ≠ .init) :
    sinceInit? (history ++ [command]) = history.sinceInit?.map (· ++ [command]) := by
  rw [sinceInit?, sinceInit?, sinceKind?_concat history hkind]
  cases history.sinceKind? with
  | none => rfl
  | some since => simp [behindLast?_concat, hinit]

theorem plotCount_concat (hkind : command.choosesKind = false) (hinit : command ≠ .init)
    (hplot : command ≠ .addPlot) : plotCount (history ++ [command]) = history.plotCount := by
  rw [plotCount, plotCount, sinceInit?_concat history hkind hinit]
  cases history.sinceInit? with
  | none => rfl
  | some since => simp [hplot]

end Concat

section Stage

variable {history since : History}

theorem stage_of_uninitialized (hkind : history.sinceKind? = some since)
    (hinit : history.sinceInit? = none) :
    history.stage = if since.any Command.setsAttribute then .configured else .typeSelected := by
  rw [stage, hkind, hinit]

theorem stage_of_initialized (hkind : history.sinceKind?.isSome = true)
    (hinit : history.sinceInit? = some since) :
    history.stage = if history.plotCount = 0 then .initialized else .feeding := by
  obtain ⟨sinceKind, hsome⟩ := Option.isSome_iff_exists.mp hkind
  rw [stage, hsome, hinit]

theorem sinceKind?_of_sinceInit? (hinit : history.sinceInit? = some since) :
    history.sinceKind?.isSome = true := by
  obtain ⟨sinceKind, hsome, -⟩ := Option.bind_eq_some_iff.mp hinit
  rw [hsome]
  rfl

/-- A chart is initialised and fed only behind an initialisation. -/
theorem sinceInit?_of_stage (hstage : history.stage = .initialized ∨ history.stage = .feeding) :
    ∃ since, history.sinceInit? = some since := by
  cases hinit : history.sinceInit? with
  | some since => exact ⟨since, rfl⟩
  | none =>
      cases hkind : history.sinceKind? with
      | none => simp [stage, hkind] at hstage
      | some sinceKind =>
          rw [stage_of_uninitialized hkind hinit] at hstage
          split at hstage <;> simp at hstage

/-- Without a choice of a kind there is no initialisation that counts, and without one there
are no plots. -/
theorem sinceInit?_of_unchosen (hkind : history.sinceKind? = none) : history.sinceInit? = none := by
  rw [sinceInit?, hkind, Option.bind_none]

theorem plotCount_of_uninitialized (hinit : history.sinceInit? = none) : history.plotCount = 0 := by
  rw [plotCount, hinit]
  rfl

/-- The three ways a history can go. -/
theorem stage_cases (history : History) :
    (history.sinceKind? = none ∧ history.sinceInit? = none ∧ history.plotCount = 0 ∧
      history.stage = .noType) ∨
    (∃ since, history.sinceKind? = some since ∧ history.sinceInit? = none ∧
      history.plotCount = 0 ∧
      history.stage = if since.any Command.setsAttribute then .configured else .typeSelected) ∨
    ∃ since sinceInit, history.sinceKind? = some since ∧ history.sinceInit? = some sinceInit ∧
      history.stage = if history.plotCount = 0 then .initialized else .feeding := by
  cases hkind : history.sinceKind? with
  | none =>
      have hinit := sinceInit?_of_unchosen hkind
      exact .inl ⟨rfl, hinit, plotCount_of_uninitialized hinit, by rw [stage, hkind]⟩
  | some since =>
      cases hinit : history.sinceInit? with
      | none =>
          exact .inr (.inl ⟨since, rfl, rfl, plotCount_of_uninitialized hinit,
            stage_of_uninitialized hkind hinit⟩)
      | some sinceInit =>
          exact .inr (.inr ⟨since, sinceInit, rfl, rfl,
            stage_of_initialized (by rw [hkind]; rfl) hinit⟩)

/-- What each stage says of the history. -/
theorem stage_iff (history : History) :
    (history.stage = .noType ↔ history.sinceKind? = none) ∧
    (history.stage = .typeSelected ∨ history.stage = .configured ↔
      history.sinceKind?.isSome = true ∧ history.sinceInit? = none) ∧
    (history.stage = .configured ↔ history.sinceInit? = none ∧
      ∃ since, history.sinceKind? = some since ∧ ∃ command ∈ since, command.setsAttribute = true) ∧
    (history.stage = .initialized ↔ history.sinceInit?.isSome = true ∧ history.plotCount = 0) ∧
    (history.stage = .feeding ↔ 0 < history.plotCount) := by
  rcases history.stage_cases with ⟨hkind, hinit, hcount, hstage⟩ |
    ⟨since, hkind, hinit, hcount, hstage⟩ | ⟨since, sinceInit, hkind, hinit, hstage⟩
  · simp [hkind, hinit, hcount, hstage]
  · rw [hstage, hkind, hinit, hcount]
    by_cases hset : since.any Command.setsAttribute = true
    · rw [if_pos hset]
      simpa using hset
    · rw [if_neg hset]
      simpa using hset
  · rw [hstage, hkind, hinit]
    by_cases hcount : history.plotCount = 0
    · simp [hcount]
    · simp [hcount, Nat.pos_of_ne_zero hcount]

end Stage

end History

/-- Whatever is wrong with a line of values, it is not that the chart is not initialised. -/
theorem Outline.lineRefusal?_ne_notInitialized (outline : Outline) (data : DataLine)
    (action : Action) : outline.lineRefusal? data ≠ some (.notInitialized action) := by
  intro h
  cases data with
  | sequential values =>
      unfold lineRefusal? at h
      dsimp only at h
      split at h
      · cases h
      · split at h <;> cases h
  | points points =>
      unfold lineRefusal? at h
      dsimp only at h
      split at h
      · cases h
      · split at h <;> cases h
  | timed index time y =>
      unfold lineRefusal? timedRefusal? plotRefusal? at h
      dsimp only at h
      split at h
      · split at h <;> cases h
      · cases h

namespace Session

/-- What an accepted command makes of how far a session is: its stage and the outline of
its chart. -/
inductive Proceeds (before after : Session) (command : Command) : Prop where
  | chooses (kind : ChartKind) (hcommand : command.choosesKind = true)
      (hstage : after.stage = .typeSelected)
      (hchart : after.chart.map Chart.outline = some ⟨kind, 0⟩)
  | configures (outline : Outline) (hcommand : command.setsAttribute = true)
      (hbefore : before.chart.map Chart.outline = some outline)
      (hstage : after.stage = if before.stage = .typeSelected then .configured else before.stage)
      (hchart : after.chart.map Chart.outline = some outline)
  | initializes (outline : Outline) (hcommand : command = .init)
      (hbefore : before.chart.map Chart.outline = some outline)
      (hstage : after.stage = .initialized)
      (hchart : after.chart.map Chart.outline = some { outline with plotCount := 0 })
  | addsPlot (outline : Outline) (hcommand : command = .addPlot)
      (hbefore : before.chart.map Chart.outline = some outline)
      (hready : before.stage = .initialized ∨ before.stage = .feeding)
      (hroom : ∀ most, outline.kind.mostPlots? = some most → outline.plotCount < most)
      (hstage : after.stage = .feeding)
      (hchart : after.chart.map Chart.outline =
        some { outline with plotCount := outline.plotCount + 1 })
  | stays (hkind : command.choosesKind = false) (hattribute : command.setsAttribute = false)
      (hinit : command ≠ .init) (hplot : command ≠ .addPlot) (hstage : after.stage = before.stage)
      (hchart : after.chart.map Chart.outline = before.chart.map Chart.outline)

theorem Proceeds.of_same {before after : Session} {command : Command}
    (hcommand : command.choosesKind = false ∧ command.setsAttribute = false ∧ command ≠ .init ∧
      command ≠ .addPlot)
    (hstage : after.stage = before.stage)
    (hchart : after.chart.map Chart.outline = before.chart.map Chart.outline) :
    before.Proceeds after command :=
  .stays hcommand.1 hcommand.2.1 hcommand.2.2.1 hcommand.2.2.2 hstage hchart

theorem proceeds_withChart {session : Session} {board : Board} {command : Command}
    (hcommand : command.choosesKind = false ∧ command.setsAttribute = false ∧ command ≠ .init ∧
      command ≠ .addPlot)
    {step : Chart → Fed} (hstep : ∀ chart : Chart, chart.Advances (step chart).chart)
    (action : Action) : session.Proceeds (session.withChart action step board).session command := by
  cases hchart : session.chart with
  | none =>
      rw [withChart, hchart]
      exact .of_same hcommand rfl rfl
  | some chart =>
      obtain ⟨-, hstage, hafter⟩ := withChart_outcome hchart action step board
      refine .of_same hcommand hstage ?_
      rw [hafter, hchart, Option.map_some, Option.map_some, ← (hstep chart).outline]
      rfl

theorem Outcome.proceeds {clock : Clock} {session : Session} {board : Board} {command : Command}
    {turn : Turn} (h : session.Outcome clock board command turn)
    (haccepted : turn.result = .ok ()) :
    session.Proceeds turn.session command := by
  cases h with
  | refused => cases haccepted
  | ignored => exact .of_same (by decide) rfl rfl
  | arranges | titles | enablesStatus => exact .of_same ⟨rfl, rfl, by simp, by simp⟩ rfl rfl
  | @choosesKind _ kind =>
      have hcreated : (Chart.create kind).outline = ⟨kind, 0⟩ := by cases kind <;> rfl
      refine .chooses kind rfl rfl ?_
      rw [← hcreated]
      rfl
  | @configures name value hgraph hgrid htitle before _ hchart hset =>
      obtain ⟨attributes, rfl⟩ := Chart.eq_of_setAttribute hset
      have hcommand : (Command.set name value).setsAttribute = true := by
        simp [Command.setsAttribute, hgraph, hgrid, htitle]
      exact .configures before.outline hcommand (by rw [hchart]; rfl) rfl rfl
  | @initializes chart hchart =>
      have hblank : chart.init.outline = { chart.outline with plotCount := 0 } := by
        have hempty (kind : ChartKind) (attributes : Attributes) :
            (Chart.blank kind attributes).outline = ⟨kind, 0⟩ := by cases kind <;> rfl
        exact hempty chart.kind chart.attributes
      refine .initializes chart.outline rfl (by rw [hchart]; rfl) rfl ?_
      rw [← hblank]
      rfl
  | @addsPlot before after hchart hready hadd =>
      obtain ⟨-, hkind, -, hcount, -⟩ := Chart.of_addPlot hadd
      have houtline : after.settled.outline =
          { before.outline with plotCount := before.outline.plotCount + 1 } := by
        rw [Chart.outline, Chart.outline]
        exact congrArg₂ Outline.mk hkind hcount
      refine .addsPlot before.outline rfl (by rw [hchart]; rfl) hready ?_ rfl ?_
      · exact Chart.addPlot_isOk_iff.mp ⟨after, hadd⟩
      · rw [← houtline]
        rfl
  | works hstep action =>
      refine proceeds_withChart ?_ (Command.advances_onPlots hstep) action
      cases command with
      | clear | replot | data => exact ⟨rfl, rfl, by simp, by simp⟩
      | comment | set | init | addPlot | enableStatus => cases hstep

/-- The session is as far as its history says: it has a chart if a kind has been chosen, and
the chart has the plots that have been added since, which are not too many. -/
structure Bears (session : Session) (history : History) : Prop where
  stage : session.stage = history.stage
  noChart : session.chart.map Chart.outline = none → history.sinceKind? = none
  chosen : ∀ outline, session.chart.map Chart.outline = some outline →
    history.sinceKind?.isSome = true
  plotCount : ∀ outline, session.chart.map Chart.outline = some outline →
    outline.plotCount = history.plotCount
  room : ∀ outline, session.chart.map Chart.outline = some outline →
    ∀ most, outline.kind.mostPlots? = some most → outline.plotCount ≤ most

theorem Bears.chart_eq_none_iff {session : Session} {history : History}
    (h : session.Bears history) :
    session.chart = none ↔ history.sinceKind? = none := by
  refine ⟨fun hnone => h.noChart (by rw [hnone]; rfl), fun hnone => ?_⟩
  cases hchart : session.chart with
  | none => rfl
  | some chart =>
      have hchosen := h.chosen chart.outline (by rw [hchart]; rfl)
      rw [hnone] at hchosen
      cases hchosen

theorem Bears.hasChart {session : Session} {history : History} (h : session.Bears history)
    (hstage : session.stage ≠ .noType) : ∃ chart, session.chart = some chart := by
  refine Option.ne_none_iff_exists'.mp fun hnone => hstage ?_
  rw [h.stage]
  exact history.stage_iff.1.mpr (h.chart_eq_none_iff.mp hnone)

theorem bears_nil {session : Session} (hstage : session.stage = .noType)
    (hchart : session.chart = none) : session.Bears [] where
  stage := hstage
  noChart _ := rfl
  chosen outline houtline := by simp [hchart] at houtline
  plotCount outline houtline := by simp [hchart] at houtline
  room outline houtline := by simp [hchart] at houtline

/-- A session with a chart of a known outline bears out a history that tells of it. -/
theorem Bears.of_outline {session : Session} {history : History} {outline : Outline}
    (hchart : session.chart.map Chart.outline = some outline)
    (hstage : session.stage = history.stage) (hchosen : history.sinceKind?.isSome = true)
    (hcount : outline.plotCount = history.plotCount)
    (hroom : ∀ most, outline.kind.mostPlots? = some most → outline.plotCount ≤ most) :
    session.Bears history := by
  have hsame (other : Outline) (hother : session.chart.map Chart.outline = some other) :
      outline = other := Option.some.inj (hchart.symm.trans hother)
  refine ⟨hstage, ?_, fun _ _ => hchosen, ?_, ?_⟩
  · intro hnone
    rw [hchart] at hnone
    cases hnone
  · intro other hother
    rw [← hsame other hother]
    exact hcount
  · intro other hother
    rw [← hsame other hother]
    exact hroom

theorem Bears.chooses {after : Session} {history : History} {command : Command}
    {kind : ChartKind} (hcommand : command.choosesKind = true)
    (hstage : after.stage = .typeSelected)
    (hchart : after.chart.map Chart.outline = some ⟨kind, 0⟩) :
    after.Bears (history ++ [command]) := by
  have hkind := history.sinceKind?_chooses hcommand
  have hinit : History.sinceInit? (history ++ [command]) = none := by
    rw [History.sinceInit?, hkind]
    rfl
  refine .of_outline hchart ?_ (by rw [hkind]; rfl) ?_ fun _ _ => Nat.zero_le _
  · rw [hstage, History.stage, hkind, hinit]
    rfl
  · rw [History.plotCount, hinit]
    rfl

theorem Bears.initializes {before after : Session} {history : History} {outline : Outline}
    (h : before.Bears history) (hbefore : before.chart.map Chart.outline = some outline)
    (hstage : after.stage = .initialized)
    (hchart : after.chart.map Chart.outline = some { outline with plotCount := 0 }) :
    after.Bears (history ++ [.init]) := by
  obtain ⟨since, hsince⟩ := Option.isSome_iff_exists.mp (h.chosen outline hbefore)
  have hkind := history.sinceKind?_concat (Eq.refl (Command.choosesKind .init))
  have hinit := history.sinceInit?_init
  rw [hsince, Option.map_some] at hkind hinit
  have hcount : History.plotCount (history ++ [.init]) = 0 := by
    rw [History.plotCount, hinit]
    rfl
  refine .of_outline hchart ?_ (by rw [hkind]; rfl) hcount.symm fun _ _ => Nat.zero_le _
  rw [hstage, History.stage, hkind, hinit, hcount]
  rfl

theorem Bears.configures {before after : Session} {history : History} {command : Command}
    {outline : Outline} (h : before.Bears history) (hcommand : command.setsAttribute = true)
    (hbefore : before.chart.map Chart.outline = some outline)
    (hstage : after.stage = if before.stage = .typeSelected then .configured else before.stage)
    (hchart : after.chart.map Chart.outline = some outline) :
    after.Bears (history ++ [command]) := by
  have hother : command.choosesKind = false ∧ command ≠ .init ∧ command ≠ .addPlot := by
    cases command with
    | set name value => simpa [Command.setsAttribute, Command.choosesKind, and_assoc] using
        fun hgraph => by simp [Command.setsAttribute, hgraph] at hcommand
    | _ => cases hcommand
  obtain ⟨since, hsince⟩ := Option.isSome_iff_exists.mp (h.chosen outline hbefore)
  have hkind := history.sinceKind?_concat hother.1
  have hinit := history.sinceInit?_concat hother.1 hother.2.1
  have hcount := history.plotCount_concat hother.1 hother.2.1 hother.2.2
  rw [hsince, Option.map_some] at hkind
  refine .of_outline hchart ?_ (by rw [hkind]; rfl) ?_ (h.room outline hbefore)
  · rw [hstage, h.stage]
    cases hold : history.sinceInit? with
    | none =>
        rw [hold, Option.map_none] at hinit
        rw [History.stage_of_uninitialized hsince hold, History.stage_of_uninitialized hkind hinit]
        have hset : (since ++ [command]).any Command.setsAttribute = true := by simp [hcommand]
        rw [hset]
        split <;> split <;> simp_all
    | some sinceInit =>
        rw [hold, Option.map_some] at hinit
        rw [History.stage_of_initialized (h.chosen outline hbefore) hold,
          History.stage_of_initialized (by rw [hkind]; rfl) hinit, hcount]
        split <;> simp
  · rw [hcount]
    exact h.plotCount outline hbefore

theorem Bears.addsPlot {before after : Session} {history : History} {outline : Outline}
    (h : before.Bears history) (hbefore : before.chart.map Chart.outline = some outline)
    (hready : before.stage = .initialized ∨ before.stage = .feeding)
    (hroom : ∀ most, outline.kind.mostPlots? = some most → outline.plotCount < most)
    (hstage : after.stage = .feeding)
    (hchart : after.chart.map Chart.outline =
      some { outline with plotCount := outline.plotCount + 1 }) :
    after.Bears (history ++ [.addPlot]) := by
  rw [h.stage] at hready
  obtain ⟨since, hsince⟩ := History.sinceInit?_of_stage hready
  have hinit := history.sinceInit?_concat (Eq.refl (Command.choosesKind .addPlot)) (by simp)
  rw [hsince, Option.map_some] at hinit
  have hcount : History.plotCount (history ++ [.addPlot]) = history.plotCount + 1 := by
    rw [History.plotCount, History.plotCount, hinit, hsince]
    simp
  have hchosen := History.sinceKind?_of_sinceInit? hinit
  refine .of_outline hchart ?_ hchosen ?_ hroom
  · rw [hstage, History.stage_of_initialized hchosen hinit, hcount]
    rfl
  · rw [hcount, ← h.plotCount outline hbefore]

theorem Bears.stays {before after : Session} {history : History} {command : Command}
    (h : before.Bears history) (hkind : command.choosesKind = false)
    (hattribute : command.setsAttribute = false) (hinit : command ≠ .init)
    (hplot : command ≠ .addPlot) (hstage : after.stage = before.stage)
    (hchart : after.chart.map Chart.outline = before.chart.map Chart.outline) :
    after.Bears (history ++ [command]) := by
  have hsinceKind := history.sinceKind?_concat hkind
  have hsinceInit := history.sinceInit?_concat hkind hinit
  have hcount := history.plotCount_concat hkind hinit hplot
  refine ⟨?_, ?_, ?_, ?_, ?_⟩
  · rw [hstage, h.stage, History.stage, History.stage, hsinceKind, hsinceInit, hcount]
    cases history.sinceKind? with
    | none => rfl
    | some since =>
        cases history.sinceInit? with
        | none => simp [hattribute]
        | some sinceInit => rfl
  · intro hnone
    rw [hchart] at hnone
    rw [hsinceKind, h.noChart hnone]
    rfl
  · intro outline houtline
    rw [hsinceKind, Option.isSome_map]
    exact h.chosen outline (hchart ▸ houtline)
  · intro outline houtline
    rw [hcount]
    exact h.plotCount outline (hchart ▸ houtline)
  · intro outline houtline
    exact h.room outline (hchart ▸ houtline)

theorem Bears.proceeds {before after : Session} {history : History} {command : Command}
    (h : before.Bears history) (hproceeds : before.Proceeds after command) :
    after.Bears (history ++ [command]) := by
  cases hproceeds with
  | chooses kind hcommand hstage hchart => exact .chooses hcommand hstage hchart
  | configures outline hcommand hbefore hstage hchart =>
      exact h.configures hcommand hbefore hstage hchart
  | initializes outline hcommand hbefore hstage hchart =>
      subst hcommand
      exact h.initializes hbefore hstage hchart
  | addsPlot outline hcommand hbefore hready hroom hstage hchart =>
      subst hcommand
      exact h.addsPlot hbefore hready hroom hstage hchart
  | stays hkind hattribute hinit hplot hstage hchart =>
      exact h.stays hkind hattribute hinit hplot hstage hchart

/-- A session that keeps its stage and its chart bears out what it has borne out before. -/
theorem Bears.kept {before : Session} {turn : Turn} {history : History} (h : before.Bears history)
    (hkept : before.Kept turn) : turn.session.Bears history := by
  obtain ⟨hstage, hnoChart, hchosen, hcount, hroom⟩ := h
  rw [← hkept.stage] at hstage
  rw [← hkept.chart] at hnoChart hchosen hcount hroom
  exact ⟨hstage, hnoChart, hchosen, hcount, hroom⟩

/-- The command of a line, if the line is accepted. -/
def accepted? (clock : Clock) (line : String) (session : Session) (board : Board) :
    Option Command :=
  match Command.read (withoutLineEnd line), (session.respond clock line board).reply with
  | .ok command, .ok => some command
  | _, _ => none

theorem bears_respond {session : Session} {board : Board} (hsound : session.Sound board)
    {history : History} (h : session.Bears history) (clock : Clock) (line : String) :
    (session.respond clock line board).session.Bears
      (history ++ (session.accepted? clock line board).toList) := by
  rw [session_respond, process, accepted?, respond, process]
  dsimp only
  cases Command.read (withoutLineEnd line) with
  | error refusal => simpa [refuse] using h
  | ok command =>
      dsimp only
      cases hresult : (session.perform clock command board).result with
      | ok _ => exact h.proceeds ((perform_outcome clock session board command).proceeds hresult)
      | error refusal =>
          have houtcome := perform_outcome clock session board command
          have hkept := houtcome.keptIfRefused hsound refusal hresult
          simpa [replyTo] using h.kept hkept

/-- As long as a session has no plots, there is room for one. -/
theorem addPlot_accepted {session : Session} {board : Board} {history : History}
    (h : session.Bears history) (hstage : session.stage = .initialized) :
    (session.addPlot board).result = .ok () := by
  have hread : history.stage = .initialized := h.stage.symm.trans hstage
  obtain ⟨since, hsince⟩ := History.sinceInit?_of_stage (.inl hread)
  have hchosen := History.sinceKind?_of_sinceInit? hsince
  have hnone : history.plotCount = 0 := by
    rw [History.stage_of_initialized hchosen hsince] at hread
    by_contra hsome
    simp [hsome] at hread
  cases hchart : session.chart with
  | none =>
      rw [h.noChart (by rw [hchart]; rfl)] at hchosen
      cases hchosen
  | some chart =>
      have hcount := h.plotCount chart.outline (by rw [hchart]; rfl)
      have hroom : ∃ after, chart.addPlot = .ok after := by
        refine Chart.addPlot_isOk_iff.mpr fun most hmost => ?_
        rw [hcount, hnone]
        generalize chart.outline.kind = kind at hmost
        cases kind <;> cases hmost <;> decide
      obtain ⟨after, hafter⟩ := hroom
      rw [addPlot, hchart]
      simp only [hstage, hafter]
      rfl

/-- A line of values is refused for want of an initialisation unless the session feeds a
chart. -/
theorem feed_notInitialized_iff {session : Session} {board : Board} (hsound : session.Sound board)
    (clock : Clock) (data : DataLine) :
    (∃ action, (session.feed clock data board).result = .error (.notInitialized action)) ↔
      session.stage ≠ .feeding := by
  unfold feed
  by_cases hstage : session.stage = .feeding
  · obtain ⟨chart, hchart⟩ := hsound.hasChart hstage
    rw [if_pos hstage, (withChart_outcome hchart .addValues (Chart.feed clock data) board).1,
      Chart.feed_result]
    refine ⟨?_, fun hnot => absurd hstage hnot⟩
    rintro ⟨action, hrefused⟩
    cases hline : chart.outline.lineRefusal? data with
    | none =>
        rw [hline] at hrefused
        cases hrefused
    | some refusal =>
        rw [hline] at hrefused
        cases hrefused
        exact absurd hline (chart.outline.lineRefusal?_ne_notInitialized data action)
  · rw [if_neg hstage]
    exact ⟨fun _ => hstage, fun _ => ⟨.addValues, rfl⟩⟩

end Session

end ChartBoard
