import ChartBoard.Proofs.Board.Slots
import ChartBoard.Proofs.Session.Outcomes
import ChartBoard.Proofs.Text.Cutting

/-!
What one turn of a session does to the session and to the board. A session is sound on a
board if its chart has no changes left to publish and if, while it feeds the chart and
owns its slot, the slot shows the chart. From a sound session every command is either
quiet, and no slot of the board changes, or it publishes, and then the slot of the
session shows the chart as it is after the command (`perform_cases`). The session is
sound again in either case.
-/

namespace ChartBoard

namespace Session

/-- The slot of the session shows a picture that the session may change. -/
def Owns (session : Session) (board : Board) (shown : Shown) : Prop :=
  board.shown? session.slot = some shown ∧ session.generation = some shown.generation

structure Sound (session : Session) (board : Board) : Prop where
  settled : ∀ chart, session.chart = some chart →
    chart.pending = [] ∧ chart.series.CursorsFit
  hasChart : session.stage = .feeding → ∃ chart, session.chart = some chart
  issued : ∀ generation, session.generation = some generation →
    generation < board.nextGeneration
  shows : ∀ chart shown, session.stage = .feeding → session.chart = some chart →
    session.Owns board shown → shown.picture = chart.picture

/-- A turn that leaves all slots alone. -/
structure Quiet (session : Session) (board : Board) (session' : Session) (board' : Board) :
    Prop where
  slot : session'.slot = session.slot
  slots : board.SameSlots board'
  generation : session'.generation = session.generation ∨ session'.generation = none
  settled : ∀ chart, session'.chart = some chart →
    chart.pending = [] ∧ chart.series.CursorsFit
  feeding : session'.stage = .feeding → session.stage = .feeding ∧
    ∃ before after, session.chart = some before ∧ session'.chart = some after ∧
      after.picture = before.picture

/-- A turn that shows the chart in the session's slot. -/
structure Published (session : Session) (board : Board) (session' : Session) (board' : Board) :
    Prop where
  slot : session'.slot = session.slot
  slotCount : board'.slotCount = board.slotCount
  elsewhere : ∀ other, other ≠ session.slot → board'.shown? other = board.shown? other
  generations : board.nextGeneration ≤ board'.nextGeneration
  generation : ∀ g, session'.generation = some g →
    session.generation = some g ∨ g = board.nextGeneration
  owner : ∀ shown, board'.shown? session.slot = some shown →
    session'.generation = some shown.generation
  sound : session'.Sound board'
  shows : ∃ chart, session'.chart = some chart ∧
    (session.slot < board.slotCount → board'.picture? session.slot = some chart.picture)

theorem Quiet.sound {session session' : Session} {board board' : Board}
    (h : session.Quiet board session' board') (hsound : session.Sound board) :
    session'.Sound board' where
  settled := h.settled
  hasChart hfeeding := by
    obtain ⟨_, _, after, _, hafter, _⟩ := h.feeding hfeeding
    exact ⟨after, hafter⟩
  issued g hg := by
    rw [h.slots.2]
    rcases h.generation with hsame | hnone
    · exact hsound.issued g (hsame.symm.trans hg)
    · rw [hnone] at hg
      cases hg
  shows chart shown hfeeding hchart howns := by
    obtain ⟨hold, before, after, hbefore, hafter, hpicture⟩ := h.feeding hfeeding
    obtain ⟨hshown, hgeneration⟩ := howns
    rw [hafter, Option.some.injEq] at hchart
    rw [h.slots.shown?, h.slot] at hshown
    rcases h.generation with hsame | hnone
    · rw [← hchart, hpicture]
      exact hsound.shows before shown hold hbefore ⟨hshown, hsame.symm.trans hgeneration⟩
    · rw [hnone] at hgeneration
      cases hgeneration

/-- Nothing happens to the session, and nothing to the slots. -/
theorem Quiet.of_sameSlots {session : Session} {board board' : Board}
    (hsound : session.Sound board) (hslots : board.SameSlots board') :
    session.Quiet board session board' where
  slot := rfl
  slots := hslots
  generation := .inl rfl
  settled := hsound.settled
  feeding hfeeding := by
    obtain ⟨chart, hchart⟩ := hsound.hasChart hfeeding
    exact ⟨hfeeding, chart, chart, hchart, hchart, rfl⟩

/-- A session whose slot shows nothing but its chart is sound. -/
theorem sound_of_shown {session : Session} {board : Board} (chart : Chart)
    (hchart : session.chart = some chart) (hpending : chart.pending = [])
    (hfit : chart.series.CursorsFit)
    (hissued : ∀ generation, session.generation = some generation →
      generation < board.nextGeneration)
    (hshown : ∀ shown, board.shown? session.slot = some shown → shown.picture = chart.picture) :
    session.Sound board where
  settled c hc := by
    obtain rfl := Option.some.inj (hchart.symm.trans hc)
    exact ⟨hpending, hfit⟩
  hasChart _ := ⟨chart, hchart⟩
  issued := hissued
  shows c shown _ hc howns := by
    obtain rfl := Option.some.inj (hchart.symm.trans hc)
    exact hshown shown howns.1

/-- Presenting a chart publishes it, whatever was shown before. -/
theorem published_present {chart : Chart} (hfit : chart.series.CursorsFit) (session : Session)
    (board : Board) : session.Published board (session.present chart board).session
      (session.present chart board).board := by
  refine ⟨rfl, Board.slotCount_attach _ _ _, ?_, Board.nextGeneration_le_attach _ _ _, ?_, ?_, ?_,
    chart.settled, rfl, ?_⟩
  · intro other hne
    exact Board.shown?_attach_of_ne session.slot chart.picture board hne
  · intro g hg
    exact .inr (Board.attach_value _ _ _ hg).1
  · intro shown hshown
    obtain ⟨rfl, hvalue⟩ := Board.attach_owner _ _ _ hshown
    exact hvalue
  · refine sound_of_shown chart.settled rfl rfl hfit ?_ ?_
    · intro g hg
      exact Nat.lt_of_lt_of_eq (Nat.lt_succ_self g) (Board.attach_value _ _ _ hg).2.symm
    · intro shown hshown
      rw [(Board.attach_owner _ _ _ hshown).1]
      rfl
  · intro hin
    have hshown := Board.shown?_attach chart.picture hin
    exact congrArg (Option.map Shown.picture) hshown

/-- The owner of the slot has its changes followed. -/
theorem publish_eq_of_owns {session : Session} {board : Board} {shown : Shown} {chart : Chart}
    {picture : Picture} (howns : session.Owns board shown)
    (hfollow : shown.picture.follow chart.pending = (picture, true)) :
    let applied := board.apply session.slot shown.generation chart.pending
    session.publish chart board =
      ⟨{ session with chart := some chart.settled }, applied.board, applied.events, .ok ()⟩ := by
  have hvalue : (board.apply session.slot shown.generation chart.pending).value = true := by
    rw [Board.apply_of_owned howns.1 hfollow]
  rw [publish, howns.2]
  dsimp only
  rw [if_pos hvalue]

theorem publish_of_owns {session : Session} {board : Board} {shown : Shown} {chart : Chart}
    {picture : Picture} (howns : session.Owns board shown)
    (hfollow : shown.picture.follow chart.pending = (picture, true)) :
    (session.publish chart board).session = { session with chart := some chart.settled } ∧
      (session.publish chart board).board =
        (board.apply session.slot shown.generation chart.pending).board := by
  rw [publish_eq_of_owns howns hfollow]
  exact ⟨rfl, rfl⟩

/-- A session that does not own the slot shows the whole chart. -/
theorem publish_of_not_owns {session : Session} {board : Board}
    (hnot : ∀ shown, ¬session.Owns board shown) (chart : Chart) :
    session.publish chart board = session.present chart board := by
  cases hgeneration : session.generation with
  | none => rw [publish, hgeneration]
  | some generation =>
      have happly : board.apply session.slot generation chart.pending =
          { value := false, board := board, events := [] } := by
        refine Board.apply_of_not_owned chart.pending fun shown hshown heq => ?_
        exact hnot shown ⟨hshown, by rw [hgeneration, heq]⟩
      rw [publish, hgeneration]
      simp only [happly, Bool.false_eq_true, if_false, List.nil_append]

/-- Whether a published chart is sent as a whole or as changes, the session has the
settled chart afterwards, and nothing else of it shows the difference. -/
theorem publish_outcome (chart : Chart) (session : Session) (board : Board) :
    (session.publish chart board).result = .ok () ∧
      (session.publish chart board).session.slot = session.slot ∧
      (session.publish chart board).session.stage = session.stage ∧
      (session.publish chart board).session.chart = some chart.settled ∧
      (session.publish chart board).board.slotCount = board.slotCount := by
  unfold publish
  cases session.generation with
  | none => exact ⟨rfl, rfl, rfl, rfl, Board.slotCount_attach _ _ _⟩
  | some generation =>
      dsimp only
      split
      · exact ⟨rfl, rfl, rfl, rfl, Board.slotCount_apply _ _ _ _⟩
      · refine ⟨rfl, rfl, rfl, rfl, ?_⟩
        simp only [present, Board.slotCount_attach, Board.slotCount_apply]

/-- After a step with its chart a session has the chart as it is then, settled. -/
theorem withChart_outcome {session : Session} {chart : Chart} (hchart : session.chart = some chart)
    (action : Action) (step : Chart → Fed) (board : Board) :
    (session.withChart action step board).result = (step chart).result ∧
      (session.withChart action step board).session.stage = session.stage ∧
      (session.withChart action step board).session.chart = some (step chart).chart.settled := by
  unfold withChart
  rw [hchart]
  dsimp only
  split
  · obtain ⟨-, -, hstage, hsettled, -⟩ := publish_outcome (step chart).chart session board
    exact ⟨rfl, hstage, hsettled⟩
  · exact ⟨rfl, rfl, rfl⟩

/-- A sound session that feeds its chart publishes the chart as it has advanced: if it
owns its slot, the changes fit the picture there and make it the picture of the chart. -/
theorem published_publish {session : Session} {board : Board} (hsound : session.Sound board)
    (hfeeding : session.stage = .feeding) {before after : Chart}
    (hchart : session.chart = some before) (hadvances : before.Advances after) :
    session.Published board (session.publish after board).session
      (session.publish after board).board := by
  obtain ⟨hpending, hfit⟩ := hsound.settled before hchart
  have hfollow := hadvances.follow_pending hfit hpending
  by_cases howned : ∃ shown, session.Owns board shown
  · obtain ⟨shown, howns⟩ := howned
    have hpicture := hsound.shows before shown hfeeding hchart howns
    rw [← hpicture] at hfollow
    obtain ⟨hsession, hboard⟩ := publish_of_owns howns hfollow
    have hshown := Board.shown?_apply_of_owned howns.1 hfollow
    have howner : ∀ other, (session.publish after board).board.shown? session.slot = some other →
        other = { shown with picture := after.picture } := by
      intro other hother
      rw [hboard] at hother
      exact Option.some.inj (hother.symm.trans hshown)
    refine ⟨by rw [hsession], ?_, ?_, ?_, ?_, ?_, ?_, after.settled, by rw [hsession], ?_⟩
    · rw [hboard, Board.slotCount_apply]
    · intro other hne
      rw [hboard, Board.shown?_apply_of_ne _ _ _ _ hne]
    · exact Nat.le_of_eq (by rw [hboard, Board.nextGeneration_apply])
    · intro g hg
      rw [hsession] at hg
      exact .inl hg
    · intro other hother
      rw [howner other hother, hsession]
      exact howns.2
    · refine sound_of_shown after.settled (by rw [hsession]) rfl
        (hadvances.cursorsFit hfit) ?_ ?_
      · intro g hg
        rw [hsession] at hg
        rw [hboard, Board.nextGeneration_apply]
        exact hsound.issued g hg
      · intro other hother
        rw [hsession] at hother
        rw [howner other hother]
        rfl
    · intro _
      rw [Board.picture?, hboard, hshown]
      rfl
  · rw [publish_of_not_owns (fun shown howns => howned ⟨shown, howns⟩)]
    exact published_present (hadvances.cursorsFit hfit) session board

/-- Nothing happens but to the chart of a session that does not feed it. -/
theorem Quiet.of_chart {session session' : Session} {board : Board} {chart : Chart}
    (hslot : session'.slot = session.slot)
    (hgeneration : session'.generation = session.generation ∨ session'.generation = none)
    (hchart : session'.chart = some chart) (hpending : chart.pending = [])
    (hfit : chart.series.CursorsFit) (hstage : session'.stage ≠ .feeding) :
    session.Quiet board session' board where
  slot := hslot
  slots := Board.SameSlots.refl board
  generation := hgeneration
  settled c hc := by
    obtain rfl := Option.some.inj (hchart.symm.trans hc)
    exact ⟨hpending, hfit⟩
  feeding hfeeding := absurd hfeeding hstage

section WithChart

variable {session : Session} {board : Board} (hsound : session.Sound board) {step : Chart → Fed}
  (hstep : ∀ chart : Chart, chart.Advances (step chart).chart)

include hsound hstep

theorem quiet_withChart (hstage : session.stage ≠ .feeding) (action : Action) :
    session.Quiet board (session.withChart action step board).session
      (session.withChart action step board).board := by
  unfold withChart
  cases hchart : session.chart with
  | none => exact Quiet.of_sameSlots hsound (Board.SameSlots.refl board)
  | some chart =>
      dsimp only
      rw [if_neg hstage]
      have hfit := (hstep chart).cursorsFit (hsound.settled chart hchart).2
      exact Quiet.of_chart rfl (.inl rfl) rfl rfl hfit hstage

theorem published_withChart (hstage : session.stage = .feeding) (action : Action) :
    session.Published board (session.withChart action step board).session
      (session.withChart action step board).board := by
  obtain ⟨chart, hchart⟩ := hsound.hasChart hstage
  unfold withChart
  rw [hchart]
  dsimp only
  rw [if_pos hstage]
  exact published_publish hsound hstage hchart (hstep chart)

/-- A command on the plots of a chart publishes exactly if the chart is being fed. -/
theorem withChart_cases (action : Action) :
    ((session.stage == .feeding) = true ∧
      session.Published board (session.withChart action step board).session
        (session.withChart action step board).board) ∨
    (session.stage == .feeding) = false ∧
      session.Quiet board (session.withChart action step board).session
        (session.withChart action step board).board := by
  by_cases hstage : session.stage = .feeding
  · exact .inl ⟨by simpa using hstage, published_withChart hsound hstep hstage action⟩
  · exact .inr ⟨by simpa using hstage, quiet_withChart hsound hstep hstage action⟩

end WithChart

/-- What a command comes to either shows the chart of the session or leaves all slots alone. -/
theorem Outcome.published_or_quiet {clock : Clock} {session : Session} {board : Board}
    {command : Command} {turn : Turn} (h : session.Outcome clock board command turn)
    (hsound : session.Sound board) :
    (command.publishes session board = true ∧ session.Published board turn.session turn.board) ∨
    command.publishes session board = false ∧ session.Quiet board turn.session turn.board := by
  cases h with
  | refused hquiet => exact .inr ⟨hquiet, Quiet.of_sameSlots hsound (Board.SameSlots.refl board)⟩
  | ignored => exact .inr ⟨rfl, Quiet.of_sameSlots hsound (Board.SameSlots.refl board)⟩
  | arranges | titles | enablesStatus =>
      exact .inr ⟨rfl, Quiet.of_sameSlots hsound ⟨rfl, rfl⟩⟩
  | @choosesKind _ kind =>
      exact .inr ⟨rfl, Quiet.of_chart rfl (.inr rfl) rfl rfl (Chart.cursorsFit_empty kind)
        (by simp [accept])⟩
  | @configures _ _ _ _ _ before after hchart hset =>
      obtain ⟨attributes, rfl⟩ := Chart.eq_of_setAttribute hset
      refine .inr ⟨rfl, rfl, Board.SameSlots.refl board, .inl rfl, ?_, ?_⟩
      · intro chart hafter
        obtain rfl := Option.some.inj hafter
        exact hsound.settled before hchart
      · intro hfeeding
        have hold : session.stage = .feeding := by
          by_cases hselected : session.stage = .typeSelected
          · simp [accept, hselected] at hfeeding
          · simpa [accept, hselected] using hfeeding
        exact ⟨hold, before, _, hchart, rfl, rfl⟩
  | @initializes chart =>
      exact .inr ⟨rfl, Quiet.of_chart rfl (.inl rfl) rfl rfl (Chart.cursorsFit_empty chart.kind)
        (by simp [accept])⟩
  | @addsPlot before after hchart hready hadd =>
      have hfit := (Chart.of_addPlot hadd).2.2.2.2 (hsound.settled before hchart).2
      have hpublished := published_present hfit { session with stage := .feeding } board
      -- the stage is the only difference between the two sessions before the turn
      exact .inl ⟨publishes_addPlot board hchart hready hadd, hpublished.slot,
        hpublished.slotCount, hpublished.elsewhere, hpublished.generations,
        hpublished.generation, hpublished.owner, hpublished.sound, hpublished.shows⟩
  | works hstep action =>
      rw [Command.publishes_onPlots hstep]
      exact withChart_cases hsound (Command.advances_onPlots hstep) action

/-- A command that publishes shows the chart of the session, and any other leaves all
slots alone. -/
theorem perform_cases {session : Session} {board : Board} (hsound : session.Sound board)
    (clock : Clock) (command : Command) :
    (command.publishes session board = true ∧
      session.Published board (session.perform clock command board).session
        (session.perform clock command board).board) ∨
    command.publishes session board = false ∧
      session.Quiet board (session.perform clock command board).session
        (session.perform clock command board).board :=
  (perform_outcome clock session board command).published_or_quiet hsound

/-- What is cut off a line as its end would be trimmed from it anyway. -/
theorem trim_withoutLineEnd (line : String) :
    Text.trim (withoutLineEnd line).toList = Text.trim line.toList := by
  have hends : ∀ c, (c == '\r' || c == '\n') = true → Text.isBlank c = true := by
    intro c hc
    simp only [Bool.or_eq_true, beq_iff_eq] at hc
    rcases hc with rfl | rfl <;> decide
  rw [withoutLineEnd, String.toList_ofList, Text.trim_dropWhile_reverse hends]

theorem read_withoutLineEnd (line : String) :
    Command.read (withoutLineEnd line) = Command.read line := by
  unfold Command.read
  rw [trim_withoutLineEnd]

/-- Whether a line publishes. -/
def publishes (line : String) (session : Session) (board : Board) : Bool :=
  match Command.read (withoutLineEnd line) with
  | .ok command => command.publishes session board
  | .error _ => false

theorem Sound.of_sameSlots {session : Session} {board board' : Board}
    (h : session.Sound board) (hslots : board.SameSlots board') : session.Sound board' :=
  (Quiet.of_sameSlots h hslots).sound h

theorem Quiet.then_sameSlots {session session' : Session} {board board' board'' : Board}
    (h : session.Quiet board session' board') (hslots : board'.SameSlots board'') :
    session.Quiet board session' board'' :=
  { h with slots := h.slots.trans hslots }

theorem Published.then_sameSlots {session session' : Session} {board board' board'' : Board}
    (h : session.Published board session' board') (hslots : board'.SameSlots board'') :
    session.Published board session' board'' where
  slot := h.slot
  slotCount := hslots.slotCount.trans h.slotCount
  elsewhere other hne := (hslots.shown? other).trans (h.elsewhere other hne)
  generations := by rw [hslots.2]; exact h.generations
  generation := h.generation
  owner shown hshown := h.owner shown ((hslots.shown? _).symm.trans hshown)
  sound := h.sound.of_sameSlots hslots
  shows := by
    obtain ⟨chart, hchart, hpicture⟩ := h.shows
    refine ⟨chart, hchart, fun hin => ?_⟩
    rw [Board.picture?, hslots.shown?]
    exact hpicture hin

/-- A line that publishes shows the chart of the session, and any other leaves all slots
alone. -/
theorem respond_cases {session : Session} {board : Board} (hsound : session.Sound board)
    (clock : Clock) (line : String) :
    (session.publishes line board = true ∧
      session.Published board (session.respond clock line board).session
        (session.respond clock line board).board) ∨
    session.publishes line board = false ∧
      session.Quiet board (session.respond clock line board).session
        (session.respond clock line board).board := by
  unfold publishes respond process
  dsimp only
  cases hread : Command.read (withoutLineEnd line) with
  | error refusal =>
      exact .inr ⟨rfl, Quiet.of_sameSlots hsound (Board.sameSlots_echo _ board)⟩
  | ok command =>
      rcases perform_cases hsound clock command with ⟨hpublishes, h⟩ | ⟨hquiet, h⟩
      · exact .inl ⟨hpublishes, h.then_sameSlots (Board.sameSlots_echo _ _)⟩
      · exact .inr ⟨hquiet, h.then_sameSlots (Board.sameSlots_echo _ _)⟩

end Session

end ChartBoard
