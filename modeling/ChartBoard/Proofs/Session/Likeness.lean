import ChartBoard.Proofs.Session.Turns

/-!
Two sessions side by side. A likeness of charts is a relation that no step with a chart
breaks, and like charts accept and refuse the same. Sessions with like charts then answer
every line alike, in any slots of any two boards with equally many slots (`Kin.respond`): what
the slots show, who owns them, the grid, the title and the status log have no part in it.

There are two likenesses. Charts are equal and stay so under one clock; and charts with
the same attributes and the same outline stay such whatever the clocks read.
-/

namespace ChartBoard

namespace Chart

/-- Outcomes of a step with two charts: both refused for one reason, or both taken. -/
inductive LikeSteps (Like : Chart → Chart → Prop) :
    Except Refusal Chart → Except Refusal Chart → Prop where
  | refused (refusal : Refusal) : LikeSteps Like (.error refusal) (.error refusal)
  | taken {first second : Chart} (h : Like first second) : LikeSteps Like (.ok first) (.ok second)

/-- Charts that have been fed with one result. -/
structure LikeFed (Like : Chart → Chart → Prop) (first second : Fed) : Prop where
  result : first.result = second.result
  chart : Like first.chart second.chart

structure Likeness (Like : Chart → Chart → Prop) (clock clock' : Clock) : Prop where
  create : ∀ kind, Like (.create kind) (.create kind)
  init : ∀ {first second : Chart}, Like first second → Like first.init second.init
  settled : ∀ {first second : Chart}, Like first second → Like first.settled second.settled
  setAttribute : ∀ {first second : Chart}, Like first second → ∀ name value,
    LikeSteps Like (first.setAttribute name value) (second.setAttribute name value)
  addPlot : ∀ {first second : Chart}, Like first second →
    LikeSteps Like first.addPlot second.addPlot
  clear : ∀ {first second : Chart}, Like first second → ∀ index,
    LikeFed Like (first.attempt (Chart.clear index)) (second.attempt (Chart.clear index))
  replot : ∀ {first second : Chart}, Like first second → ∀ index,
    LikeFed Like (first.attempt (Chart.replot index)) (second.attempt (Chart.replot index))
  feed : ∀ {first second : Chart}, Like first second → ∀ data,
    LikeFed Like (first.feed clock data) (second.feed clock' data)

theorem LikeSteps.refl_eq (outcome : Except Refusal Chart) : LikeSteps Eq outcome outcome := by
  cases outcome with
  | error refusal => exact .refused refusal
  | ok chart => exact .taken rfl

theorem likeness_eq (clock : Clock) : Likeness Eq clock clock where
  create _ := rfl
  init := by rintro chart _ rfl; rfl
  settled := by rintro chart _ rfl; rfl
  setAttribute := by rintro chart _ rfl name value; exact .refl_eq _
  addPlot := by rintro chart _ rfl; exact .refl_eq _
  clear := by rintro chart _ rfl index; exact ⟨rfl, rfl⟩
  replot := by rintro chart _ rfl index; exact ⟨rfl, rfl⟩
  feed := by rintro chart _ rfl data; exact ⟨rfl, rfl⟩

/-- Charts that differ at most in what their plots hold and how they are drawn. -/
structure SameOutline (first second : Chart) : Prop where
  attributes : first.attributes = second.attributes
  outline : first.outline = second.outline

/-- A step ruled by the outline goes alike with charts of one outline. -/
theorem SameOutline.attempt {step : Chart → Except Refusal Chart}
    {refusal? : Outline → Option Refusal} (hruled : Ruled step refusal?) {first second : Chart}
    (h : first.SameOutline second) :
    LikeFed SameOutline (first.attempt step) (second.attempt step) := by
  rcases attempt_cases hruled first with ⟨refusal, hrefusal, hfirst⟩
    | ⟨hnone, next, _, hfirst, hnext⟩
  · rcases attempt_cases hruled second with ⟨other, hother, hsecond⟩ | ⟨hother, _⟩
    · rw [← h.outline, hrefusal, Option.some.injEq] at hother
      rw [hfirst, hsecond, hother]
      exact ⟨rfl, h⟩
    · rw [← h.outline, hrefusal] at hother
      cases hother
  · rcases attempt_cases hruled second with ⟨other, hother, _⟩ | ⟨_, next', _, hsecond, hnext'⟩
    · rw [← h.outline, hnone] at hother
      cases hother
    · rw [hfirst, hsecond]
      refine ⟨rfl, ?_, ?_⟩
      · exact hnext.attributes.trans (h.attributes.trans hnext'.attributes.symm)
      · exact hnext.outline.trans (h.outline.trans hnext'.outline.symm)

theorem SameOutline.kind {first second : Chart} (h : first.SameOutline second) :
    first.kind = second.kind := congrArg Outline.kind h.outline

theorem SameOutline.plotCount {first second : Chart} (h : first.SameOutline second) :
    first.plotCount = second.plotCount := congrArg Outline.plotCount h.outline

theorem SameOutline.setAttribute {first second : Chart} (h : first.SameOutline second)
    (name value : String) :
    LikeSteps SameOutline (first.setAttribute name value) (second.setAttribute name value) := by
  unfold Chart.setAttribute
  rw [h.attributes]
  cases second.attributes.set name value with
  | error refusal => exact .refused refusal
  | ok attributes => exact .taken ⟨rfl, h.outline⟩

theorem SameOutline.addPlot {first second : Chart} (h : first.SameOutline second) :
    LikeSteps SameOutline first.addPlot second.addPlot := by
  have hroom : first.checkRoom = second.checkRoom := by
    unfold checkRoom
    rw [h.kind, h.plotCount]
  unfold Chart.addPlot
  rw [hroom]
  cases second.checkRoom with
  | error refusal => exact .refused refusal
  | ok _ =>
      refine .taken ⟨h.attributes, ?_⟩
      have hkind := h.kind
      have hcount := h.plotCount
      unfold Chart.kind at hkind
      unfold Chart.plotCount at hcount
      simp only [Chart.outline, Chart.kind, Chart.plotCount, kind_add, count_add, hkind, hcount]

theorem SameOutline.feed (clock clock' : Clock) {first second : Chart}
    (h : first.SameOutline second) (data : DataLine) :
    LikeFed SameOutline (first.feed clock data) (second.feed clock' data) := by
  have hfirst := advances_feed clock data first
  have hsecond := advances_feed clock' data second
  refine ⟨?_, ?_, ?_⟩
  · rw [feed_result, feed_result, h.outline]
  · exact hfirst.attributes.trans (h.attributes.trans hsecond.attributes.symm)
  · exact hfirst.outline.trans (h.outline.trans hsecond.outline.symm)

theorem likeness_sameOutline (clock clock' : Clock) : Likeness SameOutline clock clock' where
  create _ := ⟨rfl, rfl⟩
  init := by
    intro first second h
    unfold Chart.init
    rw [h.kind, h.attributes]
    exact ⟨rfl, rfl⟩
  settled h := ⟨h.attributes, h.outline⟩
  setAttribute h name value := h.setAttribute name value
  addPlot h := h.addPlot
  clear h index := h.attempt (ruled_clear index)
  replot h index := h.attempt (ruled_replot index)
  feed h data := h.feed clock clock' data

end Chart

namespace Session

/-- Sessions that are equally far with like charts, in whatever slots; what generation they hold
is open, too. -/
structure Kin (Like : Chart → Chart → Prop) (first second : Session) : Prop where
  stage : first.stage = second.stage
  chart : Option.Rel Like first.chart second.chart

/-- Sessions at the same place with like charts. -/
structure Alike (Like : Chart → Chart → Prop) (first second : Session) : Prop where
  slot : first.slot = second.slot
  stage : first.stage = second.stage
  chart : Option.Rel Like first.chart second.chart

theorem Alike.kin {Like : Chart → Chart → Prop} {first second : Session}
    (h : Alike Like first second) : Kin Like first second := ⟨h.stage, h.chart⟩

theorem Kin.chart_cases {Like : Chart → Chart → Prop} {first second : Session}
    (h : Kin Like first second) :
    (first.chart = none ∧ second.chart = none) ∨
    ∃ chart chart', first.chart = some chart ∧ second.chart = some chart' ∧ Like chart chart' := by
  have hrel := h.chart
  generalize first.chart = kept at hrel
  generalize second.chart = kept' at hrel
  cases hrel with
  | none => exact .inl ⟨rfl, rfl⟩
  | some hchart => exact .inr ⟨_, _, rfl, rfl, hchart⟩

/-- Turns that accept or refuse the same and leave like sessions and equally many slots. -/
structure LikeTurns (Like : Chart → Chart → Prop) (first second : Turn) : Prop where
  result : first.result = second.result
  session : Kin Like first.session second.session
  slotCount : first.board.slotCount = second.board.slotCount

section

variable {Like : Chart → Chart → Prop} {clock clock' : Clock}
  (hlike : Chart.Likeness Like clock clock') {first second : Session} {board board' : Board}
  (h : Kin Like first second) (hslots : board.slotCount = board'.slotCount)

include h hslots

theorem Kin.refuse (refusal : Refusal) :
    LikeTurns Like (first.refuse refusal board) (second.refuse refusal board') :=
  ⟨rfl, h, hslots⟩

theorem Kin.setGrid (value : String) :
    LikeTurns Like (first.setGrid value board) (second.setGrid value board') := by
  unfold Session.setGrid
  cases readGrid value with
  | error fault => exact h.refuse hslots _
  | ok grid =>
      refine ⟨?_, h, ?_⟩
      · simp only [Board.setGrid, hslots]
        split <;> rfl
      · rw [(Board.sameSlots_setGrid _ _ board).slotCount,
          (Board.sameSlots_setGrid _ _ board').slotCount]
        exact hslots

include hlike

theorem Kin.setKind (value : String) :
    LikeTurns Like (first.setKind value board) (second.setKind value board') := by
  unfold Session.setKind
  dsimp only
  cases ChartKind.ofName? (String.ofList (Text.trim value.toList)) with
  | none => exact h.refuse hslots _
  | some kind => exact ⟨rfl, ⟨rfl, .some (hlike.create kind)⟩, hslots⟩

theorem Kin.setAttribute (name value : String) :
    LikeTurns Like (first.setAttribute name value board)
      (second.setAttribute name value board') := by
  unfold Session.setAttribute
  rcases h.chart_cases with ⟨hfirst, hsecond⟩ | ⟨chart, chart', hfirst, hsecond, hchart⟩
  · rw [hfirst, hsecond]
    exact h.refuse hslots _
  · rw [hfirst, hsecond, h.stage]
    dsimp only
    have hstep := hlike.setAttribute hchart name value
    generalize chart.setAttribute name value = outcome at hstep
    generalize chart'.setAttribute name value = outcome' at hstep
    cases hstep with
    | refused refusal => exact h.refuse hslots refusal
    | taken hnext => exact ⟨rfl, ⟨rfl, .some hnext⟩, hslots⟩

theorem Kin.set (name value : String) :
    LikeTurns Like (first.set name value board) (second.set name value board') := by
  unfold Session.set
  split
  · exact h.setKind hlike hslots value
  · split
    · exact h.setGrid hslots value
    · split
      · exact ⟨rfl, h, hslots⟩
      · exact h.setAttribute hlike hslots name value

theorem Kin.init : LikeTurns Like (first.init board) (second.init board') := by
  unfold Session.init
  rcases h.chart_cases with ⟨hfirst, hsecond⟩ | ⟨chart, chart', hfirst, hsecond, hchart⟩
  · rw [hfirst, hsecond]
    exact h.refuse hslots _
  · rw [hfirst, hsecond]
    exact ⟨rfl, ⟨rfl, .some (hlike.init hchart)⟩, hslots⟩

theorem Kin.addPlot : LikeTurns Like (first.addPlot board) (second.addPlot board') := by
  unfold Session.addPlot
  rcases h.chart_cases with ⟨hfirst, hsecond⟩ | ⟨chart, chart', hfirst, hsecond, hchart⟩
  · rw [hfirst, hsecond]
    exact h.refuse hslots _
  rw [hfirst, hsecond, h.stage]
  dsimp only
  split
  · have hstep := hlike.addPlot hchart
    generalize chart.addPlot = outcome at hstep
    generalize chart'.addPlot = outcome' at hstep
    cases hstep with
    | refused refusal => exact h.refuse hslots refusal
    | taken hnext =>
        refine ⟨rfl, ⟨rfl, .some (hlike.settled hnext)⟩, ?_⟩
        simp only [present, Board.slotCount_attach, hslots]
  · exact h.refuse hslots _

theorem Kin.withChart (action : Action) {step step' : Chart → Fed}
    (hstep : ∀ {chart chart' : Chart}, Like chart chart' →
      Chart.LikeFed Like (step chart) (step' chart')) :
    LikeTurns Like (first.withChart action step board) (second.withChart action step' board') := by
  unfold Session.withChart
  rcases h.chart_cases with ⟨hfirst, hsecond⟩ | ⟨chart, chart', hfirst, hsecond, hchart⟩
  · rw [hfirst, hsecond]
    exact h.refuse hslots _
  rw [hfirst, hsecond, h.stage]
  dsimp only
  have hfed := hstep hchart
  have hsettled := hlike.settled hfed.chart
  by_cases hfeeding : second.stage = .feeding
  · rw [if_pos hfeeding, if_pos hfeeding]
    obtain ⟨-, -, hstage, hnew, hcount⟩ := publish_outcome (step chart).chart first board
    obtain ⟨-, -, hstage', hnew', hcount'⟩ := publish_outcome (step' chart').chart second board'
    refine ⟨hfed.result, ⟨?_, ?_⟩, ?_⟩
    · rw [hstage, hstage', h.stage]
    · rw [hnew, hnew']
      exact .some hsettled
    · rw [hcount, hcount', hslots]
  · rw [if_neg hfeeding, if_neg hfeeding]
    exact ⟨hfed.result, ⟨rfl, .some hsettled⟩, hslots⟩

theorem Kin.perform (command : Command) :
    LikeTurns Like (first.perform clock command board) (second.perform clock' command board') := by
  cases command with
  | comment => exact ⟨rfl, h, hslots⟩
  | set name value => exact h.set hlike hslots name value
  | init => exact h.init hlike hslots
  | addPlot => exact h.addPlot hlike hslots
  | clear index => exact h.withChart hlike hslots .clearPlot fun hchart => hlike.clear hchart index
  | replot index => exact h.withChart hlike hslots .replot fun hchart => hlike.replot hchart index
  | enableStatus enabled => exact ⟨rfl, h, hslots⟩
  | data values =>
      unfold Session.perform Session.feed
      dsimp only
      rw [h.stage]
      split
      · exact h.withChart hlike hslots .addValues fun hchart => hlike.feed hchart values
      · exact h.refuse hslots _

theorem Kin.process (line : String) :
    LikeTurns Like (first.process clock line board) (second.process clock' line board') := by
  unfold Session.process
  cases Command.read line with
  | error refusal => exact h.refuse hslots refusal
  | ok command => exact h.perform hlike hslots command

/-- Like sessions reply alike, whatever the boards are beside their number of slots. -/
theorem Kin.respond (line : String) :
    (first.respond clock line board).reply = (second.respond clock' line board').reply ∧
      Kin Like (first.respond clock line board).session
        (second.respond clock' line board').session ∧
      (first.respond clock line board).board.slotCount =
        (second.respond clock' line board').board.slotCount := by
  have hturn := h.process hlike hslots (withoutLineEnd line)
  unfold Session.respond
  dsimp only
  refine ⟨congrArg replyTo hturn.result, hturn.session, ?_⟩
  rw [(Board.sameSlots_echo _ _).slotCount, (Board.sameSlots_echo _ _).slotCount]
  exact hturn.slotCount

end

section Slot

variable (session : Session) (board : Board)

theorem slot_withChart (action : Action) (step : Chart → Fed) :
    (session.withChart action step board).session.slot = session.slot := by
  unfold withChart
  split
  · rfl
  · dsimp only
    split
    · exact (publish_outcome _ session board).2.1
    · rfl

variable {session board} in
theorem Outcome.slot {clock : Clock} {command : Command} {turn : Turn}
    (h : session.Outcome clock board command turn) : turn.session.slot = session.slot := by
  cases h with
  | works _ action => exact slot_withChart session board action _
  | refused | ignored | choosesKind | arranges | titles | configures | initializes | addsPlot
  | enablesStatus => rfl

/-- No line moves a session to another slot. -/
theorem slot_respond (clock : Clock) (line : String) :
    (session.respond clock line board).session.slot = session.slot := by
  unfold respond process
  dsimp only
  cases Command.read (withoutLineEnd line) with
  | error refusal => rfl
  | ok command => exact (perform_outcome clock session board command).slot

end Slot

/-- Sessions that are alike reply alike and stay alike. -/
theorem Alike.respond {Like : Chart → Chart → Prop} {clock clock' : Clock}
    (hlike : Chart.Likeness Like clock clock') {first second : Session} {board board' : Board}
    (h : Alike Like first second) (hslots : board.slotCount = board'.slotCount) (line : String) :
    (first.respond clock line board).reply = (second.respond clock' line board').reply ∧
      Alike Like (first.respond clock line board).session
        (second.respond clock' line board').session ∧
      (first.respond clock line board).board.slotCount =
        (second.respond clock' line board').board.slotCount := by
  obtain ⟨hreply, hkin, hcount⟩ := h.kin.respond hlike hslots line
  refine ⟨hreply, ⟨?_, hkin.stage, hkin.chart⟩, hcount⟩
  rw [slot_respond, slot_respond, h.slot]

end Session

end ChartBoard
