import ChartBoard.Proofs.Session.Turns

/-!
What a session shows when it publishes. Under the generation that it holds it changes the picture in
its slot, and else it attaches one; either way nothing is left to see of how the chart got there
(`Session.Displays`). So a chart that is shown over another one that the session has just shown is
shown as if there had not been the other (`Session.Displays.trans`), and what is shown of a chart
tells the session and all slots (`Session.Displays.unique`).
-/

namespace ChartBoard.Session

/-- A session shows a chart in its slot and has it then. -/
inductive Displays (session : Session) (board : Board) (chart : Chart) (session' : Session)
    (board' : Board) : Prop where
  | changes {shown : Shown} (howns : session.Owns board shown)
      (hsession : session' = { session with chart := some chart })
      (hslots : (board.showing session.slot ⟨shown.generation, chart.picture⟩).SameSlots board')
  | attaches (hnot : ∀ shown, ¬session.Owns board shown)
      (hsession : session' = { session with
        chart := some chart
        generation := (board.attach session.slot chart.picture).value })
      (hslots : (board.attach session.slot chart.picture).board.SameSlots board')

namespace Displays

variable {session session' session'' : Session} {board board' board'' : Board}
    {chart chart' : Chart}

theorem slot (h : session.Displays board chart session' board') : session'.slot = session.slot := by
  cases h with
  | changes _ hsession | attaches _ hsession => rw [hsession]

theorem stage (h : session.Displays board chart session' board') :
    session'.stage = session.stage := by
  cases h with
  | changes _ hsession | attaches _ hsession => rw [hsession]

theorem chart_eq (h : session.Displays board chart session' board') :
    session'.chart = some chart := by
  cases h with
  | changes _ hsession | attaches _ hsession => rw [hsession]

theorem then_sameSlots (h : session.Displays board chart session' board')
    (hslots : board'.SameSlots board'') : session.Displays board chart session' board'' := by
  cases h with
  | changes howns hsession hslots' => exact .changes howns hsession (hslots'.trans hslots)
  | attaches hnot hsession hslots' => exact .attaches hnot hsession (hslots'.trans hslots)

theorem unique (h : session.Displays board chart session' board')
    (h' : session.Displays board chart session'' board'') :
    session' = session'' ∧ board'.SameSlots board'' := by
  cases h with
  | changes howns hsession hslots =>
      cases h' with
      | changes howns' hsession' hslots' =>
          obtain rfl := Option.some.inj (howns.1.symm.trans howns'.1)
          exact ⟨hsession.trans hsession'.symm, hslots.symm.trans hslots'⟩
      | attaches hnot => exact absurd howns (hnot _)
  | attaches hnot hsession hslots =>
      cases h' with
      | changes howns => exact absurd howns (hnot _)
      | attaches _ hsession' hslots' =>
          exact ⟨hsession.trans hsession'.symm, hslots.symm.trans hslots'⟩

/-- What a session has just shown it may change, if its slot lies on the board. -/
theorem owns (h : session.Displays board chart session' board')
    (hin : session.slot < board.slotCount) :
    ∃ generation, session'.Owns board' ⟨generation, chart.picture⟩ := by
  cases h with
  | @changes shown howns hsession hslots =>
      refine ⟨shown.generation, ?_, ?_⟩
      · rw [hsession, hslots.shown?]
        exact Board.shown?_showing _ hin
      · rw [hsession]
        exact howns.2
  | attaches _ hsession hslots =>
      refine ⟨board.nextGeneration, ?_, ?_⟩
      · rw [hsession, hslots.shown?]
        exact Board.shown?_attach _ hin
      · rw [hsession, Board.attach_of_lt _ hin]

/-- Outside the board a session keeps its chart and is given no generation, and nothing is shown. -/
theorem outside_iff (hin : ¬session.slot < board.slotCount) :
    session.Displays board chart session' board' ↔
      session' = { session with chart := some chart, generation := none } ∧
      board.SameSlots board' := by
  have hnot (shown : Shown) : ¬session.Owns board shown := fun howns =>
    hin (Board.lt_slotCount_of_shown? howns.1)
  constructor
  · intro h
    cases h with
    | changes howns => exact absurd howns (hnot _)
    | attaches _ hsession hslots =>
        rw [Board.attach_outside _ hin] at hsession hslots
        exact ⟨hsession, hslots⟩
  · rintro ⟨hsession, hslots⟩
    refine .attaches hnot ?_ ?_
    · rw [Board.attach_outside _ hin, hsession]
    · rw [Board.attach_outside _ hin]
      exact hslots

/-- Of two charts that are shown one after the other only the second counts. -/
theorem trans (h : session.Displays board chart session' board')
    (h' : session'.Displays board' chart' session'' board'') :
    session.Displays board chart' session'' board'' := by
  have hslot := h.slot
  by_cases hin : session.slot < board.slotCount
  · obtain ⟨generation, howns'⟩ := h.owns hin
    cases h' with
    | attaches hnot' => exact absurd howns' (hnot' _)
    | @changes shown' howns'' hsession' hslots' =>
        obtain rfl := Option.some.inj (howns''.1.symm.trans howns'.1)
        rw [hslot] at hslots'
        cases h with
        | @changes shown howns hsession hslots =>
            have hgeneration : generation = shown.generation := by
              rw [Owns, hsession] at howns'
              exact Option.some.inj (howns'.2.symm.trans howns.2)
            have hshowing := hslots.showing session.slot ⟨shown.generation, chart'.picture⟩
            rw [Board.showing_showing] at hshowing
            rw [hgeneration] at hslots'
            exact .changes howns (by rw [hsession', hsession]) (hshowing.trans hslots')
        | attaches hnot hsession hslots =>
            have hgeneration : generation = board.nextGeneration := by
              rw [Owns, hsession, Board.attach_of_lt _ hin] at howns'
              exact (Option.some.inj howns'.2).symm
            have hshowing := hslots.showing session.slot ⟨board.nextGeneration, chart'.picture⟩
            rw [Board.showing_attach _ _ hin] at hshowing
            rw [hgeneration] at hslots'
            refine .attaches hnot ?_ (hshowing.trans hslots')
            rw [hsession', hsession, Board.attach_of_lt _ hin, Board.attach_of_lt _ hin]
  · obtain ⟨hsession, hslots⟩ := (outside_iff hin).mp h
    have hin' : ¬session'.slot < board'.slotCount := by rwa [hslot, hslots.slotCount]
    obtain ⟨hsession', hslots'⟩ := (outside_iff hin').mp h'
    exact (outside_iff hin).mpr ⟨by rw [hsession', hsession], hslots.trans hslots'⟩

/-- No slot shows anything new but the chart, in the slot of the session. -/
theorem picture?_cases (h : session.Displays board chart session' board') (slot : Nat) :
    board'.picture? slot = board.picture? slot ∨
      slot = session.slot ∧ board'.picture? slot = some chart.picture := by
  unfold Board.picture?
  by_cases hslot : slot = session.slot
  · subst hslot
    by_cases hin : session.slot < board.slotCount
    · obtain ⟨generation, hshown, -⟩ := h.owns hin
      rw [h.slot] at hshown
      exact .inr ⟨rfl, by rw [hshown, Option.map_some]⟩
    · exact .inl (by rw [((outside_iff hin).mp h).2.shown?])
  · refine .inl ?_
    cases h with
    | changes _ _ hslots => rw [hslots.shown?, Board.shown?_showing_of_ne _ _ hslot]
    | attaches _ _ hslots => rw [hslots.shown?, Board.shown?_attach_of_ne _ _ _ hslot]

end Displays

section Publish

variable {session : Session} {board : Board} (hsound : session.Sound board)
  (hfeeding : session.stage = .feeding) {before : Chart} (hchart : session.chart = some before)

include hsound hfeeding hchart

/-- A chart that has advanced is shown when it is published. -/
theorem displays_publish {after : Chart} (hadvances : before.Advances after) :
    session.Displays board after.settled (session.publish after board).session
      (session.publish after board).board := by
  by_cases howned : ∃ shown, session.Owns board shown
  · obtain ⟨shown, howns⟩ := howned
    obtain ⟨hpending, hfit⟩ := hsound.settled before hchart
    have hfollow := hadvances.follow_pending hfit hpending
    rw [← hsound.shows before shown hfeeding hchart howns] at hfollow
    rw [publish_eq_of_owns howns hfollow]
    dsimp only
    rw [Board.apply_of_owned howns.1 hfollow]
    exact .changes howns rfl (.refl _)
  · have hnot (shown : Shown) : ¬session.Owns board shown := fun howns => howned ⟨shown, howns⟩
    rw [publish_of_not_owns hnot]
    exact .attaches hnot rfl (.refl _)

/-- A line of values is answered as the chart takes it, and then the session shows its chart. -/
theorem displays_respond {clock : Clock} {line : String} {data : DataLine}
    (hread : Command.read line = .ok (.data data)) :
    let fed := Chart.feed clock data before
    (session.respond clock line board).reply = replyTo fed.result ∧
      session.Displays board fed.chart.settled (session.respond clock line board).session
        (session.respond clock line board).board := by
  have hperform : session.process clock (withoutLineEnd line) board =
      { session.publish (Chart.feed clock data before).chart board with
        result := (Chart.feed clock data before).result } := by
    rw [process, read_withoutLineEnd, hread]
    dsimp only [perform]
    rw [feed, if_pos hfeeding, withChart, hchart]
    dsimp only
    rw [if_pos hfeeding]
  have hshown := displays_publish hsound hfeeding hchart (Chart.advances_feed clock data before)
  unfold respond
  dsimp only
  rw [hperform]
  exact ⟨rfl, hshown.then_sameSlots (Board.sameSlots_echo _ _)⟩

end Publish

end ChartBoard.Session
