import ChartBoard.Proofs.Session.RefusedTurns
import ChartBoard.Proofs.SharedBoard.Display
import ChartBoard.Proofs.SharedBoard.Refusals

/-!
Who holds a slot. A slot is held by the session that has published in it last. While that
session feeds its chart, the board accepts its changes, and it accepts those of no other
(`HeldBy`). So it can be told what a refused line does to the display: nothing at all,
unless its session works on the plots of a chart that it feeds while another session holds
the slot. Then the session shows its chart there again, though nothing has come of the line
(`refused_line_leaves_display`).
-/

namespace ChartBoard.SharedBoard

variable {Name : Type}

/-- The session that a line makes the holder of a slot. -/
def newHolder? (slot : Nat) (message : Message Name) (state : SharedBoard Name) : Option Name :=
  if (state.sessions message.recipient).slot = slot ∧ state.publishes message = true then
    some message.recipient
  else
    none

/-- For each slot, a session that is bound to it. While the session feeds a chart, it owns
the slot, and no other session owns it ever. -/
structure HeldBy (state : SharedBoard Name) (holder : Nat → Option Name) : Prop where
  bound : ∀ slot name, holder slot = some name → (state.sessions name).slot = slot
  owns : ∀ slot name, slot < state.board.slotCount → holder slot = some name →
    (state.sessions name).stage = .feeding → ∃ shown, (state.sessions name).Owns state.board shown
  owned : ∀ name shown, (state.sessions name).Owns state.board shown →
    holder (state.sessions name).slot = some name

theorem heldBy_fresh (slotOf : Name → Nat) (board : Board) :
    (fresh slotOf board).HeldBy fun _ => none where
  bound _ _ h := by cases h
  owns _ _ _ h := by cases h
  owned _ _ howns := by cases howns.2

variable [DecidableEq Name]

/-- The session that holds a slot after a run: the one that has published in it last. -/
def lastHolder? (slot : Nat) : List (Message Name) → SharedBoard Name → Option Name
  | [], _ => none
  | message :: messages, state =>
      (lastHolder? slot messages (state.hear message)).or (state.newHolder? slot message)

/-- A line that publishes makes its session the holder of its slot. -/
theorem HeldBy.of_published {state : SharedBoard Name} {holder : Nat → Option Name}
    (hstate : state.Consistent) (h : state.HeldBy holder) {message : Message Name}
    (hpublished : (state.sessions message.recipient).Published state.board
      (state.response message).session (state.response message).board) :
    (state.hear message).HeldBy
      (Function.update holder (state.sessions message.recipient).slot
        (some message.recipient)) := by
  obtain ⟨hplaces, hcount⟩ := hstate.places message
  refine ⟨?bound, ?owns, ?owned⟩
  case bound =>
    intro slot name hholder
    rw [hplaces]
    by_cases hslot : slot = (state.sessions message.recipient).slot
    · subst hslot
      rw [Function.update_self, Option.some.injEq] at hholder
      rw [hholder]
    · rw [Function.update_of_ne hslot] at hholder
      exact h.bound slot name hholder
  case owns =>
    intro slot name hin hholder hfeeding
    rw [hcount] at hin
    by_cases hslot : slot = (state.sessions message.recipient).slot
    · subst hslot
      rw [Function.update_self, Option.some.injEq] at hholder
      subst hholder
      obtain ⟨chart, -, hpicture⟩ := hpublished.shows
      obtain ⟨shown, hshown, -⟩ := Option.map_eq_some_iff.mp (hpicture hin)
      refine ⟨shown, ?_, ?_⟩
      · rw [hear_recipient, hear_board, hpublished.slot]
        exact hshown
      · rw [hear_recipient]
        exact hpublished.owner shown hshown
    · rw [Function.update_of_ne hslot] at hholder
      have hname : name ≠ message.recipient := by
        rintro rfl
        exact hslot (h.bound slot _ hholder).symm
      rw [hear_other hname] at hfeeding ⊢
      obtain ⟨shown, hshown, hgeneration⟩ := h.owns slot name hin hholder hfeeding
      have hbound := h.bound slot name hholder
      refine ⟨shown, ?_, hgeneration⟩
      rw [hear_board, hpublished.elsewhere _ (hbound ▸ hslot)]
      exact hshown
  case owned =>
    intro name shown howns
    have hheard := hstate.hear message
    by_cases hslot : (state.sessions name).slot = (state.sessions message.recipient).slot
    · -- the board shows what the session of the line has shown, under the session's generation
      have howner := hpublished.owner shown (by
        rw [← hslot, ← hplaces name, ← hear_board]
        exact howns.1)
      rw [← hear_recipient] at howner
      have hname : name = message.recipient := by
        by_contra hne
        exact hheard.distinct hne shown.generation howns.2 howner
      rw [hplaces, hslot, Function.update_self, hname]
    · have hname : name ≠ message.recipient := by
        rintro rfl
        exact hslot rfl
      rw [hear_other hname] at howns ⊢
      rw [Function.update_of_ne hslot]
      refine h.owned name shown ⟨?_, howns.2⟩
      rw [← hpublished.elsewhere _ hslot, ← hear_board]
      exact howns.1

/-- A line that does not publish leaves every slot with its holder. -/
theorem HeldBy.of_quiet {state : SharedBoard Name} {holder : Nat → Option Name}
    (hstate : state.Consistent) (h : state.HeldBy holder) {message : Message Name}
    (hnot : state.publishes message = false)
    (hquiet : (state.sessions message.recipient).Quiet state.board
      (state.response message).session (state.response message).board) :
    (state.hear message).HeldBy holder := by
  obtain ⟨hplaces, hcount⟩ := hstate.places message
  have hshown (slot : Nat) : (state.hear message).board.shown? slot = state.board.shown? slot := by
    rw [hear_board]
    exact hquiet.slots.shown? slot
  refine ⟨?bound, ?owns, ?owned⟩
  case bound =>
    intro slot name hholder
    rw [hplaces]
    exact h.bound slot name hholder
  case owns =>
    intro slot name hin hholder hfeeding
    rw [hcount] at hin
    unfold Session.Owns
    rw [hplaces, hshown]
    by_cases hname : name = message.recipient
    · subst hname
      rw [hear_recipient] at hfeeding ⊢
      obtain ⟨shown, hslot, hgeneration⟩ := h.owns slot _ hin hholder (hquiet.feeding hfeeding).1
      refine ⟨shown, hslot, ?_⟩
      exact (Session.generation_respond hnot hfeeding).trans hgeneration
    · rw [hear_other hname] at hfeeding ⊢
      exact h.owns slot name hin hholder hfeeding
  case owned =>
    intro name shown howns
    unfold Session.Owns at howns
    rw [hplaces, hshown] at howns
    rw [hplaces]
    by_cases hname : name = message.recipient
    · subst hname
      rw [hear_recipient] at howns
      rcases hquiet.generation with hsame | hnone
      · exact h.owned _ shown ⟨howns.1, hsame.symm.trans howns.2⟩
      · have hheld : (state.response message).session.generation = some shown.generation := howns.2
        rw [hnone] at hheld
        cases hheld
    · rw [hear_other hname] at howns
      exact h.owned name shown howns

theorem HeldBy.hear {state : SharedBoard Name} {holder : Nat → Option Name}
    (hstate : state.Consistent) (h : state.HeldBy holder) (message : Message Name) :
    (state.hear message).HeldBy fun slot => (state.newHolder? slot message).or (holder slot) := by
  rcases hstate.response_cases message with ⟨hpublishes, hpublished⟩ | ⟨hnot, hquiet⟩
  · have hnew : (fun slot => (state.newHolder? slot message).or (holder slot)) =
        Function.update holder (state.sessions message.recipient).slot
          (some message.recipient) := by
      funext slot
      by_cases hslot : (state.sessions message.recipient).slot = slot
      · subst hslot
        simp [newHolder?, hpublishes]
      · simp [newHolder?, hslot, Function.update_of_ne (Ne.symm hslot)]
    rw [hnew]
    exact h.of_published hstate hpublished
  · have hsame : (fun slot => (state.newHolder? slot message).or (holder slot)) = holder := by
      funext slot
      simp [newHolder?, hnot]
    rw [hsame]
    exact h.of_quiet hstate hnot hquiet

theorem HeldBy.hearAll {state : SharedBoard Name} {holder : Nat → Option Name}
    (hstate : state.Consistent) (h : state.HeldBy holder) (messages : List (Message Name)) :
    (state.hearAll messages).HeldBy fun slot =>
      (state.lastHolder? slot messages).or (holder slot) := by
  induction messages generalizing state holder with
  | nil => exact h
  | cons message messages ih =>
      have hlater := ih (hstate.hear message) (h.hear hstate message)
      simp only [← Option.or_assoc] at hlater
      exact hlater

/-- After every run each slot is held by the session that has published in it last. -/
theorem heldBy_reached (slotOf : Name → Nat) (board : Board) (messages : List (Message Name)) :
    ((fresh slotOf board).hearAll messages).HeldBy fun slot =>
      (fresh slotOf board).lastHolder? slot messages := by
  have hheld := (heldBy_fresh slotOf board).hearAll (consistent_fresh slotOf board) messages
  simpa using hheld

/-- No run changes how many slots a board has. -/
theorem slotCount_reached (slotOf : Name → Nat) (slotCount : Nat) (settings : BoardSettings)
    (window : Option Window) (messages : List (Message Name)) :
    ((fresh slotOf (Board.create slotCount settings window)).hearAll messages).board.slotCount =
      slotCount :=
  (places_reached slotOf slotCount settings window messages).2

/-- A slot that a refused line publishes shows the chart of the line's session as it was
before the line. -/
theorem picture?_of_published {state : SharedBoard Name} (hstate : state.Consistent)
    {message : Message Name} {refusal : Refusal}
    (hrefused : ((state.sessions message.recipient).process message.clock
      (Session.withoutLineEnd message.line) state.board).result = .error refusal)
    (hpublished : (state.sessions message.recipient).Published state.board
      (state.response message).session (state.response message).board)
    (hin : (state.sessions message.recipient).slot < state.board.slotCount) :
    (state.hear message).board.picture? (state.sessions message.recipient).slot =
      (state.sessions message.recipient).chart.map Chart.picture := by
  have hkept := Session.keptIfRefused_process (hstate.sound message.recipient) message.clock
    (Session.withoutLineEnd message.line) refusal hrefused
  obtain ⟨chart, hchart, hpicture⟩ := hpublished.shows
  rw [response, Session.session_respond, hkept.chart] at hchart
  rw [hear_board, hpicture hin, hchart, Option.map_some]

omit [DecidableEq Name] in
/-- The holder of a slot that feeds its chart has it shown there. -/
theorem HeldBy.picture? {state : SharedBoard Name} {holder : Nat → Option Name}
    (hstate : state.Consistent) (h : state.HeldBy holder) {name : Name}
    (hin : (state.sessions name).slot < state.board.slotCount)
    (hholder : holder (state.sessions name).slot = some name)
    (hfeeding : (state.sessions name).stage = .feeding) :
    state.board.picture? (state.sessions name).slot =
      (state.sessions name).chart.map Chart.picture := by
  obtain ⟨shown, howns⟩ := h.owns _ name hin hholder hfeeding
  obtain ⟨chart, hchart⟩ := (hstate.sound name).hasChart hfeeding
  rw [Board.picture?, howns.1, hchart, Option.map_some, Option.map_some,
    (hstate.sound name).shows chart shown hfeeding hchart howns]

/-- What a refused line shows: the chart of its session, if the line publishes in a slot of the
board that another session holds, and otherwise what has been shown before. -/
theorem HeldBy.picture?_of_refused {state : SharedBoard Name} {holder : Nat → Option Name}
    (hstate : state.Consistent) (h : state.HeldBy holder) {message : Message Name}
    {refusal : Refusal}
    (hrefused : ((state.sessions message.recipient).process message.clock
      (Session.withoutLineEnd message.line) state.board).result = .error refusal) (slot : Nat) :
    (state.hear message).board.picture? slot =
      if slot = (state.sessions message.recipient).slot ∧ slot < state.board.slotCount ∧
          state.publishes message = true ∧ holder slot ≠ some message.recipient then
        (state.sessions message.recipient).chart.map Chart.picture
      else
        state.board.picture? slot := by
  rcases hstate.response_cases message with ⟨hpublishes, hpublished⟩ | ⟨hnot, hquiet⟩
  · by_cases hslot : slot = (state.sessions message.recipient).slot
    · subst hslot
      by_cases hin : (state.sessions message.recipient).slot < state.board.slotCount
      · rw [picture?_of_published hstate hrefused hpublished hin]
        split
        · rfl
        · -- the holder of the slot has had its chart shown there before
          rename_i hholds
          have hholder : holder (state.sessions message.recipient).slot =
              some message.recipient := by
            by_contra hother
            exact hholds ⟨rfl, hin, hpublishes, hother⟩
          exact (h.picture? hstate hin hholder
            (Session.feeding_of_publishes hpublishes hrefused)).symm
      · have hlater : ¬(state.sessions message.recipient).slot <
            (state.hear message).board.slotCount := by
          rw [(hstate.places message).2]
          exact hin
        rw [if_neg fun hcase => hin hcase.2.1, Board.picture?_outside hlater,
          Board.picture?_outside hin]
    · rw [if_neg fun hcase => hslot hcase.1, Board.picture?, hstate.elsewhere message hslot]
      rfl
  · rw [if_neg fun hcase => by simp [hnot] at hcase, Board.picture?, hear_board,
      hquiet.slots.shown?]
    rfl

/-- A session whose slot another session has taken shows its chart there again with a line
that is refused. -/
theorem refused_line_takes_slot_back :
    let lines := [(true, "set graph=xy"), (true, "init"), (true, "add_plot"),
      (false, "set graph=bar"), (false, "init"), (false, "add_plot")]
    let messages := lines.map fun (name, line) => (⟨name, fun _ => 0, line⟩ : Message Bool)
    let state := (fresh (fun _ => 0) (Board.create 1 {} none)).hearAll messages
    let message : Message Bool := ⟨true, fun _ => 0, "clear 9"⟩
    (state.response message).reply = .error "xy plot 9 does not exist (1 plot(s) added)" ∧
      (state.hear message).board.picture? 0 ≠ state.board.picture? 0 := by
  decide +kernel

/-- A refused line leaves the grid, the title, the status log's switch and all slots as they
were; but if it works on the plots of a chart that is fed, and another session holds the
slot, then the slot shows this chart again, which the line has not changed. -/
theorem refused_line_leaves_display (slotOf : Name → Nat) (slotCount : Nat)
    (settings : BoardSettings) (window : Option Window) (messages : List (Message Name))
    (message : Message Name) (text : String) :
    let start := fresh slotOf (Board.create slotCount settings window)
    let state := start.hearAll messages
    let session := state.sessions message.recipient
    let board := (state.hear message).board
    (state.response message).reply = .error text →
      board.grid = state.board.grid ∧ board.frameTitle = state.board.frameTitle ∧
      board.statusEnabled = state.board.statusEnabled ∧
      ∀ slot, board.picture? slot =
        if slot = session.slot ∧ slot < slotCount ∧ state.publishes message = true ∧
            start.lastHolder? slot messages ≠ some message.recipient then
          session.chart.map Chart.picture
        else
          state.board.picture? slot := by
  intro start state session board hreply
  have hstate : state.Consistent := consistent_reached slotOf _ messages
  have hheld : state.HeldBy fun slot => start.lastHolder? slot messages :=
    heldBy_reached slotOf _ messages
  have hcount : state.board.slotCount = slotCount :=
    slotCount_reached slotOf slotCount settings window messages
  obtain ⟨refusal, hrefused, -⟩ := Session.refused_of_reply hreply
  have hsurroundings : state.board.SameSurroundings board := by
    have hturn :=
      Session.refusedInPlace_process message.clock _ session state.board refusal hrefused
    dsimp only [board]
    rw [hear_board]
    exact hturn.trans (Session.sameSurroundings_respond message.clock message.line session
      state.board)
  refine ⟨hsurroundings.grid, hsurroundings.frameTitle, hsurroundings.statusEnabled, fun slot => ?_⟩
  rw [← hcount]
  exact hheld.picture?_of_refused hstate hrefused slot

/-- The session that has lost its slot shows its chart there again; the holder of the slot
leaves with a refused line what is shown. -/
theorem refused_line_leaves_display_two_sessions :
    let lines := [(true, "set graph=xy"), (true, "init"), (true, "add_plot"),
      (false, "set graph=bar"), (false, "init"), (false, "add_plot")]
    let messages := lines.map fun (name, line) => (⟨name, fun _ => 0, line⟩ : Message Bool)
    let state := (fresh (fun _ => 0) (Board.create 1 {} none)).hearAll messages
    let message name : Message Bool := ⟨name, fun _ => 0, "clear 9"⟩
    ((state.response (message true)).reply =
        .error "xy plot 9 does not exist (1 plot(s) added)" ∧
      (state.hear (message true)).board.picture? 0 =
        (state.sessions true).chart.map Chart.picture) ∧
    (state.response (message false)).reply =
        .error "bar plot 9 does not exist (1 plot(s) added)" ∧
      (state.hear (message false)).board.picture? 0 = state.board.picture? 0 := by
  intro lines messages state message
  have hlost : (state.response (message true)).reply =
      .error "xy plot 9 does not exist (1 plot(s) added)" := by
    decide +kernel
  have hheld : (state.response (message false)).reply =
      .error "bar plot 9 does not exist (1 plot(s) added)" := by
    decide +kernel
  obtain ⟨-, -, -, hshown⟩ := refused_line_leaves_display (fun _ => 0) 1 {} none messages
    (message true) _ hlost
  obtain ⟨-, -, -, hkept⟩ := refused_line_leaves_display (fun _ => 0) 1 {} none messages
    (message false) _ hheld
  refine ⟨⟨hlost, ?_⟩, hheld, ?_⟩
  · rw [hshown 0, if_pos (by decide +kernel)]
  · rw [hkept 0, if_neg (by decide +kernel)]

end ChartBoard.SharedBoard
