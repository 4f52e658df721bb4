import ChartBoard.Proofs.Board.Surroundings
import ChartBoard.Proofs.Session.Turns

/-!
What a turn leaves alone. A refused turn changes nothing of what surrounds the pictures of
the board (`refusedInPlace_process`), and if it publishes nevertheless, its session feeds a
chart. A session that goes on feeding its chart without publishing it keeps the generation
under which it has shown it.
-/

namespace ChartBoard

namespace Session

/-- A turn that changes the surroundings of the pictures only if it is accepted. -/
def RefusedInPlace (board : Board) (turn : Turn) : Prop :=
  ∀ refusal, turn.result = .error refusal → board.SameSurroundings turn.board

theorem refusedInPlace_refuse (session : Session) (board : Board) (refusal : Refusal) :
    RefusedInPlace board (session.refuse refusal board) :=
  fun _ _ => Board.SameSurroundings.refl board

theorem refusedInPlace_of_ok {board : Board} {turn : Turn} (h : turn.result = .ok ()) :
    RefusedInPlace board turn := by
  intro refusal hrefused
  rw [h] at hrefused
  cases hrefused

theorem sameSurroundings_present (chart : Chart) (session : Session) (board : Board) :
    board.SameSurroundings (session.present chart board).board :=
  Board.sameSurroundings_attach session.slot chart.picture board

theorem sameSurroundings_publish (chart : Chart) (session : Session) (board : Board) :
    board.SameSurroundings (session.publish chart board).board := by
  unfold publish
  cases session.generation with
  | none => exact sameSurroundings_present chart session board
  | some generation =>
      have happlied := Board.sameSurroundings_apply session.slot generation chart.pending board
      dsimp only
      split
      · exact happlied
      · exact happlied.trans (sameSurroundings_present chart session _)

theorem sameSurroundings_withChart (action : Action) (step : Chart → Fed) (session : Session)
    (board : Board) : board.SameSurroundings (session.withChart action step board).board := by
  unfold withChart
  split
  · exact Board.SameSurroundings.refl board
  · dsimp only
    split
    · exact sameSurroundings_publish _ session board
    · exact Board.SameSurroundings.refl board

theorem Outcome.refusedInPlace {clock : Clock} {session : Session} {board : Board}
    {command : Command} {turn : Turn} (h : session.Outcome clock board command turn) :
    RefusedInPlace board turn := by
  cases h with
  | refused _ refusal => exact refusedInPlace_refuse session board refusal
  | works hstep action => exact fun _ _ => sameSurroundings_withChart action _ session board
  | ignored | choosesKind | arranges | titles | configures | initializes | addsPlot
  | enablesStatus => exact refusedInPlace_of_ok rfl

theorem refusedInPlace_process (clock : Clock) (line : String) (session : Session)
    (board : Board) : RefusedInPlace board (session.process clock line board) := by
  unfold process
  cases Command.read line with
  | error refusal => exact refusedInPlace_refuse session board refusal
  | ok command => exact (perform_outcome clock session board command).refusedInPlace

/-- What a line does to its session, it does by being processed without its end. -/
theorem session_respond (clock : Clock) (line : String) (session : Session) (board : Board) :
    (session.respond clock line board).session =
      (session.process clock (withoutLineEnd line) board).session := by
  simp only [respond]

theorem sameSurroundings_respond (clock : Clock) (line : String) (session : Session)
    (board : Board) :
    (session.process clock (withoutLineEnd line) board).board.SameSurroundings
      (session.respond clock line board).board := by
  simp only [respond]
  exact Board.sameSurroundings_echo _ _

/-- An error is replied to a line that has been refused, and to no other. -/
theorem refused_of_reply {session : Session} {clock : Clock} {line : String} {board : Board}
    {text : String} (h : (session.respond clock line board).reply = .error text) :
    ∃ refusal, (session.process clock (withoutLineEnd line) board).result = .error refusal ∧
      text = refusal.message := by
  unfold respond at h
  dsimp only at h
  cases hresult : (session.process clock (withoutLineEnd line) board).result with
  | ok _ =>
      rw [hresult] at h
      cases h
  | error refusal =>
      rw [hresult] at h
      cases h
      exact ⟨refusal, rfl, rfl⟩

/-- A line that publishes and is refused all the same works on the plots of a chart that is
fed. -/
theorem feeding_of_publishes {session : Session} {clock : Clock} {line : String} {board : Board}
    (hpublishes : session.publishes line board = true) {refusal : Refusal}
    (hrefused : (session.process clock (withoutLineEnd line) board).result = .error refusal) :
    session.stage = .feeding := by
  unfold publishes at hpublishes
  unfold process at hrefused
  cases hread : Command.read (withoutLineEnd line) with
  | error other =>
      rw [hread] at hpublishes
      cases hpublishes
  | ok command =>
      rw [hread] at hpublishes hrefused
      dsimp only at hpublishes hrefused
      cases command with
      | comment | set | init | enableStatus => cases hpublishes
      | clear | replot | data => simpa [Command.publishes] using hpublishes
      | addPlot =>
          rw [perform] at hrefused
          rw [Command.publishes, hrefused] at hpublishes
          cases hpublishes

/-- A session that does not publish, but feeds its chart, keeps its generation. -/
theorem Outcome.generation {clock : Clock} {session : Session} {board : Board} {command : Command}
    {turn : Turn} (h : session.Outcome clock board command turn)
    (hquiet : command.publishes session board = false) (hfeeding : turn.session.stage = .feeding) :
    turn.session.generation = session.generation := by
  cases h with
  | choosesKind =>
      -- whoever has just chosen a kind of chart feeds none
      cases hfeeding
  | addsPlot hchart hready hadd =>
      cases (publishes_addPlot board hchart hready hadd).symm.trans hquiet
  | works hstep action =>
      have hstage : ¬session.stage = .feeding := by
        rwa [Command.publishes_onPlots hstep, beq_eq_false_iff_ne] at hquiet
      unfold withChart
      split
      · rfl
      · dsimp only
        rw [if_neg hstage]
  | refused | ignored | arranges | titles | configures | initializes | enablesStatus => rfl

theorem generation_respond {session : Session} {clock : Clock} {line : String} {board : Board}
    (hquiet : session.publishes line board = false)
    (hfeeding : (session.respond clock line board).session.stage = .feeding) :
    (session.respond clock line board).session.generation = session.generation := by
  unfold publishes at hquiet
  unfold respond process at hfeeding ⊢
  dsimp only at hfeeding ⊢
  cases hread : Command.read (withoutLineEnd line) with
  | error refusal => rfl
  | ok command =>
      rw [hread] at hquiet hfeeding
      exact (perform_outcome clock session board command).generation hquiet hfeeding

end Session

end ChartBoard
