import ChartBoard.Proofs.Session.Likeness
import ChartBoard.Proofs.SharedBoard.Basic
import Mathlib.Data.List.Forall2

/-!
What a session answers does not depend on the other sessions of a board. Take out of a run
the lines that one session hears, and give them to a session that is alone on a board with
as many slots: it answers the same and comes to the same chart (`answers_eq_converse`).
Replies and stages are the same even if its clock goes differently.
-/

namespace ChartBoard

/-- What a session makes of a line: its reply, and how far it is with which chart. -/
structure Answer where
  reply : Reply
  stage : Stage
  chart : Option Chart

def Session.Response.answer (response : Session.Response) : Answer :=
  ⟨response.reply, response.session.stage, response.session.chart⟩

/-- The part of an answer that goes over the line or tells which lines may follow. -/
def Answer.protocol (answer : Answer) : Reply × Stage := (answer.reply, answer.stage)

/-- The answers of a session that has the board for itself. -/
def Session.converse : List (Clock × String) → Session → Board → List Answer
  | [], _, _ => []
  | (clock, line) :: lines, session, board =>
      let response := session.respond clock line board
      response.answer :: converse lines response.session response.board

structure LikeAnswers (Like : Chart → Chart → Prop) (first second : Answer) : Prop where
  reply : first.reply = second.reply
  stage : first.stage = second.stage
  chart : Option.Rel Like first.chart second.chart

theorem LikeAnswers.eq {first second : Answer} (h : LikeAnswers Eq first second) :
    first = second := by
  obtain ⟨reply, stage, chart⟩ := first
  obtain ⟨reply', stage', chart'⟩ := second
  obtain ⟨hreply, hstage, hchart⟩ := h
  dsimp only at hreply hstage hchart
  rw [hreply, hstage]
  cases hchart with
  | none => rfl
  | some heq => rw [heq]

theorem LikeAnswers.of_kin {Like : Chart → Chart → Prop} {first second : Session.Response}
    (hreply : first.reply = second.reply)
    (hsession : Session.Kin Like first.session second.session) :
    LikeAnswers Like first.answer second.answer :=
  ⟨hreply, hsession.stage, hsession.chart⟩

theorem LikeAnswers.protocol {Like : Chart → Chart → Prop} {first second : Answer}
    (h : LikeAnswers Like first second) : first.protocol = second.protocol := by
  rw [Answer.protocol, Answer.protocol, h.reply, h.stage]

namespace SharedBoard

variable {Name : Type} [DecidableEq Name]

/-- The lines of a run that one session hears. -/
def heardBy (name : Name) (messages : List (Message Name)) : List (Clock × String) :=
  (messages.filter fun message => message.recipient = name).map fun message =>
    (message.clock, message.line)

/-- What one session answers in a run. -/
def answers (name : Name) : List (Message Name) → SharedBoard Name → List Answer
  | [], _ => []
  | message :: messages, state =>
      let later := answers name messages (state.hear message)
      if message.recipient = name then (state.response message).answer :: later else later

/-- Lines that are the same, heard under clocks that keep a likeness of charts. -/
def LikeLines (Like : Chart → Chart → Prop) (first second : Clock × String) : Prop :=
  first.2 = second.2 ∧ Chart.Likeness Like first.1 second.1

/-- A session among others and a session alone answer alike if they start alike, in whatever slots,
and hear the same lines. -/
theorem Consistent.answers_kin {Like : Chart → Chart → Prop} {name : Name}
    {messages : List (Message Name)} {state : SharedBoard Name} (h : state.Consistent)
    {lines : List (Clock × String)}
    (hlines : List.Forall₂ (LikeLines Like) (heardBy name messages) lines)
    {alone : Session} {board : Board} (hkin : Session.Kin Like (state.sessions name) alone)
    (hcount : state.board.slotCount = board.slotCount) :
    List.Forall₂ (LikeAnswers Like) (state.answers name messages) (alone.converse lines board) := by
  induction messages generalizing state lines alone board with
  | nil =>
      cases hlines
      exact .nil
  | cons message messages ih =>
      by_cases hname : message.recipient = name
      · subst hname
        rw [heardBy, List.filter_cons_of_pos (by simp), List.map_cons] at hlines
        cases hlines with
        | cons hfirst hrest =>
            rename_i first rest
            obtain ⟨clock, line⟩ := first
            obtain ⟨hline, hlike⟩ := hfirst
            dsimp only at hline hlike
            subst hline
            obtain ⟨hreply, hsession, hboard⟩ := hkin.respond hlike hcount message.line
            rw [answers, if_pos rfl, Session.converse]
            refine .cons (.of_kin hreply hsession) (ih (h.hear message) hrest ?_ ?_)
            · rw [hear_recipient]
              exact hsession
            · rw [hear_board]
              exact hboard
      · rw [heardBy, List.filter_cons_of_neg (by simpa using hname)] at hlines
        rw [answers, if_neg hname]
        refine ih (h.hear message) hlines ?_ ?_
        · rw [hear_other (Ne.symm hname)]
          exact hkin
        · rw [(h.places message).2]
          exact hcount

theorem Consistent.answers_like {Like : Chart → Chart → Prop} {name : Name}
    {messages : List (Message Name)} {state : SharedBoard Name} (h : state.Consistent)
    {lines : List (Clock × String)}
    (hlines : List.Forall₂ (LikeLines Like) (heardBy name messages) lines)
    {alone : Session} {board : Board} (halike : Session.Alike Like (state.sessions name) alone)
    (hcount : state.board.slotCount = board.slotCount) :
    List.Forall₂ (LikeAnswers Like) (state.answers name messages) (alone.converse lines board) :=
  h.answers_kin hlines halike.kin hcount

theorem forall₂_likeLines_zipIdx (clocks : Nat → Clock) (lines : List (Clock × String))
    (number : Nat) :
    List.Forall₂ (LikeLines Chart.SameOutline) lines
      ((lines.zipIdx number).map fun (heard, number) => (clocks number, heard.2)) := by
  induction lines generalizing number with
  | nil => exact .nil
  | cons heard lines ih =>
      rw [List.zipIdx_cons, List.map_cons]
      exact .cons ⟨rfl, Chart.likeness_sameOutline _ _⟩ (ih (number + 1))

/-- A session answers among any others what it answers alone on a board of the same size,
and whatever the clock reads then, its replies and stages are the same. -/
theorem answers_eq_converse (slotOf : Name → Nat) (slotCount : Nat)
    (settings settings' : BoardSettings) (window window' : Option Window)
    (messages : List (Message Name)) (name : Name) (clocks : Nat → Clock) :
    let answers := (fresh slotOf (Board.create slotCount settings window)).answers name messages
    let alone lines := ({ slot := slotOf name } : Session).converse lines
      (Board.create slotCount settings' window')
    answers = alone (heardBy name messages) ∧
      answers.map Answer.protocol =
        (alone ((heardBy name messages).zipIdx.map fun (heard, number) =>
          (clocks number, heard.2))).map Answer.protocol := by
  intro answers alone
  have hstart := consistent_fresh slotOf (Board.create slotCount settings window)
  have hcount : (Board.create slotCount settings window).slotCount =
      (Board.create slotCount settings' window').slotCount :=
    List.length_replicate.trans List.length_replicate.symm
  constructor
  · have hsame : List.Forall₂ (LikeLines Eq) (heardBy name messages) (heardBy name messages) :=
      List.forall₂_same.mpr fun heard _ => ⟨rfl, Chart.likeness_eq heard.1⟩
    have hanswers := hstart.answers_like hsame ⟨rfl, rfl, .none⟩ hcount
    have heq := hanswers.imp fun _ _ => LikeAnswers.eq
    rw [List.forall₂_eq_eq_eq] at heq
    exact heq
  · have hanswers := hstart.answers_like
      (forall₂_likeLines_zipIdx clocks (heardBy name messages) 0) ⟨rfl, rfl, .none⟩ hcount
    have heq : List.Forall₂ Eq (answers.map Answer.protocol)
        ((alone ((heardBy name messages).zipIdx.map fun (heard, number) =>
          (clocks number, heard.2))).map Answer.protocol) :=
      List.forall₂_map_left_iff.mpr <| List.forall₂_map_right_iff.mpr <|
        hanswers.imp fun _ _ => LikeAnswers.protocol
    rw [List.forall₂_eq_eq_eq] at heq
    exact heq

end SharedBoard

end ChartBoard
