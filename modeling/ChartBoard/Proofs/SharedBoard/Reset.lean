import ChartBoard.Proofs.Chart.Calls
import ChartBoard.Proofs.SharedBoard.Isolation

/-!
What `init` forgets: everything but the kind of the chart and its attributes. Charts that agree in
these cannot be told apart from `init` on, whatever they were called with before. Sessions with such
charts answer alike from their next `init` on, in whatever slots of boards of the same size they are
and whatever the other sessions do, and what they publish is the same (`init_forgets`).
-/

namespace ChartBoard

namespace Session

theorem Kin.of_eq (session : Session) : Kin Eq session session where
  stage := rfl
  chart := by
    cases session.chart with
    | none => exact .none
    | some chart => exact .some rfl

theorem Kin.chart_eq {first second : Session} (h : Kin Eq first second) :
    first.chart = second.chart := by
  rcases h.chart_cases with ⟨hfirst, hsecond⟩ | ⟨chart, chart', hfirst, hsecond, rfl⟩
  · rw [hfirst, hsecond]
  · rw [hfirst, hsecond]

/-- Sessions with like charts publish upon the same lines. -/
theorem Kin.publishes {Like : Chart → Chart → Prop} {clock clock' : Clock}
    (hlike : Chart.Likeness Like clock clock') {first second : Session} {board board' : Board}
    (h : Kin Like first second) (hslots : board.slotCount = board'.slotCount) (line : String) :
    first.publishes line board = second.publishes line board' := by
  unfold Session.publishes
  cases Command.read (withoutLineEnd line) with
  | error refusal => rfl
  | ok command =>
      cases command with
      | comment | set | init | enableStatus => rfl
      | addPlot => exact congrArg Except.isOk (h.addPlot hlike hslots).result
      | clear | replot | data =>
          dsimp only [Command.publishes]
          rw [h.stage]

/-- With `init` a session begins again with the kind and the attributes of its chart. -/
theorem respond_init {line : String} (hread : Command.read (withoutLineEnd line) = .ok .init)
    {session : Session} {chart : Chart} (hchart : session.chart = some chart) (clock : Clock)
    (board : Board) :
    (session.respond clock line board).answer = ⟨.ok, .initialized, some chart.init⟩ := by
  unfold respond process
  dsimp only
  rw [hread]
  unfold perform init
  rw [hchart]
  rfl

/-- The pictures of the charts that a session publishes when it has the board for itself. -/
def publishedAlone : List (Clock × String) → Session → Board → List (Option Picture)
  | [], _, _ => []
  | (clock, line) :: lines, session, board =>
      let response := session.respond clock line board
      let later := publishedAlone lines response.session response.board
      if session.publishes line board then
        response.session.chart.map Chart.picture :: later
      else
        later

end Session

namespace SharedBoard

variable {Name Name' : Type} [DecidableEq Name] [DecidableEq Name']

/-- What the slot of a session shows after each line with which the session publishes. -/
def showings (name : Name) : List (Message Name) → SharedBoard Name → List (Option Picture)
  | [], _ => []
  | message :: messages, state =>
      let later := showings name messages (state.hear message)
      if message.recipient = name ∧ state.publishes message = true then
        (state.hear message).board.picture? (state.sessions name).slot :: later
      else
        later

/-- A line that publishes leaves the chart of its session in the slot, if there is such a slot. -/
theorem Consistent.picture?_published {state : SharedBoard Name} (h : state.Consistent)
    {message : Message Name} (hpublishes : state.publishes message = true) :
    (state.hear message).board.picture? (state.sessions message.recipient).slot =
      if (state.sessions message.recipient).slot < state.board.slotCount then
        (state.response message).session.chart.map Chart.picture
      else
        none := by
  rcases h.response_cases message with ⟨-, hpublished⟩ | ⟨hnot, -⟩
  · obtain ⟨chart, hchart, hshows⟩ := hpublished.shows
    rw [hear_board]
    split
    · rename_i hin
      rw [hshows hin, hchart, Option.map_some]
    · rename_i hout
      rw [Board.picture?_outside]
      rw [hpublished.slotCount]
      exact hout
  · rw [hnot] at hpublishes
    cases hpublishes

/-- Among others a session shows what it publishes alone. -/
theorem Consistent.showings_eq {name : Name} {messages : List (Message Name)}
    {state : SharedBoard Name} (h : state.Consistent) {alone : Session} {board : Board}
    (hkin : Session.Kin Eq (state.sessions name) alone)
    (hcount : state.board.slotCount = board.slotCount) :
    state.showings name messages =
      (alone.publishedAlone (heardBy name messages) board).map fun picture =>
        if (state.sessions name).slot < state.board.slotCount then picture else none := by
  induction messages generalizing state alone board with
  | nil => rfl
  | cons message messages ih =>
      obtain ⟨hslots, hsize⟩ := h.places message
      by_cases hname : message.recipient = name
      · subst hname
        obtain ⟨-, hnext, hboard⟩ :=
          hkin.respond (Chart.likeness_eq message.clock) hcount message.line
        have hpublishes : state.publishes message = alone.publishes message.line board :=
          hkin.publishes (Chart.likeness_eq message.clock) hcount message.line
        rw [← response] at hnext hboard
        rw [← hear_recipient] at hnext
        rw [← hear_board] at hboard
        have hlater := ih (h.hear message) hnext hboard
        rw [hslots, hsize] at hlater
        rw [heardBy, List.filter_cons_of_pos (by simp), List.map_cons, showings,
          Session.publishedAlone, hlater, ← hpublishes]
        by_cases hthis : state.publishes message = true
        · rw [if_pos ⟨rfl, hthis⟩, if_pos hthis, h.picture?_published hthis, ← hear_recipient,
            hnext.chart_eq, List.map_cons, heardBy]
        · rw [if_neg fun hboth => hthis hboth.2, if_neg hthis, heardBy]
      · rw [← hear_other (Ne.symm hname)] at hkin
        have hlater := ih (h.hear message) hkin (hsize.trans hcount)
        rw [hslots, hsize] at hlater
        rw [heardBy, List.filter_cons_of_neg (by simpa using hname), showings,
          if_neg fun hboth => hname hboth.1, hlater, heardBy]

section Agree

variable {Like : Chart → Chart → Prop} {name : Name} {name' : Name'}
  {messages : List (Message Name)} {messages' : List (Message Name')} {state : SharedBoard Name}
  {state' : SharedBoard Name'} (h : state.Consistent) (h' : state'.Consistent)
  (hcount : state.board.slotCount = state'.board.slotCount)

include h h' hcount

/-- Sessions among different others answer alike if they start alike and hear the same lines. -/
theorem answers_agree (hkin : Session.Kin Like (state.sessions name) (state'.sessions name'))
    (hlines : List.Forall₂ (LikeLines Like) (heardBy name messages) (heardBy name' messages')) :
    List.Forall₂ (LikeAnswers Like) (state.answers name messages)
      (state'.answers name' messages') := by
  have hsame : List.Forall₂ (LikeLines Eq) (heardBy name' messages') (heardBy name' messages') :=
    List.forall₂_same.mpr fun heard _ => ⟨rfl, Chart.likeness_eq heard.1⟩
  have halone := (h'.answers_kin hsame (.of_eq _) rfl).imp fun _ _ => LikeAnswers.eq
  rw [List.forall₂_eq_eq_eq] at halone
  rw [halone]
  exact h.answers_kin hlines hkin hcount

theorem showings_agree (hkin : Session.Kin Eq (state.sessions name) (state'.sessions name'))
    (hlines : heardBy name messages = heardBy name' messages')
    (hinside : (state.sessions name).slot < state.board.slotCount ↔
      (state'.sessions name').slot < state'.board.slotCount) :
    state.showings name messages = state'.showings name' messages' := by
  rw [h.showings_eq hkin hcount, h'.showings_eq (.of_eq _) rfl, hlines]
  simp only [hinside]

end Agree

section Init

variable {name : Name} {clock : Clock} {line : String}
  (hread : Command.read (Session.withoutLineEnd line) = .ok .init) {state : SharedBoard Name}

include hread

omit [DecidableEq Name] in
/-- A session that hears `init` begins again with the kind and the attributes of its chart. -/
theorem response_init {chart : Chart} (hchart : (state.sessions name).chart = some chart) :
    (state.response ⟨name, clock, line⟩).answer = ⟨.ok, .initialized, some chart.init⟩ :=
  Session.respond_init hread hchart clock state.board

omit [DecidableEq Name] in
/-- And it publishes nothing. -/
theorem publishes_init : state.publishes ⟨name, clock, line⟩ = false := by
  rw [publishes, Session.publishes, hread]
  rfl

theorem answers_init {chart : Chart} (hchart : (state.sessions name).chart = some chart)
    (later : List (Message Name)) :
    state.answers name (⟨name, clock, line⟩ :: later) =
      ⟨.ok, .initialized, some chart.init⟩ ::
        (state.hear ⟨name, clock, line⟩).answers name later := by
  rw [answers, if_pos rfl, response_init hread hchart]

theorem showings_init (later : List (Message Name)) :
    state.showings name (⟨name, clock, line⟩ :: later) =
      (state.hear ⟨name, clock, line⟩).showings name later := by
  rw [showings, publishes_init hread]
  exact if_neg (by simp)

theorem session_init (clock : Clock) {chart : Chart}
    (hchart : (state.sessions name).chart = some chart) :
    ((state.hear ⟨name, clock, line⟩).sessions name).stage = .initialized ∧
      ((state.hear ⟨name, clock, line⟩).sessions name).chart = some chart.init := by
  have hanswer : (state.response ⟨name, clock, line⟩).answer = _ := response_init hread hchart
  rw [hear_recipient ⟨name, clock, line⟩]
  generalize state.response ⟨name, clock, line⟩ = response at hanswer ⊢
  exact ⟨congrArg Answer.stage hanswer, congrArg Answer.chart hanswer⟩

end Init

section Restart

variable {name : Name} {name' : Name'} {clock clock' : Clock} {line line' : String}
  {state : SharedBoard Name} {state' : SharedBoard Name'} {chart chart' : Chart}
  {later : List (Message Name)} {later' : List (Message Name')}
  (hread : Command.read (Session.withoutLineEnd line) = .ok .init)
  (hread' : Command.read (Session.withoutLineEnd line') = .ok .init)
  (hchart : (state.sessions name).chart = some chart)
  (hchart' : (state'.sessions name').chart = some chart') (hinit : chart.init = chart'.init)

include hread hread' hchart hchart' hinit

/-- Two sessions that begin again with one kind and one set of attributes are equally far. -/
theorem kin_init (clock clock' : Clock) {Like : Chart → Chart → Prop}
    (hlike : Like chart.init chart.init) :
    Session.Kin Like ((state.hear ⟨name, clock, line⟩).sessions name)
      ((state'.hear ⟨name', clock', line'⟩).sessions name') := by
  obtain ⟨hstage, hbegun⟩ := session_init hread clock hchart
  obtain ⟨hstage', hbegun'⟩ := session_init hread' clock' hchart'
  refine ⟨hstage.trans hstage'.symm, ?_⟩
  rw [hbegun, hbegun', ← hinit]
  exact .some hlike

variable (h : state.Consistent) (h' : state'.Consistent)
  (hcount : state.board.slotCount = state'.board.slotCount)

include h h' hcount

/-- They answer alike from there on, under clocks that keep a likeness of charts. -/
theorem restart_answers {Like : Chart → Chart → Prop} (hlike : Like chart.init chart.init)
    (hlines : List.Forall₂ (LikeLines Like) (heardBy name later) (heardBy name' later')) :
    List.Forall₂ (LikeAnswers Like) (state.answers name (⟨name, clock, line⟩ :: later))
      (state'.answers name' (⟨name', clock', line'⟩ :: later')) := by
  have hkin := kin_init hread hread' hchart hchart' hinit clock clock' hlike
  rw [answers_init hread hchart, answers_init hread' hchart', ← hinit]
  refine .cons ⟨rfl, rfl, .some hlike⟩ (answers_agree (h.hear _) (h'.hear _) ?_ hkin hlines)
  rw [(h.places _).2, (h'.places _).2, hcount]

theorem restart_showings (hlines : heardBy name later = heardBy name' later')
    (hinside : (state.sessions name).slot < state.board.slotCount ↔
      (state'.sessions name').slot < state'.board.slotCount) :
    state.showings name (⟨name, clock, line⟩ :: later) =
      state'.showings name' (⟨name', clock', line'⟩ :: later') := by
  have hkin := kin_init hread hread' hchart hchart' hinit clock clock' (@rfl _ chart.init)
  rw [showings_init hread, showings_init hread']
  refine showings_agree (h.hear _) (h'.hear _) ?_ hkin hlines ?_
  · rw [(h.places _).2, (h'.places _).2, hcount]
  · rw [(h.places _).1, (h.places _).2, (h'.places _).1, (h'.places _).2]
    exact hinside

end Restart

theorem likeLines_of_lines {heard heard' : List (Clock × String)}
    (hlines : heard.map Prod.snd = heard'.map Prod.snd) :
    List.Forall₂ (LikeLines Chart.SameOutline) heard heard' := by
  rw [← List.forall₂_eq_eq_eq, List.forall₂_map_left_iff, List.forall₂_map_right_iff] at hlines
  exact hlines.imp fun _ _ hline => ⟨hline, Chart.likeness_sameOutline _ _⟩

theorem map_protocol_of_like {Like : Chart → Chart → Prop} {answers answers' : List Answer}
    (h : List.Forall₂ (LikeAnswers Like) answers answers') :
    answers.map Answer.protocol = answers'.map Answer.protocol := by
  rw [← List.forall₂_eq_eq_eq, List.forall₂_map_left_iff, List.forall₂_map_right_iff]
  exact h.imp fun _ _ => LikeAnswers.protocol

theorem eq_of_likeAnswers {answers answers' : List Answer}
    (h : List.Forall₂ (LikeAnswers Eq) answers answers') : answers = answers' := by
  rw [← List.forall₂_eq_eq_eq]
  exact h.imp fun _ _ => LikeAnswers.eq

/-- Whatever two charts of one kind were called with, if their attributes are equal, they cannot be
told apart from the next `init` on. And whatever two sessions have done before, on whatever boards
of equal size and among whatever others, if they have charts of one kind with equal attributes and
both hear `init`, then they reply alike to equal lines from there on and are equally far after each.
If also their clocks read alike, their charts are equal after each line, and the slots that they
publish to show the same. -/
theorem init_forgets (slotOf : Name → Nat) (slotOf' : Name' → Nat) (slotCount : Nat)
    (settings settings' : BoardSettings) (window window' : Option Window)
    (before later : List (Message Name)) (before' later' : List (Message Name'))
    (name : Name) (name' : Name') (clock clock' : Clock) (line line' : String) :
    (∀ kind calls calls',
      let chart := (Chart.create kind).afterCalls calls
      let chart' := (Chart.create kind).afterCalls calls'
      chart.attributes = chart'.attributes →
        ∀ continuation, chart.observations (.init :: continuation) =
          chart'.observations (.init :: continuation)) ∧
    let state := (fresh slotOf (Board.create slotCount settings window)).hearAll before
    let state' := (fresh slotOf' (Board.create slotCount settings' window')).hearAll before'
    let run := ⟨name, clock, line⟩ :: later
    let run' := ⟨name', clock', line'⟩ :: later'
    ∀ chart chart', (state.sessions name).chart = some chart →
      (state'.sessions name').chart = some chart' → chart.kind = chart'.kind →
      chart.attributes = chart'.attributes →
      Command.read (Session.withoutLineEnd line) = .ok .init →
      Command.read (Session.withoutLineEnd line') = .ok .init →
      (heardBy name later).map Prod.snd = (heardBy name' later').map Prod.snd →
        (state.answers name run).map Answer.protocol =
          (state'.answers name' run').map Answer.protocol ∧
        (heardBy name later = heardBy name' later' →
          state.answers name run = state'.answers name' run' ∧
          ((slotOf name < slotCount ↔ slotOf' name' < slotCount) →
            state.showings name run = state'.showings name' run')) := by
  constructor
  · intro kind calls calls' chart chart' hattributes continuation
    refine Chart.observations_init ?_ hattributes continuation
    rw [Chart.kind_afterCalls, Chart.kind_afterCalls]
  intro state state' run run' chart chart' hchart hchart' hkind hattributes hread hread' hlines
  have hstate : state.Consistent := consistent_reached _ _ before
  have hstate' : state'.Consistent := consistent_reached _ _ before'
  obtain ⟨hslot, hsize⟩ := places_reached slotOf slotCount settings window before
  obtain ⟨hslot', hsize'⟩ := places_reached slotOf' slotCount settings' window' before'
  have hcount : state.board.slotCount = state'.board.slotCount := hsize.trans hsize'.symm
  have hinit := Chart.init_congr hkind hattributes
  constructor
  · exact map_protocol_of_like
      (restart_answers hread hread' hchart hchart' hinit hstate hstate' hcount ⟨rfl, rfl⟩
        (likeLines_of_lines hlines))
  intro hheard
  constructor
  · refine eq_of_likeAnswers
      (restart_answers hread hread' hchart hchart' hinit hstate hstate' hcount rfl ?_)
    rw [hheard]
    exact List.forall₂_same.mpr fun heard _ => ⟨rfl, Chart.likeness_eq heard.1⟩
  · intro hinside
    refine restart_showings hread hread' hchart hchart' hinit hstate hstate' hcount hheard ?_
    rw [hslot, hsize, hslot', hsize']
    exact hinside

/-- A chart with a bar and one without, and two sessions with such charts in two slots. -/
theorem init_forgets_two_histories :
    let heard (name : Bool) : List String → List (Message Bool) := List.map fun line =>
      ⟨name, fun _ => 0, line⟩
    let before := heard true ["set graph=bar", "set plot_title=load", "init", "add_plot", "5"]
    let before' := heard false ["set graph=bar", "set plot_title=load"]
    let run name := heard name ["init", "add_plot", "7"]
    let slotOf (name : Bool) := if name then 0 else 1
    let state := (fresh slotOf (Board.create 2 {} none)).hearAll before
    let state' := (fresh slotOf (Board.create 2 {} none)).hearAll before'
    ((Chart.create .bar).afterCalls [.addPlot, .addValue 0 0 .zero]).observations
        [.init, .addPlot, .takeChanges] =
      (Chart.create .bar).observations [.init, .addPlot, .takeChanges] ∧
    (state.sessions true).chart ≠ (state'.sessions false).chart ∧
    state.answers true (run true) = state'.answers false (run false) ∧
    state.showings true (run true) = state'.showings false (run false) ∧
    (state.showings true (run true)).map Option.isSome = [true, true] := by
  intro heard before before' run slotOf state state'
  obtain ⟨chart, hchart⟩ : ∃ chart, (state.sessions true).chart = some chart :=
    Option.isSome_iff_exists.mp (by decide +kernel)
  obtain ⟨chart', hchart'⟩ : ∃ chart, (state'.sessions false).chart = some chart :=
    Option.isSome_iff_exists.mp (by decide +kernel)
  have hkinds : (state.sessions true).chart.map Chart.kind =
      (state'.sessions false).chart.map Chart.kind := by decide +kernel
  have hattributes : (state.sessions true).chart.map Chart.attributes =
      (state'.sessions false).chart.map Chart.attributes := by decide +kernel
  rw [hchart, hchart'] at hkinds hattributes
  obtain ⟨hcalls, hsessions⟩ := init_forgets slotOf slotOf 2 {} {} none none before
    (heard true ["add_plot", "7"]) before' (heard false ["add_plot", "7"]) true false
    (fun _ => 0) (fun _ => 0) "init" "init"
  obtain ⟨-, hclocks⟩ := hsessions chart chart' hchart hchart' (Option.some.inj hkinds)
    (Option.some.inj hattributes) (by decide +kernel) (by decide +kernel) rfl
  obtain ⟨hanswers, hshowings⟩ := hclocks rfl
  refine ⟨hcalls .bar [.addPlot, .addValue 0 0 .zero] [] rfl [.addPlot, .takeChanges],
    by decide +kernel, hanswers, hshowings (by decide), by decide +kernel⟩

end SharedBoard

end ChartBoard
