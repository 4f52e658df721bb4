import ChartBoard.Proofs.Board.Slots
import ChartBoard.Proofs.Chart.Following

/-!
Who may change a slot. A board is called by any number of holders, who show pictures, and change
them under generations that they have been given or have made up. Of all these calls the board
keeps little: the next generation, and of each slot its last one. That is enough. A slot belongs to
the generation that was given last for it, no generation is given twice, and any other is turned
away (`generations_own_slots`). As long as the changes of the owners fit, a slot shows the picture
that was shown there last with all changes since.
-/

namespace ChartBoard

/-- The calls of a board. -/
inductive BoardCall where
  | attach (slot : Nat) (picture : Picture)
  | apply (slot generation : Nat) (changes : List Change)
  | setGrid (rows columns : Nat)
  | setFrameTitle (text : String)
  | setStatusEnabled (enabled : Bool)
  | echo (lines : List String)
deriving DecidableEq

inductive BoardAnswer where
  | given (generation : Option Nat)
  | followed (fits : Bool)
  | laidOut (accepted : Bool)
  | done
deriving DecidableEq

/-- A call with its answer. -/
structure BoardExchange where
  call : BoardCall
  answer : BoardAnswer
deriving DecidableEq

namespace BoardExchange

/-- The slot and the generation of a picture that is shown on the board. -/
def given? : BoardExchange → Option (Nat × Nat)
  | ⟨.attach slot _, .given (some generation)⟩ => some (slot, generation)
  | _ => none

/-- Changes under the generation of the owner that do not fit. -/
def misfits (slot : Nat) (owner : Option Nat) : BoardExchange → Bool
  | ⟨.apply place generation _, .followed false⟩ => place = slot ∧ owner = some generation
  | _ => false

/-- What a slot shows is a picture and the changes that were made to it since. -/
def record (slot : Nat) (shown : Option (Picture × List Change)) : BoardExchange →
    Option (Picture × List Change)
  | ⟨.attach place picture, .given (some _)⟩ => if place = slot then some (picture, []) else shown
  | ⟨.apply place _ changes, .followed true⟩ =>
      if place = slot then shown.map fun (picture, made) => (picture, made ++ changes) else shown
  | _ => shown

end BoardExchange

/-- The generations that were given, the last at the end. -/
def generationsGiven (history : List BoardExchange) : List Nat :=
  (history.filterMap BoardExchange.given?).map Prod.snd

/-- The generation that was given last for a slot. -/
def owner? (slot : Nat) (history : List BoardExchange) : Option Nat :=
  (((history.filterMap BoardExchange.given?).filter fun given => given.1 = slot).map
    Prod.snd).getLast?

/-- The picture that was shown in a slot last, and the changes that were made to it since. -/
def recorded? (slot : Nat) (history : List BoardExchange) : Option (Picture × List Change) :=
  history.foldl (BoardExchange.record slot) none

/-- Changes under the generation that owns the slot then have always fitted. -/
def OwnersFit (slot : Nat) (history : List BoardExchange) : Prop :=
  ∀ before exchange later, history = before ++ exchange :: later →
    exchange.misfits slot (owner? slot before) = false

instance (slot : Nat) (history : List BoardExchange) : Decidable (OwnersFit slot history) :=
  decidable_of_iff (∀ n, ∀ h : n < history.length,
      (history[n]).misfits slot (owner? slot (history.take n)) = false) <| by
    constructor
    · rintro h before exchange later rfl
      simpa using h before.length (by simp)
    · intro h n hn
      refine h _ _ (history.drop (n + 1)) ?_
      rw [← List.drop_eq_getElem_cons hn, List.take_append_drop]

section Append

variable (history : List BoardExchange) (exchange : BoardExchange)

theorem generationsGiven_concat : generationsGiven (history ++ [exchange]) =
    generationsGiven history ++ (exchange.given?.map Prod.snd).toList := by
  unfold generationsGiven
  rw [List.filterMap_append, List.map_append]
  cases hgiven : exchange.given? with
  | none => simp [hgiven]
  | some given => simp [hgiven]

theorem owner?_concat (slot : Nat) : owner? slot (history ++ [exchange]) =
    ((exchange.given?.filter fun given => given.1 = slot).map Prod.snd).or
      (owner? slot history) := by
  unfold owner?
  rw [List.filterMap_append, List.filter_append, List.map_append, List.getLast?_append]
  congr 1
  cases hgiven : exchange.given? with
  | none => simp [hgiven]
  | some given => by_cases hslot : given.1 = slot <;> simp [hgiven, hslot, Option.filter]

theorem recorded?_concat (slot : Nat) : recorded? slot (history ++ [exchange]) =
    exchange.record slot (recorded? slot history) := by
  unfold recorded?
  rw [List.foldl_append]
  rfl

end Append

theorem OwnersFit.of_append {slot : Nat} {history more : List BoardExchange}
    (h : OwnersFit slot (history ++ more)) : OwnersFit slot history := by
  intro before exchange later heq
  refine h before exchange (later ++ more) ?_
  rw [heq, List.append_assoc, List.cons_append]

namespace Board

def call : BoardCall → Board → Answered BoardAnswer
  | .attach slot picture, board =>
      let answered := board.attach slot picture
      ⟨.given answered.value, answered.board, answered.events⟩
  | .apply slot generation changes, board =>
      let answered := board.apply slot generation changes
      ⟨.followed answered.value, answered.board, answered.events⟩
  | .setGrid rows columns, board =>
      let answered := board.setGrid rows columns
      ⟨.laidOut answered.value.isOk, answered.board, answered.events⟩
  | .setFrameTitle text, board =>
      let answered := board.setFrameTitle text
      ⟨.done, answered.board, answered.events⟩
  | .setStatusEnabled enabled, board => ⟨.done, board.setStatusEnabled enabled, []⟩
  | .echo lines, board =>
      let answered := board.echo lines
      ⟨.done, answered.board, answered.events⟩

def afterCalls (calls : List BoardCall) (board : Board) : Board :=
  calls.foldl (fun board call => (board.call call).board) board

/-- The calls of a board with its answers. -/
def history : List BoardCall → Board → List BoardExchange
  | [], _ => []
  | call :: calls, board =>
      let answered := board.call call
      ⟨call, answered.value⟩ :: history calls answered.board

/-- All that one exchange can do to the slots of a board. -/
inductive Does (board : Board) : BoardExchange → Board → Prop where
  | shows {slot : Nat} {picture : Picture} {board' : Board}
      (next : board'.nextGeneration = board.nextGeneration + 1)
      (shown : board'.shown? slot = some ⟨board.nextGeneration, picture⟩)
      (elsewhere : ∀ other, other ≠ slot → board'.shown? other = board.shown? other) :
      Does board ⟨.attach slot picture, .given (some board.nextGeneration)⟩ board'
  | changes {slot : Nat} {shown : Shown} {changes : List Change} {picture : Picture} {fits : Bool}
      {board' : Board} (next : board'.nextGeneration = board.nextGeneration)
      (owned : board.shown? slot = some shown)
      (follows : shown.picture.follow changes = (picture, fits))
      (shown' : board'.shown? slot = some { shown with picture := picture })
      (elsewhere : ∀ other, other ≠ slot → board'.shown? other = board.shown? other) :
      Does board ⟨.apply slot shown.generation changes, .followed fits⟩ board'
  | turnsAway {slot generation : Nat} {changes : List Change}
      (foreign : ∀ shown, board.shown? slot = some shown → shown.generation ≠ generation) :
      Does board ⟨.apply slot generation changes, .followed false⟩ board
  | nothing {exchange : BoardExchange} {board' : Board} (slots : board.SameSlots board')
      (given : exchange.given? = none)
      (record : ∀ slot shown, exchange.record slot shown = shown) :
      Does board exchange board'

theorem does_call (call : BoardCall) (board : Board) :
    board.Does ⟨call, (board.call call).value⟩ (board.call call).board := by
  cases call with
  | attach slot picture =>
      by_cases hin : slot < board.slotCount
      · have hvalue : (board.attach slot picture).value = some board.nextGeneration := by
          rw [attach_of_lt picture hin]
        dsimp only [call]
        rw [hvalue]
        exact .shows (attach_value _ _ _ hvalue).2 (shown?_attach picture hin)
          fun other hother => shown?_attach_of_ne slot picture board hother
      · dsimp only [call]
        rw [attach_outside picture hin]
        exact .nothing (.refl board) rfl fun _ _ => rfl
  | apply slot generation changes =>
      by_cases howned : ∃ shown, board.shown? slot = some shown ∧ shown.generation = generation
      · obtain ⟨shown, hshown, rfl⟩ := howned
        have hvalue : (board.apply slot shown.generation changes).value =
            (shown.picture.follow changes).2 := by
          rw [apply_of_owned hshown rfl]
        dsimp only [call]
        rw [hvalue]
        exact .changes (nextGeneration_apply _ _ _ _) hshown rfl (shown?_apply_of_owned hshown rfl)
          fun other hother => shown?_apply_of_ne _ _ _ _ hother
      · have hforeign : ∀ shown, board.shown? slot = some shown → shown.generation ≠ generation :=
          fun shown hshown heq => howned ⟨shown, hshown, heq⟩
        dsimp only [call]
        rw [apply_of_not_owned changes hforeign]
        exact .turnsAway hforeign
  | setGrid rows columns =>
      exact .nothing (sameSlots_setGrid rows columns board) rfl fun _ _ => rfl
  | setFrameTitle text =>
      exact .nothing (sameSlots_setFrameTitle text board) rfl fun _ _ => rfl
  | setStatusEnabled enabled =>
      exact .nothing (sameSlots_setStatusEnabled enabled board) rfl fun _ _ => rfl
  | echo lines =>
      exact .nothing (sameSlots_echo lines board) rfl fun _ _ => rfl

/-- A board that knows of its calls who may change what. -/
structure Accounts (board : Board) (history : List BoardExchange) : Prop where
  increasing : (generationsGiven history).Pairwise (· < ·)
  issued : ∀ generation ∈ generationsGiven history, generation < board.nextGeneration
  owner : ∀ slot, (board.shown? slot).map Shown.generation = owner? slot history

theorem accounts_create (slotCount : Nat) (settings : BoardSettings) (window : Option Window) :
    (create slotCount settings window).Accounts [] where
  increasing := .nil
  issued := by
    intro generation hmem
    cases hmem
  owner slot := by
    rw [shown?_create]
    rfl

/-- An exchange after which nothing is given leaves all owners where they are. -/
theorem Accounts.concat {board board' : Board} {history : List BoardExchange}
    {exchange : BoardExchange} (h : board.Accounts history) (hgiven : exchange.given? = none)
    (hnext : board'.nextGeneration = board.nextGeneration)
    (howner : ∀ slot, (board'.shown? slot).map Shown.generation =
      (board.shown? slot).map Shown.generation) : board'.Accounts (history ++ [exchange]) where
  increasing := by
    rw [generationsGiven_concat, hgiven]
    simpa using h.increasing
  issued := by
    rw [generationsGiven_concat, hgiven, hnext]
    simpa using h.issued
  owner slot := by
    rw [howner, h.owner, owner?_concat, hgiven]
    rfl

theorem Accounts.step {board board' : Board} {history : List BoardExchange}
    {exchange : BoardExchange} (h : board.Accounts history) (hdoes : board.Does exchange board') :
    board'.Accounts (history ++ [exchange]) := by
  cases hdoes with
  | @shows slot picture _ hnext hshown helsewhere =>
      have hgiven :
          BoardExchange.given? ⟨.attach slot picture, .given (some board.nextGeneration)⟩ =
            some (slot, board.nextGeneration) := rfl
      refine ⟨?_, ?_, fun other => ?_⟩
      · rw [generationsGiven_concat, hgiven, List.pairwise_append]
        refine ⟨h.increasing, List.pairwise_singleton _ _, fun old hold new hnew => ?_⟩
        obtain rfl := List.mem_singleton.mp hnew
        exact h.issued old hold
      · intro generation hmem
        rw [generationsGiven_concat, hgiven] at hmem
        rw [hnext]
        rcases List.mem_append.mp hmem with hold | hnew
        · exact Nat.lt_succ_of_lt (h.issued generation hold)
        · obtain rfl := List.mem_singleton.mp hnew
          exact Nat.lt_succ_self _
      · rw [owner?_concat, hgiven]
        by_cases hother : other = slot
        · rw [hother, hshown]
          simp [Option.filter]
        · rw [helsewhere other hother, h.owner]
          simp [Option.filter, Ne.symm hother]
  | @changes slot shown changes picture fits _ hnext howned _ hshown' helsewhere =>
      refine h.concat rfl hnext fun other => ?_
      by_cases hother : other = slot
      · rw [hother, hshown', howned]
        rfl
      · rw [helsewhere other hother]
  | turnsAway => exact h.concat rfl rfl fun _ => rfl
  | nothing hslots hgiven =>
      refine h.concat hgiven hslots.2 fun slot => ?_
      rw [hslots.shown?]

/-- The slot shows what is recorded of it, and all changes that were made to it have fitted. -/
def Follows (slot : Nat) (history : List BoardExchange) (board : Board) : Prop :=
  (recorded? slot history).map (fun recorded => recorded.1.follow recorded.2) =
    (board.picture? slot).map fun picture => (picture, true)

theorem Follows.step {slot : Nat} {board board' : Board} {history : List BoardExchange}
    {exchange : BoardExchange} (h : board.Follows slot history) (haccounts : board.Accounts history)
    (hfit : OwnersFit slot (history ++ [exchange])) (hdoes : board.Does exchange board') :
    board'.Follows slot (history ++ [exchange]) := by
  unfold Follows at h ⊢
  rw [recorded?_concat]
  cases hdoes with
  | @shows place picture _ hnext hshown helsewhere =>
      unfold BoardExchange.record
      dsimp only
      split
      · rename_i hslot
        rw [← hslot, picture?, hshown]
        rfl
      · rename_i hslot
        rw [h, picture?, picture?, helsewhere slot (Ne.symm hslot)]
  | @changes place shown changes picture fits _ hnext howned hfollows hshown' helsewhere =>
      by_cases hslot : place = slot
      · subst hslot
        have howner : owner? place history = some shown.generation := by
          rw [← haccounts.owner, howned]
          rfl
        obtain rfl : fits = true := by
          cases fits with
          | true => rfl
          | false => simpa [BoardExchange.misfits, howner] using hfit history _ [] rfl
        rw [picture?, howned] at h
        obtain ⟨⟨origin, made⟩, hrecorded, hmade⟩ := Option.map_eq_some_iff.mp h
        rw [BoardExchange.record, if_pos rfl, hrecorded, picture?, hshown']
        exact congrArg some ((Picture.follow_append hmade).trans hfollows)
      · have hrecord (recorded : Option (Picture × List Change)) :
            BoardExchange.record slot recorded
              ⟨.apply place shown.generation changes, .followed fits⟩ = recorded := by
          cases fits <;> simp [BoardExchange.record, hslot]
        rw [hrecord, h, picture?, picture?, helsewhere slot (Ne.symm hslot)]
  | turnsAway => exact h
  | nothing hslots _ hrecord =>
      rw [hrecord, h, picture?, picture?, hslots.shown?]

theorem slotCount_call (call : BoardCall) (board : Board) :
    (board.call call).board.slotCount = board.slotCount := by
  cases call with
  | attach slot picture => exact slotCount_attach slot picture board
  | apply slot generation changes => exact slotCount_apply slot generation changes board
  | setGrid rows columns => exact (sameSlots_setGrid rows columns board).slotCount
  | setFrameTitle | setStatusEnabled => rfl
  | echo lines => exact (sameSlots_echo lines board).slotCount

theorem slotCount_afterCalls (calls : List BoardCall) (board : Board) :
    (board.afterCalls calls).slotCount = board.slotCount := by
  induction calls generalizing board with
  | nil => rfl
  | cons call calls ih => exact (ih _).trans (slotCount_call call board)

theorem Accounts.afterCalls {board : Board} {earlier : List BoardExchange}
    (h : board.Accounts earlier) (calls : List BoardCall) :
    (board.afterCalls calls).Accounts (earlier ++ board.history calls) := by
  induction calls generalizing board earlier with
  | nil =>
      rw [history, List.append_nil]
      exact h
  | cons call calls ih =>
      rw [history, List.append_cons]
      exact ih (h.step (does_call call board))

theorem Follows.afterCalls {slot : Nat} {board : Board} {earlier : List BoardExchange}
    (h : board.Follows slot earlier) (haccounts : board.Accounts earlier) (calls : List BoardCall)
    (hfit : OwnersFit slot (earlier ++ board.history calls)) :
    (board.afterCalls calls).Follows slot (earlier ++ board.history calls) := by
  induction calls generalizing board earlier with
  | nil =>
      rw [history, List.append_nil]
      exact h
  | cons call calls ih =>
      rw [history, List.append_cons] at hfit ⊢
      have hdoes := does_call call board
      exact ih (h.step haccounts hfit.of_append hdoes) (haccounts.step hdoes) hfit

/-- After any calls of a board, in any order and under any generations: The generations that it has
given increase, and the next is larger than all of them. Only the generation given last for a slot
can change what is there; with any other nothing happens. No picture touches a slot but its own,
and none is taken outside the board. If the changes of the owners of a slot have fitted, the slot
shows the picture shown there last after all changes that were made to it. -/
theorem generations_own_slots (slotCount : Nat) (settings : BoardSettings) (window : Option Window)
    (calls : List BoardCall) :
    let start := create slotCount settings window
    let board := start.afterCalls calls
    let history := start.history calls
    (generationsGiven history).Pairwise (· < ·) ∧
    (∀ slot picture, slot < slotCount → ∃ generation,
      (board.attach slot picture).value = some generation ∧
        ∀ earlier ∈ generationsGiven history, earlier < generation) ∧
    (∀ slot picture, ¬slot < slotCount → board.attach slot picture = ⟨none, board, []⟩) ∧
    (∀ slot generation changes, owner? slot history ≠ some generation →
      board.apply slot generation changes = ⟨false, board, []⟩) ∧
    (∀ slot other, other ≠ slot →
      (∀ picture, (board.attach slot picture).board.shown? other = board.shown? other) ∧
      ∀ generation changes,
        (board.apply slot generation changes).board.shown? other = board.shown? other) ∧
    ∀ slot, OwnersFit slot history → board.Follows slot history := by
  intro start board history
  have hstart : start.Accounts [] := accounts_create slotCount settings window
  have haccounts : board.Accounts history := hstart.afterCalls calls
  have hcount : board.slotCount = slotCount :=
    (slotCount_afterCalls calls start).trans List.length_replicate
  refine ⟨haccounts.increasing, fun slot picture hin => ?_, fun slot picture hout => ?_,
    fun slot generation changes hforeign => ?_, fun slot other hother => ⟨fun picture => ?_, ?_⟩,
    fun slot hfit => ?_⟩
  · refine ⟨board.nextGeneration, ?_, haccounts.issued⟩
    rw [attach, if_pos (hcount ▸ hin)]
  · rw [attach, if_neg (hcount ▸ hout)]
  · refine apply_of_not_owned changes fun shown hshown heq => hforeign ?_
    rw [← haccounts.owner, hshown, Option.map_some, heq]
  · exact shown?_attach_of_ne slot picture board hother
  · exact fun generation changes => shown?_apply_of_ne slot generation changes board hother
  · have hempty : start.Follows slot [] := by
      rw [Follows, picture?, shown?_create]
      rfl
    exact hempty.afterCalls hstart calls hfit

/-- Two slots, of which the first is taken over. Its first owner is turned away then, and so are the
owner of the other slot and whoever wants to show something beside the board. -/
theorem generations_own_slots_taken_over :
    let style := (Chart.create .dial).styleForPlot
    let needle : Picture := { (Chart.create .dial).picture with plots := [⟨style, .value .zero⟩] }
    let put (n : Nat) : List Change := [⟨0, .setValue (.ofNat n)⟩]
    let calls := [.attach 0 needle, .attach 5 needle, .attach 1 needle, .apply 0 1 (put 3),
      .apply 0 2 (put 4), .attach 0 needle, .apply 0 1 (put 5), .apply 0 3 (put 6),
      .apply 0 3 (put 7 ++ put 8)]
    let start := create 2 {} none
    let board := start.afterCalls calls
    let history := start.history calls
    generationsGiven history = [1, 2, 3] ∧ (generationsGiven history).Pairwise (· < ·) ∧
      (∃ generation, (board.attach 1 needle).value = some generation ∧
        ∀ earlier ∈ generationsGiven history, earlier < generation) ∧
      board.attach 2 needle = ⟨none, board, []⟩ ∧
      owner? 0 history = some 3 ∧ board.apply 0 1 (put 9) = ⟨false, board, []⟩ ∧
      (board.attach 1 needle).board.shown? 0 = board.shown? 0 ∧
      OwnersFit 0 history ∧ recorded? 0 history = some (needle, put 6 ++ put 7 ++ put 8) ∧
      board.Follows 0 history := by
  intro style needle put calls start board history
  obtain ⟨hincreasing, hnew, houtside, hforeign, hother, hfollows⟩ :=
    generations_own_slots 2 {} none calls
  have howner : owner? 0 history = some 3 := by decide +kernel
  have hfit : OwnersFit 0 history := by decide +kernel
  refine ⟨by decide +kernel, hincreasing, hnew 1 needle (by decide), houtside 2 needle (by decide),
    howner, hforeign 0 1 (put 9) ?_, (hother 1 0 (by decide)).1 needle, hfit, by decide +kernel,
    hfollows 0 hfit⟩
  rw [howner]
  decide

end Board

end ChartBoard
