import ChartBoard.Proofs.Client.LineLengths
import ChartBoard.Proofs.Client.PlotArrival
import ChartBoard.Proofs.Session.AcceptedLines

/-!
Calls that a server accepts line by line. What lines lead to (`Session.Accepts`) is what calls lead
to that say these lines (`Client.Succeeds`): a call answers well, every line that it has sent is
accepted, and the client is ready for the next call, its link drained and what it keeps back known
(`Client.Rests`). Calls are composed like lines, also in loops (`Client.succeeds_repeat`), where the
lines kept back may grow with each round.
-/

namespace ChartBoard.Client

open Connection ClientCall
open Session (Accepts)

/-- A call answers well and has had lines heard that are all accepted. -/
structure Accepted (call : Call (Recorded ServedLink) Unit)
    (before after : Client (Recorded ServedLink)) : Prop where
  run : run call before = (.ok (), after)
  heard : ∃ lines, Recorded.Heard lines before.link after.link ∧
    ∀ reply ∈ (before.link.link.hear lines).replies, reply = .ok

theorem accepted_silent {call : Call (Recorded ServedLink) Unit}
    {before after : Client (Recorded ServedLink)} (hdrained : before.link.link.inbox.bytes = [])
    (hrun : Client.run call before = (.ok (), after)) (hlink : after.link = before.link) :
    Accepted call before after := by
  refine ⟨hrun, [], ?_, fun reply hreply => (nomatch hreply)⟩
  rw [hlink]
  exact .refl hdrained

/-- Accepted calls follow each other. -/
theorem Accepted.bind {call later : Call (Recorded ServedLink) Unit}
    {first second third : Client (Recorded ServedLink)} (h : Accepted call first second)
    (h' : Accepted later second third) : Accepted (call >>= fun _ => later) first third := by
  obtain ⟨lines, hheard, haccepted⟩ := h.heard
  obtain ⟨next, hlater, haccepted'⟩ := h'.heard
  refine ⟨(run_bind_ok h.run _).trans h'.run, lines ++ next, hheard.trans hlater, ?_⟩
  rw [hheard.hear_append]
  exact List.forall_mem_append.mpr ⟨haccepted, haccepted'⟩

/-- From every client of one kind a call is accepted and leads to one of another. -/
def Succeeds (Before : Client (Recorded ServedLink) → Prop) (call : Call (Recorded ServedLink) Unit)
    (After : Client (Recorded ServedLink) → Prop) : Prop :=
  ∀ client, Before client → ∃ after, Accepted call client after ∧ After after

/-- A client between two calls: nothing is left on its link, it keeps back what it should, and
something holds of the session and the board. -/
structure Rests (limit : Nat) (caching : Bool) (kept : List String)
    (Reached : Session → Board → Prop) (client : Client (Recorded ServedLink)) : Prop where
  drained : client.link.link.inbox.bytes = []
  limit : client.link.link.server.maxLineLength = limit
  caching : client.caching = caching
  cache : client.cache = kept
  reached : Reached client.link.link.session client.link.link.server.board

section Rules

variable {Before Middle After : Client (Recorded ServedLink) → Prop}
  {call later : Call (Recorded ServedLink) Unit}

theorem Succeeds.bind (h : Succeeds Before call Middle) (h' : Succeeds Middle later After) :
    Succeeds Before (call >>= fun _ => later) After := by
  intro client hbefore
  obtain ⟨middle, hcall, hmiddle⟩ := h client hbefore
  obtain ⟨after, hlater, hafter⟩ := h' middle hmiddle
  exact ⟨after, hcall.bind hlater, hafter⟩

theorem Succeeds.imp {Before' After' : Client (Recorded ServedLink) → Prop}
    (h : Succeeds Before call After) (hbefore : ∀ client, Before' client → Before client)
    (hafter : ∀ client, After client → After' client) : Succeeds Before' call After' := by
  intro client hholds
  obtain ⟨after, hcall, hreached⟩ := h client (hbefore client hholds)
  exact ⟨after, hcall, hafter after hreached⟩

/-- Only what a call does counts. -/
theorem Succeeds.of_run (h : Succeeds Before call After)
    (hrun : ∀ client, Before client → run later client = run call client) :
    Succeeds Before later After := by
  intro client hbefore
  obtain ⟨after, ⟨hcall, hheard⟩, hafter⟩ := h client hbefore
  exact ⟨after, ⟨(hrun client hbefore).trans hcall, hheard⟩, hafter⟩

/-- A call whose outcome is kept until something else has been done. -/
theorem Succeeds.holdingBack (h : Succeeds Before call Middle) (h' : Succeeds Middle later After) :
    Succeeds Before (do
      let outcome ← ExceptT.lift (ExceptT.run call)
      later
      ExceptT.mk (pure outcome)) After := by
  refine (h.bind h').of_run fun client hbefore => ?_
  obtain ⟨middle, hcall, hmiddle⟩ := h client hbefore
  obtain ⟨after, hlater, -⟩ := h' middle hmiddle
  have hheld : run (ExceptT.lift (ExceptT.run call)) client = (.ok (.ok ()), middle) := by
    have hrun := hcall.run
    unfold run ExceptT.run StateT.run at hrun ⊢
    simp only [ExceptT.lift, ExceptT.mk, Functor.map, StateT.map, hrun]
    rfl
  rw [run_bind_ok hheld, run_bind_ok hlater.run, (hcall.bind hlater).run]
  rfl

end Rules

section Calls

variable {limit : Nat} {caching : Bool} {kept : List String} {Before After : Session → Board → Prop}

/-- Do something so many times, each time from where the times before have led to. -/
theorem succeeds_repeat (AtRound : Nat → Client (Recorded ServedLink) → Prop)
    (hdrained : ∀ client, AtRound 0 client → client.link.link.inbox.bytes = [])
    {call : Nat → Call (Recorded ServedLink) Unit} (count : Nat)
    (h : ∀ round < count, Succeeds (AtRound round) (call round) (AtRound (round + 1))) :
    Succeeds (AtRound 0) ((List.range count).forM call) (AtRound count) := by
  induction count with
  | zero => exact fun client hbefore =>
      ⟨client, accepted_silent (hdrained client hbefore) rfl rfl, hbefore⟩
  | succ count ih =>
      have hrounds := ih fun round hround => h round (Nat.lt_succ_of_lt hround)
      have hboth := hrounds.bind (h count (Nat.lt_succ_self count))
      simpa [List.range_succ] using hboth

theorem succeeds_setCaching (enabled : Bool) :
    Succeeds (Rests limit caching kept Before) (setCaching enabled)
      (Rests limit enabled kept Before) := fun client hbefore =>
  ⟨{ client with caching := enabled }, accepted_silent hbefore.drained rfl rfl, hbefore.drained,
    hbefore.limit, rfl, hbefore.cache, hbefore.reached⟩

/-- An exchange of lines that are all accepted. -/
theorem Exchanges.accepted {call : Call (Recorded ServedLink) Unit} {lines : List String}
    {client : Client (Recorded ServedLink)} (h : Exchanges call lines client)
    (haccepted : ∀ reply ∈ (client.link.link.hear lines).replies, reply = .ok) :
    ∃ after, Recorded.Heard lines client.link after ∧
      Accepted call client { client with link := after } := by
  obtain ⟨after, hheard, hrun⟩ := h
  rw [firstComplaint?, complaint?_of_accepted haccepted] at hrun
  exact ⟨after, hheard, hrun, lines, hheard, haccepted⟩

section Lines

variable {lines : List String} (haccepts : Accepts Before lines After)
  (hlines : ∀ line ∈ lines, Sendable limit line)

include haccepts hlines

/-- Lines that are accepted can be said one by one. -/
theorem succeeds_sayAll :
    Succeeds (Rests limit caching kept Before) (sayAll lines) (Rests limit caching kept After) := by
  intro client hbefore
  obtain ⟨haccepted, hafter⟩ := haccepts client.link.link.clocks client.link.link.answered _ _
    hbefore.reached
  have hsaid : client.link.link.untilRefused lines = lines := untilRefused_of_accepted haccepted
  have hexchange : Exchanges (sayAll lines) (client.link.link.untilRefused lines) client := by
    refine exchanges_sayAll hbefore.drained ?_
    rwa [hsaid, hbefore.limit]
  rw [hsaid] at hexchange
  obtain ⟨after, hheard, hcall⟩ := hexchange.accepted haccepted
  refine ⟨_, hcall, hheard.drained, hheard.limit.trans hbefore.limit, hbefore.caching,
    hbefore.cache, ?_⟩
  rw [hheard.session, hheard.board]
  exact hafter

/-- What is kept back is sent in one piece. -/
theorem succeeds_update :
    Succeeds (Rests limit caching lines Before) Client.update (Rests limit caching [] After) := by
  intro client hbefore
  obtain ⟨haccepted, hafter⟩ := haccepts client.link.link.clocks client.link.link.answered _ _
    hbefore.reached
  have hconduct := conduct_update client
  generalize hrun : run ClientCall.update.make client = outcome at hconduct
  cases hconduct with
  | speaks hspeaks => cases hspeaks
  | keepsBack hdata => cases hdata
  | rejects hkind => cases hkind
  | idles hcache =>
      obtain rfl : lines = [] := hbefore.cache.symm.trans hcache
      exact ⟨client, accepted_silent hbefore.drained hrun rfl, hbefore.drained, hbefore.limit,
        hbefore.caching, hcache, hafter⟩
  | flushes =>
      have hsendable := hlines
      rw [← hbefore.limit] at hsendable
      have hexchange : Exchanges (sayTogether lines) lines { client with cache := [] } :=
        @exchanges_batch { client with cache := [] } hbefore.drained lines hsendable
      obtain ⟨after, hheard, hcall⟩ := hexchange.accepted haccepted
      refine ⟨_, ⟨hrun.trans ?_, hcall.heard⟩, hheard.drained, hheard.limit.trans hbefore.limit,
        hbefore.caching, rfl, ?_⟩
      · rw [hbefore.cache]
        exact hcall.run
      · rw [hheard.session, hheard.board]
        exact hafter

end Lines

section Line

variable {line : String}

theorem succeeds_command (haccepts : Accepts Before [line] After) (hline : Sendable limit line) :
    Succeeds (Rests limit caching kept Before) (command line) (Rests limit caching kept After) := by
  rw [← sayAll_singleton]
  exact succeeds_sayAll haccepts (List.forall_mem_singleton.mpr hline)

theorem succeeds_sendData (haccepts : Accepts Before [line] After) (hline : Sendable limit line) :
    Succeeds (Rests limit false kept Before) (sendData line) (Rests limit false kept After) := by
  refine (succeeds_command haccepts hline).of_run fun client hbefore => ?_
  rw [run_sendData, hbefore.caching, if_neg Bool.false_ne_true]

theorem succeeds_keepBack (line : String) :
    Succeeds (Rests limit true kept Before) (sendData line)
      (Rests limit true (kept ++ [line]) Before) := by
  intro client hbefore
  have hrun := run_sendData line client
  rw [if_pos hbefore.caching] at hrun
  exact ⟨_, accepted_silent hbefore.drained hrun rfl, hbefore.drained, hbefore.limit,
    hbefore.caching, congrArg (· ++ [line]) hbefore.cache, hbefore.reached⟩

end Line

end Calls

end ChartBoard.Client
