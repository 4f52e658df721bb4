import ChartBoard.Proofs.Client.Conduct

/-!
What each call of a client sends, answers and keeps back, over a link on which nothing is left.
Lines with values are kept back while a client is caching, and sent in one piece by `update`; all
other lines are sent one by one until one is refused. The answer is the first error among the
replies.
-/

namespace ChartBoard

open Text Connection Client

namespace ClientCall

section Spec

variable (call : ClientCall) (client : Client (Recorded ServedLink))

/-- Whether the lines of a call are kept back. -/
def keepsBack : Bool := call.isData && client.caching

/-- The lines that a call sends. -/
def sent : List String :=
  match call with
  | update => client.cache
  | call => if call.keepsBack client then [] else client.link.link.untilRefused call.lines

/-- The lines that are kept back after a call. -/
def cacheAfter : List String :=
  match call with
  | update => []
  | call => if call.keepsBack client then client.cache ++ call.lines else client.cache

/-- What a call answers. -/
def answer : Except ClientError Unit :=
  match call.unknownKind? with
  | some name => .error (.invalidKind name)
  | none => settled (firstComplaint? (call.sent client) client.link.link)

/-- A call does what is expected of it: its lines are heard, and the client has kept back what it
has to. -/
def Keeps : Prop :=
  ∃ after, run call.make client = (call.answer client, after) ∧
    Recorded.Heard (call.sent client) client.link after.link ∧ after.cache = call.cacheAfter client

end Spec

section Sent

variable {call : ClientCall} {client : Client (Recorded ServedLink)}

theorem answer_of_known (h : call.unknownKind? = none) :
    call.answer client = settled (firstComplaint? (call.sent client) client.link.link) := by
  rw [answer, h]

theorem answer_of_unknown {name : String} (h : call.unknownKind? = some name) :
    call.answer client = .error (.invalidKind name) := by
  rw [answer, h]

theorem sent_of_ne (client : Client (Recorded ServedLink)) (h : call ≠ update) :
    call.sent client =
      if call.keepsBack client then [] else client.link.link.untilRefused call.lines := by
  cases call <;> first | rfl | exact absurd rfl h

theorem cacheAfter_of_ne (client : Client (Recorded ServedLink)) (h : call ≠ update) :
    call.cacheAfter client =
      if call.keepsBack client then client.cache ++ call.lines else client.cache := by
  cases call <;> first | rfl | exact absurd rfl h

/-- A call that keeps nothing back sends its lines at once. -/
theorem sent_of_ready (hready : call.keepsBack client = false) (hupdate : call ≠ update) :
    call.sent client = client.link.link.untilRefused call.lines ∧
      call.cacheAfter client = client.cache := by
  have hsent := sent_of_ne client hupdate
  have hcache := cacheAfter_of_ne client hupdate
  rw [hready, if_neg Bool.false_ne_true] at hsent hcache
  exact ⟨hsent, hcache⟩

theorem sent_of_command (client : Client (Recorded ServedLink)) (hdata : call.isData = false)
    (hupdate : call ≠ update) :
    call.sent client = client.link.link.untilRefused call.lines ∧
      call.cacheAfter client = client.cache := by
  refine sent_of_ready ?_ hupdate
  rw [keepsBack, hdata, Bool.false_and]

/-- A chart of a kind that there is not is refused without a line. -/
theorem sent_of_unknown (client : Client (Recorded ServedLink)) {name : String}
    (h : call.unknownKind? = some name) :
    call.sent client = [] ∧ call.cacheAfter client = client.cache := by
  obtain ⟨hlines, hdata, hupdate⟩ := unknownKind?_eq_some h
  obtain ⟨hsent, hcache⟩ := sent_of_command client hdata hupdate
  rw [hlines] at hsent
  exact ⟨hsent, hcache⟩

theorem answer_of_keepsBack (h : call.keepsBack client = true) :
    call.sent client = [] ∧ call.answer client = .ok () ∧
      call.cacheAfter client = client.cache ++ call.lines := by
  have hdata : call.isData = true := (Bool.and_eq_true_iff.mp h).1
  have hupdate := ne_update_of_isData hdata
  have hkind : call.unknownKind? = none := by
    cases call <;> first | rfl | cases hdata
  have hsent : call.sent client = [] := by
    rw [sent_of_ne client hupdate, if_pos h]
  refine ⟨hsent, ?_, ?_⟩
  · rw [answer_of_known hkind, hsent]
    rfl
  · rw [cacheAfter_of_ne client hupdate, if_pos h]

section Keeps

variable (hdrained : client.link.link.inbox.bytes = [])

include hdrained

/-- A call that sends nothing. -/
theorem keeps_of_silent {after : Client (Recorded ServedLink)}
    (hrun : run call.make client = (call.answer client, after)) (hsent : call.sent client = [])
    (hlink : after.link = client.link) (hcache : after.cache = call.cacheAfter client) :
    call.Keeps client := by
  refine ⟨after, hrun, ?_, hcache⟩
  rw [hsent, hlink]
  exact .refl hdrained

/-- Every call does what is expected of it. -/
theorem keeps_call
    (hlines : ∀ line ∈ call.sent client, Sendable client.link.link.server.maxLineLength line) :
    call.Keeps client := by
  have hconduct := conduct_make call client
  generalize hrun : run call.make client = outcome at hconduct
  cases hconduct with
  | waits | caches => exact keeps_of_silent hdrained hrun rfl rfl rfl
  | rejects hkind =>
      obtain ⟨hsent, hcache⟩ := sent_of_unknown client hkind
      rw [← answer_of_unknown hkind] at hrun
      exact keeps_of_silent hdrained hrun hsent rfl hcache.symm
  | keepsBack hdata hcaching =>
      obtain ⟨hsent, hanswer, hcache⟩ :=
        answer_of_keepsBack (Bool.and_eq_true_iff.mpr ⟨hdata, hcaching⟩)
      rw [← hanswer] at hrun
      exact keeps_of_silent hdrained hrun hsent rfl hcache.symm
  | speaks hspeaks hkind hready =>
      obtain ⟨hsent, hcache⟩ := sent_of_ready hready (ne_update_of_speaks hspeaks)
      rw [hsent] at hlines
      obtain ⟨after, hheard, hafter⟩ := exchanges_sayAll hdrained hlines
      refine ⟨{ client with link := after }, ?_, ?_, hcache.symm⟩
      · rw [hrun, hafter, answer_of_known hkind, hsent]
      · rw [hsent]
        exact hheard
  | idles hcache =>
      refine keeps_of_silent hdrained ?_ hcache rfl hcache
      rw [hrun, answer, sent, hcache]
      rfl
  | flushes =>
      obtain ⟨after, hheard, hafter⟩ :=
        @exchanges_batch { client with cache := [] } hdrained client.cache hlines
      exact ⟨_, hrun.trans hafter, hheard, rfl⟩

end Keeps

end Sent

section Answers

variable {call : ClientCall} {client : Client (Recorded ServedLink)}

theorem settled_replyTo (result : Except Refusal Unit) :
    settled (Session.replyTo result).complaint? =
      result.mapError fun refusal => .refused refusal.message := by
  cases result <;> rfl

/-- A single line is answered as the session processes it. -/
theorem answer_of_single {line : String} (h : call.sent client = [line]) :
    let link := client.link.link
    call.answer client = (link.session.process (link.clocks link.answered)
      (Session.withoutLineEnd line) link.server.board).result.mapError
        fun refusal => .refused refusal.message := by
  have hkind : call.unknownKind? = none := by
    refine Option.eq_none_iff_forall_ne_some.mpr fun name hname => ?_
    rw [(sent_of_unknown client hname).1] at h
    cases h
  intro link
  rw [answer_of_known hkind, h, firstComplaint?_singleton, ServedLink.reply_respond,
    settled_replyTo]

theorem complaint?_of_accepted {replies : List Reply} (h : ∀ reply ∈ replies, reply = .ok) :
    replies.findSome? Reply.complaint? = none :=
  List.findSome?_eq_none_iff.mpr fun reply hreply => by rw [h reply hreply]; rfl

/-- Lines that are said one by one are all accepted, or the last that is said is refused. -/
theorem answer_of_said (hupdate : call ≠ update) (hkeeps : call.keepsBack client = false)
    (hkind : call.unknownKind? = none) :
    let sent := call.sent client
    let replies := (client.link.link.hear sent).replies
    call.cacheAfter client = client.cache ∧ sent <+: call.lines ∧
      (sent = call.lines ∧ (∀ reply ∈ replies, reply = .ok) ∧ call.answer client = .ok () ∨
        ∃ accepted message, replies = accepted ++ [.error message] ∧
          (∀ reply ∈ accepted, reply = .ok) ∧ call.answer client = .error (.refused message)) := by
  have hsent : call.sent client = client.link.link.untilRefused call.lines := by
    rw [sent_of_ne client hupdate, hkeeps, if_neg Bool.false_ne_true]
  obtain ⟨hopening, hends⟩ := ServedLink.untilRefused_stops call.lines client.link.link
  dsimp only
  rw [answer_of_known hkind, firstComplaint?, hsent]
  refine ⟨?_, hopening, ?_⟩
  · rw [cacheAfter_of_ne client hupdate, hkeeps, if_neg Bool.false_ne_true]
  rcases hends with ⟨hall, haccepted⟩ | ⟨accepted, message, hreplies, haccepted⟩
  · refine .inl ⟨hall, haccepted, ?_⟩
    rw [complaint?_of_accepted haccepted]
    rfl
  · refine .inr ⟨accepted, message, hreplies, haccepted, ?_⟩
    rw [hreplies, List.findSome?_append, complaint?_of_accepted haccepted]
    rfl

/-- A call without values is accepted if all its lines are, and has them heard. -/
theorem made_of_accepted (hdata : call.isData = false) (hupdate : call ≠ update)
    (hkind : call.unknownKind? = none) (hdrained : client.link.link.inbox.bytes = [])
    (hlines : ∀ line ∈ call.lines, Sendable client.link.link.server.maxLineLength line)
    (haccepted : ∀ reply ∈ (client.link.link.hear call.lines).replies, reply = .ok) :
    ∃ after, run call.make client = (.ok (), after) ∧
      Recorded.Heard call.lines client.link after.link := by
  have hsent : call.sent client = call.lines :=
    (sent_of_command client hdata hupdate).1.trans (untilRefused_of_accepted haccepted)
  have hanswer : call.answer client = .ok () := by
    rw [answer_of_known hkind, hsent, firstComplaint?, complaint?_of_accepted haccepted]
    rfl
  obtain ⟨after, hrun, hheard, -⟩ := keeps_call hdrained (hsent ▸ hlines)
  rw [hanswer] at hrun
  rw [hsent] at hheard
  exact ⟨after, hrun, hheard⟩

end Answers

end ClientCall

end ChartBoard
