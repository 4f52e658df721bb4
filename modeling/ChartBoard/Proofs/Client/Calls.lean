import ChartBoard.Client.Basic

/-!
Calls of a client step by step. A call that sends a line sends it whatever is said of it, and
then takes one arrival from the link, which decides what the call answers. `Recorded` is a
link that keeps a record of what goes over it.
-/

namespace ChartBoard

/-- A link that keeps the texts that are sent over it and what arrives on it. -/
structure Recorded (σ : Type) where
  link : σ
  sent : List String := []
  arrivals : List Arrival := []

instance instLinkRecorded {σ : Type} [Link σ] : Link (Recorded σ) where
  send text recorded :=
    { recorded with link := Link.send text recorded.link, sent := recorded.sent ++ [text] }
  receive recorded :=
    let (arrival, link) := Link.receive recorded.link
    (arrival, { recorded with link := link, arrivals := recorded.arrivals ++ [arrival] })
  close recorded := { recorded with link := Link.close recorded.link }

/-- The message of an error. -/
def Reply.complaint? : Reply → Option String
  | ok => none
  | error message => some message

namespace Client

section Run

variable {σ α β : Type}

theorem run_pure (x : α) (client : Client σ) :
    run (pure x : Call σ α) client = (.ok x, client) := rfl

variable {call : Call σ α} {client after : Client σ}

theorem run_bind_ok {x : α} (h : run call client = (.ok x, after)) (next : α → Call σ β) :
    run (call >>= next) client = run (next x) after := by
  unfold run ExceptT.run StateT.run at h ⊢
  simp only [bind, ExceptT.bind, ExceptT.mk, StateT.bind, ExceptT.bindCont]
  rw [h]

/-- What follows a call that fails is not made. -/
theorem run_bind_error {fault : ClientError} (h : run call client = (.error fault, after))
    (next : α → Call σ β) : run (call >>= next) client = (.error fault, after) := by
  unfold run ExceptT.run StateT.run at h ⊢
  simp only [bind, ExceptT.bind, ExceptT.mk, StateT.bind, ExceptT.bindCont]
  rw [h]
  rfl

end Run

section Replies

variable {σ : Type}

/-- What a client makes of what it comes upon when it waits for a line. -/
def lineOf (patience : Nat) : Arrival → Except ClientError String
  | .line text => .ok (String.ofList (Text.trimEnd text.toList))
  | .unreadable => .error .unreadable
  | .closed => .error .closed
  | .silence => .error (.silence patience)

/-- What a client makes of it when it waits for a reply. -/
def replyOf (patience : Nat) (arrival : Arrival) : Except ClientError (Option String) :=
  (lineOf patience arrival).map fun line => (Reply.read line).complaint?

/-- What a call answers to the first error of its replies. -/
def settled : Option String → Except ClientError Unit
  | none => .ok ()
  | some message => .error (.refused message)

theorem run_get (client : Client σ) :
    run (get : Call σ (Client σ)) client = (.ok client, client) := rfl

theorem run_set (after client : Client σ) :
    run (set after : Call σ PUnit) client = (.ok ⟨⟩, after) := rfl

theorem run_settle (complaint : Option String) (client : Client σ) :
    run (settle complaint : Call σ Unit) client = (settled complaint, client) := by
  cases complaint <;> rfl

variable [Link σ]

theorem run_readLine (client : Client σ) :
    run (readLine : Call σ String) client =
      (lineOf client.patience (Link.receive client.link).1,
        { client with link := (Link.receive client.link).2 }) := by
  unfold readLine
  rw [run_bind_ok (run_get client)]
  cases Link.receive client.link with
  | mk arrival link =>
      dsimp only
      rw [run_bind_ok (run_set _ client)]
      cases arrival <;> rfl

theorem run_readReply (client : Client σ) :
    run (readReply : Call σ (Option String)) client =
      (replyOf client.patience (Link.receive client.link).1,
        { client with link := (Link.receive client.link).2 }) := by
  have hline := run_readLine client
  unfold readReply replyOf
  cases houtcome : lineOf client.patience (Link.receive client.link).1 with
  | ok line =>
      rw [houtcome] at hline
      rw [run_bind_ok hline]
      dsimp only [Except.map]
      cases Reply.read line <;> rfl
  | error fault =>
      rw [houtcome] at hline
      rw [run_bind_error hline]
      rfl

theorem run_transmit (text : String) (client : Client σ) :
    run (transmit text : Call σ Unit) client =
      (.ok (), { client with link := Link.send text client.link }) := rfl

/-- A command sends its line, whatever comes back, and what comes back is what it answers. -/
theorem run_command (line : String) (client : Client σ) :
    run (command line : Call σ Unit) client =
      let (arrival, link) := Link.receive (Link.send (Connection.wireLine line) client.link)
      (replyOf client.patience arrival >>= settled, { client with link := link }) := by
  unfold command
  rw [run_bind_ok (run_transmit _ client)]
  have hreply :=
    run_readReply { client with link := Link.send (Connection.wireLine line) client.link }
  dsimp only at hreply ⊢
  cases houtcome : replyOf client.patience
      (Link.receive (Link.send (Connection.wireLine line) client.link)).1 with
  | ok complaint =>
      rw [houtcome] at hreply
      rw [run_bind_ok hreply, run_settle]
      rfl
  | error fault =>
      rw [houtcome] at hreply
      rw [run_bind_error hreply]
      rfl

/-- Data are kept back while a client is caching, and else sent like a command. -/
theorem run_sendData (line : String) (client : Client σ) :
    run (sendData line : Call σ Unit) client =
      if client.caching then
        (.ok (), { client with cache := client.cache ++ [line] })
      else
        run (command line) client := by
  unfold sendData
  rw [run_bind_ok (run_get client)]
  split <;> rfl

end Replies

end Client

end ChartBoard
