import ChartBoard.Proofs.Client.CallLines

/-!
All that a call of a client can come to (`ClientCall.Conduct`), over any link and whatever arrives
on it: it settles something in the client, keeps its lines back, says them one by one until one
fails, or sends in one piece what has been kept back. Every call does one of these
(`ClientCall.conduct_make`), so what holds of all calls is shown by cases of their conduct.
-/

namespace ChartBoard

open Connection Client

namespace ClientCall

/-- What is kept back is sent as its lines are. -/
theorem wireLine_intercalate (line : String) (lines : List String) :
    wireLine (String.intercalate "\n" (line :: lines)) = wireText (line :: lines) := by
  induction lines generalizing line with
  | nil =>
      rw [String.intercalate_singleton, wireText, List.map_singleton, String.join_cons,
        String.join_nil, String.append_empty]
  | cons next lines ih =>
      have hwire : wireText (line :: next :: lines) = wireLine line ++ wireText (next :: lines) :=
        String.join_cons
      rw [String.intercalate_cons_cons, hwire, ← ih]
      exact String.append_assoc

/-- Whether a call has lines of its own, to say or to keep back. -/
def speaks : ClientCall → Bool
  | setPatience _ | setCaching _ | update => false
  | _ => true

theorem ne_update_of_speaks {call : ClientCall} (h : call.speaks = true) : call ≠ update := by
  rintro rfl
  cases h

theorem ne_update_of_isData {call : ClientCall} (h : call.isData = true) : call ≠ update := by
  rintro rfl
  cases h

theorem unknownKind?_eq_some {name : String} (h : call.unknownKind? = some name) :
    call.lines = [] ∧ call.isData = false ∧ call ≠ update := by
  cases call with
  | setKind kind | openChart kind title =>
      refine ⟨?_, rfl, by simp⟩
      rw [unknownKind?] at h
      split at h
      · rename_i hnone
        rw [lines, Option.isNone_iff_eq_none.mp hnone]
        rfl
      · cases h
  | _ => cases h

variable {σ : Type} [Link σ]

/-- All that a call can come to. -/
inductive Conduct (client : Client σ) : ClientCall → Except ClientError Unit × Client σ → Prop where
  | waits (milliseconds : Nat) :
      Conduct client (.setPatience milliseconds) (.ok (), { client with patience := milliseconds })
  | caches (enabled : Bool) :
      Conduct client (.setCaching enabled) (.ok (), { client with caching := enabled })
  | rejects {call : ClientCall} {name : String} (hkind : call.unknownKind? = some name) :
      Conduct client call (.error (.invalidKind name), client)
  | keepsBack {call : ClientCall} (hdata : call.isData = true) (hcaching : client.caching = true) :
      Conduct client call (.ok (), { client with cache := client.cache ++ call.lines })
  | speaks {call : ClientCall} (hspeaks : call.speaks = true) (hkind : call.unknownKind? = none)
      (hready : (call.isData && client.caching) = false) :
      Conduct client call (run (sayAll call.lines) client)
  | idles (hcache : client.cache = []) : Conduct client .update (.ok (), client)
  | flushes (hcache : client.cache ≠ []) :
      Conduct client .update (run (sayTogether client.cache) { client with cache := [] })

section Make

variable {call : ClientCall} (client : Client σ)

theorem conduct_of_says (hmake : (call.make : Call σ Unit) = sayAll call.lines)
    (hspeaks : call.speaks = true) (hkind : call.unknownKind? = none)
    (hdata : call.isData = false) :
    Conduct client call (run call.make client) := by
  rw [hmake]
  refine .speaks hspeaks hkind ?_
  rw [hdata, Bool.false_and]

theorem conduct_of_command {line : String} (hmake : (call.make : Call σ Unit) = command line)
    (hcall : call.lines = [line]) (hspeaks : call.speaks = true) (hkind : call.unknownKind? = none)
    (hdata : call.isData = false) : Conduct client call (run call.make client) := by
  refine conduct_of_says client ?_ hspeaks hkind hdata
  rw [hmake, hcall, sayAll_singleton]

theorem conduct_of_data {line : String} (hmake : (call.make : Call σ Unit) = sendData line)
    (hcall : call.lines = [line]) (hspeaks : call.speaks = true) (hkind : call.unknownKind? = none)
    (hdata : call.isData = true) : Conduct client call (run call.make client) := by
  have hrun := run_sendData line client
  rw [← hmake, ← sayAll_singleton] at hrun
  rw [hrun, ← hcall]
  split
  · rename_i hcaching
    exact .keepsBack hdata hcaching
  · rename_i hcaching
    refine .speaks hspeaks hkind ?_
    rw [hdata, Bool.true_and]
    exact Bool.eq_false_iff.mpr hcaching

theorem conduct_of_kind {name : String} {said : ChartKind → List String}
    (hthrow : ChartKind.ofName? name = none →
      run call.make client = (.error (.invalidKind name), client))
    (hmake : ∀ kind, ChartKind.ofName? name = some kind →
      (call.make : Call σ Unit) = sayAll (said kind))
    (hcall : call.lines = (ChartKind.ofName? name).elim [] said)
    (hkind : call.unknownKind? = if (ChartKind.ofName? name).isNone then some name else none)
    (hspeaks : call.speaks = true) (hdata : call.isData = false) :
    Conduct client call (run call.make client) := by
  cases hname : ChartKind.ofName? name with
  | none =>
      rw [hname] at hkind
      rw [hthrow hname]
      exact .rejects hkind
  | some kind =>
      rw [hname] at hcall hkind
      refine conduct_of_says client ?_ hspeaks hkind hdata
      rw [hmake kind hname, hcall, Option.elim_some]

theorem conduct_update : Conduct client update (run update.make client) := by
  cases hcache : client.cache with
  | nil =>
      have hrun : run update.make client = (.ok (), client) := by
        rw [make, Client.update, run_bind_ok (run_get client), hcache]
        rfl
      rw [hrun]
      exact .idles hcache
  | cons line lines =>
      have hne : client.cache ≠ [] := by
        rw [hcache]
        exact List.cons_ne_nil line lines
      have hrun : run update.make client =
          run (sayTogether client.cache) { client with cache := [] } := by
        rw [make, Client.update, run_bind_ok (run_get client), hcache]
        dsimp only [List.isEmpty_cons]
        rw [if_neg Bool.false_ne_true, run_bind_ok (run_set _ client), wireLine_intercalate]
        rfl
      rw [hrun]
      exact .flushes hne

end Make

/-- Every call does one of these. -/
theorem conduct_make (call : ClientCall) (client : Client σ) :
    Conduct client call (run call.make client) := by
  cases call with
  | setPatience milliseconds => exact .waits milliseconds
  | setCaching enabled => exact .caches enabled
  | setGrid rows columns => exact conduct_of_command client rfl rfl rfl rfl rfl
  | setFrameTitle title => exact conduct_of_command client rfl rfl rfl rfl rfl
  | setLegend enabled => exact conduct_of_command client rfl rfl rfl rfl rfl
  | init => exact conduct_of_command client rfl rfl rfl rfl rfl
  | clear plot => exact conduct_of_command client rfl rfl rfl rfl rfl
  | replot plot => exact conduct_of_command client rfl rfl rfl rfl rfl
  | enableStatus enabled => exact conduct_of_command client rfl rfl rfl rfl rfl
  | addPoint p => exact conduct_of_data client rfl rfl rfl rfl rfl
  | addTimed plot time y => exact conduct_of_data client rfl rfl rfl rfl rfl
  | addPlot settings => exact conduct_of_says client (make_addPlot settings) rfl rfl rfl
  | update => exact conduct_update client
  | addValues values =>
      cases values with
      | nil =>
          cases hcaching : client.caching with
          | true =>
              have hrun : run (make (addValues [])) client =
                  (.ok (), { client with cache := client.cache ++ [] }) := by
                rw [List.append_nil]
                rfl
              rw [hrun]
              exact .keepsBack rfl hcaching
          | false => exact .speaks rfl rfl hcaching
      | cons x values => exact conduct_of_data client rfl rfl rfl rfl rfl
  | setKind name =>
      refine conduct_of_kind client (fun hname => ?_) (fun kind => make_setKind) rfl rfl rfl rfl
      rw [make, Client.setKind, hname]
      rfl
  | openChart name title =>
      refine conduct_of_kind client (fun hname => ?_) (fun kind hname => make_openChart hname title)
        rfl rfl rfl rfl
      rw [make, Client.openChart, Client.setKind, hname]
      rfl

/-- The replies that a call waits for, if none is an error. -/
def requests (call : ClientCall) (client : Client σ) : Nat :=
  match call with
  | update => client.cache.length
  | call => if call.isData && client.caching then 0 else call.lines.length

omit [Link σ] in
theorem requests_of_ne {call : ClientCall} (client : Client σ) (hupdate : call ≠ update) :
    call.requests client = if call.isData && client.caching then 0 else call.lines.length := by
  cases call <;> first | rfl | exact absurd rfl hupdate

end ClientCall

namespace Client

variable {σ : Type} [Link σ]

/-- Make calls one after the other over any link, whatever they answer. -/
def afterCalls (calls : List ClientCall) (client : Client σ) : Client σ :=
  calls.foldl (fun client call => (run call.make client).2) client

theorem afterCalls_cons (call : ClientCall) (calls : List ClientCall) (client : Client σ) :
    afterCalls (call :: calls) client = afterCalls calls (run call.make client).2 := rfl

theorem afterCalls_append (calls later : List ClientCall) (client : Client σ) :
    afterCalls (calls ++ later) client = afterCalls later (afterCalls calls client) :=
  List.foldl_append

end Client

end ChartBoard
