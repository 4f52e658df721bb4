import ChartBoard.Proofs.Client.Attendance

/-!
The order in which lines with values are written. While a client is caching they are kept back, in
the order of their calls, and `update` writes all of them. None is lost and none is written twice,
however caching is switched on and off. But a client may stop caching while lines are still kept
back: what it sends then is written before them. Unless that happens the lines are written in the
order of their calls (`Client.data_lines_written`).
-/

namespace ChartBoard

open Text Connection Client

namespace ClientCall

/-- The calls that bring lines with values, and those that settle when these are sent. -/
def concernsData : ClientCall → Bool
  | setCaching _ | update => true
  | call => call.isData

/-- A call brings one line with values, unless it has no values. -/
theorem lines_of_isData {call : ClientCall} (h : call.isData = true) :
    call = addValues [] ∧ call.lines = [] ∨ ∃ line, call.lines = [line] := by
  cases call with
  | addValues values =>
      cases values with
      | nil => exact .inl ⟨rfl, rfl⟩
      | cons x values => exact .inr ⟨_, rfl⟩
  | addPoint p => exact .inr ⟨_, rfl⟩
  | addTimed plot time y => exact .inr ⟨_, rfl⟩
  | _ => cases h

theorem oneLine_lines_of_concernsData {call : ClientCall} (h : call.concernsData = true) :
    ∀ line ∈ call.lines, OneLine line.toList := by
  have htexts : call.texts = [] := by
    cases call <;> first | rfl | cases h
  refine oneLine_lines fun text htext => ?_
  rw [htexts] at htext
  cases htext

section Kept

variable {σ : Type} (call : ClientCall) (client : Client σ)

/-- The lines with values that a call writes. -/
def written : List String :=
  match call with
  | update => client.cache
  | call => if client.caching then [] else call.lines

/-- The lines that are kept back after such a call. -/
def keptBack : List String :=
  match call with
  | update => []
  | call => if client.caching then client.cache ++ call.lines else client.cache

/-- Whether a line is written while others are kept back. -/
def overtakes : Bool := !client.caching && !client.cache.isEmpty && !call.lines.isEmpty

variable {call client}

theorem kept_of_caching (hupdate : call ≠ update) (h : client.caching = true) :
    call.written client = [] ∧ call.keptBack client = client.cache ++ call.lines := by
  cases call <;> first | exact absurd rfl hupdate | simp [written, keptBack, h]

theorem kept_of_not_caching (hupdate : call ≠ update) (h : client.caching = false) :
    call.written client = call.lines ∧ call.keptBack client = client.cache := by
  cases call <;> first | exact absurd rfl hupdate | simp [written, keptBack, h]

variable (call client)

/-- What is written and what is then kept back is what was kept back before and what is new. -/
theorem perm_written :
    (call.written client ++ call.keptBack client).Perm (client.cache ++ call.lines) := by
  by_cases hupdate : call = update
  · subst hupdate
    exact .refl _
  cases hcaching : client.caching with
  | true =>
      obtain ⟨hwritten, hkept⟩ := kept_of_caching hupdate hcaching
      rw [hwritten, hkept]
      exact .refl _
  | false =>
      obtain ⟨hwritten, hkept⟩ := kept_of_not_caching hupdate hcaching
      rw [hwritten, hkept]
      exact List.perm_append_comm

variable {call client}

/-- It is so in this order, unless a line is written before others that have waited for longer. -/
theorem written_append_keptBack (h : call.overtakes client = false) :
    call.written client ++ call.keptBack client = client.cache ++ call.lines := by
  by_cases hupdate : call = update
  · subst hupdate
    rfl
  cases hcaching : client.caching with
  | true =>
      obtain ⟨hwritten, hkept⟩ := kept_of_caching hupdate hcaching
      rw [hwritten, hkept, List.nil_append]
  | false =>
      obtain ⟨hwritten, hkept⟩ := kept_of_not_caching hupdate hcaching
      rw [hwritten, hkept]
      rw [overtakes, hcaching] at h
      cases hcache : client.cache with
      | nil => rw [List.append_nil, List.nil_append]
      | cons line lines =>
          rw [hcache] at h
          have hnone : call.lines = [] := by simpa using h
          rw [hnone, List.append_nil, List.nil_append]

/-- What is written then begins with a new line, and what was kept back with another. -/
theorem exists_of_overtakes (h : call.overtakes client = true) :
    ∃ line more first others, call.written client = line :: more ∧ line ∈ call.lines ∧
      client.cache = first :: others := by
  rw [overtakes, Bool.and_eq_true, Bool.and_eq_true, Bool.not_eq_true', Bool.not_eq_true',
    Bool.not_eq_true', List.isEmpty_eq_false_iff, List.isEmpty_eq_false_iff] at h
  obtain ⟨⟨hcaching, hcache⟩, hlines⟩ := h
  have hupdate : call ≠ update := by
    rintro rfl
    exact hlines rfl
  obtain ⟨line, more, hline⟩ := List.exists_cons_of_ne_nil hlines
  obtain ⟨first, others, hfirst⟩ := List.exists_cons_of_ne_nil hcache
  rw [(kept_of_not_caching hupdate hcaching).1, hline]
  exact ⟨line, more, first, others, rfl, List.mem_cons_self, hfirst⟩

end Kept

/-- Whatever arrives, a call writes these lines and keeps back the others. -/
theorem run_concernsData {σ : Type} [Link σ] {call : ClientCall} (h : call.concernsData = true)
    (client : Client (Recorded σ)) :
    let after := (run call.make client).2
    String.join after.link.sent = String.join client.link.sent ++ wireText (call.written client) ∧
      after.cache = call.keptBack client := by
  have hnothing : String.join client.link.sent = String.join client.link.sent ++ wireText [] :=
    String.append_empty.symm
  have hconduct := conduct_make call client
  generalize run call.make client = outcome at hconduct
  cases hconduct with
  | waits => cases h
  | caches enabled =>
      cases hcaching : client.caching <;>
        simp [written, keptBack, lines, hcaching, wireText]
  | rejects hkind => cases call <;> first | cases hkind | cases h
  | keepsBack hdata hcaching =>
      obtain ⟨hwritten, hkept⟩ := kept_of_caching (ne_update_of_isData hdata) hcaching
      rw [hwritten, hkept]
      exact ⟨hnothing, rfl⟩
  | speaks hspeaks _ hready =>
      have hdata : call.isData = true := by
        cases call with
        | setCaching | update => cases hspeaks
        | addValues | addPoint | addTimed => rfl
        | _ => cases h
      rw [hdata, Bool.true_and] at hready
      obtain ⟨hwritten, hkept⟩ := kept_of_not_caching (ne_update_of_isData hdata) hready
      have hothers := (attends_sayAll client call.lines).others
      rw [hwritten, hkept]
      refine ⟨?_, by rw [hothers]⟩
      rcases lines_of_isData hdata with ⟨-, hlines⟩ | ⟨line, hlines⟩
      · rw [hlines]
        exact hnothing
      · rw [hlines, sayAll_singleton, sent_command, String.join_append]
        rfl
  | idles hcache =>
      rw [written, hcache]
      exact ⟨hnothing, hcache⟩
  | flushes hcache =>
      have hothers := (attends_sayTogether { client with cache := [] } client.cache).others
      refine ⟨?_, by rw [hothers]; rfl⟩
      rw [sent_sayTogether, String.join_append, String.join_cons, String.join_nil,
        String.append_empty]
      rfl

end ClientCall

namespace Client

variable {σ : Type} [Link σ]

/-- The lines with values that calls write, one after the other. -/
def allWritten : List ClientCall → Client σ → List String
  | [], _ => []
  | call :: calls, client => call.written client ++ allWritten calls (run call.make client).2

theorem allWritten_append (calls later : List ClientCall) (client : Client σ) :
    allWritten (calls ++ later) client =
      allWritten calls client ++ allWritten later (afterCalls calls client) := by
  induction calls generalizing client with
  | nil => rfl
  | cons call calls ih =>
      rw [List.cons_append, allWritten, allWritten, ih, afterCalls_cons, List.append_assoc]

/-- Whether one of the calls writes a line while others are kept back. -/
def overtakes : List ClientCall → Client σ → Bool
  | [], _ => false
  | call :: calls, client => call.overtakes client || overtakes calls (run call.make client).2

section Runs

variable {calls : List ClientCall} (hdata : ∀ call ∈ calls, call.concernsData = true)
  (client : Client (Recorded σ))

include hdata

theorem join_sent_afterCalls : String.join (afterCalls calls client).link.sent =
    String.join client.link.sent ++ wireText (allWritten calls client) := by
  induction calls generalizing client with
  | nil => exact String.append_empty.symm
  | cons call calls ih =>
      obtain ⟨hcall, hlater⟩ := List.forall_mem_cons.mp hdata
      rw [afterCalls_cons, ih hlater, (ClientCall.run_concernsData hcall client).1,
        allWritten, wireText, wireText, wireText, List.map_append, String.join_append,
        String.append_assoc]

/-- What is written and what is kept back in the end is what was kept back before and what all the
calls have brought. -/
theorem perm_allWritten : (allWritten calls client ++ (afterCalls calls client).cache).Perm
    (client.cache ++ calls.flatMap ClientCall.lines) := by
  induction calls generalizing client with
  | nil => simp [allWritten, afterCalls]
  | cons call calls ih =>
      obtain ⟨hcall, hlater⟩ := List.forall_mem_cons.mp hdata
      have hrest := ih hlater (run call.make client).2
      rw [(ClientCall.run_concernsData hcall client).2] at hrest
      rw [allWritten, List.flatMap_cons, List.append_assoc, ← List.append_assoc client.cache]
      refine (hrest.append_left _).trans ?_
      rw [← List.append_assoc]
      exact (call.perm_written client).append_right _

theorem allWritten_append_cache (h : overtakes calls client = false) :
    allWritten calls client ++ (afterCalls calls client).cache =
      client.cache ++ calls.flatMap ClientCall.lines := by
  induction calls generalizing client with
  | nil => simp [allWritten, afterCalls]
  | cons call calls ih =>
      obtain ⟨hcall, hlater⟩ := List.forall_mem_cons.mp hdata
      rw [overtakes, Bool.or_eq_false_iff] at h
      have hrest := ih hlater (run call.make client).2 h.2
      rw [(ClientCall.run_concernsData hcall client).2] at hrest
      rw [allWritten, List.flatMap_cons, List.append_assoc, ← List.append_assoc client.cache,
        ← ClientCall.written_append_keptBack h.1, List.append_assoc]
      exact congrArg _ hrest

/-- Among lines that all differ, one that is written too early is seen. -/
theorem overtakes_eq_false_of_ordered
    (hdistinct : (client.cache ++ calls.flatMap ClientCall.lines).Nodup)
    (h : allWritten calls client ++ (afterCalls calls client).cache =
      client.cache ++ calls.flatMap ClientCall.lines) : overtakes calls client = false := by
  induction calls generalizing client with
  | nil => rfl
  | cons call calls ih =>
      obtain ⟨hcall, hlater⟩ := List.forall_mem_cons.mp hdata
      rw [List.flatMap_cons, ← List.append_assoc] at h hdistinct
      have hfirst : call.overtakes client = false := by
        refine Bool.eq_false_iff.mpr fun hovertakes => ?_
        obtain ⟨line, more, first, others, hwritten, hline, hcache⟩ :=
          ClientCall.exists_of_overtakes hovertakes
        rw [allWritten, hwritten, hcache] at h
        rw [hcache] at hdistinct
        have hsame : line = first := (List.cons.inj h).1
        have hdiffer := (List.nodup_cons.mp hdistinct).1
        rw [← hsame] at hdiffer
        exact hdiffer (List.mem_append_left _ (List.mem_append_right _ hline))
      have hkept := (ClientCall.run_concernsData hcall client).2
      have hstep := ClientCall.written_append_keptBack hfirst
      rw [← hstep, List.append_assoc, ← hkept] at h hdistinct
      rw [overtakes, hfirst, Bool.false_or]
      refine ih hlater _ (List.nodup_append.mp hdistinct).2.1 ?_
      rw [allWritten, List.append_assoc] at h
      exact List.append_cancel_left h

end Runs

/-- Of any calls that bring lines with values, made in any order with those that switch caching
and with `update`, and ended by `update`, over any link and whatever arrives on it: each has one
line, unless it has no values, and what is written is all of these lines, none of them twice, each
on a line of its own. They are written in the order of the calls as long as no line is written while
others are kept back, and if all lines differ, then only as long. -/
theorem data_lines_written (client : Client (Recorded σ)) (hcache : client.cache = [])
    (calls : List ClientCall) (hdata : ∀ call ∈ calls, call.concernsData = true) :
    let after := afterCalls (calls ++ [.update]) client
    let lines := calls.flatMap ClientCall.lines
    (∀ call ∈ calls, call.isData = true →
      call = .addValues [] ∧ call.lines = [] ∨ ∃ line, call.lines = [line]) ∧
    ∃ written, String.join after.link.sent = String.join client.link.sent ++ wireText written ∧
      (∀ line ∈ written, OneLine line.toList) ∧ written.Perm lines ∧ after.cache = [] ∧
      (overtakes calls client = false → written = lines) ∧
      (lines.Nodup → written = lines → overtakes calls client = false) := by
  intro after lines
  have hupdate : ∀ call ∈ calls ++ [.update], call.concernsData = true :=
    List.forall_mem_append.mpr ⟨hdata, List.forall_mem_singleton.mpr rfl⟩
  have hwritten : allWritten (calls ++ [.update]) client =
      allWritten calls client ++ (afterCalls calls client).cache := by
    rw [allWritten_append, allWritten, allWritten, List.append_nil]
    rfl
  have hafter : after = (run ClientCall.update.make (afterCalls calls client)).2 :=
    afterCalls_append calls [.update] client
  have hempty : after.cache = [] := by
    rw [hafter]
    exact (ClientCall.run_concernsData rfl (afterCalls calls client)).2
  have hperm : (allWritten calls client ++ (afterCalls calls client).cache).Perm lines := by
    have hlines := perm_allWritten hdata client
    rwa [hcache, List.nil_append] at hlines
  have hsent := join_sent_afterCalls hupdate client
  rw [hwritten] at hsent
  refine ⟨fun call _ => ClientCall.lines_of_isData, _, hsent, fun line hline => ?_, hperm, hempty,
    fun hordered => ?_, fun hdistinct hsame => ?_⟩
  · obtain ⟨call, hcall, hmem⟩ := List.mem_flatMap.mp (hperm.mem_iff.mp hline)
    exact ClientCall.oneLine_lines_of_concernsData (hdata call hcall) line hmem
  · have hlines := allWritten_append_cache hdata client hordered
    rwa [hcache, List.nil_append] at hlines
  · refine overtakes_eq_false_of_ordered hdata client ?_ ?_
    · rwa [hcache, List.nil_append]
    · rwa [hcache, List.nil_append]

/-- Lines that are kept back in two batches, and one that is sent at once between them. -/
theorem data_lines_written_two_batches :
    let calls :=
      [.setCaching true, .addValues [.zero], .addPoint ⟨0, .zero, .zero⟩, .update,
        .setCaching false, .addValues [], .addValues [.zero, .zero], .setCaching true,
        .addPoint ⟨1, .zero, .zero⟩]
    let link : ScriptedLink := { inbox := ⟨Utf8.encode "OK\nOK\nOK\nOK\n".toList, .closed⟩ }
    let client : Client (Recorded ScriptedLink) :=
      ⟨{ link := link }, .zero, defaultPatience, false, []⟩
    (∀ call ∈ calls, call.concernsData = true) ∧ overtakes calls client = false ∧
      String.join (afterCalls (calls ++ [.update]) client).link.sent =
        wireText ["0", "0:0:0", "0,0", "1:0:0"] := by
  intro calls link client
  have hdata : ∀ call ∈ calls, call.concernsData = true := by
    simp only [calls, List.forall_mem_cons]
    exact ⟨rfl, rfl, rfl, rfl, rfl, rfl, rfl, rfl, rfl, List.forall_mem_nil _⟩
  have hordered : overtakes calls client = false := by decide +kernel
  have hlines : calls.flatMap ClientCall.lines = ["0", "0:0:0", "0,0", "1:0:0"] := by decide +kernel
  obtain ⟨-, written, hsent, -, -, -, hinOrder, -⟩ := data_lines_written client rfl calls hdata
  have hnothing : String.join client.link.sent = "" := rfl
  rw [hinOrder hordered, hlines, hnothing, String.empty_append] at hsent
  exact ⟨hdata, hordered, hsent⟩

/-- A line that is sent at once while another is kept back is written before it. -/
theorem line_sent_at_once_overtakes :
    let calls :=
      [.setCaching true, .addValues [.zero], .setCaching false, .addValues [.zero, .zero]]
    let link : ScriptedLink := { inbox := ⟨Utf8.encode "OK\nOK\n".toList, .closed⟩ }
    let client : Client (Recorded ScriptedLink) :=
      ⟨{ link := link }, .zero, defaultPatience, false, []⟩
    let sent := String.join (afterCalls (calls ++ [.update]) client).link.sent
    calls.flatMap ClientCall.lines = ["0", "0,0"] ∧ sent = wireText ["0,0", "0"] ∧
      sent ≠ wireText (calls.flatMap ClientCall.lines) := by
  decide +kernel

end Client

end ChartBoard
