import ChartBoard.Text.Blank
import Mathlib.Data.List.Basic
import Mathlib.Data.List.Induction

/-!
Texts put together with separators and cut again. Pieces without a separator in them come
back out of a cut just as they went in; a text that neither begins nor ends with a blank is
not trimmed. Pieces that are written one by one and read one by one are read as what was
written, and if one of them cannot be read, all are refused.
-/

namespace ChartBoard.Text

/-- A text without the characters that separate. -/
def Free (separates : Char → Bool) (text : List Char) : Prop := ∀ c ∈ text, separates c = false

instance (separates : Char → Bool) (text : List Char) : Decidable (Free separates text) :=
  List.decidableBAll _ text

section Split

variable {separates : Char → Bool}

theorem Free.cons {c : Char} {text : List Char} :
    Free separates (c :: text) ↔ separates c = false ∧ Free separates text :=
  List.forall_mem_cons

theorem split_free {piece : List Char} (h : Free separates piece) :
    split separates piece = [piece] := by
  induction piece with
  | nil => rfl
  | cons c piece ih =>
      obtain ⟨hc, hpiece⟩ := Free.cons.mp h
      rw [split, if_neg (by simp [hc]), ih hpiece]

theorem split_append {piece : List Char} (h : Free separates piece) {separator : Char}
    (hseparator : separates separator = true) (text : List Char) :
    split separates (piece ++ separator :: text) = piece :: split separates text := by
  induction piece with
  | nil => rw [List.nil_append, split, if_pos hseparator]
  | cons c piece ih =>
      obtain ⟨hc, hpiece⟩ := Free.cons.mp h
      rw [List.cons_append, split, if_neg (by simp [hc]), ih hpiece]

/-- Pieces without separators, put together with one, are cut into the same pieces. -/
theorem split_intercalate {separator : Char} (hseparator : separates separator = true)
    {pieces : List (List Char)} (hne : pieces ≠ []) (h : ∀ piece ∈ pieces, Free separates piece) :
    split separates ([separator].intercalate pieces) = pieces := by
  induction pieces with
  | nil => exact absurd rfl hne
  | cons piece pieces ih =>
      have hpiece : Free separates piece := h piece List.mem_cons_self
      cases pieces with
      | nil => exact (congrArg _ (List.intercalate_singleton)).trans (split_free hpiece)
      | cons second pieces =>
          have hlater := ih (List.cons_ne_nil _ _) fun later hlater =>
            h later (List.mem_cons_of_mem piece hlater)
          rw [List.intercalate_cons_cons, List.append_assoc, List.singleton_append,
            split_append hpiece hseparator, hlater]

theorem tokens_of_split {text : List Char} {pieces : List (List Char)}
    (hsplit : split separates text = pieces) (hne : [] ∉ pieces) :
    tokens separates text = pieces := by
  rw [tokens, hsplit, List.filter_eq_self]
  intro piece hpiece
  have hpiece' : piece ≠ [] := fun hnil => hne (hnil ▸ hpiece)
  simpa using hpiece'

theorem exists_mem_split {text : List Char} {c : Char} (hmem : c ∈ text)
    (hc : separates c = false) :
    ∃ piece ∈ split separates text, c ∈ piece := by
  induction text with
  | nil => cases hmem
  | cons d text ih =>
      unfold split
      rcases List.mem_cons.mp hmem with rfl | hlater
      · rw [if_neg (by simp [hc])]
        split <;> simp
      · obtain ⟨piece, hpiece, hin⟩ := ih hlater
        split
        · exact ⟨piece, List.mem_cons_of_mem _ hpiece, hin⟩
        · cases hpieces : split separates text with
          | nil =>
              rw [hpieces] at hpiece
              cases hpiece
          | cons first pieces =>
              rw [hpieces] at hpiece
              rcases List.mem_cons.mp hpiece with rfl | hother
              · exact ⟨d :: piece, List.mem_cons_self, List.mem_cons_of_mem d hin⟩
              · exact ⟨piece, List.mem_cons_of_mem _ hother, hin⟩

/-- What is no separator stands in a token. -/
theorem exists_mem_tokens {text : List Char} {c : Char} (hmem : c ∈ text)
    (hc : separates c = false) : ∃ token ∈ tokens separates text, c ∈ token := by
  obtain ⟨piece, hpiece, hin⟩ := exists_mem_split hmem hc
  refine ⟨piece, List.mem_filter.mpr ⟨hpiece, ?_⟩, hin⟩
  simpa using List.ne_nil_of_mem hin

theorem splitFirst?_append {before : List Char} (h : Free separates before) {separator : Char}
    (hseparator : separates separator = true) (after : List Char) :
    splitFirst? separates (before ++ separator :: after) = some (before, after) := by
  induction before with
  | nil => rw [List.nil_append, splitFirst?, if_pos hseparator]
  | cons c before ih =>
      obtain ⟨hc, hbefore⟩ := Free.cons.mp h
      rw [List.cons_append, splitFirst?, if_neg (by simp [hc]), ih hbefore]
      rfl

end Split

section Trim

theorem trimStart_cons {c : Char} (h : isBlank c = false) (text : List Char) :
    trimStart (c :: text) = c :: text := by
  rw [trimStart, List.dropWhile_cons_of_neg (by simp [h])]

theorem trimEnd_concat (text : List Char) {c : Char} (h : isBlank c = false) :
    trimEnd (text ++ [c]) = text ++ [c] := by
  rw [trimEnd, List.reverse_concat, List.dropWhile_cons_of_neg (by simp [h]), ← List.reverse_concat,
    List.reverse_reverse]

theorem trimEnd_blank (text : List Char) {c : Char} (h : isBlank c = true) :
    trimEnd (text ++ [c]) = trimEnd text := by
  rw [trimEnd, List.reverse_concat, List.dropWhile_cons_of_pos h, trimEnd]

theorem trimEnd_eq_self {text : List Char} (hlast : ∀ c ∈ text.getLast?, isBlank c = false) :
    trimEnd text = text := by
  rcases List.eq_nil_or_concat' text with rfl | ⟨before, last, rfl⟩
  · rfl
  · exact trimEnd_concat before (hlast last (by simp))

theorem trimEnd_free {text : List Char} (h : Free isBlank text) : trimEnd text = text :=
  trimEnd_eq_self fun c hc => h c (List.mem_of_mem_getLast? hc)

/-- Trimming the end of a text stops at the last character that is not blank. -/
theorem trimEnd_append_cons (before : List Char) {c : Char} (h : isBlank c = false)
    (after : List Char) :
    trimEnd (before ++ c :: after) = before ++ c :: trimEnd after := by
  induction after using List.reverseRecOn with
  | nil => exact trimEnd_concat before h
  | append_singleton after d ih =>
      have hsplit (later : List Char) :
          before ++ c :: (later ++ [d]) = before ++ c :: later ++ [d] := by
        simp
      cases hd : isBlank d with
      | true => rw [hsplit, trimEnd_blank _ hd, ih, trimEnd_blank _ hd]
      | false => rw [hsplit, trimEnd_concat _ hd, trimEnd_concat _ hd, hsplit]

/-- A text without blanks at its ends is not changed by trimming. -/
theorem trim_eq_self {text : List Char} (hfirst : ∀ c ∈ text.head?, isBlank c = false)
    (hlast : ∀ c ∈ text.getLast?, isBlank c = false) : trim text = text := by
  have hstart : trimStart text = text := by
    cases text with
    | nil => rfl
    | cons c text => exact trimStart_cons (hfirst c rfl) text
  rw [trim, hstart, trimEnd_eq_self hlast]

theorem trim_free {text : List Char} (h : Free isBlank text) : trim text = text :=
  trim_eq_self (fun c hc => h c (List.mem_of_mem_head? hc))
    fun c hc => h c (List.mem_of_mem_getLast? hc)

theorem trim_blank (text : List Char) {c : Char} (h : isBlank c = true) :
    trim (text ++ [c]) = trim text := by
  rw [trim, trimStart, List.dropWhile_append]
  split
  · rename_i hempty
    rw [trim, trimStart, List.isEmpty_iff.mp hempty, List.dropWhile_cons_of_pos h,
      List.dropWhile_nil]
  · exact trimEnd_blank _ h

/-- Blanks that have been dropped behind a text make no difference to what is left by trimming. -/
theorem trim_dropWhile_reverse {drops : Char → Bool}
    (hdrops : ∀ c, drops c = true → isBlank c = true)
    (text : List Char) : trim (text.reverse.dropWhile drops).reverse = trim text := by
  induction text using List.reverseRecOn with
  | nil => rfl
  | append_singleton text c ih =>
      rw [List.reverse_concat, List.dropWhile_cons]
      split
      · rename_i hc
        rw [ih, trim_blank text (hdrops c hc)]
      · rw [← List.reverse_concat, List.reverse_reverse]

end Trim

section Pieces

variable {ε α β : Type} {read : β → Except ε α}

theorem mapM_map_ok {write : α → β} {xs : List α} (h : ∀ x ∈ xs, read (write x) = .ok x) :
    (xs.map write).mapM read = .ok xs := by
  induction xs with
  | nil => rfl
  | cons x xs ih =>
      rw [List.map_cons, List.mapM_cons, h x List.mem_cons_self,
        ih fun y hy => h y (List.mem_cons_of_mem x hy)]
      rfl

theorem mapM_error {pieces : List β} (h : ∃ piece ∈ pieces, ∃ fault, read piece = .error fault) :
    ∃ fault, pieces.mapM read = .error fault := by
  induction pieces with
  | nil =>
      obtain ⟨_, hmem, -⟩ := h
      cases hmem
  | cons first pieces ih =>
      rw [List.mapM_cons]
      cases hfirst : read first with
      | error fault => exact ⟨fault, rfl⟩
      | ok x =>
          obtain ⟨piece, hmem, fault, hfault⟩ := h
          rcases List.mem_cons.mp hmem with rfl | hlater
          · rw [hfirst] at hfault
            cases hfault
          · obtain ⟨later, hlater⟩ := ih ⟨piece, hlater, fault, hfault⟩
            exact ⟨later, by rw [hlater]; rfl⟩

end Pieces

end ChartBoard.Text
