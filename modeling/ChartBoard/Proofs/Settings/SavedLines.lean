import Mathlib.Algebra.Group.Int.Defs
import ChartBoard.Proofs.Text.Literals
import ChartBoard.Proofs.Text.Tokens
import ChartBoard.Settings.SavedState

/-!
What the lines of a saved state say. A line gives a key a text, or it says nothing and is passed
over; which of the two is told without a reader (`SavedState.Gives`). As a later line puts its text
in the place of an earlier one, a key has the value of the text that the last line to give it one
gives, if that is a literal of the key (`SavedState.get?_valuesOf_eq_some_iff`).
-/

namespace ChartBoard.SavedState

open Text

/-- A line that is no comment gives a key a text: the name of the key stands before its first `=` or
`:`, and the text behind it. Blanks around the line, the name and the text do not count. -/
inductive Gives : List Char → Key → List Char → Prop
  | intro {line name rest : List Char} {separator : Char} {key : Key}
      (hcomment : (trim line).head? ≠ some '#' ∧ (trim line).head? ≠ some '!')
      (hline : trim line = name ++ separator :: rest)
      (hseparator : separator = '=' ∨ separator = ':')
      (hfirst : '=' ∉ name ∧ ':' ∉ name)
      (hname : trim name = key.name.toList) : Gives line key (trim rest)

/-- The text that a key is given by the last line to give it one. -/
def LastGiven (text : List Char) (key : Key) (value : List Char) : Prop :=
  ∃ before line after, text.splitOn '\n' = before ++ line :: after ∧ Gives line key value ∧
    ∀ later ∈ after, ∀ other, ¬Gives later key other

/-- The literals of a key: ports from one on, positions of 32 bits with a sign, and sizes of 32 bits
without. -/
def Key.Literal (text : List Char) (n : Int) : Key → Prop
  | basePort => ∃ port : Nat, n = port ∧ WholeText text port ∧ port ≠ 0 ∧ port < 2 ^ 16
  | x | y => IntText text n ∧ -2 ^ 31 ≤ n ∧ n < 2 ^ 31
  | width | height => ∃ size : Nat, n = size ∧ WholeText text size ∧ size < 2 ^ 32

/-- A text sets a key to a number: the last text that it gives the key is a literal of it. -/
def Sets (text : List Char) (key : Key) (n : Int) : Prop :=
  ∃ value, LastGiven text key value ∧ key.Literal value n

section Lines

theorem Key.ofName?_eq_some_iff {name : List Char} {key : Key} :
    ofName? name = some key ↔ name = key.name.toList := by
  constructor
  · intro h
    have hname := List.find?_some (p := fun key : Key => key.name.toList == name) h
    exact (beq_iff_eq.mp hname).symm
  · rintro rfl
    cases key <;> decide

/-- The key of a line and the text it is given. -/
def given? (line : List Char) : Option (Key × List Char) :=
  if isComment (trim line) then none
  else (splitFirst? (fun c => c == '=' || c == ':') (trim line)).bind fun (name, text) =>
    (Key.ofName? (trim name)).map fun key => (key, trim text)

theorem readLine_eq (values : Values) (line : List Char) : readLine values line =
    ((given? line).elim values fun (key, text) => values.put key text) := by
  unfold readLine given?
  dsimp only
  split
  · rfl
  · cases splitFirst? (fun c => c == '=' || c == ':') (trim line) with
    | none => rfl
    | some cut =>
        obtain ⟨name, text⟩ := cut
        dsimp only [Option.bind_some]
        cases Key.ofName? (trim name) <;> rfl

theorem isComment_eq_false_iff {c : Char} {text : List Char} : isComment (c :: text) = false ↔
    (c :: text).head? ≠ some '#' ∧ (c :: text).head? ≠ some '!' := by
  simp [isComment]

theorem given?_eq_some_iff {line : List Char} {key : Key} {text : List Char} :
    given? line = some (key, text) ↔ Gives line key text := by
  constructor
  · intro h
    unfold given? at h
    split at h
    · cases h
    rename_i hcomment
    obtain ⟨⟨name, rest⟩, hsplit, hkey⟩ := Option.bind_eq_some_iff.mp h
    obtain ⟨key, hname, hpair⟩ := Option.map_eq_some_iff.mp hkey
    cases hpair
    obtain ⟨separator, hseparator, hline, hfirst⟩ := splitFirst?_eq_some hsplit
    refine .intro ?_ hline (by simpa using hseparator) ?_ (Key.ofName?_eq_some_iff.mp hname)
    · cases htrim : trim line with
      | nil => simp
      | cons c rest =>
          rw [htrim] at hcomment
          exact isComment_eq_false_iff.mp (Bool.eq_false_iff.mpr hcomment)
    · exact ⟨fun hmem => by simpa using hfirst _ hmem, fun hmem => by simpa using hfirst _ hmem⟩
  · intro h
    cases h with
    | @intro name rest separator _ hcomment hline hseparator hfirst hname =>
        have hfree : Free (fun c => c == '=' || c == ':') name := fun c hc => by
          have hequals : c ≠ '=' := fun heq => hfirst.1 (heq ▸ hc)
          have hcolon : c ≠ ':' := fun heq => hfirst.2 (heq ▸ hc)
          simp [hequals, hcolon]
        have hno : isComment (trim line) = false := by
          cases htrim : trim line with
          | nil =>
              rw [htrim] at hline
              simp at hline
          | cons c rest => exact isComment_eq_false_iff.mpr (htrim ▸ hcomment)
        rw [given?, hno, hline, splitFirst?_append hfree (by simpa using hseparator)]
        simp [Key.ofName?_eq_some_iff.mpr hname]

/-- A line that gives no key a text changes nothing. -/
theorem readLine_of_gives_nothing {line : List Char} (h : ∀ key text, ¬Gives line key text)
    (values : Values) : readLine values line = values := by
  have hnone : given? line = none :=
    Option.eq_none_iff_forall_not_mem.mpr fun (key, text) hmem =>
      h key text (given?_eq_some_iff.mp hmem)
  rw [readLine_eq, hnone]
  rfl

/-- The text that a line gives a key. -/
def givenTo? (key : Key) (line : List Char) : Option (List Char) :=
  (given? line).bind fun (other, text) => if other = key then some text else none

theorem givenTo?_eq_some_iff {key : Key} {line text : List Char} :
    givenTo? key line = some text ↔ Gives line key text := by
  rw [← given?_eq_some_iff]
  unfold givenTo?
  constructor
  · intro h
    obtain ⟨⟨other, given⟩, hgiven, hother⟩ := Option.bind_eq_some_iff.mp h
    obtain ⟨rfl, hsame⟩ := Option.ite_none_right_eq_some.mp hother
    rw [hgiven, Option.some.inj hsame]
  · intro h
    simp [h]

end Lines

section Values

/-- The number that a key has. -/
def Values.get? (key : Key) (values : Values) : Option Int :=
  match key with
  | .basePort => values.basePort.map fun port => (port.toNat : Int)
  | .x => values.x.map Int32.toInt
  | .y => values.y.map Int32.toInt
  | .width => values.width.map fun size => (size.toNat : Int)
  | .height => values.height.map fun size => (size.toNat : Int)

/-- The number that a text is to a key. -/
def Key.number? (key : Key) (text : List Char) : Option Int :=
  (({} : Values).put key text).get? key

theorem get?_put (key given : Key) (text : List Char) (values : Values) :
    (values.put given text).get? key =
      if given = key then key.number? text else values.get? key := by
  cases given <;> cases key <;> rfl

section Literals

variable {text : List Char} {n : Int}

theorem port_eq_some_iff : ((readPort? text).map fun port => (port.toNat : Int)) = some n ↔
    ∃ port : Nat, n = port ∧ WholeText text port ∧ port ≠ 0 ∧ port < 2 ^ 16 := by
  have hread {m : Nat} : readNat? word16 text = some m ↔ WholeText text m ∧ m < 2 ^ 16 :=
    readNat?_eq_some_iff
  simp only [readPort?, Option.map_map, Option.map_eq_some_iff, Option.filter_eq_some_iff, hread,
    Function.comp_apply, bne_iff_ne]
  refine exists_congr fun port => ?_
  constructor
  · rintro ⟨⟨⟨htext, hfits⟩, hne⟩, rfl⟩
    exact ⟨by rw [UInt16.toNat_ofNat_of_lt' hfits], htext, hne, hfits⟩
  · rintro ⟨rfl, htext, hne, hfits⟩
    exact ⟨⟨⟨htext, hfits⟩, hne⟩, by rw [UInt16.toNat_ofNat_of_lt' hfits]⟩

theorem position_eq_some_iff : (readPosition? text).map Int32.toInt = some n ↔
    IntText text n ∧ -2 ^ 31 ≤ n ∧ n < 2 ^ 31 := by
  have hread {m : Int} : readInt? (1 <<< 31) text = some m ↔
      IntText text m ∧ -2 ^ 31 ≤ m ∧ m < 2 ^ 31 := readInt?_eq_some_iff (by decide)
  simp only [readPosition?, Option.map_map, Option.map_eq_some_iff, hread, Function.comp_apply]
  constructor
  · rintro ⟨m, ⟨htext, hleast, hmost⟩, rfl⟩
    rw [Int32.toInt_ofInt_of_le hleast hmost]
    exact ⟨htext, hleast, hmost⟩
  · rintro ⟨htext, hleast, hmost⟩
    exact ⟨n, ⟨htext, hleast, hmost⟩, Int32.toInt_ofInt_of_le hleast hmost⟩

theorem size_eq_some_iff : ((readSize? text).map fun size => (size.toNat : Int)) = some n ↔
    ∃ size : Nat, n = size ∧ WholeText text size ∧ size < 2 ^ 32 := by
  have hread {m : Nat} : readNat? word32 text = some m ↔ WholeText text m ∧ m < 2 ^ 32 :=
    readNat?_eq_some_iff
  simp only [readSize?, Option.map_map, Option.map_eq_some_iff, hread, Function.comp_apply]
  refine exists_congr fun size => ?_
  constructor
  · rintro ⟨⟨htext, hfits⟩, rfl⟩
    exact ⟨by rw [UInt32.toNat_ofNat_of_lt' hfits], htext, hfits⟩
  · rintro ⟨rfl, htext, hfits⟩
    exact ⟨⟨htext, hfits⟩, by rw [UInt32.toNat_ofNat_of_lt' hfits]⟩

/-- A text is a number to a key exactly if it is a literal of it. -/
theorem number?_eq_some_iff {key : Key} : key.number? text = some n ↔ key.Literal text n := by
  cases key with
  | basePort => exact port_eq_some_iff
  | x | y => exact position_eq_some_iff
  | width | height => exact size_eq_some_iff

end Literals

/-- The values of the lines of a text. -/
def valuesOf (text : List Char) : Values := (text.splitOn '\n').foldl readLine {}

theorem read_eq (text : List Char) : read text = ofValues (valuesOf text) := by
  rw [read, split_eq_splitOn, valuesOf]

/-- A key has the number of the text that the last line to give it one gives. -/
theorem get?_foldl_readLine (key : Key) (lines : List (List Char)) :
    (lines.foldl readLine {}).get? key =
      (lines.reverse.findSome? (givenTo? key)).bind key.number? := by
  induction lines using List.reverseRecOn with
  | nil => cases key <;> rfl
  | append_singleton lines line ih =>
      rw [List.foldl_concat, List.reverse_concat, List.findSome?_cons, readLine_eq]
      cases hgiven : given? line with
      | none => simpa [givenTo?, hgiven] using ih
      | some pair =>
          obtain ⟨given, text⟩ := pair
          simp only [Option.elim_some, get?_put, givenTo?, hgiven, Option.bind_some]
          by_cases hkey : given = key
          · simp [hkey]
          · simpa [hkey] using ih

theorem findSome?_reverse_eq_some_iff {lines : List (List Char)} {key : Key} {value : List Char} :
    lines.reverse.findSome? (givenTo? key) = some value ↔
      ∃ before line after, lines = before ++ line :: after ∧ Gives line key value ∧
        ∀ later ∈ after, ∀ other, ¬Gives later key other := by
  have hnone {line : List Char} : givenTo? key line = none ↔ ∀ other, ¬Gives line key other := by
    simp only [Option.eq_none_iff_forall_ne_some, ne_eq, givenTo?_eq_some_iff]
  rw [List.findSome?_eq_some_iff]
  simp only [givenTo?_eq_some_iff, hnone]
  constructor
  · rintro ⟨after, line, before, hlines, hgives, hlater⟩
    refine ⟨before.reverse, line, after.reverse, ?_, hgives, fun later hmem => ?_⟩
    · rw [List.reverse_eq_iff.mp hlines]
      simp
    · exact hlater later (List.mem_reverse.mp hmem)
  · rintro ⟨before, line, after, rfl, hgives, hlater⟩
    exact ⟨after.reverse, line, before.reverse, by simp, hgives,
      fun later hmem => hlater later (List.mem_reverse.mp hmem)⟩

theorem get?_valuesOf_eq_some_iff {text : List Char} {key : Key} {n : Int} :
    (valuesOf text).get? key = some n ↔ Sets text key n := by
  rw [valuesOf, get?_foldl_readLine, Option.bind_eq_some_iff]
  simp only [findSome?_reverse_eq_some_iff, number?_eq_some_iff]
  rfl

end Values

end ChartBoard.SavedState
