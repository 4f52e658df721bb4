import ChartBoard.Proofs.Calendar.TimestampGrammar
import ChartBoard.Proofs.Number.DecimalText
import ChartBoard.Proofs.Number.Overflow
import ChartBoard.Protocol.Command

/-!
The grammar of the lines of values. Without a colon a line is a list of finite numbers; with a
colon and no semicolon a list of triples; with both one value at a timestamp. A line is read as
values exactly if the grammar gives them (`Command.readData_eq_ok_iff`).
-/

namespace ChartBoard

open Text

namespace Command

/-- A decimal with a sign that may be missing, below the threshold of the infinite numbers; its
value is the nearest 64-bit number. -/
inductive NumberText : List Char → Binary64 → Prop
  | intro {sign body : List Char} {negative : Bool} {d : Decimal} (hsign : SignText sign negative)
      (hbody : Decimal.Written body d) (hfinite : d.ratio.1 < Binary64.overflow * d.ratio.2) :
      NumberText (sign ++ body) (Binary64.ofRatio negative d.ratio.1 d.ratio.2)

/-- The index of a plot is a 64-bit word. -/
def IndexText (text : List Char) (plot : Nat) : Prop := WholeText text plot ∧ plot < 2 ^ 64

/-- An index and two numbers with colons between them. -/
inductive PointText (text : List Char) (point : PlotPoint) : Prop
  | intro {plot x y : List Char} (hparts : text.splitOn ':' = [plot, x, y])
      (hplot : IndexText plot point.plot) (hx : NumberText x point.x) (hy : NumberText y point.y)

/-- The lines of values and what they carry. -/
inductive DataText (line : List Char) : DataLine → Prop
  | sequential {values : List Binary64} (hcolon : ':' ∉ line)
      (hvalues : List.Forall₂ NumberText (runs separatesValues line) values) :
      DataText line (.sequential values)
  | points {points : List PlotPoint} (hcolon : ':' ∈ line) (hsemicolon : ';' ∉ line)
      (hpoints : List.Forall₂ PointText (runs separatesValues line) points) :
      DataText line (.points points)
  | timed {plot time number : List Char} {index : Nat} {t : Timestamp} {y : Binary64}
      (hsemicolon : ';' ∈ line) (hparts : line.splitOn ':' = [plot, time, number])
      (hplot : IndexText (trim plot) index) (htime : Timestamp.Written (trim time) t)
      (hy : NumberText (trim number) y) : DataText line (.timed index t y)

theorem startsNumber_of_decimal {sign body : List Char} {negative : Bool}
    (hsign : SignText sign negative) (hbody : ∃ c ∈ body.head?, c.isDigit = true ∨ c = '.') :
    startsNumber (sign ++ body) = true := by
  cases hsign with
  | plus | minus => rfl
  | missing =>
      obtain ⟨c, hhead, hc⟩ := hbody
      obtain ⟨text, rfl⟩ := List.head?_eq_some_iff.mp hhead
      rcases hc with hc | rfl
      · simp [startsNumber, hc]
      · rfl

theorem readNumber_eq_ok_iff {word : List Char} {x : Binary64} :
    readNumber word = .ok x ↔ NumberText word x := by
  constructor
  · intro h
    unfold readNumber at h
    split at h
    · rename_i number hread
      split at h
      · rename_i hnumber
        cases h
        obtain ⟨-, hfinite⟩ := Bool.and_eq_true_iff.mp hnumber
        obtain ⟨sign, body, negative, d, rfl, hsign, hbody, rfl⟩ :=
          Binary64.exists_decimal hread hfinite
        rw [Decimal.isFinite_toBinary64] at hfinite
        rw [Decimal.toBinary64_eq_ofRatio]
        exact .intro hsign (Decimal.read?_eq_some_iff.mp hbody) hfinite
      · cases h
    · cases h
  · rintro ⟨hsign, hbody, hfinite⟩
    rw [readNumber, Binary64.read?_decimal hsign hbody.head, Decimal.read?_eq_some_iff.mpr hbody,
      ← Decimal.toBinary64_eq_ofRatio]
    simp [startsNumber_of_decimal hsign hbody.head, (Decimal.isFinite_toBinary64 _ _).mpr hfinite]

theorem readIndex_eq_ok_iff {word : List Char} {plot : Nat} :
    readIndex word = .ok plot ↔ IndexText word plot := by
  unfold IndexText
  rw [show (2 ^ 64 : Nat) = word64 from rfl, ← readNat?_eq_some_iff]
  unfold readIndex
  cases readNat? word64 word with
  | none => simp
  | some index => simp

theorem readPoint_eq_ok_iff {word : List Char} {point : PlotPoint} :
    readPoint word = .ok point ↔ PointText word point := by
  unfold readPoint
  rw [split_eq_splitOn]
  constructor
  · intro h
    split at h
    · rename_i plot x y hparts
      simp only [bind_eq_ok_iff, pure_eq_ok_iff, readIndex_eq_ok_iff, readNumber_eq_ok_iff] at h
      obtain ⟨index, hplot, first, hx, second, hy, rfl⟩ := h
      exact .intro hparts hplot hx hy
    · cases h
  · rintro ⟨hparts, hplot, hx, hy⟩
    rw [hparts]
    simp only [bind_eq_ok_iff, pure_eq_ok_iff, readIndex_eq_ok_iff, readNumber_eq_ok_iff]
    exact ⟨_, hplot, _, hx, _, hy, rfl⟩

theorem readTimed_eq_ok_iff {line : List Char} {data : DataLine} :
    readTimed line = .ok data ↔
    ∃ plot time number index t y, line.splitOn ':' = [plot, time, number] ∧
      IndexText (trim plot) index ∧ Timestamp.Written (trim time) t ∧
      NumberText (trim number) y ∧ data = .timed index t y := by
  unfold readTimed
  rw [split_eq_splitOn]
  constructor
  · intro h
    split at h
    · rename_i plot time number hparts
      split at h
      · cases h
      · rename_i t htime
        simp only [bind_eq_ok_iff, pure_eq_ok_iff, readIndex_eq_ok_iff, readNumber_eq_ok_iff] at h
        obtain ⟨index, hplot, y, hy, rfl⟩ := h
        exact ⟨_, _, _, _, _, _, hparts, hplot, Timestamp.read_eq_ok_iff.mp htime, hy, rfl⟩
    · cases h
  · rintro ⟨plot, time, number, index, t, y, hparts, hplot, htime, hy, rfl⟩
    simp only [hparts, Timestamp.read_eq_ok_iff.mpr htime, bind_eq_ok_iff, pure_eq_ok_iff,
      readIndex_eq_ok_iff, readNumber_eq_ok_iff]
    exact ⟨_, hplot, _, hy, rfl⟩

/-- A text of three parts holds what they are cut at. -/
theorem mem_of_splitOn {text : List Char} {separator : Char} {first second : List Char}
    {later : List (List Char)} (h : text.splitOn separator = first :: second :: later) :
    separator ∈ text := by
  by_contra hnone
  rw [List.splitOn_eq_singleton hnone] at h
  cases h

theorem readData_eq_ok_iff {line : List Char} {data : DataLine} :
    readData line = .ok data ↔ DataText line data := by
  unfold readData
  simp only [Bool.not_eq_true', ← Bool.not_eq_true, List.contains_iff_mem, tokens_eq,
    Timestamp.separator]
  constructor
  · intro h
    split at h
    · rename_i hcolon
      simp only [bind_eq_ok_iff, pure_eq_ok_iff, mapM_eq_ok_iff, readNumber_eq_ok_iff] at h
      obtain ⟨values, hvalues, rfl⟩ := h
      exact .sequential hcolon hvalues
    · rename_i hcolon
      split at h
      · rename_i hsemicolon
        obtain ⟨plot, time, number, index, t, y, hparts, hplot, htime, hy, rfl⟩ :=
          readTimed_eq_ok_iff.mp h
        exact .timed hsemicolon hparts hplot htime hy
      · rename_i hsemicolon
        simp only [bind_eq_ok_iff, pure_eq_ok_iff, mapM_eq_ok_iff, readPoint_eq_ok_iff] at h
        obtain ⟨points, hpoints, rfl⟩ := h
        exact .points (not_not.mp hcolon) hsemicolon hpoints
  · intro h
    cases h with
    | sequential hcolon hvalues =>
        rw [if_pos hcolon]
        simp only [bind_eq_ok_iff, pure_eq_ok_iff, mapM_eq_ok_iff, readNumber_eq_ok_iff]
        exact ⟨_, hvalues, rfl⟩
    | points hcolon hsemicolon hpoints =>
        rw [if_neg (not_not.mpr hcolon), if_neg hsemicolon]
        simp only [bind_eq_ok_iff, pure_eq_ok_iff, mapM_eq_ok_iff, readPoint_eq_ok_iff]
        exact ⟨_, hpoints, rfl⟩
    | timed hsemicolon hparts hplot htime hy =>
        rw [if_neg (not_not.mpr (mem_of_splitOn hparts)), if_pos hsemicolon]
        exact readTimed_eq_ok_iff.mpr ⟨_, _, _, _, _, _, hparts, hplot, htime, hy, rfl⟩

section Degenerate

variable {line : List Char}

/-- A line with a colon has a point, for a colon separates no values. -/
theorem points_ne_nil {points : List PlotPoint} (h : DataText line (.points points)) :
    points ≠ [] := by
  cases h with
  | points hcolon _ hpoints =>
      rintro rfl
      rw [List.forall₂_nil_right_iff, ← tokens_eq, tokens_eq_nil_iff] at hpoints
      exact absurd (hpoints ':' hcolon) (by decide)

/-- A line without any value is made of separators. -/
theorem sequential_nil_iff {data : DataLine} (h : DataText line data) :
    data = .sequential [] ↔ ∀ c ∈ line, separatesValues c = true := by
  rw [← tokens_eq_nil_iff, tokens_eq]
  constructor
  · rintro rfl
    cases h with
    | sequential _ hvalues => exact List.forall₂_nil_right_iff.mp hvalues
  · intro hempty
    have hall := tokens_eq_nil_iff.mp ((tokens_eq line).trans hempty)
    have hcolon : ':' ∉ line := fun hmem => absurd (hall ':' hmem) (by decide)
    cases h with
    | sequential _ hvalues =>
        rw [hempty, List.forall₂_nil_left_iff] at hvalues
        rw [hvalues]
    | points hmem => exact absurd hmem hcolon
    | timed _ hparts => exact absurd (mem_of_splitOn hparts) hcolon

end Degenerate

end Command

end ChartBoard
