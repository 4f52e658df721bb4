import ChartBoard.Proofs.Protocol.Grammar
import Mathlib.Data.Bool.AllAny

/-!
Lines of points. Between commas and blanks, however many, stand triples of an index and two numbers
with colons between them, and a line is read as points exactly if it has triples and nothing else
(`Command.read_eq_points_iff`). No other form can take such a line, for neither a separator nor a
triple has one of the characters by which the other forms are told (`Command.isData_of_not_mem`).
-/

namespace ChartBoard

open Text

namespace Decimal

/-- The characters of decimals besides the digits. -/
def otherCharacters : List Char := ['+', '-', '.', 'e', 'E']

theorem digitsAnd_sign {sign : List Char} {negative : Bool} (h : SignText sign negative) :
    DigitsAnd otherCharacters sign := by
  cases h <;> decide

theorem digitsAnd_digits {digits : List Char} {n : Nat} (h : DigitText digits n) :
    DigitsAnd otherCharacters digits := by
  cases h with
  | intro _ hall => exact hall.digitsAnd _

theorem MantissaText.digitsAnd {text digits : List Char} {places : Nat}
    (h : MantissaText text digits places) : DigitsAnd otherCharacters text := by
  cases h with
  | whole _ hall => exact hall.digitsAnd _
  | pointed _ hwhole hfraction =>
      exact DigitsAnd.append.mpr ⟨hwhole.digitsAnd _,
        List.forall_mem_cons.mpr ⟨.inr (by decide), hfraction.digitsAnd _⟩⟩

theorem ExponentText.digitsAnd {text : List Char} {power : Int} (h : ExponentText text power) :
    DigitsAnd otherCharacters text := by
  cases h with
  | missing => exact List.forall_mem_nil _
  | marked hmark hsign hdigits =>
      refine List.forall_mem_cons.mpr ⟨.inr ?_,
        DigitsAnd.append.mpr ⟨digitsAnd_sign hsign, digitsAnd_digits hdigits⟩⟩
      rcases hmark with rfl | rfl <;> decide

end Decimal

namespace Command

theorem NumberText.digitsAnd {text : List Char} {x : Binary64} (h : NumberText text x) :
    DigitsAnd Decimal.otherCharacters text := by
  obtain ⟨hsign, ⟨hmantissa, hexponent⟩, -⟩ := h
  exact DigitsAnd.append.mpr ⟨Decimal.digitsAnd_sign hsign,
    DigitsAnd.append.mpr ⟨hmantissa.digitsAnd, hexponent.digitsAnd⟩⟩

theorem IndexText.digitsAnd {text : List Char} {plot : Nat} (h : IndexText text plot) :
    DigitsAnd Decimal.otherCharacters text := by
  cases h.1 with
  | bare hdigits => exact Decimal.digitsAnd_digits hdigits
  | plus hdigits =>
      exact List.forall_mem_cons.mpr ⟨.inr (by decide), Decimal.digitsAnd_digits hdigits⟩

/-- The characters of triples besides the digits. -/
def pointCharacters : List Char := ':' :: Decimal.otherCharacters

theorem PointText.digitsAnd {text : List Char} {point : PlotPoint} (h : PointText text point) :
    DigitsAnd pointCharacters text := by
  obtain ⟨hparts, hplot, hx, hy⟩ := h
  have htext : [':'].intercalate (text.splitOn ':') = text := List.intercalate_splitOn ':'
  rw [← htext, hparts]
  refine DigitsAnd.intercalate List.mem_cons_self ?_
  have hmono {part : List Char} (h : DigitsAnd Decimal.otherCharacters part) :
      DigitsAnd pointCharacters part := h.mono (List.subset_cons_self _ _)
  exact List.forall_mem_cons.mpr ⟨hmono hplot.digitsAnd, List.forall_mem_cons.mpr
    ⟨hmono hx.digitsAnd, List.forall_mem_singleton.mpr (hmono hy.digitsAnd)⟩⟩

section Points

variable {line : List Char} {points : List PlotPoint}
  (hpoints : List.Forall₂ PointText (runs separatesValues line) points)

include hpoints

/-- Outside the triples stand separators only. -/
theorem not_mem_of_points {c : Char}
    (hc : separatesValues c = false ∧ c.isDigit = false ∧ c ∉ pointCharacters) : c ∉ line := by
  intro hmem
  obtain ⟨token, htoken, hin⟩ := exists_mem_tokens hmem hc.1
  rw [tokens_eq] at htoken
  have htriples : ∀ token ∈ runs separatesValues line, DigitsAnd pointCharacters token :=
    forall_mem_of_forall₂ hpoints.flip fun _ _ hpoint => hpoint.digitsAnd
  exact (htriples token htoken).not_mem hc.2.1 hc.2.2 hin

theorem colon_mem_of_points (hsome : points ≠ []) : ':' ∈ line := by
  cases hruns : runs separatesValues line with
  | nil =>
      rw [hruns, List.forall₂_nil_left_iff] at hpoints
      exact absurd hpoints hsome
  | cons token tokens =>
      rw [hruns] at hpoints
      cases hpoints with
      | cons hpoint _ =>
          obtain ⟨hparts, -, -, -⟩ := hpoint
          have htoken : token ∈ Text.tokens separatesValues line := by
            rw [tokens_eq, hruns]
            exact List.mem_cons_self
          exact tokens_subset separatesValues htoken (mem_of_splitOn hparts)

theorem dataText_of_points (hsome : points ≠ []) : DataText line (.points points) :=
  .points (colon_mem_of_points hpoints hsome)
    (not_mem_of_points hpoints (by decide)) hpoints

theorem isData_of_points (hsome : points ≠ []) : IsData line := by
  have htold : ∀ c ∈ formCharacters,
      separatesValues c = false ∧ c.isDigit = false ∧ c ∉ pointCharacters :=
    List.all_iff_forall_prop.mp (by decide)
  exact isData_of_not_mem (List.ne_nil_of_mem (colon_mem_of_points hpoints hsome))
    fun c hc => not_mem_of_points hpoints (htold c hc)

end Points

theorem read_eq_points_iff {line : String} {points : List PlotPoint} :
    read line = .ok (.data (.points points)) ↔
      points ≠ [] ∧ List.Forall₂ PointText (runs separatesValues line.toList) points := by
  have hblank : ∀ c, isBlank c = true → separatesValues c = true := fun c hc => by
    simp [separatesValues, hc]
  have hruns : runs separatesValues (trim line.toList) = runs separatesValues line.toList := by
    rw [← tokens_eq, tokens_trim hblank, tokens_eq]
  rw [← hruns]
  constructor
  · intro h
    have hdata := dataText_of_read h
    refine ⟨points_ne_nil hdata, ?_⟩
    cases hdata with
    | points _ _ hpoints => exact hpoints
  · rintro ⟨hsome, hpoints⟩
    exact read_eq_ok_iff.mpr (.data (isData_of_points hpoints hsome)
      (dataText_of_points hpoints hsome))

end Command

end ChartBoard
