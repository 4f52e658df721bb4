import ChartBoard.Number.Decimal
import ChartBoard.Proofs.Text.Literals

/-!
The texts of decimals, told without a reader: digits with at most one point among them, and
behind them an exponent or nothing. There is at least one digit, before or after the point, and
at least one behind the mark of an exponent. Exactly these texts are read as decimals
(`Decimal.read?_eq_some_iff`). The other texts of numbers are words, and none of them begins
as a decimal does (`Binary64.read?_decimal`).
-/

namespace ChartBoard

open Text

/-- A sign that may be missing, and whether it is a minus. -/
inductive SignText : List Char → Bool → Prop
  | missing : SignText [] false
  | plus : SignText ['+'] false
  | minus : SignText ['-'] true

theorem exists_sign (text : List Char) :
    ∃ sign, SignText sign (readSign text).1 ∧ text = sign ++ (readSign text).2 := by
  unfold readSign
  split
  · exact ⟨['-'], .minus, rfl⟩
  · exact ⟨['+'], .plus, rfl⟩
  · exact ⟨[], .missing, rfl⟩

/-- What does not begin with a sign itself comes back behind one. -/
theorem readSign_append {sign body : List Char} {negative : Bool} (h : SignText sign negative)
    (hbody : ∀ c ∈ body.head?, c ≠ '-' ∧ c ≠ '+') : readSign (sign ++ body) = (negative, body) := by
  cases h with
  | plus | minus => rfl
  | missing =>
      cases body with
      | nil => rfl
      | cons c text =>
          obtain ⟨hminus, hplus⟩ := hbody c rfl
          simp [readSign, hminus, hplus]

namespace Decimal

/-- Digits with at most one point among them: the digits in their order, and how many of them
stand behind the point. -/
inductive MantissaText : List Char → List Char → Nat → Prop
  | whole {digits : List Char} (hne : digits ≠ []) (h : AllDigits digits) :
      MantissaText digits digits 0
  | pointed {whole fraction : List Char} (hne : whole ++ fraction ≠ [])
      (hwhole : AllDigits whole) (hfraction : AllDigits fraction) :
      MantissaText (whole ++ '.' :: fraction) (whole ++ fraction) fraction.length

/-- A power of ten behind its mark, or nothing. -/
inductive ExponentText : List Char → Int → Prop
  | missing : ExponentText [] 0
  | marked {mark : Char} {sign digits : List Char} {negative : Bool} {n : Nat}
      (hmark : mark = 'e' ∨ mark = 'E') (hsign : SignText sign negative)
      (hdigits : DigitText digits n) :
      ExponentText (mark :: (sign ++ digits)) (if negative then -(n : Int) else n)

/-- The text of a decimal. -/
inductive Written : List Char → Decimal → Prop
  | intro {mantissa digits exponent : List Char} {places : Nat} {power : Int}
      (hmantissa : MantissaText mantissa digits places) (hexponent : ExponentText exponent power) :
      Written (mantissa ++ exponent) ⟨Nat.ofDigitChars 10 digits 0, power - places⟩

section Digits

/-- A text that begins with no digit. -/
def NoDigitFirst (text : List Char) : Prop := ∀ c ∈ text.head?, c.isDigit = false

theorem span_digits {digits rest : List Char} (h : AllDigits digits) (hrest : NoDigitFirst rest) :
    (digits ++ rest).takeWhile Char.isDigit = digits ∧
      (digits ++ rest).dropWhile Char.isDigit = rest := by
  rw [List.takeWhile_append_of_pos h, List.dropWhile_append_of_pos h]
  cases rest with
  | nil => simp
  | cons c rest =>
      have hc : c.isDigit = false := hrest c rfl
      simp [hc]

theorem exists_digits (text : List Char) :
    ∃ digits rest, text = digits ++ rest ∧ AllDigits digits ∧ NoDigitFirst rest := by
  refine ⟨_, _, List.takeWhile_append_dropWhile.symm, List.all_eq_true.mp List.all_takeWhile, ?_⟩
  intro c hc
  have hfirst := List.head?_dropWhile_not Char.isDigit text
  rw [Option.mem_def.mp hc] at hfirst
  simpa using hfirst

end Digits

theorem readExponent?_eq (text : List Char) :
    readExponent? text = (digits? (readSign text).2).map fun n : Nat =>
      if (readSign text).1 then -(n : Int) else n := by
  rw [readExponent?]
  dsimp only
  cases digits? (readSign text).2 <;> rfl

theorem readExponent?_eq_some_iff {text : List Char} {power : Int} :
    readExponent? text = some power ↔ ∃ sign digits negative n, text = sign ++ digits ∧
      SignText sign negative ∧ DigitText digits n ∧
      power = if negative then -(n : Int) else n := by
  constructor
  · intro h
    obtain ⟨sign, hsign, htext⟩ := exists_sign text
    simp only [readExponent?_eq, Option.map_eq_some_iff, digits?_eq_some_iff] at h
    obtain ⟨n, hdigits, hpower⟩ := h
    exact ⟨sign, _, _, n, htext, hsign, hdigits, hpower.symm⟩
  · rintro ⟨sign, digits, negative, n, rfl, hsign, hdigits, rfl⟩
    have hbody : ∀ c ∈ digits.head?, c ≠ '-' ∧ c ≠ '+' := by
      intro c hc
      obtain ⟨later, rfl⟩ := List.head?_eq_some_iff.mp hc
      have hdigit := hdigits.head_isDigit
      exact ⟨ne_of_isDigit hdigit (by decide), ne_of_isDigit hdigit (by decide)⟩
    rw [readExponent?_eq, readSign_append hsign hbody]
    simp [digits?_eq_some_iff.mpr hdigits]

/-- What is made of a mantissa and the text behind it. -/
def behindMantissa (digits : List Char) (places : Nat) : List Char → Option Decimal
  | [] => some ⟨ofDigits digits, -(places : Int)⟩
  | mark :: exponent =>
      if mark == 'e' || mark == 'E' then
        (readExponent? exponent).map fun power => ⟨ofDigits digits, power - places⟩
      else
        none

theorem behindMantissa_eq_some_iff {digits rest : List Char} {places : Nat} {d : Decimal} :
    behindMantissa digits places rest = some d ↔ ∃ power, ExponentText rest power ∧
      d = ⟨Nat.ofDigitChars 10 digits 0, power - places⟩ := by
  rw [← ofDigits_eq]
  cases rest with
  | nil =>
      constructor
      · intro h
        exact ⟨0, .missing, by rw [Int.zero_sub]; exact (Option.some.inj h).symm⟩
      · rintro ⟨power, hexponent, rfl⟩
        cases hexponent
        rw [Int.zero_sub]
        rfl
  | cons mark exponent =>
      constructor
      · intro h
        rw [behindMantissa] at h
        split at h
        · rename_i hmark
          obtain ⟨power, hpower, hd⟩ := Option.map_eq_some_iff.mp h
          obtain ⟨sign, later, negative, n, rfl, hsign, hlater, rfl⟩ :=
            readExponent?_eq_some_iff.mp hpower
          exact ⟨_, .marked (by simpa using hmark) hsign hlater, hd.symm⟩
        · cases h
      · rintro ⟨power, hexponent, rfl⟩
        cases hexponent with
        | marked hmark hsign hlater =>
            have hpower := readExponent?_eq_some_iff.mpr ⟨_, _, _, _, rfl, hsign, hlater, rfl⟩
            rw [behindMantissa, if_pos (by simpa using hmark), hpower]
            rfl

/-- Digits with no point behind them. -/
theorem read?_whole {digits rest : List Char} (hne : digits ≠ []) (h : AllDigits digits)
    (hrest : NoDigitFirst rest) (hpoint : rest.head? ≠ some '.') :
    read? (digits ++ rest) = behindMantissa digits 0 rest := by
  obtain ⟨htake, hdrop⟩ := span_digits h hrest
  unfold read?
  rw [htake, hdrop]
  cases rest with
  | nil => simp [hne, behindMantissa]
  | cons c rest =>
      have hc : c ≠ '.' := fun heq => hpoint (congrArg some heq)
      simp [hne, hc, behindMantissa]

/-- Digits with a point among them. -/
theorem read?_pointed_append {whole fraction rest : List Char} (hne : whole ++ fraction ≠ [])
    (hwhole : AllDigits whole) (hfraction : AllDigits fraction) (hrest : NoDigitFirst rest) :
    read? (whole ++ '.' :: (fraction ++ rest)) =
      behindMantissa (whole ++ fraction) fraction.length rest := by
  have hpoint : NoDigitFirst ('.' :: (fraction ++ rest)) := by
    rintro c ⟨⟩
    decide
  obtain ⟨htake, hdrop⟩ := span_digits hwhole hpoint
  obtain ⟨htake', hdrop'⟩ := span_digits hfraction hrest
  have hsome : (whole.isEmpty && fraction.isEmpty) = false := by simpa using hne
  simp only [read?, htake, hdrop, htake', hdrop', hsome]
  cases rest with
  | nil => rfl
  | cons c rest => rfl

/-- An exponent begins with its mark. -/
theorem ExponentText.head {text : List Char} {power : Int} (h : ExponentText text power) :
    NoDigitFirst text ∧ text.head? ≠ some '.' := by
  cases h with
  | missing => exact ⟨fun c hc => (by cases hc), by decide⟩
  | marked hmark =>
      rcases hmark with rfl | rfl
      · exact ⟨by rintro c ⟨⟩; decide, by simp⟩
      · exact ⟨by rintro c ⟨⟩; decide, by simp⟩

theorem read?_eq_some_iff {text : List Char} {d : Decimal} :
    read? text = some d ↔ Written text d := by
  constructor
  · intro h
    obtain ⟨whole, rest, rfl, hwhole, hrest⟩ := exists_digits text
    by_cases hpoint : rest.head? = some '.'
    · obtain ⟨more, rfl⟩ := List.head?_eq_some_iff.mp hpoint
      obtain ⟨fraction, later, rfl, hfraction, hlater⟩ := exists_digits more
      by_cases hne : whole ++ fraction = []
      · obtain ⟨rfl, rfl⟩ := List.append_eq_nil_iff.mp hne
        have hnone := (span_digits allDigits_nil hlater).1
        rw [List.nil_append] at hnone
        simp [read?, hnone] at h
      · rw [read?_pointed_append hne hwhole hfraction hlater, behindMantissa_eq_some_iff] at h
        obtain ⟨power, hexponent, rfl⟩ := h
        have hwritten := Written.intro (.pointed hne hwhole hfraction) hexponent
        simpa using hwritten
    · by_cases hne : whole = []
      · obtain ⟨htake, hdrop⟩ := span_digits hwhole hrest
        unfold read? at h
        rw [htake, hdrop, hne] at h
        cases rest with
        | nil => simp at h
        | cons c rest =>
            have hc : c ≠ '.' := fun heq => hpoint (congrArg some heq)
            simp [hc] at h
      · rw [read?_whole hne hwhole hrest hpoint, behindMantissa_eq_some_iff] at h
        obtain ⟨power, hexponent, rfl⟩ := h
        exact .intro (.whole hne hwhole) hexponent
  · rintro ⟨hmantissa, hexponent⟩
    obtain ⟨hrest, hpoint⟩ := hexponent.head
    cases hmantissa with
    | whole hne hdigits =>
        rw [read?_whole hne hdigits hrest hpoint, behindMantissa_eq_some_iff]
        exact ⟨_, hexponent, rfl⟩
    | pointed hne hwhole hfraction =>
        rw [List.append_assoc, List.cons_append, read?_pointed_append hne hwhole hfraction hrest,
          behindMantissa_eq_some_iff]
        exact ⟨_, hexponent, rfl⟩

/-- A decimal begins with a digit or with its point. -/
theorem Written.head {text : List Char} {d : Decimal} (h : Written text d) :
    ∃ c ∈ text.head?, c.isDigit = true ∨ c = '.' := by
  obtain ⟨hmantissa, -⟩ := h
  cases hmantissa with
  | whole hne hdigits =>
      obtain ⟨c, rest, rfl⟩ := List.exists_cons_of_ne_nil hne
      exact ⟨c, rfl, .inl (hdigits c List.mem_cons_self)⟩
  | @pointed whole fraction hne hwhole hfraction =>
      cases whole with
      | nil => exact ⟨'.', rfl, .inr rfl⟩
      | cons c rest => exact ⟨c, rfl, .inl (hwhole c List.mem_cons_self)⟩

end Decimal

namespace Binary64

/-- What begins with a digit or a point is a decimal, if it is a number at all. -/
theorem read?_decimal {sign body : List Char} {negative : Bool} (hsign : SignText sign negative)
    (hbody : ∃ c ∈ body.head?, c.isDigit = true ∨ c = '.') :
    read? (sign ++ body) = (Decimal.read? body).map fun d => d.toBinary64 negative := by
  obtain ⟨c, hhead, hc⟩ := hbody
  obtain ⟨text, rfl⟩ := List.head?_eq_some_iff.mp hhead
  have hnot {d : Char} (hdigit : d.isDigit = false) (hpoint : d ≠ '.') : c ≠ d := by
    rintro rfl
    rcases hc with hc | hc
    · rw [hdigit] at hc
      cases hc
    · exact hpoint hc
  have hlower : c.toLower = c := by
    rcases hc with hc | rfl
    · exact toLower_of_isDigit hc
    · rfl
  have hi : c ≠ 'i' := hnot (by decide) (by decide)
  have hn : c ≠ 'n' := hnot (by decide) (by decide)
  have hnosign : ∀ d ∈ (c :: text).head?, d ≠ '-' ∧ d ≠ '+' := by
    rintro d ⟨⟩
    exact ⟨hnot (by decide) (by decide), hnot (by decide) (by decide)⟩
  have hinfinity : infinityWords.contains ((c :: text).map Char.toLower) = false := by
    simp [infinityWords, hlower, hi]
  have hword : ((c :: text).map Char.toLower == notANumberWord) = false := by
    simp [notANumberWord, hlower, hn]
  unfold read?
  rw [readSign_append hsign hnosign]
  dsimp only
  rw [hinfinity, hword]
  rfl

/-- A finite number is read only from a decimal. -/
theorem exists_decimal {text : List Char} {x : Binary64} (h : read? text = some x)
    (hfinite : x.isFinite = true) : ∃ sign body negative d, text = sign ++ body ∧
      SignText sign negative ∧ Decimal.read? body = some d ∧ x = d.toBinary64 negative := by
  obtain ⟨sign, hsign, htext⟩ := exists_sign text
  unfold read? at h
  dsimp only at h
  split at h
  · cases h
    cases hfinite
  · split at h
    · cases h
      cases hfinite
    · obtain ⟨d, hread, rfl⟩ := Option.map_eq_some_iff.mp h
      exact ⟨sign, _, _, d, htext, hsign, hread, rfl⟩

end Binary64

end ChartBoard
