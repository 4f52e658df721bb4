import ChartBoard.Proofs.Calendar.TimestampText
import ChartBoard.Proofs.Text.Literals
import ChartBoard.Proofs.Text.Tokens

/-!
The texts that are timestamps, told without a reader: seven whole numbers between semicolons,
blanks around each allowed, with a date and a time that exist. Exactly these texts are read
(`Timestamp.read_eq_ok_iff`). No bound on the fields is left to state beside the milliseconds, for
the parts of a date and of a time are far below `2 ^ 32`.
-/

namespace ChartBoard

open Text

namespace Timestamp

/-- The numbers that stand for a timestamp, from the year to the millisecond. -/
inductive Numbers (t : Timestamp) : List Nat → Prop
  | intro {year millisecond : Nat} (hyear : t.year = year) (hmillisecond : millisecond ≤ 999)
      (hnanosecond : t.nanosecond = millisecond * 1000000) :
      Numbers t [year, t.month, t.day, t.hour, t.minute, t.second, millisecond]

/-- The text of a timestamp. That its date and its time exist is part of the timestamp. -/
inductive Written (text : List Char) (t : Timestamp) : Prop
  | intro {numbers : List Nat} (hnumbers : Numbers t numbers)
      (hfields : List.Forall₂ (fun field n => WholeText (trim field) n) (text.splitOn ';') numbers)

theorem readField_eq_ok_iff {field : List Char} {n : Nat} :
    readField field = .ok n ↔ WholeText field n ∧ n < word32 := by
  rw [← readNat?_eq_some_iff]
  unfold readField
  cases readNat? word32 field with
  | none => simp
  | some m => simp

theorem ofFields?_eq_some_iff {t : Timestamp} {year : Int}
    {month day hour minute second nanosecond : Nat} :
    ofFields? year month day hour minute second nanosecond = some t ↔
      (t.year = year ∧ t.month = month ∧ t.day = day ∧ t.hour = hour ∧ t.minute = minute ∧
        t.second = second ∧ t.nanosecond = nanosecond) ∧
        Calendar.isLeapPlace second nanosecond = true := by
  constructor
  · intro h
    unfold ofFields? at h
    split at h
    · split at h
      · split at h
        · rename_i hplace
          cases h
          exact ⟨⟨rfl, rfl, rfl, rfl, rfl, rfl, rfl⟩, hplace⟩
        · cases h
      · cases h
    · cases h
  · rintro ⟨⟨rfl, rfl, rfl, rfl, rfl, rfl, rfl⟩, hplace⟩
    rw [ofFields?, dif_pos t.isDate, dif_pos t.isTime, if_pos hplace]

theorem ofNumbers_eq_ok_iff {t : Timestamp} {numbers : List Nat} :
    ofNumbers numbers = .ok t ↔ Numbers t numbers := by
  constructor
  · intro h
    unfold ofNumbers at h
    split at h
    · split at h
      · cases h
      · split at h
        · cases h
        · rename_i hmillisecond
          split at h
          · rename_i hfields
            cases h
            obtain ⟨⟨hyear, rfl, rfl, rfl, rfl, rfl, hnanosecond⟩, -⟩ :=
              ofFields?_eq_some_iff.mp hfields
            exact .intro hyear (Nat.not_lt.mp hmillisecond) hnanosecond
          · cases h
    · cases h
  · rintro ⟨hyear, hmillisecond, hnanosecond⟩
    have hsmall := Nat.not_le.mpr (year_lt hyear)
    have hfields := ofFields?_eq_some_iff.mpr
      ⟨⟨hyear, rfl, rfl, rfl, rfl, rfl, hnanosecond⟩, isLeapPlace_of_millisecond (by omega) _⟩
    unfold ofNumbers
    dsimp only
    rw [if_neg hsmall, if_neg (Nat.not_lt.mpr hmillisecond), hfields]

theorem Numbers.lt_word32 {t : Timestamp} {numbers : List Nat} (h : Numbers t numbers) :
    ∀ n ∈ numbers, n < word32 := by
  cases h with
  | @intro year millisecond hyear hmillisecond hnanosecond =>
      have hwhole : t.millisecond = millisecond := by
        rw [Timestamp.millisecond, hnanosecond]
        omega
      refine List.forall_mem_cons.mpr ⟨Nat.lt_trans (year_lt hyear) (by decide), ?_⟩
      rw [← hwhole]
      exact fun n hn => t.lt_word32_of_mem_laterNumbers hn

theorem Numbers.length {t : Timestamp} {numbers : List Nat} (h : Numbers t numbers) :
    numbers.length = 7 := by
  cases h
  rfl

theorem read_eq_ok_iff {text : List Char} {t : Timestamp} :
    read text = .ok t ↔ Written text t := by
  have hfields (numbers : List Nat) :
      ((text.splitOn ';').map trim).mapM readField = .ok numbers ↔ List.Forall₂
        (fun field n => WholeText (trim field) n ∧ n < word32) (text.splitOn ';') numbers := by
    simp only [mapM_eq_ok_iff, List.forall₂_map_left_iff, readField_eq_ok_iff]
  have hsplit : split (· == separator) text = text.splitOn ';' := split_eq_splitOn ';' text
  unfold read
  rw [hsplit]
  dsimp only
  constructor
  · intro h
    split at h
    · obtain ⟨numbers, hread, htime⟩ := bind_eq_ok_iff.mp h
      exact .intro (ofNumbers_eq_ok_iff.mp htime)
        (((hfields numbers).mp hread).imp fun _ _ => And.left)
    · cases h
  · rintro ⟨hnumbers, hwritten⟩
    have hcount : ((text.splitOn ';').map trim).length = 7 := by
      rw [List.length_map, hwritten.length_eq, hnumbers.length]
    have hbounded := (List.forall₂_and_left _ _).mpr ⟨hnumbers.lt_word32, hwritten.flip⟩
    have hread := (hfields _).mpr (hbounded.flip.imp fun _ _ h => ⟨h.2, h.1⟩)
    rw [if_pos hcount]
    exact bind_eq_ok_iff.mpr ⟨_, hread, ofNumbers_eq_ok_iff.mpr hnumbers⟩

end Timestamp

end ChartBoard
