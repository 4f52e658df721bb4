import ChartBoard.Text.Utf8

/-!
Which bytes are a text. A strict reader finds a text in bytes exactly if they are its encoding
(`Utf8.decode?_eq_some_iff`), and none exactly if they are the encoding of no text. Bytes without a
fault are taken apart at the character that they begin with.
-/

namespace ChartBoard.Utf8

/-- The bytes of the character with a code point. -/
theorem utf8EncodeChar_ofNat {n : Nat} (h : n.isValidChar) :
    String.utf8EncodeChar (Char.ofNat n) =
      if n ≤ 0x7F then [UInt8.ofNat n]
      else if n ≤ 0x7FF then [UInt8.ofNat (n / 64 % 32 + 192), UInt8.ofNat (n % 64 + 128)]
      else if n ≤ 0xFFFF then
        [UInt8.ofNat (n / 4096 % 16 + 224), UInt8.ofNat (n / 64 % 64 + 128),
          UInt8.ofNat (n % 64 + 128)]
      else
        [UInt8.ofNat (n / 262144 % 8 + 240), UInt8.ofNat (n / 4096 % 64 + 128),
          UInt8.ofNat (n / 64 % 64 + 128), UInt8.ofNat (n % 64 + 128)] := by
  have hcode : (Char.ofNat n).val.toNat = n := by
    rw [Char.ofNat, dif_pos h]
    rfl
  unfold String.utf8EncodeChar
  rw [hcode]

/-- A byte is told by its value. -/
theorem ofNat_eq {n : Nat} (byte : UInt8) (h : n = byte.toNat) : UInt8.ofNat n = byte := by
  rw [h, UInt8.ofNat_toNat]

/-- The encoding of some character, and bytes behind it. -/
def BeginsWithCharacter (bytes : List UInt8) : Prop :=
  ∃ c rest, bytes = String.utf8EncodeChar c ++ rest

/-- Within a character, a reader that comes upon no fault finds a byte that may come next. -/
theorem exists_next {bits missing low high : Nat} {bytes : List UInt8}
    (h : none ∉ scan (.within bits missing low high) bytes) :
    ∃ byte rest, bytes = byte :: rest ∧ low ≤ byte.toNat ∧ byte.toNat ≤ high ∧
      (2 ≤ missing →
        none ∉ scan (.within (64 * bits + (byte.toNat - 0x80)) (missing - 1) 0x80 0xBF) rest) := by
  cases bytes with
  | nil => simp [scan] at h
  | cons byte rest =>
      rw [scan_cons, step] at h
      by_cases hbyte : low ≤ byte.toNat ∧ byte.toNat ≤ high
      · refine ⟨byte, rest, rfl, hbyte.1, hbyte.2, fun hmissing => ?_⟩
        have hmore : ¬missing ≤ 1 := by omega
        rw [if_pos hbyte] at h
        dsimp only at h
        rw [if_neg hmore] at h
        exact h
      · rw [if_neg hbyte] at h
        simp at h

theorem begins_one {lead : UInt8} (h : lead.toNat < 0x80) (bytes : List UInt8) :
    BeginsWithCharacter (lead :: bytes) := by
  have hvalid : lead.toNat.isValidChar := .inl (by omega)
  refine ⟨Char.ofNat lead.toNat, bytes, ?_⟩
  rw [utf8EncodeChar_ofNat hvalid, if_pos (by omega), UInt8.ofNat_toNat, List.singleton_append]

section LeadingByte

variable {lead : UInt8} {bytes : List UInt8} (h : none ∉ scan .between (lead :: bytes))

include h

theorem begins_two (hlow : 0xC2 ≤ lead.toNat) (hhigh : lead.toNat < 0xE0) :
    BeginsWithCharacter (lead :: bytes) := by
  rw [scan_cons, step, start_two hlow hhigh] at h
  obtain ⟨second, rest, rfl, hsecond, hsecond', -⟩ := exists_next h
  obtain ⟨n, hn⟩ : ∃ n, n = 64 * (lead.toNat - 0xC0) + (second.toNat - 0x80) := ⟨_, rfl⟩
  have hvalid : n.isValidChar := .inl (by omega)
  refine ⟨Char.ofNat n, rest, ?_⟩
  rw [utf8EncodeChar_ofNat hvalid, if_neg (by omega), if_pos (by omega),
    ofNat_eq lead (by omega), ofNat_eq second (by omega)]
  rfl

theorem begins_three (hlow : 0xE0 ≤ lead.toNat) (hhigh : lead.toNat < 0xF0) :
    BeginsWithCharacter (lead :: bytes) := by
  rw [scan_cons, step, start_three hlow hhigh] at h
  obtain ⟨second, rest, rfl, hsecond, hsecond', hmore⟩ := exists_next h
  obtain ⟨third, rest, rfl, hthird, hthird', -⟩ := exists_next (hmore (Nat.le_refl 2))
  obtain ⟨n, hn⟩ : ∃ n, n =
      64 * (64 * (lead.toNat - 0xE0) + (second.toNat - 0x80)) + (third.toNat - 0x80) := ⟨_, rfl⟩
  -- The bounds on the second byte keep out shorter encodings and the surrogates.
  have hbounds : 0x80 ≤ second.toNat ∧ second.toNat ≤ 0xBF ∧ 0x800 ≤ n ∧
      (n < 0xD800 ∨ 0xDFFF < n) := by
    split at hsecond <;> split at hsecond' <;> omega
  have hvalid : n.isValidChar := hbounds.2.2.2.imp_right fun hbeyond => ⟨hbeyond, by omega⟩
  refine ⟨Char.ofNat n, rest, ?_⟩
  rw [utf8EncodeChar_ofNat hvalid, if_neg (by omega), if_neg (by omega), if_pos (by omega),
    ofNat_eq lead (by omega), ofNat_eq second (by omega), ofNat_eq third (by omega)]
  rfl

theorem begins_four (hlow : 0xF0 ≤ lead.toNat) (hhigh : lead.toNat < 0xF5) :
    BeginsWithCharacter (lead :: bytes) := by
  rw [scan_cons, step, start_four hlow hhigh] at h
  obtain ⟨second, rest, rfl, hsecond, hsecond', hmore⟩ := exists_next h
  obtain ⟨third, rest, rfl, hthird, hthird', hmore⟩ := exists_next (hmore (by omega))
  obtain ⟨fourth, rest, rfl, hfourth, hfourth', -⟩ := exists_next (hmore (Nat.le_refl 2))
  obtain ⟨n, hn⟩ : ∃ n, n = 64 * (64 * (64 * (lead.toNat - 0xF0) + (second.toNat - 0x80)) +
      (third.toNat - 0x80)) + (fourth.toNat - 0x80) := ⟨_, rfl⟩
  -- The bounds on the second byte keep out shorter encodings and all beyond the last code point.
  have hbounds : 0x80 ≤ second.toNat ∧ second.toNat ≤ 0xBF ∧ 0x10000 ≤ n ∧ n < 0x110000 := by
    split at hsecond <;> split at hsecond' <;> omega
  have hvalid : n.isValidChar := .inr ⟨by omega, hbounds.2.2.2⟩
  refine ⟨Char.ofNat n, rest, ?_⟩
  rw [utf8EncodeChar_ofNat hvalid, if_neg (by omega), if_neg (by omega), if_neg (by omega),
    ofNat_eq lead (by omega), ofNat_eq second (by omega), ofNat_eq third (by omega),
    ofNat_eq fourth (by omega)]
  rfl

theorem beginsWithCharacter : BeginsWithCharacter (lead :: bytes) := by
  by_cases hone : lead.toNat < 0x80
  · exact begins_one hone bytes
  by_cases hnone : lead.toNat < 0xC2
  · simp [scan_cons, step, start, hone, hnone] at h
  by_cases htwo : lead.toNat < 0xE0
  · exact begins_two h (Nat.le_of_not_lt hnone) htwo
  by_cases hthree : lead.toNat < 0xF0
  · exact begins_three h (Nat.le_of_not_lt htwo) hthree
  by_cases hfour : lead.toNat < 0xF5
  · exact begins_four h (Nat.le_of_not_lt hthree) hfour
  · simp [scan_cons, step, start, hone, hnone, htwo, hthree, hfour] at h

end LeadingByte

/-- Bytes without a fault are the encoding of a text. -/
theorem exists_encode {bytes : List UInt8} (h : none ∉ scan .between bytes) :
    ∃ text, bytes = encode text := by
  obtain ⟨n, hn⟩ : ∃ n, n = bytes.length := ⟨_, rfl⟩
  induction n using Nat.strongRecOn generalizing bytes with
  | ind n ih =>
      cases bytes with
      | nil => exact ⟨[], rfl⟩
      | cons lead bytes =>
          obtain ⟨c, rest, hbytes⟩ := beginsWithCharacter h
          have hlength := congrArg List.length hbytes
          have hpositive := List.length_pos_iff.mpr (String.utf8EncodeChar_ne_nil (c := c))
          rw [List.length_append] at hlength
          rw [hbytes, scan_utf8EncodeChar, List.mem_cons, not_or] at h
          obtain ⟨text, htext⟩ := ih rest.length (by omega) h.2 rfl
          exact ⟨c :: text, by rw [hbytes, htext, encode, encode, List.flatMap_cons]⟩

theorem encode_injective {text other : List Char} (h : encode text = encode other) :
    text = other := by
  have hdecoded := decode?_encode text
  rw [h, decode?_encode] at hdecoded
  exact (Option.some.inj hdecoded).symm

theorem none_not_mem_of_mapM {found : List (Option Char)} {text : List Char}
    (h : found.mapM id = some text) : none ∉ found := by
  induction found generalizing text with
  | nil => exact List.not_mem_nil
  | cons first found ih =>
      simp only [List.mapM_cons, id_eq, Option.bind_eq_bind, Option.bind_eq_some_iff] at h
      obtain ⟨c, rfl, later, hlater, -⟩ := h
      simp [ih hlater]

/-- Bytes are read as a text exactly if they are its encoding. -/
theorem decode?_eq_some_iff {bytes : List UInt8} {text : List Char} :
    decode? bytes = some text ↔ bytes = encode text := by
  constructor
  · intro h
    obtain ⟨text', rfl⟩ := exists_encode (none_not_mem_of_mapM h)
    rw [decode?_encode] at h
    rw [Option.some.inj h]
  · rintro rfl
    exact decode?_encode text

theorem decode?_eq_none_iff {bytes : List UInt8} :
    decode? bytes = none ↔ ∀ text, bytes ≠ encode text := by
  simp only [Option.eq_none_iff_forall_ne_some, ne_eq, decode?_eq_some_iff]

end ChartBoard.Utf8
