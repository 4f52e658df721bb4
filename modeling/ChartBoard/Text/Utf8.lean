/-!
Text as bytes. Every list of bytes is cut, in one way, into characters and faults: a
fault is a longest run of bytes that begins some character and then breaks off, or a
single byte that begins none. A strict reader wants no fault; a lenient one puts a
replacement character for each. Both read back every text that has been encoded.
-/

namespace ChartBoard.Utf8

/-- The bytes of a text. -/
def encode (text : List Char) : List UInt8 := text.flatMap String.utf8EncodeChar

/-- Where a reader stands between two bytes: between characters, or within one, with
the bits of its bytes so far, the number of bytes missing, and the least and greatest
byte that may come next. -/
inductive Position where
  | between
  | within (bits missing low high : Nat)
deriving DecidableEq, Repr

/-- What a byte that begins a character completes, and the position after it. No
character has two encodings, and the surrogates and what lies beyond the last code
point have none, which is what the bounds on a second byte see to. -/
def start (byte : Nat) : List (Option Char) × Position :=
  if byte < 0x80 then
    ([some (Char.ofNat byte)], .between)
  else if byte < 0xC2 then
    ([none], .between)
  else if byte < 0xE0 then
    ([], .within (byte - 0xC0) 1 0x80 0xBF)
  else if byte < 0xF0 then
    let low := if byte = 0xE0 then 0xA0 else 0x80
    let high := if byte = 0xED then 0x9F else 0xBF
    ([], .within (byte - 0xE0) 2 low high)
  else if byte < 0xF5 then
    let low := if byte = 0xF0 then 0x90 else 0x80
    let high := if byte = 0xF4 then 0x8F else 0xBF
    ([], .within (byte - 0xF0) 3 low high)
  else
    ([none], .between)

/-- Read one byte. A byte that cannot continue a character makes a fault of what was
begun and begins anew itself. -/
def step (position : Position) (byte : Nat) : List (Option Char) × Position :=
  match position with
  | .between => start byte
  | .within bits missing low high =>
      if low ≤ byte ∧ byte ≤ high then
        let bits := 64 * bits + (byte - 0x80)
        if missing ≤ 1 then
          ([some (Char.ofNat bits)], .between)
        else
          ([], .within bits (missing - 1) 0x80 0xBF)
      else
        let (found, position) := start byte
        (none :: found, position)

/-- Characters and faults of the bytes from a position on. -/
def scan (position : Position) : List UInt8 → List (Option Char)
  | [] => match position with
    | .between => []
    | .within _ _ _ _ => [none]
  | byte :: bytes =>
      let (found, position) := step position byte.toNat
      found ++ scan position bytes

/-- The text of bytes without fault. -/
def decode? (bytes : List UInt8) : Option (List Char) := (scan .between bytes).mapM id

/-- Stands in a text for bytes that cannot be read. -/
def replacement : Char := '\uFFFD'

/-- The text of any bytes. -/
def decodeLossy (bytes : List UInt8) : List Char :=
  (scan .between bytes).map fun found => found.getD replacement

theorem scan_cons (position : Position) (byte : UInt8) (bytes : List UInt8) :
    scan position (byte :: bytes) =
      (step position byte.toNat).1 ++ scan (step position byte.toNat).2 bytes := rfl

/-- The bytes that come next are read as one character, and then the reader stands between
characters. -/
def Completes (position : Position) (front : List UInt8) (c : Char) : Prop :=
  ∀ bytes, scan position (front ++ bytes) = some c :: scan .between bytes

theorem completes_last {bits low high n : Nat} {byte : UInt8} (hlow : low ≤ byte.toNat)
    (hhigh : byte.toNat ≤ high) (hcode : 64 * bits + (byte.toNat - 0x80) = n) :
    Completes (.within bits 1 low high) [byte] (Char.ofNat n) := by
  intro bytes
  rw [List.singleton_append, scan_cons, step, if_pos ⟨hlow, hhigh⟩, ← hcode]
  rfl

theorem completes_next {bits missing low high later : Nat} {byte : UInt8} {front : List UInt8}
    {c : Char} (hlow : low ≤ byte.toNat) (hhigh : byte.toNat ≤ high)
    (hbits : 64 * bits + (byte.toNat - 0x80) = later)
    (hfront : Completes (.within later (missing + 1) 0x80 0xBF) front c) :
    Completes (.within bits (missing + 2) low high) (byte :: front) c := by
  intro bytes
  have hmissing : ¬missing + 2 ≤ 1 := by omega
  rw [List.cons_append, scan_cons, step, if_pos ⟨hlow, hhigh⟩]
  dsimp only
  rw [if_neg hmissing, hbits]
  exact hfront bytes

theorem completes_first {position : Position} {byte : UInt8} {front : List UInt8} {c : Char}
    (hstart : start byte.toNat = ([], position)) (hfront : Completes position front c) :
    Completes .between (byte :: front) c := by
  intro bytes
  rw [List.cons_append, scan_cons, step, hstart]
  exact hfront bytes

theorem toNat_byte {n : Nat} (h : n < 256) : (UInt8.ofNat n).toNat = n := by
  simp [Nat.mod_eq_of_lt h]

theorem start_one {byte : Nat} (h : byte < 0x80) :
    start byte = ([some (Char.ofNat byte)], .between) := by
  rw [start, if_pos h]

theorem start_two {byte : Nat} (hlow : 0xC2 ≤ byte) (hhigh : byte < 0xE0) :
    start byte = ([], .within (byte - 0xC0) 1 0x80 0xBF) := by
  have hone : ¬byte < 0x80 := by omega
  have hnone : ¬byte < 0xC2 := by omega
  rw [start, if_neg hone, if_neg hnone, if_pos hhigh]

theorem start_three {byte : Nat} (hlow : 0xE0 ≤ byte) (hhigh : byte < 0xF0) :
    start byte = ([], .within (byte - 0xE0) 2 (if byte = 0xE0 then 0xA0 else 0x80)
      (if byte = 0xED then 0x9F else 0xBF)) := by
  have hone : ¬byte < 0x80 := by omega
  have hnone : ¬byte < 0xC2 := by omega
  have htwo : ¬byte < 0xE0 := by omega
  rw [start, if_neg hone, if_neg hnone, if_neg htwo, if_pos hhigh]

theorem start_four {byte : Nat} (hlow : 0xF0 ≤ byte) (hhigh : byte < 0xF5) :
    start byte = ([], .within (byte - 0xF0) 3 (if byte = 0xF0 then 0x90 else 0x80)
      (if byte = 0xF4 then 0x8F else 0xBF)) := by
  have hone : ¬byte < 0x80 := by omega
  have hnone : ¬byte < 0xC2 := by omega
  have htwo : ¬byte < 0xE0 := by omega
  have hthree : ¬byte < 0xF0 := by omega
  rw [start, if_neg hone, if_neg hnone, if_neg htwo, if_neg hthree, if_pos hhigh]

section CodePoint

variable {n : Nat}

theorem completes_last_of_code {bits : Nat} (hbits : bits = n / 64) :
    Completes (.within bits 1 0x80 0xBF) [UInt8.ofNat (n % 64 + 128)] (Char.ofNat n) := by
  have hbyte : (UInt8.ofNat (n % 64 + 128)).toNat = n % 64 + 128 := toNat_byte (by omega)
  refine completes_last ?_ ?_ ?_ <;> rw [hbyte] <;> omega

theorem completes_one (h : n < 0x80) : Completes .between [UInt8.ofNat n] (Char.ofNat n) := by
  have hbyte : (UInt8.ofNat n).toNat = n := toNat_byte (by omega)
  intro bytes
  rw [List.singleton_append, scan_cons, step, hbyte, start_one h]
  rfl

theorem completes_two (hlow : 0x80 ≤ n) (hhigh : n < 0x800) :
    Completes .between [UInt8.ofNat (n / 64 % 32 + 192), UInt8.ofNat (n % 64 + 128)]
      (Char.ofNat n) := by
  have hbyte : (UInt8.ofNat (n / 64 % 32 + 192)).toNat = n / 64 % 32 + 192 := toNat_byte (by omega)
  have hlead : 0xC2 ≤ n / 64 % 32 + 192 := by omega
  have hstart := start_two hlead (by omega)
  rw [← hbyte] at hstart
  refine completes_first hstart (completes_last_of_code ?_)
  rw [hbyte]
  omega

theorem completes_three (hlow : 0x800 ≤ n) (hhigh : n < 0x10000)
    (hvalid : n < 0xD800 ∨ 0xDFFF < n) :
    Completes .between [UInt8.ofNat (n / 4096 % 16 + 224), UInt8.ofNat (n / 64 % 64 + 128),
      UInt8.ofNat (n % 64 + 128)] (Char.ofNat n) := by
  have hfirst : (UInt8.ofNat (n / 4096 % 16 + 224)).toNat = n / 4096 % 16 + 224 :=
    toNat_byte (by omega)
  have hsecond : (UInt8.ofNat (n / 64 % 64 + 128)).toNat = n / 64 % 64 + 128 :=
    toNat_byte (by omega)
  have hlead : 0xE0 ≤ n / 4096 % 16 + 224 := by omega
  have hstart := start_three hlead (by omega)
  rw [← hfirst] at hstart
  refine completes_first hstart (completes_next ?_ ?_ rfl (completes_last_of_code ?_))
  · rw [hfirst, hsecond]
    split <;> omega
  · rw [hfirst, hsecond]
    split <;> omega
  · rw [hfirst, hsecond]
    omega

theorem completes_four (hlow : 0x10000 ≤ n) (hhigh : n < 0x110000) :
    Completes .between [UInt8.ofNat (n / 262144 % 8 + 240), UInt8.ofNat (n / 4096 % 64 + 128),
      UInt8.ofNat (n / 64 % 64 + 128), UInt8.ofNat (n % 64 + 128)] (Char.ofNat n) := by
  have hfirst : (UInt8.ofNat (n / 262144 % 8 + 240)).toNat = n / 262144 % 8 + 240 :=
    toNat_byte (by omega)
  have hsecond : (UInt8.ofNat (n / 4096 % 64 + 128)).toNat = n / 4096 % 64 + 128 :=
    toNat_byte (by omega)
  have hthird : (UInt8.ofNat (n / 64 % 64 + 128)).toNat = n / 64 % 64 + 128 :=
    toNat_byte (by omega)
  have hlead : 0xF0 ≤ n / 262144 % 8 + 240 := by omega
  have hstart := start_four hlead (by omega)
  rw [← hfirst] at hstart
  refine completes_first hstart
    (completes_next ?_ ?_ rfl (completes_next ?_ ?_ rfl (completes_last_of_code ?_)))
  · rw [hfirst, hsecond]
    split <;> omega
  · rw [hfirst, hsecond]
    split <;> omega
  · rw [hthird]
    omega
  · rw [hthird]
    omega
  · rw [hfirst, hsecond, hthird]
    omega

end CodePoint

/-- The bytes of a character are read as that character, whatever follows. -/
theorem scan_utf8EncodeChar (c : Char) (bytes : List UInt8) :
    scan .between (String.utf8EncodeChar c ++ bytes) = some c :: scan .between bytes := by
  obtain ⟨n, hn⟩ : ∃ n, n = c.val.toNat := ⟨_, rfl⟩
  have hvalid : n < 0xD800 ∨ 0xDFFF < n ∧ n < 0x110000 := hn ▸ c.valid
  have hchar : Char.ofNat n = c := hn ▸ Char.ofNat_toNat c
  unfold String.utf8EncodeChar
  rw [← hn, ← hchar]
  dsimp only
  split
  · rename_i hone
    exact completes_one (Nat.lt_succ_of_le hone) bytes
  split
  · rename_i hone htwo
    exact completes_two (Nat.lt_of_not_le hone) (Nat.lt_succ_of_le htwo) bytes
  split
  · rename_i htwo hthree
    exact completes_three (Nat.lt_of_not_le htwo) (Nat.lt_succ_of_le hthree) (by omega) bytes
  · rename_i hthree
    exact completes_four (Nat.lt_of_not_le hthree) (by omega) bytes

/-- An encoded text has no faults. -/
theorem scan_encode (text : List Char) : scan .between (encode text) = text.map some := by
  induction text with
  | nil => rfl
  | cons c text ih =>
      rw [encode, List.flatMap_cons, scan_utf8EncodeChar]
      exact congrArg (some c :: ·) ih

theorem decode?_encode (text : List Char) : decode? (encode text) = some text := by
  rw [decode?, scan_encode]
  induction text with
  | nil => rfl
  | cons c text ih => simp_all

theorem decodeLossy_encode (text : List Char) : decodeLossy (encode text) = text := by
  rw [decodeLossy, scan_encode, List.map_map]
  exact List.map_id text

end ChartBoard.Utf8
