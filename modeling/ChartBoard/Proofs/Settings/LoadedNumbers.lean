import ChartBoard.Proofs.Number.Order
import ChartBoard.Proofs.Settings.Groups
import Mathlib.Tactic.SplitIfs

/-!
The numbers of settings that have been loaded. A number that a document gives for a setting is read
as the nearest one of 64 bits, cut to a whole one and moved into the range of the setting
(`Settings.number_of_gives`); only then the settings are checked. So a whole number of less than 53
bits is loaded as it is written, if it is in the range, and what the check refuses is found for a
number of slots but not for a base port: one beyond the last port is loaded as the last port.
-/

namespace ChartBoard

/-- A literal writes a whole number. -/
def NumberLiteral.Writes (n : Nat) : NumberLiteral → Prop
  | integer negative magnitude => magnitude = n ∧ (negative = true → n = 0)
  | hexadecimal magnitude => magnitude = n
  | decimal negative value => value.ratio.1 = n * value.ratio.2 ∧ (negative = true → n = 0)
  | infinity _ | notANumber | missigned => False

namespace NumberLiteral

open Binary64

theorem Writes.ofRatio {literal : NumberLiteral} {n : Nat} (h : literal.Writes n) {x : Binary64}
    (hx : literal.toBinary64? = some x) : ∃ negative, (negative = true → n = 0) ∧
      x = .ofRatio negative n 1 := by
  have hfinite {y : Binary64} (hy : toBinary64?.finite? y = some x) : x = y :=
    (Option.ite_none_right_eq_some.mp hy).2 |> Option.some.inj |> Eq.symm
  cases literal with
  | integer negative magnitude =>
      obtain ⟨rfl, hzero⟩ := h
      exact ⟨negative, hzero, hfinite hx⟩
  | hexadecimal magnitude =>
      obtain rfl : magnitude = n := h
      exact ⟨false, Bool.noConfusion,
        (Option.some.inj (Option.ite_none_right_eq_some.mp hx).2).symm⟩
  | decimal negative value =>
      obtain ⟨hratio, hzero⟩ := h
      refine ⟨negative, hzero, ?_⟩
      have hnearest : nearest value.ratio.1 value.ratio.2 = nearest n 1 :=
        nearest_congr value.ratio_pos Nat.one_pos (by rw [Nat.mul_one, hratio])
      rw [hfinite hx, Decimal.toBinary64_eq_ofRatio]
      unfold Binary64.ofRatio
      simp only [hnearest]
  | infinity | notANumber | missigned => cases h

/-- A whole number is cut as the number of 64 bits that is nearest to it. -/
theorem Writes.toNatClamped_eq {literal : NumberLiteral} {n : Nat} (h : literal.Writes n)
    {x : Binary64} (hx : literal.toBinary64? = some x) (greatest : Nat) :
    x.toNatClamped greatest = (ofNat n).toNatClamped greatest := by
  obtain ⟨negative, hzero, hvalue⟩ := h.ofRatio hx
  rw [hvalue]
  cases negative with
  | false =>
      have hsign : decide ((n : Int) < 0) = false := decide_eq_false (by omega)
      rw [ofNat, ofInt, hsign, Int.natAbs_natCast]
  | true =>
      have hnone : nearest 0 1 = 0 := nearest_of_units Nat.one_pos (by rw [units_of_lt] <;> simp)
      have hfinite : 0 < finiteCount := by decide
      rw [hzero rfl, toNatClamped_ofNat greatest (Nat.two_pow_pos 53), Nat.min_zero]
      exact toNatClamped_negative greatest (ofRatio_eq hnone hfinite)

end NumberLiteral

/-- The settings that are numbers. -/
inductive NumberField where
  | basePort
  | slotCount
  | maxConnections
  | maxLineLength
  | statusCapacity

namespace NumberField

def name : NumberField → String
  | basePort => "base_port"
  | slotCount => "max_slots"
  | maxConnections => "max_connections_per_slot"
  | maxLineLength => "max_line_length"
  | statusCapacity => "status_log_capacity"

/-- The position in the group of the field. -/
def position : NumberField → Nat
  | basePort => 1
  | slotCount => 2
  | maxConnections => 3
  | maxLineLength => 4
  | statusCapacity => 0

/-- The position and the name of the group of the field. -/
def group : NumberField → Nat × String
  | statusCapacity => (1, "surface")
  | _ => (0, "server")

def greatest : NumberField → Nat
  | basePort => Text.word16 - 1
  | _ => Text.word64 - 1

def get (settings : Settings) : NumberField → Nat
  | basePort => settings.listen.basePort
  | slotCount => settings.listen.slotCount
  | maxConnections => settings.listen.maxConnections
  | maxLineLength => settings.listen.maxLineLength
  | statusCapacity => settings.board.statusCapacity

end NumberField

/-- A document gives a number for a setting. -/
def Document.Gives (document : Document) (field : NumberField) (literal : NumberLiteral) : Prop :=
  ∃ group, Holds field.group.1 field.group.2 document group ∧
    Holds field.position field.name group (.number literal)

namespace Document

section Fields

variable {value : Document}

theorem put_eq_some_iff {α β : Type} {result : Option α} {set : α → β} {after : β} :
    (result >>= fun a => pure (set a)) = some after ↔ ∃ a, result = some a ∧ set a = after := by
  cases result <;> simp

/-- What a field of the group that says where to listen puts into it. -/
theorem put_listen_cases {field : Field ListenSettings} (h : field ∈ listenFields)
    {before after : ListenSettings} (hput : field.put value before = some after) :
    (field.name = "bind_address" ∧ ∃ text, value.toText? = some text ∧
      { before with bindAddress := text } = after) ∨
    (field.name = "base_port" ∧ ∃ n, value.toWord16? = some n ∧
      { before with basePort := n } = after) ∨
    (field.name = "max_slots" ∧ ∃ n, value.toWord64? = some n ∧
      { before with slotCount := n } = after) ∨
    (field.name = "max_connections_per_slot" ∧ ∃ n, value.toWord64? = some n ∧
      { before with maxConnections := n } = after) ∨
    (field.name = "max_line_length" ∧ ∃ n, value.toWord64? = some n ∧
      { before with maxLineLength := n } = after) := by
  simp only [listenFields, List.mem_cons, List.not_mem_nil, or_false] at h
  rcases h with rfl | rfl | rfl | rfl | rfl
  · exact .inl ⟨rfl, put_eq_some_iff.mp hput⟩
  · exact .inr (.inl ⟨rfl, put_eq_some_iff.mp hput⟩)
  · exact .inr (.inr (.inl ⟨rfl, put_eq_some_iff.mp hput⟩))
  · exact .inr (.inr (.inr (.inl ⟨rfl, put_eq_some_iff.mp hput⟩)))
  · exact .inr (.inr (.inr (.inr ⟨rfl, put_eq_some_iff.mp hput⟩)))

theorem put_board_cases {field : Field BoardSettings} (h : field ∈ boardFields)
    {before after : BoardSettings} (hput : field.put value before = some after) :
    (field.name = "status_log_capacity" ∧ ∃ n, value.toWord64? = some n ∧
      { before with statusCapacity := n } = after) ∨
    (field.name = "status_enabled" ∧ ∃ flag, value.toBool? = some flag ∧
      { before with statusEnabled := flag } = after) ∨
    (field.name = "frame_title" ∧ ∃ text, value.toText? = some text ∧
      { before with frameTitle := text } = after) := by
  simp only [boardFields, List.mem_cons, List.not_mem_nil, or_false] at h
  rcases h with rfl | rfl | rfl
  · exact .inl ⟨rfl, put_eq_some_iff.mp hput⟩
  · exact .inr (.inl ⟨rfl, put_eq_some_iff.mp hput⟩)
  · exact .inr (.inr ⟨rfl, put_eq_some_iff.mp hput⟩)

theorem put_settings_cases {field : Field Settings} (h : field ∈ settingsFields)
    {before after : Settings} (hput : field.put value before = some after) :
    (field.name = "server" ∧ ∃ listen, value.toGroup? listenFields {} = some listen ∧
      { before with listen := listen } = after) ∨
    (field.name = "surface" ∧ ∃ board, value.toGroup? boardFields {} = some board ∧
      { before with board := board } = after) ∨
    (field.name = "logging" ∧ ∃ log, value.toGroup? logFields {} = some log ∧
      { before with log := log } = after) := by
  simp only [settingsFields, List.mem_cons, List.not_mem_nil, or_false] at h
  rcases h with rfl | rfl | rfl
  · exact .inl ⟨rfl, put_eq_some_iff.mp hput⟩
  · exact .inr (.inl ⟨rfl, put_eq_some_iff.mp hput⟩)
  · exact .inr (.inr ⟨rfl, put_eq_some_iff.mp hput⟩)

end Fields

section Parts

theorem listenPart :
    FieldPart settingsFields 0 "server" (·.toGroup? listenFields {}) Settings.listen where
  distinct := by decide
  own := ⟨_, rfl, rfl, fun hput => by
    obtain ⟨listen, hlisten, hafter⟩ := put_eq_some_iff.mp hput
    rw [hlisten, ← hafter]⟩
  other field hfield hname value before after hput := by
    rcases put_settings_cases hfield hput with ⟨hserver, -⟩ | ⟨-, _, -, rfl⟩ | ⟨-, _, -, rfl⟩
    · exact absurd hserver hname
    · rfl
    · rfl

theorem boardPart :
    FieldPart settingsFields 1 "surface" (·.toGroup? boardFields {}) Settings.board where
  distinct := by decide
  own := ⟨_, rfl, rfl, fun hput => by
    obtain ⟨board, hboard, hafter⟩ := put_eq_some_iff.mp hput
    rw [hboard, ← hafter]⟩
  other field hfield hname value before after hput := by
    rcases put_settings_cases hfield hput with ⟨-, _, -, rfl⟩ | ⟨hsurface, -⟩ | ⟨-, _, -, rfl⟩
    · rfl
    · exact absurd hsurface hname
    · rfl

theorem listenNumberPart {field : NumberField} (h : field.group = (0, "server")) :
    FieldPart listenFields field.position field.name (toNat? field.greatest)
      (fun listen => field.get { listen := listen }) := by
  cases field with
  | statusCapacity => exact absurd h (by decide)
  | basePort | slotCount | maxConnections | maxLineLength =>
      refine ⟨by decide, ⟨_, rfl, rfl, fun hput => ?_⟩, ?_⟩
      · obtain ⟨n, hn, rfl⟩ := put_eq_some_iff.mp hput
        exact hn
      · intro other hother hne value before after hput
        rcases put_listen_cases hother hput with
          ⟨hname, _, -, rfl⟩ | ⟨hname, _, -, rfl⟩ | ⟨hname, _, -, rfl⟩ | ⟨hname, _, -, rfl⟩ |
            ⟨hname, _, -, rfl⟩ <;>
          first | rfl | exact absurd hname hne

theorem boardNumberPart :
    FieldPart boardFields 0 "status_log_capacity" toWord64? BoardSettings.statusCapacity := by
  refine ⟨by decide, ⟨_, rfl, rfl, fun hput => ?_⟩, ?_⟩
  · obtain ⟨n, hn, rfl⟩ := put_eq_some_iff.mp hput
    exact hn
  · intro other hother hne value before after hput
    rcases put_board_cases hother hput with ⟨hname, -⟩ | ⟨-, _, -, rfl⟩ | ⟨-, _, -, rfl⟩
    · exact absurd hname hne
    · rfl
    · rfl

end Parts

/-- A number that a document gives is cut for its setting. -/
theorem number_of_gives {document : Document} {field : NumberField} {literal : NumberLiteral}
    (h : document.Gives field literal) {settings : Settings}
    (hread : document.toGroup? settingsFields {} = some settings) :
    ∃ x, literal.toBinary64? = some x ∧ field.get settings = x.toNatClamped field.greatest := by
  obtain ⟨group, hgroup, hfield⟩ := h
  have hnumber : toNat? field.greatest (.number literal) = some (field.get settings) := by
    cases field with
    | statusCapacity =>
        exact boardNumberPart.read_of_holds hfield (boardPart.read_of_holds hgroup hread)
    | basePort | slotCount | maxConnections | maxLineLength =>
        exact (listenNumberPart rfl).read_of_holds hfield (listenPart.read_of_holds hgroup hread)
  obtain ⟨x, hx, hcut⟩ := Option.map_eq_some_iff.mp hnumber
  exact ⟨x, hx, hcut.symm⟩

section Whole

variable {document : Document} {field : NumberField} {literal : NumberLiteral}
  (h : document.Gives field literal) {settings : Settings}
  (hread : document.toGroup? settingsFields {} = some settings) {n : Nat}
    (hwrites : literal.Writes n)

include h hread hwrites

theorem number_of_writes : field.get settings = (Binary64.ofNat n).toNatClamped field.greatest := by
  obtain ⟨x, hx, hget⟩ := number_of_gives h hread
  rw [hget, hwrites.toNatClamped_eq hx]

/-- A whole number of less than 53 bits is not rounded. -/
theorem number_of_writes_small (hsmall : n < 2 ^ 53) :
    field.get settings = min field.greatest n := by
  rw [number_of_writes h hread hwrites, Binary64.toNatClamped_ofNat _ hsmall]

/-- One of more bits is not rounded to one of less. -/
theorem le_number_of_writes_large (hlarge : 2 ^ 53 ≤ n) :
    min field.greatest (2 ^ 53) ≤ field.get settings := by
  rw [number_of_writes h hread hwrites]
  exact Binary64.le_toNatClamped_ofNat _ hlarge

end Whole

end Document

namespace Settings

/-- Settings that have passed the check. -/
structure InRange (settings : Settings) : Prop where
  positive : ∀ field : NumberField, 1 ≤ field.get settings
  slots : settings.listen.slotCount ≤ mostSlots
  lastPort : settings.listen.basePort + settings.listen.slotCount ≤ greatestPort + 1

theorem inRange_of_fault? {settings : Settings} (h : settings.fault? = none) :
    settings.InRange := by
  unfold fault? at h
  dsimp only at h
  split_ifs at h with haddress hport hslots hlast hconnections hline hlog
  rw [not_or] at hslots
  refine ⟨fun field => Nat.one_le_iff_ne_zero.mpr ?_, Nat.le_of_not_lt hslots.2, ?_⟩
  · cases field with
    | basePort => exact hport
    | slotCount => exact hslots.1
    | maxConnections => exact hconnections
    | maxLineLength => exact hline
    | statusCapacity => exact hlog
  · exact Nat.sub_le_iff_le_add.mp (Nat.le_of_not_lt hlast)

section Written

open Document

variable {document : Document} {literal : NumberLiteral} {settings : Settings}
  (hread : document.toGroup? settingsFields {} = some settings) (hrange : settings.InRange)
  {n : Nat} (hwrites : literal.Writes n)

include hread hrange hwrites

theorem basePort_of_writes (h : document.Gives .basePort literal) :
    1 ≤ n ∧ settings.listen.basePort = min greatestPort n := by
  have hpositive : 1 ≤ settings.listen.basePort := hrange.positive .basePort
  have hget : settings.listen.basePort = min greatestPort n := by
    by_cases hsmall : n < 2 ^ 53
    · exact number_of_writes_small h hread hwrites hsmall
    · have hleast : min greatestPort (2 ^ 53) ≤ settings.listen.basePort :=
        le_number_of_writes_large h hread hwrites (Nat.le_of_not_lt hsmall)
      have hmost : settings.listen.basePort ≤ greatestPort := by
        have hlast := hrange.lastPort
        have hslots : 1 ≤ settings.listen.slotCount := hrange.positive .slotCount
        omega
      have hport : greatestPort = 65535 := by decide
      omega
  omega

/-- A number of slots too great to be held exactly is too great for the check as well. -/
theorem slotCount_of_writes (h : document.Gives .slotCount literal) :
    1 ≤ n ∧ n ≤ mostSlots ∧ settings.listen.slotCount = n := by
  have hword : NumberField.slotCount.greatest = 2 ^ 64 - 1 := by decide
  have hslots : mostSlots = 999 := rfl
  have hpositive : 1 ≤ settings.listen.slotCount := hrange.positive .slotCount
  have hmost : settings.listen.slotCount ≤ mostSlots := hrange.slots
  have hsmall : n < 2 ^ 53 := by
    by_contra hlarge
    have hleast : min NumberField.slotCount.greatest (2 ^ 53) ≤ settings.listen.slotCount :=
      le_number_of_writes_large h hread hwrites (Nat.le_of_not_lt hlarge)
    omega
  have hget : settings.listen.slotCount = min NumberField.slotCount.greatest n :=
    number_of_writes_small h hread hwrites hsmall
  omega

end Written

/-- The settings that are loaded are those of a document, and they have passed the check. -/
theorem exists_document {bytes : List UInt8} {settings : Settings} (h : load bytes = .ok settings) :
    ∃ document, (Utf8.decode? bytes).bind Document.read? = some document ∧
      document.toGroup? Document.settingsFields {} = some settings ∧ settings.InRange := by
  unfold load at h
  split at h
  · cases h
  rename_i given hread
  split at h
  · cases h
  rename_i hcheck
  obtain rfl := Except.ok.inj h
  obtain ⟨text, htext, hgiven⟩ := Option.bind_eq_some_iff.mp hread
  obtain ⟨document, hdocument, hgroup⟩ := Option.bind_eq_some_iff.mp hgiven
  exact ⟨document, by rw [htext, Option.bind_some, hdocument], hgroup, inRange_of_fault? hcheck⟩

/-- Numbers are loaded as they are cut. What a document gives for a setting is loaded as the nearest
number of 64 bits, cut to a whole one and moved into the range of the setting. So the number that is
loaded is the one that is written exactly if this is a whole number in the range that 64 bits do not
round, as they round none of less than 53 bits. Whole numbers of slots are loaded as they are
written or not at all, whole base ports too, but that one beyond the last port is loaded as the
last. -/
theorem loaded_numbers_are_cut {bytes : List UInt8} {settings : Settings}
    (h : load bytes = .ok settings) :
    ∃ document, (Utf8.decode? bytes).bind Document.read? = some document ∧ settings.InRange ∧
      (∀ field literal, document.Gives field literal →
        (∃ x, literal.toBinary64? = some x ∧ field.get settings = x.toNatClamped field.greatest) ∧
        (literal.Writes (field.get settings) ↔ ∃ n ≤ field.greatest, literal.Writes n ∧
          (Binary64.ofNat n).toNatClamped field.greatest = n) ∧
        ∀ n < 2 ^ 53, literal.Writes n → field.get settings = min field.greatest n) ∧
      (∀ literal n, document.Gives .basePort literal → literal.Writes n →
        1 ≤ n ∧ settings.listen.basePort = min greatestPort n) ∧
      ∀ literal n, document.Gives .slotCount literal → literal.Writes n →
        1 ≤ n ∧ n ≤ mostSlots ∧ settings.listen.slotCount = n := by
  obtain ⟨document, hdocument, hgroup, hrange⟩ := exists_document h
  refine ⟨document, hdocument, hrange, fun field literal hgives => ⟨?_, ?_, ?_⟩, ?_, ?_⟩
  · exact Document.number_of_gives hgives hgroup
  · constructor
    · intro hwrites
      have hget := Document.number_of_writes hgives hgroup hwrites
      refine ⟨_, ?_, hwrites, hget.symm⟩
      rw [hget]
      exact Binary64.toNatClamped_le _ _
    · rintro ⟨n, -, hwrites, hn⟩
      rwa [Document.number_of_writes hgives hgroup hwrites, hn]
  · exact fun n hsmall hwrites => Document.number_of_writes_small hgives hgroup hwrites hsmall
  · exact fun literal n hgives hwrites => basePort_of_writes hgroup hrange hwrites hgives
  · exact fun literal n hgives hwrites => slotCount_of_writes hgroup hrange hwrites hgives

/-- The bytes of `{server: {base_port: 65536, max_slots: 1}}`. -/
def portBeyondLast : List UInt8 :=
  Utf8.encode "\x7bserver: \x7bbase_port: 65536, max_slots: 1\x7d\x7d".toList

/-- The document that these bytes are. -/
def documentBeyondLast : Document :=
  .object [(some "server", .object [(some "base_port", .number (.integer false 65536)),
    (some "max_slots", .number (.integer false 1))])]

theorem read_portBeyondLast :
    (Utf8.decode? portBeyondLast).bind Document.read? = some documentBeyondLast := by
  have htext : Utf8.decode? portBeyondLast =
      some "\x7bserver: \x7bbase_port: 65536, max_slots: 1\x7d\x7d".toList := by decide +kernel
  have htokens : Token.readAll? "\x7bserver: \x7bbase_port: 65536, max_slots: 1\x7d\x7d".toList =
      some [.leftBrace, .name (some "server") true, .colon, .leftBrace,
        .name (some "base_port") true, .colon, .number (.integer false 65536), .comma,
        .name (some "max_slots") true, .colon, .number (.integer false 1), .rightBrace,
        .rightBrace] := by decide +kernel
  rw [htext, Option.bind_some, Document.read?, htokens]
  rfl

theorem load_portBeyondLast :
    load portBeyondLast = .ok { listen := { basePort := 65535, slotCount := 1 } } := by
  have hloaded : (load portBeyondLast).toOption =
      some { listen := { basePort := 65535, slotCount := 1 } } := by decide +kernel
  cases hload : load portBeyondLast with
  | error fault =>
      rw [hload] at hloaded
      cases hloaded
  | ok settings =>
      rw [hload] at hloaded
      rw [Option.some.inj hloaded]

theorem gives_documentBeyondLast : documentBeyondLast.Gives .basePort (.integer false 65536) :=
  ⟨_, .member List.mem_cons_self, .member List.mem_cons_self⟩

/-- A base port beyond the last port is no reason to refuse a document. -/
theorem base_port_beyond_last_is_loaded :
    ∃ document settings, (Utf8.decode? portBeyondLast).bind Document.read? = some document ∧
      document.Gives .basePort (.integer false 65536) ∧ load portBeyondLast = .ok settings ∧
        settings.listen.basePort = 65535 ∧
          ¬(NumberLiteral.integer false 65536).Writes settings.listen.basePort :=
  ⟨documentBeyondLast, _, read_portBeyondLast, gives_documentBeyondLast, load_portBeyondLast, rfl,
    fun h => absurd h.1 (by decide)⟩

/-- The document with a base port beyond the last port, which is loaded with the last. -/
theorem loaded_numbers_are_cut_beyond_last :
    load portBeyondLast = .ok { listen := { basePort := 65535, slotCount := 1 } } ∧
      ∃ document, (Utf8.decode? portBeyondLast).bind Document.read? = some document ∧
        document.Gives .basePort (.integer false 65536) ∧ 65535 = min greatestPort 65536 := by
  obtain ⟨document, hdocument, -, -, hport, -⟩ := loaded_numbers_are_cut load_portBeyondLast
  obtain rfl := Option.some.inj (hdocument.symm.trans read_portBeyondLast)
  exact ⟨load_portBeyondLast, documentBeyondLast, hdocument, gives_documentBeyondLast,
    (hport _ 65536 gives_documentBeyondLast ⟨rfl, Bool.noConfusion⟩).2⟩

end Settings

end ChartBoard
