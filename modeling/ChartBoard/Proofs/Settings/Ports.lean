import ChartBoard.Proofs.Text.Literals
import ChartBoard.Server.Host

/-!
The ports of a server's slots. Slot `n` has the port `n` above the base port as far as there are
ports (`Settings.portFor?_eq_some_iff`), and the check of settings compares the port of the last
slot with the last port there is. So settings that are sound otherwise are valid exactly if every
slot has a port (`Settings.valid_iff_slots_have_ports`). Both are worked out in machine words: a
port has 16 bits and the counts have 64, and no sum or difference leaves them
(`SettingsWords.fault?_eq`, `SettingsWords.toNat_portFor?`).
-/

namespace ChartBoard

open Text

namespace Settings

/-- What the check asks of settings beside the port of the last slot. -/
structure SoundBesidePorts (settings : Settings) : Prop where
  bindAddress : settings.listen.bindAddress ≠ ""
  basePort : 1 ≤ settings.listen.basePort
  slotCount : 1 ≤ settings.listen.slotCount ∧ settings.listen.slotCount ≤ 999
  maxConnections : 0 < settings.listen.maxConnections
  maxLineLength : 0 < settings.listen.maxLineLength
  statusCapacity : 0 < settings.board.statusCapacity

theorem greatestPort_eq : greatestPort = 65535 := by decide

variable {settings : Settings}

theorem fault?_eq_none_iff : settings.fault? = none ↔
    settings.SoundBesidePorts ∧
    settings.listen.basePort + settings.listen.slotCount - 1 ≤ 65535 := by
  have hconditions : settings.fault? = none ↔ settings.listen.bindAddress ≠ "" ∧
      settings.listen.basePort ≠ 0 ∧
      ¬(settings.listen.slotCount = 0 ∨ mostSlots < settings.listen.slotCount) ∧
      ¬greatestPort < settings.listen.basePort + settings.listen.slotCount - 1 ∧
      settings.listen.maxConnections ≠ 0 ∧ settings.listen.maxLineLength ≠ 0 ∧
      settings.board.statusCapacity ≠ 0 := by
    simp [fault?, ite_eq_iff]
  rw [hconditions, greatestPort_eq, mostSlots]
  constructor
  · rintro ⟨hbind, hbase, hslots, hports, hconnections, hlength, hlog⟩
    exact ⟨⟨hbind, by omega, by omega, by omega, by omega, by omega⟩, by omega⟩
  · rintro ⟨⟨hbind, hbase, hslots, hconnections, hlength, hlog⟩, hports⟩
    exact ⟨hbind, by omega, by omega, by omega, by omega, by omega, by omega⟩

theorem validate_eq_ok_iff : settings.validate = .ok () ↔ settings.fault? = none := by
  unfold validate
  cases settings.fault? <;> simp

/-- A slot has the port so far above the base port, if there is that port. -/
theorem portFor?_eq_some_iff {slot port : Nat} : settings.portFor? slot = some port ↔
    port = settings.listen.basePort + slot ∧ port ≤ 65535 := by
  rw [portFor?, greatestPort_eq, Option.ite_none_right_eq_some, Option.some.injEq]
  omega

end Settings

namespace Server

variable {settings : Settings}

theorem listen_eq {slot : Nat} (h : settings.listen.basePort + slot ≤ 65535) :
    listen settings slot =
      .ok (.create settings.listen.maxConnections slot (settings.listen.basePort + slot)) := by
  rw [listen, Settings.portFor?_eq_some_iff.mpr ⟨rfl, h⟩]

/-- A server that starts: one listener for each slot, on the ports from the base port on. -/
def started (settings : Settings) : Server where
  listeners := (List.range settings.listen.slotCount).map fun slot =>
    .create settings.listen.maxConnections slot (settings.listen.basePort + slot)
  maxLineLength := settings.listen.maxLineLength
  board := .create settings.listen.slotCount settings.board none

theorem start_eq (h : settings.listen.basePort + settings.listen.slotCount - 1 ≤ 65535) :
    start settings = .ok (started settings) := by
  have hlisteners : (List.range settings.listen.slotCount).mapM (listen settings) =
      .ok (started settings).listeners := by
    refine mapM_eq_ok_iff.mpr (List.forall₂_map_right_iff.mpr (List.forall₂_same.mpr ?_))
    intro slot hslot
    have hlast := List.mem_range.mp hslot
    exact listen_eq (by omega)
  rw [start, hlisteners]
  rfl

end Server

/-- What is checked of settings, in the machine words that hold it. -/
structure SettingsWords where
  bindAddress : String
  basePort : UInt16
  slotCount : UInt64
  maxConnections : UInt64
  maxLineLength : UInt64
  statusCapacity : UInt64

namespace SettingsWords

/-- The settings that some words hold; the rest, which is not checked, is that of a default. -/
def settings (words : SettingsWords) : Settings where
  listen := {
    bindAddress := words.bindAddress
    basePort := words.basePort.toNat
    slotCount := words.slotCount.toNat
    maxConnections := words.maxConnections.toNat
    maxLineLength := words.maxLineLength.toNat }
  board := { statusCapacity := words.statusCapacity.toNat }

/-- The sum of two words, if it is a word. -/
def sum? (x y : UInt64) : Option UInt64 :=
  if x.toNat + y.toNat < 2 ^ 64 then some (x + y) else none

/-- The difference of two words, if it is a word. -/
def difference? (x y : UInt64) : Option UInt64 := if y ≤ x then some (x - y) else none

/-- The sum of two ports, if there is such a port. -/
def portSum? (x y : UInt16) : Option UInt16 :=
  if x.toNat + y.toNat < 2 ^ 16 then some (x + y) else none

theorem sum?_eq_some {x y : UInt64} (h : x.toNat + y.toNat < 2 ^ 64) :
    ∃ z, sum? x y = some z ∧ z.toNat = x.toNat + y.toNat :=
  ⟨x + y, if_pos h, by rw [UInt64.toNat_add, Nat.mod_eq_of_lt h]⟩

theorem difference?_eq_some {x y : UInt64} (h : y.toNat ≤ x.toNat) :
    ∃ z, difference? x y = some z ∧ z.toNat = x.toNat - y.toNat :=
  ⟨x - y, if_pos (UInt64.le_iff_toNat_le.mpr h),
    UInt64.toNat_sub_of_le _ _ (UInt64.le_iff_toNat_le.mpr h)⟩

/-- The check in words. There is no answer where a step would leave the words. -/
def fault? (words : SettingsWords) : Option (Option SettingsFault) :=
  if words.bindAddress.isEmpty then
    some (some .noBindAddress)
  else if words.basePort = 0 then
    some (some .noBasePort)
  else if words.slotCount = 0 ∨ 999 < words.slotCount then
    some (some (.slotsOutOfRange words.slotCount.toNat 999))
  else do
    let behind ← sum? words.basePort.toUInt64 words.slotCount
    let lastPort ← difference? behind 1
    if 65535 < lastPort then
      return some (.portsExhausted words.basePort.toNat words.slotCount.toNat lastPort.toNat)
    else if words.maxConnections = 0 then
      return some .noConnections
    else if words.maxLineLength = 0 then
      return some .noLineLength
    else if words.statusCapacity = 0 then
      return some .noStatusLog
    else
      return none

/-- The port of a slot in words: a slot of more than 16 bits has none. -/
def portFor? (words : SettingsWords) (slot : UInt64) : Option UInt16 :=
  if slot.toNat < 2 ^ 16 then portSum? words.basePort slot.toUInt16 else none

theorem toNat_eq_zero_iff (x : UInt64) : x.toNat = 0 ↔ x = 0 := by
  rw [← UInt64.toNat_inj]
  rfl

/-- The check in words is the check of the numbers, and none of its steps leaves the words. -/
theorem fault?_eq (words : SettingsWords) : words.fault? = some words.settings.fault? := by
  have hport : words.basePort.toNat < 2 ^ 16 := words.basePort.toNat_lt
  have hzero : words.basePort.toNat = 0 ↔ words.basePort = 0 := by
    rw [← UInt16.toNat_inj]
    rfl
  have hmany : 999 < words.slotCount.toNat ↔ 999 < words.slotCount := by
    rw [UInt64.lt_iff_toNat_lt]
    rfl
  unfold fault? Settings.fault?
  rw [Settings.greatestPort_eq, Settings.mostSlots]
  dsimp only [settings]
  simp only [hzero, toNat_eq_zero_iff, hmany]
  split
  · rfl
  split
  · rfl
  split
  · rfl
  rename_i hslots
  -- the sum is taken only now that the slots are known to be few
  have hfew : ¬999 < words.slotCount.toNat := fun hless => hslots (.inr (hmany.mp hless))
  have hone : 1 ≤ words.slotCount.toNat := by
    have hsome : words.slotCount.toNat ≠ 0 := fun h => hslots (.inl ((toNat_eq_zero_iff _).mp h))
    omega
  have hwiden : words.basePort.toUInt64.toNat = words.basePort.toNat := rfl
  obtain ⟨behind, hsum, hbehind⟩ := sum?_eq_some (x := words.basePort.toUInt64)
    (y := words.slotCount) (by omega)
  obtain ⟨lastPort, hdifference, hlast⟩ := difference?_eq_some (x := behind) (y := 1)
    (by change 1 ≤ behind.toNat; omega)
  have hlast : lastPort.toNat = words.basePort.toNat + words.slotCount.toNat - 1 := by
    rw [hlast, hbehind, hwiden]
    rfl
  have hbeyond : 65535 < lastPort ↔ 65535 < words.basePort.toNat + words.slotCount.toNat - 1 := by
    rw [UInt64.lt_iff_toNat_lt, hlast]
    rfl
  rw [hsum, Option.bind_eq_bind, Option.bind_some, hdifference, Option.bind_some]
  simp only [hbeyond, hlast]
  split
  · rfl
  split
  · rfl
  split
  · rfl
  split <;> rfl

/-- A slot has the same port in words. -/
theorem toNat_portFor? (words : SettingsWords) (slot : UInt64) :
    (words.portFor? slot).map UInt16.toNat = words.settings.portFor? slot.toNat := by
  by_cases hsum : words.basePort.toNat + slot.toNat < 2 ^ 16
  · have hnarrow : slot.toUInt16.toNat = slot.toNat := Nat.mod_eq_of_lt (by omega)
    have hport : words.settings.portFor? slot.toNat = some (words.basePort.toNat + slot.toNat) :=
      Settings.portFor?_eq_some_iff.mpr ⟨rfl, by omega⟩
    rw [hport, portFor?, if_pos (by omega), portSum?, hnarrow, if_pos hsum, Option.map_some,
      UInt16.toNat_add, hnarrow, Nat.mod_eq_of_lt hsum]
  · have hnone : words.settings.portFor? slot.toNat = none :=
      Option.eq_none_iff_forall_ne_some.mpr fun port hport => by
        obtain ⟨rfl, hlast⟩ := Settings.portFor?_eq_some_iff.mp hport
        exact hsum (Nat.lt_succ_of_le hlast)
    rw [hnone, portFor?, Option.map_eq_none_iff]
    split
    · rename_i hslot
      have hnarrow : slot.toUInt16.toNat = slot.toNat := Nat.mod_eq_of_lt hslot
      rw [portSum?, hnarrow, if_neg hsum]
    · rfl

end SettingsWords

namespace Settings

/-- Settings that are sound otherwise are valid exactly if every slot has a port. Then slot `n` has
the port `n` above the base port, from 1 to 65535, and a later slot a greater one; no slot lacks a
port to listen on, so the server starts with these ports. Worked out in words, neither the check nor
the port of a slot takes a step that leaves the words, whatever the words are. -/
theorem valid_iff_slots_have_ports (settings : Settings) (h : settings.SoundBesidePorts) :
    (settings.validate = .ok () ↔
      ∀ slot < settings.listen.slotCount, ∃ port, settings.portFor? slot = some port) ∧
    (settings.validate = .ok () →
      (∀ slot < settings.listen.slotCount,
        settings.portFor? slot = some (settings.listen.basePort + slot) ∧
          1 ≤ settings.listen.basePort + slot ∧ settings.listen.basePort + slot ≤ 65535) ∧
      (∀ slot slot' port port', settings.portFor? slot = some port →
        settings.portFor? slot' = some port' → (slot < slot' ↔ port < port')) ∧
      (∀ slot < settings.listen.slotCount, ∃ listener, Server.listen settings slot = .ok listener) ∧
      ∃ server, Server.start settings = .ok server ∧ server.listeners.map Listener.port =
        (List.range settings.listen.slotCount).map (settings.listen.basePort + ·)) ∧
    ∀ words : SettingsWords, words.fault? = some words.settings.fault? ∧
      ∀ slot, (words.portFor? slot).map UInt16.toNat = words.settings.portFor? slot.toNat := by
  have hfirst := h.basePort
  have hslots := h.slotCount
  have hvalid : settings.validate = .ok () ↔
      settings.listen.basePort + settings.listen.slotCount - 1 ≤ 65535 := by
    rw [validate_eq_ok_iff, fault?_eq_none_iff, and_iff_right h]
  refine ⟨?_, ?_, fun words => ⟨words.fault?_eq, words.toNat_portFor?⟩⟩
  · rw [hvalid]
    constructor
    · intro hlast slot hslot
      exact ⟨_, portFor?_eq_some_iff.mpr ⟨rfl, by omega⟩⟩
    · intro hports
      obtain ⟨port, hport⟩ := hports (settings.listen.slotCount - 1) (by omega)
      have hlast := portFor?_eq_some_iff.mp hport
      omega
  · intro hok
    have hlast := hvalid.mp hok
    refine ⟨fun slot hslot => ?_, fun slot slot' port port' hport hport' => ?_,
      fun slot hslot => ⟨_, Server.listen_eq (by omega)⟩, _, Server.start_eq hlast, ?_⟩
    · exact ⟨portFor?_eq_some_iff.mpr ⟨rfl, by omega⟩, by omega, by omega⟩
    · have hslot := (portFor?_eq_some_iff.mp hport).1
      have hslot' := (portFor?_eq_some_iff.mp hport').1
      omega
    · rw [Server.started, List.map_map]
      rfl

/-- Nine slots up to the last port that there is. -/
theorem valid_iff_slots_have_ports_to_the_last :
    let settings : Settings := { listen := { basePort := 65527, slotCount := 9 } }
    settings.SoundBesidePorts ∧ settings.validate = .ok () ∧ settings.portFor? 8 = some 65535 ∧
      ∃ server, Server.start settings = .ok server := by
  intro settings
  have hsound : settings.SoundBesidePorts :=
    ⟨by decide, by decide, by decide, by decide, by decide, by decide⟩
  have hok : settings.validate = .ok () := by decide
  obtain ⟨-, hvalid, -⟩ := valid_iff_slots_have_ports settings hsound
  obtain ⟨hports, -, -, server, hstart, -⟩ := hvalid hok
  exact ⟨hsound, hok, (hports 8 (by decide)).1, server, hstart⟩

end Settings

end ChartBoard
