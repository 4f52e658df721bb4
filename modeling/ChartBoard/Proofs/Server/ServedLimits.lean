import ChartBoard.Proofs.Settings.Ports
import ChartBoard.Proofs.SharedBoard.GridFits
import ChartBoard.Settings.Load

/-!
The limits of valid settings where a server uses them. A reader takes one byte more than the longest
line, which saturates at the greatest word; a board starts with a grid that fits and room in its
status log. A listener counts the connections it may still accept, and of these the check asks only
that there is one: beyond the most that it can count a listener stops, its port is bound and nobody
answers (`Server.valid_settings_answer_iff`, `Server.uncounted_connections_stop_listeners`).
-/

namespace ChartBoard

open Text

theorem Listener.mostCounted_eq : mostCounted = 2 ^ 61 - 1 := by decide

/-- Taking one byte more than a limit of 64 bits saturates. -/
theorem LineReader.mostTaken_toNat (limit : UInt64) : mostTaken limit.toNat =
    ((SettingsWords.sum? limit 1).getD (UInt64.ofNat (2 ^ 64 - 1))).toNat := by
  have hword : word64 = 2 ^ 64 := by decide
  have hlimit : limit.toNat < 2 ^ 64 := limit.toNat_lt
  rw [mostTaken, hword]
  by_cases hsum : limit.toNat + 1 < 2 ^ 64
  · obtain ⟨more, hmore, hvalue⟩ := SettingsWords.sum?_eq_some (x := limit) (y := 1) hsum
    rw [hmore, Option.getD_some, hvalue, Nat.min_eq_left (by omega)]
    rfl
  · have hnone : SettingsWords.sum? limit 1 = none := if_neg hsum
    have hgreatest : (UInt64.ofNat (2 ^ 64 - 1)).toNat = 2 ^ 64 - 1 := by decide
    rw [hnone, Option.getD_none, hgreatest]
    omega

theorem Settings.SoundBesidePorts.statusCapacity_create {settings : Settings}
    (h : settings.SoundBesidePorts) (window : Option Window) :
    (Board.create settings.listen.slotCount settings.board window).statusCapacity =
      settings.board.statusCapacity := Nat.max_eq_right h.statusCapacity

namespace Server

variable {settings : Settings}

/-- A port from the base port on belongs to the listener of one slot. -/
theorem find?_started {slot : Nat} (h : slot < settings.listen.slotCount) :
    (started settings).listeners.find? (fun listener =>
        listener.port == settings.listen.basePort + slot) =
      some (.create settings.listen.maxConnections slot (settings.listen.basePort + slot)) := by
  rw [started, List.find?_map, Option.map_eq_some_iff]
  refine ⟨slot, List.find?_range_eq_some.mpr ⟨?_, List.mem_range.mpr h,
    fun before hbefore => ?_⟩, rfl⟩
  · exact beq_self_eq_true _
  · have hother : settings.listen.basePort + before ≠ settings.listen.basePort + slot := by omega
    simpa [Listener.create] using hother

/-- The first client of a slot. -/
theorem dial_started {slot : Nat} (h : slot < settings.listen.slotCount)
    (hpositive : 0 < settings.listen.maxConnections) {network : Network}
    (hreaches : network.reaches (settings.listen.basePort + slot) = true) :
    (dial network (settings.listen.basePort + slot) (started settings)).1 =
      if settings.listen.maxConnections < 2 ^ 61 then .accepted slot else .unreachable := by
  rw [dial, find?_started h]
  dsimp only [Listener.create]
  rw [hreaches, Listener.mostCounted_eq, Bool.not_true, Bool.or_false]
  by_cases hcounted : settings.listen.maxConnections < 2 ^ 61
  · have hgoes : decide (2 ^ 61 - 1 < settings.listen.maxConnections) = false :=
      decide_eq_false (by omega)
    rw [hgoes, if_neg Bool.false_ne_true, if_neg (Nat.ne_of_gt hpositive), if_pos hcounted]
  · have hstops : decide (2 ^ 61 - 1 < settings.listen.maxConnections) = true :=
      decide_eq_true (by omega)
    rw [hstops, if_pos rfl, if_neg hcounted]

/-- A server with valid settings starts, and its slots answer their clients exactly if the
connections that a slot may have are fewer than 2 to the power of 61; otherwise every listener has
stopped. The other limits hold where they are used: a reader takes one byte more than the longest
line, or the greatest word of them, and the board has slots, a grid that fits and room in its status
log. -/
theorem valid_settings_answer_iff (settings : Settings) (h : settings.validate = .ok ()) :
    ∃ server, start settings = .ok server ∧
      server.listeners.map Listener.slot = List.range settings.listen.slotCount ∧
      (∀ listener ∈ server.listeners,
        listener.stopped = true ↔ ¬settings.listen.maxConnections < 2 ^ 61) ∧
      (∀ slot < settings.listen.slotCount, ∃ port, settings.portFor? slot = some port ∧
        ∀ network : Network, network.reaches port = true → (dial network port server).1 =
          if settings.listen.maxConnections < 2 ^ 61 then .accepted slot else .unreachable) ∧
      (server.maxLineLength = settings.listen.maxLineLength ∧ ∀ limit : UInt64,
        LineReader.mostTaken limit.toNat =
          ((SettingsWords.sum? limit 1).getD (UInt64.ofNat (2 ^ 64 - 1))).toNat) ∧
      server.board.slotCount = settings.listen.slotCount ∧ server.board.GridFits ∧
      1 ≤ server.board.statusCapacity := by
  obtain ⟨hsound, hports⟩ := Settings.fault?_eq_none_iff.mp (Settings.validate_eq_ok_iff.mp h)
  refine ⟨started settings, start_eq hports, ?_, ?_, fun slot hslot => ?_,
    ⟨rfl, LineReader.mostTaken_toNat⟩, List.length_replicate, ?_, ?_⟩
  · rw [started, List.map_map]
    exact List.map_id _
  · intro listener hlistener
    obtain ⟨slot, -, rfl⟩ := List.mem_map.mp hlistener
    rw [Listener.create, Listener.mostCounted_eq, decide_eq_true_iff]
    omega
  · exact ⟨_, Settings.portFor?_eq_some_iff.mpr ⟨rfl, by omega⟩,
      fun network hreaches => dial_started hslot hsound.maxConnections hreaches⟩
  · exact Board.gridFits_create hsound.slotCount.1 settings.board none
  · change 1 ≤ (Board.create settings.listen.slotCount settings.board none).statusCapacity
    rw [hsound.statusCapacity_create none]
    exact hsound.statusCapacity

/-- The most slots, each with the most connections that a listener counts. -/
theorem valid_settings_answer_iff_at_bounds :
    let settings : Settings :=
      { listen := { basePort := 64537, slotCount := 999, maxConnections := 2305843009213693951 } }
    settings.validate = .ok () ∧ ∃ server, start settings = .ok server ∧
      (dial .connected 65535 server).1 = .accepted 998 := by
  intro settings
  have hvalid : settings.validate = .ok () := by decide
  obtain ⟨server, hstart, -, -, hdial, -⟩ := valid_settings_answer_iff settings hvalid
  obtain ⟨port, hport, hanswer⟩ := hdial 998 (by decide)
  have hlast : settings.portFor? 998 = some 65535 := by decide
  obtain rfl := Option.some.inj (hlast.symm.trans hport)
  refine ⟨hvalid, server, hstart, ?_⟩
  rw [hanswer .connected rfl, if_pos (by decide)]

/-- The bytes of `{server: {max_connections_per_slot: 2305843009213693952}}`, a number of
connections that the check lets through and a listener cannot count. -/
def uncountedConnections : List UInt8 :=
  Utf8.encode "\x7bserver: \x7bmax_connections_per_slot: 2305843009213693952\x7d\x7d".toList

/-- Settings loaded from this file are valid and the server starts with a port for every slot, but
nobody reaches any of its slots. -/
theorem uncounted_connections_stop_listeners :
    ∃ settings server, Settings.load uncountedConnections = .ok settings ∧
      settings.validate = .ok () ∧ start settings = .ok server ∧
      ∀ slot < settings.listen.slotCount, ∃ port, settings.portFor? slot = some port ∧
        ∀ network, (dial network port server).1 = .unreachable := by
  have hloaded : (Settings.load uncountedConnections).toOption =
      some { listen := { maxConnections := 2305843009213693952 } } := by decide +kernel
  obtain ⟨settings, hload, rfl⟩ : ∃ settings, Settings.load uncountedConnections = .ok settings ∧
      settings = { listen := { maxConnections := 2305843009213693952 } } := by
    cases hload : Settings.load uncountedConnections with
    | error fault =>
        rw [hload] at hloaded
        cases hloaded
    | ok settings =>
        rw [hload] at hloaded
        exact ⟨settings, rfl, Option.some.inj hloaded⟩
  refine ⟨_, _, hload, by decide, start_eq (by decide), fun slot hslot => ?_⟩
  refine ⟨_, Settings.portFor?_eq_some_iff.mpr ⟨rfl, ?_⟩, fun network => ?_⟩
  · have hfew : slot < 10 := hslot
    change 9600 + slot ≤ 65535
    omega
  · rw [dial, find?_started hslot]
    rfl

end Server

end ChartBoard
