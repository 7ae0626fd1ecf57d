import ValRpi.Modes
import ValRpi.Readings

/-!
# The mode that is chosen

For each plugged connector with a CRTC, the setup chooses a size: that of the
first mode of the connector, or the configured one. The constructor then asks
for the mode of this size, by name.

* `startUp_admissible_iff`: the size is within the configured one and has a mode
  if and only if one of these two sizes is the smaller one in both dimensions,
  and has a progressive mode. No other mode of the list is looked at.
-/

namespace ValRpi

variable {k : Kernel} {h h' : History}

/-- A size is within the configured one, and `setActiveMode` finds a mode for it. -/
def Admissible (confMode : Size) (conn : DrmConnector) (s : Size) : Prop :=
  s.Within confMode ∧ conn.isModeSupported (modeName s.w s.h) = true

/-- A connector has a progressive mode of a size. -/
def DrmConnector.Progressive (conn : DrmConnector) (s : Size) : Prop :=
  ∃ m ∈ conn.mConnectorPtr.modes, m.size = s ∧ m.interlaced = false

theorem isModeSupported_iff {conn : DrmConnector} (hnamed : ∀ m ∈ conn.mConnectorPtr.modes, m.Named)
    (s : Size) : conn.isModeSupported (modeName s.w s.h) = true ↔ conn.Progressive s := by
  rw [DrmConnector.isModeSupported, List.any_eq_true, DrmConnector.Progressive]
  refine exists_congr fun m => and_congr_right fun hm => ?_
  rw [← modeName_eq_iff (hnamed m hm) s]
  simp [DrmConnector.isMode]

/-- The size that is chosen from the first mode is admissible if it is a size of a
    progressive mode, and the smaller one of the two. -/
theorem clampMode_admissible_iff {conn : DrmConnector} {confMode : Size} {first : ModeInfo}
    (hnamed : ∀ m ∈ conn.mConnectorPtr.modes, m.Named)
    (hfirst : first.hdisplay ≠ 0 ∧ first.vdisplay ≠ 0) :
    Admissible confMode conn (clampMode first confMode) ↔
      first.size.Within confMode ∧ conn.Progressive first.size ∨
        confMode.Within first.size ∧ conn.Progressive confMode := by
  rw [Admissible, isModeSupported_iff hnamed, clampMode]
  split
  next hsmall =>
    -- the size of the connector is smaller in one dimension
    have hnot : ¬ confMode.Within first.size := by
      simp only [Size.Within, ModeInfo.size]
      omega
    simp [hnot]
  next hlarge =>
    have hle : confMode.Within first.size := by
      simp only [Size.Within, ModeInfo.size]
      omega
    have hself : confMode.Within confMode := ⟨le_rfl, le_rfl⟩
    refine ⟨fun hc => .inr ⟨hle, hc.2⟩, fun hor => ⟨hself, ?_⟩⟩
    rcases hor with ⟨hge, hc⟩ | ⟨_, hc⟩
    · have heq : first.size = confMode := by
        ext
        exacts [le_antisymm hge.1 hle.1, le_antisymm hge.2 hle.2]
      exact heq ▸ hc
    · exact hc

/-- The size of a CRTC that the setup gave to a connector is chosen from the first
    mode of the connector. -/
theorem max_of_setupDevice {d d' : DriDevice} {confMode : Size} (hd : d.Untouched)
    (hs : d.setupDevice confMode k h = .ok (d', h')) {conn : DrmConnector}
    (hconn : conn ∈ d'.connectorList) {c : DrmCrtc} (hc : c ∈ d'.crtcList)
    (hgiven : c.connectors = [conn.connectorId]) (hplugged : conn.mConnectorPtr.plugged = true)
    {first : ModeInfo} (hfirst : conn.mConnectorPtr.modes.head? = some first) :
    c.max = clampMode first confMode := by
  have hids := (DriDevice.sane_of_setupDevice hd.sane hs).connectorIds
  obtain ⟨conns, rs, hread, rfl⟩ := DriDevice.setupDevice_reads hd.sane.readCrtcs hs
  obtain ⟨c₀, hc₀, rfl⟩ := List.mem_map.1 hc
  rw [DriDevice.max_written]
  rw [DriDevice.connectors_written] at hgiven
  cases hlast : DriDevice.lastFor rs c₀.id with
  | none =>
    rw [hlast, Option.map_none, Option.getD_none, (hd.blank c₀ hc₀).connectors] at hgiven
    cases hgiven
  | some r =>
    -- the connector that the reading is of
    rw [DriDevice.read, Prog.bind_eq_ok] at hread
    obtain ⟨_, h₁, _, hread⟩ := hread
    obtain ⟨conn', hconn', hof⟩ := Prog.mem_gather Reading.Of (fun _ _ _ _ _ => readConnector_of)
      hread (DriDevice.mem_of_lastFor hlast).1
    rw [hlast, Option.map_some, Option.getD_some, List.singleton_inj, hof.connId] at hgiven
    obtain rfl := Lists.eq_of_key_eq hids hconn' hconn hgiven
    have hmax : r.max = first := by
      rw [Reading.max, Reading.range, hof.plugged, hplugged, if_pos rfl,
        DrmConnector.getD_modeRange, hof.modes, hfirst]
      rfl
    rw [Option.map_some, Option.getD_some, hmax]

/-- At start-up, the size chosen for a plugged connector is admissible if and only
    if the size of its first mode is not larger than the configured one and has a
    progressive mode, or is not smaller and the configured one has one. -/
theorem startUp_admissible_iff (hs : k.Sane) {confMode : Size} {name : String} {e : DRIElements}
    (hr : DRIElements.startUp confMode k [] = .ok ((some name, e), h)) {d : DriDevice}
    (hd : e.mDeviceList.lookup name = some d) {conn : DrmConnector} (hconn : conn ∈ d.connectorList)
    {c : DrmCrtc} (hc : c ∈ d.crtcList) (hgiven : c.connectors = [conn.connectorId])
    (hplugged : conn.mConnectorPtr.plugged = true)
    (hnamed : ∀ m ∈ conn.mConnectorPtr.modes, m.Named)
    (hne : ∀ m ∈ conn.mConnectorPtr.modes, m.hdisplay ≠ 0 ∧ m.vdisplay ≠ 0) {first : ModeInfo}
    (hfirst : conn.mConnectorPtr.modes.head? = some first) : Admissible confMode conn c.max ↔
      first.size.Within confMode ∧ conn.Progressive first.size ∨
        confMode.Within first.size ∧ conn.Progressive confMode := by
  obtain ⟨e₀, h₀, hload, hend⟩ := DRIElements.startUp_eq_ok hr
  obtain ⟨⟨devices, rfl⟩, _, huntouched⟩ := DRIElements.loadResources_spec rfl hload
  rcases hend with ⟨hnone, _⟩ | ⟨name', d₀, d₁, hname, _, hd₀, hsetup, rfl⟩
  · cases hnone
  obtain rfl := Option.some.inj hname
  rw [lookup_mapSet, beq_self_eq_true, if_pos rfl] at hd
  obtain rfl := Option.some.inj hd
  rw [DRIElements.confMode_eq] at hsetup
  rw [max_of_setupDevice (huntouched hs _ (Lists.mem_of_lookup hd₀)) hsetup hconn hc hgiven
    hplugged hfirst]
  exact clampMode_admissible_iff hnamed (hne first (List.mem_of_mem_head? hfirst))

/-- Full HD is chosen for a display that has it first. -/
theorem startUp_admissible_one_display : ∃ e h d conn c,
    DRIElements.startUp ⟨1920, 1080⟩ (.willing fun _ => .oneDisplay) [] =
      .ok ((some "/dev/dri/card0", e), h) ∧ e.mDeviceList.lookup "/dev/dri/card0" = some d ∧
        conn ∈ d.connectorList ∧ c ∈ d.crtcList ∧ Admissible ⟨1920, 1080⟩ conn c.max := by
  have hrun : (DRIElements.startUp ⟨1920, 1080⟩ (.willing fun _ => .oneDisplay) []).map (fun s =>
      (s.1.1, (s.1.2.mDeviceList.lookup "/dev/dri/card0").any fun d =>
        decide (∃ conn ∈ d.connectorList, ∃ c ∈ d.crtcList, c.connectors = [conn.connectorId] ∧
          conn.mConnectorPtr.plugged = true ∧ (∀ m ∈ conn.mConnectorPtr.modes, m.Named) ∧
            (∀ m ∈ conn.mConnectorPtr.modes, m.hdisplay ≠ 0 ∧ m.vdisplay ≠ 0) ∧
              conn.mConnectorPtr.modes.head? = some (.progressive 1920 1080)))) =
      .ok (some "/dev/dri/card0", true) := by
    decide +kernel
  obtain ⟨⟨⟨device, e⟩, h⟩, hstart, hobs⟩ := Prog.exists_of_map_eq_ok hrun
  obtain ⟨rfl, hobs⟩ := Prod.mk.inj hobs
  obtain ⟨d, hd, hobs⟩ := (Option.any_eq_true _ _).1 hobs
  obtain ⟨conn, hconn, c, hc, hgiven, hplugged, hnamed, hne, hfirst⟩ := of_decide_eq_true hobs
  refine ⟨e, h, d, conn, c, hstart, hd, hconn, hc, ?_⟩
  refine (startUp_admissible_iff (Kernel.scripted_sane _ _ _ _ fun _ => Card.oneDisplay_sane) hstart
    hd hconn hc hgiven hplugged hnamed hne hfirst).2 (.inl ⟨by decide, ?_⟩)
  exact ⟨_, List.mem_of_mem_head? hfirst, rfl, by decide⟩

/-- A display that is wider and lower than Full HD: its first mode is chosen, though
    a smaller one is listed. -/
theorem startUp_takes_wide_mode : ∃ e h d,
    DRIElements.startUp ⟨1920, 1080⟩ (.willing fun _ => .wideDisplay) [] =
      .ok ((some "/dev/dri/card0", e), h) ∧ e.mDeviceList.lookup "/dev/dri/card0" = some d ∧
        ∃ conn ∈ d.connectorList, ∃ c ∈ d.crtcList, c.connectors = [conn.connectorId] ∧
          conn.mConnectorPtr.plugged = true ∧ (∀ m ∈ conn.mConnectorPtr.modes, m.Named ∧
            m.hdisplay ≠ 0 ∧ m.vdisplay ≠ 0) ∧ (∃ m ∈ conn.mConnectorPtr.modes,
              m.interlaced = false ∧ m.size.Within ⟨1920, 1080⟩) ∧
                c.max = ⟨2560, 1000⟩ ∧ ¬ Admissible ⟨1920, 1080⟩ conn c.max := by
  have hrun : (DRIElements.startUp ⟨1920, 1080⟩ (.willing fun _ => .wideDisplay) []).map (fun s =>
      (s.1.1, (s.1.2.mDeviceList.lookup "/dev/dri/card0").any fun d =>
        decide (∃ conn ∈ d.connectorList, ∃ c ∈ d.crtcList, c.connectors = [conn.connectorId] ∧
          conn.mConnectorPtr.plugged = true ∧ (∀ m ∈ conn.mConnectorPtr.modes, m.Named ∧
            m.hdisplay ≠ 0 ∧ m.vdisplay ≠ 0) ∧ (∃ m ∈ conn.mConnectorPtr.modes,
              m.interlaced = false ∧ m.size.Within ⟨1920, 1080⟩) ∧ c.max = ⟨2560, 1000⟩))) =
      .ok (some "/dev/dri/card0", true) := by
    decide +kernel
  obtain ⟨⟨⟨device, e⟩, h⟩, hstart, hobs⟩ := Prog.exists_of_map_eq_ok hrun
  obtain ⟨rfl, hobs⟩ := Prod.mk.inj hobs
  obtain ⟨d, hd, hobs⟩ := (Option.any_eq_true _ _).1 hobs
  obtain ⟨conn, hconn, c, hc, hgiven, hplugged, hnamed, hfits, hmax⟩ := of_decide_eq_true hobs
  refine ⟨e, h, d, hstart, hd, conn, hconn, c, hc, hgiven, hplugged, hnamed, hfits, hmax, ?_⟩
  rintro ⟨hwithin, _⟩
  rw [hmax] at hwithin
  exact absurd hwithin.1 (by decide)

end ValRpi
