import ValRpi.Hotplug

/-!
# Ranges of modes

`getModeRange` takes the last and the first mode of a connector for its least
and its greatest one. The kernel lists the modes a display prefers first, and
then, as among these, larger areas first (`KernelOrder`). So the first mode need
not be the largest one, nor the widest one, nor the highest one.

* `DriDevice.modeRange_covers_iff` says when the range covers all modes, where it
  is returned and where the setup of a device stores it. What is stored is limited
  by the configured mode, too.
-/

namespace ValRpi

variable {k : Kernel} {h h' : History}

/-- The area of a mode. -/
def ModeInfo.area (m : ModeInfo) : ℕ := m.hdisplay * m.vdisplay

/-- The order in which the kernel lists modes: preferred ones first, and then by
    decreasing areas. -/
def KernelOrder (modes : List ModeInfo) : Prop :=
  ∃ preferred others, modes = preferred ++ others ∧
    preferred.Pairwise (fun m m' => m'.area ≤ m.area) ∧
      others.Pairwise fun m m' => m'.area ≤ m.area

/-- The range of a plugged connector is read off the ends of its list of modes. -/
theorem DrmConnector.getModeRange_of_plugged {conn : DrmConnector} {card : Card}
    (hcard : k.card h conn.mDrmModulefd = card) (hp : card.plugged conn.connectorId = true) :
    conn.getModeRange k h = .ok ((modeRange (card.modes conn.connectorId), conn.refresh card),
      .query (.connector conn.mDrmModulefd conn.connectorId) :: h) := by
  rw [Card.plugged, Option.any_eq_true] at hp
  obtain ⟨p, hp, hplugged⟩ := hp
  have hask : conn.isPlugged k h = .ok ((p.plugged, conn.refresh card),
      .query (.connector conn.mDrmModulefd conn.connectorId) :: h) :=
    isPlugged_eq_ok.2 ⟨p, by rw [hcard, hp], rfl, by rw [refresh, hp]; rfl, rfl⟩
  rw [getModeRange, Prog.bind_of_ok hask]
  dsimp only
  rw [hplugged, if_pos rfl, modes_refresh (by rw [hp]; rfl)]
  rfl

/-- Every mode is between two sizes. -/
def Spans (min max : Size) (modes : List ModeInfo) : Prop :=
  ∀ m ∈ modes, min.Within m.size ∧ m.size.Within max

instance (min max : Size) (modes : List ModeInfo) : Decidable (Spans min max modes) :=
  inferInstanceAs (Decidable (∀ m ∈ modes, _))

/-- No mode is wider or higher than the first one of the list, and none narrower
    or lower than the last one. -/
theorem spans_ends_iff {first last : ModeInfo} {modes : List ModeInfo} :
    Spans last.size first.size modes ↔ ∀ m ∈ modes,
      m.hdisplay ≤ first.hdisplay ∧ m.vdisplay ≤ first.vdisplay ∧
        last.hdisplay ≤ m.hdisplay ∧ last.vdisplay ≤ m.vdisplay := by
  refine forall₂_congr fun m _ => ?_
  simp only [Size.Within, ModeInfo.size]
  tauto

/-- What a size comes to bounds the mode that limits it, or the size does. -/
theorem within_clampMode_iff (m : ModeInfo) (s : Size) :
    m.size.Within (clampMode m s) ↔ m.Limits s ∨ m.size.Within s := by
  constructor
  · intro hw
    rcases clampMode_eq_or m s with hm | hs
    · exact .inl ((clampMode_eq_size_iff m s).1 hm)
    · rw [hs] at hw
      exact .inr hw
  · rintro (hlim | hw)
    · rw [(clampMode_eq_size_iff m s).2 hlim]
      exact ⟨le_rfl, le_rfl⟩
    · rcases clampMode_eq_or m s with hm | hs
      · rw [hm]
        exact ⟨le_rfl, le_rfl⟩
      · rwa [hs]

/-- A range of modes is still one of all modes once its greater size is clamped, if
    and only if the mode limits the configured size, or is within it. -/
theorem Spans.clamp_iff {min max : ModeInfo} {confMode : Size} {modes : List ModeInfo}
    (hc : Spans min.size max.size modes) (hmax : max ∈ modes) :
    Spans min.size (clampMode max confMode) modes ↔
      max.Limits confMode ∨ max.size.Within confMode := by
  rw [← within_clampMode_iff]
  constructor
  · exact fun hspans => (hspans max hmax).2
  · intro hw m hm
    obtain ⟨hmin, hle⟩ := hc m hm
    exact ⟨hmin, hle.1.trans hw.1, hle.2.trans hw.2⟩

namespace DriDevice

variable {d d' : DriDevice} {confMode : Size} {conn : DrmConnector} {first last : ModeInfo}

/-- The range of a connector covers its modes: the one that `getModeRange` returns,
    and the one that the setup stores in each CRTC that it gives to the connector. -/
structure RangeCovers (d : DriDevice) (k : Kernel) (h : History) (conn : DrmConnector)
    (d' : DriDevice) : Prop where
  returned : ∃ min max conn' h', conn.getModeRange k h = .ok ((some (min, max), conn'), h') ∧
    Spans min.size max.size ((k.card h d.drmModuleFd).modes conn.connectorId)
  stored : ∀ c ∈ d'.crtcList, d.givenTo (k.card h d.drmModuleFd) c = some conn.connectorId →
    Spans c.min c.max ((k.card h d.drmModuleFd).modes conn.connectorId)

/-- The range covers all modes if and only if none is wider or higher than the
    first one of the list, and none narrower or lower than the last one; and if
    the connector is given a CRTC, then the first one is within the configured mode
    or limits it. -/
theorem modeRange_covers_iff (hk : k.Steady) (hd : d.Sane)
    (hs : d.setupDevice confMode k h = .ok (d', h')) (hconn : conn ∈ d.connectorList)
    (hp : (k.card h d.drmModuleFd).plugged conn.connectorId = true)
    (hfirst : ((k.card h d.drmModuleFd).modes conn.connectorId).head? = some first)
    (hlast : ((k.card h d.drmModuleFd).modes conn.connectorId).getLast? = some last) :
    d.RangeCovers k h conn d' ↔
      (∀ m ∈ (k.card h d.drmModuleFd).modes conn.connectorId,
        m.hdisplay ≤ first.hdisplay ∧ m.vdisplay ≤ first.vdisplay ∧
          last.hdisplay ≤ m.hdisplay ∧ last.vdisplay ≤ m.vdisplay) ∧
      ((∃ c ∈ d.crtcList, d.givenTo (k.card h d.drmModuleFd) c = some conn.connectorId) →
        first.Limits confMode ∨ first.size.Within confMode) := by
  have hcard : k.card h conn.mDrmModulefd = k.card h d.drmModuleFd := by rw [hd.fds conn hconn]
  have hrange := DrmConnector.getModeRange_of_plugged hcard hp
  rw [DrmConnector.modeRange, hlast, hfirst, Option.bind_some, Option.map_some] at hrange
  have hcrtcs : d'.crtcList = d.crtcList.map (·.setUp (k.card h d.drmModuleFd) confMode
      (d.connectorList.map (·.connectorId))) := by
    rw [setupDevice_eq hk hd hs]
    rfl
  have hmem : first ∈ (k.card h d.drmModuleFd).modes conn.connectorId := List.mem_of_head? hfirst
  -- a CRTC that is given to the connector stores the ends of the list, clamped
  have hstored : (∀ c ∈ d'.crtcList, d.givenTo (k.card h d.drmModuleFd) c = some conn.connectorId →
      Spans c.min c.max ((k.card h d.drmModuleFd).modes conn.connectorId)) ↔
        ∀ c ∈ d.crtcList, d.givenTo (k.card h d.drmModuleFd) c = some conn.connectorId →
          Spans last.size (clampMode first confMode)
            ((k.card h d.drmModuleFd).modes conn.connectorId) := by
    rw [hcrtcs, List.forall_mem_map]
    refine forall₂_congr fun c _ => ?_
    simp only [givenTo, DrmCrtc.id_setUp]
    refine imp_congr_right fun hgiven => ?_
    rw [DrmCrtc.setUp_of_some hgiven, Card.maxMode, Card.minMode, hfirst, hlast]
    rfl
  rw [← spans_ends_iff]
  constructor
  · rintro ⟨⟨min, max, conn₁, h₂, hr, hc⟩, hst⟩
    rw [hrange] at hr
    cases hr
    refine ⟨hc, fun hex => ?_⟩
    obtain ⟨c, hcrtc, hgiven⟩ := hex
    exact (hc.clamp_iff hmem).1 (hstored.1 hst c hcrtc hgiven)
  · rintro ⟨hc, hlim⟩
    exact ⟨⟨last, first, _, _, hrange, hc⟩,
      hstored.2 fun c hcrtc hgiven => (hc.clamp_iff hmem).2 (hlim ⟨c, hcrtc, hgiven⟩)⟩

/-- A display whose larger mode is listed first. -/
theorem modeRange_covers_one_display : ∃ e h d' h' conn,
    DRIElements.new ⟨1920, 1080⟩ (.willing fun _ => .oneDisplay) [] = .ok (e, h) ∧
      e.primary.setupDevice ⟨1920, 1080⟩ (.willing fun _ => .oneDisplay) h = .ok (d', h') ∧
        conn ∈ e.primary.connectorList ∧
          e.primary.RangeCovers (.willing fun _ => .oneDisplay) h conn d' := by
  let k : Kernel := .willing fun _ => .oneDisplay
  have hrun : (DRIElements.new ⟨1920, 1080⟩ k []).map (fun s =>
      (s.1.primary.connectorList.map (·.connectorId),
        (s.1.primary.setupDevice ⟨1920, 1080⟩ k s.2).map fun _ => ())) = .ok ([21], .ok ()) := by
    decide +kernel
  obtain ⟨⟨e, h⟩, hnew, hobs⟩ := Prog.exists_of_map_eq_ok hrun
  obtain ⟨hids, hsetup⟩ := Prod.mk.inj hobs
  obtain ⟨⟨d', h'⟩, hsetup, _⟩ := Prog.exists_of_map_eq_ok hsetup
  obtain ⟨conn, hconns, hid⟩ := List.map_eq_singleton_iff.1 hids
  have hconn : conn ∈ e.primary.connectorList := by simp [hconns]
  have hs : k.Sane := Kernel.scripted_sane _ _ _ _ fun _ => Card.oneDisplay_sane
  have hplugged : Card.oneDisplay.plugged conn.connectorId = true := by rw [hid]; rfl
  have hmodes : Card.oneDisplay.modes conn.connectorId =
      [.progressive 1920 1080, .progressive 1280 720] := by rw [hid]; rfl
  have hfirst : (Card.oneDisplay.modes conn.connectorId).head? =
      some (.progressive 1920 1080) := by rw [hmodes]; rfl
  have hlast : (Card.oneDisplay.modes conn.connectorId).getLast? =
      some (.progressive 1280 720) := by rw [hmodes]; rfl
  refine ⟨e, h, d', h', conn, hnew, hsetup, hconn, (modeRange_covers_iff
    (Kernel.scripted_steady _ _ _ _) (DRIElements.kept_new hs hnew).sane hsetup hconn hplugged
      hfirst hlast).2 ⟨fun m hm => ?_, fun _ => .inl (.inl rfl)⟩⟩
  replace hm : m ∈ [ModeInfo.progressive 1920 1080, .progressive 1280 720] := hmodes ▸ hm
  revert m
  decide

/-- A display that prefers the smaller of its sizes: a larger one is not covered. -/
theorem modeRange_misses_larger : ∃ e h d' h' conn,
    DRIElements.new ⟨1920, 1080⟩ (.willing fun _ => .preferredDisplay) [] = .ok (e, h) ∧
      e.primary.setupDevice ⟨1920, 1080⟩ (.willing fun _ => .preferredDisplay) h = .ok (d', h') ∧
        conn ∈ e.primary.connectorList ∧
          KernelOrder (Card.preferredDisplay.modes conn.connectorId) ∧
            .progressive 1920 1080 ∈ Card.preferredDisplay.modes conn.connectorId ∧
              d'.crtcList.map (·.max) = [⟨1280, 720⟩] ∧
                ¬ e.primary.RangeCovers (.willing fun _ => .preferredDisplay) h conn d' := by
  let k : Kernel := .willing fun _ => .preferredDisplay
  have hrun : (DRIElements.new ⟨1920, 1080⟩ k []).map (fun s =>
      (s.1.primary.connectorList.map (·.connectorId),
        (s.1.primary.setupDevice ⟨1920, 1080⟩ k s.2).map fun r => r.1.crtcList.map (·.max))) =
          .ok ([21], .ok [⟨1280, 720⟩]) := by
    decide +kernel
  obtain ⟨⟨e, h⟩, hnew, hobs⟩ := Prog.exists_of_map_eq_ok hrun
  obtain ⟨hids, hsetup⟩ := Prod.mk.inj hobs
  obtain ⟨⟨d', h'⟩, hsetup, hmax⟩ := Prog.exists_of_map_eq_ok hsetup
  obtain ⟨conn, hconns, hid⟩ := List.map_eq_singleton_iff.1 hids
  have hconn : conn ∈ e.primary.connectorList := by simp [hconns]
  have hplugged : Card.preferredDisplay.plugged conn.connectorId = true := by rw [hid]; rfl
  have hmodes : Card.preferredDisplay.modes conn.connectorId = [.progressive 1280 720,
      .progressive 1920 1080, ⟨modeName 1280 720, 1280, 720, 50, 0⟩] := by rw [hid]; rfl
  have hlarger : .progressive 1920 1080 ∈ Card.preferredDisplay.modes conn.connectorId := by
    simp [hmodes]
  refine ⟨e, h, d', h', conn, hnew, hsetup, hconn, ⟨[_], _, hmodes, by decide, by decide⟩, hlarger,
    hmax, ?_⟩
  rintro ⟨⟨min, max, conn', h₁, hr, hc⟩, _⟩
  have hrange : conn.getModeRange k h = .ok ((DrmConnector.modeRange
      (Card.preferredDisplay.modes conn.connectorId), _), _) :=
    DrmConnector.getModeRange_of_plugged rfl hplugged
  rw [hrange, hmodes] at hr
  cases hr
  exact absurd (hc _ hlarger).2.1 (by decide)

end DriDevice

end ValRpi
