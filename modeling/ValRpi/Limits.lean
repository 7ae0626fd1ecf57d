import ValRpi.Renewal

/-!
# Limits of windows

The greatest mode of a CRTC and the size that a window shows are compared with
the limits of the device one after the other, each time in both dimensions but
for one of them only. So windows stay within the limits as long as no display is
taken whose greatest mode is larger in one dimension and smaller in the other
one (`ModeInfo.Skewed`, `limited_of_run`).
-/

namespace ValRpi

variable {k : Kernel} {h h' : History}

/-- A mode that is larger than a limit in one dimension, and smaller in the other
    one. -/
def ModeInfo.Skewed (m : ModeInfo) (limit : Size) : Prop :=
  m.hdisplay ≠ 0 ∧ m.vdisplay ≠ 0 ∧ (m.hdisplay < limit.w ∧ limit.h < m.vdisplay ∨
    m.vdisplay < limit.h ∧ limit.w < m.hdisplay)

instance (m : ModeInfo) (limit : Size) : Decidable (m.Skewed limit) :=
  inferInstanceAs (Decidable (_ ∧ _))

/-- All other modes are limited in both dimensions. -/
theorem clampMode_within_iff (m : ModeInfo) (limit : Size) :
    (clampMode m limit).Within limit ↔ ¬ m.Skewed limit := by
  rw [clampMode, ModeInfo.Skewed]
  split
  · simp only [Size.Within, ModeInfo.size]
    omega
  · simp only [Size.Within]
    omega

namespace ValVideoImpl

variable {v v' : ValVideoImpl} {caps : DeviceCapability}

/-- What a window may show next, and what it shows, is within the limits. -/
structure Limited (v : ValVideoImpl) : Prop where
  read : v.driElements.AllRead
  initialMode : v.driElements.mInitialMode = v.mDeviceCapability.mMaxResolution
  crtcs : ∀ wId c, v.Names wId c → c.max.Within v.mDeviceCapability.mMaxResolution
  windows : ∀ p ∈ v.logicalPlanes, p.maxSizeT.Within v.mDeviceCapability.mMaxResolution

theorem initialMode_of_asked {e' : DRIElements}
    (he : e' = v.driElements ∨ ∃ conns, e' = v.driElements.asked conns) :
    e'.mInitialMode = v.driElements.mInitialMode := by
  rcases he with rfl | ⟨conns, rfl⟩ <;> rfl

theorem limited_updatePlanes (hv : v.Limited) (hr : v.updatePlanes k h = .ok (v', h')) :
    v'.Limited := by
  obtain ⟨_, heq, hor⟩ := updatePlanes_eq_ok hr
  have hcaps : v'.mDeviceCapability = v.mDeviceCapability := by rw [heq]
  refine ⟨allRead_updatePlanes hv.read hr, ?_, fun wId c hc => ?_, fun p' hp' => ?_⟩
  · rw [hcaps, ← hv.initialMode]
    exact initialMode_of_asked (hor.imp_right fun heq => ⟨_, heq⟩)
  · rw [hcaps]
    exact hv.crtcs wId c ((names_updatePlanes hr).1 hc)
  · rw [logicalPlanes_updatePlanes hv.read.primary hr] at hp'
    obtain ⟨p, hp, rfl⟩ := List.mem_map.1 hp'
    rw [hcaps, renewed]
    cases hc : v.crtcOf p.wId with
    | none => exact hv.windows p hp
    | some c =>
      dsimp only
      split
      · exact hv.crtcs _ c ((crtcOf_eq_some hv.read.primary).1 hc)
      · exact hv.windows p hp

/-- The setup of the primary device, as it is in a state, gives no skewed mode to
    a CRTC that a sink names. -/
def Moderate (k : Kernel) (v : ValVideoImpl) (e : DRIElements) (h : History) : Prop :=
  ∀ d, e.mDeviceList.lookup v.driElements.mPrimaryDev = some d →
    ∀ conns rs h', d.read k h = .ok ((conns, rs), h') →
      ∀ wId c, v.Names wId c → ∀ r ∈ DriDevice.lastFor rs c.id,
        ¬ r.max.Skewed v.mDeviceCapability.mMaxResolution

/-- What the setup writes to a CRTC that a sink names is within the limits. -/
theorem within_written {rs : List Reading} {c : DrmCrtc} {limit : Size} (hmax : c.max.Within limit)
    (hrs : ∀ r ∈ DriDevice.lastFor rs c.id, ¬ r.max.Skewed limit) :
    (DriDevice.written limit rs c).max.Within limit := by
  rw [DriDevice.max_written]
  cases hlast : DriDevice.lastFor rs c.id with
  | none => exact hmax
  | some r => exact (clampMode_within_iff _ _).2 (hrs r hlast)

theorem limited_updateDevice (hv : v.Limited) {name : String}
    (hmod : name = v.driElements.mPrimaryDev → Moderate k v v.driElements h)
    (hu : v.updateDevice name k h = .ok (v', h')) : v'.Limited := by
  rcases updateDevice_cases hu with rfl | ⟨e', h₁, hu, hp⟩
  · exact hv
  have hread := DRIElements.allRead_updateDevice hv.read hu
  refine limited_updatePlanes ?_ hp
  rcases DRIElements.updateDevice_reads hv.read hu with
    ⟨_, rfl, _⟩ | ⟨d, conns, rs, hd, hasked, rfl⟩
  · exact hv
  refine ⟨hread, hv.initialMode, fun wId c hc => ?_, hv.windows⟩
  obtain ⟨sink, hsink, hmem, hid⟩ := hc
  rw [DRIElements.primary, lookup_mapSet] at hmem
  by_cases hname : v.driElements.mPrimaryDev == name
  · obtain rfl := eq_of_beq hname
    rw [if_pos hname, Option.getD_some] at hmem
    obtain ⟨c₀, hc₀, rfl⟩ := List.mem_map.1 hmem
    have hnames : v.Names wId c₀ := by
      refine ⟨sink, hsink, ?_, ?_⟩
      · rw [DRIElements.primary, hd]
        exact hc₀
      · rwa [DriDevice.crtcId_written] at hid
    rw [hv.initialMode]
    exact within_written (hv.crtcs wId c₀ hnames)
      (hmod rfl d hd conns rs _ hasked wId c₀ hnames)
  · rw [if_neg hname] at hmem
    exact hv.crtcs wId c ⟨sink, hsink, hmem, hid⟩

theorem limited_run {op : Op} (hv : v.Limited)
    (hmod : op = .updateDevice v.driElements.mPrimaryDev → Moderate k v v.driElements h)
    (hr : v.run op k h = .ok (v', h')) : v'.Limited := by
  have hread := allRead_run hv.read hr
  have hquiet (op : Op) (hq : Quiet op v v') : v'.Limited := by
    refine ⟨hread, ?_, fun wId c hc => ?_, ?_⟩
    · rw [initialMode_of_asked hq.elements, hq.capability, hv.initialMode]
    · rw [hq.capability]
      exact hv.crtcs wId c ((names_of_quiet hq).1 hc)
    · rw [hq.logicalPlanes, hq.capability]
      exact hv.windows
  rcases run_cases hr with ⟨name, rfl, hu⟩ | ⟨win, displayPath, r, e', rfl, ho, rfl⟩ | hq
  · exact limited_updateDevice hv (fun hname => hmod (by rw [hname])) hu
  · rcases ho.asked_or_switched with heq | ⟨e, conns, t, h₂, arg, fbId, hreach, _, ht, rfl⟩
    · exact hquiet (.setDisplayResolution win displayPath) (.of_elements (fun _ => rfl) heq)
    · refine ⟨hread, hv.initialMode, fun wId c hc => ?_, hv.windows⟩
      rcases names_of_switched ht hc with hc | ⟨_, hmax⟩
      · exact hv.crtcs wId c hc
      · -- a request out of range does not get here
        have hvalid := of_decide_eq_true hreach.1
        rw [hmax]
        exact ⟨hvalid.1, hvalid.2.1⟩
  · exact hquiet op hq

/-! ## Runs -/

theorem mPrimaryDev_updatePlanes (hr : v.updatePlanes k h = .ok (v', h')) :
    v'.driElements.mPrimaryDev = v.driElements.mPrimaryDev := by
  rcases (updatePlanes_eq_ok hr).2.2 with heq | heq
  · rw [heq]
  · rw [heq]
    rfl

/-- The constructor sets up the primary device. -/
theorem limited_new (hs : k.Sane) (hnew : new caps k [] = .ok (v, h))
    (hstart : ∀ e₀ h₀, DRIElements.loadResources
      { mInitialMode := caps.mMaxResolution, mConfiguredMode := caps.mMaxResolution } k [] =
        .ok (e₀, h₀) → Moderate k v e₀ h₀) : v.Limited := by
  obtain ⟨e, h₁, he, hinit⟩ := new_eq_ok hnew
  obtain ⟨physical, sinks, hp⟩ := init_updatePlanes hinit
  have hread := (DRIElements.allRead_new hs he).asked e.primary.connectorList
  refine limited_updatePlanes ⟨hread, (DRIElements.kept_new hs he).initialMode, fun wId c hc => ?_,
    fun p hp => ?_⟩ hp
  · have hnames := (names_updatePlanes hp).2 hc
    obtain ⟨_, _, hmem, _⟩ := hc
    rw [DRIElements.primary_touch] at hmem
    obtain ⟨e₀, h₀, hload, hend⟩ := DRIElements.new_eq_ok he
    obtain ⟨⟨devices, rfl⟩, hblank, huntouched⟩ := DRIElements.loadResources_spec rfl hload
    rcases hend with ⟨rfl, _, hnone⟩ | ⟨name, d₀, d₁, d₂, h₂, _, hd₀, hsetup, hmodes, rfl⟩
    · rw [DRIElements.primary, hnone] at hmem
      cases hmem
    rw [DRIElements.primary, lookup_mapSet, beq_self_eq_true, if_pos rfl] at hmem
    have hcrtcs := (huntouched hs _ (Lists.mem_of_lookup hd₀)).sane.readCrtcs
    rw [DRIElements.confMode_eq] at hsetup
    obtain ⟨conns, rs, hasked, rfl⟩ := DriDevice.setupDevice_reads hcrtcs hsetup
    -- the CRTC as it was loaded, written to, and then given its mode
    obtain ⟨c₁, hc₁, _, _, heq⟩ :=
      Prog.exists_rel_of_mem (DRIElements.rescanned_of_setActiveModes hmodes) hmem
    obtain ⟨c₀, hc₀, rfl⟩ := List.mem_map.1 hc₁
    have hid : c.id = c₀.id := by
      rw [heq]
      exact DriDevice.id_written rs c₀
    have hprimary : v.driElements.mPrimaryDev = name := mPrimaryDev_updatePlanes hp
    have hcaps : v.mDeviceCapability = caps := by rw [(updatePlanes_eq_ok hp).2.1]
    rw [heq]
    refine within_written ?_ fun r hr => ?_
    · rw [(hblank _ (Lists.mem_of_lookup hd₀) c₀ hc₀).max]
      exact ⟨Nat.zero_le _, Nat.zero_le _⟩
    · have hmod := hstart _ _ hload d₀ (hprimary ▸ hd₀) conns rs _ hasked wId c hnames r (hid ▸ hr)
      rwa [hcaps] at hmod
  · obtain ⟨q, _, rfl⟩ := List.mem_map.1 hp
    exact ⟨le_rfl, le_rfl⟩

/-- The windows stay within the limits as long as no display is taken whose
    greatest mode is larger in one dimension and smaller in the other one. -/
theorem limited_of_run (hs : k.Sane) {v₀ : ValVideoImpl} {h₀ : History} {ops : List Op}
    (hnew : new caps k [] = .ok (v₀, h₀))
    (hstart : ∀ e h, DRIElements.loadResources
      { mInitialMode := caps.mMaxResolution, mConfiguredMode := caps.mMaxResolution } k [] =
        .ok (e, h) → Moderate k v₀ e h)
    (hrun : Run (Run.when (fun s op => op = .updateDevice s.1.driElements.mPrimaryDev →
      Moderate k s.1 s.1.driElements s.2) (Step k)) (v₀, h₀) ops (v, h)) :
    ∀ p ∈ v.getVideoPlanes, p.maxSizeT.Within v.mDeviceCapability.mMaxResolution := by
  refine (hrun.invariant (fun s : ValVideoImpl × History => s.1.Limited)
    (limited_new hs hnew hstart) ?_).windows
  rintro ⟨v, h⟩ op ⟨v', h'⟩ hv ⟨hmod, hstep⟩
  exact limited_run hv hmod hstep

/-- Updates of a display within the limits. -/
theorem limited_of_run_one_display : ∃ v₀ h₀ v h,
    new .fullHd (.willing fun _ => .oneDisplay) [] = .ok (v₀, h₀) ∧
      Run (Step (.willing fun _ => .oneDisplay)) (v₀, h₀) [.updateDevice "/dev/dri/card0"] (v, h) ∧
      ∀ p ∈ v.getVideoPlanes, p.maxSizeT.Within v.mDeviceCapability.mMaxResolution := by
  let k : Kernel := .willing fun _ => .oneDisplay
  -- all modes that are read from the card at a time
  let modest (s : DRIElements × History) : Option (Except Fault Bool) :=
    (s.1.mDeviceList.lookup "/dev/dri/card0").map fun d => (d.read k s.2).map
      fun (p : (List DrmConnector × List Reading) × History) =>
        decide (∀ r ∈ p.1.2, ¬ r.max.Skewed ⟨1920, 1080⟩)
  have hload : (DRIElements.loadResources ⟨"", [], ⟨1920, 1080⟩, ⟨1920, 1080⟩⟩ k []).map modest =
      .ok (some (.ok true)) := by
    decide +kernel
  have hrun : (new .fullHd k []).map (fun s => ((s.1.driElements.mPrimaryDev,
      s.1.mDeviceCapability.mMaxResolution), modest (s.1.driElements, s.2),
        (s.1.run (.updateDevice "/dev/dri/card0") k s.2).map fun _ => ())) =
      .ok (("/dev/dri/card0", ⟨1920, 1080⟩), some (.ok true), .ok ()) := by
    decide +kernel
  obtain ⟨⟨v₀, h₀⟩, hnew, hobs⟩ := Prog.exists_of_map_eq_ok hrun
  obtain ⟨hobs, hupdate⟩ := Prod.mk.inj hobs
  obtain ⟨hprimary, hcaps⟩ := Prod.mk.inj hobs
  obtain ⟨hmodest, hupdate⟩ := Prod.mk.inj hupdate
  obtain ⟨⟨v, h⟩, hupdate, _⟩ := Prog.exists_of_map_eq_ok hupdate
  have hmod (s : DRIElements × History) (hs : modest s = some (.ok true)) :
      Moderate k v₀ s.1 s.2 := by
    intro d hd conns rs h' hread wId c _ r hr
    dsimp only at hprimary hcaps
    rw [hprimary] at hd
    dsimp only [modest] at hs
    rw [hd, Option.map_some, hread] at hs
    rw [hcaps]
    exact of_decide_eq_true (Except.ok.inj (Option.some.inj hs)) r (DriDevice.mem_of_lastFor hr).1
  have hstep : Step k (v₀, h₀) (.updateDevice "/dev/dri/card0") (v, h) := hupdate
  refine ⟨v₀, h₀, v, h, hnew, .step .nil hstep, limited_of_run
    (Kernel.scripted_sane _ _ _ _ fun _ => Card.oneDisplay_sane) hnew (fun e h he => ?_)
    (.step .nil ⟨fun _ => hmod _ hmodest, hstep⟩)⟩
  refine hmod (e, h) ?_
  have hloaded : DRIElements.loadResources ⟨"", [], ⟨1920, 1080⟩, ⟨1920, 1080⟩⟩ k [] =
      .ok (e, h) := he
  rw [hloaded] at hload
  exact Except.ok.inj hload

/-- A display that is wider and lower than the limits: its width is taken. -/
theorem limited_lost_with_wide_display : ∃ v h,
    new .fullHd (.willing fun _ => .wideDisplay) [] = .ok (v, h) ∧
      v.mDeviceCapability.mMaxResolution = ⟨1920, 1080⟩ ∧
        ∃ p ∈ v.getVideoPlanes, p.maxSizeT = ⟨2560, 1000⟩ ∧
          ¬ p.maxSizeT.Within v.mDeviceCapability.mMaxResolution := by
  have hrun : (new .fullHd (.willing fun _ => .wideDisplay) []).map (fun s =>
      (s.1.mDeviceCapability.mMaxResolution,
        decide (∃ p ∈ s.1.getVideoPlanes, p.maxSizeT = ⟨2560, 1000⟩))) =
      .ok (⟨1920, 1080⟩, true) := by
    decide +kernel
  obtain ⟨⟨v, h⟩, hnew, hobs⟩ := Prog.exists_of_map_eq_ok hrun
  obtain ⟨hcaps, hobs⟩ := Prod.mk.inj hobs
  obtain ⟨p, hp, hmax⟩ := of_decide_eq_true hobs
  refine ⟨v, h, hnew, hcaps, p, hp, hmax, fun hwithin => ?_⟩
  dsimp only at hcaps
  rw [hmax, hcaps] at hwithin
  exact absurd hwithin.1 (by decide)

end ValVideoImpl

end ValRpi
