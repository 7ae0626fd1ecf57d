import ValRpi.Effects

/-!
# What runs keep

The primary device in the states that are reached from the constructor.

* A mode change refreshes the connectors, and gives one CRTC another framebuffer
  and another greatest mode (`DriDevice.Remoded`); so do the mode sets of the
  constructor.
* `DRIElements.Kept` is what every step keeps: the objects of the primary
  device can be told apart, the initial mode stays, and the configured mode is
  that of the last mode change that was done (`DRIElements.lastConfigured`).
* `primary_updateDevice` is the state after an update.
-/

namespace ValRpi

variable {k : Kernel} {h h' : History}

/-! ## Mode sets -/

/-- The same CRTC, with another framebuffer and another greatest mode. -/
def DrmCrtc.Remoded (c c' : DrmCrtc) : Prop :=
  ∃ fbId bo max, c' = { c with scanoutFbId := fbId, boHandle := bo, max := max }

theorem DrmCrtc.Remoded.refl (c : DrmCrtc) : c.Remoded c :=
  ⟨c.scanoutFbId, c.boHandle, c.max, rfl⟩

theorem remoded_refl (crtcs : List DrmCrtc) : List.Forall₂ DrmCrtc.Remoded crtcs crtcs :=
  List.forall₂_same.2 fun c _ => .refl c

/-- What setting modes does to a device. -/
structure DriDevice.Remoded (d d' : DriDevice) : Prop where
  connectors : List.Forall₂ DrmConnector.Refreshed d.connectorList d'.connectorList
  crtcs : List.Forall₂ DrmCrtc.Remoded d.crtcList d'.crtcList
  rest : d' = { d with connectorList := d'.connectorList, crtcList := d'.crtcList }

theorem DrmCrtc.Rescanned.remoded {c c' : DrmCrtc} (hc : c.Rescanned c') : c.Remoded c' := by
  obtain ⟨fbId, bo, rfl⟩ := hc
  exact ⟨fbId, bo, c.max, rfl⟩

theorem refreshed_of_setActiveMode {fd : ℤ} {conns conns' : List DrmConnector}
    {crtc crtc' : DrmCrtc} {width height vRefresh : ℕ} {ret : ℤ}
    (hr : setActiveMode fd conns crtc width height vRefresh k h =
      .ok (((ret, conns'), crtc'), h')) : List.Forall₂ DrmConnector.Refreshed conns conns' := by
  obtain ⟨found, h₁, hfind, _⟩ := setActiveMode_cases hr
  exact (findMode_spec hfind).1

namespace DRIElements

variable {e e' : DRIElements}

theorem remoded_of_setActiveModes {d d' : DriDevice} (hr : setActiveModes d k h = .ok (d', h')) :
    d.Remoded d' := by
  have hcrtcs : List.Forall₂ DrmCrtc.Remoded d.crtcList d'.crtcList :=
    (rescanned_of_setActiveModes hr).imp fun _ _ => DrmCrtc.Rescanned.remoded
  rw [setActiveModes, Prog.bind_eq_ok] at hr
  obtain ⟨⟨crtcs, conns⟩, h₁, hloop, hr⟩ := hr
  rw [Prog.pure_eq_ok] at hr
  cases hr
  refine ⟨?_, hcrtcs, rfl⟩
  refine Prog.forEach_invariant
    (fun conns _ => List.Forall₂ DrmConnector.Refreshed d.connectorList conns)
    (fun crtc _ conns crtc' conns' _ _ hinv hf => ?_) (refreshed_refl _) hloop
  simp only [Prog.bind_eq_ok, Prog.pure_eq_ok] at hf
  obtain ⟨⟨⟨ret, conns₁⟩, c₁⟩, _, hset, hf⟩ := hf
  cases hf
  exact refreshed_trans hinv (refreshed_of_setActiveMode hset)

/-- A mode change sets the mode of the primary device, and the configured mode
    if it is done. -/
theorem changeMode_spec {width height : ℕ} {displayPath : UInt8} {ret : ℤ}
    (hc : Changed e k h width height displayPath ret e' h') :
    ∃ d, e.primary.Remoded d ∧ e' = { e.setPrimary d with
      mConfiguredMode := if ret = 1 then ⟨width, height⟩ else e.mConfiguredMode } := by
  have hasked {target : Option Target} {conns : List DrmConnector} {h₁ : History}
      (ht : e.primary.findTarget width height displayPath k h = .ok ((target, conns), h₁)) :
      e.primary.Remoded { e.primary with connectorList := conns } :=
    ⟨(DriDevice.findTarget_spec ht).1, remoded_refl _, rfl⟩
  cases hc with
  | noTarget ht => exact ⟨_, hasked ht, rfl⟩
  | refused ht hg => exact ⟨_, hasked ht, rfl⟩
  | @granted conns h₁ t arg fbId _ ht hg =>
    obtain ⟨hconns, htarget⟩ := DriDevice.findTarget_spec ht
    refine ⟨_, ⟨hconns, ?_, rfl⟩, rfl⟩
    rw [(htarget t rfl).crtcList]
    exact List.rel_append (remoded_refl _) (.cons ⟨_, _, _, rfl⟩ (remoded_refl _))

/-! ## Updates -/

/-- The card of the primary device. -/
def card (e : DRIElements) (k : Kernel) (h : History) : Card := k.card h e.primary.drmModuleFd

/-- On a steady kernel, an update of the primary device sets it up as the card
    then is. -/
theorem primary_updateDevice (hk : k.Steady) (he : e.primary.Sane) {called : Bool}
    (hr : e.updateDevice e.mPrimaryDev k h = .ok ((called, e'), h')) :
    ∃ card, k.card h e.primary.drmModuleFd = card ∧ k.card h' e'.primary.drmModuleFd = card ∧
      e'.primary.connectorList = e.primary.connectorList.map (·.setUp card) ∧
      e'.primary.crtcList = e.primary.crtcList.map
        (·.setUp card e.mInitialMode (e.primary.connectorList.map (·.connectorId))) := by
  refine ⟨_, rfl, ?_⟩
  rcases updateDevice_eq_ok hr with ⟨hnone, rfl, rfl⟩ | ⟨d, d', hd, hs, rfl⟩
  · have hempty : e'.primary = {} := by rw [primary, hnone]; rfl
    rw [hempty]
    exact ⟨rfl, rfl, rfl⟩
  · have hprimary : e.primary = d := by rw [primary, hd]; rfl
    have hprimary' : primary { e with mDeviceList := mapSet e.mPrimaryDev d' e.mDeviceList } = d' :=
      e.primary_setPrimary d'
    rw [hprimary', hprimary]
    rw [hprimary] at he
    have hcard : k.card h' d.drmModuleFd = k.card h d.drmModuleFd :=
      hk.card_eq (DriDevice.asks_setupDevice _ _) hs
    rw [confMode_eq] at hs
    obtain rfl := DriDevice.setupDevice_eq hk he hs
    exact ⟨hcard, rfl, rfl⟩

/-! ## Runs -/

/-- The size of the last mode change that was done, of a sequence of operations
    with their results, the newest one first. -/
def lastConfigured (initial : Size) : List (Op × ℤ) → Size
  | [] => initial
  | (.changeMode width height _ _, ret) :: ls =>
    if ret = 1 then ⟨width, height⟩ else lastConfigured initial ls
  | _ :: ls => lastConfigured initial ls

/-- What every step keeps of the primary device and of the modes. -/
structure Kept (initial : Size) (ls : List (Op × ℤ)) (e : DRIElements) : Prop where
  sane : e.primary.Sane
  initialMode : e.mInitialMode = initial
  configuredMode : e.mConfiguredMode = lastConfigured initial ls

end DRIElements

namespace DriDevice

variable {d d' : DriDevice}

theorem Remoded.mCrtc (hr : d.Remoded d') :
    d'.crtcList.map DrmCrtc.mCrtc = d.crtcList.map DrmCrtc.mCrtc :=
  Prog.map_eq_of_forall₂ (fun _ _ ⟨_, _, _, heq⟩ => by rw [heq]) hr.crtcs

theorem Remoded.sane (hr : d.Remoded d') (hd : d.Sane) : d'.Sane := by
  refine hd.keep (hr.connectors.imp fun _ _ => DrmConnector.Refreshed.rerouted) hr.mCrtc ?_ ?_
  · rw [hr.rest]
  · rw [hr.rest]

theorem mCrtc_of_setupDevice {confMode : Size} (hs : d.setupDevice confMode k h = .ok (d', h')) :
    d'.crtcList.map DrmCrtc.mCrtc = d.crtcList.map DrmCrtc.mCrtc :=
  mCrtc_of_refit (refit_of_setupDevice hs).2

theorem sane_of_setupDevice {confMode : Size} (hd : d.Sane)
    (hs : d.setupDevice confMode k h = .ok (d', h')) : d'.Sane := by
  obtain ⟨_, _, _, _, _, hrest⟩ := setupDevice_eq_ok hs
  refine hd.keep (refit_of_setupDevice hs).1 (mCrtc_of_setupDevice hs) ?_ ?_
  · rw [hrest]
  · rw [hrest]

end DriDevice

namespace DRIElements

variable {e e' e₀ : DRIElements} {h₀ : History} {defMode : Size} {ls : List (Op × ℤ)}

theorem kept_new (hs : k.Sane) (hnew : new defMode k h = .ok (e, h')) : Kept defMode [] e := by
  obtain ⟨e₀, h₀, hload, hnew⟩ := new_eq_ok hnew
  obtain ⟨⟨devices, rfl⟩, _, huntouched⟩ := loadResources_spec rfl hload
  rcases hnew with ⟨rfl, rfl, hnone⟩ | ⟨name, d₀, d₁, d₂, h₁, _, hd₀, hsetup, hmodes, rfl⟩
  · obtain rfl : devices = [] := hnone
    exact ⟨DriDevice.Sane.empty, rfl, rfl⟩
  · refine ⟨?_, rfl, rfl⟩
    have hd₀' := (huntouched hs _ (Lists.mem_of_lookup hd₀)).sane
    have hd₂ := (remoded_of_setActiveModes hmodes).sane (DriDevice.sane_of_setupDevice hd₀' hsetup)
    simpa [primary, lookup_mapSet] using hd₂

theorem kept_updateDevice (hk : Kept defMode ls e) {name : String} {called : Bool}
    (hr : e.updateDevice name k h = .ok ((called, e'), h')) : Kept defMode ls e' := by
  rcases updateDevice_eq_ok hr with ⟨_, rfl, _⟩ | ⟨d, d', hd, hs, rfl⟩
  · exact hk
  · refine ⟨?_, hk.initialMode, hk.configuredMode⟩
    rw [primary, lookup_mapSet]
    by_cases hname : e.mPrimaryDev == name
    · rw [if_pos hname]
      have hprimary : e.primary = d := by rw [primary, eq_of_beq hname, hd]; rfl
      exact DriDevice.sane_of_setupDevice (hprimary ▸ hk.sane) hs
    · rw [if_neg hname]
      exact hk.sane

theorem kept_step {s s' : DRIElements × History} {l : Op × ℤ} (hk : Kept defMode ls s.1)
    (hstep : Step k s l s') : Kept defMode (l :: ls) s'.1 := by
  obtain ⟨op, ret⟩ := l
  rcases step_cases hstep with ⟨hop, heq⟩ | ⟨name, called, hop, hu⟩ |
    ⟨width, height, displayPath, vRefresh, hop, hc⟩
  · obtain rfl : op = .hotplug := hop
    rw [heq]
    exact ⟨hk.sane, hk.initialMode, hk.configuredMode⟩
  · obtain rfl : op = .updateDevice name := hop
    have hk' := kept_updateDevice hk hu
    exact ⟨hk'.sane, hk'.initialMode, hk'.configuredMode⟩
  · obtain rfl : op = .changeMode width height displayPath vRefresh := hop
    obtain ⟨d, hd, heq⟩ := changeMode_spec hc
    rw [heq]
    refine ⟨?_, hk.initialMode, ?_⟩
    · have hsane := hd.sane hk.sane
      rwa [← s.1.primary_setPrimary d] at hsane
    · rw [lastConfigured]
      dsimp only
      split
      · rfl
      · exact hk.configuredMode

/-- The CRTCs of every device were read and can be told apart. -/
def AllRead (e : DRIElements) : Prop := ∀ p ∈ e.mDeviceList, ReadCrtcs p.2.crtcList

theorem AllRead.device (he : e.AllRead) (name : String) :
    ReadCrtcs ((e.mDeviceList.lookup name).getD {}).crtcList := by
  rcases hl : e.mDeviceList.lookup name with _ | d
  · exact .empty
  · exact he _ (Lists.mem_of_lookup hl)

/-- A device may be replaced by one with the same CRTCs. -/
theorem AllRead.set (he : e.AllRead) {name : String} {d : DriDevice}
    (hd : d.crtcList.map DrmCrtc.mCrtc =
      ((e.mDeviceList.lookup name).getD {}).crtcList.map DrmCrtc.mCrtc) :
    AllRead { e with mDeviceList := mapSet name d e.mDeviceList } :=
  forall_mapSet (P := fun d : DriDevice => ReadCrtcs d.crtcList) ((he.device name).keep hd) he

theorem allRead_updateDevice (he : e.AllRead) {name : String} {called : Bool}
    (hr : e.updateDevice name k h = .ok ((called, e'), h')) : e'.AllRead := by
  rcases updateDevice_eq_ok hr with ⟨_, rfl, _⟩ | ⟨d, d', hd, hs, rfl⟩
  · exact he
  · refine he.set ?_
    rw [hd]
    exact DriDevice.mCrtc_of_setupDevice hs

theorem allRead_new (hs : k.Sane) (hnew : new defMode k h = .ok (e, h')) : e.AllRead := by
  obtain ⟨e₀, h₀, hload, hnew⟩ := new_eq_ok hnew
  obtain ⟨⟨devices, rfl⟩, _, huntouched⟩ := loadResources_spec rfl hload
  have hread : AllRead ⟨"", devices, defMode, defMode⟩ :=
    fun p hp => (huntouched hs p hp).sane.readCrtcs
  rcases hnew with ⟨rfl, rfl, _⟩ | ⟨name, d₀, d₁, d₂, h₁, _, hd₀, hsetup, hmodes, rfl⟩
  · exact hread
  · refine hread.set ?_
    rw [hd₀]
    exact (remoded_of_setActiveModes hmodes).mCrtc.trans (DriDevice.mCrtc_of_setupDevice hsetup)

theorem allRead_step {s s' : DRIElements × History} {l : Op × ℤ} (hread : s.1.AllRead)
    (hstep : Step k s l s') : s'.1.AllRead := by
  rcases step_cases hstep with ⟨_, heq⟩ | ⟨name, called, _, hu⟩ | ⟨_, _, _, _, _, hc⟩
  · rw [heq]
    exact hread
  · exact allRead_updateDevice hread hu
  · obtain ⟨d, hd, heq⟩ := changeMode_spec hc
    rw [heq]
    exact hread.set hd.mCrtc

/-- What holds in every state reached from the constructor. -/
theorem kept_of_run (hs : k.Sane) (hnew : new defMode k [] = .ok (e₀, h₀))
    (hrun : Run (Step k) (e₀, h₀) ls (e, h)) : Kept defMode ls e :=
  hrun.ghost (fun ls s => Kept defMode ls s.1) (kept_new hs hnew) fun _ _ _ _ => kept_step

end DRIElements

end ValRpi
