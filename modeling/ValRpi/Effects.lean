import ValRpi.ModeChange
import ValRpi.Setup

/-!
# Effects on CRTCs

What the operations do to the CRTCs of all cards, as far as an invariant of
these CRTCs and of what happened is concerned: asking logs queries, a setup
assigns CRTCs to connectors (`DrmCrtc.Assigned`), and a mode set gives a CRTC a
new framebuffer or fails to (`DrmCrtc.Committed`).

* `crtcs_updateDevice` and `crtcs_changed` say so of an update and of a mode
  change;
* `crtcs_new` is the invariant rule of the constructor, in which no CRTC has a
  buffer before its mode is set, and `primary_new` the one for the CRTCs of the
  primary device.
-/

namespace ValRpi

variable {k : Kernel} {h h' : History}

/-! ## Assigning -/

namespace DrmCrtc

/-- The same CRTC, or that CRTC assigned to a connector. -/
def Assigned (confMode : Size) (c c' : DrmCrtc) : Prop :=
  c' = c ∨ ∃ connId min max, c' = c.assign connId confMode min max

variable {confMode : Size} {a b c : DrmCrtc}

theorem Assigned.refl (c : DrmCrtc) : Assigned confMode c c := .inl rfl

/-- The last assignment counts. -/
theorem Assigned.trans (hab : Assigned confMode a b) (hbc : Assigned confMode b c) :
    Assigned confMode a c := by
  rcases hbc with rfl | ⟨connId, min, max, rfl⟩
  · exact hab
  rcases hab with rfl | ⟨connId', min', max', rfl⟩
  · exact .inr ⟨connId, min, max, rfl⟩
  · refine .inr ⟨connId, min, max, ?_⟩
    simp only [assign_eq]

theorem Assigned.refit (hab : Assigned confMode a b) : a.Refit b := by
  rcases hab with rfl | ⟨connId, min, max, rfl⟩
  · exact .refl _
  · exact ⟨_, _, _, rfl⟩

/-- The same CRTC, with another framebuffer. -/
def Rescanned (c c' : DrmCrtc) : Prop :=
  ∃ fbId bo, c' = { c with scanoutFbId := fbId, boHandle := bo }

/-- What happened before a mode set still did. -/
theorem Committed.suffix {fd : ℤ} {width height : ℕ} {m : ℕ × ModeInfo} {c c' : DrmCrtc} {ret : ℤ}
    (hm : c.Committed k fd width height m h ret c' h') : h <:+ h' := by
  have hreleased : h <:+ c.released fd h := suffix_released c fd h
  cases hm with
  | refused _ => exact hreleased.trans (suffix_refused _ _ _ _ _)
  | granted _ => exact (hreleased.trans (suffix_granted _ _ _ _ _ _)).trans (List.suffix_cons _ _)

/-- A CRTC that has not been given a framebuffer yet. -/
structure Bare {β : Type} (c : DrmCrtc β) : Prop where
  scanoutFbId : c.scanoutFbId = 0
  boHandle : c.boHandle = none

theorem Blank.bare (hc : c.Blank) : c.Bare := ⟨hc.scanoutFbId, hc.boHandle⟩

theorem Refit.bare (hab : a.Refit b) (ha : a.Bare) : b.Bare := by
  obtain ⟨_, _, _, rfl⟩ := hab
  exact ⟨ha.scanoutFbId, ha.boHandle⟩

end DrmCrtc

theorem assigned_refl (confMode : Size) (crtcs : List DrmCrtc) :
    List.Forall₂ (DrmCrtc.Assigned confMode) crtcs crtcs :=
  List.forall₂_same.2 fun c _ => .refl c

/-- The setup of a connector assigns at most one CRTC. -/
theorem assigned_of_setupConnector {fd : ℤ} {confMode : Size} {conn conn' : DrmConnector}
    {crtcs crtcs' : List DrmCrtc}
    (hs : setupConnector fd confMode conn crtcs k h = .ok ((conn', crtcs'), h')) :
    List.Forall₂ (DrmCrtc.Assigned confMode) crtcs crtcs' := by
  obtain ⟨plugged, conn₁, h₁, hp, hs⟩ := setupConnector_eq_ok hs
  rcases hs with ⟨_, rfl, rfl⟩ | ⟨_, id, h₂, hfind, hs⟩
  · exact assigned_refl _ _
  rcases hs with ⟨_, rfl, rfl⟩ | ⟨_, range, h₃, r, hrange, hv⟩
  · exact assigned_refl _ _
  · refine Prog.visitFirst_forall₂ DrmCrtc.Assigned.refl (fun c _ c' _ _ hf => ?_) hv
    obtain ⟨min, max, _, rfl, _⟩ := assignRange_eq_ok.1 hf
    exact .inr ⟨_, _, _, rfl⟩

/-- The setup of a device assigns CRTCs of it. -/
theorem assigned_of_setupDevice {confMode : Size} {d d' : DriDevice}
    (hs : d.setupDevice confMode k h = .ok (d', h')) :
    List.Forall₂ (DrmCrtc.Assigned confMode) d.crtcList d'.crtcList := by
  obtain ⟨conns, crtcs, new, _, hloop, rfl⟩ := DriDevice.setupDevice_eq_ok hs
  refine Prog.forEach_invariant
    (fun crtcs _ => List.Forall₂ (DrmCrtc.Assigned confMode) d.crtcList crtcs)
    (fun conn _ crtcs conn' crtcs' _ _ hinv hf => ?_) (assigned_refl _ _) hloop
  refine Prog.forall₂_trans ?_ hinv (assigned_of_setupConnector hf)
  exact fun _ _ _ => DrmCrtc.Assigned.trans

namespace DRIElements

variable {e e' : DRIElements}

/-- The devices of a name stand for their CRTCs. -/
theorem forall₂_crtcs {R : DrmCrtc → DrmCrtc → Prop} (hrefl : ∀ c, R c c) {name : String}
    {d d' : DriDevice} (hd : e.mDeviceList.lookup name = some d)
    (hR : List.Forall₂ R d.crtcList d'.crtcList) :
    List.Forall₂ R e.crtcs (crtcs { e with mDeviceList := mapSet name d' e.mDeviceList }) := by
  obtain ⟨before, after, he, hset⟩ := e.exists_crtcs_eq name
  rw [hd, Option.getD_some] at he
  rw [he, crtcs, hset]
  have hsame (cs : List DrmCrtc) : List.Forall₂ R cs cs := List.forall₂_same.2 fun c _ => hrefl c
  exact List.rel_append (List.rel_append (hsame before) hR) (hsame after)

/-- An update asks, and assigns CRTCs. -/
theorem crtcs_updateDevice {name : String} {called : Bool}
    (hr : e.updateDevice name k h = .ok ((called, e'), h')) :
    (∃ new : History, h' = new ++ h ∧ ∀ ev ∈ new, ev.isQuery) ∧
      List.Forall₂ (DrmCrtc.Assigned e.confMode) e.crtcs e'.crtcs := by
  rcases updateDevice_eq_ok hr with ⟨_, rfl, rfl⟩ | ⟨d, d', hd, hs, rfl⟩
  · exact ⟨⟨[], rfl, by simp⟩, assigned_refl _ _⟩
  · exact ⟨DriDevice.asks_setupDevice _ _ _ _ _ _ hs,
      forall₂_crtcs DrmCrtc.Assigned.refl hd (assigned_of_setupDevice hs)⟩

/-! ## Mode changes -/

/-- The target of a mode change stands between other CRTCs. -/
theorem crtcs_switched {t : Target} {width height : ℕ}
    (ht : Target.Of t e.primary width height) : ∃ before after,
      e.crtcs = before ++ t.crtc :: after ∧ ∀ conns arg fbId,
        (e.switched conns t width height arg fbId).crtcs =
          before ++ { t.crtc.scanout e.primary.drmModuleFd arg fbId with max := ⟨width, height⟩ } ::
            after := by
  obtain ⟨before, after, hcrtcs, hset⟩ := e.exists_crtcs_eq e.mPrimaryDev
  have hprimary : ((e.mDeviceList.lookup e.mPrimaryDev).getD {}).crtcList =
      t.pre ++ t.crtc :: t.post := ht.crtcList
  refine ⟨before ++ t.pre, t.post ++ after, ?_, fun conns arg fbId => ?_⟩
  · rw [hcrtcs, hprimary]
    simp
  · rw [crtcs, switched, setPrimary, hset, Target.crtcList]
    simp

/-- A mode change asks, and gives at most one CRTC a new framebuffer. -/
theorem crtcs_changed {width height : ℕ} {displayPath : UInt8} {ret : ℤ}
    (hc : Changed e k h width height displayPath ret e' h') :
    ∃ new : History, (∀ ev ∈ new, ev.isQuery) ∧
      ((e'.crtcs = e.crtcs ∧ h' = new ++ h) ∨ ∃ t conns before after set c',
        e.primary.findTarget width height displayPath k h = .ok ((some t, conns), new ++ h) ∧
          e.crtcs = before ++ t.crtc :: after ∧
          t.crtc.Committed k e.primary.drmModuleFd width height (t.crtcId, t.mode) (new ++ h)
            set c' h' ∧
          e'.crtcs = before ++
            { c' with max := if set = 0 then ⟨width, height⟩ else c'.max } :: after) := by
  cases hc with
  | noTarget ht =>
    obtain ⟨new, rfl, hnew⟩ := DriDevice.asks_findTarget _ _ _ _ _ _ _ _ ht
    exact ⟨new, hnew, .inl ⟨crtcs_asked _ _, rfl⟩⟩
  | refused ht hg =>
    obtain ⟨new, rfl, hnew⟩ := DriDevice.asks_findTarget _ _ _ _ _ _ _ _ ht
    obtain ⟨before, after, hcrtcs, _⟩ := crtcs_switched ((DriDevice.findTarget_spec ht).2 _ rfl)
    refine ⟨new, hnew, .inr ⟨_, _, before, after, -1, _, ht, hcrtcs, .refused hg, ?_⟩⟩
    rw [crtcs_asked, hcrtcs]
    rfl
  | granted ht hg =>
    obtain ⟨new, rfl, hnew⟩ := DriDevice.asks_findTarget _ _ _ _ _ _ _ _ ht
    obtain ⟨before, after, hcrtcs, hset⟩ := crtcs_switched ((DriDevice.findTarget_spec ht).2 _ rfl)
    exact ⟨new, hnew, .inr ⟨_, _, before, after, 0, _, ht, hcrtcs, .granted hg, hset _ _ _⟩⟩

/-! ## The constructor -/

/-- No CRTC has a buffer when the constructor comes to its callback. -/
theorem bare_startUp {defMode : Size} {device : Option String}
    (hr : startUp defMode k h = .ok ((device, e), h')) : ∀ c ∈ e.crtcs, c.Bare := by
  obtain ⟨e₀, h₀, hload, hend⟩ := startUp_eq_ok hr
  obtain ⟨_, hblank, _⟩ := loadResources_spec rfl hload
  have hbare₀ : ∀ c ∈ e₀.crtcs, c.Bare := by
    intro c hc
    obtain ⟨p, hp, hc⟩ := List.mem_flatMap.1 hc
    exact (hblank p hp c hc).bare
  rcases hend with ⟨_, rfl, _⟩ | ⟨name, d₀, d₁, _, _, hd₀, hsetup, rfl⟩
  · exact hbare₀
  have hassigned := forall₂_crtcs DrmCrtc.Assigned.refl hd₀ (assigned_of_setupDevice hsetup)
  intro c hc
  obtain ⟨c₀, hc₀, hc⟩ := Prog.exists_rel_of_mem hassigned hc
  exact hc.refit.bare (hbare₀ c₀ hc₀)

/-- The invariant rule of the mode sets of the constructor: some CRTCs lie behind
    the one whose mode is set, and some ahead of it. -/
theorem setActiveModes_inPlace {d d' : DriDevice}
    (Inv : List DrmCrtc → List DrmCrtc → History → Prop)
    (hask : ∀ behind ahead (new h : History), (∀ ev ∈ new, ev.isQuery) → Inv behind ahead h →
      Inv behind ahead (new ++ h))
    (hnext : ∀ behind c ahead h, Inv behind (c :: ahead) h → Inv (behind ++ [c]) ahead h)
    (hcommit : ∀ behind c ahead h m ret c' h', Inv behind (c :: ahead) h → c.crtcId = .ok m.1 →
      DrmCrtc.Committed k d.drmModuleFd c.max.w c.max.h m c h ret c' h' →
        Inv (behind ++ [c']) ahead h')
    (h0 : Inv [] d.crtcList h) (hr : setActiveModes d k h = .ok (d', h')) :
    Inv d'.crtcList [] h' := by
  rw [setActiveModes, Prog.bind_eq_ok] at hr
  obtain ⟨⟨crtcs, conns⟩, h₁, hloop, hr⟩ := hr
  rw [Prog.pure_eq_ok] at hr
  cases hr
  refine Prog.forEach_inPlace (fun behind ahead _ h => Inv behind ahead h)
    (fun behind c ahead conns c' conns' h h' hinv hc => ?_) [] h0 hloop
  simp only [Prog.bind_eq_ok, Prog.pure_eq_ok] at hc
  obtain ⟨⟨⟨ret, conns₁⟩, c₁⟩, h₁, hset, hc⟩ := hc
  cases hc
  obtain ⟨found, h₂, hfind, hend⟩ := setActiveMode_cases hset
  obtain ⟨new, rfl, hnew⟩ := asks_findMode _ _ _ _ _ _ _ _ hfind
  have hinv₂ := hask _ _ _ _ hnew hinv
  rcases hend with ⟨_, _, rfl, rfl⟩ | ⟨m, rfl, hm⟩
  · exact hnext _ _ _ _ hinv₂
  · exact hcommit _ _ _ _ _ _ _ _ hinv₂ ((findMode_spec hfind).2 m rfl).1 hm

/-- The mode sets of the constructor give CRTCs other framebuffers. -/
theorem rescanned_of_setActiveModes {d d' : DriDevice}
    (hr : setActiveModes d k h = .ok (d', h')) :
    List.Forall₂ DrmCrtc.Rescanned d.crtcList d'.crtcList := by
  rw [setActiveModes, Prog.bind_eq_ok] at hr
  obtain ⟨⟨crtcs, conns⟩, h₁, hloop, hr⟩ := hr
  rw [Prog.pure_eq_ok] at hr
  cases hr
  refine Prog.forEach_forall₂ (fun c conns c' conns' _ _ hf => ?_) hloop
  simp only [Prog.bind_eq_ok, Prog.pure_eq_ok] at hf
  obtain ⟨⟨⟨ret, conns₁⟩, c₁⟩, _, hset, hf⟩ := hf
  cases hf
  obtain ⟨_, _, _, ⟨_, _, rfl, _⟩ | ⟨m, _, hm⟩⟩ := setActiveMode_cases hset
  · exact ⟨_, _, rfl⟩
  · cases hm with
    | refused _ => exact ⟨_, _, rfl⟩
    | granted _ => exact ⟨_, _, rfl⟩

/-- What happened before the mode sets of the constructor still did. -/
theorem suffix_of_setActiveModes {d d' : DriDevice} (hr : setActiveModes d k h = .ok (d', h')) :
    h <:+ h' := by
  refine setActiveModes_inPlace (fun _ _ l => h <:+ l) (fun _ _ new l _ hle => ?_)
    (fun _ _ _ _ hle => hle) (fun _ _ _ _ _ _ _ _ hle _ hm => hle.trans hm.suffix)
    (List.suffix_refl h) hr
  exact hle.trans (List.suffix_append new l)

/-- The mode sets of the constructor are made on the device that is set up. -/
theorem drmModuleFd_of_setActiveModes {d d' : DriDevice}
    (hr : setActiveModes d k h = .ok (d', h')) : d'.drmModuleFd = d.drmModuleFd := by
  rw [setActiveModes, Prog.bind_eq_ok] at hr
  obtain ⟨⟨crtcs, conns⟩, h₁, hloop, hr⟩ := hr
  rw [Prog.pure_eq_ok] at hr
  cases hr
  rfl

/-- The invariant rule of setting up a device and the modes of its CRTCs: it is
    kept as the CRTCs are assigned and as their modes are set, each for the
    first time. -/
theorem crtcList_new {d₀ d₁ d₂ : DriDevice} {defMode : Size} {h₁ : History}
    (Inv : List DrmCrtc → History → Prop)
    (hask : ∀ cs (new h : History), (∀ ev ∈ new, ev.isQuery) → Inv cs h → Inv cs (new ++ h))
    (hassign : ∀ before c c' after h, DrmCrtc.Bare c → DrmCrtc.Assigned defMode c c' →
      Inv (before ++ c :: after) h → Inv (before ++ c' :: after) h)
    (hcommit : ∀ before c after h m ret c' h', DrmCrtc.Bare c → c.crtcId = .ok m.1 →
      DrmCrtc.Committed k d₂.drmModuleFd c.max.w c.max.h m c h ret c' h' →
        Inv (before ++ c :: after) h → Inv (before ++ c' :: after) h')
    (hsetup : d₀.setupDevice defMode k h = .ok (d₁, h₁))
    (hmodes : setActiveModes d₁ k h₁ = .ok (d₂, h')) (hbare : ∀ c ∈ d₀.crtcList, c.Bare)
    (h0 : Inv d₀.crtcList h) : Inv d₂.crtcList h' := by
  obtain ⟨new, rfl, hnew⟩ := DriDevice.asks_setupDevice _ _ _ _ _ _ hsetup
  have hassigned := assigned_of_setupDevice hsetup
  have hbare₁ : ∀ c ∈ d₁.crtcList, c.Bare := by
    intro c hc
    obtain ⟨c₀, hc₀, hc⟩ := Prog.exists_rel_of_mem hassigned hc
    exact hc.refit.bare (hbare c₀ hc₀)
  -- the CRTCs of the device are assigned one after the other
  have hinv₁ : Inv d₁.crtcList (new ++ h) :=
    Prog.forall₂_inPlace (fun cs => Inv cs (new ++ h))
      (fun behind c c' ahead hc hcc' hinv => hassign behind c c' ahead _ (hbare c hc) hcc' hinv)
      hassigned (hask _ _ _ hnew h0)
  have hinv₂ := setActiveModes_inPlace
    (fun behind ahead h => Inv (behind ++ ahead) h ∧ ∀ c ∈ ahead, c.Bare)
    (fun behind ahead new h hnew hinv => ⟨hask _ _ _ hnew hinv.1, hinv.2⟩)
    (fun behind c ahead h hinv => ⟨by simpa using hinv.1, (List.forall_mem_cons.1 hinv.2).2⟩)
    (fun behind c ahead h m ret c' h' hinv hid hm => ?_) ⟨hinv₁, hbare₁⟩ hmodes
  · simpa using hinv₂.1
  · obtain ⟨hc, hahead⟩ := List.forall_mem_cons.1 hinv.2
    rw [← drmModuleFd_of_setActiveModes hmodes] at hm
    exact ⟨by simpa using hcommit behind c ahead h m ret c' h' hc hid hm hinv.1, hahead⟩

/-- The invariant rule of the constructor: it holds of the CRTCs as they are
    loaded, and is kept as they are assigned and as their modes are set, each
    for the first time. -/
theorem crtcs_new {defMode : Size} (Inv : List DrmCrtc → History → Prop)
    (hblank : ∀ cs (h : History), (∀ c ∈ cs, DrmCrtc.Blank c) → (∀ ev ∈ h, ev.isQuery) → Inv cs h)
    (hask : ∀ cs (new h : History), (∀ ev ∈ new, ev.isQuery) → Inv cs h → Inv cs (new ++ h))
    (hassign : ∀ before c c' after h, DrmCrtc.Bare c → DrmCrtc.Assigned defMode c c' →
      Inv (before ++ c :: after) h → Inv (before ++ c' :: after) h)
    (hcommit : ∀ before c after h fd m ret c' h', DrmCrtc.Bare c →
      DrmCrtc.Committed k fd c.max.w c.max.h m c h ret c' h' →
        Inv (before ++ c :: after) h → Inv (before ++ c' :: after) h')
    (hr : new defMode k [] = .ok (e, h)) : Inv e.crtcs h := by
  obtain ⟨e₀, h₀, hload, hr⟩ := new_eq_ok hr
  obtain ⟨⟨devices, rfl⟩, hcrtcs, _⟩ := loadResources_spec rfl hload
  obtain ⟨new₀, rfl, hnew₀⟩ := asks_loadResources _ _ _ _ _ hload
  rw [List.append_nil] at hr
  have hblank₀ : ∀ c ∈ crtcs ⟨"", devices, defMode, defMode⟩, c.Blank := by
    intro c hc
    obtain ⟨p, hp, hc⟩ := List.mem_flatMap.1 hc
    exact hcrtcs p hp c hc
  have hinv₀ := hblank _ _ hblank₀ hnew₀
  rcases hr with ⟨rfl, rfl, _⟩ | ⟨name, d₀, d₁, d₂, h₁, _, hd₀, hsetup, hmodes, rfl⟩
  · exact hinv₀
  rw [confMode_eq] at hsetup
  obtain ⟨before, after, heq, hset⟩ := exists_crtcs_eq ⟨"", devices, defMode, defMode⟩ name
  have hbare₀ : ∀ c ∈ d₀.crtcList, c.Bare := fun c hc =>
    (hcrtcs _ (Lists.mem_of_lookup hd₀) c hc).bare
  rw [hd₀, Option.getD_some] at heq
  rw [crtcs, hset]
  refine crtcList_new (fun cs h => Inv (before ++ cs ++ after) h)
    (fun cs new h hnew hinv => hask _ _ _ hnew hinv) (fun behind c c' ahead h hc hcc' hinv => ?_)
    (fun behind c ahead h m ret c' h' hc _ hm hinv => ?_) hsetup hmodes hbare₀ (heq ▸ hinv₀)
  · have hone := hassign (before ++ behind) c c' (ahead ++ after) h hc hcc'
    simpa using hone (by simpa using hinv)
  · have hone := hcommit (before ++ behind) c (ahead ++ after) h _ m ret c' h' hc hm
    simpa using hone (by simpa using hinv)

/-- The same for the CRTCs of the primary device, where the modes are set. -/
theorem primary_new {defMode : Size} (Inv : List DrmCrtc → History → Prop)
    (hblank : ∀ cs (h : History), (∀ c ∈ cs, DrmCrtc.Blank c) → (∀ ev ∈ h, ev.isQuery) → Inv cs h)
    (hask : ∀ cs (new h : History), (∀ ev ∈ new, ev.isQuery) → Inv cs h → Inv cs (new ++ h))
    (hassign : ∀ before c c' after h, DrmCrtc.Bare c → DrmCrtc.Assigned defMode c c' →
      Inv (before ++ c :: after) h → Inv (before ++ c' :: after) h)
    (hcommit : ∀ before c after h m ret c' h', DrmCrtc.Bare c → c.crtcId = .ok m.1 →
      DrmCrtc.Committed k e.primary.drmModuleFd c.max.w c.max.h m c h ret c' h' →
        Inv (before ++ c :: after) h → Inv (before ++ c' :: after) h')
    (hr : new defMode k [] = .ok (e, h)) : Inv e.primary.crtcList h := by
  obtain ⟨e₀, h₀, hload, hr⟩ := new_eq_ok hr
  obtain ⟨⟨devices, rfl⟩, hcrtcs, _⟩ := loadResources_spec rfl hload
  obtain ⟨new₀, rfl, hnew₀⟩ := asks_loadResources _ _ _ _ _ hload
  rw [List.append_nil] at hr
  rcases hr with ⟨rfl, rfl, hnil⟩ | ⟨name, d₀, d₁, d₂, h₁, _, hd₀, hsetup, hmodes, rfl⟩
  · rw [primary, hnil]
    exact hblank [] _ (by simp) hnew₀
  rw [confMode_eq] at hsetup
  have hblank₀ : ∀ c ∈ d₀.crtcList, c.Blank := fun c hc =>
    hcrtcs _ (Lists.mem_of_lookup hd₀) c hc
  have hprimary : primary ⟨name, mapSet name d₂ devices, defMode, defMode⟩ = d₂ :=
    primary_setPrimary ⟨name, devices, defMode, defMode⟩ d₂
  rw [hprimary] at hcommit ⊢
  exact crtcList_new Inv hask hassign hcommit hsetup hmodes (fun c hc => (hblank₀ c hc).bare)
    (hblank _ _ hblank₀ hnew₀)

end DRIElements

end ValRpi
