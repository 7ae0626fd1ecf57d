import ValRpi.Effects
import ValRpi.Readings
import ValRpi.Windows

/-!
# Renewing windows

A window shows the greatest size of the CRTC that its sink names
(`ValVideoImpl.Names`). This is a copy, which the callback renews after an
update (`ValVideoImpl.renewed`) and which a mode change does not renew. So it is
up to date as long as every mode change is to the size that the windows show
(`upToDate_of_run`).
-/

namespace ValRpi

variable {k : Kernel} {h h' : History}

/-! ## Looking up a CRTC -/

namespace DRIElements

variable {e : DRIElements}

/-- The CRTC of the primary device with the given id. -/
def namedCrtc (e : DRIElements) (id : ℕ) : Option DrmCrtc :=
  e.primary.crtcList.find? (·.id == id)

theorem AllRead.primary (he : e.AllRead) : ReadCrtcs e.primary.crtcList := he.device _

/-- `getModeRange` reports the sizes of the CRTC. -/
theorem getModeRange_eq (he : ReadCrtcs e.primary.crtcList) (id : ℕ) :
    e.getModeRange id k h = .ok ((e.namedCrtc id).map fun c => (c.min, c.max), h) := by
  obtain ⟨found, hfound, hfind⟩ :=
    Prog.splitFirst_of_ok fun c hc => DrmCrtc.hasId_eq (he.read c hc) id
  rw [getModeRange, Prog.visitFirst_eq, namedCrtc, ← hfind, bind_assoc,
    Prog.bind_of_ok (Prog.lift_eq_ok.2 ⟨hfound, rfl⟩)]
  cases found <;> rfl

/-- The id of a CRTC of the primary device names that CRTC. -/
theorem namedCrtc_eq_some (he : ReadCrtcs e.primary.crtcList) {id : ℕ} {c : DrmCrtc} :
    e.namedCrtc id = some c ↔ c ∈ e.primary.crtcList ∧ c.crtcId = .ok id := by
  constructor
  · intro hc
    obtain ⟨hmem, rfl⟩ := Lists.of_find?_key hc
    exact ⟨hmem, c.crtcId_eq (he.read c hmem)⟩
  · rintro ⟨hmem, hid⟩
    obtain rfl := Except.ok.inj ((c.crtcId_eq (he.read c hmem)).symm.trans hid)
    exact Lists.find?_key he.nodup hmem

/-- Asking the connectors leaves the CRTCs alone. -/
theorem setPrimary_setPrimary (d d' : DriDevice) :
    (e.setPrimary d).setPrimary d' = e.setPrimary d' := by
  simp only [setPrimary, mapSet_mapSet]

/-- The last answers count. -/
theorem asked_asked (conns conns' : List DrmConnector) :
    (e.asked conns).asked conns' = e.asked conns' := by
  rw [asked, asked, primary_setPrimary, setPrimary_setPrimary, asked]

theorem switched_asked (conns conns' : List DrmConnector) (t : Target) (width height : ℕ)
    (arg : DumbBuffer) (fbId : ℕ) : (e.asked conns).switched conns' t width height arg fbId =
      e.switched conns' t width height arg fbId := by
  rw [switched, asked, primary_setPrimary, setPrimary_setPrimary, switched]

theorem crtcList_switched (conns : List DrmConnector) (t : Target) (width height : ℕ)
    (arg : DumbBuffer) (fbId : ℕ) : (e.switched conns t width height arg fbId).primary.crtcList =
      t.crtcList e.primary.drmModuleFd width height arg fbId := by
  change (e.setPrimary _).primary.crtcList = _
  rw [primary_setPrimary]

theorem AllRead.asked (he : e.AllRead) (conns : List DrmConnector) : (e.asked conns).AllRead :=
  he.set rfl

end DRIElements

namespace ValVideoImpl

variable {v v' : ValVideoImpl} {caps : DeviceCapability}

/-! ## The callback -/

/-- The CRTC that the sink of a window names, if there is one. -/
def crtcOf (v : ValVideoImpl) (wId : ℕ) : Option DrmCrtc :=
  (v.videoSinks.lookup wId).bind fun sink => v.driElements.namedCrtc sink.crtcId

/-- A window after the callback. -/
def renewed (v : ValVideoImpl) (p : ValPlane) : ValPlane :=
  match v.crtcOf p.wId with
  | some c =>
    if v.mDeviceCapability.mMaxResolution.h ≥ c.max.h ∨
        v.mDeviceCapability.mMaxResolution.w ≥ c.max.w then
      { p with maxSizeT := c.max }
    else
      p
  | none => p

@[simp]
theorem wId_renewed (p : ValPlane) : (v.renewed p).wId = p.wId := by
  rw [renewed]
  split
  · split <;> rfl
  · rfl

theorem updatePlane_eq (he : ReadCrtcs v.driElements.primary.crtcList) {p p' : ValPlane}
    (hr : v.updatePlane p k h = .ok (p', h')) : p' = v.renewed p ∧ h' = h := by
  simp only [updatePlane, Prog.bind_eq_ok, Prog.lift_eq_ok, deref_eq_ok,
    DRIElements.getModeRange_eq he] at hr
  obtain ⟨sink, _, ⟨hsink, rfl⟩, range, h₁, hrange, hr⟩ := hr
  obtain ⟨rfl, rfl⟩ := Prod.mk.inj (Except.ok.inj hrange)
  rw [renewed, crtcOf, hsink, Option.bind_some]
  cases hc : v.driElements.namedCrtc sink.crtcId with
  | none =>
    rw [hc] at hr
    obtain ⟨rfl, rfl⟩ := Prod.mk.inj (Prog.pure_eq_ok.1 hr)
    exact ⟨rfl, rfl⟩
  | some c =>
    rw [hc] at hr
    dsimp only [Option.map_some] at hr
    split at hr
    next hle =>
      dsimp only
      rw [if_pos hle]
      exact Prod.mk.inj (Prog.pure_eq_ok.1 hr)
    next hgt =>
      dsimp only
      rw [if_neg hgt]
      exact Prod.mk.inj (Prog.pure_eq_ok.1 hr)

/-- The callback renews the windows. -/
theorem logicalPlanes_updatePlanes (he : ReadCrtcs v.driElements.primary.crtcList)
    (hr : v.updatePlanes k h = .ok (v', h')) :
    v'.logicalPlanes = v.logicalPlanes.map v.renewed := by
  simp only [updatePlanes, Prog.bind_eq_ok, Prog.pure_eq_ok] at hr
  obtain ⟨⟨planes, _⟩, h₁, hloop, hr⟩ := hr
  cases hr
  refine (Prog.forEach_eq_map (w := fun s _ => s) (fun _ _ => True)
    (fun p _ s p' s' l l' _ hf => ?_) trivial hloop).1
  simp only [Prog.bind_eq_ok, Prog.pure_eq_ok] at hf
  obtain ⟨p₁, _, hp, hf⟩ := hf
  cases hf
  exact ⟨(updatePlane_eq he hp).1, rfl, trivial⟩

/-- The sink of a window names a CRTC of the primary device. -/
def Names (v : ValVideoImpl) (wId : ℕ) (c : DrmCrtc) : Prop :=
  ∃ sink, v.videoSinks.lookup wId = some sink ∧ c ∈ v.driElements.primary.crtcList ∧
    c.crtcId = .ok sink.crtcId

theorem crtcOf_eq_some (he : ReadCrtcs v.driElements.primary.crtcList) {wId : ℕ} {c : DrmCrtc} :
    v.crtcOf wId = some c ↔ v.Names wId c := by
  simp only [crtcOf, Option.bind_eq_some_iff, DRIElements.namedCrtc_eq_some he, Names]

/-- The callback leaves the sinks and the CRTCs alone. -/
theorem names_updatePlanes (hr : v.updatePlanes k h = .ok (v', h')) {wId : ℕ} {c : DrmCrtc} :
    v'.Names wId c ↔ v.Names wId c := by
  obtain ⟨_, hv, hor⟩ := updatePlanes_eq_ok hr
  have hprimary : v'.driElements.primary = v.driElements.primary := by
    rcases hor with heq | heq
    · rw [heq]
    · rw [heq, DRIElements.primary_touch]
  rw [Names, hprimary, hv]
  rfl

theorem names_of_quiet {op : Op} (hq : Quiet op v v') {wId : ℕ} {c : DrmCrtc} :
    v'.Names wId c ↔ v.Names wId c := by
  have hcrtcs : v'.driElements.primary.crtcList = v.driElements.primary.crtcList := by
    rcases hq.elements with heq | ⟨conns, heq⟩
    · rw [heq]
    · rw [heq, DRIElements.asked, DRIElements.primary_setPrimary]
  rw [Names, Names, hcrtcs, hq.sinks]
  cases v.videoSinks.lookup wId with
  | none => simp
  | some sink => simp [settle]

/-! ## Requests for a mode -/

/-- A request for a mode that gets through sets the greatest size of the target;
    any other one at most asks. -/
theorem Outcome.asked_or_switched {win : Size} {displayPath : UInt8} {r : Bool} {e' : DRIElements}
    (ho : Outcome v k h win displayPath r e' h') :
    (e' = v.driElements ∨ ∃ conns, e' = v.driElements.asked conns) ∨
      ∃ e conns t h₂ arg fbId, Reaches v k h win displayPath e conns t h₂ ∧
        ValVideoImpl.granted k win e t h₂ = some (arg, fbId) ∧
          Target.Of t v.driElements.primary win.w win.h ∧
            e' = v.driElements.switched conns t win.w win.h arg fbId := by
  have hfrom {n : ℕ} {e : DRIElements} {h₁ : History}
      (hn : v.driElements.getSupportedNumConnector k h = .ok ((n, e), h₁)) :=
    DRIElements.asked_of_getSupportedNumConnector hn
  cases ho with
  | invalid _ => exact .inl (.inl rfl)
  | noDisplay _ hn _ => exact .inl (.inr (hfrom hn))
  | noTarget _ hn _ _ =>
    obtain ⟨conns₀, rfl⟩ := hfrom hn
    exact .inl (.inr ⟨_, DRIElements.asked_asked _ _⟩)
  | refused hreach _ =>
    obtain ⟨_, n, h₁, hn, _, _⟩ := hreach
    obtain ⟨conns₀, rfl⟩ := hfrom hn
    exact .inl (.inr ⟨_, DRIElements.asked_asked _ _⟩)
  | @granted e conns t h₂ arg fbId hreach hg =>
    refine .inr ⟨e, conns, t, h₂, arg, fbId, hreach, hg, ?_, ?_⟩
    all_goals
      obtain ⟨_, n, h₁, hn, _, ht⟩ := hreach
      obtain ⟨conns₀, rfl⟩ := hfrom hn
    · have ht := (DriDevice.findTarget_spec ht).2 t rfl
      rw [DRIElements.asked, DRIElements.primary_setPrimary] at ht
      exact ⟨ht.crtcList, ht.crtcId, ht.connectors, ht.name⟩
    · exact DRIElements.switched_asked _ _ _ _ _ _ _

/-- The CRTCs after a mode change: the one of the target has the size for its
    greatest mode, the others are as before. -/
theorem names_of_switched {win : Size} {conns : List DrmConnector} {t : Target} {arg : DumbBuffer}
    {fbId : ℕ} (ht : Target.Of t v.driElements.primary win.w win.h) {wId : ℕ} {c : DrmCrtc}
    (hc : Names { v with driElements := v.driElements.switched conns t win.w win.h arg fbId }
      wId c) :
    v.Names wId c ∨ v.Names wId t.crtc ∧ c.max = win := by
  obtain ⟨sink, hsink, hmem, hid⟩ := hc
  rw [DRIElements.crtcList_switched, Target.crtcList, List.mem_append, List.mem_cons] at hmem
  have hold (hmem : c ∈ t.pre ∨ c ∈ t.post) : v.Names wId c := by
    refine ⟨sink, hsink, ?_, hid⟩
    rw [ht.crtcList, List.mem_append, List.mem_cons]
    exact hmem.imp_right .inr
  rcases hmem with hmem | rfl | hmem
  · exact .inl (hold (.inl hmem))
  · refine .inr ⟨⟨sink, hsink, ?_, hid⟩, rfl⟩
    rw [ht.crtcList]
    simp
  · exact .inl (hold (.inr hmem))

/-! ## CRTCs that were read -/

theorem allRead_of_asked (hread : v.driElements.AllRead) {e' : DRIElements}
    (he : e' = v.driElements ∨ ∃ conns, e' = v.driElements.asked conns) : e'.AllRead := by
  rcases he with rfl | ⟨conns, rfl⟩
  · exact hread
  · exact hread.asked conns

theorem allRead_updatePlanes (hread : v.driElements.AllRead)
    (hr : v.updatePlanes k h = .ok (v', h')) : v'.driElements.AllRead := by
  refine allRead_of_asked hread ?_
  exact (updatePlanes_eq_ok hr).2.2.imp_right fun heq => ⟨_, heq⟩

/-- An update with its callback, if that is called. -/
theorem updateDevice_cases {name : String} (hr : v.updateDevice name k h = .ok (v', h')) :
    v' = v ∨ ∃ e' h₁, v.driElements.updateDevice name k h = .ok ((true, e'), h₁) ∧
      updatePlanes { v with driElements := e' } k h₁ = .ok (v', h') := by
  obtain ⟨called, e', h₁, hu, hr⟩ := updateDevice_eq_ok hr
  cases called with
  | true => exact .inr ⟨e', h₁, hu, by simpa using hr⟩
  | false =>
    rw [if_neg Bool.false_ne_true] at hr
    have hsame : e' = v.driElements := by
      rw [DRIElements.updateDevice] at hu
      cases hd : v.driElements.mDeviceList.lookup name with
      | none =>
        rw [hd, Prog.pure_eq_ok] at hu
        cases hu
        rfl
      | some d =>
        simp only [hd, Prog.bind_eq_ok, Prog.pure_eq_ok] at hu
        obtain ⟨_, _, _, hu⟩ := hu
        cases hu
    rw [hr.1, hsame]
    exact .inl rfl

theorem allRead_run {op : Op} (hread : v.driElements.AllRead)
    (hr : v.run op k h = .ok (v', h')) : v'.driElements.AllRead := by
  rcases run_cases hr with ⟨name, rfl, hu⟩ | ⟨win, displayPath, r, e', rfl, ho, rfl⟩ | hq
  · rcases updateDevice_cases hu with rfl | ⟨e', h₁, hu, hp⟩
    · exact hread
    · exact allRead_updatePlanes (DRIElements.allRead_updateDevice hread hu) hp
  · rcases ho.asked_or_switched with heq | ⟨e, conns, t, h₂, arg, fbId, _, _, ht, rfl⟩
    · exact allRead_of_asked hread heq
    · refine DRIElements.AllRead.set hread ?_
      have hprimary := ht.crtcList
      rw [DRIElements.primary] at hprimary
      rw [hprimary, Target.crtcList]
      simp [DrmCrtc.scanout]
  · exact allRead_of_asked hread hq.elements

/-- The constructor ends with the callback. -/
theorem init_updatePlanes {e : DRIElements} (hr : init caps e k h = .ok (v, h')) :
    ∃ physical sinks, updatePlanes ⟨makePlanes caps, physical, sinks, caps, e.touch⟩ k h =
      .ok (v, h') := by
  rw [init, Prog.bind_eq_ok] at hr
  obtain ⟨⟨physical, sinks⟩, h₁, hlift, hr⟩ := hr
  obtain ⟨_, rfl⟩ := Prog.lift_eq_ok.1 hlift
  exact ⟨physical, sinks, hr⟩

/-! ## Up to date -/

/-- A window whose sink names a CRTC shows its greatest size, if this is within
    the limits. -/
def UpToDate (v : ValVideoImpl) : Prop :=
  ∀ p ∈ v.logicalPlanes, ∀ c, v.Names p.wId c →
    c.max.Within v.mDeviceCapability.mMaxResolution → p.maxSizeT = c.max

theorem upToDate_updatePlanes (he : ReadCrtcs v.driElements.primary.crtcList)
    (hr : v.updatePlanes k h = .ok (v', h')) : v'.UpToDate := by
  intro p' hp' c hc hle
  rw [logicalPlanes_updatePlanes he hr] at hp'
  obtain ⟨p, _, rfl⟩ := List.mem_map.1 hp'
  have hcaps : v'.mDeviceCapability = v.mDeviceCapability := by rw [(updatePlanes_eq_ok hr).2.1]
  rw [wId_renewed, names_updatePlanes hr, ← crtcOf_eq_some he] at hc
  rw [hcaps] at hle
  rw [renewed, hc]
  dsimp only
  rw [if_pos (.inl hle.2)]

/-- A mode change that gets through is to the size that the windows of its CRTC
    show. -/
def Shown (k : Kernel) (s : ValVideoImpl × History) (op : Op) : Prop :=
  match op with
  | .setDisplayResolution win displayPath =>
    ∀ e conns t h₂, Reaches s.1 k s.2 win displayPath e conns t h₂ →
      (granted k win e t h₂).isSome →
        ∀ p ∈ s.1.logicalPlanes, s.1.Names p.wId t.crtc → p.maxSizeT = win
  | _ => True

theorem upToDate_step {op : Op} (hread : v.driElements.AllRead) (hv : v.UpToDate)
    (hshown : Shown k (v, h) op) (hr : v.run op k h = .ok (v', h')) : v'.UpToDate := by
  have hquiet (op : Op) (hq : Quiet op v v') : v'.UpToDate := by
    intro p hp c hc hle
    rw [hq.logicalPlanes] at hp
    rw [hq.capability] at hle
    exact hv p hp c ((names_of_quiet hq).1 hc) hle
  rcases run_cases hr with ⟨name, rfl, hu⟩ | ⟨win, displayPath, r, e', rfl, ho, rfl⟩ | hq
  · rcases updateDevice_cases hu with rfl | ⟨e', h₁, hu, hp⟩
    · exact hv
    · exact upToDate_updatePlanes (DRIElements.allRead_updateDevice hread hu).primary hp
  · rcases ho.asked_or_switched with heq | ⟨e, conns, t, h₂, arg, fbId, hreach, hg, ht, rfl⟩
    · exact hquiet (.setDisplayResolution win displayPath) (.of_elements (fun _ => rfl) heq)
    · intro p hp c hc hle
      rcases names_of_switched ht hc with hc | ⟨hc, hmax⟩
      · exact hv p hp c hc hle
      · rw [hmax]
        exact hshown e conns t h₂ hreach (Option.isSome_of_eq_some hg) p hp hc
  · exact hquiet op hq

/-- The windows are up to date as long as every mode change is to the size that
    they show. -/
theorem upToDate_of_run (hs : k.Sane) {v₀ : ValVideoImpl} {h₀ : History} {ops : List Op}
    (hnew : new caps k [] = .ok (v₀, h₀))
    (hrun : Run (Run.when (Shown k) (Step k)) (v₀, h₀) ops (v, h)) : v.UpToDate := by
  obtain ⟨e, h₁, he, hinit⟩ := new_eq_ok hnew
  obtain ⟨physical, sinks, hp⟩ := init_updatePlanes hinit
  have hread := (DRIElements.allRead_new hs he).asked e.primary.connectorList
  refine (hrun.invariant (fun s => s.1.driElements.AllRead ∧ s.1.UpToDate)
    ⟨allRead_updatePlanes hread hp, upToDate_updatePlanes hread.primary hp⟩ ?_).2
  rintro ⟨v, h⟩ op ⟨v', h'⟩ ⟨hread, hv⟩ ⟨hshown, hstep⟩
  exact ⟨allRead_run hread hstep, upToDate_step hread hv hshown hstep⟩

/-- A mode change to the size that the windows show, and an update. -/
theorem upToDate_of_run_one_display : ∃ v₀ h₀ v h,
    new .fullHd (.willing fun _ => .oneDisplay) [] = .ok (v₀, h₀) ∧
      Run (Step (.willing fun _ => .oneDisplay)) (v₀, h₀)
        [.updateDevice "/dev/dri/card0", .setDisplayResolution ⟨1920, 1080⟩ 0] (v, h) ∧
      v.UpToDate := by
  let k : Kernel := .willing fun _ => .oneDisplay
  have hrun : (new .fullHd k []).map (fun s => (decide (∀ p ∈ s.1.logicalPlanes,
      p.maxSizeT = ⟨1920, 1080⟩), (s.1.run (.setDisplayResolution ⟨1920, 1080⟩ 0) k s.2).map
        fun r => (r.1.run (.updateDevice "/dev/dri/card0") k r.2).map fun _ => ())) =
      .ok (true, .ok (.ok ())) := by
    decide +kernel
  obtain ⟨⟨v₀, h₀⟩, hnew, hobs⟩ := Prog.exists_of_map_eq_ok hrun
  obtain ⟨hmax, hset⟩ := Prod.mk.inj hobs
  obtain ⟨⟨v₁, h₁⟩, hset, hupdate⟩ := Prog.exists_of_map_eq_ok hset
  obtain ⟨⟨v, h⟩, hupdate, _⟩ := Prog.exists_of_map_eq_ok hupdate
  have hfirst : Step k (v₀, h₀) (.setDisplayResolution ⟨1920, 1080⟩ 0) (v₁, h₁) := hset
  have hsecond : Step k (v₁, h₁) (.updateDevice "/dev/dri/card0") (v, h) := hupdate
  have hshown : Shown k (v₀, h₀) (.setDisplayResolution ⟨1920, 1080⟩ 0) :=
    fun _ _ _ _ _ _ p hp _ => of_decide_eq_true hmax p hp
  have htrue : Shown k (v₁, h₁) (.updateDevice "/dev/dri/card0") := trivial
  exact ⟨v₀, h₀, v, h, hnew, .step (.step .nil hfirst) hsecond,
    upToDate_of_run (Kernel.scripted_sane _ _ _ _ fun _ => Card.oneDisplay_sane) hnew
      (.step (.step .nil ⟨hshown, hfirst⟩) ⟨htrue, hsecond⟩)⟩

/-- A mode change to another size: the window goes on showing the old one. -/
theorem upToDate_lost_after_mode_change : ∃ v₀ h₀ v h,
    new .fullHd (.willing fun _ => .oneDisplay) [] = .ok (v₀, h₀) ∧
      Run (Step (.willing fun _ => .oneDisplay)) (v₀, h₀)
        [.setDisplayResolution ⟨1280, 720⟩ 0] (v, h) ∧
      (∃ p ∈ v.logicalPlanes, ∃ c, v.Names p.wId c ∧ c.max = ⟨1280, 720⟩ ∧
        p.maxSizeT = ⟨1920, 1080⟩) ∧ ¬ v.UpToDate := by
  let k : Kernel := .willing fun _ => .oneDisplay
  have hrun : (new .fullHd k []).map (fun s =>
      (s.1.run (.setDisplayResolution ⟨1280, 720⟩ 0) k s.2).map fun r =>
        (r.1.mDeviceCapability.mMaxResolution, decide (∃ p ∈ r.1.logicalPlanes,
          p.maxSizeT = ⟨1920, 1080⟩ ∧ ∃ sink ∈ r.1.videoSinks.lookup p.wId,
            ∃ c ∈ r.1.driElements.primary.crtcList,
              c.mCrtc = some ⟨sink.crtcId⟩ ∧ c.max = ⟨1280, 720⟩))) =
      .ok (.ok (⟨1920, 1080⟩, true)) := by
    decide +kernel
  obtain ⟨⟨v₀, h₀⟩, hnew, hset⟩ := Prog.exists_of_map_eq_ok hrun
  obtain ⟨⟨v, h⟩, hset, hobs⟩ := Prog.exists_of_map_eq_ok hset
  obtain ⟨hcaps, hobs⟩ := Prod.mk.inj hobs
  obtain ⟨p, hp, hsize, sink, hsink, c, hc, hid, hmax⟩ := of_decide_eq_true hobs
  have hnames : v.Names p.wId c := ⟨sink, hsink, hc, by rw [DrmCrtc.crtcId, hid]; rfl⟩
  have hfirst : Step k (v₀, h₀) (.setDisplayResolution ⟨1280, 720⟩ 0) (v, h) := hset
  refine ⟨v₀, h₀, v, h, hnew, .step .nil hfirst, ⟨p, hp, c, hnames, hmax, hsize⟩, fun hv => ?_⟩
  dsimp only at hcaps
  have hle : c.max.Within v.mDeviceCapability.mMaxResolution := by
    rw [hmax, hcaps]
    exact ⟨by decide, by decide⟩
  have hshows := hv p hp c hnames hle
  rw [hsize, hmax] at hshows
  cases hshows

end ValVideoImpl

end ValRpi
