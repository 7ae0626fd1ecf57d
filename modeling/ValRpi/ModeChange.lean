import ValRpi.Frame

/-!
# Mode changes

A mode change checks first and acts then. The checks only ask: which connector
the display path means, which CRTC that connector has, and which mode of its
connectors has the name (`DriDevice.findTarget`). If nothing is in the way, the
rest acts: the old framebuffer goes, a new one is made, the mode is set
(`DRIElements.applyMode`).

* `changeMode_eq` cuts `changeMode` in these two parts;
* `DrmCrtc.grant` is what the kernel grants of the buffer and the framebuffer
  asked for, and `createScanoutFb_of_grant` and `createScanoutFb_of_refused`
  say what follows;
* `changeMode_of_none`, `changeMode_of_refused` and `changeMode_of_grant` are
  all that a mode change can do (`DRIElements.Changed`), and
  `DrmCrtc.Committed` is all that a mode set can do once it has a mode.
-/

namespace ValRpi

/-! ## Checking and acting -/

variable {β : Type}

/-- The checks of `setActiveMode`: the id of the CRTC, and the mode. -/
def findMode (conns : List DrmConnector) (crtc : DrmCrtc β) (width height : ℕ) :
    Act (Option (ℕ × ModeInfo) × List DrmConnector) := do
  let crtcId ← .lift crtc.crtcId
  if crtc.connectors.length = 0 then
    pure (none, conns)
  else
    let (mode, conns) ← checkConnectors (modeName width height) crtc.connectors none conns
    pure (mode.join.map (crtcId, ·), conns)

/-- What `setActiveMode` does once it has a mode. -/
def commitMode (fd : ℤ) (conns : List DrmConnector) (crtc : DrmCrtc) (width height : ℕ) :
    Option (ℕ × ModeInfo) → Act ((ℤ × List DrmConnector) × DrmCrtc)
  | none => pure ((-1, conns), crtc)
  | some (crtcId, mode) => do
    let (ret, crtc) ← crtc.createScanoutFb fd width height
    if ret ≠ 0 then
      pure ((-1, conns), crtc)
    else
      let _ ← drmModeSetCrtc ⟨fd, crtcId, crtc.scanoutFbId, 0, 0, crtc.connectors, mode⟩
      pure ((0, conns), crtc)

theorem setActiveMode_eq (fd : ℤ) (conns : List DrmConnector) (crtc : DrmCrtc)
    (width height vRefresh : ℕ) :
    setActiveMode fd conns crtc width height vRefresh =
      findMode conns crtc width height >>= fun r => commitMode fd r.2 crtc width height r.1 := by
  rw [setActiveMode, findMode, bind_assoc]
  refine bind_congr fun crtcId => ?_
  by_cases hc : crtc.connectors.length = 0
  · rw [if_pos hc, if_pos hc]
    rfl
  · rw [if_neg hc, if_neg hc, bind_assoc]
    refine bind_congr fun r => ?_
    obtain ⟨mode, conns⟩ := r
    rw [pure_bind]
    dsimp only
    cases mode.join <;> rfl

/-- What a mode change is about: a CRTC among others, its id, and the mode. -/
structure Target (β : Type := Bo) where
  pre : List (DrmCrtc β)
  crtc : DrmCrtc β
  post : List (DrmCrtc β)
  crtcId : ℕ
  mode : ModeInfo

/-- The checks of `changeMode`. -/
def DriDevice.findTarget (d : DriDevice β) (width height : ℕ) (displayPath : UInt8) :
    Act (Option (Target β) × List DrmConnector) := do
  let (found, conns) ← DRIElements.findDisplay displayPath 0 d.connectorList
  match ← .lift (Prog.splitFirst (DrmCrtc.hasId ((found.map (·.crtcId)).getD 0)) d.crtcList) with
  | none => pure (none, conns)
  | some (pre, crtc, post) => do
    let (mode, conns) ← findMode conns crtc width height
    pure (mode.map fun m => ⟨pre, crtc, post, m.1, m.2⟩, conns)

/-- What `changeMode` does once it has a target. -/
def DRIElements.applyMode (e : DRIElements) (conns : List DrmConnector) (width height : ℕ) :
    Option Target → Act (ℤ × DRIElements)
  | none => pure (0, e.setPrimary { e.primary with connectorList := conns })
  | some t => do
    let ((ret, conns), crtc) ←
      commitMode e.primary.drmModuleFd conns t.crtc width height (some (t.crtcId, t.mode))
    if ret = 0 then
      pure (1, { e.setPrimary { e.primary with
        connectorList := conns
        crtcList := t.pre ++ { crtc with max := ⟨width, height⟩ } :: t.post } with
          mConfiguredMode := ⟨width, height⟩ })
    else
      pure (0, e.setPrimary { e.primary with
        connectorList := conns, crtcList := t.pre ++ crtc :: t.post })

theorem changeMode_eq (e : DRIElements) (width height : ℕ) (displayPath : UInt8) (vRefresh : ℕ) :
    e.changeMode width height displayPath vRefresh =
      e.primary.findTarget width height displayPath >>= fun r =>
        e.applyMode r.2 width height r.1 := by
  rw [DRIElements.changeMode, DriDevice.findTarget, bind_assoc]
  refine bind_congr fun r => ?_
  obtain ⟨found, conns⟩ := r
  simp only [Prog.visitFirst_eq, setActiveMode_eq, bind_assoc, pure_bind]
  funext k h
  cases hs : Prog.splitFirst (DrmCrtc.hasId ((found.map (·.crtcId)).getD 0)) e.primary.crtcList with
  | error _ => rfl
  | ok split =>
    -- both sides start with the same search for the CRTC
    rw [Prog.bind_of_ok (Prog.lift_eq_ok.2 ⟨rfl, rfl⟩),
      Prog.bind_of_ok (Prog.lift_eq_ok.2 ⟨rfl, rfl⟩)]
    rcases split with _ | ⟨pre, crtc, post⟩
    · rfl
    simp only [bind_assoc, pure_bind]
    refine congrFun (congrFun (bind_congr fun r => ?_) k) h
    obtain ⟨mode, conns⟩ := r
    cases mode with
    | none =>
      -- the CRTC is put back where it was
      have hd : { e.primary with connectorList := conns, crtcList := pre ++ crtc :: post } =
          { e.primary with connectorList := conns } := by
        rw [← (Prog.splitFirst_eq_some hs).1]
      exact congrArg (fun d => (pure (0, e.setPrimary d) : Act (ℤ × DRIElements))) hd
    | some mode =>
      refine bind_congr fun r => ?_
      obtain ⟨⟨ret, conns⟩, crtc⟩ := r
      by_cases hret : ret = 0
      · simp [hret]
      · simp [hret]

/-! ## What the checks find -/

variable {k : Kernel} {h h₁ : History}

theorem asks_findDisplay (displayPath : UInt8) :
    ∀ (dIdx : UInt8) (conns : List DrmConnector),
      Asks (DRIElements.findDisplay displayPath dIdx conns)
  | _, [] => .pure _
  | dIdx, conn :: conns => by
    refine .bind (DrmConnector.asks_isPlugged conn) fun ⟨plugged, conn⟩ => ?_
    dsimp only
    split
    · exact .pure _
    · exact .bind (asks_findDisplay displayPath (dIdx + 1) conns) fun _ => .pure _

theorem refreshed_of_findDisplay {displayPath dIdx : UInt8} {conns conns' : List DrmConnector}
    {found : Option DrmConnector}
    (hf : DRIElements.findDisplay displayPath dIdx conns k h = .ok ((found, conns'), h₁)) :
    List.Forall₂ DrmConnector.Refreshed conns conns' := by
  induction conns generalizing dIdx h h₁ conns' found with
  | nil =>
    simp only [DRIElements.findDisplay, Prog.pure_eq_ok, Prod.mk.injEq] at hf
    obtain ⟨⟨_, rfl⟩, _⟩ := hf
    exact .nil
  | cons conn conns ih =>
    rw [DRIElements.findDisplay, Prog.bind_eq_ok] at hf
    obtain ⟨⟨plugged, conn'⟩, h₂, hp, hf⟩ := hf
    have hconn := DrmConnector.refreshed_of_isPlugged hp
    dsimp only at hf
    split at hf
    · simp only [Prog.pure_eq_ok, Prod.mk.injEq] at hf
      obtain ⟨⟨_, rfl⟩, _⟩ := hf
      exact .cons hconn (refreshed_refl conns)
    · simp only [Prog.bind_eq_ok, Prog.pure_eq_ok, Prod.exists, Prod.mk.injEq] at hf
      obtain ⟨_, _, _, hf, ⟨_, rfl⟩, _⟩ := hf
      exact .cons hconn (ih hf)

/-- The mode of `checkConnectors` has the name looked for. -/
theorem name_of_checkConnectors {name : String} {ids : List ℕ} {mode : Option ModeInfo}
    {conns conns' : List DrmConnector} {r : Option (Option ModeInfo)}
    (hmode : ∀ m ∈ mode, m.name = name)
    (hc : checkConnectors name ids mode conns k h = .ok ((r, conns'), h₁)) :
    ∀ m ∈ r.join, m.name = name := by
  induction ids generalizing mode conns h with
  | nil =>
    simp only [checkConnectors, Prog.pure_eq_ok, Prod.mk.injEq] at hc
    obtain ⟨⟨rfl, _⟩, _⟩ := hc
    exact hmode
  | cons id ids ih =>
    simp only [checkConnectors, Prog.bind_eq_ok, Prod.exists] at hc
    obtain ⟨found, conns₁, h₂, _, hc⟩ := hc
    rcases found with _ | ⟨_ | _, conn⟩
    · exact ih hmode hc
    · exact ih hmode hc
    · dsimp only at hc
      split at hc
      · -- the mode is kept, or the first one of this name is taken
        refine ih (fun m hm => ?_) hc
        split at hm
        · have hfind := List.find?_some hm
          rw [DrmConnector.isMode, Bool.and_eq_true, beq_iff_eq] at hfind
          exact hfind.1.symm
        · exact hmode m hm
      · simp only [Prog.pure_eq_ok, Prod.mk.injEq] at hc
        obtain ⟨⟨rfl, _⟩, _⟩ := hc
        simp

theorem asks_findMode (conns : List DrmConnector) (crtc : DrmCrtc) (width height : ℕ) :
    Asks (findMode conns crtc width height) := by
  refine .bind (.lift _) fun crtcId => ?_
  split
  · exact .pure _
  · exact .bind (asks_checkConnectors _ _ _ _) fun _ => .pure _

theorem findMode_spec {conns conns' : List DrmConnector} {crtc : DrmCrtc β} {width height : ℕ}
    {found : Option (ℕ × ModeInfo)}
    (hf : findMode conns crtc width height k h = .ok ((found, conns'), h₁)) :
    List.Forall₂ DrmConnector.Refreshed conns conns' ∧ ∀ m ∈ found,
      crtc.crtcId = .ok m.1 ∧ crtc.connectors ≠ [] ∧ m.2.name = modeName width height := by
  rw [findMode, Prog.bind_eq_ok] at hf
  obtain ⟨crtcId, _, hlift, hf⟩ := hf
  obtain ⟨hid, rfl⟩ := Prog.lift_eq_ok.1 hlift
  split at hf
  · simp only [Prog.pure_eq_ok, Prod.mk.injEq] at hf
    obtain ⟨⟨rfl, rfl⟩, _⟩ := hf
    exact ⟨refreshed_refl _, by simp⟩
  next hne =>
    simp only [Prog.bind_eq_ok, Prog.pure_eq_ok, Prod.exists, Prod.mk.injEq] at hf
    obtain ⟨r, _, _, hc, ⟨rfl, rfl⟩, _⟩ := hf
    refine ⟨refreshed_of_checkConnectors hc, fun m hm => ?_⟩
    obtain ⟨mode, hmode, rfl⟩ := Option.map_eq_some_iff.1 hm
    refine ⟨hid, fun hnil => hne ?_, name_of_checkConnectors (by simp) hc mode hmode⟩
    rw [hnil, List.length_nil]

/-- A target stands for a CRTC of the device, that has connectors, and a mode
    named for the size. -/
structure Target.Of (t : Target β) (d : DriDevice β) (width height : ℕ) : Prop where
  crtcList : d.crtcList = t.pre ++ t.crtc :: t.post
  crtcId : t.crtc.crtcId = .ok t.crtcId
  connectors : t.crtc.connectors ≠ []
  name : t.mode.name = modeName width height

namespace DriDevice

variable {d : DriDevice} {width height : ℕ} {displayPath : UInt8}

/-- The checks of a mode change only ask. -/
theorem asks_findTarget (d : DriDevice) (width height : ℕ) (displayPath : UInt8) :
    Asks (d.findTarget width height displayPath) := by
  refine .bind (asks_findDisplay _ _ _) fun ⟨found, conns⟩ => .bind (.lift _) fun split => ?_
  rcases split with _ | ⟨pre, crtc, post⟩
  · exact .pure _
  · exact .bind (asks_findMode _ _ _ _) fun _ => .pure _

theorem findTarget_spec {d : DriDevice β} {target : Option (Target β)}
    {conns : List DrmConnector}
    (hf : d.findTarget width height displayPath k h = .ok ((target, conns), h₁)) :
    List.Forall₂ DrmConnector.Refreshed d.connectorList conns ∧
      ∀ t ∈ target, Target.Of t d width height := by
  simp only [findTarget, Prog.bind_eq_ok, Prod.exists, Prog.lift_eq_ok] at hf
  obtain ⟨found, conns₁, _, hd, split, _, ⟨hs, rfl⟩, hf⟩ := hf
  have h₁ := refreshed_of_findDisplay hd
  rcases split with _ | ⟨pre, crtc, post⟩
  · simp only [Prog.pure_eq_ok, Prod.mk.injEq] at hf
    obtain ⟨⟨rfl, rfl⟩, _⟩ := hf
    exact ⟨h₁, by simp⟩
  · simp only [Prog.bind_eq_ok, Prog.pure_eq_ok, Prod.exists, Prod.mk.injEq] at hf
    obtain ⟨mode, conns₂, _, hm, ⟨rfl, rfl⟩, _⟩ := hf
    obtain ⟨h₂, hmode⟩ := findMode_spec hm
    refine ⟨refreshed_trans h₁ h₂, fun t ht => ?_⟩
    obtain ⟨m, hm, rfl⟩ := Option.map_eq_some_iff.1 ht
    obtain ⟨hid, hne, hname⟩ := hmode m hm
    exact ⟨(Prog.splitFirst_eq_some hs).1, hid, hne, hname⟩

end DriDevice

/-! ## Framebuffers -/

namespace DrmCrtc

/-- What happened once the old framebuffer and buffer are gone. -/
def released (c : DrmCrtc) (fd : ℤ) (h : History) : History :=
  match c.owned with
  | some bo => .destroyDumb bo.fd bo.handle :: .rmFB fd c.scanoutFbId :: h
  | none => h

/-- The buffer `createScanoutFb` asks for. -/
def dumbRequest (fd : ℤ) (width height : ℕ) : CreateDumb := ⟨fd, width, height, 32⟩

/-- The framebuffer `createScanoutFb` asks for, on a buffer. -/
def fbRequest (fd : ℤ) (width height : ℕ) (arg : DumbBuffer) : AddFB2 :=
  ⟨fd, width, height, .xrgb8888, [arg.handle, 0, 0, 0], [u32 arg.pitch, 0, 0, 0], [0, 0, 0, 0]⟩

/-- What the kernel grants of both. -/
def grant (k : Kernel) (h : History) (fd : ℤ) (width height : ℕ) : Option (DumbBuffer × ℕ) :=
  match k.createDumb h (dumbRequest fd width height) with
  | .error _ => none
  | .ok arg =>
    match k.addFB2 (.createDumb (dumbRequest fd width height) (some arg.handle) :: h)
        (fbRequest fd width height arg) with
    | .error _ => none
    | .ok fbId => some (arg, fbId)

/-- What happened once both are made. -/
def granted (h : History) (fd : ℤ) (width height : ℕ) (arg : DumbBuffer) (fbId : ℕ) : History :=
  .addFB2 (fbRequest fd width height arg) (some fbId) ::
    .createDumb (dumbRequest fd width height) (some arg.handle) :: h

/-- What happened once one is refused: a buffer without a framebuffer goes again. -/
def refused (k : Kernel) (h : History) (fd : ℤ) (width height : ℕ) : History :=
  match k.createDumb h (dumbRequest fd width height) with
  | .error _ => .createDumb (dumbRequest fd width height) none :: h
  | .ok arg =>
    .destroyDumb fd arg.handle :: .addFB2 (fbRequest fd width height arg) none ::
      .createDumb (dumbRequest fd width height) (some arg.handle) :: h

/-- The CRTC with its new framebuffer and buffer. -/
def scanout (c : DrmCrtc) (fd : ℤ) (arg : DumbBuffer) (fbId : ℕ) : DrmCrtc :=
  { c with scanoutFbId := fbId, boHandle := some ⟨fd, arg.size, arg.pitch, arg.handle⟩ }

variable {c : DrmCrtc} {fd : ℤ} {width height : ℕ}

theorem releaseScanoutFb_eq : c.releaseScanoutFb fd k h = .ok ((), c.released fd h) := by
  rw [releaseScanoutFb, released]
  cases c.owned <;> rfl

theorem createScanoutFb_eq : c.createScanoutFb fd width height k h =
    c.makeScanoutFb fd width height k (c.released fd h) :=
  Prog.bind_of_ok releaseScanoutFb_eq

theorem boCreate_of_error {errno : Errno}
    (hbo : k.createDumb h (dumbRequest fd width height) = .error errno) :
    boCreate fd defaultPixelFormat width height k h =
      .ok (.error errno, .createDumb (dumbRequest fd width height) none :: h) := by
  have hdumb : drmIoctlCreateDumb (dumbRequest fd width height) k h =
      .ok (.error errno, .createDumb (dumbRequest fd width height) none :: h) := by
    rw [drmIoctlCreateDumb, Prog.call, hbo]
    rfl
  exact (Prog.bind_of_ok ((Prog.bind_of_ok hdumb).trans rfl)).trans rfl

theorem boCreate_of_ok {arg : DumbBuffer}
    (hbo : k.createDumb h (dumbRequest fd width height) = .ok arg) :
    boCreate fd defaultPixelFormat width height k h =
      .ok (.ok (⟨fd, arg.size, arg.pitch, arg.handle⟩,
          ⟨[arg.handle, 0, 0, 0], [u32 arg.pitch, 0, 0, 0], [0, 0, 0, 0]⟩),
        .createDumb (dumbRequest fd width height) (some arg.handle) :: h) := by
  have hdumb : drmIoctlCreateDumb (dumbRequest fd width height) k h =
      .ok (.ok arg, .createDumb (dumbRequest fd width height) (some arg.handle) :: h) := by
    rw [drmIoctlCreateDumb, Prog.call, hbo]
    rfl
  exact (Prog.bind_of_ok ((Prog.bind_of_ok hdumb).trans rfl)).trans rfl

/-- Both are granted. -/
theorem createScanoutFb_of_grant {arg : DumbBuffer} {fbId : ℕ}
    (hg : grant k (c.released fd h) fd width height = some (arg, fbId)) :
    c.createScanoutFb fd width height k h =
      .ok ((0, c.scanout fd arg fbId), granted (c.released fd h) fd width height arg fbId) := by
  rw [grant] at hg
  split at hg
  · cases hg
  next arg' hbo =>
    split at hg
    · cases hg
    next fbId' hfb =>
      cases hg
      have hadd : drmModeAddFB2 (fbRequest fd width height arg) k
          (.createDumb (dumbRequest fd width height) (some arg.handle) :: c.released fd h) =
            .ok (.ok fbId, granted (c.released fd h) fd width height arg fbId) := by
        rw [drmModeAddFB2, Prog.call, hfb]
        rfl
      rw [createScanoutFb_eq, makeScanoutFb, Prog.bind_of_ok (boCreate_of_ok hbo)]
      exact (Prog.bind_of_ok hadd).trans rfl

/-- One is refused: the CRTC stays as it was, what it owned is gone. -/
theorem createScanoutFb_of_refused (hg : grant k (c.released fd h) fd width height = none) :
    ∃ ret, ret ≠ 0 ∧ c.createScanoutFb fd width height k h =
      .ok ((ret, c), refused k (c.released fd h) fd width height) := by
  have hret (errno : Errno) : (-(errno : ℕ) : ℤ) ≠ 0 := by
    have := errno.2
    omega
  rw [createScanoutFb_eq, makeScanoutFb, refused]
  rw [grant] at hg
  cases hbo : k.createDumb (c.released fd h) (dumbRequest fd width height) with
  | error errno => exact ⟨_, hret errno, (Prog.bind_of_ok (boCreate_of_error hbo)).trans rfl⟩
  | ok arg =>
    rw [hbo] at hg
    dsimp only at hg
    split at hg
    next errno hfb =>
      have hadd : drmModeAddFB2 (fbRequest fd width height arg) k
          (.createDumb (dumbRequest fd width height) (some arg.handle) :: c.released fd h) =
            .ok (.error errno, .addFB2 (fbRequest fd width height arg) none ::
              .createDumb (dumbRequest fd width height) (some arg.handle) :: c.released fd h) := by
        rw [drmModeAddFB2, Prog.call, hfb]
        rfl
      refine ⟨_, hret errno, ?_⟩
      rw [Prog.bind_of_ok (boCreate_of_ok hbo)]
      exact (Prog.bind_of_ok hadd).trans rfl
    · cases hg

/-! ### What is alive -/

theorem suffix_released (c : DrmCrtc) (fd : ℤ) (h : History) : h <:+ c.released fd h := by
  rw [released]
  split
  · exact ⟨[_, _], rfl⟩
  · exact List.suffix_rfl

theorem suffix_granted (h : History) (fd : ℤ) (width height : ℕ) (arg : DumbBuffer) (fbId : ℕ) :
    h <:+ granted h fd width height arg fbId := ⟨[_, _], rfl⟩

theorem suffix_refused (k : Kernel) (h : History) (fd : ℤ) (width height : ℕ) :
    h <:+ refused k h fd width height := by
  rw [refused]
  split
  · exact ⟨[_], rfl⟩
  · exact ⟨[_, _, _], rfl⟩

theorem liveBos_released : liveBos (c.released fd h) =
    (c.owned.map fun bo => (liveBos h).erase bo.handle).getD (liveBos h) := by
  rw [released]
  cases c.owned <;> rfl

theorem acquiredFbs_released : Ledger.acquired addsFb (c.released fd h) =
    Ledger.acquired addsFb h := by
  rw [released]
  cases c.owned <;> rfl

/-- What the kernel grants is new. -/
theorem fresh_of_grant (hk : k.Fresh) {arg : DumbBuffer} {fbId : ℕ}
    (hg : grant k h fd width height = some (arg, fbId)) :
    arg.handle ∉ Ledger.acquired createsBo h ∧ fbId ∉ Ledger.acquired addsFb h ∧ fbId ≠ 0 := by
  rw [grant] at hg
  split at hg
  · cases hg
  next hbo =>
    split at hg
    · cases hg
    next hfb =>
      cases hg
      have hacq := hk.addFB2 _ _ _ hfb
      exact ⟨hk.createDumb _ _ _ hbo, hacq, hk.addFB2_ne_zero _ _ _ hfb⟩

theorem liveFbs_refused : liveFbs (refused k h fd width height) = liveFbs h := by
  rw [refused]
  split <;> rfl

/-- A buffer without a framebuffer is not left behind. -/
theorem liveBos_refused (hk : k.Fresh) :
    liveBos (refused k h fd width height) = liveBos h := by
  rw [refused]
  split
  · rfl
  next arg hbo =>
    have hnew : arg.handle ∉ liveBos h :=
      mt Ledger.mem_acquired_of_mem_live (hk.createDumb _ _ _ hbo)
    exact Finset.erase_insert hnew

end DrmCrtc

/-! ## Outcomes -/

section Commit

open DrmCrtc

variable {fd : ℤ} {conns : List DrmConnector} {crtc : DrmCrtc} {width height crtcId : ℕ}
  {mode : ModeInfo}

/-- The kernel refuses the buffer or the framebuffer. -/
theorem commitMode_of_refused (hg : grant k (crtc.released fd h) fd width height = none) :
    commitMode fd conns crtc width height (some (crtcId, mode)) k h =
      .ok (((-1, conns), crtc), refused k (crtc.released fd h) fd width height) := by
  obtain ⟨ret, hret, hcreate⟩ := createScanoutFb_of_refused hg
  rw [commitMode, Prog.bind_of_ok hcreate]
  dsimp only
  rw [if_pos hret]
  rfl

/-- The kernel grants both, and is asked to set the mode. -/
theorem commitMode_of_grant {arg : DumbBuffer} {fbId : ℕ}
    (hg : grant k (crtc.released fd h) fd width height = some (arg, fbId)) :
    commitMode fd conns crtc width height (some (crtcId, mode)) k h =
      let h₁ := granted (crtc.released fd h) fd width height arg fbId
      let req : SetCrtc := ⟨fd, crtcId, fbId, 0, 0, crtc.connectors, mode⟩
      .ok (((0, conns), crtc.scanout fd arg fbId),
        .setCrtc req (k.setCrtc h₁ req).isNone :: h₁) := by
  rw [commitMode, Prog.bind_of_ok (createScanoutFb_of_grant hg)]
  rfl

end Commit

/-- How the acting part of `setActiveMode` ends: its result, the CRTC and what
    happened. -/
inductive DrmCrtc.Committed (k : Kernel) (fd : ℤ) (width height : ℕ) (m : ℕ × ModeInfo)
    (c : DrmCrtc) (h : History) : ℤ → DrmCrtc → History → Prop
  | refused : grant k (c.released fd h) fd width height = none →
      Committed k fd width height m c h (-1) c (DrmCrtc.refused k (c.released fd h) fd width height)
  | granted {arg : DumbBuffer} {fbId : ℕ} {done : Bool} :
      grant k (c.released fd h) fd width height = some (arg, fbId) →
      Committed k fd width height m c h 0 (c.scanout fd arg fbId)
        (.setCrtc ⟨fd, m.1, fbId, 0, 0, c.connectors, m.2⟩ done ::
          DrmCrtc.granted (c.released fd h) fd width height arg fbId)

theorem committed_of_commitMode {fd : ℤ} {conns conns' : List DrmConnector} {c c' : DrmCrtc}
    {width height : ℕ} {m : ℕ × ModeInfo} {ret : ℤ} {h' : History}
    (hr : commitMode fd conns c width height (some m) k h = .ok (((ret, conns'), c'), h')) :
    conns' = conns ∧ c.Committed k fd width height m h ret c' h' := by
  cases hg : DrmCrtc.grant k (c.released fd h) fd width height with
  | none =>
    rw [commitMode_of_refused hg] at hr
    cases hr
    exact ⟨rfl, .refused hg⟩
  | some p =>
    rw [commitMode_of_grant hg] at hr
    cases hr
    exact ⟨rfl, .granted hg⟩

/-- A mode set ends with a check that fails, or else acts. -/
theorem setActiveMode_cases {fd : ℤ} {conns conns' : List DrmConnector} {c c' : DrmCrtc}
    {width height vRefresh : ℕ} {ret : ℤ} {h' : History}
    (hr : setActiveMode fd conns c width height vRefresh k h = .ok (((ret, conns'), c'), h')) :
    ∃ found h₁, findMode conns c width height k h = .ok ((found, conns'), h₁) ∧
      ((found = none ∧ ret = -1 ∧ c' = c ∧ h' = h₁) ∨
        ∃ m, found = some m ∧ c.Committed k fd width height m h₁ ret c' h') := by
  rw [setActiveMode_eq, Prog.bind_eq_ok] at hr
  obtain ⟨⟨found, conns₁⟩, h₁, hfind, hr⟩ := hr
  cases found with
  | none =>
    rw [commitMode, Prog.pure_eq_ok] at hr
    cases hr
    exact ⟨none, _, hfind, .inl ⟨rfl, rfl, rfl, rfl⟩⟩
  | some m =>
    obtain ⟨rfl, hm⟩ := committed_of_commitMode hr
    exact ⟨some m, h₁, hfind, .inr ⟨m, rfl, hm⟩⟩

namespace Target

/-- The mode set of a mode change. -/
def request (t : Target) (fd : ℤ) (fbId : ℕ) : SetCrtc :=
  ⟨fd, t.crtcId, fbId, 0, 0, t.crtc.connectors, t.mode⟩

/-- The CRTCs of the device with the new framebuffer of the target. -/
def crtcList (t : Target) (fd : ℤ) (width height : ℕ) (arg : DumbBuffer) (fbId : ℕ) :
    List DrmCrtc :=
  t.pre ++ { t.crtc.scanout fd arg fbId with max := ⟨width, height⟩ } :: t.post

end Target

namespace DRIElements

open DrmCrtc

variable {e : DRIElements} {width height vRefresh : ℕ} {displayPath : UInt8}
  {conns : List DrmConnector} {t : Target}

/-- The state after a mode change that gets through. -/
def switched (e : DRIElements) (conns : List DrmConnector) (t : Target) (width height : ℕ)
    (arg : DumbBuffer) (fbId : ℕ) : DRIElements :=
  { e.setPrimary { e.primary with
      connectorList := conns
      crtcList := t.crtcList e.primary.drmModuleFd width height arg fbId } with
    mConfiguredMode := ⟨width, height⟩ }

/-- The state after one that does not: the connectors were asked. -/
def asked (e : DRIElements) (conns : List DrmConnector) : DRIElements :=
  e.setPrimary { e.primary with connectorList := conns }

/-- Asking the connectors does not change the CRTCs. -/
theorem crtcs_asked (e : DRIElements) (conns : List DrmConnector) :
    (e.asked conns).crtcs = e.crtcs := by
  obtain ⟨pre, post, he, hset⟩ := e.exists_crtcs_eq e.mPrimaryDev
  rw [he]
  exact hset _

/-- A mode change that ends without a fault has checked. -/
theorem exists_findTarget {r : (ℤ × DRIElements) × History}
    (hr : e.changeMode width height displayPath vRefresh k h = .ok r) :
    ∃ target conns h₁, e.primary.findTarget width height displayPath k h =
      .ok ((target, conns), h₁) := by
  rw [changeMode_eq, Prog.bind_eq_ok] at hr
  obtain ⟨⟨target, conns⟩, h₁, ht, _⟩ := hr
  exact ⟨target, conns, h₁, ht⟩

/-- A check fails. -/
theorem changeMode_of_none
    (ht : e.primary.findTarget width height displayPath k h = .ok ((none, conns), h₁)) :
    e.changeMode width height displayPath vRefresh k h = .ok ((0, e.asked conns), h₁) := by
  rw [changeMode_eq, Prog.bind_of_ok ht]
  rfl

theorem changeMode_of_refused
    (ht : e.primary.findTarget width height displayPath k h = .ok ((some t, conns), h₁))
    (hg : grant k (t.crtc.released e.primary.drmModuleFd h₁) e.primary.drmModuleFd
      width height = none) :
    e.changeMode width height displayPath vRefresh k h = .ok ((0, e.asked conns),
      refused k (t.crtc.released e.primary.drmModuleFd h₁) e.primary.drmModuleFd
        width height) := by
  have hd : { e.primary with connectorList := conns, crtcList := t.pre ++ t.crtc :: t.post } =
      { e.primary with connectorList := conns } := by
    rw [← ((DriDevice.findTarget_spec ht).2 t rfl).crtcList]
  rw [changeMode_eq, Prog.bind_of_ok ht, applyMode, Prog.bind_of_ok (commitMode_of_refused hg),
    asked, ← hd]
  rfl

theorem changeMode_of_grant {arg : DumbBuffer} {fbId : ℕ}
    (ht : e.primary.findTarget width height displayPath k h = .ok ((some t, conns), h₁))
    (hg : grant k (t.crtc.released e.primary.drmModuleFd h₁) e.primary.drmModuleFd
      width height = some (arg, fbId)) :
    e.changeMode width height displayPath vRefresh k h =
      let h₂ := granted (t.crtc.released e.primary.drmModuleFd h₁) e.primary.drmModuleFd
        width height arg fbId
      let req := t.request e.primary.drmModuleFd fbId
      .ok ((1, e.switched conns t width height arg fbId),
        .setCrtc req (k.setCrtc h₂ req).isNone :: h₂) := by
  rw [changeMode_eq, Prog.bind_of_ok ht, applyMode, Prog.bind_of_ok (commitMode_of_grant hg)]
  rfl

/-- How a mode change ends: its result, the state and what happened. -/
inductive Changed (e : DRIElements) (k : Kernel) (h : History) (width height : ℕ)
    (displayPath : UInt8) : ℤ → DRIElements → History → Prop
  | noTarget {conns : List DrmConnector} {h₁ : History} :
      e.primary.findTarget width height displayPath k h = .ok ((none, conns), h₁) →
      Changed e k h width height displayPath 0 (e.asked conns) h₁
  | refused {conns : List DrmConnector} {h₁ : History} {t : Target} :
      e.primary.findTarget width height displayPath k h = .ok ((some t, conns), h₁) →
      grant k (t.crtc.released e.primary.drmModuleFd h₁) e.primary.drmModuleFd width height = none →
      Changed e k h width height displayPath 0 (e.asked conns)
        (DrmCrtc.refused k (t.crtc.released e.primary.drmModuleFd h₁) e.primary.drmModuleFd
          width height)
  | granted {conns : List DrmConnector} {h₁ : History} {t : Target} {arg : DumbBuffer} {fbId : ℕ}
      {done : Bool} :
      e.primary.findTarget width height displayPath k h = .ok ((some t, conns), h₁) →
      grant k (t.crtc.released e.primary.drmModuleFd h₁) e.primary.drmModuleFd width height =
        some (arg, fbId) →
      Changed e k h width height displayPath 1 (e.switched conns t width height arg fbId)
        (.setCrtc (t.request e.primary.drmModuleFd fbId) done ::
          DrmCrtc.granted (t.crtc.released e.primary.drmModuleFd h₁) e.primary.drmModuleFd
            width height arg fbId)

/-- A mode change ends in one of these ways. -/
theorem changed_of_changeMode {ret : ℤ} {e' : DRIElements} {h' : History}
    (hr : e.changeMode width height displayPath vRefresh k h = .ok ((ret, e'), h')) :
    Changed e k h width height displayPath ret e' h' := by
  obtain ⟨target, conns, h₁, ht⟩ := exists_findTarget hr
  rcases target with _ | t
  · rw [changeMode_of_none ht] at hr
    cases hr
    exact .noTarget ht
  rcases hg : grant k (t.crtc.released e.primary.drmModuleFd h₁) e.primary.drmModuleFd
    width height with _ | ⟨arg, fbId⟩
  · rw [changeMode_of_refused ht hg] at hr
    cases hr
    exact .refused ht hg
  · rw [changeMode_of_grant ht hg] at hr
    cases hr
    exact .granted ht hg

/-- A step is a change from outside, an update or a mode change. -/
theorem step_cases {s s' : DRIElements × History} {l : Op × ℤ} (hstep : Step k s l s') :
    (l.1 = .hotplug ∧ s' = (s.1, .hotplug :: s.2)) ∨
      (∃ name called, l.1 = .updateDevice name ∧
        s.1.updateDevice name k s.2 = .ok ((called, s'.1), s'.2)) ∨
      ∃ width height displayPath vRefresh, l.1 = .changeMode width height displayPath vRefresh ∧
        Changed s.1 k s.2 width height displayPath l.2 s'.1 s'.2 := by
  obtain ⟨e, h⟩ := s
  obtain ⟨e', h'⟩ := s'
  obtain ⟨op, ret⟩ := l
  rw [Step] at hstep
  cases op with
  | hotplug =>
    rw [run, Prog.call_eq_ok] at hstep
    cases hstep
    exact .inl ⟨rfl, rfl⟩
  | updateDevice name =>
    simp only [run, Prog.bind_eq_ok, Prog.pure_eq_ok] at hstep
    obtain ⟨⟨called, e₁⟩, h₁, hu, hstep⟩ := hstep
    cases hstep
    exact .inr (.inl ⟨name, called, rfl, hu⟩)
  | changeMode width height displayPath vRefresh =>
    have hc : e.changeMode width height displayPath vRefresh k h = .ok ((ret, e'), h') := hstep
    exact .inr (.inr ⟨width, height, displayPath, vRefresh, rfl, changed_of_changeMode hc⟩)

end DRIElements

end ValRpi
