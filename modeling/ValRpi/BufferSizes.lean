import ValRpi.Readings

/-!
# Sizes of buffers

A CRTC's greatest mode is written by the setup, by the mode changes and by none
of the mode sets of the constructor; its buffer is replaced by the last two
only. So the two stay in step (`DRIElements.Fits`) as long as no update gives a
CRTC that has a buffer another greatest mode (`fits_of_run`).
-/

namespace ValRpi

variable {k : Kernel} {h h' : History}

/-! ## Buffers as they were created -/

/-- A buffer was created, and with this size. -/
structure Sized (h : History) (size : Size) (bo : Bo) : Prop where
  created : ∃ req, .createDumb req (some bo.handle) ∈ h
  size : ∀ req, .createDumb req (some bo.handle) ∈ h → size = ⟨req.width, req.height⟩

/-- What happened in addition creates only buffers whose ids are new. -/
def CreatesNew (h h' : History) : Prop :=
  ∃ new, h' = new ++ h ∧ ∀ req handle, .createDumb req (some handle) ∈ new →
    handle ∉ Ledger.acquired createsBo h

theorem mem_acquired_of_createDumb {req : CreateDumb} {handle : ℕ}
    (hmem : .createDumb req (some handle) ∈ h) : handle ∈ Ledger.acquired createsBo h :=
  List.mem_filterMap.2 ⟨_, hmem, rfl⟩

theorem Sized.grows {size : Size} {bo : Bo} (hs : Sized h size bo) (hnew : CreatesNew h h') :
    Sized h' size bo := by
  obtain ⟨new, rfl, hnew⟩ := hnew
  obtain ⟨req, hreq⟩ := hs.created
  refine ⟨⟨req, List.mem_append_right _ hreq⟩, fun req' hreq' => ?_⟩
  rcases List.mem_append.1 hreq' with hreq' | hreq'
  · exact absurd (mem_acquired_of_createDumb hreq) (hnew _ _ hreq')
  · exact hs.size req' hreq'

theorem CreatesNew.of_isQuery {new : History} (hnew : ∀ ev ∈ new, ev.isQuery) :
    CreatesNew h (new ++ h) := by
  refine ⟨new, rfl, fun req handle hmem => ?_⟩
  exact absurd (hnew _ hmem) Bool.false_ne_true

namespace DrmCrtc

variable {c c' : DrmCrtc} {fd : ℤ} {width height : ℕ}

theorem acquiredBos_released : Ledger.acquired createsBo (c.released fd h) =
    Ledger.acquired createsBo h := by
  rw [released]
  cases c.owned <;> rfl

theorem createsNew_released (c : DrmCrtc) (fd : ℤ) (h : History) :
    CreatesNew h (c.released fd h) := by
  rw [released]
  split
  · exact ⟨[_, _], rfl, by simp⟩
  · exact ⟨[], rfl, by simp⟩

theorem handle_not_mem (hk : k.Fresh) {arg : DumbBuffer}
    (hbo : k.createDumb (c.released fd h) (dumbRequest fd width height) = .ok arg) :
    arg.handle ∉ Ledger.acquired createsBo h :=
  acquiredBos_released ▸ hk.createDumb _ _ _ hbo

/-- A mode set creates new buffers only, also one that is refused. -/
theorem createsNew_refused (hk : k.Fresh) (c : DrmCrtc) (fd : ℤ) (width height : ℕ) (h : History) :
    CreatesNew h (refused k (c.released fd h) fd width height) := by
  obtain ⟨new, hrel, hquiet⟩ := createsNew_released c fd h
  rw [refused]
  split
  · exact ⟨_ :: new, by rw [hrel]; rfl, by simpa using hquiet⟩
  next arg hbo =>
    refine ⟨_ :: _ :: _ :: new, by rw [hrel]; rfl, fun req handle hmem => ?_⟩
    simp only [List.mem_cons, reduceCtorEq, Event.createDumb.injEq, Option.some.injEq,
      false_or] at hmem
    rcases hmem with ⟨_, rfl⟩ | hmem
    exacts [handle_not_mem hk hbo, hquiet _ _ hmem]

theorem createsNew_granted (hk : k.Fresh) {arg : DumbBuffer} {fbId : ℕ} {req : SetCrtc}
    {done : Bool} (hg : grant k (c.released fd h) fd width height = some (arg, fbId)) :
    CreatesNew h (.setCrtc req done :: granted (c.released fd h) fd width height arg fbId) := by
  obtain ⟨new, hrel, hquiet⟩ := createsNew_released c fd h
  have hfresh := (fresh_of_grant hk hg).1
  rw [acquiredBos_released] at hfresh
  refine ⟨_ :: _ :: _ :: new, by rw [granted, hrel]; rfl, fun req handle hmem => ?_⟩
  simp only [List.mem_cons, reduceCtorEq, Event.createDumb.injEq, Option.some.injEq,
    false_or] at hmem
  rcases hmem with ⟨_, rfl⟩ | hmem
  exacts [hfresh, hquiet _ _ hmem]

/-- The buffer that is granted has the size asked for. -/
theorem sized_of_grant (hk : k.Fresh) {arg : DumbBuffer} {fbId : ℕ} {req : SetCrtc} {done : Bool}
    (hg : grant k h fd width height = some (arg, fbId)) :
    Sized (.setCrtc req done :: granted h fd width height arg fbId) ⟨width, height⟩
      ⟨fd, arg.size, arg.pitch, arg.handle⟩ := by
  refine ⟨⟨_, .tail _ (.tail _ (.head _))⟩, fun req hreq => ?_⟩
  rw [granted, List.mem_cons, List.mem_cons, List.mem_cons] at hreq
  rcases hreq with hreq | hreq | hreq | hreq
  · cases hreq
  · cases hreq
  · cases hreq
    rfl
  · exact absurd (mem_acquired_of_createDumb hreq) (fresh_of_grant hk hg).1

end DrmCrtc

/-! ## Buffers and greatest modes -/

/-- Every buffer of a CRTC was created with the size of its greatest mode. -/
def Fits (crtcs : List DrmCrtc) (h : History) : Prop :=
  ∀ c ∈ crtcs, ∀ bo, c.boHandle = some bo → Sized h c.max bo

theorem Fits.grows {crtcs : List DrmCrtc} (hf : Fits crtcs h) (hnew : CreatesNew h h') :
    Fits crtcs h' :=
  fun c hc bo hbo => (hf c hc bo hbo).grows hnew

/-- One CRTC may be replaced by one whose buffer fits. -/
theorem Fits.replace {before after : List DrmCrtc} {c c' : DrmCrtc}
    (hf : Fits (before ++ c :: after) h) (hc' : ∀ bo, c'.boHandle = some bo → Sized h c'.max bo) :
    Fits (before ++ c' :: after) h := by
  intro a ha
  rw [List.mem_append, List.mem_cons] at ha
  rcases ha with ha | rfl | ha
  · exact hf a (List.mem_append_left _ ha)
  · exact hc'
  · exact hf a (List.mem_append_right _ (.tail _ ha))

namespace DRIElements

variable {e e' e₀ : DRIElements} {h₀ : History} {defMode : Size} {ls : List (Op × ℤ)}

/-- The constructor gives CRTCs buffers of the size of their greatest mode. -/
theorem fits_new (hk : k.Fresh) (hnew : new defMode k [] = .ok (e, h)) : Fits e.crtcs h := by
  refine crtcs_new Fits (fun cs h hblank _ c hc bo hbo => ?_)
    (fun cs new h hnew hf => hf.grows (.of_isQuery hnew))
    (fun before c c' after h hbare hcc' hf => hf.replace fun bo hbo => ?_)
    (fun before c after h fd m ret c' h' hbare hm hf => ?_) hnew
  · rw [(hblank c hc).boHandle] at hbo
    cases hbo
  · rw [(hcc'.refit.bare hbare).boHandle] at hbo
    cases hbo
  · cases hm with
    | refused _ => exact hf.grows (DrmCrtc.createsNew_refused hk _ _ _ _ _)
    | granted hg =>
      refine (hf.grows (DrmCrtc.createsNew_granted hk hg)).replace fun bo hbo => ?_
      cases hbo
      exact DrmCrtc.sized_of_grant hk hg

/-- A mode change gives a CRTC a buffer and a greatest mode of one size. -/
theorem fits_changeMode (hk : k.Fresh) {width height : ℕ} {displayPath : UInt8} {ret : ℤ}
    (hf : Fits e.crtcs h) (hc : Changed e k h width height displayPath ret e' h') :
    Fits e'.crtcs h' := by
  obtain ⟨new, hnew, ⟨hsame, hh⟩ | ⟨t, conns, before, after, set, c', ht, hcrtcs, hm, hcrtcs'⟩⟩ :=
    crtcs_changed hc
  · obtain rfl : h' = new ++ h := hh
    rw [hsame]
    exact hf.grows (.of_isQuery hnew)
  have hf₁ := hf.grows (.of_isQuery hnew)
  rw [hcrtcs']
  rw [hcrtcs] at hf₁
  cases hm with
  | refused _ => exact hf₁.grows (DrmCrtc.createsNew_refused hk _ _ _ _ _)
  | granted hg =>
    refine (hf₁.grows (DrmCrtc.createsNew_granted hk hg)).replace fun bo hbo => ?_
    cases hbo
    exact DrmCrtc.sized_of_grant hk hg

/-! ## Updates -/

/-- An update gives no CRTC that has a buffer another greatest mode. -/
def KeepsSizes (k : Kernel) (s : DRIElements × History) (l : Op × ℤ) : Prop :=
  match l.1 with
  | .updateDevice name =>
    ∀ d, s.1.mDeviceList.lookup name = some d →
      ∀ conns rs h', d.read k s.2 = .ok ((conns, rs), h') →
        ∀ c ∈ d.crtcList, c.boHandle.isSome →
          ∀ r ∈ DriDevice.lastFor rs c.id, clampMode r.max s.1.mInitialMode = c.max
  | _ => True

theorem fits_updateDevice (hread : e.AllRead) {name : String} {called : Bool} {ret : ℤ}
    (hkeeps : KeepsSizes k (e, h) (.updateDevice name, ret)) (hf : Fits e.crtcs h)
    (hu : e.updateDevice name k h = .ok ((called, e'), h')) : Fits e'.crtcs h' := by
  obtain ⟨⟨new, rfl, hnew⟩, _⟩ := crtcs_updateDevice hu
  have hgrown := hf.grows (.of_isQuery hnew)
  rcases updateDevice_reads hread hu with ⟨_, rfl, _⟩ | ⟨d, conns, rs, hd, hasked, rfl⟩
  · exact hgrown
  -- what has a buffer has its greatest mode as before
  have hsame : List.Forall₂ (fun c c' : DrmCrtc => c'.boHandle = c.boHandle ∧
      (c.boHandle.isSome → c'.max = c.max)) d.crtcList
        (d.afterReads e.mInitialMode conns rs).crtcList := by
    refine List.forall₂_map_right_iff.2 (List.forall₂_same.2 fun c hc => ?_)
    refine ⟨DriDevice.boHandle_written rs c, fun hbo => ?_⟩
    rw [DriDevice.max_written]
    cases hlast : DriDevice.lastFor rs c.id with
    | none => rfl
    | some r => exact hkeeps d hd conns rs _ hasked c hc hbo r hlast
  intro c' hc' bo hbo
  obtain ⟨c, hc, hbo', hmax⟩ :=
    Prog.exists_rel_of_mem (forall₂_crtcs (fun c => ⟨rfl, fun _ => rfl⟩) hd hsame) hc'
  rw [hbo'] at hbo
  rw [hmax (Option.isSome_of_eq_some hbo)]
  exact hgrown c hc bo hbo

/-- Buffers fit as long as no update gives a CRTC that has one another greatest
    mode. -/
theorem fits_of_run (hk : k.Fresh) (hs : k.Sane) (hnew : new defMode k [] = .ok (e₀, h₀))
    (hrun : Run (Run.when (KeepsSizes k) (Step k)) (e₀, h₀) ls (e, h)) : Fits e.crtcs h := by
  refine (hrun.invariant (fun s => s.1.AllRead ∧ Fits s.1.crtcs s.2)
    ⟨allRead_new hs hnew, fits_new hk hnew⟩ ?_).2
  rintro ⟨e, h⟩ ⟨op, ret⟩ ⟨e', h'⟩ ⟨hread, hf⟩ ⟨hkeeps, hstep⟩
  refine ⟨allRead_step hread hstep, ?_⟩
  rcases step_cases hstep with ⟨_, heq⟩ | ⟨name, called, hop, hu⟩ | ⟨_, _, _, _, _, hc⟩
  · cases heq
    exact hf.grows ⟨[_], rfl, by simp⟩
  · obtain rfl : op = .updateDevice name := hop
    exact fits_updateDevice hread hkeeps hf hu
  · exact fits_changeMode hk hf hc

/-- A mode change and an update of a display that stays as it is. -/
theorem fits_of_run_one_display : ∃ e₀ h₀ e h,
    new ⟨1920, 1080⟩ (.willing fun _ => .oneDisplay) [] = .ok (e₀, h₀) ∧
      Run (Step (.willing fun _ => .oneDisplay)) (e₀, h₀)
        [(.updateDevice "/dev/dri/card0", 0), (.changeMode 1920 1080 0 0, 1)] (e, h) ∧
      Fits e.crtcs h := by
  let k : Kernel := .willing fun _ => .oneDisplay
  have hrun : (new ⟨1920, 1080⟩ k []).map (fun s =>
      (s.1.changeMode 1920 1080 0 0 k s.2).map fun r =>
        (r.1.1, (r.1.2.updateDevice "/dev/dri/card0" k r.2).map (fun _ => ()),
          (r.1.2.mDeviceList.lookup "/dev/dri/card0").map fun d => (d.read k r.2).map
            fun (p : (List DrmConnector × List Reading) × History) =>
              decide (∀ c ∈ d.crtcList, c.boHandle.isSome → ∀ m ∈ DriDevice.lastFor p.1.2 c.id,
                clampMode m.max r.1.2.mInitialMode = c.max))) =
        .ok (.ok (1, .ok (), some (.ok true))) := by
    decide +kernel
  obtain ⟨⟨e₀, h₀⟩, hnew, hchange⟩ := Prog.exists_of_map_eq_ok hrun
  obtain ⟨⟨⟨ret, e₁⟩, h₁⟩, hchange, hobs⟩ := Prog.exists_of_map_eq_ok hchange
  obtain ⟨rfl, hobs⟩ := Prod.mk.inj hobs
  obtain ⟨hupdate, hkeeps⟩ := Prod.mk.inj hobs
  obtain ⟨⟨⟨called, e⟩, h⟩, hupdate, _⟩ := Prog.exists_of_map_eq_ok hupdate
  have hfirst : Step k (e₀, h₀) (.changeMode 1920 1080 0 0, 1) (e₁, h₁) := hchange
  have hsecond : Step k (e₁, h₁) (.updateDevice "/dev/dri/card0", 0) (e, h) := by
    rw [Step, run, Prog.bind_of_ok hupdate]
    rfl
  have hsame : KeepsSizes k (e₁, h₁) (.updateDevice "/dev/dri/card0", 0) := by
    intro d hd conns rs h' hread c hc hbo m hm
    rw [hd, Option.map_some, hread] at hkeeps
    exact of_decide_eq_true (Except.ok.inj (Option.some.inj hkeeps)) c hc hbo m hm
  have htrue : KeepsSizes k (e₀, h₀) (.changeMode 1920 1080 0 0, 1) := trivial
  exact ⟨e₀, h₀, e, h, hnew, .step (.step .nil hfirst) hsecond,
    fits_of_run (Kernel.scripted_fresh _ _ _ _)
      (Kernel.scripted_sane _ _ _ _ fun _ => Card.oneDisplay_sane) hnew
      (.step (.step .nil ⟨htrue, hfirst⟩) ⟨hsame, hsecond⟩)⟩

/-- A greater display in the place of a small one: after the update the greatest
    mode is larger than the buffer. -/
theorem fits_lost_after_hotplug : ∃ k : Kernel, k.Fresh ∧ k.Sane ∧ ∃ e₀ h₀ e h,
    new ⟨1920, 1080⟩ k [] = .ok (e₀, h₀) ∧
      Run (Step k) (e₀, h₀) [(.updateDevice "/dev/dri/card0", 0), (.hotplug, 0)] (e, h) ∧
        ∃ c ∈ e.crtcs, ∃ bo ∈ c.boHandle, c.max = ⟨1920, 1080⟩ ∧ Sized h ⟨1280, 720⟩ bo ∧
          ¬ Fits e.crtcs h := by
  let k : Kernel := .willing fun n => if n = 0 then .smallDisplay else .oneDisplay
  have hrun : (new ⟨1920, 1080⟩ k []).map (fun s =>
      (s.1.updateDevice "/dev/dri/card0" k (.hotplug :: s.2)).map fun r =>
        (r.1.2.crtcs.map fun c => (c.max, c.boHandle.map (·.handle)),
          r.2.filter (createsBo · != none))) =
      .ok (.ok ([(⟨1920, 1080⟩, some 1)], [.createDumb ⟨3, 1280, 720, 32⟩ (some 1)])) := by
    decide +kernel
  obtain ⟨⟨e₀, h₀⟩, hnew, hupdate⟩ := Prog.exists_of_map_eq_ok hrun
  obtain ⟨⟨⟨called, e⟩, h⟩, hupdate, hobs⟩ := Prog.exists_of_map_eq_ok hupdate
  obtain ⟨hcrtcs, hcreated⟩ := Prod.mk.inj hobs
  have hfirst : Step k (e₀, h₀) (.hotplug, 0) (e₀, .hotplug :: h₀) := rfl
  have hsecond : Step k (e₀, .hotplug :: h₀) (.updateDevice "/dev/dri/card0", 0) (e, h) := by
    rw [Step, run, Prog.bind_of_ok hupdate]
    rfl
  -- the CRTC, and the only buffer that was created
  obtain ⟨c, hc, heq⟩ := List.mem_map.1 (hcrtcs ▸ List.mem_singleton_self _)
  obtain ⟨hmax, hbo⟩ := Prod.mk.inj heq
  obtain ⟨bo, hbo, hhandle⟩ := Option.map_eq_some_iff.1 hbo
  have hmem (req : CreateDumb) :
      .createDumb req (some bo.handle) ∈ h ↔ req = ⟨3, 1280, 720, 32⟩ := by
    have hfilter : .createDumb req (some bo.handle) ∈ h ↔
        .createDumb req (some bo.handle) ∈ h.filter (createsBo · != none) := by
      simp [List.mem_filter, createsBo]
    rw [hfilter, hcreated, hhandle]
    simp
  have hsized : Sized h ⟨1280, 720⟩ bo := by
    refine ⟨⟨_, (hmem _).2 rfl⟩, fun req hreq => ?_⟩
    rw [(hmem req).1 hreq]
  refine ⟨k, Kernel.scripted_fresh _ _ _ _, Kernel.scripted_sane _ _ _ _ fun n => ?_, e₀, h₀, e, h,
    hnew, .step (.step .nil hfirst) hsecond, c, hc, bo, hbo, hmax, hsized, fun hf => ?_⟩
  · split
    · exact Card.smallDisplay_sane
    · exact Card.oneDisplay_sane
  · have hfits := (hf c hc bo hbo).size _ ((hmem _).2 rfl)
    rw [hmax] at hfits
    cases hfits

end DRIElements

end ValRpi
