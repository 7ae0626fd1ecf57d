import ValRpi.Lib.Slots
import ValRpi.Moves

/-!
# Screens

What the CRTCs of the kernel scan out is up to the kernel, which is not part of the
repository. The library relies on this only (`ScansOut`): a framebuffer of it is shown
where a mode was set with it, it is shown nowhere any more once it is removed, and a mode
set that succeeds shows it. For all else the kernel may switch off what it likes, for
example a CRTC whose connector another mode set takes.

Along the runs whose requests are granted where they must be (`Supplied`):

* `screens_of_run`: what is shown is alive, the CRTC of the library that stands for the one
  that shows it owns it, with a buffer that is alive, and no two CRTCs show the same;
* `shows_of_run`: a request for a mode that reaches its target decides what that CRTC
  shows, and nothing else shows anything new, whatever the kernel answers.
-/

namespace ValRpi

variable {k : Kernel} {h h' : History} {fd : ℤ} {shows : History → ℤ × ℕ → ℕ → Prop}

/-- The CRTC an event shows a framebuffer on, with the framebuffer. -/
def putsFb : Event → Option ((ℤ × ℕ) × ℕ)
  | .setCrtc req true => some ((req.fd, req.crtcId), req.fbId)
  | .setPlane req true => some ((req.fd, req.crtcId), req.fbId)
  | _ => none

/-- What the CRTCs of the devices show of the framebuffers of the library: what was put
    there and not removed since, and what a mode was set with at least until something
    else happens. -/
structure ScansOut (shows : History → ℤ × ℕ → ℕ → Prop) : Prop where
  honest : Slots.Honest putsFb removesFb shows
  set : ∀ req h, req.connectors ≠ [] → shows (.setCrtc req true :: h) (req.fd, req.crtcId) req.fbId

/-- Everything that is put is shown until it is removed or another framebuffer is put there. -/
theorem scansOut_shown : ScansOut fun h s fbId => Slots.shown putsFb removesFb h s = some fbId where
  honest := by
    refine Slots.honest_shown putsFb removesFb fun ev hev => ?_
    cases ev with
    | setCrtc req done => rfl
    | setPlane req done => rfl
    | _ => cases hev
  set req h _ := by simp [Slots.shown, putsFb]

/-- What happened since put nothing on a screen. -/
def PutsNone (h h' : History) : Prop :=
  ∃ new : History, h' = new ++ h ∧ ∀ ev ∈ new, putsFb ev = none

namespace PutsNone

theorem plain {new : History} (hnew : ∀ ev ∈ new, ev.Plain fd) : PutsNone h (new ++ h) := by
  refine ⟨new, rfl, fun ev hev => ?_⟩
  have hplain := hnew ev hev
  cases ev with
  | setCrtc req done => cases hplain
  | setPlane req done => cases hplain
  | _ => rfl

theorem shows_before (hq : PutsNone h h') (hscan : ScansOut shows) {s : ℤ × ℕ} {fbId : ℕ}
    (hshown : shows h' s fbId) : shows h s fbId := by
  obtain ⟨new, rfl, hnew⟩ := hq
  exact hscan.honest.append (fun ev hev => by simp [hnew ev hev]) hshown

end PutsNone

namespace DrmCrtc

/-- The CRTC of the kernel that a CRTC stands for. -/
def slot (fd : ℤ) (c : DrmCrtc) : Option (ℤ × ℕ) := c.mCrtc.map fun p => (fd, p.crtcId)

theorem slot_eq_some {c : DrmCrtc} {s : ℤ × ℕ} :
    c.slot fd = some s ↔ fd = s.1 ∧ c.crtcId = .ok s.2 := by
  rw [slot, crtcId]
  cases c.mCrtc with
  | none => simp [deref, Except.map]
  | some p => simp [deref, Except.map, Prod.ext_iff]

theorem putsNone_released (c : DrmCrtc) (fd : ℤ) (h : History) : PutsNone h (c.released fd h) := by
  rw [released]
  split
  next bo _ =>
    exact ⟨[.destroyDumb bo.fd bo.handle, .rmFB fd c.scanoutFbId], rfl, by simp [putsFb]⟩
  · exact ⟨[], rfl, by simp⟩

theorem putsNone_refused (k : Kernel) (h : History) (fd : ℤ) (width height : ℕ) :
    PutsNone h (refused k h fd width height) := by
  rw [refused]
  split
  · exact ⟨[_], rfl, by simp [putsFb]⟩
  · exact ⟨[_, _, _], rfl, by simp [putsFb]⟩

theorem putsNone_granted (h : History) (fd : ℤ) (width height : ℕ) (arg : DumbBuffer) (fbId : ℕ) :
    PutsNone h (granted h fd width height arg fbId) :=
  ⟨[_, _], rfl, by simp [putsFb]⟩

end DrmCrtc

/-! ## The invariant -/

/-- What the kernel shows is owned by the CRTCs of the device. -/
abbrev Screened (shows : History → ℤ × ℕ → ℕ → Prop) (fd : ℤ) (cs : List DrmCrtc) (h : History) :
    Prop :=
  Slots.Owned shows (DrmCrtc.slot fd) DrmCrtc.heldFb h cs

namespace Screened

variable {cs before after : List DrmCrtc} {c c' : DrmCrtc} {width height : ℕ}

theorem quiet (hs : Screened shows fd cs h) (hscan : ScansOut shows) (hq : PutsNone h h') :
    Screened shows fd cs h' :=
  fun s fbId hshown => hs s fbId (hq.shows_before hscan hshown)

theorem of_blank (hscan : ScansOut shows) (hh : ∀ ev ∈ h, ev.isQuery) : Screened shows fd cs h := by
  have hplain : ∀ ev ∈ h, ev.Plain fd := fun ev hev => .of_isQuery (hh ev hev)
  simpa using quiet (.nil hscan.honest cs) hscan (.plain hplain)

/-- Other connectors and sizes change nothing. -/
theorem refit (hs : Screened shows fd (before ++ c :: after) h) (hc : c.Refit c') :
    Screened shows fd (before ++ c' :: after) h := by
  obtain ⟨conns, max, min, rfl⟩ := hc
  refine hs.congr (List.rel_append ?_ (.cons ⟨rfl, rfl⟩ ?_))
  · exact List.forall₂_same.2 fun a _ => ⟨rfl, rfl⟩
  · exact List.forall₂_same.2 fun a _ => ⟨rfl, rfl⟩

/-- A CRTC gives up what it owns. -/
theorem released (hs : Screened shows fd (before ++ c :: after) h) (hscan : ScansOut shows) :
    Screened shows fd (before ++ after) (c.released fd h) := by
  cases ho : c.owned with
  | none =>
    rw [DrmCrtc.released, ho]
    exact hs.forget (by rw [DrmCrtc.heldFb, ho]; rfl)
  | some bo =>
    have hfb : c.heldFb = some c.scanoutFbId := by rw [DrmCrtc.heldFb, ho]; rfl
    have htaken : Screened shows fd (before ++ after) (.rmFB fd c.scanoutFbId :: h) :=
      hs.take hscan.honest hfb rfl rfl
    rw [DrmCrtc.released, ho]
    exact htaken.quiet hscan ⟨[.destroyDumb bo.fd bo.handle], rfl, by simp [putsFb]⟩

theorem committed (hs : Screened shows fd (before ++ c :: after) h) (hk : k.Fresh)
    (hscan : ScansOut shows) {m : ℕ × ModeInfo} {ret : ℤ} (hid : c.crtcId = .ok m.1)
    (hm : c.Committed k fd width height m h ret c' h') :
    Screened shows fd (before ++ c' :: after) h' := by
  have hgave := hs.released hscan
  cases hm with
  | refused _ => exact (hgave.quiet hscan (DrmCrtc.putsNone_refused _ _ _ _ _)).insert c
  | @granted arg fbId done hg =>
    -- the new owner is known before its framebuffer is shown
    obtain ⟨_, _, hne⟩ := DrmCrtc.fresh_of_grant hk hg
    obtain ⟨hfb, _⟩ := c.owned_scanout fd arg hne
    have hslot : (c.scanout fd arg fbId).slot fd = some (fd, m.1) :=
      DrmCrtc.slot_eq_some.2 ⟨rfl, hid⟩
    have hmade : Screened shows fd (before ++ c.scanout fd arg fbId :: after)
        (DrmCrtc.granted (c.released fd h) fd width height arg fbId) :=
      (hgave.quiet hscan (DrmCrtc.putsNone_granted _ _ _ _ _ _)).insert _
    cases done with
    | true => exact hmade.put hscan.honest hfb hslot rfl
    | false => exact hmade.quiet hscan ⟨[_], rfl, by simp [putsFb]⟩

theorem move {s s' : List DrmCrtc × History} (hs : Screened shows fd s.1 s.2) (hk : k.Fresh)
    (hscan : ScansOut shows) (hm : Move k fd s s') : Screened shows fd s'.1 s'.2 := by
  cases hm with
  | @note cs h ev hev =>
    have hplain : ∀ ev' ∈ [ev], ev'.Plain fd := by simpa using hev
    exact hs.quiet hscan (.plain hplain)
  | refit hc => exact hs.refit hc
  | commit hid _ hm => exact hs.committed hk hscan hid hm

end Screened

/-! ## Runs -/

namespace ValVideoImpl

variable {v v' : ValVideoImpl} {caps : DeviceCapability}

theorem screened_of_run (hscan : ScansOut shows) (hk : k.Fresh) (hr : Supplied k caps (v, h)) :
    Owns v.driElements.primary.crtcList h ∧
      Screened shows v.driElements.primary.drmModuleFd v.driElements.primary.crtcList h := by
  obtain ⟨cs₀, h₀, hcs₀, hh₀, hmoves⟩ := moves_of_run hr
  exact hmoves.invariant
    (fun s => Owns s.1 s.2 ∧ Screened shows v.driElements.primary.drmModuleFd s.1 s.2)
    (fun _ _ hs hm => ⟨hs.1.move hk hm, hs.2.move hk hscan hm⟩)
    ⟨.of_blank hcs₀ hh₀, .of_blank hscan hh₀⟩

/-- What is shown is alive, no two CRTCs show the same, and what is alive can be
    scanned out. -/
structure Screens (shows : History → ℤ × ℕ → ℕ → Prop) (v : ValVideoImpl) (h : History) :
    Prop where
  shown : ∀ s fbId, shows h s fbId → fbId ∈ liveFbs h ∧
    s.1 = v.driElements.primary.drmModuleFd ∧
      ∃ c ∈ v.driElements.primary.crtcList, c.crtcId = .ok s.2 ∧ c.scanoutFbId = fbId
  exclusive : ∀ s s' fbId, shows h s fbId → shows h s' fbId → s = s'
  backed : ∀ fbId ∈ liveFbs h, ∃ c ∈ v.driElements.primary.crtcList, c.scanoutFbId = fbId ∧
    ∃ bo ∈ c.boHandle, bo.handle ∈ liveBos h ∧
      ∃ req, .addFB2 req (some fbId) ∈ h ∧ req.handles.head? = some bo.handle

/-- In every run whose requests are granted where they must be, only framebuffers that are
    alive are shown, each on one CRTC that names it, and their buffers are alive. -/
theorem screens_of_run (hscan : ScansOut shows) (hk : k.Fresh) (hr : Supplied k caps (v, h)) :
    v.Screens shows h := by
  obtain ⟨howns, hs⟩ := screened_of_run hscan hk hr
  refine ⟨fun s fbId hshown => ?_, fun s s' fbId hshown hshown' => ?_, fun fbId hlive => ?_⟩
  · obtain ⟨c, hc, hslot, hfb⟩ := hs s fbId hshown
    obtain ⟨hfd, hid⟩ := DrmCrtc.slot_eq_some.1 hslot
    obtain ⟨_, _, hname⟩ := Option.map_eq_some_iff.1 hfb
    exact ⟨howns.fbs.mem_live.2 (Ledger.mem_heldBy hc hfb), hfd.symm, c, hc, hid, hname⟩
  · exact hs.eq_of_shows howns.fbs.nodup_held hshown hshown'
  · obtain ⟨c, hc, hfb⟩ := List.mem_filterMap.1 (howns.fbs.mem_live.1 hlive)
    obtain ⟨bo, howned, rfl⟩ := Option.map_eq_some_iff.1 hfb
    have hbo : c.boHandle = some bo := by
      rw [DrmCrtc.owned] at howned
      split at howned
      · exact howned
      · cases howned
    obtain ⟨hbolive, _, hmade⟩ := howns.alive hc hbo
    exact ⟨c, hc, rfl, bo, hbo, hbolive, hmade⟩

/-- After a request for another mode, the new framebuffer is on the screen. -/
theorem screens_of_run_one_display :
    let shows : History → ℤ × ℕ → ℕ → Prop := fun h s fbId =>
      Slots.shown putsFb removesFb h s = some fbId
    ∃ v h, Supplied (.willing fun _ => .oneDisplay) .fullHd (v, h) ∧
      (liveFbs h = {2} ∧ shows h (3, 31) 2) ∧ v.Screens shows h := by
  intro shows
  let k : Kernel := .willing fun _ => .oneDisplay
  have hrun : (new .fullHd k []).map (fun s =>
      (s.1.run (.setDisplayResolution ⟨1280, 720⟩ 0) k s.2).map fun r =>
        decide (liveFbs r.2 = {2} ∧ Slots.shown putsFb removesFb r.2 (3, 31) = some 2)) =
          .ok (.ok true) := by
    decide +kernel
  obtain ⟨⟨v₀, h₀⟩, hnew, hset⟩ := Prog.exists_of_map_eq_ok hrun
  obtain ⟨⟨v, h⟩, hset, hobs⟩ := Prog.exists_of_map_eq_ok hset
  have hstep : Step k (v₀, h₀) (.setDisplayResolution ⟨1280, 720⟩ 0) (v, h) := hset
  have hsupplied : Supplied k .fullHd (v, h) :=
    ⟨_, _, hnew, .step .nil ⟨grants_willing _ _ _, hstep⟩⟩
  exact ⟨v, h, hsupplied, of_decide_eq_true hobs,
    screens_of_run scansOut_shown (Kernel.scripted_fresh _ _ _ _) hsupplied⟩

/-! ## Requests -/

/-- The CRTCs of a sane kernel were all read. -/
theorem allRead_of_run (hs : k.Sane) (hr : Reachable k caps (v, h)) : v.driElements.AllRead := by
  obtain ⟨⟨v₀, h₀⟩, ops, hnew, hrun⟩ := hr
  obtain ⟨e, h₁, he, hinit⟩ := new_eq_ok hnew
  obtain ⟨physical, sinks, hp⟩ := init_updatePlanes hinit
  have hread := (DRIElements.allRead_new hs he).asked e.primary.connectorList
  exact hrun.invariant (fun s => s.1.driElements.AllRead) (allRead_updatePlanes hread hp)
    fun _ _ _ hread hstep => allRead_run hread hstep

/-- What the CRTC of its target shows after a request. -/
def newScreen (k : Kernel) (win : Size) (e : DRIElements) (t : Target) (h : History) : Option ℕ :=
  match granted k win e t h with
  | some (arg, fbId) => if (modeSetError k win e t h arg fbId).isNone then some fbId else none
  | none => none

/-- What the CRTC of the target names is removed first: the CRTC shows nothing then, and the
    others nothing new. -/
theorem shows_of_cleared (hscan : ScansOut shows) (hk : k.Fresh) (hs : k.Sane)
    (hr : Supplied k caps (v, h)) {win : Size} {displayPath : UInt8} {e : DRIElements}
    {conns : List DrmConnector} {t : Target} {h₂ : History}
    (hreach : Reaches v k h win displayPath e conns t h₂) {s : ℤ × ℕ} {fbId : ℕ}
    (hshown : shows (cleared e t h₂) s fbId) :
    s ≠ (v.driElements.primary.drmModuleFd, t.crtcId) ∧ shows h s fbId := by
  obtain ⟨hfd, hcrtcs, hid⟩ := hreach.target
  obtain ⟨new, rfl, hnew⟩ := hreach.history
  have hplain : ∀ ev ∈ new, ev.Plain e.primary.drmModuleFd := fun ev hev =>
    .of_isQuery (hnew ev hev)
  have hquiet : PutsNone h (new ++ h) := .plain hplain
  have hbefore := (DrmCrtc.putsNone_released _ _ _).shows_before hscan hshown
  refine ⟨?_, hquiet.shows_before hscan hbefore⟩
  rintro rfl
  have hscreened := (screened_of_run hscan hk hr).2.quiet hscan hquiet
  have hids := (allRead_of_run hs hr.reachable).primary.nodup
  rw [hcrtcs] at hscreened hids
  rw [cleared, hfd] at hshown
  refine (hscreened.released hscan).not_shows (fun a ha hslot => ?_) fbId hshown
  -- the other CRTCs have other ids
  exact ids_ne hids hid ha (DrmCrtc.id_of_crtcId (DrmCrtc.slot_eq_some.1 hslot).2)

/-- A request that reaches its target decides what the CRTC of that target shows. The others
    show nothing new. -/
theorem shows_of_reaches (hscan : ScansOut shows) (hk : k.Fresh) (hs : k.Sane)
    (hr : Supplied k caps (v, h)) {win : Size} {displayPath : UInt8} {e : DRIElements}
    {conns : List DrmConnector} {t : Target} {h₂ : History}
    (hreach : Reaches v k h win displayPath e conns t h₂)
    (hstep : Step k (v, h) (.setDisplayResolution win displayPath) (v', h')) :
    (∀ fbId, shows h' (v.driElements.primary.drmModuleFd, t.crtcId) fbId ↔
      newScreen k win e t h₂ = some fbId) ∧
    ∀ s, s ≠ (v.driElements.primary.drmModuleFd, t.crtcId) → ∀ fbId, shows h' s fbId →
      shows h s fbId := by
  obtain ⟨r, ho⟩ := outcome_of_run hstep
  have hcleared {s : ℤ × ℕ} {fbId : ℕ} (hshown : shows (cleared e t h₂) s fbId) :=
    shows_of_cleared hscan hk hs hr hreach hshown
  obtain ⟨hfd, _, _⟩ := hreach.target
  have hconnectors : t.crtc.connectors ≠ [] := by
    obtain ⟨_, _, _, _, _, ht⟩ := hreach
    exact ((DriDevice.findTarget_spec ht).2 t rfl).connectors
  rw [newScreen]
  rcases hg : granted k win e t h₂ with _ | ⟨arg, fbId⟩
  · have heq := ho.setDisplayResolution_eq.symm.trans
      (Outcome.refused hreach hg).setDisplayResolution_eq
    obtain ⟨_, rfl⟩ := Prod.mk.inj (Except.ok.inj heq)
    have hquiet := DrmCrtc.putsNone_refused k (cleared e t h₂) e.primary.drmModuleFd win.w win.h
    refine ⟨fun fbId => iff_of_false (fun hshown => ?_) (by simp), fun s _ fbId hshown => ?_⟩
    · exact (hcleared (hquiet.shows_before hscan hshown)).1 rfl
    · exact (hcleared (hquiet.shows_before hscan hshown)).2
  · have heq := ho.setDisplayResolution_eq.symm.trans
      (Outcome.granted hreach hg).setDisplayResolution_eq
    obtain ⟨_, rfl⟩ := Prod.mk.inj (Except.ok.inj heq)
    have hquiet : PutsNone (cleared e t h₂) (prepared win e t h₂ arg fbId) :=
      DrmCrtc.putsNone_granted _ _ _ _ _ _
    have hprepared {s : ℤ × ℕ} {fbId' : ℕ}
        (hshown : shows (prepared win e t h₂ arg fbId) s fbId') :=
      hcleared (hquiet.shows_before hscan hshown)
    have hplaced : ((t.request e.primary.drmModuleFd fbId).fd,
        (t.request e.primary.drmModuleFd fbId).crtcId) =
          (v.driElements.primary.drmModuleFd, t.crtcId) := by rw [Target.request, hfd]
    dsimp only
    cases (modeSetError k win e t h₂ arg fbId).isNone with
    | true =>
      rw [if_pos rfl]
      refine ⟨fun fbId' => ⟨fun hshown => ?_, fun hfb => ?_⟩, fun s hne fbId' hshown => ?_⟩
      · rcases hscan.honest.cons _ _ _ _ hshown with hput | ⟨hshown, _⟩
        · exact congrArg some (Prod.mk.inj (Option.some.inj hput)).2
        · exact absurd rfl (hprepared hshown).1
      · obtain rfl := Option.some.inj hfb
        rw [← hplaced]
        exact hscan.set _ _ hconnectors
      · rcases hscan.honest.cons _ _ _ _ hshown with hput | ⟨hshown, _⟩
        · exact absurd ((Prod.mk.inj (Option.some.inj hput)).1.symm.trans hplaced) hne
        · exact (hprepared hshown).2
    | false =>
      have hfailed : PutsNone (prepared win e t h₂ arg fbId)
          (.setCrtc (t.request e.primary.drmModuleFd fbId) false ::
            prepared win e t h₂ arg fbId) := ⟨[_], rfl, by simp [putsFb]⟩
      refine ⟨fun fbId' => iff_of_false (fun hshown => ?_) (by simp), fun s _ fbId' hshown => ?_⟩
      · exact (hprepared (hfailed.shows_before hscan hshown)).1 rfl
      · exact (hprepared (hfailed.shows_before hscan hshown)).2

/-- A request for a mode that reaches its target decides what the CRTC of that target
    shows, and the other CRTCs show nothing new. After all else no CRTC does. -/
theorem shows_of_run (hscan : ScansOut shows) (hk : k.Fresh) (hs : k.Sane)
    (hr : Supplied k caps (v, h)) {op : Op} (hstep : Step k (v, h) op (v', h')) :
    (∀ win displayPath e conns t h₂, op = .setDisplayResolution win displayPath →
      Reaches v k h win displayPath e conns t h₂ →
        (∀ fbId, shows h' (v.driElements.primary.drmModuleFd, t.crtcId) fbId ↔
          newScreen k win e t h₂ = some fbId) ∧
        ∀ s, s ≠ (v.driElements.primary.drmModuleFd, t.crtcId) → ∀ fbId, shows h' s fbId →
          shows h s fbId) ∧
    ((∀ win displayPath e conns t h₂, op = .setDisplayResolution win displayPath →
      ¬ Reaches v k h win displayPath e conns t h₂) →
        ∀ s fbId, shows h' s fbId → shows h s fbId) := by
  constructor
  · rintro win displayPath e conns t h₂ rfl hreach
    exact shows_of_reaches hscan hk hs hr hreach hstep
  · intro hnot s fbId hshown
    have hnoted : DRIElements.Noted v.driElements h v'.driElements h' := by
      by_cases hop : ∃ win displayPath, op = .setDisplayResolution win displayPath
      · obtain ⟨win, displayPath, rfl⟩ := hop
        obtain ⟨r, ho⟩ := outcome_of_run hstep
        exact ho.noted fun e conns t h₂ => hnot win displayPath e conns t h₂ rfl
      · exact noted_run (fun win displayPath heq => hop ⟨win, displayPath, heq⟩) hstep
    obtain ⟨new, rfl, hnew⟩ := hnoted.log
    exact (PutsNone.plain hnew).shows_before hscan hshown

/-- A kernel that has a buffer for one framebuffer only: the screen goes off. -/
theorem shows_of_run_refused :
    let shows : History → ℤ × ℕ → ℕ → Prop := fun h s fbId =>
      Slots.shown putsFb removesFb h s = some fbId
    ∃ k : Kernel, ∃ v h v' h', Supplied k .fullHd (v, h) ∧
      Step k (v, h) (.setDisplayResolution ⟨1280, 720⟩ 0) (v', h') ∧
        (shows h (3, 31) 1 ∧ ¬ shows h' (3, 31) 1) ∧
          ∀ e conns t h₂, Reaches v k h ⟨1280, 720⟩ 0 e conns t h₂ →
            (∀ fbId, shows h' (v.driElements.primary.drmModuleFd, t.crtcId) fbId ↔
              newScreen k ⟨1280, 720⟩ e t h₂ = some fbId) ∧
            ∀ s, s ≠ (v.driElements.primary.drmModuleFd, t.crtcId) → ∀ fbId, shows h' s fbId →
              shows h s fbId := by
  intro shows
  let k : Kernel := .scripted (fun _ => .oneDisplay)
    (fun h => (Ledger.acquired createsBo h).length = 0) (fun _ => true) fun _ => true
  have hrun : (new .fullHd k []).map (fun s =>
      (decide (Slots.shown putsFb removesFb s.2 (3, 31) = some 1),
        (s.1.run (.setDisplayResolution ⟨1280, 720⟩ 0) k s.2).map fun r =>
          decide (Slots.shown putsFb removesFb r.2 (3, 31) = some 1))) = .ok (true, .ok false) := by
    decide +kernel
  obtain ⟨⟨v, h⟩, hnew, hobs⟩ := Prog.exists_of_map_eq_ok hrun
  obtain ⟨hon, hset⟩ := Prod.mk.inj hobs
  obtain ⟨⟨v', h'⟩, hset, hoff⟩ := Prog.exists_of_map_eq_ok hset
  have hstep : Step k (v, h) (.setDisplayResolution ⟨1280, 720⟩ 0) (v', h') := hset
  have hsupplied : Supplied k .fullHd (v, h) := ⟨_, [], hnew, .nil⟩
  have hsane : k.Sane := Kernel.scripted_sane _ _ _ _ fun _ => Card.oneDisplay_sane
  have hall := shows_of_run scansOut_shown (Kernel.scripted_fresh _ _ _ _) hsane hsupplied hstep
  exact ⟨k, v, h, v', h', hsupplied, hstep, ⟨of_decide_eq_true hon, of_decide_eq_false hoff⟩,
    fun e conns t h₂ => hall.1 _ _ e conns t h₂ rfl⟩

end ValVideoImpl

end ValRpi
