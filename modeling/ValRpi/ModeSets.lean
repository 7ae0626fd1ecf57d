import ValRpi.Effects

/-!
# Mode sets

`setActiveMode` passes all the connectors of a CRTC to the kernel, but checks
only those that it finds and that are plugged. What it passes is consistent all
the same (`setActiveMode_consistent`), because a CRTC never has more than one
connector (`Single`): the setup clears the set before it adds one, and nothing
else writes to it. If the only connector is not checked, no mode is found.
-/

namespace ValRpi

variable {k : Kernel} {h h' h₁ : History}

/-! ## One connector -/

/-- No CRTC has more than one connector. -/
def Single (cs : List DrmCrtc) : Prop := ∀ c ∈ cs, c.connectors.length ≤ 1

namespace Single

variable {confMode : Size} {before after cs cs' : List DrmCrtc} {c c' : DrmCrtc}

theorem of_blank (hcs : ∀ c ∈ cs, c.Blank) : Single cs := by
  intro c hc
  rw [(hcs c hc).connectors]
  simp

theorem assigned (hs : Single cs) (hcs : List.Forall₂ (DrmCrtc.Assigned confMode) cs cs') :
    Single cs' := by
  intro c hc
  obtain ⟨c₀, hc₀, rfl | ⟨connId, min, max, rfl⟩⟩ := Prog.exists_rel_of_mem hcs hc
  · exact hs c hc₀
  · simp [DrmCrtc.assign_eq]

/-- What replaces a CRTC has its connectors. -/
theorem replace (hs : Single (before ++ c :: after)) (hc : c'.connectors = c.connectors) :
    Single (before ++ c' :: after) := by
  intro x hx
  rcases List.mem_append.1 hx with hx | hx
  · exact hs x (List.mem_append_left _ hx)
  rcases List.mem_cons.1 hx with rfl | hx
  · rw [hc]
    exact hs c (by simp)
  · exact hs x (List.mem_append_right _ (List.mem_cons_of_mem _ hx))

end Single

theorem DrmCrtc.Committed.connectors {c c' : DrmCrtc} {fd : ℤ} {width height : ℕ}
    {m : ℕ × ModeInfo} {ret : ℤ} (hm : c.Committed k fd width height m h ret c' h') :
    c'.connectors = c.connectors := by
  cases hm <;> rfl

namespace DRIElements

variable {e e' e₀ : DRIElements} {h₀ : History} {defMode : Size}

/-- The states in which modes are set: that of the constructor once its device is
    set up, and those in which it ends and which follow. -/
inductive Sets (k : Kernel) (defMode : Size) : DRIElements → History → Prop
  | startUp {device : Option String} {e : DRIElements} {h : History} :
      startUp defMode k [] = .ok ((device, e), h) → Sets k defMode e h
  | run {e₀ e : DRIElements} {h₀ h : History} {ls : List (Op × ℤ)} :
      new defMode k [] = .ok (e₀, h₀) → Run (Step k) (e₀, h₀) ls (e, h) → Sets k defMode e h

theorem single_startUp {device : Option String}
    (hr : startUp defMode k [] = .ok ((device, e), h)) : Single e.crtcs := by
  obtain ⟨e₀, h₀, hload, hend⟩ := startUp_eq_ok hr
  obtain ⟨_, hblank, _⟩ := loadResources_spec rfl hload
  have hs₀ : Single e₀.crtcs := by
    refine .of_blank fun c hc => ?_
    obtain ⟨p, hp, hc⟩ := List.mem_flatMap.1 hc
    exact hblank p hp c hc
  rcases hend with ⟨_, rfl, _⟩ | ⟨name, d₀, d₁, _, _, hd₀, hsetup, rfl⟩
  · exact hs₀
  · exact hs₀.assigned (forall₂_crtcs DrmCrtc.Assigned.refl hd₀ (assigned_of_setupDevice hsetup))

theorem single_of_run (hnew : new defMode k [] = .ok (e₀, h₀)) {ls : List (Op × ℤ)}
    (hrun : Run (Step k) (e₀, h₀) ls (e, h)) : Single e.crtcs := by
  refine hrun.invariant (fun s => Single s.1.crtcs) ?_ ?_
  · refine crtcs_new (fun cs _ => Single cs) (fun _ _ hcs _ => .of_blank hcs)
      (fun _ _ _ _ hs => hs) (fun before c c' after h _ hc hs => ?_) ?_ hnew
    · exact hs.assigned
        (List.rel_append (assigned_refl _ before) (.cons hc (assigned_refl _ after)))
    · exact fun _ _ _ _ _ _ _ _ _ _ hm hs => hs.replace hm.connectors
  rintro ⟨e, h⟩ ⟨op, ret⟩ ⟨e', h'⟩ hs hstep
  rcases step_cases hstep with ⟨_, heq⟩ | ⟨name, called, _, hu⟩ | ⟨_, _, _, _, _, hc⟩
  · cases heq
    exact hs
  · exact hs.assigned (crtcs_updateDevice hu).2
  · obtain ⟨_, _, ⟨hsame, _⟩ | ⟨_, _, _, _, _, _, _, hcrtcs, hm, hcrtcs'⟩⟩ := crtcs_changed hc
    · rw [hsame]
      exact hs
    · rw [hcrtcs] at hs
      rw [hcrtcs']
      exact hs.replace hm.connectors

theorem Sets.single (hs : Sets k defMode e h) : Single e.crtcs := by
  cases hs with
  | startUp hr => exact single_startUp hr
  | run hnew hrun => exact single_of_run hnew hrun

end DRIElements

/-! ## Checked connectors -/

/-- The kernel was asked about one of the connectors since `h`, and answered that
    it is plugged and has the mode. -/
def Offered (k : Kernel) (conns : List DrmConnector) (h h' : History) (connId : ℕ)
    (mode : ModeInfo) : Prop :=
  ∃ conn ∈ conns, conn.connectorId = connId ∧ ∃ asked p,
    .query (.connector conn.mDrmModulefd connId) :: asked <:+ h' ∧ h <:+ asked ∧
      (k.card asked conn.mDrmModulefd).connector connId = some p ∧ p.plugged = true ∧
        mode ∈ p.modes

theorem Offered.mono {conns : List DrmConnector} {connId : ℕ} {mode : ModeInfo}
    (ho : Offered k conns h h' connId mode) (hsuf : h' <:+ h₁) :
    Offered k conns h h₁ connId mode := by
  obtain ⟨conn, hconn, hid, asked, p, hq, hrest⟩ := ho
  exact ⟨conn, hconn, hid, asked, p, hq.trans hsuf, hrest⟩

/-- A mode that is found for one connector is one that this connector has. -/
theorem checkConnectors_singleton {name : String} {connId : ℕ} {mode : ModeInfo}
    {conns conns' : List DrmConnector}
    (hc : checkConnectors name [connId] none conns k h = .ok ((some (some mode), conns'), h')) :
    Offered k conns h h' connId mode ∧ mode.name = name := by
  simp only [checkConnectors, Prog.bind_eq_ok, Prod.exists] at hc
  obtain ⟨found, conns₁, h₁, hv, hc⟩ := hc
  rcases found with _ | ⟨_ | _, conn⟩
  · simp at hc
  · simp at hc
  -- the connector was found and is plugged
  simp only [Option.isNone_none, if_true] at hc
  split at hc
  · simp only [Prog.pure_eq_ok, Prod.mk.injEq, Option.some.injEq] at hc
    obtain ⟨⟨hmode, _⟩, rfl⟩ := hc
    rw [Prog.visitFirst_eq, Prog.bind_eq_ok] at hv
    obtain ⟨split, _, hlift, hv⟩ := hv
    obtain ⟨hs, rfl⟩ := Prog.lift_eq_ok.1 hlift
    rcases split with _ | ⟨pre, c, post⟩
    · simp at hv
    rw [Prog.bind_eq_ok] at hv
    obtain ⟨⟨r, c'⟩, h₂, hask, hv⟩ := hv
    rw [Prog.pure_eq_ok, Prod.mk.injEq, Prod.mk.injEq, Option.some.injEq] at hv
    obtain ⟨⟨rfl, _⟩, rfl⟩ := hv
    rw [Prog.bind_eq_ok] at hask
    obtain ⟨⟨plugged, c₁⟩, h₃, hp, hask⟩ := hask
    rw [Prog.pure_eq_ok] at hask
    cases hask
    obtain ⟨heq, htest, _⟩ := Prog.splitFirst_eq_some hs
    have hid : c.connectorId = connId := by simpa using htest
    have hmem : c ∈ conns := by
      rw [heq]
      simp
    obtain ⟨p, hconn, hplugged, rfl, rfl⟩ := DrmConnector.isPlugged_eq_ok.1 hp
    have hlisted := List.mem_of_find?_eq_some hmode.symm
    have hname := List.find?_some hmode.symm
    rw [DrmConnector.isMode, Bool.and_eq_true, beq_iff_eq] at hname
    rw [hid] at hconn
    exact ⟨⟨c, hmem, hid, _, p, hid ▸ List.suffix_rfl, List.suffix_rfl, hconn, hplugged.symm,
      hlisted⟩, hname.1.symm⟩
  · simp at hc

theorem findMode_of_single {c : DrmCrtc} (hc : c.connectors.length ≤ 1)
    {conns conns' : List DrmConnector} {width height : ℕ} {m : ℕ × ModeInfo}
    (hf : findMode conns c width height k h = .ok ((some m, conns'), h')) :
    c.connectors ≠ [] ∧ (∀ connId ∈ c.connectors, Offered k conns h h' connId m.2) ∧
      m.2.name = modeName width height := by
  rw [findMode, Prog.bind_eq_ok] at hf
  obtain ⟨crtcId, h₁, hlift, hf⟩ := hf
  obtain ⟨_, hh⟩ := Prog.lift_eq_ok.1 hlift
  obtain rfl : h₁ = h := hh
  split at hf
  · simp at hf
  next hne =>
    obtain ⟨connId, hconn⟩ := List.length_eq_one_iff.1 (by omega : c.connectors.length = 1)
    rw [hconn] at hf ⊢
    simp only [Prog.bind_eq_ok, Prog.pure_eq_ok, Prod.exists, Prod.mk.injEq] at hf
    obtain ⟨r, _, _, hcheck, ⟨hm, rfl⟩, rfl⟩ := hf
    obtain ⟨mode, hmode, rfl⟩ := Option.map_eq_some_iff.1 hm.symm
    obtain rfl : r = some (some mode) := Option.join_eq_some_iff.1 hmode
    obtain ⟨hoffered, hname⟩ := checkConnectors_singleton hcheck
    refine ⟨List.cons_ne_nil _ _, fun id hid => ?_, hname⟩
    obtain rfl := List.mem_singleton.1 hid
    exact hoffered

/-! ## The mode set of a call -/

/-- No mode is set by asking. -/
theorem not_setCrtc_of_isQuery {new before : History} (hnew : ∀ ev ∈ new, ev.isQuery)
    (hsince : h <:+ before) (req : SetCrtc) (done : Bool) :
    ¬ (.setCrtc req done :: before <:+ new ++ h) := by
  rintro ⟨pre, heq⟩
  obtain ⟨mid, rfl⟩ := hsince
  rw [← List.cons_append, ← List.append_assoc] at heq
  have hmem : .setCrtc req done ∈ new := by
    rw [← List.append_cancel_right heq]
    simp
  exact absurd (hnew _ hmem) Bool.false_ne_true

namespace DrmCrtc

variable {c : DrmCrtc} {fd : ℤ} {width height : ℕ} {req : SetCrtc} {done : Bool} {before : History}

/-- Nor by giving up a framebuffer, -/
theorem setCrtc_suffix_released (hs : .setCrtc req done :: before <:+ c.released fd h) :
    .setCrtc req done :: before <:+ h := by
  rw [released] at hs
  split at hs
  · simpa [List.suffix_cons_iff] using hs
  · exact hs

/-- by being refused one, -/
theorem setCrtc_suffix_refused
    (hs : .setCrtc req done :: before <:+ refused k h fd width height) :
    .setCrtc req done :: before <:+ h := by
  rw [refused] at hs
  split at hs
  · simpa [List.suffix_cons_iff] using hs
  · simpa [List.suffix_cons_iff] using hs

/-- or by making one. -/
theorem setCrtc_suffix_granted {arg : DumbBuffer} {fbId : ℕ}
    (hs : .setCrtc req done :: before <:+ granted h fd width height arg fbId) :
    .setCrtc req done :: before <:+ h := by
  simpa [granted, List.suffix_cons_iff] using hs

end DrmCrtc

/-- The arguments of a mode set agree with each other and with the connectors:
    `h` is what had happened when the mode was asked for, and `h'` when it is set. -/
structure SetCrtc.Consistent (req : SetCrtc) (k : Kernel) (conns : List DrmConnector)
    (width height : ℕ) (h h' : History) : Prop where
  connectors : req.connectors ≠ []
  offered : ∀ connId ∈ req.connectors, Offered k conns h h' connId req.mode
  name : req.mode.name = modeName width height
  framebuffer : ∃ fbReq earlier, .addFB2 fbReq (some req.fbId) :: earlier <:+ h' ∧ h <:+ earlier ∧
    fbReq.fd = req.fd ∧ fbReq.width = width ∧ fbReq.height = height

/-- In every state in which modes are set, the mode set of a CRTC is consistent. -/
theorem DRIElements.setActiveMode_consistent {defMode : Size} {e : DRIElements}
    (he : Sets k defMode e h) {c c' : DrmCrtc} (hc : c ∈ e.crtcs) {fd : ℤ}
    {conns conns' : List DrmConnector} {width height vRefresh : ℕ} {ret : ℤ} {h₀ h₁ : History}
    (hr : setActiveMode fd conns c width height vRefresh k h₀ = .ok (((ret, conns'), c'), h₁))
    {req : SetCrtc} {done : Bool} {before : History} (hset : .setCrtc req done :: before <:+ h₁)
    (hsince : h₀ <:+ before) : req.Consistent k conns width height h₀ before := by
  obtain ⟨found, h₂, hfind, hend⟩ := setActiveMode_cases hr
  obtain ⟨new, rfl, hnew⟩ := asks_findMode _ _ _ _ _ _ _ _ hfind
  have hquiet := not_setCrtc_of_isQuery hnew hsince req done
  rcases hend with ⟨_, _, _, rfl⟩ | ⟨m, rfl, hm⟩
  · exact absurd hset hquiet
  obtain ⟨hne, hoffered, hname⟩ := findMode_of_single (he.single c hc) hfind
  cases hm with
  | refused _ =>
    exact absurd (DrmCrtc.setCrtc_suffix_released (DrmCrtc.setCrtc_suffix_refused hset)) hquiet
  | @granted arg fbId _ hg =>
    rcases List.suffix_cons_iff.1 hset with heq | hset
    · cases heq
      have hsuf : new ++ h₀ <:+
          DrmCrtc.granted (c.released fd (new ++ h₀)) fd width height arg fbId :=
        (DrmCrtc.suffix_released c fd _).trans (DrmCrtc.suffix_granted _ _ _ _ _ _)
      refine ⟨hne, fun connId hconn => (hoffered connId hconn).mono hsuf, hname,
        DrmCrtc.fbRequest fd width height arg, _, List.suffix_rfl, ?_, rfl, rfl, rfl⟩
      exact ((List.suffix_append new h₀).trans (DrmCrtc.suffix_released c fd _)).trans
        (List.suffix_cons _ _)
    · exact absurd (DrmCrtc.setCrtc_suffix_released (DrmCrtc.setCrtc_suffix_granted hset)) hquiet

/-- A mode set on one display, after the constructor. -/
theorem DRIElements.setActiveMode_consistent_one_display : ∃ e h c r h₁ req before,
    new ⟨1920, 1080⟩ (.willing fun _ => .oneDisplay) [] = .ok (e, h) ∧ c ∈ e.crtcs ∧
      setActiveMode 3 e.primary.connectorList c 1280 720 0 (.willing fun _ => .oneDisplay) h =
        .ok (r, h₁) ∧
      h₁ = .setCrtc req true :: before ∧ req.connectors = [21] ∧
        req.Consistent (.willing fun _ => .oneDisplay) e.primary.connectorList 1280 720 h
          before := by
  let k : Kernel := .willing fun _ => .oneDisplay
  have hrun : (new ⟨1920, 1080⟩ k []).map (fun s => s.1.crtcs.head?.map fun c =>
      (setActiveMode 3 s.1.primary.connectorList c 1280 720 0 k s.2).map fun r =>
        (r.2.head?, decide (s.2 <:+ r.2.tail))) =
          .ok (some (.ok (some (.setCrtc ⟨3, 31, 2, 0, 0, [21], .progressive 1280 720⟩ true),
            true))) := by
    decide +kernel
  obtain ⟨⟨e, h⟩, hnew, hobs⟩ := Prog.exists_of_map_eq_ok hrun
  obtain ⟨c, hc, hobs⟩ := Option.map_eq_some_iff.1 hobs
  obtain ⟨⟨⟨⟨ret, conns⟩, c'⟩, h₁⟩, hset, hobs⟩ := Prog.exists_of_map_eq_ok hobs
  obtain ⟨hhead, hsince⟩ := Prod.mk.inj hobs
  obtain ⟨before, rfl⟩ := List.head?_eq_some_iff.1 hhead
  have hmem : c ∈ e.crtcs := List.mem_of_head? hc
  exact ⟨e, h, c, _, _, _, before, hnew, hmem, hset, rfl, rfl,
    setActiveMode_consistent (.run hnew .nil) hmem hset List.suffix_rfl (of_decide_eq_true hsince)⟩

end ValRpi
