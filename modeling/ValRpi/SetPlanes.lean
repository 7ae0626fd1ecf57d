import ValRpi.Reach

/-!
# Showing a framebuffer on a plane

`setPlane` goes through the connectors, and makes its request for the CRTC of
the first one that has a CRTC of the card (`DriDevice.FirstOutput`), whatever
the mask of the plane says. Only the size of the source is converted to 16.16
fixed point, not its position.

* `DRIElements.setPlane_sound_iff` says when its result can be relied on.
-/

namespace ValRpi

variable {k : Kernel} {h h' : History}

/-- The CRTC of the first connector that has one of the card. -/
def DriDevice.FirstOutput (d : DriDevice) (crtc : DrmCrtc) : Prop :=
  ∃ before conn after, d.connectorList = before ++ conn :: after ∧
    (∀ c ∈ before, ∀ crtc' ∈ d.crtcList, crtc'.id ≠ c.crtcId) ∧
      crtc ∈ d.crtcList ∧ crtc.id = conn.crtcId

theorem DriDevice.FirstOutput.mem {d : DriDevice} {crtc : DrmCrtc} (ho : d.FirstOutput crtc) :
    crtc ∈ d.crtcList := by
  obtain ⟨_, _, _, _, _, hmem, _⟩ := ho
  exact hmem

namespace DRIElements

variable {crtcs : List DrmCrtc} {conns : List DrmConnector} {req : ℕ → SetPlane}

/-- The search for the CRTC of a connector. -/
theorem findOutput_eq (hread : ∀ c ∈ crtcs, c.mCrtc.isSome) (id : ℕ) (k : Kernel) (h : History) :
    ∃ crtcs', Prog.visitFirst (DrmCrtc.hasId id) (fun crtc => do pure (← .lift crtc.crtcId, crtc))
      crtcs k h = .ok (((crtcs.find? (·.id == id)).map DrmCrtc.id, crtcs'), h) := by
  obtain ⟨found, hfound, hfind⟩ :=
    Prog.splitFirst_of_ok fun c hc => DrmCrtc.hasId_eq (hread c hc) id
  rw [Prog.visitFirst_eq, ← hfind, Prog.bind_of_ok (Prog.lift_eq_ok.2 ⟨hfound, rfl⟩)]
  rcases found with _ | ⟨before, c, after⟩
  · exact ⟨_, rfl⟩
  · obtain ⟨rfl, _, _⟩ := Prog.splitFirst_eq_some hfound
    dsimp only
    rw [c.crtcId_eq (hread c (by simp))]
    exact ⟨_, rfl⟩

/-- A connector whose CRTC is not in the list is passed over. -/
theorem setPlaneOn_of_none (hread : ∀ c ∈ crtcs, c.mCrtc.isSome) {before : List DrmConnector}
    (hbefore : ∀ c ∈ before, ∀ crtc ∈ crtcs, crtc.id ≠ c.crtcId) :
    setPlaneOn crtcs req (before ++ conns) k h = setPlaneOn crtcs req conns k h := by
  induction before with
  | nil => rfl
  | cons conn before ih =>
    obtain ⟨hconn, hbefore⟩ := List.forall_mem_cons.1 hbefore
    obtain ⟨crtcs', hfind⟩ := findOutput_eq hread conn.crtcId k h
    have hnone : crtcs.find? (·.id == conn.crtcId) = none :=
      List.find?_eq_none.2 fun crtc hcrtc => by simpa using hconn crtc hcrtc
    rw [hnone] at hfind
    rw [List.cons_append, setPlaneOn, Prog.bind_of_ok hfind]
    exact ih hbefore

variable {e : DRIElements} {plane : Plane} {crtc : DrmCrtc}
  {planeId fbId crtcX crtcY crtcW crtcH srcX srcY srcW srcH : ℕ}

/-- The request that `setPlane` makes for a CRTC. -/
def planeRequest (e : DRIElements)
    (crtcId planeId fbId crtcX crtcY crtcW crtcH srcX srcY srcW srcH : ℕ) : SetPlane :=
  ⟨e.primary.drmModuleFd, planeId, crtcId, fbId, crtcX, crtcY, crtcW, crtcH, srcX, srcY,
    u32 (srcW * 2 ^ 16), u32 (srcH * 2 ^ 16)⟩

/-- One request is made for the CRTC of the first connector that has one. -/
theorem setPlane_of_output (hd : e.primary.Sane) (ho : e.primary.FirstOutput crtc)
    {req : SetPlane} (hreq : e.planeRequest crtc.id planeId fbId crtcX crtcY crtcW crtcH srcX srcY
      srcW srcH = req) (k : Kernel) (h : History) :
    e.setPlane planeId fbId crtcX crtcY crtcW crtcH srcX srcY srcW srcH k h =
      .ok (((k.setPlane h req).isNone, e.touch),
        [.setPlane req (k.setPlane h req).isNone] ++ h) := by
  subst hreq
  obtain ⟨before, conn, after, hconns, hbefore, hcrtc, hid⟩ := ho
  obtain ⟨crtcs', hfind⟩ := findOutput_eq hd.crtcs conn.crtcId k h
  rw [← hid, Lists.find?_key hd.crtcIds hcrtc, hid, Option.map_some] at hfind
  rw [setPlane, hconns, Prog.bind_eq_ok]
  refine ⟨_, _, ?_, rfl⟩
  rw [setPlaneOn_of_none hd.crtcs hbefore, setPlaneOn, Prog.bind_of_ok hfind]
  rfl

/-- No request is made where there is none, and the result is as if it was. -/
theorem setPlane_of_none (hd : e.primary.Sane) (ho : ∀ crtc, ¬ e.primary.FirstOutput crtc)
    (k : Kernel) (h : History) :
    e.setPlane planeId fbId crtcX crtcY crtcW crtcH srcX srcY srcW srcH k h =
      .ok ((true, e.touch), h) := by
  have hnone (conns after : List DrmConnector) (hconns : e.primary.connectorList = conns ++ after) :
      ∀ c ∈ conns, ∀ crtc ∈ e.primary.crtcList, crtc.id ≠ c.crtcId := by
    induction conns using List.reverseRecOn generalizing after with
    | nil => simp
    | append_singleton conns conn ih =>
      have hbefore := ih (conn :: after) (by rw [hconns]; simp)
      refine List.forall_mem_append.2 ⟨hbefore, List.forall_mem_singleton.2 ?_⟩
      intro crtc hcrtc hid
      exact ho crtc ⟨conns, conn, after, by rw [hconns]; simp, hbefore, hcrtc, hid⟩
  have hall := hnone e.primary.connectorList [] (by simp)
  have hloop (req : ℕ → SetPlane) :
      setPlaneOn e.primary.crtcList req e.primary.connectorList k h = .ok (true, h) := by
    rw [← List.append_nil e.primary.connectorList, setPlaneOn_of_none hd.crtcs hall]
    rfl
  rw [setPlane, Prog.bind_of_ok (hloop _)]
  rfl

/-- A request shows a plane on a CRTC that can scan it out and has a connector,
    with the source in 16.16 fixed point. -/
structure Shows (e : DRIElements) (plane : Plane) (srcX srcY srcW srcH : ℕ) (req : SetPlane) :
    Prop where
  planeId : req.planeId = plane.planeId
  crtc : ∃ crtc ∈ e.primary.crtcList, crtc.id = req.crtcId ∧ offers crtc plane = true
  srcX : req.srcX = srcX * 2 ^ 16
  srcY : req.srcY = srcY * 2 ^ 16
  srcW : req.srcW = srcW * 2 ^ 16
  srcH : req.srcH = srcH * 2 ^ 16

/-- `setPlane` returns true exactly if it made one request, which shows the plane
    and was accepted. -/
def SetsPlane (e : DRIElements) (k : Kernel) (h : History) (plane : Plane)
    (fbId crtcX crtcY crtcW crtcH srcX srcY srcW srcH : ℕ) : Prop :=
  ∃ r e' new, e.setPlane plane.planeId fbId crtcX crtcY crtcW crtcH srcX srcY srcW srcH k h =
    .ok ((r, e'), new ++ h) ∧
      (r = true ↔ ∃ req, new = [.setPlane req true] ∧ e.Shows plane srcX srcY srcW srcH req)

/-- The request that is made shows the plane if the CRTC can scan it out and has a
    connector, and the source starts at the origin. -/
theorem shows_iff (hd : e.primary.Sane) (hcrtc : crtc ∈ e.primary.crtcList)
    (hsrc : srcX < 65536 ∧ srcY < 65536 ∧ srcW < 65536 ∧ srcH < 65536) :
    e.Shows plane srcX srcY srcW srcH (e.planeRequest crtc.id plane.planeId fbId crtcX crtcY crtcW
      crtcH srcX srcY srcW srcH) ↔ offers crtc plane = true ∧ srcX = 0 ∧ srcY = 0 := by
  constructor
  · intro hs
    obtain ⟨crtc', hcrtc', hid, hoffers⟩ := hs.crtc
    obtain rfl := Lists.eq_of_key_eq hd.crtcIds hcrtc' hcrtc hid
    have hx : srcX = srcX * 2 ^ 16 := hs.srcX
    have hy : srcY = srcY * 2 ^ 16 := hs.srcY
    exact ⟨hoffers, by omega, by omega⟩
  · rintro ⟨hoffers, rfl, rfl⟩
    refine ⟨rfl, ⟨crtc, hcrtc, rfl, hoffers⟩, rfl, rfl, ?_, ?_⟩
    · exact Nat.mod_eq_of_lt (by omega)
    · exact Nat.mod_eq_of_lt (by omega)

/-- The result of `setPlane` is right if and only if there is a CRTC to go to, and
    the kernel refuses the request, or the CRTC can scan out the plane and has a
    connector, and the source starts at the origin. -/
theorem setPlane_sound_iff (hd : e.primary.Sane)
    (hsrc : srcX < 65536 ∧ srcY < 65536 ∧ srcW < 65536 ∧ srcH < 65536) :
    e.SetsPlane k h plane fbId crtcX crtcY crtcW crtcH srcX srcY srcW srcH ↔
      ∃ crtc, e.primary.FirstOutput crtc ∧
        (k.setPlane h (e.planeRequest crtc.id plane.planeId fbId crtcX crtcY crtcW crtcH srcX srcY
          srcW srcH) ≠ none ∨ offers crtc plane = true ∧ srcX = 0 ∧ srcY = 0) := by
  constructor
  · rintro ⟨r, e', new, hr, hresult⟩
    by_cases hex : ∃ crtc, e.primary.FirstOutput crtc
    · obtain ⟨crtc, ho⟩ := hex
      refine ⟨crtc, ho, ?_⟩
      rw [← shows_iff hd ho.mem hsrc]
      generalize hreq : e.planeRequest crtc.id plane.planeId fbId crtcX crtcY crtcW crtcH srcX srcY
        srcW srcH = req
      rw [setPlane_of_output hd ho hreq] at hr
      obtain ⟨hre, hnew⟩ := Prod.mk.inj (Except.ok.inj hr)
      obtain ⟨rfl, _⟩ := Prod.mk.inj hre
      obtain rfl := List.append_cancel_right hnew
      cases hk : k.setPlane h req with
      | some errno => exact .inl (Option.some_ne_none errno)
      | none =>
        rw [hk] at hresult
        obtain ⟨req', heq, hshows⟩ := hresult.1 rfl
        rw [List.singleton_inj, Event.setPlane.injEq] at heq
        exact .inr (heq.1 ▸ hshows)
    · rw [setPlane_of_none hd (not_exists.1 hex)] at hr
      obtain ⟨hre, hnew⟩ := Prod.mk.inj (Except.ok.inj hr)
      obtain ⟨rfl, _⟩ := Prod.mk.inj hre
      obtain ⟨req, rfl, _⟩ := hresult.1 rfl
      -- no request was logged
      exact absurd (congrArg List.length hnew) (by simp)
  · rintro ⟨crtc, ho, hor⟩
    rw [← shows_iff hd ho.mem hsrc] at hor
    generalize hreq : e.planeRequest crtc.id plane.planeId fbId crtcX crtcY crtcW crtcH srcX srcY
      srcW srcH = req at hor
    refine ⟨_, _, _, setPlane_of_output hd ho hreq k h, ?_⟩
    cases hk : k.setPlane h req with
    | some errno => simp
    | none =>
      refine iff_of_true rfl ⟨req, rfl, ?_⟩
      exact hor.resolve_left fun hne => hne hk

theorem firstOutput_one_display : ∃ e h crtc,
    new ⟨1920, 1080⟩ (.willing fun _ => .oneDisplay) [] = .ok (e, h) ∧ e.primary.Sane ∧
      e.primary.planeList = [⟨41, 1⟩] ∧ e.primary.FirstOutput crtc ∧
        offers crtc ⟨41, 1⟩ = true := by
  have hrun : (new ⟨1920, 1080⟩ (.willing fun _ => .oneDisplay) []).map (fun s =>
      (s.1.primary.planeList, s.1.primary.connectorList.map (·.crtcId),
        s.1.primary.crtcList.map fun c => (c.id, offers c ⟨41, 1⟩))) =
          .ok ([⟨41, 1⟩], [31], [(31, true)]) := by
    decide +kernel
  obtain ⟨⟨e, h⟩, hnew, hobs⟩ := Prog.exists_of_map_eq_ok hrun
  obtain ⟨hplanes, hobs⟩ := Prod.mk.inj hobs
  obtain ⟨hconns, hcrtcs⟩ := Prod.mk.inj hobs
  obtain ⟨conn, hconns, hconn⟩ := List.map_eq_singleton_iff.1 hconns
  obtain ⟨crtc, hcrtcs, hcrtc⟩ := List.map_eq_singleton_iff.1 hcrtcs
  obtain ⟨hid, hoffers⟩ := Prod.mk.inj hcrtc
  have hs := Kernel.scripted_sane (fun _ => .oneDisplay) (fun _ => true) (fun _ => true)
    (fun _ => true) fun _ => Card.oneDisplay_sane
  exact ⟨e, h, crtc, hnew, (kept_new hs hnew).sane, hplanes, ⟨[], conn, [], hconns, by simp,
    by simp [hcrtcs], hid.trans hconn.symm⟩, hoffers⟩

/-- The whole of a framebuffer. -/
theorem setPlane_sound_one_display : ∃ e h,
    new ⟨1920, 1080⟩ (.willing fun _ => .oneDisplay) [] = .ok (e, h) ∧
      e.SetsPlane (.willing fun _ => .oneDisplay) h ⟨41, 1⟩ 1 0 0 1920 1080 0 0 1280 720 := by
  obtain ⟨e, h, crtc, hnew, hd, _, ho, hoffers⟩ := firstOutput_one_display
  exact ⟨e, h, hnew, (setPlane_sound_iff hd (by decide)).2
    ⟨crtc, ho, .inr ⟨hoffers, rfl, rfl⟩⟩⟩

/-- A part of a framebuffer: its position is passed in pixels. -/
theorem setPlane_passes_pixels : ∃ e h req,
    new ⟨1920, 1080⟩ (.willing fun _ => .oneDisplay) [] = .ok (e, h) ∧
      ⟨41, 1⟩ ∈ e.primary.planeList ∧
        (e.setPlane 41 1 0 0 1920 1080 16 0 1280 720 (.willing fun _ => .oneDisplay) h =
          .ok ((true, e.touch), .setPlane req true :: h) ∧ req.srcX = 16) ∧ ¬ e.SetsPlane
            (.willing fun _ => .oneDisplay) h ⟨41, 1⟩ 1 0 0 1920 1080 16 0 1280 720 := by
  obtain ⟨e, h, crtc, hnew, hd, hplanes, ho, _⟩ := firstOutput_one_display
  refine ⟨e, h, e.planeRequest crtc.id 41 1 0 0 1920 1080 16 0 1280 720, hnew, by simp [hplanes],
    ⟨setPlane_of_output hd ho rfl _ h, rfl⟩, ?_⟩
  rintro ⟨r, e', new, hr', hresult⟩
  rw [setPlane_of_output hd ho rfl] at hr'
  obtain ⟨hre, hnew⟩ := Prod.mk.inj (Except.ok.inj hr')
  obtain ⟨rfl, _⟩ := Prod.mk.inj hre
  obtain rfl := List.append_cancel_right hnew
  obtain ⟨req, heq, hshows⟩ := hresult.1 rfl
  rw [List.singleton_inj, Event.setPlane.injEq] at heq
  obtain ⟨rfl, _⟩ := heq
  exact absurd hshows.srcX (by decide : ¬ 16 = 16 * 2 ^ 16)

end DRIElements

end ValRpi
