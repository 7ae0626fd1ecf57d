import ValRpi.Effects

/-!
# Who owns a framebuffer

A CRTC owns the framebuffer it scans out and the buffer it was made from. As
long as the ledgers of the kernel (`Ledger.Proper`) hold for what the CRTCs own
(`Owns`), nothing is released twice and nothing owned is dead.

* Asking and setting up do not touch what is owned (`Owns.append`, `Owns.refit`).
* `Owns.committed`: a mode set keeps the ledgers, if the CRTC owns nothing or is
  granted a new framebuffer. Otherwise it keeps naming what it gave up, and gives
  it up once more the next time.
* `ownership_of_run`: so ownership holds along every run whose mode changes are
  of that kind.
-/

namespace ValRpi

variable {k : Kernel} {h h' h₁ : History}

/-! ## Ledgers -/

namespace DrmCrtc

/-- The framebuffer a CRTC owns. -/
def heldFb (c : DrmCrtc) : Option ℕ := c.owned.map fun _ => c.scanoutFbId

/-- The buffer a CRTC owns. -/
def heldBo (c : DrmCrtc) : Option ℕ := c.owned.map Bo.handle

/-- The framebuffer of a CRTC was made from its buffer. -/
def Made (h : History) (c : DrmCrtc) : Prop :=
  ∀ bo, c.boHandle = some bo → c.scanoutFbId ≠ 0 ∧
    ∃ req, .addFB2 req (some c.scanoutFbId) ∈ h ∧ req.handles.head? = some bo.handle

variable {c c' : DrmCrtc} {before after : List DrmCrtc} {fd : ℤ} {width height : ℕ}

theorem Made.mono (hc : c.Made h) (hsuf : h <:+ h') : c.Made h' := by
  intro bo hbo
  obtain ⟨hne, req, hmem, hreq⟩ := hc bo hbo
  exact ⟨hne, req, hsuf.subset hmem, hreq⟩

theorem Bare.owned {β : Type} {c : DrmCrtc β} (hc : c.Bare) : c.owned = none := by
  rw [DrmCrtc.owned, if_neg (not_not.2 hc.scanoutFbId)]

section Released

variable (fd)

/-- What a CRTC owns is released at a mode change. -/
theorem properFbs_released
    (hp : Ledger.Proper addsFb removesFb h (Ledger.heldBy heldFb (before ++ c :: after))) :
    Ledger.Proper addsFb removesFb (c.released fd h) (Ledger.heldBy heldFb (before ++ after)) := by
  rw [released]
  split
  next bo ho =>
    have hfb : c.heldFb = some c.scanoutFbId := by rw [heldFb, ho]; rfl
    rw [Ledger.heldBy_some hfb] at hp
    exact .idle (.release hp rfl rfl) ⟨rfl, rfl⟩
  next ho =>
    have hfb : c.heldFb = none := by rw [heldFb, ho]; rfl
    rwa [Ledger.heldBy_none hfb] at hp

theorem properBos_released
    (hp : Ledger.Proper createsBo destroysBo h (Ledger.heldBy heldBo (before ++ c :: after))) :
    Ledger.Proper createsBo destroysBo (c.released fd h)
      (Ledger.heldBy heldBo (before ++ after)) := by
  rw [released]
  split
  next bo ho =>
    have hbo : c.heldBo = some bo.handle := by rw [heldBo, ho]; rfl
    rw [Ledger.heldBy_some hbo] at hp
    exact .release (.idle hp ⟨rfl, rfl⟩) rfl rfl
  next ho =>
    have hbo : c.heldBo = none := by rw [heldBo, ho]; rfl
    rwa [Ledger.heldBy_none hbo] at hp

end Released

variable {held : Multiset ℕ}

/-- What the kernel grants is acquired. -/
theorem properFbs_granted {arg : DumbBuffer} {fbId : ℕ}
    (hp : Ledger.Proper addsFb removesFb h held) (hnew : fbId ∉ Ledger.acquired addsFb h) :
    Ledger.Proper addsFb removesFb (granted h fd width height arg fbId) (fbId ::ₘ held) :=
  .acquire (.idle hp ⟨rfl, rfl⟩) rfl rfl hnew

theorem properBos_granted {arg : DumbBuffer} {fbId : ℕ}
    (hp : Ledger.Proper createsBo destroysBo h held)
    (hnew : arg.handle ∉ Ledger.acquired createsBo h) :
    Ledger.Proper createsBo destroysBo (granted h fd width height arg fbId)
      (arg.handle ::ₘ held) :=
  .idle (.acquire hp rfl rfl hnew) ⟨rfl, rfl⟩

/-- A request that is refused acquires nothing in the end. -/
theorem properFbs_refused (hp : Ledger.Proper addsFb removesFb h held) :
    Ledger.Proper addsFb removesFb (refused k h fd width height) held := by
  rw [refused]
  split
  · exact .idle hp ⟨rfl, rfl⟩
  · exact .idle (.idle (.idle hp ⟨rfl, rfl⟩) ⟨rfl, rfl⟩) ⟨rfl, rfl⟩

theorem properBos_refused (hk : k.Fresh) (hp : Ledger.Proper createsBo destroysBo h held) :
    Ledger.Proper createsBo destroysBo (refused k h fd width height) held := by
  rw [refused]
  split
  · exact .idle hp ⟨rfl, rfl⟩
  next hbo =>
    exact .release (.idle (.acquire hp rfl rfl (hk.createDumb _ _ _ hbo)) ⟨rfl, rfl⟩) rfl rfl

/-- What a CRTC owns once it is granted both. -/
theorem owned_scanout (c : DrmCrtc) (fd : ℤ) (arg : DumbBuffer) {fbId : ℕ} (hne : fbId ≠ 0) :
    (c.scanout fd arg fbId).heldFb = some fbId ∧
      (c.scanout fd arg fbId).heldBo = some arg.handle := by
  have ho : (c.scanout fd arg fbId).owned = some ⟨fd, arg.size, arg.pitch, arg.handle⟩ := if_pos hne
  rw [heldFb, heldBo, ho]
  exact ⟨rfl, rfl⟩

end DrmCrtc

/-! ## The invariant -/

/-- The ledgers of the kernel hold for what the CRTCs own. -/
structure Owns (cs : List DrmCrtc) (h : History) : Prop where
  fbs : Ledger.Proper addsFb removesFb h (Ledger.heldBy DrmCrtc.heldFb cs)
  bos : Ledger.Proper createsBo destroysBo h (Ledger.heldBy DrmCrtc.heldBo cs)
  made : ∀ c ∈ cs, c.Made h

namespace Owns

variable {cs cs' before after : List DrmCrtc} {c c' : DrmCrtc} {fd : ℤ} {width height : ℕ}

/-- An event that neither makes nor releases anything. -/
theorem idle (ho : Owns cs h) {ev : Event} (hfb : Ledger.Idle addsFb removesFb ev)
    (hbo : Ledger.Idle createsBo destroysBo ev) : Owns cs (ev :: h) :=
  ⟨.idle ho.fbs hfb, .idle ho.bos hbo, fun c hc => (ho.made c hc).mono (List.suffix_cons _ _)⟩

/-- Asking does not change what is owned. -/
theorem append (ho : Owns cs h) {new : History} (hnew : ∀ e ∈ new, e.isQuery) :
    Owns cs (new ++ h) where
  fbs := ho.fbs.append_idle fun e he => Event.idle_fb (hnew e he)
  bos := ho.bos.append_idle fun e he => Event.idle_bo (hnew e he)
  made c hc := (ho.made c hc).mono (List.suffix_append _ _)

/-- Nothing is owned before a framebuffer was made. -/
theorem of_blank (hcs : ∀ c ∈ cs, c.Blank) (hh : ∀ e ∈ h, e.isQuery) : Owns cs h := by
  have hfb : Ledger.heldBy DrmCrtc.heldFb cs = 0 :=
    Ledger.heldBy_eq_zero fun c hc => by rw [DrmCrtc.heldFb, (hcs c hc).bare.owned]; rfl
  have hbo : Ledger.heldBy DrmCrtc.heldBo cs = 0 :=
    Ledger.heldBy_eq_zero fun c hc => by rw [DrmCrtc.heldBo, (hcs c hc).bare.owned]; rfl
  have hempty : Owns cs [] := by
    refine ⟨hfb ▸ .nil, hbo ▸ .nil, fun c hc bo h => ?_⟩
    rw [(hcs c hc).boHandle] at h
    cases h
  simpa using hempty.append hh

/-- Other connectors and sizes do not change what is owned. -/
theorem refit (ho : Owns cs h) (hr : List.Forall₂ DrmCrtc.Refit cs cs') : Owns cs' h where
  fbs := by
    have hheld : List.Forall₂ (fun c c' => DrmCrtc.heldFb c' = DrmCrtc.heldFb c) cs cs' :=
      hr.imp fun _ _ ⟨_, _, _, h⟩ => by rw [h]; rfl
    rw [Ledger.heldBy_congr hheld]
    exact ho.fbs
  bos := by
    have hheld : List.Forall₂ (fun c c' => DrmCrtc.heldBo c' = DrmCrtc.heldBo c) cs cs' :=
      hr.imp fun _ _ ⟨_, _, _, h⟩ => by rw [h]; rfl
    rw [Ledger.heldBy_congr hheld]
    exact ho.bos
  made c hc := by
    obtain ⟨c₀, hc₀, _, _, _, rfl⟩ := Prog.exists_rel_of_mem hr hc
    exact ho.made c₀ hc₀

theorem refit_one (ho : Owns (before ++ c :: after) h) (hr : c.Refit c') :
    Owns (before ++ c' :: after) h :=
  ho.refit (List.rel_append (refit_refl before) (.cons hr (refit_refl after)))

/-- A CRTC that owns nothing and is refused a framebuffer still owns nothing. -/
theorem refused (hk : k.Fresh) (ho : Owns (before ++ c :: after) h) (hnone : c.owned = none) :
    Owns (before ++ c :: after) (DrmCrtc.refused k (c.released fd h) fd width height) := by
  have hrel : c.released fd h = h := by rw [DrmCrtc.released, hnone]
  rw [hrel]
  exact ⟨DrmCrtc.properFbs_refused ho.fbs, DrmCrtc.properBos_refused hk ho.bos,
    fun c' hc' => (ho.made c' hc').mono (DrmCrtc.suffix_refused _ _ _ _ _)⟩

/-- A CRTC that is granted a new framebuffer owns that one. -/
theorem granted (hk : k.Fresh) (ho : Owns (before ++ c :: after) h) {arg : DumbBuffer} {fbId : ℕ}
    {req : SetCrtc} {done : Bool}
    (hg : DrmCrtc.grant k (c.released fd h) fd width height = some (arg, fbId)) :
    Owns (before ++ c.scanout fd arg fbId :: after)
      (.setCrtc req done :: DrmCrtc.granted (c.released fd h) fd width height arg fbId) := by
  obtain ⟨hbo, hfb, hne⟩ := DrmCrtc.fresh_of_grant hk hg
  obtain ⟨hfb', hbo'⟩ := DrmCrtc.owned_scanout c fd arg hne
  refine ⟨?_, ?_, fun c' hc' => ?_⟩
  · rw [Ledger.heldBy_some hfb']
    have hfbs := DrmCrtc.properFbs_released fd ho.fbs
    exact .idle (DrmCrtc.properFbs_granted hfbs hfb) ⟨rfl, rfl⟩
  · rw [Ledger.heldBy_some hbo']
    have hbos := DrmCrtc.properBos_released fd ho.bos
    exact .idle (DrmCrtc.properBos_granted hbos hbo) ⟨rfl, rfl⟩
  · -- what happened before is still known, and the new framebuffer is one of it
    have hsuf : h <:+ .setCrtc req done ::
        DrmCrtc.granted (c.released fd h) fd width height arg fbId :=
      ((DrmCrtc.suffix_released c fd h).trans (DrmCrtc.suffix_granted _ _ _ _ _ _)).trans
        (List.suffix_cons _ _)
    rcases List.mem_append.1 hc' with hc' | hc'
    · exact (ho.made c' (List.mem_append_left _ hc')).mono hsuf
    rcases List.mem_cons.1 hc' with rfl | hc'
    · rintro bo ⟨⟩
      exact ⟨hne, DrmCrtc.fbRequest fd width height arg,
        List.mem_cons_of_mem _ List.mem_cons_self, rfl⟩
    · exact (ho.made c' (List.mem_append_right _ (List.mem_cons_of_mem _ hc'))).mono hsuf

/-- A mode set keeps the ledgers, if the CRTC owns nothing or is granted a new
    framebuffer. -/
theorem committed (hk : k.Fresh) {m : ℕ × ModeInfo} {ret : ℤ}
    (hcond : c.owned = none ∨ (DrmCrtc.grant k (c.released fd h) fd width height).isSome)
    (hm : c.Committed k fd width height m h ret c' h') (ho : Owns (before ++ c :: after) h) :
    Owns (before ++ c' :: after) h' := by
  cases hm with
  | refused hg =>
    have hnone : c.owned = none := hcond.resolve_right (by simp [hg])
    exact ho.refused hk hnone
  | granted hg => exact ho.granted hk hg

/-- What a CRTC owns is alive, and its framebuffer was made from its buffer. -/
theorem alive (ho : Owns cs h) (hc : c ∈ cs) {bo : Bo} (hbo : c.boHandle = some bo) :
    bo.handle ∈ liveBos h ∧ c.scanoutFbId ∈ liveFbs h ∧
      ∃ req, .addFB2 req (some c.scanoutFbId) ∈ h ∧ req.handles.head? = some bo.handle := by
  obtain ⟨hne, hmade⟩ := ho.made c hc bo hbo
  have howned : c.owned = some bo := (if_pos hne).trans hbo
  refine ⟨ho.bos.mem_live.2 (Ledger.mem_heldBy hc ?_),
    ho.fbs.mem_live.2 (Ledger.mem_heldBy hc ?_), hmade⟩
  · rw [DrmCrtc.heldBo, howned]; rfl
  · rw [DrmCrtc.heldFb, howned]; rfl

end Owns

/-! ## Runs -/

namespace DRIElements

variable {e e' : DRIElements}

/-- The CRTC that the operation gives a new framebuffer, if any, owns none or is
    granted the new one. -/
def Grants (k : Kernel) (s : DRIElements × History) (l : Op × ℤ) : Prop :=
  match l.1 with
  | .changeMode width height displayPath _ => ∀ t conns h₁,
    s.1.primary.findTarget width height displayPath k s.2 = .ok ((some t, conns), h₁) →
      t.crtc.owned = none ∨ (DrmCrtc.grant k (t.crtc.released s.1.primary.drmModuleFd h₁)
        s.1.primary.drmModuleFd width height).isSome
  | _ => True

/-- What is owned is alive, and nothing is released twice. -/
structure SafelyOwned (e : DRIElements) (h : History) : Prop where
  destroyedOnce : (Ledger.released destroysBo h).Nodup
  removedOnce : (Ledger.released removesFb h).Nodup
  alive : ∀ c ∈ e.crtcs, ∀ bo, c.boHandle = some bo →
    bo.handle ∈ liveBos h ∧ c.scanoutFbId ∈ liveFbs h ∧
      ∃ req, .addFB2 req (some c.scanoutFbId) ∈ h ∧ req.handles.head? = some bo.handle

theorem safelyOwned_of_owns (ho : Owns e.crtcs h) : e.SafelyOwned h where
  destroyedOnce := ho.bos.nodup_released
  removedOnce := ho.fbs.nodup_released
  alive _ hc _ hbo := ho.alive hc hbo

/-- A mode change keeps the ledgers, if the CRTC owns nothing or is granted a
    new framebuffer. -/
theorem owns_changeMode (hk : k.Fresh) {width height vRefresh : ℕ} {displayPath : UInt8} {ret : ℤ}
    (ho : Owns e.crtcs h)
    (hcond : Grants k (e, h) (.changeMode width height displayPath vRefresh, ret))
    (hc : Changed e k h width height displayPath ret e' h') : Owns e'.crtcs h' := by
  obtain ⟨new, hnew, ⟨hsame, hh⟩ | ⟨t, conns, before, after, set, c', ht, hcrtcs, hm, hcrtcs'⟩⟩ :=
    crtcs_changed hc
  · obtain rfl : h' = new ++ h := hh
    rw [hsame]
    exact ho.append hnew
  · have ho₁ := ho.append hnew
    rw [hcrtcs] at ho₁
    rw [hcrtcs']
    exact (ho₁.committed hk (hcond t conns _ ht) hm).refit_one ⟨_, _, _, rfl⟩

theorem owns_new (hk : k.Fresh) {defMode : Size} (hr : new defMode k [] = .ok (e, h)) :
    Owns e.crtcs h :=
  crtcs_new Owns (fun _ _ => .of_blank) (fun _ _ _ hnew ho => ho.append hnew)
    (fun _ _ _ _ _ _ hc ho => ho.refit_one hc.refit)
    (fun _ _ _ _ _ _ _ _ _ hbare hm ho => ho.committed hk (.inl hbare.owned) hm) hr

theorem owns_of_run (hk : k.Fresh) {defMode : Size} {e₀ : DRIElements} {h₀ : History}
    (hnew : new defMode k [] = .ok (e₀, h₀)) {ls : List (Op × ℤ)}
    (hrun : Run (Run.when (Grants k) (Step k)) (e₀, h₀) ls (e, h)) : Owns e.crtcs h := by
  refine hrun.invariant (fun s => Owns s.1.crtcs s.2) (owns_new hk hnew) ?_
  rintro ⟨e, h⟩ ⟨op, ret⟩ ⟨e', h'⟩ ho ⟨hcond, hstep⟩
  rcases step_cases hstep with ⟨_, heq⟩ | ⟨name, called, _, hu⟩ |
    ⟨width, height, displayPath, vRefresh, hop, hc⟩
  · cases heq
    exact ho.idle ⟨rfl, rfl⟩ ⟨rfl, rfl⟩
  · obtain ⟨⟨new, hh, hnew⟩, hcrtcs⟩ := crtcs_updateDevice hu
    obtain rfl : h' = new ++ h := hh
    exact (ho.append hnew).refit (hcrtcs.imp fun _ _ => DrmCrtc.Assigned.refit)
  · obtain rfl : op = .changeMode width height displayPath vRefresh := hop
    exact owns_changeMode hk ho hcond hc

/-- What is owned is alive and nothing is released twice, along every run from
    the constructor whose mode changes give a new framebuffer only to a CRTC
    that owns none or is granted the new one. -/
theorem ownership_of_run (hk : k.Fresh) {defMode : Size} {e₀ : DRIElements} {h₀ : History}
    (hnew : new defMode k [] = .ok (e₀, h₀)) {ls : List (Op × ℤ)}
    (hrun : Run (Run.when (Grants k) (Step k)) (e₀, h₀) ls (e, h)) : e.SafelyOwned h :=
  safelyOwned_of_owns (owns_of_run hk hnew hrun)

/-- A kernel that grants everything grants every mode change. -/
theorem grants_willing (card : ℕ → Card) (s : DRIElements × History) (l : Op × ℤ) :
    Grants (.willing card) s l := by
  rw [Grants]
  split
  · exact fun t conns h₁ _ => .inr (by simp [DrmCrtc.grant, Kernel.scripted])
  · trivial

/-- On one display, the kernel granting everything, a mode change later. -/
theorem ownership_after_mode_change : ∃ e₀ h₀ e h,
    new ⟨1920, 1080⟩ (.willing fun _ => .oneDisplay) [] = .ok (e₀, h₀) ∧
      Run (Step (.willing fun _ => .oneDisplay)) (e₀, h₀) [(.changeMode 1280 720 0 0, 1)] (e, h) ∧
        e.SafelyOwned h := by
  have hrun : (new ⟨1920, 1080⟩ (.willing fun _ => .oneDisplay) []).map (fun s =>
      (s.1.changeMode 1280 720 0 0 (.willing fun _ => .oneDisplay) s.2).map fun r => r.1.1) =
        .ok (.ok 1) := by
    decide +kernel
  obtain ⟨⟨e₀, h₀⟩, hnew, hchange⟩ := Prog.exists_of_map_eq_ok hrun
  obtain ⟨⟨⟨ret, e⟩, h⟩, hchange, rfl⟩ := Prog.exists_of_map_eq_ok hchange
  have hstep : Step (.willing fun _ => .oneDisplay) (e₀, h₀) (.changeMode 1280 720 0 0, 1) (e, h) :=
    hchange
  exact ⟨e₀, h₀, e, h, hnew, .step .nil hstep, ownership_of_run (Kernel.scripted_fresh _ _ _ _)
    hnew (.step .nil ⟨grants_willing _ _ _, hstep⟩)⟩

/-- A kernel that has a buffer for one framebuffer only: after two more mode
    changes, the buffer was destroyed twice. -/
theorem ownership_lost_after_refusal : ∃ k : Kernel, k.Fresh ∧ ∃ e₀ h₀ e h,
    new ⟨1920, 1080⟩ k [] = .ok (e₀, h₀) ∧
      Run (Step k) (e₀, h₀) [(.changeMode 1280 720 0 0, 0), (.changeMode 1280 720 0 0, 0)] (e, h) ∧
        ¬ (Ledger.released destroysBo h).Nodup ∧ ¬ e.SafelyOwned h := by
  let k : Kernel := .scripted (fun _ => .oneDisplay)
    (fun h => (Ledger.acquired createsBo h).length = 0) (fun _ => true) fun _ => true
  have hrun : (new ⟨1920, 1080⟩ k []).map (fun s => (s.1.changeMode 1280 720 0 0 k s.2).map fun r =>
      (r.1.1, (r.1.2.changeMode 1280 720 0 0 k r.2).map fun r =>
        (r.1.1, decide (Ledger.released destroysBo r.2).Nodup))) =
          .ok (.ok (0, .ok (0, false))) := by
    decide +kernel
  obtain ⟨⟨e₀, h₀⟩, hnew, hfirst⟩ := Prog.exists_of_map_eq_ok hrun
  obtain ⟨⟨⟨ret₁, e₁⟩, h₁⟩, hfirst, hobs⟩ := Prog.exists_of_map_eq_ok hfirst
  obtain ⟨rfl, hsecond⟩ := Prod.mk.inj hobs
  obtain ⟨⟨⟨ret₂, e₂⟩, h₂⟩, hsecond, hobs⟩ := Prog.exists_of_map_eq_ok hsecond
  obtain ⟨rfl, hnodup⟩ := Prod.mk.inj hobs
  have hstep₁ : Step k (e₀, h₀) (.changeMode 1280 720 0 0, 0) (e₁, h₁) := hfirst
  have hstep₂ : Step k (e₁, h₁) (.changeMode 1280 720 0 0, 0) (e₂, h₂) := hsecond
  exact ⟨k, Kernel.scripted_fresh _ _ _ _, e₀, h₀, e₂, h₂, hnew, .step (.step .nil hstep₁) hstep₂,
    of_decide_eq_false hnodup, fun hsafe => of_decide_eq_false hnodup hsafe.destroyedOnce⟩

end DRIElements

end ValRpi
