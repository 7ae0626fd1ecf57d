import ValRpi.Effects

/-!
# Leaks

A CRTC goes on naming the framebuffer and the buffer that it gave up when it is
refused new ones, and gives them up once more the next time. So what the CRTCs
name may be dead. But what is alive is always named, by one CRTC, as long as
what it names is a value (`ValRpi.PointerRuns` says when the pointer of the source
is no other):

* `Remembers` is the invariant. What the CRTCs name was made and has different
  ids, and all that is alive is among it (`Ledger.Covers`); and a CRTC names
  both a framebuffer and a buffer, or none of them.
* `namedOnce_of_run`: it holds in every state reached from the constructor,
  whatever the kernel refuses.
-/

namespace ValRpi

variable {k : Kernel} {h h' : History}

namespace DrmCrtc

/-- The framebuffer a CRTC names. -/
def namedFb (c : DrmCrtc) : Option ℕ := if c.scanoutFbId = 0 then none else some c.scanoutFbId

/-- The buffer a CRTC names. -/
def namedBo (c : DrmCrtc) : Option ℕ := c.boHandle.map Bo.handle

/-- A CRTC names both a framebuffer and a buffer, or none of them. -/
def Paired {β : Type} (c : DrmCrtc β) : Prop := c.scanoutFbId = 0 ↔ c.boHandle = none

theorem Paired.owned {β : Type} {c : DrmCrtc β} (hc : c.Paired) : c.owned = c.boHandle := by
  rw [DrmCrtc.owned]
  split
  · rfl
  next hzero => exact (hc.1 (not_not.1 hzero)).symm

theorem Paired.of_bare {β : Type} {c : DrmCrtc β} (hc : c.Bare) : c.Paired :=
  iff_of_true hc.scanoutFbId hc.boHandle

variable {c : DrmCrtc} {before after : List DrmCrtc} {fd : ℤ} {width height : ℕ}

variable (fd) in
/-- What a CRTC names is given up. -/
theorem coversBos_released (hc : c.Paired)
    (hcov : Ledger.Covers createsBo destroysBo h (Ledger.heldBy namedBo (before ++ c :: after))) :
    Ledger.Covers createsBo destroysBo (c.released fd h)
      (Ledger.heldBy namedBo (before ++ after)) := by
  rw [released, hc.owned]
  cases hbo : c.boHandle with
  | none =>
    have hnone : c.namedBo = none := by rw [namedBo, hbo]; rfl
    rwa [Ledger.heldBy_none hnone] at hcov
  | some bo =>
    have hsome : c.namedBo = some bo.handle := by rw [namedBo, hbo]; rfl
    rw [Ledger.heldBy_some hsome] at hcov
    exact (hcov.idle ⟨rfl, rfl⟩).release rfl rfl

variable (fd) in
theorem coversFbs_released (hc : c.Paired)
    (hcov : Ledger.Covers addsFb removesFb h (Ledger.heldBy namedFb (before ++ c :: after))) :
    Ledger.Covers addsFb removesFb (c.released fd h) (Ledger.heldBy namedFb (before ++ after)) := by
  rw [released, hc.owned]
  cases hbo : c.boHandle with
  | none =>
    have hnone : c.namedFb = none := if_pos (hc.2 hbo)
    rwa [Ledger.heldBy_none hnone] at hcov
  | some bo =>
    have hsome : c.namedFb = some c.scanoutFbId := if_neg fun hzero => by
      rw [hc.1 hzero] at hbo
      cases hbo
    rw [Ledger.heldBy_some hsome] at hcov
    exact (hcov.release rfl rfl).idle ⟨rfl, rfl⟩

variable {known : Multiset ℕ}

/-- A request that is refused leaves nothing alive behind. -/
theorem coversBos_refused (hk : k.Fresh) (hcov : Ledger.Covers createsBo destroysBo h known) :
    Ledger.Covers createsBo destroysBo (refused k h fd width height) known := by
  rw [refused]
  split
  · exact hcov.idle ⟨rfl, rfl⟩
  next hbo =>
    exact ((hcov.acquire rfl (hk.createDumb _ _ _ hbo)).idle ⟨rfl, rfl⟩).release rfl rfl

theorem coversFbs_refused (hcov : Ledger.Covers addsFb removesFb h known) :
    Ledger.Covers addsFb removesFb (refused k h fd width height) known := by
  rw [refused]
  split
  · exact hcov.idle ⟨rfl, rfl⟩
  · exact ((hcov.idle ⟨rfl, rfl⟩).idle ⟨rfl, rfl⟩).idle ⟨rfl, rfl⟩

end DrmCrtc

/-! ## The invariant -/

/-- What is alive is named by CRTCs. -/
structure Remembers (cs : List DrmCrtc) (h : History) : Prop where
  bos : Ledger.Covers createsBo destroysBo h (Ledger.heldBy DrmCrtc.namedBo cs)
  fbs : Ledger.Covers addsFb removesFb h (Ledger.heldBy DrmCrtc.namedFb cs)
  paired : ∀ c ∈ cs, c.Paired

namespace Remembers

variable {cs cs' before after : List DrmCrtc} {c c' : DrmCrtc} {fd : ℤ} {width height : ℕ}

theorem of_blank (hcs : ∀ c ∈ cs, c.Blank) (hh : ∀ ev ∈ h, ev.isQuery) : Remembers cs h := by
  have hbo : Ledger.heldBy DrmCrtc.namedBo cs = 0 :=
    Ledger.heldBy_eq_zero fun c hc => by rw [DrmCrtc.namedBo, (hcs c hc).boHandle]; rfl
  have hfb : Ledger.heldBy DrmCrtc.namedFb cs = 0 :=
    Ledger.heldBy_eq_zero fun c hc => if_pos (hcs c hc).scanoutFbId
  refine ⟨?_, ?_, fun c hc => .of_bare (hcs c hc).bare⟩
  · rw [hbo, ← List.append_nil h]
    exact Ledger.Covers.nil.append_idle fun ev hev => Event.idle_bo (hh ev hev)
  · rw [hfb, ← List.append_nil h]
    exact Ledger.Covers.nil.append_idle fun ev hev => Event.idle_fb (hh ev hev)

/-- Asking leaves alone what is alive. -/
theorem append (hr : Remembers cs h) {new : History} (hnew : ∀ ev ∈ new, ev.isQuery) :
    Remembers cs (new ++ h) :=
  ⟨hr.bos.append_idle fun ev hev => Event.idle_bo (hnew ev hev),
    hr.fbs.append_idle fun ev hev => Event.idle_fb (hnew ev hev), hr.paired⟩

/-- Other connectors and sizes do not change what the CRTCs name. -/
theorem refit (hr : Remembers cs h) (hcs : List.Forall₂ DrmCrtc.Refit cs cs') :
    Remembers cs' h := by
  have hbo : List.Forall₂ (fun c c' => DrmCrtc.namedBo c' = DrmCrtc.namedBo c) cs cs' :=
    hcs.imp fun _ _ ⟨_, _, _, he⟩ => by rw [he]; rfl
  have hfb : List.Forall₂ (fun c c' => DrmCrtc.namedFb c' = DrmCrtc.namedFb c) cs cs' :=
    hcs.imp fun _ _ ⟨_, _, _, he⟩ => by rw [he]; rfl
  refine ⟨?_, ?_, fun c hc => ?_⟩
  · rw [Ledger.heldBy_congr hbo]
    exact hr.bos
  · rw [Ledger.heldBy_congr hfb]
    exact hr.fbs
  · obtain ⟨c₀, hc₀, _, _, _, rfl⟩ := Prog.exists_rel_of_mem hcs hc
    exact hr.paired c₀ hc₀

theorem refit_one (hr : Remembers (before ++ c :: after) h) (hc : c.Refit c') :
    Remembers (before ++ c' :: after) h :=
  hr.refit (List.rel_append (refit_refl before) (.cons hc (refit_refl after)))

/-- A CRTC that is refused a new framebuffer names the dead one. -/
theorem refused (hk : k.Fresh) (hr : Remembers (before ++ c :: after) h) :
    Remembers (before ++ c :: after) (DrmCrtc.refused k (c.released fd h) fd width height) := by
  have hc : c.Paired := hr.paired c (by simp)
  have hsuf : h <:+ DrmCrtc.refused k (c.released fd h) fd width height :=
    (DrmCrtc.suffix_released c fd h).trans (DrmCrtc.suffix_refused _ _ _ _ _)
  refine ⟨hr.bos.restore ?_ hsuf, hr.fbs.restore ?_ hsuf, hr.paired⟩
  · exact DrmCrtc.coversBos_refused hk (DrmCrtc.coversBos_released fd hc hr.bos)
  · exact DrmCrtc.coversFbs_refused (DrmCrtc.coversFbs_released fd hc hr.fbs)

/-- A CRTC that is granted a new framebuffer names that one. -/
theorem granted (hk : k.Fresh) (hr : Remembers (before ++ c :: after) h) {arg : DumbBuffer}
    {fbId : ℕ} {req : SetCrtc} {done : Bool}
    (hg : DrmCrtc.grant k (c.released fd h) fd width height = some (arg, fbId)) :
    Remembers (before ++ c.scanout fd arg fbId :: after)
      (.setCrtc req done :: DrmCrtc.granted (c.released fd h) fd width height arg fbId) := by
  have hc : c.Paired := hr.paired c (by simp)
  obtain ⟨hbo, hfb, hne⟩ := DrmCrtc.fresh_of_grant hk hg
  have hnamedBo : (c.scanout fd arg fbId).namedBo = some arg.handle := rfl
  have hnamedFb : (c.scanout fd arg fbId).namedFb = some fbId := if_neg hne
  refine ⟨?_, ?_, fun c' hc' => ?_⟩
  · rw [Ledger.heldBy_some hnamedBo]
    have hgave := DrmCrtc.coversBos_released fd hc hr.bos
    exact ((hgave.acquire rfl hbo).idle ⟨rfl, rfl⟩).idle ⟨rfl, rfl⟩
  · rw [Ledger.heldBy_some hnamedFb]
    have hgave := DrmCrtc.coversFbs_released fd hc hr.fbs
    exact ((hgave.idle ⟨rfl, rfl⟩).acquire rfl hfb).idle ⟨rfl, rfl⟩
  · have hmem : c' = c.scanout fd arg fbId ∨ c' ∈ before ++ c :: after := by
      simp only [List.mem_append, List.mem_cons] at hc' ⊢
      tauto
    rcases hmem with rfl | hmem
    · exact iff_of_false hne (by simp [DrmCrtc.scanout])
    · exact hr.paired c' hmem

theorem committed (hk : k.Fresh) {m : ℕ × ModeInfo} {ret : ℤ}
    (hm : c.Committed k fd width height m h ret c' h') (hr : Remembers (before ++ c :: after) h) :
    Remembers (before ++ c' :: after) h' := by
  cases hm with
  | refused _ => exact hr.refused hk
  | granted hg => exact hr.granted hk hg

end Remembers

/-! ## Runs -/

namespace DRIElements

variable {e e' e₀ : DRIElements} {h₀ : History} {defMode : Size}

theorem remembers_changeMode (hk : k.Fresh) {width height : ℕ} {displayPath : UInt8} {ret : ℤ}
    (hc : Changed e k h width height displayPath ret e' h') (hr : Remembers e.crtcs h) :
    Remembers e'.crtcs h' := by
  obtain ⟨new, hnew, ⟨hsame, hh⟩ | ⟨t, conns, before, after, set, c', ht, hcrtcs, hm, hcrtcs'⟩⟩ :=
    crtcs_changed hc
  · obtain rfl : h' = new ++ h := hh
    rw [hsame]
    exact hr.append hnew
  · have hr₁ := hr.append hnew
    rw [hcrtcs] at hr₁
    rw [hcrtcs']
    exact (hr₁.committed hk hm).refit_one ⟨_, _, _, rfl⟩

theorem remembers_of_run (hk : k.Fresh) (hnew : new defMode k [] = .ok (e₀, h₀))
    {ls : List (Op × ℤ)} (hrun : Run (Step k) (e₀, h₀) ls (e, h)) : Remembers e.crtcs h := by
  refine hrun.invariant (fun s => Remembers s.1.crtcs s.2) ?_ ?_
  · refine crtcs_new Remembers (fun _ _ => .of_blank) (fun _ _ _ hnew hr => hr.append hnew)
      (fun _ _ _ _ _ _ hc hr => hr.refit_one hc.refit) ?_ hnew
    exact fun _ _ _ _ _ _ _ _ _ _ hm hr => hr.committed hk hm
  rintro ⟨e, h⟩ l ⟨e', h'⟩ hr hstep
  rcases step_cases hstep with ⟨_, heq⟩ | ⟨name, called, _, hu⟩ | ⟨_, _, _, _, _, hc⟩
  · cases heq
    exact ⟨hr.bos.idle ⟨rfl, rfl⟩, hr.fbs.idle ⟨rfl, rfl⟩, hr.paired⟩
  · obtain ⟨⟨new, hh, hnew⟩, hcrtcs⟩ := crtcs_updateDevice hu
    obtain rfl : h' = new ++ h := hh
    exact (hr.append hnew).refit (hcrtcs.imp fun _ _ => DrmCrtc.Assigned.refit)
  · exact remembers_changeMode hk hc hr

/-- Every live buffer object is the buffer of one CRTC, and every live
    framebuffer the one of one CRTC. -/
structure NamedOnce (e : DRIElements) (h : History) : Prop where
  bos : ∀ handle ∈ liveBos h,
    (e.crtcs.filter fun c => c.boHandle.map Bo.handle = some handle).length = 1
  fbs : ∀ fbId ∈ liveFbs h, (e.crtcs.filter fun c => c.scanoutFbId = fbId).length = 1

/-- Nothing leaks, in any run. -/
theorem namedOnce_of_run (hk : k.Fresh) (hnew : new defMode k [] = .ok (e₀, h₀))
    {ls : List (Op × ℤ)} (hrun : Run (Step k) (e₀, h₀) ls (e, h)) : e.NamedOnce h := by
  have hr := remembers_of_run hk hnew hrun
  refine ⟨fun handle hlive => ?_, fun fbId hlive => ?_⟩
  · rw [← hr.bos.count hlive, Ledger.count_heldBy]
    rfl
  · have hcount := hr.fbs.count hlive
    rw [Ledger.count_heldBy] at hcount
    rw [← hcount]
    -- a framebuffer that is alive has an id other than 0
    have hne : fbId ≠ 0 := by
      rintro rfl
      obtain ⟨c, _, hc⟩ := List.mem_filterMap.1 (hr.fbs.live 0 hlive)
      rw [DrmCrtc.namedFb] at hc
      split at hc
      · cases hc
      next hzero => exact hzero (Option.some.inj hc)
    refine congrArg List.length (List.filter_congr fun c _ => ?_)
    rw [decide_eq_decide, DrmCrtc.namedFb]
    split
    next hzero => simp [hzero, hne.symm]
    · rw [Option.some.injEq]

end DRIElements

end ValRpi
