import ValRpi.ModeChange

/-!
# Asking for a resolution

`setDisplayResolution` checks the size and the display path, and asks for the
mode change.

* What it reports: `changeMode` returns 1 on success, which
  `setDisplayResolution` takes for a failure, and the outcome of the mode set
  itself is not looked at. `setDisplayResolution_reports_iff` says when the
  result is right all the same.
* What it leaves behind: the old framebuffer goes before the new one is made,
  and a mode set that the kernel refuses counts as done.
  `setDisplayResolution_atomic_iff` says when a request that sets no mode
  leaves everything as it was.

In both, a CRTC must not name a buffer that is dead: its structure was freed, and
`bo_destroy` would read it and free it again (`DestroysLive`).
-/

namespace ValRpi

variable {k : Kernel} {h h' h₁ : History}

/-- A mode set for the size, that succeeded. -/
def Event.setsMode (win : Size) : Event → Bool
  | .setCrtc req done => done && req.mode.name == modeName win.w win.h
  | _ => false

/-- What happened since `h` ended with a mode set for the size, that succeeded. -/
def ModeSet (win : Size) (h h' : History) : Prop :=
  h'.head?.any (Event.setsMode win) = true ∧ h <:+ h'.tail
  deriving Decidable

/-- A buffer or framebuffer that is refused sets no mode. -/
theorem not_setsMode_refused {win : Size} (h : History) (fd : ℤ) (width height : ℕ) :
    ¬ (DrmCrtc.refused k h fd width height).head?.any (Event.setsMode win) = true := by
  rw [DrmCrtc.refused]
  split <;> simp [Event.setsMode]

/-! ## Destroying buffers -/

/-- Every buffer destroyed since `h` was alive. -/
def DestroysLive (h h' : History) : Prop := Ledger.ReleasesLive createsBo destroysBo h h'

theorem destroysLive_of_asked {new : History} (hnew : ∀ e ∈ new, e.isQuery) :
    DestroysLive h (new ++ h) :=
  .append_idle fun e he => Event.idle_bo (hnew e he)

namespace DrmCrtc

variable {c : DrmCrtc} {fd : ℤ} {width height : ℕ}

/-- What a CRTC owns is destroyed. -/
theorem destroysLive_released_iff (hsuf : h <:+ h₁) : DestroysLive h (c.released fd h₁) ↔
    (∀ bo ∈ c.owned, bo.handle ∈ liveBos h₁) ∧ DestroysLive h h₁ := by
  rw [released]
  cases c.owned with
  | none => simp
  | some bo =>
    have hsuf' : h <:+ .rmFB fd c.scanoutFbId :: h₁ := hsuf.trans (List.suffix_cons _ _)
    have hdestroys : destroysBo (.destroyDumb bo.fd bo.handle) = some bo.handle := rfl
    simp only [Option.mem_some_iff, forall_eq']
    rw [DestroysLive, Ledger.ReleasesLive.release_iff hsuf' hdestroys,
      Ledger.ReleasesLive.idle_iff hsuf rfl]
    rfl

/-- A buffer without a framebuffer is alive when it is destroyed. -/
theorem destroysLive_refused_iff (hsuf : h <:+ h₁) :
    DestroysLive h (refused k h₁ fd width height) ↔ DestroysLive h h₁ := by
  rw [refused]
  split
  · exact Ledger.ReleasesLive.idle_iff hsuf rfl
  next arg _ =>
    have hsuf₁ := hsuf.trans
      (List.suffix_cons (.createDumb (dumbRequest fd width height) (some arg.handle)) h₁)
    have hsuf₂ := hsuf₁.trans (List.suffix_cons (.addFB2 (fbRequest fd width height arg) none) _)
    have hdestroys : destroysBo (.destroyDumb fd arg.handle) = some arg.handle := rfl
    rw [DestroysLive, Ledger.ReleasesLive.release_iff hsuf₂ hdestroys,
      Ledger.ReleasesLive.idle_iff hsuf₁ rfl, Ledger.ReleasesLive.idle_iff hsuf rfl]
    exact and_iff_right (Finset.mem_insert_self _ _)

theorem destroysLive_granted_iff (hsuf : h <:+ h₁) {arg : DumbBuffer} {fbId : ℕ} {req : SetCrtc}
    {done : Bool} : DestroysLive h (.setCrtc req done :: granted h₁ fd width height arg fbId) ↔
      DestroysLive h h₁ := by
  have hsuf₁ := hsuf.trans
    (List.suffix_cons (.createDumb (dumbRequest fd width height) (some arg.handle)) h₁)
  rw [DestroysLive, Ledger.ReleasesLive.idle_iff (hsuf.trans (suffix_granted _ _ _ _ _ _)) rfl,
    granted, Ledger.ReleasesLive.idle_iff hsuf₁ rfl, Ledger.ReleasesLive.idle_iff hsuf rfl]
  rfl

end DrmCrtc

/-! ## Counting displays -/

namespace DRIElements

variable {e e' : DRIElements}

theorem asks_getSupportedNumConnector (e : DRIElements) : Asks e.getSupportedNumConnector :=
  .bind (.forEach (fun c _ => .bind (DrmConnector.asks_isPlugged c) fun _ => .pure _) _ _)
    fun _ => .pure _

theorem asked_of_getSupportedNumConnector {n : ℕ}
    (hn : e.getSupportedNumConnector k h = .ok ((n, e'), h')) : ∃ conns, e' = e.asked conns := by
  simp only [getSupportedNumConnector, Prog.bind_eq_ok, Prog.pure_eq_ok, Prod.exists,
    Prod.mk.injEq] at hn
  obtain ⟨conns, _, _, _, ⟨_, rfl⟩, _⟩ := hn
  exact ⟨conns, rfl⟩

end DRIElements

/-! ## What a request can do -/

namespace ValVideoImpl

variable {v v' : ValVideoImpl} {win : Size} {displayPath : UInt8}

/-- The request gets past its checks: the size is valid, the display path is
    below the number of plugged connectors, and there is a target. -/
def Reaches (v : ValVideoImpl) (k : Kernel) (h : History) (win : Size) (displayPath : UInt8)
    (e : DRIElements) (conns : List DrmConnector) (t : Target) (h₂ : History) : Prop :=
  v.isValidMode win = true ∧ ∃ n h₁, v.driElements.getSupportedNumConnector k h = .ok ((n, e), h₁) ∧
    displayPath.toNat < n % 2 ^ 16 ∧
    e.primary.findTarget win.w win.h displayPath k h₁ = .ok ((some t, conns), h₂)

/-- What happened once the target's old framebuffer is gone. -/
def cleared (e : DRIElements) (t : Target) (h : History) : History :=
  t.crtc.released e.primary.drmModuleFd h

/-- What the kernel grants of the request. -/
def granted (k : Kernel) (win : Size) (e : DRIElements) (t : Target) (h : History) :
    Option (DumbBuffer × ℕ) :=
  DrmCrtc.grant k (cleared e t h) e.primary.drmModuleFd win.w win.h

/-- What happened before the mode set. -/
def prepared (win : Size) (e : DRIElements) (t : Target) (h : History) (arg : DumbBuffer)
    (fbId : ℕ) : History :=
  DrmCrtc.granted (cleared e t h) e.primary.drmModuleFd win.w win.h arg fbId

/-- What the kernel says to the mode set: none if it succeeds. -/
def modeSetError (k : Kernel) (win : Size) (e : DRIElements) (t : Target) (h : History)
    (arg : DumbBuffer) (fbId : ℕ) : Option Errno :=
  k.setCrtc (prepared win e t h arg fbId) (t.request e.primary.drmModuleFd fbId)

/-- How a request ends: its result, the state and what happened. -/
inductive Outcome (v : ValVideoImpl) (k : Kernel) (h : History) (win : Size)
    (displayPath : UInt8) : Bool → DRIElements → History → Prop
  | invalid : v.isValidMode win = false → Outcome v k h win displayPath false v.driElements h
  | noDisplay {n : ℕ} {e : DRIElements} {h₁ : History} : v.isValidMode win = true →
      v.driElements.getSupportedNumConnector k h = .ok ((n, e), h₁) →
      n % 2 ^ 16 ≤ displayPath.toNat → Outcome v k h win displayPath false e h₁
  | noTarget {n : ℕ} {e : DRIElements} {conns : List DrmConnector} {h₁ h₂ : History} :
      v.isValidMode win = true →
      v.driElements.getSupportedNumConnector k h = .ok ((n, e), h₁) →
      displayPath.toNat < n % 2 ^ 16 →
      e.primary.findTarget win.w win.h displayPath k h₁ = .ok ((none, conns), h₂) →
      Outcome v k h win displayPath true (e.asked conns) h₂
  | refused {e : DRIElements} {conns : List DrmConnector} {t : Target} {h₂ : History} :
      Reaches v k h win displayPath e conns t h₂ → granted k win e t h₂ = none →
      Outcome v k h win displayPath true (e.asked conns)
        (DrmCrtc.refused k (cleared e t h₂) e.primary.drmModuleFd win.w win.h)
  | granted {e : DRIElements} {conns : List DrmConnector} {t : Target} {h₂ : History}
      {arg : DumbBuffer} {fbId : ℕ} :
      Reaches v k h win displayPath e conns t h₂ → granted k win e t h₂ = some (arg, fbId) →
      Outcome v k h win displayPath false (e.switched conns t win.w win.h arg fbId)
        (.setCrtc (t.request e.primary.drmModuleFd fbId)
          (modeSetError k win e t h₂ arg fbId).isNone :: prepared win e t h₂ arg fbId)

/-- A request whose checks so far passed is a mode change. -/
theorem setDisplayResolution_of_count {n : ℕ} {e : DRIElements} (hv : v.isValidMode win = true)
    (hn : v.driElements.getSupportedNumConnector k h = .ok ((n, e), h₁))
    (hlt : displayPath.toNat < n % 2 ^ 16) :
    v.setDisplayResolution win displayPath k h =
      (e.changeMode win.w win.h displayPath >>= fun r =>
        pure (if r.1 ≠ 0 then false else true, { v with driElements := r.2 })) k h₁ := by
  rw [setDisplayResolution, hv, Bool.not_true, if_neg Bool.false_ne_true, Prog.bind_of_ok hn]
  dsimp only
  rw [if_neg (Nat.not_le.2 hlt)]

/-- A request ends in one of these ways. -/
theorem outcome_of_setDisplayResolution {r : Bool}
    (hr : v.setDisplayResolution win displayPath k h = .ok ((r, v'), h')) :
    ∃ e', Outcome v k h win displayPath r e' h' ∧ v' = { v with driElements := e' } := by
  by_cases hv : v.isValidMode win = true
  · have hcount := hr
    rw [setDisplayResolution, hv, Bool.not_true, if_neg Bool.false_ne_true,
      Prog.bind_eq_ok] at hcount
    obtain ⟨⟨n, e⟩, h₁, hn, hcount⟩ := hcount
    by_cases hle : n % 2 ^ 16 ≤ displayPath.toNat
    · dsimp only at hcount
      rw [if_pos hle, Prog.pure_eq_ok] at hcount
      cases hcount
      exact ⟨e, .noDisplay hv hn hle, rfl⟩
    · -- the checks passed, and so it ends as the mode change does
      have hlt := Nat.not_le.1 hle
      rw [setDisplayResolution_of_count hv hn hlt, Prog.bind_eq_ok] at hr
      obtain ⟨r', h'', hc, hr⟩ := hr
      obtain ⟨target, conns, h₂, ht⟩ := DRIElements.exists_findTarget hc
      rw [Prog.pure_eq_ok] at hr
      cases hr
      rcases target with _ | t
      · rw [DRIElements.changeMode_of_none ht] at hc
        cases hc
        exact ⟨_, .noTarget hv hn hlt ht, rfl⟩
      rcases hg : granted k win e t h₂ with _ | ⟨arg, fbId⟩
      · rw [DRIElements.changeMode_of_refused ht hg] at hc
        cases hc
        exact ⟨_, .refused ⟨hv, n, h₁, hn, hlt, ht⟩ hg, rfl⟩
      · rw [DRIElements.changeMode_of_grant ht hg] at hc
        cases hc
        exact ⟨_, .granted ⟨hv, n, h₁, hn, hlt, ht⟩ hg, rfl⟩
  · rw [setDisplayResolution, Bool.eq_false_iff.2 hv, Bool.not_false, if_pos rfl,
      Prog.pure_eq_ok] at hr
    cases hr
    exact ⟨_, .invalid (Bool.eq_false_iff.2 hv), rfl⟩

/-- Each of these ways is the end of a request. -/
theorem Outcome.setDisplayResolution_eq {r : Bool} {e' : DRIElements}
    (ho : Outcome v k h win displayPath r e' h') :
    v.setDisplayResolution win displayPath k h = .ok ((r, { v with driElements := e' }), h') := by
  cases ho with
  | invalid hv => rw [setDisplayResolution, hv]; rfl
  | noDisplay hv hn hle =>
    rw [setDisplayResolution, hv, Bool.not_true, if_neg Bool.false_ne_true, Prog.bind_of_ok hn]
    dsimp only
    rw [if_pos hle]
    rfl
  | noTarget hv hn hlt ht =>
    rw [setDisplayResolution_of_count hv hn hlt,
      Prog.bind_of_ok (DRIElements.changeMode_of_none ht)]
    rfl
  | refused hreach hg =>
    obtain ⟨hv, n, h₁, hn, hlt, ht⟩ := hreach
    rw [setDisplayResolution_of_count hv hn hlt,
      Prog.bind_of_ok (DRIElements.changeMode_of_refused ht hg)]
    rfl
  | granted hreach hg =>
    obtain ⟨hv, n, h₁, hn, hlt, ht⟩ := hreach
    rw [setDisplayResolution_of_count hv hn hlt,
      Prog.bind_of_ok (DRIElements.changeMode_of_grant ht hg)]
    rfl

/-- Until there is a target or not, the request only asks. -/
theorem asked_of_findTarget {n : ℕ} {e : DRIElements} {target : Option Target}
    {conns : List DrmConnector} {h₂ : History}
    (hn : v.driElements.getSupportedNumConnector k h = .ok ((n, e), h₁))
    (ht : e.primary.findTarget win.w win.h displayPath k h₁ = .ok ((target, conns), h₂)) :
    ∃ new, h₂ = new ++ h ∧ ∀ e ∈ new, e.isQuery := by
  obtain ⟨new₁, rfl, hnew₁⟩ := DRIElements.asks_getSupportedNumConnector _ _ _ _ _ hn
  obtain ⟨new₂, rfl, hnew₂⟩ := DriDevice.asks_findTarget _ _ _ _ _ _ _ _ ht
  refine ⟨new₂ ++ new₁, (List.append_assoc _ _ _).symm, fun e he => ?_⟩
  rcases List.mem_append.1 he with he | he
  exacts [hnew₂ e he, hnew₁ e he]

section Reaches

variable {e : DRIElements} {conns : List DrmConnector} {t : Target} {h₂ : History}
  (hreach : Reaches v k h win displayPath e conns t h₂)

include hreach

theorem Reaches.history : ∃ new, h₂ = new ++ h ∧ ∀ e ∈ new, e.isQuery := by
  obtain ⟨_, n, h₁, hn, _, ht⟩ := hreach
  exact asked_of_findTarget hn ht

/-- The CRTCs and the configured mode of the state that the request reaches. -/
theorem Reaches.asked : e.crtcs = v.driElements.crtcs ∧
    e.mConfiguredMode = v.driElements.mConfiguredMode := by
  obtain ⟨_, n, h₁, hn, _, _⟩ := hreach
  obtain ⟨conns₀, rfl⟩ := DRIElements.asked_of_getSupportedNumConnector hn
  exact ⟨DRIElements.crtcs_asked _ _, rfl⟩

theorem Reaches.name : t.mode.name = modeName win.w win.h := by
  obtain ⟨_, n, h₁, _, _, ht⟩ := hreach
  exact ((DriDevice.findTarget_spec ht).2 t rfl).name

/-- What happened before the mode set includes what happened before the request. -/
theorem Reaches.suffix (arg : DumbBuffer) (fbId : ℕ) : h <:+ prepared win e t h₂ arg fbId := by
  obtain ⟨new, rfl, _⟩ := hreach.history
  exact ((List.suffix_append new h).trans (DrmCrtc.suffix_released _ _ _)).trans
    (DrmCrtc.suffix_granted _ _ _ _ _ _)

end Reaches

/-- What the target owns is alive. -/
def OwnsLive (t : Target) (h : History) : Prop := ∀ bo ∈ t.crtc.owned, bo.handle ∈ liveBos h

theorem Reaches.destroysLive_cleared_iff {e : DRIElements} {conns : List DrmConnector}
    {t : Target} {h₂ : History} (hreach : Reaches v k h win displayPath e conns t h₂) :
    DestroysLive h (cleared e t h₂) ↔ OwnsLive t h := by
  obtain ⟨new, rfl, hnew⟩ := hreach.history
  rw [cleared, DrmCrtc.destroysLive_released_iff (List.suffix_append _ _), liveBos_append hnew,
    OwnsLive]
  exact and_iff_left (destroysLive_of_asked hnew)

theorem Reaches.suffix_cleared {e : DRIElements} {conns : List DrmConnector} {t : Target}
    {h₂ : History} (hreach : Reaches v k h win displayPath e conns t h₂) :
    h <:+ cleared e t h₂ := by
  obtain ⟨new, rfl, _⟩ := hreach.history
  exact (List.suffix_append new h).trans (DrmCrtc.suffix_released _ _ _)

/-! ## What is reported -/

/-- What a mode change may change of a CRTC. -/
def DrmCrtc.modeState (c : DrmCrtc) : ℕ × Option Bo × Size × Size :=
  (c.scanoutFbId, c.boHandle, c.max, c.min)

/-- The CRTCs, the configured mode, and what is alive in the kernel are the same. -/
structure Unchanged (e e' : DRIElements) (h h' : History) : Prop where
  crtcs : e'.crtcs.map DrmCrtc.modeState = e.crtcs.map DrmCrtc.modeState
  mConfiguredMode : e'.mConfiguredMode = e.mConfiguredMode
  liveFbs : liveFbs h' = liveFbs h
  liveBos : liveBos h' = liveBos h

/-- A request destroys no dead buffer, and leaves everything as it was if it does
    not end with a mode set. -/
def Atomic (v : ValVideoImpl) (k : Kernel) (h : History) (win : Size) (displayPath : UInt8) :
    Prop :=
  ∀ r v' h', v.setDisplayResolution win displayPath k h = .ok ((r, v'), h') →
    DestroysLive h h' ∧ (¬ ModeSet win h h' → Unchanged v.driElements v'.driElements h h')

/-- Asking leaves everything as it was. -/
theorem unchanged_of_asked {e e' : DRIElements} {new : History} (hcrtcs : e'.crtcs = e.crtcs)
    (hconf : e'.mConfiguredMode = e.mConfiguredMode) (hnew : ∀ e ∈ new, e.isQuery) :
    Unchanged e e' h (new ++ h) :=
  ⟨by rw [hcrtcs], hconf, liveFbs_append hnew, liveBos_append hnew⟩

theorem Reaches.liveBos {e : DRIElements} {conns : List DrmConnector} {t : Target} {h₂ : History}
    (hreach : Reaches v k h win displayPath e conns t h₂) : liveBos (cleared e t h₂) =
      (t.crtc.owned.map fun bo => (liveBos h).erase bo.handle).getD (liveBos h) := by
  obtain ⟨new, rfl, hnew⟩ := hreach.history
  rw [cleared, DrmCrtc.liveBos_released, liveBos_append hnew]

/-- What is alive is lost if the target owns some of it. -/
theorem Reaches.owned_eq_none {e : DRIElements} {conns : List DrmConnector} {t : Target}
    {h₂ : History} (hreach : Reaches v k h win displayPath e conns t h₂) (hlive : OwnsLive t h)
    (hsame : ValRpi.liveBos (cleared e t h₂) = ValRpi.liveBos h) : t.crtc.owned = none := by
  cases ho : t.crtc.owned with
  | none => rfl
  | some bo =>
    rw [hreach.liveBos, ho, Option.map_some, Option.getD_some, Finset.erase_eq_self] at hsame
    exact absurd (hlive bo ho) hsame

/-- The request leaves everything as it was, unless it reaches a target whose buffer
    is dead already, or one that owns a framebuffer and the kernel refuses the new
    one, or the kernel grants it and refuses the mode set. -/
theorem setDisplayResolution_atomic_iff (hk : k.Fresh) : v.Atomic k h win displayPath ↔
    ∀ e conns t h₂, Reaches v k h win displayPath e conns t h₂ → OwnsLive t h ∧
      (granted k win e t h₂ = none → t.crtc.owned = none) ∧
      ∀ arg fbId, granted k win e t h₂ = some (arg, fbId) →
        modeSetError k win e t h₂ arg fbId = none := by
  constructor
  · intro hatomic e conns t h₂ hreach
    cases hg : granted k win e t h₂ with
    | none =>
      obtain ⟨hdestroys, hunch⟩ :=
        hatomic _ _ _ (Outcome.refused hreach hg).setDisplayResolution_eq
      rw [DrmCrtc.destroysLive_refused_iff hreach.suffix_cleared,
        hreach.destroysLive_cleared_iff] at hdestroys
      have hbos := (hunch fun hset => not_setsMode_refused _ _ _ _ hset.1).liveBos
      rw [DrmCrtc.liveBos_refused hk] at hbos
      exact ⟨hdestroys, fun _ => hreach.owned_eq_none hdestroys hbos, by simp⟩
    | some both =>
      obtain ⟨arg, fbId⟩ := both
      obtain ⟨hdestroys, hunch⟩ :=
        hatomic _ _ _ (Outcome.granted hreach hg).setDisplayResolution_eq
      rw [prepared, DrmCrtc.destroysLive_granted_iff hreach.suffix_cleared,
        hreach.destroysLive_cleared_iff] at hdestroys
      refine ⟨hdestroys, by simp, fun arg' fbId' hsome => ?_⟩
      cases hsome
      by_contra herr
      have hfbs := (hunch fun hset => by simpa [Event.setsMode, herr] using hset.1).liveFbs
      -- the new framebuffer is alive, and was not before
      have hmem : fbId ∈ ValRpi.liveFbs (prepared win e t h₂ arg fbId) :=
        Finset.mem_insert_self _ _
      have hnew : fbId ∉ Ledger.acquired addsFb h₂ := by
        have := (DrmCrtc.fresh_of_grant hk hg).2.1
        rwa [cleared, DrmCrtc.acquiredFbs_released] at this
      obtain ⟨new, rfl, hq⟩ := hreach.history
      rw [Ledger.acquired_append_idle fun e he => Event.idle_fb (hq e he)] at hnew
      exact hnew (Ledger.mem_acquired_of_mem_live (hfbs ▸ hmem))
  · intro hcond r v' h' hr
    obtain ⟨e', ho, rfl⟩ := outcome_of_setDisplayResolution hr
    cases ho with
    | invalid hv => exact ⟨.refl, fun _ => ⟨rfl, rfl, rfl, rfl⟩⟩
    | noDisplay hv hn hle =>
      obtain ⟨conns, rfl⟩ := DRIElements.asked_of_getSupportedNumConnector hn
      obtain ⟨new, rfl, hnew⟩ := DRIElements.asks_getSupportedNumConnector _ _ _ _ _ hn
      exact ⟨destroysLive_of_asked hnew,
        fun _ => unchanged_of_asked (DRIElements.crtcs_asked _ _) rfl hnew⟩
    | noTarget hv hn hlt ht =>
      obtain ⟨conns, rfl⟩ := DRIElements.asked_of_getSupportedNumConnector hn
      obtain ⟨new, rfl, hnew⟩ := asked_of_findTarget hn ht
      refine ⟨destroysLive_of_asked hnew, fun _ => unchanged_of_asked ?_ rfl hnew⟩
      rw [DRIElements.crtcs_asked, DRIElements.crtcs_asked]
    | @refused e conns t h₂ hreach hg =>
      obtain ⟨hlive, howned, _⟩ := hcond _ _ _ _ hreach
      -- the target owns nothing, so nothing goes
      have hcleared : cleared e t h₂ = h₂ := by rw [cleared, DrmCrtc.released, howned hg]
      have hdestroys := hreach.destroysLive_cleared_iff.2 hlive
      refine ⟨(DrmCrtc.destroysLive_refused_iff hreach.suffix_cleared).2 hdestroys,
        fun _ => ⟨?_, hreach.asked.2, ?_, ?_⟩⟩
      · rw [DRIElements.crtcs_asked, hreach.asked.1]
      · obtain ⟨new, rfl, hnew⟩ := hreach.history
        rw [DrmCrtc.liveFbs_refused, hcleared, liveFbs_append hnew]
      · obtain ⟨new, rfl, hnew⟩ := hreach.history
        rw [DrmCrtc.liveBos_refused hk, hcleared, liveBos_append hnew]
    | granted hreach hg =>
      obtain ⟨hlive, _, hset⟩ := hcond _ _ _ _ hreach
      refine ⟨?_, fun hnot => ?_⟩
      · rw [prepared, DrmCrtc.destroysLive_granted_iff hreach.suffix_cleared,
          hreach.destroysLive_cleared_iff]
        exact hlive
      · refine absurd ⟨?_, hreach.suffix _ _⟩ hnot
        simp [Event.setsMode, hset _ _ hg, Target.request, hreach.name]

/-- A size out of range leaves everything as it was. -/
theorem setDisplayResolution_atomic_out_of_range : ∃ v h,
    new .fullHd (.willing fun _ => .oneDisplay) [] = .ok (v, h) ∧
      v.Atomic (.willing fun _ => .oneDisplay) h ⟨4096, 2160⟩ 0 := by
  have hrun : (new .fullHd (.willing fun _ => .oneDisplay) []).map (fun s =>
      s.1.isValidMode ⟨4096, 2160⟩) = .ok false := by
    decide +kernel
  obtain ⟨⟨v, h⟩, hnew, hv⟩ := Prog.exists_of_map_eq_ok hrun
  refine ⟨v, h, hnew, (setDisplayResolution_atomic_iff (Kernel.scripted_fresh _ _ _ _)).2 ?_⟩
  intro e conns t h₂ hreach
  exact absurd (hreach.1.symm.trans hv) (by simp)

/-- A kernel that has buffers for one framebuffer only: the next mode change
    ends without one, and the old one is gone. -/
theorem setDisplayResolution_loses_framebuffer :
    ∃ k : Kernel, k.Fresh ∧ ∃ v h, Reachable k .fullHd (v, h) ∧ ¬ v.Atomic k h ⟨1280, 720⟩ 0 := by
  let k : Kernel := .scripted (fun _ => .oneDisplay)
    (fun h => (Ledger.acquired createsBo h).length = 0) (fun _ => true) fun _ => true
  have hrun : (new .fullHd k []).map (fun s =>
      (s.1.setDisplayResolution ⟨1280, 720⟩ 0 k s.2).map fun r =>
        (decide (ModeSet ⟨1280, 720⟩ s.2 r.2), decide (liveFbs r.2 = liveFbs s.2))) =
          .ok (.ok (false, false)) := by
    decide +kernel
  obtain ⟨⟨v, h⟩, hnew, hset⟩ := Prog.exists_of_map_eq_ok hrun
  obtain ⟨⟨⟨r, v'⟩, h'⟩, hset, hobs⟩ := Prog.exists_of_map_eq_ok hset
  obtain ⟨hmode, hfbs⟩ := Prod.mk.inj hobs
  refine ⟨k, Kernel.scripted_fresh _ _ _ _, v, h, ⟨_, [], hnew, .nil⟩, fun hatomic => ?_⟩
  exact of_decide_eq_false hfbs ((hatomic _ _ _ hset).2 (of_decide_eq_false hmode)).liveFbs

end ValVideoImpl

end ValRpi
