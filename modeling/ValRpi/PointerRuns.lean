import ValRpi.Leaks
import ValRpi.Ownership
import ValRpi.Pointers

/-!
# Runs with pointers

What the program does with `boHandle` a pointer it also does with `boHandle` a value, as long
as no pointer dangles:

* `Holds` is the invariant. The CRTCs point to what is alive on the heap, and no two of them
  to the same: nothing is lost there, no pointer dangles and none is shared.
* `refines_createScanoutFb` compares the two as the buffers are made and freed. A CRTC that
  is refused a new framebuffer keeps a pointer to what was freed (`Created.refused`). This is
  harmless only if it owned nothing (`Granted`).
* `load_of_run`: so along every run whose mode changes are `Granted`, the program with
  pointers is the one with values, and uses nothing that is dead (`safe_of_run`).
* `leakFree_of_run`: along these runs nothing leaks. After a mode change that is refused the
  allocator may use the block again, and then two CRTCs have the same buffer
  (`leakFree_lost_after_refusal`).
-/

namespace ValRpi

variable {k : Kernel} {h h' : History} {al : Allocator Event} {m m' : Heap Bo}

namespace Ptr

open HeapProg

/-! ## Checking and acting -/

/-- What `setActiveMode` does once it has a mode. -/
def commitMode (al : Allocator Event) (fd : ℤ) (conns : List DrmConnector) (crtc : DrmCrtc ℕ)
    (width height : ℕ) :
    Option (ℕ × ModeInfo) → HeapAct ((ℤ × List DrmConnector) × DrmCrtc ℕ)
  | none => pure ((-1, conns), crtc)
  | some (crtcId, mode) => do
    let (ret, crtc) ← createScanoutFb al crtc fd width height
    if ret ≠ 0 then
      pure ((-1, conns), crtc)
    else
      let _ ← .lift (drmModeSetCrtc ⟨fd, crtcId, crtc.scanoutFbId, 0, 0, crtc.connectors, mode⟩)
      pure ((0, conns), crtc)

theorem setActiveMode_eq (fd : ℤ) (conns : List DrmConnector) (crtc : DrmCrtc ℕ)
    (width height vRefresh : ℕ) :
    setActiveMode al fd conns crtc width height vRefresh =
      lift (findMode conns crtc width height) >>= fun r =>
        commitMode al fd r.2 crtc width height r.1 := by
  rw [setActiveMode, findMode, lift_bind, bind_assoc]
  refine bind_congr fun crtcId => ?_
  by_cases hc : crtc.connectors.length = 0
  · rw [if_pos hc, if_pos hc]
    rfl
  · rw [if_neg hc, if_neg hc, lift_bind, bind_assoc]
    refine bind_congr fun r => ?_
    obtain ⟨mode, conns⟩ := r
    rw [lift_pure, pure_bind]
    dsimp only
    cases mode.join <;> rfl

/-- What `changeMode` does once it has a target. -/
def applyMode (al : Allocator Event) (e : DRIElements ℕ) (conns : List DrmConnector)
    (width height : ℕ) : Option (Target ℕ) → HeapAct (ℤ × DRIElements ℕ)
  | none => pure (0, e.setPrimary { e.primary with connectorList := conns })
  | some t => do
    let ((ret, conns), crtc) ←
      commitMode al e.primary.drmModuleFd conns t.crtc width height (some (t.crtcId, t.mode))
    if ret = 0 then
      pure (1, { e.setPrimary { e.primary with
        connectorList := conns
        crtcList := t.pre ++ { crtc with max := ⟨width, height⟩ } :: t.post } with
          mConfiguredMode := ⟨width, height⟩ })
    else
      pure (0, e.setPrimary { e.primary with
        connectorList := conns, crtcList := t.pre ++ crtc :: t.post })

theorem changeMode_eq (e : DRIElements ℕ) (width height : ℕ) (displayPath : UInt8)
    (vRefresh : ℕ) : changeMode al e width height displayPath vRefresh =
      lift (e.primary.findTarget width height displayPath) >>= fun r =>
        applyMode al e r.2 width height r.1 := by
  rw [changeMode, DriDevice.findTarget, lift_bind, bind_assoc]
  refine bind_congr fun r => ?_
  obtain ⟨found, conns⟩ := r
  simp only [visitFirst_eq, setActiveMode_eq, lift_bind, bind_assoc, pure_bind]
  cases hs : Prog.splitFirst (DrmCrtc.hasId ((found.map (·.crtcId)).getD 0)) e.primary.crtcList with
  | error _ => rfl
  | ok split =>
    rw [Prog.lift_ok, lift_pure, pure_bind, pure_bind]
    rcases split with _ | ⟨pre, crtc, post⟩
    · rfl
    simp only [lift_bind, bind_assoc, pure_bind, lift_pure]
    refine bind_congr fun r => ?_
    obtain ⟨mode, conns⟩ := r
    cases mode with
    | none =>
      -- the CRTC is put back where it was
      have hd : { e.primary with connectorList := conns, crtcList := pre ++ crtc :: post } =
          { e.primary with connectorList := conns } := by
        rw [← (Prog.splitFirst_eq_some hs).1]
      exact congrArg (fun d => (pure (0, e.setPrimary d) : HeapAct (ℤ × DRIElements ℕ))) hd
    | some mode =>
      refine bind_congr fun r => ?_
      obtain ⟨⟨ret, conns⟩, crtc⟩ := r
      by_cases hret : ret = 0
      · simp [hret]
      · simp [hret]

/-! ## Buffers -/

theorem refines_boDestroy {p : ℕ} {bo : Bo} (hp : m.lookup p = some bo) :
    Refines (boDestroy p) m (ValRpi.boDestroy bo) k h fun _ m' _ => m' = m.erase p := by
  refine .read_bind hp ?_
  rw [ValRpi.boDestroy, ← bind_pure (drmIoctlDestroyDumb bo.fd bo.handle)]
  refine .bind (.lift _) fun _ m' _ _ _ _ hm => ?_
  obtain ⟨_, rfl⟩ := hm
  exact refines_of_ok rfl (free_of_mem (Finmap.mem_of_lookup_eq_some hp)) rfl

/-- How `bo_create` ends, with pointers and with values: a buffer is put where there was
    none. -/
inductive Made {ε L : Type} (m : Heap Bo) :
    Except ε (ℕ × L) → Heap Bo → Except ε (Bo × L) → Prop
  | refused (errno : ε) : Made m (.error errno) m (.error errno)
  | made {p : ℕ} (bo : Bo) (layout : L) : p ∉ m →
      Made m (.ok (p, layout)) (m.insert p bo) (.ok (bo, layout))

theorem refines_boCreate (fd : ℤ) (format : Format) (width height : ℕ) :
    Refines (boCreate al fd format width height) m (ValRpi.boCreate fd format width height) k h
      (Made m) := by
  rw [boCreate, ValRpi.boCreate]
  cases format.bpp with
  | none => exact .pure (.refused 0)
  | some bpp =>
    dsimp only
    rw [boCreateDumb, ValRpi.boCreateDumb, bind_assoc, bind_assoc]
    refine .new_bind fun p hp => ?_
    rw [bind_assoc]
    refine .bind (.lift _) fun r m' r' _ _ _ hr => ?_
    obtain ⟨rfl, rfl⟩ := hr
    have hmem (a : Bo) : p ∈ m.insert p a := Finmap.mem_insert.2 (.inl rfl)
    cases r with
    | error errno =>
      dsimp only
      rw [bind_assoc]
      refine .free_bind (hmem _) ?_
      rw [erase_insert hp, pure_bind, pure_bind]
      exact .pure (.refused _)
    | ok arg =>
      dsimp only
      rw [bind_assoc]
      refine .write_bind (hmem _) ?_
      rw [Finmap.insert_insert, pure_bind, pure_bind]
      refine .read_bind (Finmap.lookup_insert m) ?_
      exact .pure (.made _ _ hp)

/-! ## Framebuffers -/

/-- The heap without the buffer a CRTC owns. -/
def freed (c : DrmCrtc ℕ) (m : Heap Bo) : Heap Bo :=
  match c.owned with
  | some p => m.erase p
  | none => m

/-- How `createScanoutFb` ends, with pointers and with values: it fails and leaves a pointer
    to what is freed, or the CRTC points to a new buffer. -/
inductive Created (c : DrmCrtc ℕ) (m : Heap Bo) : ℤ → DrmCrtc ℕ → Heap Bo → DrmCrtc → Prop
  | refused {ret : ℤ} : ret ≠ 0 → Created c m ret c (freed c m) (c.load m)
  | made {p : ℕ} (bo : Bo) (fbId : ℕ) : p ∉ freed c m →
      Created c m 0 { c with scanoutFbId := fbId, boHandle := some p } ((freed c m).insert p bo)
        { c.load m with scanoutFbId := fbId, boHandle := some bo }

section Create

variable {c : DrmCrtc ℕ} {fd : ℤ} {width height : ℕ}

/-- What a CRTC points to is alive. -/
def Alive (c : DrmCrtc ℕ) (m : Heap Bo) : Prop := ∀ p ∈ c.boHandle, p ∈ m

theorem refines_releaseScanoutFb (hc : Alive c m) :
    Refines (releaseScanoutFb c fd) m ((c.load m).releaseScanoutFb fd) k h
      fun _ m' _ => m' = freed c m := by
  rw [releaseScanoutFb, DrmCrtc.releaseScanoutFb, DrmCrtc.owned_mapBo, freed]
  cases ho : c.owned with
  | none => exact .pure rfl
  | some p =>
    have hbo : c.boHandle = some p := by
      rw [DrmCrtc.owned] at ho
      split at ho
      · exact ho
      · cases ho
    obtain ⟨bo, hp⟩ := Finmap.mem_iff.1 (hc p hbo)
    rw [Option.bind_some, hp]
    refine .bind (.lift _) fun _ m' _ _ _ _ hm => ?_
    obtain ⟨_, rfl⟩ := hm
    exact refines_boDestroy hp

theorem ne_zero_of_boCreate {errno : ℕ}
    (hr : ValRpi.boCreate fd defaultPixelFormat width height k h = .ok (.error errno, h')) :
    errno ≠ 0 := by
  cases hbo : k.createDumb h (DrmCrtc.dumbRequest fd width height) with
  | error e =>
    rw [DrmCrtc.boCreate_of_error hbo] at hr
    cases hr
    exact e.2.ne'
  | ok arg =>
    rw [DrmCrtc.boCreate_of_ok hbo] at hr
    cases hr

theorem refines_createScanoutFb (hc : Alive c m) :
    Refines (createScanoutFb al c fd width height) m ((c.load m).createScanoutFb fd width height)
      k h fun r m' r' => r.1 = r'.1 ∧ Created c m r.1 r.2 m' r'.2 := by
  refine .bind (refines_releaseScanoutFb hc) fun _ m₁ _ h₁ _ _ hm₁ => ?_
  subst hm₁
  refine .bind (refines_boCreate _ _ _ _) fun r m₁ r' h₂ _ hcreate hmade => ?_
  cases hmade with
  | refused errno =>
    have hne := ne_zero_of_boCreate hcreate
    exact .pure ⟨rfl, .refused (by omega)⟩
  | @made p bo layout hp =>
    refine .bind (.lift _) fun r m₂ r' h₃ _ _ hr => ?_
    obtain ⟨rfl, rfl⟩ := hr
    cases r with
    | error errno =>
      refine .bind (refines_boDestroy (Finmap.lookup_insert _)) fun _ m₃ _ h₄ _ _ hm₃ => ?_
      subst hm₃
      rw [erase_insert hp]
      have hne := errno.2
      exact .pure ⟨rfl, .refused (by omega)⟩
    | ok fbId => exact .pure ⟨rfl, .made bo fbId hp⟩

end Create

/-! ## What is alive -/

/-- The CRTCs point to what is alive, and no two of them to the same. -/
def Holds (m : Heap Bo) (cs : List (DrmCrtc ℕ)) : Prop :=
  Ledger.heldBy DrmCrtc.boHandle cs = m.keys.val

namespace Holds

variable {cs cs' before after : List (DrmCrtc ℕ)} {c c' x : DrmCrtc ℕ} {p : ℕ} {bo : Bo}
  {v : DrmCrtc}

theorem of_bare (hcs : ∀ c ∈ cs, c.boHandle = none) : Holds ∅ cs :=
  Ledger.heldBy_eq_zero hcs

theorem alive (hh : Holds m cs) (hc : c ∈ cs) : Alive c m := by
  intro p hp
  rw [← Finmap.mem_keys, ← Finset.mem_val, ← hh]
  exact Ledger.mem_heldBy hc hp

theorem congr (hh : Holds m cs)
    (hcs : List.Forall₂ (fun c c' => DrmCrtc.boHandle c' = DrmCrtc.boHandle c) cs cs') :
    Holds m cs' :=
  (Ledger.heldBy_congr hcs).trans hh

/-- What a CRTC owns is freed. -/
theorem freed (hh : Holds m (before ++ c :: after)) (hc : c.Paired) :
    Holds (freed c m) (before ++ after) := by
  rw [Ptr.freed, hc.owned]
  cases hbo : c.boHandle with
  | none =>
    rw [Holds, Ledger.heldBy_none hbo] at hh
    exact hh
  | some p =>
    rw [Holds, Ledger.heldBy_some hbo] at hh
    rw [Holds, Finmap.keys_erase, Finset.erase_val, ← hh, Multiset.erase_cons_head]

theorem insert (hh : Holds m (before ++ after)) (hp : p ∉ m) (hc : c.boHandle = some p) :
    Holds (m.insert p bo) (before ++ c :: after) := by
  have hkeys : (m.insert p bo).keys = Insert.insert p m.keys := by
    ext q
    rw [Finmap.mem_keys, Finmap.mem_insert, Finset.mem_insert, Finmap.mem_keys]
  rw [Holds, Ledger.heldBy_some hc, hh, hkeys,
    Finset.insert_val_of_notMem (mt Finmap.mem_keys.1 hp)]

end Holds

/-- Freeing what a CRTC owns does not change what the others point to. -/
theorem load_freed {c x : DrmCrtc ℕ} (hx : Alive x (freed c m)) :
    x.load (freed c m) = x.load m := by
  refine DrmCrtc.mapBo_congr fun p hp => ?_
  have hmem := hx p hp
  rw [freed] at hmem ⊢
  split
  next q hq =>
    rw [hq] at hmem
    exact Finmap.lookup_erase_ne (Finmap.mem_erase.1 hmem).1
  · rfl

theorem load_insert {x : DrmCrtc ℕ} {p : ℕ} {bo : Bo} (hx : Alive x m) (hp : p ∉ m) :
    x.load (m.insert p bo) = x.load m := by
  refine DrmCrtc.mapBo_congr fun q hq => Finmap.lookup_insert_of_ne m ?_
  rintro rfl
  exact hp (hx q hq)

/-- How a CRTC ends that is not refused what it needs: it is as it was, or there is a new
    framebuffer instead of the old one. -/
inductive Remade (c : DrmCrtc ℕ) (m : Heap Bo) : DrmCrtc ℕ → Heap Bo → DrmCrtc → Prop
  | kept : Remade c m c m (c.load m)
  | made {p : ℕ} (bo : Bo) (fbId : ℕ) : p ∉ freed c m →
      Remade c m { c with scanoutFbId := fbId, boHandle := some p } ((freed c m).insert p bo)
        { c.load m with scanoutFbId := fbId, boHandle := some bo }

theorem Created.remade {c c' : DrmCrtc ℕ} {ret : ℤ} {v : DrmCrtc} (hr : Created c m ret c' m' v)
    (hcond : ret ≠ 0 → c.owned = none) : Remade c m c' m' v := by
  cases hr with
  | refused hret =>
    have hfreed : freed c m = m := by rw [freed, hcond hret]
    rw [hfreed]
    exact .kept
  | made bo fbId hp => exact .made bo fbId hp

/-- What is alive is still what the CRTCs point to, and the others point to the same. -/
theorem Holds.remade {before after : List (DrmCrtc ℕ)} {c c' : DrmCrtc ℕ} {v : DrmCrtc}
    (hh : Holds m (before ++ c :: after)) (hc : c.Paired) (hr : Remade c m c' m' v) :
    Holds m' (before ++ c' :: after) ∧ v = c'.load m' ∧
      ∀ x ∈ before ++ after, x.load m' = x.load m := by
  cases hr with
  | kept => exact ⟨hh, rfl, fun x _ => rfl⟩
  | @made p bo fbId hp =>
    have hfreed := hh.freed hc
    refine ⟨hfreed.insert hp rfl, ?_, fun x hx => ?_⟩
    · simp [DrmCrtc.mapBo]
    · rw [load_insert (hfreed.alive hx) hp, load_freed (hfreed.alive hx)]

/-! ## Mode changes -/

/-- The CRTC owns no framebuffer, or is granted a new one. -/
def Granted (k : Kernel) (fd : ℤ) (width height : ℕ) (c : DrmCrtc ℕ) (m : Heap Bo)
    (h : History) : Prop :=
  c.owned = none ∨ (DrmCrtc.grant k ((c.load m).released fd h) fd width height).isSome

theorem refines_commitMode {fd : ℤ} {conns : List DrmConnector} {c : DrmCrtc ℕ} {width height : ℕ}
    {mode : Option (ℕ × ModeInfo)} (hc : Alive c m) (hg : Granted k fd width height c m h) :
    Refines (commitMode al fd conns c width height mode) m
      (ValRpi.commitMode fd conns (c.load m) width height mode) k h
      fun r m' r' => r.1 = r'.1 ∧ Remade c m r.2 m' r'.2 := by
  rcases mode with _ | ⟨crtcId, mode⟩
  · exact .pure ⟨rfl, .kept⟩
  refine .bind (refines_createScanoutFb hc) fun r m₁ r' h₁ _ hcreate hr => ?_
  obtain ⟨ret, c'⟩ := r
  obtain ⟨ret', v⟩ := r'
  obtain ⟨rfl, hr⟩ := hr
  have hremade : Remade c m c' m₁ v := hr.remade fun hret => hg.resolve_right fun hsome => by
    -- it is granted both, so there is no failure
    obtain ⟨⟨arg, fbId⟩, hgrant⟩ := Option.isSome_iff_exists.1 hsome
    rw [DrmCrtc.createScanoutFb_of_grant hgrant] at hcreate
    cases hcreate
    exact hret rfl
  dsimp only
  split
  · exact .pure ⟨rfl, hremade⟩
  · have hsame : c'.scanoutFbId = v.scanoutFbId ∧ c'.connectors = v.connectors := by
      cases hremade <;> exact ⟨rfl, rfl⟩
    rw [hsame.1, hsame.2]
    refine .bind (.lift _) fun _ m₂ _ _ _ _ hm => ?_
    obtain ⟨_, rfl⟩ := hm
    exact .pure ⟨rfl, hremade⟩

/-- The CRTCs of the other devices stand around those of the primary one. -/
theorem load_setPrimary {e : DRIElements ℕ} (d : DriDevice ℕ)
    (hother : ∀ c ∈ (e.setPrimary {}).crtcs, c.load m' = c.load m) :
    (e.setPrimary d).load m' = (e.load m).setPrimary (d.load m') := by
  have hset (e : DRIElements ℕ) (d : DriDevice ℕ) :
      (e.setPrimary {}).setPrimary d = e.setPrimary d := by
    simp only [DRIElements.setPrimary, mapSet_mapSet]
  have hset' (e : DRIElements) (d₁ d₂ : DriDevice) :
      (e.setPrimary d₁).setPrimary d₂ = e.setPrimary d₂ := by
    simp only [DRIElements.setPrimary, mapSet_mapSet]
  rw [← hset, DRIElements.load, DRIElements.setPrimary_mapBo, DRIElements.mapBo_congr hother,
    DRIElements.setPrimary_mapBo, hset']

/-- The state once the CRTC of a target is remade. -/
theorem load_remade {e : DRIElements ℕ} {t : Target ℕ} {c' : DrmCrtc ℕ} {v : DrmCrtc}
    (hh : Holds m e.crtcs) (hpaired : ∀ c ∈ e.crtcs, c.Paired)
    (ht : e.primary.crtcList = t.pre ++ t.crtc :: t.post) (hr : Remade t.crtc m c' m' v)
    (conns : List DrmConnector) (max : Size) :
    let e' := e.setPrimary { e.primary with
      connectorList := conns, crtcList := t.pre ++ { c' with max } :: t.post }
    e'.load m' = (e.load m).setPrimary { (e.load m).primary with
      connectorList := conns
      crtcList := t.pre.map (DrmCrtc.mapBo fun p => m.lookup p) ++ { v with max } ::
        t.post.map (DrmCrtc.mapBo fun p => m.lookup p) } ∧ Holds m' e'.crtcs := by
  intro e'
  obtain ⟨before, after, hcrtcs, hset⟩ := e.exists_crtcs_eq e.mPrimaryDev
  have hcrtcs : e.crtcs = (before ++ t.pre) ++ t.crtc :: (t.post ++ after) := by
    rw [hcrtcs]
    change before ++ e.primary.crtcList ++ after = _
    simp [ht]
  rw [hcrtcs] at hh hpaired
  obtain ⟨hh', rfl, hsame⟩ := hh.remade (hpaired t.crtc (by simp)) hr
  constructor
  · rw [load_setPrimary _ fun c hc => hsame c ?_, DRIElements.primary_mapBo]
    · have hmap (cs : List (DrmCrtc ℕ)) (hcs : ∀ c ∈ cs, c ∈ before ++ t.pre ++ (t.post ++ after)) :
          cs.map (DrmCrtc.mapBo fun p => m'.lookup p) =
            cs.map (DrmCrtc.mapBo fun p => m.lookup p) :=
        List.map_congr_left fun c hc => hsame c (hcs c hc)
      rw [← hmap t.pre (by simp +contextual), ← hmap t.post (by simp +contextual)]
      simp [DriDevice.mapBo, DrmCrtc.mapBo]
    · have hrest : (e.setPrimary {}).crtcs = before ++ [] ++ after := hset {}
      rw [hrest] at hc
      simp only [List.append_nil, List.mem_append] at hc ⊢
      tauto
  · have hcrtcs' : e'.crtcs = (before ++ t.pre) ++ { c' with max } :: (t.post ++ after) := by
      refine (hset _).trans ?_
      simp
    have hrefl (cs : List (DrmCrtc ℕ)) :
        List.Forall₂ (fun c c' => DrmCrtc.boHandle c' = DrmCrtc.boHandle c) cs cs :=
      List.forall₂_same.2 fun _ _ => rfl
    rw [hcrtcs']
    exact hh'.congr (List.rel_append (hrefl _) (.cons rfl (hrefl _)))

theorem refines_applyMode {e : DRIElements ℕ} {conns : List DrmConnector} {width height : ℕ}
    {target : Option (Target ℕ)} (hh : Holds m e.crtcs) (hpaired : ∀ c ∈ e.crtcs, c.Paired)
    (ht : ∀ t ∈ target, e.primary.crtcList = t.pre ++ t.crtc :: t.post ∧
      Granted k e.primary.drmModuleFd width height t.crtc m h) :
    Refines (applyMode al e conns width height target) m
      ((e.load m).applyMode conns width height (target.map (Target.mapBo fun p => m.lookup p))) k h
      fun r m' r' => r.1 = r'.1 ∧ r'.2 = r.2.load m' ∧ Holds m' r.2.crtcs := by
  obtain ⟨before, after, hcrtcs, hset⟩ := e.exists_crtcs_eq e.mPrimaryDev
  rcases target with _ | t
  · refine .pure ⟨rfl, ?_, ?_⟩
    · change _ = (e.setPrimary { e.primary with connectorList := conns }).load m
      rw [DRIElements.load, DRIElements.load, DRIElements.setPrimary_mapBo,
        DRIElements.primary_mapBo]
      rfl
    · have hsame : (e.setPrimary { e.primary with connectorList := conns }).crtcs = e.crtcs :=
        (hset _).trans hcrtcs.symm
      exact hsame ▸ hh
  obtain ⟨ht, hg⟩ := ht t rfl
  have hmem : t.crtc ∈ e.crtcs := by
    rw [hcrtcs]
    refine List.mem_append_left _ (List.mem_append_right _ ?_)
    change t.crtc ∈ e.primary.crtcList
    simp [ht]
  have hfd : (e.load m).primary.drmModuleFd = e.primary.drmModuleFd := by
    rw [DRIElements.primary_mapBo]
    rfl
  rw [applyMode, Option.map_some, DRIElements.applyMode, hfd]
  refine .bind (refines_commitMode (hh.alive hmem) hg) fun r m₁ r' h₁ _ _ hr => ?_
  obtain ⟨⟨ret, conns'⟩, c'⟩ := r
  obtain ⟨⟨_, _⟩, v⟩ := r'
  obtain ⟨heq, hr⟩ := hr
  cases heq
  dsimp only
  by_cases hret : ret = 0
  · obtain ⟨hload, hh'⟩ := load_remade hh hpaired ht hr conns' ⟨width, height⟩
    rw [if_pos hret, if_pos hret]
    refine .pure ⟨rfl, ?_, hh'⟩
    exact congrArg (fun e : DRIElements => { e with mConfiguredMode := ⟨width, height⟩ }) hload.symm
  · obtain ⟨hload, hh'⟩ := load_remade hh hpaired ht hr conns' c'.max
    have hv : { v with max := c'.max } = v := by cases hr <;> rfl
    rw [hv] at hload
    rw [if_neg hret, if_neg hret]
    exact .pure ⟨rfl, hload.symm, hh'⟩

/-- The CRTC that the operation gives a new framebuffer, if any, owns none or is
    granted the new one. -/
def Grants (k : Kernel) (s : DRIElements ℕ × Heap Bo × History) (l : DRIElements.Op × ℤ) : Prop :=
  match l.1 with
  | .changeMode width height displayPath _ => ∀ t conns h₁,
    s.1.primary.findTarget width height displayPath k s.2.2 = .ok ((some t, conns), h₁) →
      Granted k s.1.primary.drmModuleFd width height t.crtc s.2.1 h₁
  | _ => True

/-- An update does not change what the CRTCs point to. -/
theorem boHandle_updateDevice {e e' : DRIElements ℕ} {name : String} {called : Bool}
    (hr : e.updateDevice name k h = .ok ((called, e'), h')) :
    List.Forall₂ (fun c c' => DrmCrtc.boHandle c' = DrmCrtc.boHandle c) e.crtcs e'.crtcs := by
  -- as values from which the pointers can be told
  let f : ℕ → Option Bo := fun p => some ⟨0, 0, 0, p⟩
  have hf : Function.Injective fun bo : Option ℕ => bo.bind f := by
    intro bo bo'
    cases bo <;> cases bo' <;> simp [f]
  have hmap : (e.mapBo f).updateDevice name k h = .ok ((called, e'.mapBo f), h') := by
    rw [DRIElements.updateDevice_mapBo, map_eq_pure_bind, Prog.bind_of_ok hr]
    rfl
  have hassigned := (DRIElements.crtcs_updateDevice hmap).2
  rw [DRIElements.crtcs_mapBo, DRIElements.crtcs_mapBo, List.forall₂_map_left_iff,
    List.forall₂_map_right_iff] at hassigned
  refine hassigned.imp fun c c' ha => hf ?_
  obtain ⟨_, _, _, heq⟩ := ha.refit
  exact congrArg DrmCrtc.boHandle heq

/-- An operation that meets the condition does the same with pointers and with values, and
    uses nothing that is dead. -/
theorem refines_run {e : DRIElements ℕ} {op : DRIElements.Op} {ret : ℤ} (hh : Holds m e.crtcs)
    (hpaired : ∀ c ∈ e.crtcs, c.Paired) (hg : Grants k (e, m, h) (op, ret)) :
    Refines (run al e op) m ((e.load m).run op) k h
      fun r m' r' => r.1 = r'.1 ∧ r'.2 = r.2.load m' ∧ Holds m' r.2.crtcs := by
  cases op with
  | hotplug => exact refines_of_ok rfl rfl ⟨rfl, rfl, hh⟩
  | updateDevice name =>
    rw [run, DRIElements.run, DRIElements.updateDevice_mapBo]
    refine .bind (.lift_map rfl) fun r m₁ r' h₁ hx _ hr => ?_
    obtain ⟨called, e'⟩ := r
    obtain ⟨rfl, rfl⟩ := hr
    obtain ⟨hupdate, _⟩ := lift_eq_ok.1 hx
    exact .pure ⟨rfl, rfl, hh.congr (boHandle_updateDevice hupdate)⟩
  | changeMode width height displayPath vRefresh =>
    rw [run, DRIElements.run, changeMode_eq, ValRpi.changeMode_eq, DRIElements.primary_mapBo,
      findTarget_mapBo]
    refine .bind (.lift_map rfl) fun r m₁ r' h₁ hx _ hr => ?_
    obtain ⟨target, conns⟩ := r
    obtain ⟨rfl, rfl⟩ := hr
    obtain ⟨hfind, _⟩ := lift_eq_ok.1 hx
    refine refines_applyMode hh hpaired fun t ht => ⟨?_, ?_⟩
    · exact ((DriDevice.findTarget_spec hfind).2 t ht).crtcList
    · obtain rfl := ht
      exact hg t conns h₁ hfind

/-! ## The constructor -/

theorem refines_setActiveMode {fd : ℤ} {conns : List DrmConnector} {c : DrmCrtc ℕ}
    {width height vRefresh : ℕ} (hc : c.Bare) :
    Refines (setActiveMode al fd conns c width height vRefresh) m
      (ValRpi.setActiveMode fd conns (c.load m) width height vRefresh) k h
      fun r m' r' => r.1 = r'.1 ∧ Remade c m r.2 m' r'.2 := by
  have halive : Alive c m := by
    intro p hp
    rw [hc.boHandle] at hp
    cases hp
  rw [setActiveMode_eq, ValRpi.setActiveMode_eq, findMode_mapBo]
  refine .bind (.lift _) fun r m₁ _ h₁ _ _ hr => ?_
  obtain ⟨rfl, rfl⟩ := hr
  exact refines_commitMode halive (.inl hc.owned)

/-- The modes of the CRTCs of a device are set for the first time. -/
theorem refines_setActiveModes {d : DriDevice ℕ} {before after : List (DrmCrtc ℕ)}
    (hbare : ∀ c ∈ d.crtcList, c.Bare) (hh : Holds m (before ++ d.crtcList ++ after)) :
    Refines (setActiveModes al d) m (DRIElements.setActiveModes (d.load m)) k h
      fun d' m' v => v = d'.load m' ∧ Holds m' (before ++ d'.crtcList ++ after) := by
  have hsame {c : DrmCrtc ℕ} (hc : c.Bare) (m' : Heap Bo) : c.load m' = c.load m := by
    refine DrmCrtc.mapBo_congr fun p hp => ?_
    rw [hc.boHandle] at hp
    cases hp
  rw [setActiveModes, DRIElements.setActiveModes]
  refine .bind (Refines.forEach (fun (c : DrmCrtc ℕ) (v : DrmCrtc) => c.Bare ∧ v = c.load m)
    (fun m' (cs : List (DrmCrtc ℕ)) (vs : List DrmCrtc) =>
      Holds m' (before ++ cs ++ after) ∧ vs = cs.map fun c => c.load m')
    ?_ ?_ [] [] rfl ⟨hh, rfl⟩) fun r m₁ r' h₁ _ _ hr => ?_
  · rintro pre c post pre' v post' conns m₁ h₁ ⟨hc, rfl⟩ hlen ⟨hh₁, hvs⟩
    rw [← hsame hc m₁]
    refine .bind (refines_setActiveMode hc) fun r m₂ r' h₂ _ _ hr => ?_
    obtain ⟨⟨ret, conns'⟩, c'⟩ := r
    obtain ⟨⟨_, _⟩, v⟩ := r'
    obtain ⟨heq, hr⟩ := hr
    cases heq
    rw [← List.append_assoc, List.append_assoc, List.cons_append] at hh₁
    obtain ⟨hh₂, rfl, hload⟩ := hh₁.remade (.of_bare hc) hr
    rw [List.map_append, List.map_cons] at hvs
    obtain ⟨rfl, hrest⟩ := List.append_inj hvs (by simp [hlen])
    obtain ⟨_, rfl⟩ := List.cons.inj hrest
    have hmap (cs : List (DrmCrtc ℕ)) (hcs : ∀ c ∈ cs, c ∈ before ++ pre ++ (post ++ after)) :
        (cs.map fun c => c.load m₁) = cs.map fun c => c.load m₂ :=
      List.map_congr_left fun c hc => (hload c (hcs c hc)).symm
    refine .pure ⟨rfl, by simpa using hh₂, ?_⟩
    rw [hmap pre (by simp +contextual), hmap post (by simp +contextual)]
    simp
  · change List.Forall₂ _ d.crtcList (d.crtcList.map fun c => c.load m)
    rw [List.forall₂_map_right_iff, List.forall₂_same]
    exact fun c hc => ⟨hbare c hc, rfl⟩
  · obtain ⟨cs, conns⟩ := r
    obtain ⟨vs, _⟩ := r'
    obtain ⟨rfl, hh', rfl⟩ := hr
    exact .pure ⟨rfl, hh'⟩

theorem refines_finish {e : DRIElements ℕ} (hbare : ∀ c ∈ e.crtcs, c.Bare)
    (device : Option String) :
    Refines (finish al e device) ∅ ((e.load ∅).finish device) k h
      fun r m' v => v = r.load m' ∧ Holds m' r.crtcs := by
  have hnone : ∀ c ∈ e.crtcs, c.boHandle = none := fun c hc => (hbare c hc).boHandle
  rcases device with _ | name
  · exact .pure ⟨rfl, .of_bare hnone⟩
  let e₁ : DRIElements ℕ := { e with mPrimaryDev := name }
  obtain ⟨before, after, hcrtcs, hset⟩ := e₁.exists_crtcs_eq name
  have hcrtcs : e.crtcs = before ++ e₁.primary.crtcList ++ after := hcrtcs
  have hbare₁ : ∀ c ∈ e₁.primary.crtcList, c.Bare := fun c hc =>
    hbare c (by rw [hcrtcs]; simp [hc])
  have hh : Holds ∅ (before ++ e₁.primary.crtcList ++ after) := hcrtcs ▸ .of_bare hnone
  have hprimary : ((e.load ∅).mDeviceList.lookup name).getD {} = e₁.primary.load ∅ :=
    DRIElements.primary_mapBo _ e₁
  rw [finish, DRIElements.finish, hprimary]
  refine .bind (refines_setActiveModes hbare₁ hh) fun d m₁ v h₁ _ _ hd => ?_
  obtain ⟨rfl, hh₁⟩ := hd
  refine .pure ⟨?_, ?_⟩
  · refine (load_setPrimary (e := e₁) d fun c hc => DrmCrtc.mapBo_congr fun p hp => ?_).symm
    -- the CRTCs of the other devices have no buffer
    have hmem : c ∈ e.crtcs := by
      have hrest : (e₁.setPrimary {}).crtcs = before ++ [] ++ after := hset {}
      rw [hrest] at hc
      rw [hcrtcs]
      simp only [List.append_nil, List.mem_append] at hc ⊢
      tauto
    rw [hnone c hmem] at hp
    cases hp
  · have hd : (e₁.setPrimary d).crtcs = before ++ d.crtcList ++ after := hset d
    exact hd ▸ hh₁

theorem refines_new (defMode : Size) :
    Refines (new al defMode) ∅ (DRIElements.new defMode) k h
      fun r m' v => v = r.load m' ∧ Holds m' r.crtcs := by
  refine .bind (.lift _) fun r m₁ _ h₁ _ hstart hr => ?_
  obtain ⟨rfl, rfl⟩ := hr
  obtain ⟨device, e⟩ := r
  have hbare := DRIElements.bare_startUp hstart
  have hload : (e.mapBo fun _ => (none : Option ℕ)).load ∅ = e := by
    rw [DRIElements.load, DRIElements.mapBo_mapBo]
    refine (DRIElements.mapBo_congr fun c hc => DrmCrtc.mapBo_congr fun bo hbo => ?_).trans
      e.mapBo_some
    rw [(hbare c hc).boHandle] at hbo
    cases hbo
  have hbare' : ∀ c ∈ (e.mapBo fun _ => (none : Option ℕ)).crtcs, c.Bare := by
    intro c hc
    rw [DRIElements.crtcs_mapBo] at hc
    obtain ⟨c₀, hc₀, rfl⟩ := List.mem_map.1 hc
    exact ⟨(hbare c₀ hc₀).scanoutFbId, by rw [DrmCrtc.mapBo, (hbare c₀ hc₀).boHandle]; rfl⟩
  have hfinish : Refines (finish al _ device) ∅ (DRIElements.finish _ device) k h₁ _ :=
    refines_finish hbare' device
  rwa [hload] at hfinish

/-! ## Runs -/

variable {e e₀ : DRIElements ℕ} {m₀ : Heap Bo} {h₀ : History} {defMode : Size}
  {ls : List (DRIElements.Op × ℤ)}

theorem Alive.paired {c : DrmCrtc ℕ} (hc : Alive c m) (hload : (c.load m).Paired) : c.Paired := by
  refine hload.trans ?_
  change (c.boHandle.bind fun p => m.lookup p) = none ↔ c.boHandle = none
  cases hbo : c.boHandle with
  | none => simp
  | some p => simpa [Finmap.lookup_eq_none] using hc p hbo

theorem grants_load {l : DRIElements.Op × ℤ} (hg : Grants k (e, m, h) l) :
    DRIElements.Grants k (e.load m, h) l := by
  obtain ⟨op, ret⟩ := l
  cases op with
  | hotplug => trivial
  | updateDevice name => trivial
  | changeMode width height displayPath vRefresh =>
    intro t conns h₁ ht
    dsimp only at ht
    rw [DRIElements.primary_mapBo, findTarget_mapBo, map_eq_pure_bind, Prog.bind_eq_ok] at ht
    obtain ⟨⟨target, conns₁⟩, h₂, hfind, ht⟩ := ht
    rw [Prog.pure_eq_ok, Prod.mk.injEq, Prod.mk.injEq] at ht
    obtain ⟨⟨ht, rfl⟩, rfl⟩ := ht
    obtain ⟨t₀, rfl, rfl⟩ := Option.map_eq_some_iff.1 ht.symm
    rw [DRIElements.primary_mapBo]
    refine (hg t₀ _ _ hfind).imp_left fun hnone => ?_
    change (t₀.crtc.load m).owned = none
    rw [DrmCrtc.owned_mapBo, hnone]
    rfl

theorem paired_of_run {v₀ : DRIElements} (hk : k.Fresh)
    (hnew : DRIElements.new defMode k [] = .ok (v₀, h₀))
    (hrun : Run (Run.when (DRIElements.Grants k) (DRIElements.Step k)) (v₀, h₀) ls (e.load m, h))
    (hh : Holds m e.crtcs) : ∀ c ∈ e.crtcs, c.Paired := by
  intro c hc
  have hremembers := DRIElements.remembers_of_run hk hnew hrun.of_when
  refine (hh.alive hc).paired (hremembers.paired _ ?_)
  rw [DRIElements.crtcs_mapBo]
  exact List.mem_map_of_mem hc

/-- Along a run that meets the condition, the program with pointers does what the one
    with values does, and the CRTCs point to what is alive. -/
theorem load_of_run (hk : k.Fresh) (hnew : new al defMode ∅ k [] = .ok ((e₀, m₀), h₀))
    (hrun : Run (Run.when (Grants k) (Step al k)) (e₀, m₀, h₀) ls (e, m, h)) :
    DRIElements.new defMode k [] = .ok (e₀.load m₀, h₀) ∧
      Run (Run.when (DRIElements.Grants k) (DRIElements.Step k)) (e₀.load m₀, h₀) ls (e.load m, h) ∧
        Holds m e.crtcs := by
  obtain ⟨_, hnew', rfl, hh₀⟩ := exists_of_refines (refines_new defMode) hnew
  refine ⟨hnew', ?_⟩
  refine hrun.ghost (fun ls s => Run (Run.when (DRIElements.Grants k) (DRIElements.Step k))
    (e₀.load m₀, h₀) ls (s.1.load s.2.1, s.2.2) ∧ Holds s.2.1 s.1.crtcs) ⟨.nil, hh₀⟩ ?_
  rintro ls ⟨e, m, h⟩ ⟨op, ret⟩ ⟨e', m', h'⟩ ⟨hvalue, hh⟩ ⟨hg, hstep⟩
  have hpaired := paired_of_run hk hnew' hvalue hh
  obtain ⟨⟨_, v⟩, hvstep, rfl, rfl, hh'⟩ := exists_of_refines (refines_run hh hpaired hg) hstep
  exact ⟨.step hvalue ⟨grants_load hg, hvstep⟩, hh'⟩

/-- Such a run goes on without the use of what is dead. -/
theorem run_ne_dead (hk : k.Fresh) (hnew : new al defMode ∅ k [] = .ok ((e₀, m₀), h₀))
    (hrun : Run (Run.when (Grants k) (Step al k)) (e₀, m₀, h₀) ls (e, m, h))
    {op : DRIElements.Op} (hg : Grants k (e, m, h) (op, 0)) : run al e op m k h ≠ .error .dead := by
  obtain ⟨hnew', hvalue, hh⟩ := load_of_run hk hnew hrun
  exact ne_dead_of_refines (refines_run hh (paired_of_run hk hnew' hvalue hh) hg)

/-- A kernel that grants everything grants every mode change. -/
theorem grants_willing (card : ℕ → Card) (s : DRIElements ℕ × Heap Bo × History)
    (l : DRIElements.Op × ℤ) : Grants (.willing card) s l := by
  rw [Grants]
  split
  · exact fun t conns h₁ _ => .inr (by simp [DrmCrtc.grant, Kernel.scripted])
  · trivial

/-- Along a run that meets the condition, what was freed is not used, the CRTCs point to
    the blocks that are alive, each of one CRTC, and the run is one of the program with the
    buffers as values. -/
theorem safe_of_run (hk : k.Fresh) (hnew : new al defMode ∅ k [] = .ok ((e₀, m₀), h₀))
    (hrun : Run (Run.when (Grants k) (Step al k)) (e₀, m₀, h₀) ls (e, m, h)) :
    (∀ op, Grants k (e, m, h) (op, 0) → run al e op m k h ≠ .error .dead) ∧
      Holds m e.crtcs ∧
        DRIElements.new defMode k [] = .ok (e₀.load m₀, h₀) ∧
          Run (DRIElements.Step k) (e₀.load m₀, h₀) ls (e.load m, h) := by
  obtain ⟨hnew', hvalue, hh⟩ := load_of_run hk hnew hrun
  exact ⟨fun op hg => run_ne_dead hk hnew hrun hg, hh, hnew', hvalue.of_when⟩

/-- The display is set to another mode, and may be set to a third one. -/
theorem safe_of_run_one_display :
    let k : Kernel := .willing fun _ => .oneDisplay
    let al : Allocator Event := .reusing Event 4096
    ∃ e₀ m₀ h₀ e m h, new al ⟨1920, 1080⟩ ∅ k [] = .ok ((e₀, m₀), h₀) ∧
      Run (Step al k) (e₀, m₀, h₀) [(.changeMode 1280 720 0 0, 1)] (e, m, h) ∧
      e.crtcs.map (·.boHandle) = [some 4096] ∧
      run al e (.changeMode 1920 1080 0 0) m k h ≠ .error .dead ∧ Holds m e.crtcs ∧
        Run (DRIElements.Step k) (e₀.load m₀, h₀) [(.changeMode 1280 720 0 0, 1)]
          (e.load m, h) := by
  intro k al
  have hrun : (new al ⟨1920, 1080⟩ ∅ k []).map (fun s =>
      (run al s.1.1 (.changeMode 1280 720 0 0) s.1.2 k s.2).map fun r =>
        (r.1.1.1, r.1.1.2.crtcs.map (·.boHandle))) = .ok (.ok (1, [some 4096])) := by
    decide +kernel
  obtain ⟨⟨⟨e₀, m₀⟩, h₀⟩, hnew, hchange⟩ := Prog.exists_of_map_eq_ok hrun
  obtain ⟨⟨⟨⟨ret, e⟩, m⟩, h⟩, hchange, hobs⟩ := Prog.exists_of_map_eq_ok hchange
  obtain ⟨rfl, hcrtcs⟩ := Prod.mk.inj hobs
  have hstep : Step al k (e₀, m₀, h₀) (.changeMode 1280 720 0 0, 1) (e, m, h) := hchange
  obtain ⟨hsafe, hh, _, hvalue⟩ := safe_of_run (Kernel.scripted_fresh _ _ _ _) hnew
    (.step .nil ⟨grants_willing _ _ _, hstep⟩)
  exact ⟨e₀, m₀, h₀, e, m, h, hnew, .step .nil hstep, hcrtcs,
    hsafe _ (grants_willing _ _ _), hh, hvalue⟩

/-- Every live buffer object is the buffer of one CRTC, every live framebuffer the one of
    one CRTC, and every `struct bo` that is alive is pointed to by one CRTC. -/
structure LeakFree (e : DRIElements ℕ) (m : Heap Bo) (h : History) : Prop where
  bos : ∀ handle ∈ liveBos h, (e.crtcs.filter fun c =>
    (c.boHandle.bind fun p => m.lookup p).map Bo.handle = some handle).length = 1
  fbs : ∀ fbId ∈ liveFbs h, (e.crtcs.filter fun c => c.scanoutFbId = fbId).length = 1
  structs : ∀ p ∈ m, (e.crtcs.filter fun c => c.boHandle = some p).length = 1

/-- Nothing leaks along a run from the constructor whose mode changes give a new
    framebuffer only to a CRTC that owns none or is granted the new one. -/
theorem leakFree_of_run (hk : k.Fresh) (hnew : new al defMode ∅ k [] = .ok ((e₀, m₀), h₀))
    (hrun : Run (Run.when (Grants k) (Step al k)) (e₀, m₀, h₀) ls (e, m, h)) :
    LeakFree e m h := by
  obtain ⟨hnew', hvalue, hh⟩ := load_of_run hk hnew hrun
  have hnamed := DRIElements.namedOnce_of_run hk hnew' hvalue.of_when
  have hlength (p : DrmCrtc → Bool) : ((e.load m).crtcs.filter p).length =
      (e.crtcs.filter fun c => p (c.load m)).length := by
    rw [DRIElements.crtcs_mapBo, List.filter_map, List.length_map]
    rfl
  refine ⟨fun handle hlive => ?_, fun fbId hlive => ?_, fun p hp => ?_⟩
  · exact (hlength _).symm.trans (hnamed.bos handle hlive)
  · exact (hlength _).symm.trans (hnamed.fbs fbId hlive)
  · have hmem : p ∈ m.keys.val := Finmap.mem_keys.2 hp
    rw [← Ledger.count_heldBy, hh]
    exact Multiset.count_eq_one_of_mem m.keys.nodup hmem

/-- On one display, the kernel granting everything, a mode change later. -/
theorem leakFree_after_mode_change :
    let k : Kernel := .willing fun _ => .oneDisplay
    let al : Allocator Event := .reusing Event 4096
    ∃ e₀ m₀ h₀ e m h, new al ⟨1920, 1080⟩ ∅ k [] = .ok ((e₀, m₀), h₀) ∧
      Run (Run.when (Grants k) (Step al k)) (e₀, m₀, h₀) [(.changeMode 1280 720 0 0, 1)] (e, m, h) ∧
        LeakFree e m h := by
  intro k al
  have hrun : (new al ⟨1920, 1080⟩ ∅ k []).map (fun s =>
      (run al s.1.1 (.changeMode 1280 720 0 0) s.1.2 k s.2).map fun r => r.1.1.1) =
        .ok (.ok 1) := by
    decide +kernel
  obtain ⟨⟨⟨e₀, m₀⟩, h₀⟩, hnew, hchange⟩ := Prog.exists_of_map_eq_ok hrun
  obtain ⟨⟨⟨⟨ret, e⟩, m⟩, h⟩, hchange, rfl⟩ := Prog.exists_of_map_eq_ok hchange
  have hstep : Run (Run.when (Grants k) (Step al k)) (e₀, m₀, h₀)
      [(.changeMode 1280 720 0 0, 1)] (e, m, h) := .step .nil ⟨grants_willing _ _ _, hchange⟩
  exact ⟨e₀, m₀, h₀, e, m, h, hnew, hstep,
    leakFree_of_run (Kernel.scripted_fresh _ _ _ _) hnew hstep⟩

/-- Two displays, and a kernel that refuses the buffer of the first of two mode changes, one
    of each display: the block that is freed for it becomes the buffer of the other CRTC. -/
theorem leakFree_lost_after_refusal : ∃ (al : Allocator Event) (k : Kernel), k.Fresh ∧
    ∃ e₀ m₀ h₀ e m h, new al ⟨1920, 1080⟩ ∅ k [] = .ok ((e₀, m₀), h₀) ∧
      Run (Step al k) (e₀, m₀, h₀)
        [(.changeMode 1280 720 1 0, 1), (.changeMode 1280 720 0 0, 0)] (e, m, h) ∧
        3 ∈ liveBos h ∧ (e.crtcs.filter fun c =>
          (c.boHandle.bind fun p => m.lookup p).map Bo.handle = some 3).length = 2 ∧
          ¬ LeakFree e m h := by
  let al : Allocator Event := .reusing Event 4096
  let k : Kernel := .scripted (fun _ => .twoDisplays)
    (fun h => (Ledger.released destroysBo h).length ≠ 1) (fun _ => true) fun _ => true
  have hrun : (new al ⟨1920, 1080⟩ ∅ k []).map (fun s =>
      (run al s.1.1 (.changeMode 1280 720 0 0) s.1.2 k s.2).map fun r =>
        (r.1.1.1, (run al r.1.1.2 (.changeMode 1280 720 1 0) r.1.2 k r.2).map fun r =>
          (r.1.1.1, decide (3 ∈ liveBos r.2 ∧ (r.1.1.2.crtcs.filter fun c =>
            (c.boHandle.bind fun p => r.1.2.lookup p).map Bo.handle = some 3).length = 2)))) =
              .ok (.ok (0, .ok (1, true))) := by
    decide +kernel
  obtain ⟨⟨⟨e₀, m₀⟩, h₀⟩, hnew, hfirst⟩ := Prog.exists_of_map_eq_ok hrun
  obtain ⟨⟨⟨⟨ret₁, e₁⟩, m₁⟩, h₁⟩, hfirst, hobs⟩ := Prog.exists_of_map_eq_ok hfirst
  obtain ⟨rfl, hsecond⟩ := Prod.mk.inj hobs
  obtain ⟨⟨⟨⟨ret₂, e₂⟩, m₂⟩, h₂⟩, hsecond, hobs⟩ := Prog.exists_of_map_eq_ok hsecond
  obtain ⟨rfl, hshared⟩ := Prod.mk.inj hobs
  obtain ⟨hlive, htwo⟩ := of_decide_eq_true hshared
  have hstep₁ : Step al k (e₀, m₀, h₀) (.changeMode 1280 720 0 0, 0) (e₁, m₁, h₁) := hfirst
  have hstep₂ : Step al k (e₁, m₁, h₁) (.changeMode 1280 720 1 0, 1) (e₂, m₂, h₂) := hsecond
  refine ⟨al, k, Kernel.scripted_fresh _ _ _ _, e₀, m₀, h₀, e₂, m₂, h₂, hnew,
    .step (.step .nil hstep₁) hstep₂, hlive, htwo, fun hleak => ?_⟩
  have hone := hleak.bos 3 hlive
  rw [htwo] at hone
  cases hone

end Ptr

end ValRpi
