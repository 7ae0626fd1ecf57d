import ValRpi.BufferSizes
import ValRpi.Footprints
import ValRpi.Ownership

/-!
# Painting what is scanned out

`tests/main.cpp` paints tiles in the buffer that the CRTC of the first connector scans
out. It takes the greatest mode of the CRTC for the size of the buffer.

* `framed_of_run`: in every run this is right, as long as no update gives a CRTC that
  has a buffer another greatest mode and no CRTC that has one is refused the next, if the
  kernel gives buffers as large as it was asked for (`Kernel.Ample`). The buffers are
  alive then; a CRTC that was refused another one names a buffer that is gone;
* `testMain_cases`: after the constructor, the tiles are shown in the whole buffer, or
  nothing is painted, or the choice of the CRTC is a fault;
* `testMain_pictured`: the buffer that is painted is the one that the framebuffer of the
  CRTC takes its pixels from.
-/

namespace ValRpi

variable {k : Kernel} {h h' : History} {defMode : Size}

/-- Dumb buffers are not empty, their rows hold the pixels that were asked for, and all
    rows are in them. The kernel computes their size in 32 bits. -/
structure Kernel.Ample (k : Kernel) : Prop where
  width : ∀ h req arg, k.createDumb h req = .ok arg → 0 < req.width
  height : ∀ h req arg, k.createDumb h req = .ok arg → 0 < req.height
  pitch : ∀ h req arg, k.createDumb h req = .ok arg → req.width * req.bpp ≤ 8 * arg.pitch
  size : ∀ h req arg, k.createDumb h req = .ok arg → arg.pitch * req.height ≤ arg.size
  small : ∀ h req arg, k.createDumb h req = .ok arg → arg.pitch * req.height < 2 ^ 32

/-- A display on the first of three CRTCs. -/
def Card.threeCrtcs : Card :=
  .ofTables [31, 32, 33] [⟨21, 11, 11, .connected, [.progressive 1920 1080], [11]⟩]
    [⟨11, 31, 1⟩] [⟨41, 7⟩]

/-- A kernel that grants everything but buffers that are empty or too large. -/
def Kernel.checked (card : ℕ → Card) : Kernel :=
  { Kernel.willing card with
    createDumb := fun h req =>
      if 0 < req.width ∧ 0 < req.height ∧ req.bpp ≤ 32 ∧ 4 * req.width * req.height < 2 ^ 32 then
        .ok ⟨nextId createsBo h, 4 * req.width, 4 * req.width * req.height⟩
      else .error ⟨12, Nat.succ_pos 11⟩ }

theorem Kernel.checked_ample (card : ℕ → Card) : (checked card).Ample := by
  have hcreate {h : History} {req : CreateDumb} {arg : DumbBuffer}
      (harg : (checked card).createDumb h req = .ok arg) :
      (0 < req.width ∧ 0 < req.height ∧ req.bpp ≤ 32 ∧ 4 * req.width * req.height < 2 ^ 32) ∧
        arg = ⟨nextId createsBo h, 4 * req.width, 4 * req.width * req.height⟩ := by
    simp only [checked] at harg
    split at harg
    next hreq =>
      cases harg
      exact ⟨hreq, rfl⟩
    · cases harg
  refine ⟨fun h req arg harg => ?_, fun h req arg harg => ?_, fun h req arg harg => ?_,
    fun h req arg harg => ?_, fun h req arg harg => ?_⟩
  all_goals obtain ⟨⟨hwidth, hheight, hbpp, hsmall⟩, rfl⟩ := hcreate harg
  · exact hwidth
  · exact hheight
  · have hle : req.width * req.bpp ≤ req.width * 32 := Nat.mul_le_mul_left _ hbpp
    dsimp only
    omega
  · exact Nat.le_refl _
  · exact hsmall

theorem Kernel.checked_fresh (card : ℕ → Card) : (checked card).Fresh where
  createDumb h req arg harg := by
    simp only [checked] at harg
    split at harg
    · cases harg
      exact nextId_not_mem _ _
    · cases harg
  addFB2 := (scripted_fresh card (fun _ => true) (fun _ => true) fun _ => true).addFB2
  addFB2_ne_zero :=
    (scripted_fresh card (fun _ => true) (fun _ => true) fun _ => true).addFB2_ne_zero

/-- The framebuffer of a CRTC takes its pixels from the buffer of the CRTC, and has the size
    of the greatest mode. -/
def DrmCrtc.Pictured (h : History) (c : DrmCrtc) : Prop :=
  ∀ bo ∈ c.boHandle, ∃ fd, .addFB2 (DrmCrtc.fbRequest fd c.max.w c.max.h
    ⟨bo.handle, bo.pitch, bo.size⟩) (some c.scanoutFbId) ∈ h

/-- An image of the size is in the buffer, and is not empty. -/
structure Bo.Frames (bo : Bo) (size : Size) : Prop where
  roomy : Roomy defaultPixelFormat bo size.w size.h
  width_pos : 0 < size.w
  height_pos : 0 < size.h

/-- In every buffer of a CRTC there is an image of its greatest mode. -/
def Framed (crtcs : List DrmCrtc) : Prop := ∀ c ∈ crtcs, ∀ bo ∈ c.boHandle, bo.Frames c.max

/-- One CRTC may be replaced by one whose buffer holds the image. -/
theorem Framed.replace {before after : List DrmCrtc} {c c' : DrmCrtc}
    (hf : Framed (before ++ c :: after)) (hc' : ∀ bo ∈ c'.boHandle, bo.Frames c'.max) :
    Framed (before ++ c' :: after) :=
  Lists.forall_mem_middle.2 ⟨hc', (Lists.forall_mem_middle.1 hf).2⟩

/-- The buffer that is granted holds an image of the size asked for. -/
theorem DrmCrtc.frames_of_grant (ha : k.Ample) {fd : ℤ} {width height : ℕ} {arg : DumbBuffer}
    {fbId : ℕ} (hg : grant k h fd width height = some (arg, fbId)) :
    Bo.Frames ⟨fd, arg.size, arg.pitch, arg.handle⟩ ⟨width, height⟩ := by
  rw [grant] at hg
  split at hg
  · cases hg
  next hbo =>
    split at hg
    · cases hg
    · cases hg
      have hpitch := ha.pitch _ _ _ hbo
      refine ⟨⟨?_, ha.size _ _ _ hbo, ha.small _ _ _ hbo, fun hkind => by cases hkind⟩,
        ha.width _ _ _ hbo, ha.height _ _ _ hbo⟩
      change width * 32 ≤ 8 * arg.pitch at hpitch
      change width * 4 ≤ arg.pitch
      omega

namespace DRIElements

variable {e e' e₀ : DRIElements} {h₀ : History} {ls : List (Op × ℤ)}

/-- The constructor gives CRTCs buffers for their greatest mode. -/
theorem framed_new (ha : k.Ample) (hnew : new defMode k [] = .ok (e, h)) : Framed e.crtcs := by
  refine crtcs_new (fun cs _ => Framed cs) (fun cs h hblank _ c hc bo hbo => ?_)
    (fun cs new h hnew hf => hf)
    (fun before c c' after h hbare hcc' hf => hf.replace fun bo hbo => ?_)
    (fun before c after h fd m ret c' h' hbare hm hf => ?_) hnew
  · rw [(hblank c hc).boHandle] at hbo
    cases hbo
  · rw [(hcc'.refit.bare hbare).boHandle] at hbo
    cases hbo
  · cases hm with
    | refused _ => exact hf
    | granted hg =>
      refine hf.replace fun bo hbo => ?_
      cases hbo
      exact DrmCrtc.frames_of_grant ha hg

/-- A mode change gives a CRTC a buffer for its new greatest mode. -/
theorem framed_changeMode (ha : k.Ample) {width height : ℕ} {displayPath : UInt8} {ret : ℤ}
    (hf : Framed e.crtcs) (hc : Changed e k h width height displayPath ret e' h') :
    Framed e'.crtcs := by
  obtain ⟨new, hnew, ⟨hsame, _⟩ | ⟨t, conns, before, after, set, c', ht, hcrtcs, hm, hcrtcs'⟩⟩ :=
    crtcs_changed hc
  · rw [hsame]
    exact hf
  rw [hcrtcs']
  rw [hcrtcs] at hf
  cases hm with
  | refused _ => exact hf
  | granted hg =>
    refine hf.replace fun bo hbo => ?_
    cases hbo
    exact DrmCrtc.frames_of_grant ha hg

/-- After an update that keeps the greatest modes of the CRTCs that have a buffer, these
    are the CRTCs with theirs. -/
theorem exists_crtc_updated (hread : e.AllRead) {name : String} {called : Bool} {ret : ℤ}
    (hkeeps : KeepsSizes k (e, h) (.updateDevice name, ret))
    (hu : e.updateDevice name k h = .ok ((called, e'), h')) : ∀ c' ∈ e'.crtcs, ∃ c ∈ e.crtcs,
      c'.boHandle = c.boHandle ∧ (c.boHandle.isSome → c'.max = c.max) := by
  intro c' hc'
  rcases updateDevice_reads hread hu with ⟨_, rfl, _⟩ | ⟨d, conns, rs, hd, hasked, rfl⟩
  · exact ⟨c', hc', rfl, fun _ => rfl⟩
  have hsame : List.Forall₂ (fun c c' : DrmCrtc => c'.boHandle = c.boHandle ∧
      (c.boHandle.isSome → c'.max = c.max)) d.crtcList
        (d.afterReads e.mInitialMode conns rs).crtcList := by
    refine List.forall₂_map_right_iff.2 (List.forall₂_same.2 fun c hc => ?_)
    refine ⟨DriDevice.boHandle_written rs c, fun hbo => ?_⟩
    rw [DriDevice.max_written]
    cases hlast : DriDevice.lastFor rs c.id with
    | none => rfl
    | some r => exact hkeeps d hd conns rs _ hasked c hc hbo r hlast
  exact Prog.exists_rel_of_mem (forall₂_crtcs (fun c => ⟨rfl, fun _ => rfl⟩) hd hsame) hc'

/-- An update that keeps the greatest modes keeps the buffers as well. -/
theorem framed_updateDevice (hread : e.AllRead) {name : String} {called : Bool} {ret : ℤ}
    (hkeeps : KeepsSizes k (e, h) (.updateDevice name, ret)) (hf : Framed e.crtcs)
    (hu : e.updateDevice name k h = .ok ((called, e'), h')) : Framed e'.crtcs := by
  intro c' hc' bo hbo
  obtain ⟨c, hc, hbo', hmax⟩ := exists_crtc_updated hread hkeeps hu c' hc'
  rw [hbo'] at hbo
  rw [hmax (Option.isSome_of_mem hbo)]
  exact hf c hc bo hbo

/-- The mode changes that are granted where they must be, and the updates that keep the
    greatest modes of CRTCs that have a buffer. -/
def KeepsFrames (k : Kernel) (s : DRIElements × History) (l : Op × ℤ) : Prop :=
  Grants k s l ∧ KeepsSizes k s l

/-- In every run the buffer of a CRTC is alive and an image of its greatest mode is in it,
    as long as no update gives a CRTC that has one another greatest mode and no CRTC that
    has one is refused the next. -/
theorem framed_of_run (hk : k.Fresh) (ha : k.Ample) (hs : k.Sane)
    (hnew : new defMode k [] = .ok (e₀, h₀))
    (hrun : Run (Run.when (KeepsFrames k) (Step k)) (e₀, h₀) ls (e, h)) :
    Framed e.crtcs ∧ ∀ c ∈ e.crtcs, ∀ bo ∈ c.boHandle, bo.handle ∈ liveBos h := by
  have howns := owns_of_run hk hnew (hrun.mono fun _ _ _ hs => ⟨hs.1.1, hs.2⟩)
  refine ⟨?_, fun c hc bo hbo => (howns.alive hc hbo).1⟩
  refine (hrun.invariant (fun s => s.1.AllRead ∧ Framed s.1.crtcs)
    ⟨allRead_new hs hnew, framed_new ha hnew⟩ ?_).2
  rintro ⟨e, h⟩ ⟨op, ret⟩ ⟨e', h'⟩ ⟨hread, hf⟩ ⟨⟨_, hkeeps⟩, hstep⟩
  refine ⟨allRead_step hread hstep, ?_⟩
  rcases step_cases hstep with ⟨_, heq⟩ | ⟨name, called, hop, hu⟩ | ⟨_, _, _, _, _, hc⟩
  · cases heq
    exact hf
  · obtain rfl : op = .updateDevice name := hop
    exact framed_updateDevice hread hkeeps hf hu
  · exact framed_changeMode ha hf hc

theorem grant_checked (card : ℕ → Card) (h : History) (fd : ℤ) {width height : ℕ}
    (hsize : 0 < width ∧ 0 < height ∧ 4 * width * height < 2 ^ 32) :
    (DrmCrtc.grant (.checked card) h fd width height).isSome := by
  have hreq : 0 < width ∧ 0 < height ∧ 32 ≤ 32 ∧ 4 * width * height < 2 ^ 32 :=
    ⟨hsize.1, hsize.2.1, Nat.le_refl 32, hsize.2.2⟩
  simp only [DrmCrtc.grant, Kernel.checked, DrmCrtc.dumbRequest, if_pos hreq, Kernel.scripted,
    if_true, Option.isSome_some]

/-- The mode of a display is changed. -/
theorem framed_of_run_one_display : ∃ e₀ h₀ e h,
    new ⟨1920, 1080⟩ (.checked fun _ => .oneDisplay) [] = .ok (e₀, h₀) ∧
      Run (Step (.checked fun _ => .oneDisplay)) (e₀, h₀) [(.changeMode 1280 720 0 0, 1)] (e, h) ∧
      e.crtcs.map (fun c => (c.max, c.boHandle.map (·.pitch))) = [(⟨1280, 720⟩, some 5120)] ∧
      Framed e.crtcs ∧ ∀ c ∈ e.crtcs, ∀ bo ∈ c.boHandle, bo.handle ∈ liveBos h := by
  let k : Kernel := .checked fun _ => .oneDisplay
  have hrun : (new ⟨1920, 1080⟩ k []).map (fun s =>
      (s.1.changeMode 1280 720 0 0 k s.2).map fun r =>
        (r.1.1, r.1.2.crtcs.map fun c => (c.max, c.boHandle.map (·.pitch)))) =
        .ok (.ok (1, [(⟨1280, 720⟩, some 5120)])) := by
    decide +kernel
  obtain ⟨⟨e₀, h₀⟩, hnew, hchange⟩ := Prog.exists_of_map_eq_ok hrun
  obtain ⟨⟨⟨ret, e⟩, h⟩, hchange, hobs⟩ := Prog.exists_of_map_eq_ok hchange
  obtain ⟨rfl, hcrtcs⟩ := Prod.mk.inj hobs
  have hstep : Step k (e₀, h₀) (.changeMode 1280 720 0 0, 1) (e, h) := hchange
  have hgrants : Grants k (e₀, h₀) (.changeMode 1280 720 0 0, 1) := by
    intro t conns h₁ _
    exact .inr (grant_checked _ _ _ (by omega))
  have hkeeps : KeepsFrames k (e₀, h₀) (.changeMode 1280 720 0 0, 1) := ⟨hgrants, trivial⟩
  have hsane : k.Sane :=
    ⟨fun _ _ => Card.oneDisplay_sane, fun _ => List.nodup_singleton _⟩
  exact ⟨e₀, h₀, e, h, hnew, .step .nil hstep, hcrtcs, framed_of_run (Kernel.checked_fresh _)
    (Kernel.checked_ample _) hsane hnew (.step .nil ⟨hkeeps, hstep⟩)⟩

/-! ## The test program -/

/-- The search of `main` for a CRTC reads through all pointers up to the one it finds. -/
def findTestCrtc (id : ℕ) : List DrmCrtc → Except PaintFault (Option DrmCrtc)
  | [] => .ok none
  | c :: cs =>
    match c.mCrtc with
    | none => .error .nullDeref
    | some crtc => if crtc.crtcId = id then .ok (some c) else findTestCrtc id cs

/-- The CRTC that `main` paints on, none without a primary device. It reads the first
    connector and the CRTC that it found without a check, and asks for the framebuffer of
    the third CRTC. -/
def testCrtc (e : DRIElements) : Except PaintFault (Option DrmCrtc) :=
  if e.mPrimaryDev = "" then .ok none
  else
    match e.primary.connectorList with
    | [] => .error .endDeref
    | conn :: _ => do
      match ← findTestCrtc conn.crtcId e.primary.crtcList with
      | none => .error .endDeref
      | some crtc => if e.primary.crtcList.length ≤ 2 then .error .outOfRange else .ok (some crtc)

/-- `main` of `tests/main.cpp`, after the constructor. A new `struct bo` is not mapped. -/
def testMain (e : DRIElements) : Paint (Option MappedBo) := do
  match ← .lift e.testCrtc with
  | none => pure none
  | some crtc =>
    fillPattern defaultPixelFormat (crtc.boHandle.map ({ bo := · })) crtc.max.w crtc.max.h .tiles

theorem mem_of_findTestCrtc {id : ℕ} {cs : List DrmCrtc} {c : DrmCrtc}
    (hfind : findTestCrtc id cs = .ok (some c)) : c ∈ cs := by
  induction cs with
  | nil => cases hfind
  | cons c' cs ih =>
    rw [findTestCrtc] at hfind
    split at hfind
    · cases hfind
    · split at hfind
      · cases hfind
        exact .head _
      · exact .tail _ (ih hfind)

theorem mem_primary_of_testCrtc {c : DrmCrtc} (hc : e.testCrtc = .ok (some c)) :
    c ∈ e.primary.crtcList := by
  rw [testCrtc] at hc
  split at hc
  · cases hc
  split at hc
  · cases hc
  next conn conns _ =>
    cases hfind : findTestCrtc conn.crtcId e.primary.crtcList with
    | error f =>
      rw [hfind] at hc
      cases hc
    | ok found =>
      rw [hfind, Except.ok_bind] at hc
      cases found with
      | none => cases hc
      | some c' =>
        dsimp only at hc
        split at hc
        · cases hc
        · cases hc
          exact mem_of_findTestCrtc hfind

theorem mem_crtcs_of_primary {c : DrmCrtc} (hc : c ∈ e.primary.crtcList) : c ∈ e.crtcs := by
  obtain ⟨before, after, heq, _⟩ := exists_crtcs_eq e e.mPrimaryDev
  rw [heq]
  exact List.mem_append_left _ (List.mem_append_right _ hc)

/-- What the table says of the format that is scanned out. -/
def defaultInfo : FormatInfo := makeRgbInfo defaultPixelFormat "XR24" 8 16 8 8 8 0 0 0

/-- The kernel does not map the buffer. -/
def Unmapped (m : Mapper) (l : List MemEvent) (bo : Bo) : Prop :=
  ∀ map bo' l', boMap { bo := bo } m l = .ok ((.ok map, bo'), l') → map = 0

/-- Tiles in a buffer that an image of the size is in: all of it shows them, or no byte
    is stored. -/
theorem fillPattern_tiles_frames {bo : Bo} {size : Size} (hbo : bo.Frames size)
    (h16 : size.w < 2 ^ 16 ∧ size.h < 2 ^ 16) (m : Mapper) (l : List MemEvent) :
    (Unmapped m l bo ∧
      ∃ bo' new, fillPattern defaultPixelFormat (some { bo := bo }) size.w size.h .tiles m l =
        .ok (bo', new ++ l) ∧ ∀ a, ¬ StoresAt new a) ∨
    ∃ map l' new, boMap { bo := bo } m l = .ok ((.ok map, ⟨bo, map⟩), l') ∧
      fillPattern defaultPixelFormat (some { bo := bo }) size.w size.h .tiles m l =
        .ok (some ⟨bo, map⟩, new ++ l') ∧
      ValRpi.Shows new defaultInfo.rgb 4 map bo.pitch size.w size.h
        (tileColor (tileAlpha 4 size.w size.h) size.w) ∧
      StoresIn map (map + bo.size) new := by
  have hinfo : defaultInfo ∈ formatInfo := by decide +kernel
  have hproper : Proper size.w size.h := ⟨hbo.width_pos, h16.1, hbo.height_pos, h16.2⟩
  obtain ⟨r, l', hmap, hmapped⟩ := exists_boMap m l { bo := bo }
  have hunmapped (hr : ∀ map, r.1 = .ok map → map = 0) : Unmapped m l bo := by
    intro map bo' l'' hmap'
    rw [hmap, Except.ok.injEq, Prod.mk.injEq] at hmap'
    exact hr map (congrArg Prod.fst hmap'.1)
  cases hmapped with
  | refused _ =>
    refine .inl ⟨hunmapped fun map h => (by cases h), some { bo := bo },
      [.mapDumb bo.fd bo.handle none], ?_, ?_⟩
    · rw [fillPattern, Prog.bind_of_ok hmap]
      rfl
    · simp [StoresAt, Stores.Hits, storedByte]
  | @failed offset _ _ =>
    refine .inl ⟨hunmapped fun map h => (by cases h), some { bo := bo },
      [.mmap bo.fd bo.size offset none, .mapDumb bo.fd bo.handle (some offset)], ?_, ?_⟩
    · rw [fillPattern, Prog.bind_of_ok hmap]
      rfl
    · simp [StoresAt, Stores.Hits, storedByte]
  | @mapped offset map _ _ =>
    rcases eq_or_ne map 0 with rfl | hmap0
    · refine .inl ⟨hunmapped fun map h => (by cases h; rfl), some { bo := bo },
        [.mmap bo.fd bo.size offset (some 0), .mapDumb bo.fd bo.handle (some offset)], ?_, ?_⟩
      · refine (fillPattern_eq hinfo hmap hproper hbo.roomy).trans ?_
        rw [util_tiles hinfo, fillTiles_of_rgb rfl]
        rfl
      · simp [StoresAt, Stores.Hits, storedByte]
    · obtain ⟨new, hfill, hshows⟩ := exists_tiles_rgb hinfo rfl hmap hmap0 hproper hbo.roomy
        (by decide)
      exact .inr ⟨_, _, _, hmap, hfill, hshows,
        storesIn_of_fill hinfo hmap hmap0 hproper hbo.roomy trivial hfill⟩

/-- What the test program can do after the constructor: the choice of the CRTC is a fault;
    or no byte is stored, there being no primary device, or no buffer that the kernel maps;
    or all of the buffer shows tiles, and no byte outside is stored to. -/
theorem testMain_cases (ha : k.Ample) (hnew : new defMode k [] = .ok (e, h))
    (h16 : ∀ c ∈ e.crtcs, c.max.w < 2 ^ 16 ∧ c.max.h < 2 ^ 16) (m : Mapper) (l : List MemEvent) :
    (∃ f, e.testCrtc = .error f ∧ e.testMain m l = .error f) ∨
      ((∀ c, e.testCrtc = .ok (some c) → ∀ bo ∈ c.boHandle, Unmapped m l bo) ∧
        ∃ bo new, e.testMain m l = .ok (bo, new ++ l) ∧ ∀ a, ¬ StoresAt new a) ∨
      ∃ c, e.testCrtc = .ok (some c) ∧ ∃ bo ∈ c.boHandle, ∃ map l' new,
        boMap { bo := bo } m l = .ok ((.ok map, ⟨bo, map⟩), l') ∧
        e.testMain m l = .ok (some ⟨bo, map⟩, new ++ l') ∧
        ValRpi.Shows new defaultInfo.rgb 4 map bo.pitch c.max.w c.max.h
          (tileColor (tileAlpha 4 c.max.w c.max.h) c.max.w) ∧
        StoresIn map (map + bo.size) new := by
  have hnone (bo : Option MappedBo) : ∃ bo' new,
      (pure bo : Paint (Option MappedBo)) m l = .ok (bo', new ++ l) ∧ ∀ a, ¬ StoresAt new a :=
    ⟨bo, [], rfl, by simp [StoresAt, Stores.Hits]⟩
  cases htest : e.testCrtc with
  | error f =>
    refine .inl ⟨f, rfl, ?_⟩
    rw [testMain, htest]
    rfl
  | ok found =>
    refine .inr ?_
    rw [testMain, htest, Prog.bind_of_ok rfl]
    cases found with
    | none => exact .inl ⟨fun c h => (by cases h), hnone none⟩
    | some c =>
      have hchosen {c' : DrmCrtc} (h : Except.ok (some c) = (.ok (some c') : Except PaintFault _)) :
          c' = c := by
        cases h
        rfl
      have hc := mem_crtcs_of_primary (mem_primary_of_testCrtc htest)
      cases hbo : c.boHandle with
      | none =>
        dsimp only
        rw [hbo]
        refine .inl ⟨fun c' h bo hbo' => ?_, hnone none⟩
        rw [hchosen h, hbo] at hbo'
        cases hbo'
      | some bo =>
        dsimp only
        rw [hbo]
        rcases fillPattern_tiles_frames (framed_new ha hnew c hc bo hbo) (h16 c hc) m l with
          ⟨hunmapped, hfill⟩ | ⟨map, l', new, hfill⟩
        · refine .inl ⟨fun c' h bo' hbo' => ?_, hfill⟩
          rw [hchosen h, hbo] at hbo'
          cases hbo'
          exact hunmapped
        · exact .inr ⟨c, rfl, bo, hbo, map, l', new, hfill⟩

theorem three_crtcs_small
    (hmax : e.crtcs.map (·.max) = [⟨1920, 1080⟩, ⟨0, 0⟩, ⟨0, 0⟩]) :
    ∀ c ∈ e.crtcs, c.max.w < 2 ^ 16 ∧ c.max.h < 2 ^ 16 := by
  intro c hc
  have hmem := List.mem_map_of_mem (f := (·.max)) hc
  rw [hmax] at hmem
  simp only [List.mem_cons, List.not_mem_nil, or_false, or_self] at hmem
  rcases hmem with hmem | hmem
  all_goals
    rw [hmem]
    decide

/-- A display on a card with three CRTCs: there is one to paint on. -/
theorem testMain_cases_three_crtcs : ∃ e h,
    new ⟨1920, 1080⟩ (.checked fun _ => .threeCrtcs) [] = .ok (e, h) ∧
      (((∀ c, e.testCrtc = .ok (some c) → ∀ bo ∈ c.boHandle, Unmapped .willing [] bo) ∧
        ∃ bo new, e.testMain .willing [] = .ok (bo, new ++ []) ∧ ∀ a, ¬ StoresAt new a) ∨
        ∃ c, e.testCrtc = .ok (some c) ∧ ∃ bo ∈ c.boHandle, ∃ map l' new,
          boMap { bo := bo } .willing [] = .ok ((.ok map, ⟨bo, map⟩), l') ∧
          e.testMain .willing [] = .ok (some ⟨bo, map⟩, new ++ l') ∧
          ValRpi.Shows new defaultInfo.rgb 4 map bo.pitch c.max.w c.max.h
            (tileColor (tileAlpha 4 c.max.w c.max.h) c.max.w) ∧
          StoresIn map (map + bo.size) new) := by
  let k : Kernel := .checked fun _ => .threeCrtcs
  have hrun : (new ⟨1920, 1080⟩ k []).map (fun s =>
      (s.1.testCrtc.toOption.isSome, s.1.crtcs.map (·.max))) =
        .ok (true, [⟨1920, 1080⟩, ⟨0, 0⟩, ⟨0, 0⟩]) := by
    decide +kernel
  obtain ⟨⟨e, h⟩, hnew, hobs⟩ := Prog.exists_of_map_eq_ok hrun
  obtain ⟨htest, hmax⟩ := Prod.mk.inj hobs
  have h16 := three_crtcs_small hmax
  refine ⟨e, h, hnew,
    (testMain_cases (Kernel.checked_ample _) hnew h16 .willing []).resolve_left ?_⟩
  rintro ⟨f, hf, _⟩
  rw [hf] at htest
  cases htest

theorem pictured_new (hnew : new defMode k [] = .ok (e, h)) : ∀ c ∈ e.crtcs, c.Pictured h := by
  have hreplace {before after : List DrmCrtc} {c c' : DrmCrtc} {h h' : History}
      (hall : ∀ a ∈ before ++ c :: after, a.Pictured h) (hsuf : h <:+ h') (hc' : c'.Pictured h') :
      ∀ a ∈ before ++ c' :: after, a.Pictured h' := by
    have hmono {a : DrmCrtc} (ha : a.Pictured h) : a.Pictured h' := by
      intro bo hbo
      obtain ⟨fd, hmade⟩ := ha bo hbo
      exact ⟨fd, hsuf.subset hmade⟩
    exact Lists.forall_mem_middle.2
      ⟨hc', fun a ha => hmono ((Lists.forall_mem_middle.1 hall).2 a ha)⟩
  refine crtcs_new (fun cs h => ∀ c ∈ cs, c.Pictured h) (fun cs h hblank _ c hc bo hbo => ?_)
    (fun cs new h _ hall c hc bo hbo => ?_)
    (fun before c c' after h hbare hcc' hall => hreplace hall (List.suffix_refl h) ?_)
    (fun before c after h fd m ret c' h' hbare hm hall => hreplace hall hm.suffix ?_) hnew
  · rw [(hblank c hc).boHandle] at hbo
    cases hbo
  · obtain ⟨fd, hmade⟩ := hall c hc bo hbo
    exact ⟨fd, List.mem_append_right _ hmade⟩
  · intro bo hbo
    rw [(hcc'.refit.bare hbare).boHandle] at hbo
    cases hbo
  · intro bo hbo
    cases hm with
    | refused _ =>
      rw [hbare.boHandle] at hbo
      cases hbo
    | granted _ =>
      cases hbo
      exact ⟨fd, .tail _ (.head _)⟩

/-- The buffer that the test program paints, if the kernel maps it: it shows tiles, it is
    alive, and the framebuffer of the CRTC takes all its pixels from there. -/
theorem testMain_pictured (hk : k.Fresh) (ha : k.Ample) (hnew : new defMode k [] = .ok (e, h))
    (h16 : ∀ c ∈ e.crtcs, c.max.w < 2 ^ 16 ∧ c.max.h < 2 ^ 16) {c : DrmCrtc}
    (hc : e.testCrtc = .ok (some c)) {bo : Bo} (hbo : bo ∈ c.boHandle) {m : Mapper}
    {l l' : List MemEvent} {map : ℕ}
    (hmap : boMap { bo := bo } m l = .ok ((.ok map, ⟨bo, map⟩), l')) (hne : map ≠ 0) :
    (∃ new, e.testMain m l = .ok (some ⟨bo, map⟩, new ++ l') ∧
      ValRpi.Shows new defaultInfo.rgb 4 map bo.pitch c.max.w c.max.h
        (tileColor (tileAlpha 4 c.max.w c.max.h) c.max.w)) ∧
    bo.handle ∈ liveBos h ∧ c.scanoutFbId ∈ liveFbs h ∧
      ∃ fd, .addFB2 (DrmCrtc.fbRequest fd c.max.w c.max.h ⟨bo.handle, bo.pitch, bo.size⟩)
        (some c.scanoutFbId) ∈ h := by
  have hmem := mem_crtcs_of_primary (mem_primary_of_testCrtc hc)
  obtain ⟨hbolive, hfblive, _⟩ := (owns_new hk hnew).alive hmem hbo
  refine ⟨?_, hbolive, hfblive, pictured_new hnew c hmem bo hbo⟩
  rw [testMain, hc, Prog.bind_of_ok rfl]
  dsimp only
  rw [hbo]
  rcases fillPattern_tiles_frames (framed_new ha hnew c hmem bo hbo) (h16 c hmem) m l with
    ⟨hunmapped, _⟩ | ⟨map', l'', new, hmap', hfill, hshows, _⟩
  · exact absurd (hunmapped map ⟨bo, map⟩ l' hmap) hne
  · obtain ⟨hret, rfl⟩ := Prod.mk.inj (Except.ok.inj (hmap.symm.trans hmap'))
    obtain rfl := Except.ok.inj (Prod.mk.inj hret).1
    exact ⟨new, hfill, hshows⟩

/-- Tiles on the only display of a card with three CRTCs. -/
theorem testMain_pictured_three_crtcs : ∃ e h c, ∃ bo : Bo, ∃ l',
    new ⟨1920, 1080⟩ (.checked fun _ => .threeCrtcs) [] = .ok (e, h) ∧
      e.testCrtc = .ok (some c) ∧
      (∃ new, e.testMain .willing [] = .ok (some ⟨bo, 4096⟩, new ++ l') ∧
        ValRpi.Shows new defaultInfo.rgb 4 4096 bo.pitch c.max.w c.max.h
          (tileColor (tileAlpha 4 c.max.w c.max.h) c.max.w)) ∧
      bo.handle ∈ liveBos h ∧ c.scanoutFbId ∈ liveFbs h := by
  let k : Kernel := .checked fun _ => .threeCrtcs
  have hrun : (new ⟨1920, 1080⟩ k []).map (fun s =>
      (s.1.testCrtc.toOption.bind (·.map fun c => c.boHandle.isSome), s.1.crtcs.map (·.max))) =
        .ok (some true, [⟨1920, 1080⟩, ⟨0, 0⟩, ⟨0, 0⟩]) := by
    decide +kernel
  obtain ⟨⟨e, h⟩, hnew, hobs⟩ := Prog.exists_of_map_eq_ok hrun
  obtain ⟨htest, hmax⟩ := Prod.mk.inj hobs
  obtain ⟨found, hfound, hfound'⟩ := Option.bind_eq_some_iff.1 htest
  obtain ⟨c, rfl, hsome⟩ := Option.map_eq_some_iff.1 hfound'
  obtain ⟨bo, hbo⟩ := Option.isSome_iff_exists.1 hsome
  have htest : e.testCrtc = .ok (some c) := by
    cases hcase : e.testCrtc with
    | error f =>
      rw [hcase] at hfound
      cases hfound
    | ok found =>
      rw [hcase] at hfound
      cases hfound
      rfl
  have h16 := three_crtcs_small hmax
  obtain ⟨hpaint, hbolive, hfblive, _⟩ := testMain_pictured (Kernel.checked_fresh _)
    (Kernel.checked_ample _) hnew h16 htest hbo (m := .willing) (l := []) rfl
    (Nat.succ_ne_zero 4095)
  exact ⟨e, h, c, bo, _, hnew, htest, hpaint, hbolive, hfblive⟩

end DRIElements

end ValRpi
