import Mathlib.Algebra.Order.Group.Multiset
import ValRpi.Footprints
import ValRpi.Lib.Ledger
import ValRpi.Lib.Run

/-!
# Runs over mapped buffers

What `bo_map`, `bo_unmap`, `bo_destroy` and `fill_pattern` do to the mappings of a
process, in any order and on any number of buffers. No call checks whether the buffer is
mapped already, and `bo_destroy` does not unmap it.

* `mapped_of_run`: only what is mapped is ever unmapped; what is mapped are the regions of
  the buffers and those that a step lost (`BoOp.lost`);
* `guarded_of_run`: if all images fit their buffer, no store misses the memory that is
  mapped;
* `byteAt_of_run`: as long as nothing is done to a buffer, its bytes stay.
-/

namespace ValRpi

variable {m : Mapper} {l l' : List MemEvent}

theorem MemEvent.IsStore.idle {e : MemEvent} (he : e.IsStore) :
    Leases.Idle mapsRegion unmapsRegion e := by
  obtain ⟨addr, byte, rfl⟩ := he
  exact ⟨rfl, rfl⟩

/-! ## Painting -/

/-- Painting only stores. -/
theorem logs_utilFillPattern (format : Format) (pattern : FillPattern) (planes : Planes)
    (width height stride : ℕ) :
    Prog.Logs MemEvent.IsStore (utilFillPattern format pattern planes width height stride) := by
  cases hfind : utilFormatInfoFind format with
  | none =>
    rw [utilFillPattern, hfind]
    exact .pure _
  | some info =>
    obtain ⟨hinfo, rfl⟩ := utilFormatInfoFind_eq_some_iff.1 hfind
    cases pattern with
    | tiles =>
      rw [util_tiles hinfo]
      cases hkind : info.format.kind with
      | rgb => exact fillTiles_of_rgb hkind _ _ _ _ ▸ logs_fillTilesRgb _ _ _ _ _ _ _
      | packed => exact fillTiles_of_packed hkind _ _ _ _ ▸ logs_fillTilesYuvPacked _ _ _ _ _
      | planar =>
        exact fillTiles_of_planar hinfo hkind _ _ _ _ ▸ logs_fillTilesYuvPlanar _ _ _ _ _ _ _
      | unknown => exact absurd hkind (kind_ne hinfo)
    | smpte =>
      rw [util_smpte hinfo]
      cases hkind : info.format.kind with
      | rgb => exact fillSmpte_of_rgb hkind _ _ _ _ ▸ logs_fillSmpteRgb _ _ _ _ _ _ _ _
      | packed => exact fillSmpte_of_packed hkind _ _ _ _ ▸ logs_fillSmpteYuvPacked _ _ _ _ _
      | planar =>
        exact fillSmpte_of_planar hinfo hkind _ _ _ _ ▸ logs_fillSmpteYuvPlanar _ _ _ _ _ _ _
      | unknown => exact absurd hkind (kind_ne hinfo)
    | plain =>
      rw [util_plain hinfo, fillPlain]
      split
      · exact .fault _
      · exact .bind (.forUp (fun _ _ => logs_store _ _) _ _ _ _) fun _ => .pure _

/-- `fillPattern` maps the buffer, and stores. -/
theorem fillPattern_eq_ok {format : Format} {bo : MappedBo} {width height : ℕ}
    {pattern : FillPattern} {log : List MemEvent} {r : Option MappedBo}
    (h : fillPattern format (some bo) width height pattern m l = .ok (r, log)) :
    ∃ ret bo' l' new, boMap bo m l = .ok ((ret, bo'), l') ∧ r = some bo' ∧ log = new ++ l' ∧
      ∀ e ∈ new, e.IsStore := by
  rw [fillPattern] at h
  obtain ⟨⟨ret, bo'⟩, l', hmap, h⟩ := Prog.bind_eq_ok.1 h
  cases ret with
  | error ret =>
    cases h
    exact ⟨_, _, _, [], hmap, rfl, rfl, by simp⟩
  | ok map =>
    dsimp only at h
    obtain ⟨_, l'', hpaint, h⟩ := Prog.bind_eq_ok.1 h
    obtain ⟨new, rfl, hnew⟩ := logs_utilFillPattern _ _ _ _ _ _ _ _ _ _ hpaint
    cases h
    exact ⟨_, _, _, new, hmap, rfl, rfl, hnew⟩

/-! ## The program -/

/-- `bo_destroy`: the memory of the buffer stays mapped. -/
def boDestroyMapped (bo : MappedBo) : Paint Unit :=
  .call (fun _ _ => ()) fun _ => .destroyDumb bo.bo.fd bo.bo.handle

/-- What is done to the buffers, which are numbered as they are created. -/
inductive BoOp
  | create (bo : Bo)
  | map (i : ℕ)
  | unmap (i : ℕ)
  | fill (i : ℕ) (format : Format) (width height : ℕ) (pattern : FillPattern)
  | destroy (i : ℕ)
  deriving DecidableEq, Repr

/-- The buffers, none for one that was freed. -/
abbrev Bos := List (Option MappedBo)

/-- Something is done to a buffer. One that was freed is read after this. -/
def onBo (bos : Bos) (i : ℕ) (f : MappedBo → Paint (Option MappedBo)) : Paint Bos :=
  match bos[i]?.join with
  | none => .fault .nullDeref
  | some bo => do
    let bo ← f bo
    pure (bos.set i bo)

/-- A new `struct bo` is not mapped. -/
def BoOp.run (bos : Bos) : BoOp → Paint Bos
  | .create bo => pure (bos ++ [some { bo := bo }])
  | .map i => onBo bos i fun bo => do
    let (_, bo) ← boMap bo
    pure (some bo)
  | .unmap i => onBo bos i fun bo => do
    let bo ← boUnmap bo
    pure (some bo)
  | .fill i format width height pattern => onBo bos i fun bo =>
    fillPattern format (some bo) width height pattern
  | .destroy i => onBo bos i fun bo => do
    boDestroyMapped bo
    pure none

/-- The memory of a buffer. -/
def MappedBo.region (bo : MappedBo) : Option Region :=
  if bo.ptr = 0 then none else some ⟨bo.ptr, bo.bo.size⟩

def regionOf (bo : Option MappedBo) : Option Region := bo.bind MappedBo.region

/-- The regions that the buffers know of. -/
abbrev regions (bos : Bos) : Multiset Region := Ledger.heldBy regionOf bos

/-- The kernel maps the buffer. -/
def MappedBo.maps (bo : MappedBo) (m : Mapper) (l : List MemEvent) : Bool :=
  match boMap bo m l with
  | .ok ((.ok _, _), _) => true
  | _ => false

/-- The mapping that nobody knows of after the step: that of a buffer that is mapped again,
    or freed. -/
def BoOp.lost (m : Mapper) (s : Bos × List MemEvent) : BoOp → Option Region
  | .create _ | .unmap _ => none
  | .map i | .fill i _ _ _ _ =>
    s.1[i]?.join.bind fun bo => if bo.maps m s.2 then bo.region else none
  | .destroy i => s.1[i]?.join.bind MappedBo.region

/-- A step, with what it loses. -/
def BoStep (m : Mapper) (s : Bos × List MemEvent) (op : BoOp × Option Region)
    (s' : Bos × List MemEvent) : Prop :=
  op.1.run s.1 m s.2 = .ok s' ∧ op.2 = op.1.lost m s

/-! ## One step -/

/-- At most one region. -/
abbrev Region.opt (r : Option Region) : Multiset Region := (r.toList : Multiset Region)

theorem regions_split (before after : Bos) (bo : Option MappedBo) :
    regions (before ++ bo :: after) = Region.opt (regionOf bo) + regions (before ++ after) := by
  cases hr : regionOf bo with
  | none =>
    rw [regions, Ledger.heldBy_none hr]
    exact (Multiset.zero_add _).symm
  | some r =>
    rw [regions, Ledger.heldBy_some hr]
    exact (Multiset.singleton_add r _).symm

theorem onBo_eq_ok {bos bos' : Bos} {i : ℕ} {f : MappedBo → Paint (Option MappedBo)}
    (h : onBo bos i f m l = .ok (bos', l')) :
    ∃ before bo after bo', bos = before ++ some bo :: after ∧ before.length = i ∧
      f bo m l = .ok (bo', l') ∧ bos' = before ++ bo' :: after := by
  rw [onBo] at h
  cases hbo : bos[i]?.join with
  | none =>
    rw [hbo] at h
    cases h
  | some bo =>
    rw [hbo] at h
    obtain ⟨hi, hbo⟩ := List.getElem?_eq_some_iff.1 (Option.join_eq_some_iff.1 hbo)
    obtain ⟨bo', l₁, hf, h⟩ := Prog.bind_eq_ok.1 h
    cases h
    have hsplit := List.take_append_drop i bos
    rw [List.drop_eq_getElem_cons hi, hbo] at hsplit
    have hlen : (bos.take i).length = i := by
      rw [List.length_take, Nat.min_eq_left hi.le]
    refine ⟨bos.take i, bo, bos.drop (i + 1), bo', hsplit.symm, hlen, hf, ?_⟩
    exact List.set_eq_take_append_cons_drop.trans (if_pos hi)

/-- What is tracked of a buffer, before a step and after it. -/
def Keeps (l : List MemEvent) (region : Option Region) (l' : List MemEvent)
    (region' lost : Option Region) : Prop :=
  ∀ rest, Leases.Tracks mapsRegion unmapsRegion l (Region.opt region + rest) →
    Leases.Tracks mapsRegion unmapsRegion l' (Region.opt region' + Region.opt lost + rest)

theorem maps_eq {bo bo' : MappedBo} {ret : Except Failure ℕ}
    (h : boMap bo m l = .ok ((ret, bo'), l')) : bo.maps m l = ret.toOption.isSome := by
  rw [MappedBo.maps, h]
  cases ret <;> rfl

theorem idle_mapDumb (fd : ℤ) (handle : ℕ) (offset : Option ℕ) :
    Leases.Idle mapsRegion unmapsRegion (.mapDumb fd handle offset) := ⟨rfl, rfl⟩

/-- A buffer that is mapped gets another region; the one that it had is lost. -/
theorem keeps_boMap (hm : m.Fresh) {bo bo' : MappedBo} {ret : Except Failure ℕ}
    (h : boMap bo m l = .ok ((ret, bo'), l')) :
    Keeps l bo.region l' bo'.region (if bo.maps m l then bo.region else none) := by
  intro rest ht
  rw [maps_eq h]
  cases mapped_of_boMap h with
  | refused _ => simpa [Except.toOption] using ht.idle (idle_mapDumb _ _ _)
  | failed _ _ =>
    simpa [Except.toOption] using (ht.idle (idle_mapDumb _ _ _)).idle ⟨rfl, rfl⟩
  | @mapped offset map _ hmmap =>
    have hlog : Leases.Tracks mapsRegion unmapsRegion
        (.mmap bo.bo.fd bo.bo.size offset (some map) ::
          .mapDumb bo.bo.fd bo.bo.handle (some offset) :: l)
        (⟨map, bo.bo.size⟩ ::ₘ (Region.opt bo.region + rest)) :=
      (ht.idle (idle_mapDumb _ _ _)).acquire rfl rfl
    have hregion : MappedBo.region { bo with ptr := map } = some ⟨map, bo.bo.size⟩ :=
      if_neg (hm.ne_zero _ _ _ _ _ hmmap)
    rw [hregion, Multiset.add_assoc]
    exact hlog

theorem keeps_boUnmap {bo bo' : MappedBo} (h : boUnmap bo m l = .ok (bo', l')) :
    Keeps l bo.region l' bo'.region none := by
  intro rest ht
  rw [boUnmap] at h
  split at h
  next hptr =>
    cases h
    simpa using ht
  next hptr =>
    cases h
    have hregion : bo.region = some ⟨bo.ptr, bo.bo.size⟩ := if_neg hptr
    rw [hregion] at ht
    have hlog := ht.release (e := .munmap bo.ptr bo.bo.size) rfl rfl
    simpa [MappedBo.region] using hlog

theorem keeps_fillPattern (hm : m.Fresh) {bo : MappedBo} {bo' : Option MappedBo} {format : Format}
    {width height : ℕ} {pattern : FillPattern}
    (h : fillPattern format (some bo) width height pattern m l = .ok (bo', l')) :
    Keeps l bo.region l' (regionOf bo') (if bo.maps m l then bo.region else none) := by
  obtain ⟨ret, bo', l₁, new, hmap, rfl, rfl, hnew⟩ := fillPattern_eq_ok h
  exact fun rest ht => (keeps_boMap hm hmap rest ht).append_idle fun e he => (hnew e he).idle

theorem keeps_boDestroyMapped {bo : MappedBo} (h : boDestroyMapped bo m l = .ok ((), l')) :
    Keeps l bo.region l' none bo.region := by
  intro rest ht
  cases h
  exact ht.idle ⟨rfl, rfl⟩

/-- What is tracked, where something is done to one buffer. -/
theorem tracks_onBo {bos bos' : Bos} {i : ℕ} {f : MappedBo → Paint (Option MappedBo)}
    {lost : Option Region} {known : Multiset Region} (h : onBo bos i f m l = .ok (bos', l'))
    (hkeeps : ∀ bo bo', bos[i]?.join = some bo → f bo m l = .ok (bo', l') →
      Keeps l bo.region l' (regionOf bo') lost)
    (ht : Leases.Tracks mapsRegion unmapsRegion l (regions bos + known)) :
    Leases.Tracks mapsRegion unmapsRegion l' (regions bos' + (Region.opt lost + known)) := by
  obtain ⟨before, bo, after, bo', rfl, rfl, hf, rfl⟩ := onBo_eq_ok h
  rw [regions_split, Multiset.add_assoc] at ht
  rw [regions_split, add_add_add_comm]
  exact hkeeps bo bo' (by simp) hf _ ht

/-- What is mapped after a step are the regions of the buffers, and what was lost. -/
theorem tracks_step (hm : m.Fresh) {s s' : Bos × List MemEvent} {op : BoOp × Option Region}
    {known : Multiset Region} (hs : BoStep m s op s')
    (ht : Leases.Tracks mapsRegion unmapsRegion s.2 (regions s.1 + known)) :
    Leases.Tracks mapsRegion unmapsRegion s'.2
      (regions s'.1 + (Region.opt op.2 + known)) := by
  obtain ⟨hrun, hlost⟩ := hs
  rw [hlost]
  cases hop : op.1 with
  | create bo =>
    rw [hop] at hrun
    cases hrun
    have hregion : regionOf (some { bo := bo }) = none := rfl
    have hlost : Region.opt (BoOp.lost m s (.create bo)) + known = known := Multiset.zero_add known
    rw [hlost, regions, Ledger.heldBy_none hregion, List.append_nil]
    exact ht
  | map i =>
    rw [hop] at hrun
    refine tracks_onBo hrun (fun bo bo' hbo hf => ?_) ht
    obtain ⟨⟨ret, bo'⟩, l', hmap, hf⟩ := Prog.bind_eq_ok.1 hf
    cases hf
    rw [BoOp.lost, hbo]
    exact keeps_boMap hm hmap
  | unmap i =>
    rw [hop] at hrun
    refine tracks_onBo hrun (fun bo bo' _ hf => ?_) ht
    obtain ⟨bo', l', hunmap, hf⟩ := Prog.bind_eq_ok.1 hf
    cases hf
    exact keeps_boUnmap hunmap
  | fill i format width height pattern =>
    rw [hop] at hrun
    refine tracks_onBo hrun (fun bo bo' hbo hf => ?_) ht
    rw [BoOp.lost, hbo]
    exact keeps_fillPattern hm hf
  | destroy i =>
    rw [hop] at hrun
    refine tracks_onBo hrun (fun bo bo' hbo hf => ?_) ht
    obtain ⟨_, l', hdestroy, hf⟩ := Prog.bind_eq_ok.1 hf
    cases hf
    rw [BoOp.lost, hbo]
    exact keeps_boDestroyMapped hdestroy

/-! ## Runs -/

section Runs

variable {bos bos' : Bos} {ops : List (BoOp × Option Region)}

/-- What the steps lost. -/
def lostBy (ops : List (BoOp × Option Region)) : Multiset Region :=
  (ops.filterMap Prod.snd : List _)

theorem lostBy_cons (op : BoOp × Option Region) (ops : List (BoOp × Option Region)) :
    lostBy (op :: ops) = Region.opt op.2 + lostBy ops := by
  obtain ⟨op, lost⟩ := op
  cases lost with
  | none => exact (Multiset.zero_add _).symm
  | some r => simp [lostBy]

theorem tracks_of_run (hm : m.Fresh) (hrun : Run (BoStep m) ([], []) ops (bos, l)) :
    Leases.Tracks mapsRegion unmapsRegion l (regions bos + lostBy ops) := by
  refine hrun.ghost (fun ops s =>
    Leases.Tracks mapsRegion unmapsRegion s.2 (regions s.1 + lostBy ops)) .nil ?_
  intro ops s op s' ht hs
  rw [lostBy_cons]
  exact tracks_step hm hs ht

/-- In every run, only what is mapped is unmapped, with its size. What is mapped are the
    regions of the buffers, and those that the steps lost. So nothing is lost if and only
    if no step maps or paints a buffer that is mapped, or frees one. -/
theorem mapped_of_run (hm : m.Fresh) (hrun : Run (BoStep m) ([], []) ops (bos, l)) :
    Leases.Sound mapsRegion unmapsRegion l ∧
      (mapped l : Multiset Region) = regions bos + lostBy ops ∧
      ((mapped l : Multiset Region) = regions bos ↔ ∀ op ∈ ops, op.2 = none) := by
  obtain ⟨hsound, hheld⟩ := tracks_of_run hm hrun
  refine ⟨hsound, hheld, ?_⟩
  rw [hheld, add_eq_left, lostBy, Multiset.coe_eq_zero, List.filterMap_eq_nil_iff]

/-- A buffer that is painted twice: its first mapping is lost. -/
theorem mapped_of_run_painted_twice : ∃ bos l,
    let ops : List (BoOp × Option Region) := [(.fill 0 .xrgb8888 1 1 .tiles, some ⟨4096, 4⟩),
      (.fill 0 .xrgb8888 1 1 .tiles, none), (.create ⟨3, 4, 4, 1⟩, none)]
    Run (BoStep .willing) ([], []) ops (bos, l) ∧ Leases.Sound mapsRegion unmapsRegion l ∧
      (mapped l : Multiset Region) = regions bos + lostBy ops ∧
      ((mapped l : Multiset Region) = regions bos ↔ ∀ op ∈ ops, op.2 = none) := by
  have hrun : Run (BoStep .willing) ([], [])
      [(.fill 0 .xrgb8888 1 1 .tiles, some ⟨4096, 4⟩), (.fill 0 .xrgb8888 1 1 .tiles, none),
        (.create ⟨3, 4, 4, 1⟩, none)] (_, _) :=
    .step (.step (.step .nil ⟨rfl, rfl⟩) ⟨rfl, rfl⟩) ⟨rfl, rfl⟩
  exact ⟨_, _, hrun, mapped_of_run Mapper.willing_fresh hrun⟩

end Runs

/-! ## Stores -/

/-- Where an event stores. -/
def storedAddr (e : MemEvent) : Option ℕ := (storedByte e).map Prod.fst

theorem storesAt_of_storedAddr {new : List MemEvent} {e : MemEvent} {a : ℕ} (he : e ∈ new)
    (ha : storedAddr e = some a) : StoresAt new a := by
  obtain ⟨⟨a', byte⟩, hbyte, rfl⟩ := Option.map_eq_some_iff.1 ha
  exact ⟨e, he, byte, hbyte⟩

/-- Every store goes to memory that is mapped. -/
abbrev Guarded (l : List MemEvent) : Prop :=
  Leases.Guarded mapsRegion unmapsRegion storedAddr Region.Has l

/-- The image that is painted, if its format is known, fits the buffer, and its chroma is
    sampled a whole number of times. -/
def BoOp.Fits (s : Bos × List MemEvent) (op : BoOp × Option Region) : Prop :=
  match op.1 with
  | .fill i format width height _ =>
    ∀ bo ∈ s.1[i]?.join, ∀ info ∈ formatInfo, info.format = format →
      Proper width height ∧ Roomy format bo.bo width height ∧ info.Whole width height
  | _ => True

/-- Painting an image that fits stores to the new mapping of the buffer only. -/
theorem storesAt_fillPattern (hm : m.Fresh) {bo : MappedBo} {bo' : Option MappedBo}
    {format : Format} {width height : ℕ} {pattern : FillPattern}
    (hfits : ∀ info ∈ formatInfo, info.format = format →
      Proper width height ∧ Roomy format bo.bo width height ∧ info.Whole width height)
    (h : fillPattern format (some bo) width height pattern m l = .ok (bo', l')) :
    ∃ ret bo' l₁ new, boMap bo m l = .ok ((ret, bo'), l₁) ∧ l' = new ++ l₁ ∧
      (∀ e ∈ new, e.IsStore) ∧
      ∀ a, StoresAt new a → ∃ map, ret = .ok map ∧ Region.Has ⟨map, bo.bo.size⟩ a := by
  have hfill := h
  rw [fillPattern] at h
  obtain ⟨⟨ret, bo₁⟩, l₁, hmap, h⟩ := Prog.bind_eq_ok.1 h
  have hnothing : ∃ ret bo' l₂ new, boMap bo m l = .ok ((ret, bo'), l₂) ∧ l₁ = new ++ l₂ ∧
      (∀ e ∈ new, e.IsStore) ∧
      ∀ a, StoresAt new a → ∃ map, ret = .ok map ∧ Region.Has ⟨map, bo.bo.size⟩ a :=
    ⟨ret, bo₁, l₁, [], hmap, rfl, by simp, by simp [StoresAt, Stores.Hits]⟩
  cases ret with
  | error ret =>
    cases h
    exact hnothing
  | ok map =>
    dsimp only at h
    obtain ⟨_, l₂, hpaint, h⟩ := Prog.bind_eq_ok.1 h
    cases h
    cases hfind : utilFormatInfoFind format with
    | none =>
      rw [utilFillPattern, hfind] at hpaint
      cases hpaint
      exact hnothing
    | some info =>
      obtain ⟨hinfo, rfl⟩ := utilFormatInfoFind_eq_some_iff.1 hfind
      obtain ⟨hproper, hroom, hwhole⟩ := hfits info hinfo rfl
      obtain ⟨new, rfl, hnew⟩ := logs_utilFillPattern _ _ _ _ _ _ _ _ _ _ hpaint
      have hmap0 : map ≠ 0 := by
        cases mapped_of_boMap hmap with
        | mapped _ hmmap => exact hm.ne_zero _ _ _ _ _ hmmap
      have hin := storesIn_of_fill hinfo hmap hmap0 hproper hroom hwhole hfill
      exact ⟨_, _, _, new, hmap, rfl, hnew, fun a ha =>
        ⟨map, rfl, Stores.only_iff_hits.1 hin a ha⟩⟩

/-- Mapping a buffer stores nothing. What was mapped stays, and so does what was stored. -/
theorem frame_boMap {bo bo' : MappedBo} {ret : Except Failure ℕ}
    (h : boMap bo m l = .ok ((ret, bo'), l')) :
    (Guarded l → Guarded l') ∧ (∀ a, byteAt l' a = byteAt l a) ∧
      ∀ map, ret = .ok map → mapped l' = ⟨map, bo.bo.size⟩ :: mapped l := by
  cases mapped_of_boMap h with
  | refused _ => exact ⟨fun hg => hg.cons rfl, fun _ => rfl, fun map h => by cases h⟩
  | failed _ _ =>
    exact ⟨fun hg => (Leases.Guarded.cons hg rfl).cons rfl, fun _ => rfl, fun map h => by cases h⟩
  | mapped _ _ =>
    refine ⟨fun hg => (Leases.Guarded.cons hg rfl).cons rfl, fun _ => rfl, fun map h => ?_⟩
    cases h
    rfl

/-- The new mapping of a buffer is apart from all that was mapped. -/
theorem apart_boMap (hm : m.Fresh) {bo bo' : MappedBo} {map : ℕ}
    (h : boMap bo m l = .ok ((.ok map, bo'), l')) :
    ∀ r ∈ mapped l, Region.Apart ⟨map, bo.bo.size⟩ r := by
  cases mapped_of_boMap h with
  | @mapped offset _ _ hmmap =>
    intro r hr
    refine hm.apart _ _ _ _ _ hmmap r ?_
    rwa [mapped, Leases.held_idle (idle_mapDumb _ _ _)]

theorem guarded_step (hm : m.Fresh) {s s' : Bos × List MemEvent} {op : BoOp × Option Region}
    (hs : BoStep m s op s') (hfits : BoOp.Fits s op) (hg : Guarded s.2) : Guarded s'.2 := by
  obtain ⟨bos, l⟩ := s
  obtain ⟨bos', l'⟩ := s'
  obtain ⟨hrun, -⟩ := hs
  unfold BoOp.Fits at hfits
  cases hop : op.1 with
  | create bo =>
    rw [hop] at hrun
    cases hrun
    exact hg
  | map i =>
    rw [hop] at hrun
    obtain ⟨before, bo, after, bo', -, -, hf, -⟩ := onBo_eq_ok hrun
    obtain ⟨⟨ret, bo'⟩, l', hmap, hf⟩ := Prog.bind_eq_ok.1 hf
    cases hf
    exact (frame_boMap hmap).1 hg
  | unmap i =>
    rw [hop] at hrun
    obtain ⟨before, bo, after, bo', -, -, hf, -⟩ := onBo_eq_ok hrun
    obtain ⟨bo', l', hunmap, hf⟩ := Prog.bind_eq_ok.1 hf
    cases hf
    rw [boUnmap] at hunmap
    split at hunmap
    · cases hunmap
      exact hg
    · cases hunmap
      exact hg.cons rfl
  | fill i format width height pattern =>
    rw [hop] at hrun hfits
    obtain ⟨before, bo, after, bo', hbos, rfl, hf, -⟩ := onBo_eq_ok hrun
    obtain rfl : bos = before ++ some bo :: after := hbos
    have hbo : (before ++ some bo :: after)[before.length]?.join = some bo := by simp
    obtain ⟨ret, bo', l₁, new, hmap, rfl, hnew, hstores⟩ :=
      storesAt_fillPattern hm (hfits bo hbo) hf
    obtain ⟨hg₁, -, hmapped⟩ := frame_boMap hmap
    refine (hg₁ hg).append_idle (fun e he => (hnew e he).idle) fun e he a ha => ?_
    obtain ⟨map, hret, hin⟩ := hstores a (storesAt_of_storedAddr he ha)
    have hmem : (⟨map, bo.bo.size⟩ : Region) ∈ mapped l₁ := by
      rw [hmapped map hret]
      exact .head _
    exact ⟨_, hmem, hin⟩
  | destroy i =>
    rw [hop] at hrun
    obtain ⟨before, bo, after, bo', -, -, hf, -⟩ := onBo_eq_ok hrun
    obtain ⟨_, l', hdestroy, hf⟩ := Prog.bind_eq_ok.1 hf
    cases hf
    cases hdestroy
    exact hg.cons rfl

/-- In every run whose images fit their buffers, every store goes to memory that is
    mapped at that time. -/
theorem guarded_of_run (hm : m.Fresh) {bos : Bos} {ops : List (BoOp × Option Region)}
    (hrun : Run (Run.when BoOp.Fits (BoStep m)) ([], []) ops (bos, l)) : Guarded l :=
  hrun.invariant (fun s => Guarded s.2) (show Guarded [] from trivial)
    fun _ _ _ hg ⟨hfits, hs⟩ => guarded_step hm hs hfits hg

/-- An image of one pixel fits a buffer of four bytes. -/
theorem fits_pixel {s : Bos × List MemEvent} {i : ℕ} {ptr : ℕ} {pattern : FillPattern}
    {lost : Option Region} (hbo : s.1[i]?.join = some ⟨⟨3, 4, 4, 1⟩, ptr⟩) :
    BoOp.Fits s (.fill i .xrgb8888 1 1 pattern, lost) := by
  intro bo hmem info _ hformat
  have hroom : Roomy .xrgb8888 ⟨3, 4, 4, 1⟩ 1 1 :=
    ⟨by decide, by decide, by decide, fun hkind => by cases hkind⟩
  cases Option.mem_unique hbo hmem
  refine ⟨⟨by decide, by decide, by decide, by decide⟩, hroom, ?_⟩
  rw [FormatInfo.Whole, hformat]
  trivial

theorem guarded_of_run_painted_twice : ∃ bos l,
    Run (Run.when BoOp.Fits (BoStep .willing)) ([], [])
      [(.fill 0 .xrgb8888 1 1 .tiles, some ⟨4096, 4⟩), (.fill 0 .xrgb8888 1 1 .tiles, none),
        (.create ⟨3, 4, 4, 1⟩, none)] (bos, l) ∧ Guarded l := by
  have hrun : Run (Run.when BoOp.Fits (BoStep .willing)) ([], [])
      [(.fill 0 .xrgb8888 1 1 .tiles, some ⟨4096, 4⟩), (.fill 0 .xrgb8888 1 1 .tiles, none),
        (.create ⟨3, 4, 4, 1⟩, none)] (_, _) :=
    .step (.step (.step .nil ⟨trivial, rfl, rfl⟩) ⟨fits_pixel rfl, rfl, rfl⟩)
      ⟨fits_pixel rfl, rfl, rfl⟩
  exact ⟨_, _, hrun, guarded_of_run Mapper.willing_fresh hrun⟩

/-! ## What stays -/

/-- The buffer that something is done to. -/
def BoOp.target : BoOp → Option ℕ
  | .create _ => none
  | .map i | .unmap i | .fill i _ _ _ _ | .destroy i => some i

theorem getElem?_split_ne {before after : Bos} {bo bo' : Option MappedBo} {i : ℕ}
    (hne : i ≠ before.length) :
    (before ++ bo' :: after)[i]? = (before ++ bo :: after)[i]? := by
  rw [List.getElem?_append, List.getElem?_append]
  split
  · rfl
  · obtain ⟨n, hn⟩ := Nat.exists_eq_succ_of_ne_zero (show i - before.length ≠ 0 by omega)
    rw [hn, List.getElem?_cons_succ, List.getElem?_cons_succ]

/-- A step that is done to another buffer leaves a buffer as it is, and its bytes. -/
theorem byteAt_step (hm : m.Fresh) {s s' : Bos × List MemEvent} {op : BoOp × Option Region}
    {known : Multiset Region} {i : ℕ} {bo : MappedBo} {r : Region} (hs : BoStep m s op s')
    (hfits : BoOp.Fits s op)
    (ht : Leases.Tracks mapsRegion unmapsRegion s.2 (regions s.1 + known))
    (hbo : s.1[i]?.join = some bo) (hr : bo.region = some r) (hne : op.1.target ≠ some i) :
    s'.1[i]?.join = some bo ∧ ∀ a, r.Has a → byteAt s'.2 a = byteAt s.2 a := by
  obtain ⟨bos, l⟩ := s
  obtain ⟨bos', l'⟩ := s'
  obtain ⟨hrun, -⟩ := hs
  have hsome : bos[i]? = some (some bo) := Option.join_eq_some_iff.1 hbo
  -- what is done to one buffer, not this one
  have hother {j : ℕ} {f : MappedBo → Paint (Option MappedBo)} (hj : some j ≠ some i)
      (h : onBo bos j f m l = .ok (bos', l')) : bos'[i]?.join = some bo ∧
        ∃ b bo', bos[j]?.join = some b ∧ f b m l = .ok (bo', l') := by
    obtain ⟨before, b, after, bo', rfl, rfl, hf, rfl⟩ := onBo_eq_ok h
    refine ⟨?_, b, bo', by simp, hf⟩
    rw [getElem?_split_ne fun h => hj (h ▸ rfl), hsome]
    rfl
  unfold BoOp.Fits at hfits
  cases hop : op.1 with
  | create b =>
    rw [hop] at hrun
    cases hrun
    have hi : i < bos.length := (List.getElem?_eq_some_iff.1 hsome).1
    refine ⟨?_, fun a _ => rfl⟩
    dsimp only
    rw [List.getElem?_append_left hi]
    exact hbo
  | map j =>
    rw [hop] at hrun hne
    obtain ⟨hsame, b, bo', hb, hf⟩ := hother hne hrun
    obtain ⟨⟨ret, b'⟩, l', hmap, hf⟩ := Prog.bind_eq_ok.1 hf
    cases hf
    exact ⟨hsame, fun a _ => (frame_boMap hmap).2.1 a⟩
  | unmap j =>
    rw [hop] at hrun hne
    obtain ⟨hsame, b, bo', hb, hf⟩ := hother hne hrun
    refine ⟨hsame, fun a _ => ?_⟩
    obtain ⟨b', l', hunmap, hf⟩ := Prog.bind_eq_ok.1 hf
    cases hf
    rw [boUnmap] at hunmap
    split at hunmap <;>
      · cases hunmap
        rfl
  | fill j format width height pattern =>
    rw [hop] at hrun hfits hne
    obtain ⟨hsame, b, bo', hb, hf⟩ := hother hne hrun
    refine ⟨hsame, fun a ha => ?_⟩
    obtain ⟨ret, b', l₁, new, hmap, rfl, hnew, hstores⟩ := storesAt_fillPattern hm (hfits b hb) hf
    have hmem : r ∈ mapped l := by
      rw [← Multiset.mem_coe, ht.held]
      exact Multiset.mem_add.2 (.inl (Ledger.mem_heldBy (List.mem_of_getElem? hsome) hr))
    have hnot : ¬ StoresAt new a := by
      intro h
      obtain ⟨map, rfl, hin⟩ := hstores a h
      exact apart_boMap hm hmap r hmem a hin ha
    have hlast : Stores.last storedByte new a = none :=
      Stores.Only.last (P := StoresAt new) (Stores.only_iff_hits.2 fun _ h => h) hnot
    dsimp only
    rw [byteAt, Stores.last_append, hlast, Option.none_or]
    exact (frame_boMap hmap).2.1 a
  | destroy j =>
    rw [hop] at hrun hne
    obtain ⟨hsame, b, bo', hb, hf⟩ := hother hne hrun
    refine ⟨hsame, fun a _ => ?_⟩
    obtain ⟨_, l', hdestroy, hf⟩ := Prog.bind_eq_ok.1 hf
    cases hf
    cases hdestroy
    rfl

/-- As long as nothing is done to a buffer that is mapped, its bytes stay, whatever is
    done to the others, if the images fit their buffers. -/
theorem byteAt_of_run (hm : m.Fresh) {bos bos' : Bos} {ops ops' : List (BoOp × Option Region)}
    {i : ℕ} {bo : MappedBo} {r : Region} (hrun : Run (BoStep m) ([], []) ops (bos, l))
    (hbo : bos[i]?.join = some bo) (hr : bo.region = some r)
    (hlater : Run (Run.when (fun s op => BoOp.Fits s op ∧ op.1.target ≠ some i) (BoStep m))
      (bos, l) ops' (bos', l')) :
    bos'[i]?.join = some bo ∧ ∀ a, r.Has a → byteAt l' a = byteAt l a := by
  have hkept := hlater.invariant (fun s =>
    (∃ known, Leases.Tracks mapsRegion unmapsRegion s.2 (regions s.1 + known)) ∧
      s.1[i]?.join = some bo ∧ ∀ a, r.Has a → byteAt s.2 a = byteAt l a)
    ⟨⟨_, tracks_of_run hm hrun⟩, hbo, fun _ _ => rfl⟩ ?_
  · exact hkept.2
  rintro s op s' ⟨⟨known, ht⟩, hbo, hsame⟩ ⟨⟨hfits, hne⟩, hs⟩
  obtain ⟨hbo', hbytes⟩ := byteAt_step hm hs hfits ht hbo hr hne
  exact ⟨⟨_, tracks_step hm hs ht⟩, hbo', fun a ha => (hbytes a ha).trans (hsame a ha)⟩

/-- One buffer is painted, then another one. -/
theorem byteAt_of_run_two_buffers : ∃ bos l bos' l',
    Run (BoStep .willing) ([], []) [(.fill 0 .xrgb8888 1 1 .tiles, none),
      (.create ⟨3, 4, 4, 1⟩, none), (.create ⟨3, 4, 4, 1⟩, none)] (bos, l) ∧
    Run (BoStep .willing) (bos, l) [(.fill 1 .xrgb8888 1 1 .smpte, none)] (bos', l') ∧
    bos'[0]?.join = some ⟨⟨3, 4, 4, 1⟩, 4096⟩ ∧
    ∀ a, Region.Has ⟨4096, 4⟩ a → byteAt l' a = byteAt l a := by
  have hfirst : Run (BoStep .willing) ([], []) [(.fill 0 .xrgb8888 1 1 .tiles, none),
      (.create ⟨3, 4, 4, 1⟩, none), (.create ⟨3, 4, 4, 1⟩, none)] (_, _) :=
    .step (.step (.step .nil ⟨rfl, rfl⟩) ⟨rfl, rfl⟩) ⟨rfl, rfl⟩
  exact ⟨_, _, _, _, hfirst, .step .nil ⟨rfl, rfl⟩,
    byteAt_of_run Mapper.willing_fresh hfirst rfl rfl
      (show Run (Run.when _ _) _ [(.fill 1 .xrgb8888 1 1 .smpte, none)] _ from
        .step .nil ⟨⟨fits_pixel rfl, by decide⟩, rfl, rfl⟩)⟩

end ValRpi
