import ValRpi.Frame
import ValRpi.Lib.Lists

/-!
# What is loaded

`loadResources` reads the objects of every card. What it reads is blank: no
CRTC has a framebuffer or a connector yet, and no connector has a CRTC
(`Loaded`). On a sane kernel the objects of a card have ids of their own, which
is what the lookups of the program rely on (`DriDevice.Sane`).

`DriDevice.Sane` is kept by everything that happens later, since asking, setting
up and changing modes keep the ids (`DriDevice.Sane.keep`).
-/

namespace ValRpi

variable {k : Kernel} {h h' : History}

/-- The id of a CRTC, 0 if it could not be read. -/
def DrmCrtc.id (c : DrmCrtc) : ℕ := (c.mCrtc.map Crtc.crtcId).getD 0

theorem DrmCrtc.crtcId_eq {c : DrmCrtc} (hc : c.mCrtc.isSome) : c.crtcId = .ok c.id := by
  obtain ⟨p, hp⟩ := Option.isSome_iff_exists.1 hc
  simp [crtcId, id, hp, deref, Except.map]

/-- The answers of the kernel decide the ids, -/
theorem DrmCrtc.ids_of_mCrtc {crtcs crtcs' : List DrmCrtc}
    (heq : crtcs'.map DrmCrtc.mCrtc = crtcs.map DrmCrtc.mCrtc) :
    crtcs'.map DrmCrtc.id = crtcs.map DrmCrtc.id := by
  have hmap := congrArg (List.map fun p => (p.map Crtc.crtcId).getD 0) heq
  rwa [List.map_map, List.map_map] at hmap

/-- and whether the CRTCs could be read. -/
theorem DrmCrtc.read_of_mCrtc {crtcs crtcs' : List DrmCrtc}
    (heq : crtcs'.map DrmCrtc.mCrtc = crtcs.map DrmCrtc.mCrtc)
    (hread : ∀ c ∈ crtcs, c.mCrtc.isSome) : ∀ c ∈ crtcs', c.mCrtc.isSome := by
  intro c hc
  obtain ⟨c₀, hc₀, hsame⟩ := List.mem_map.1 (heq ▸ List.mem_map_of_mem hc)
  exact hsame ▸ hread c₀ hc₀

/-- A CRTC without connectors, framebuffer, buffer and greatest mode. -/
structure DrmCrtc.Blank (c : DrmCrtc) : Prop where
  connectors : c.connectors = []
  scanoutFbId : c.scanoutFbId = 0
  boHandle : c.boHandle = none
  max : c.max = ⟨0, 0⟩

/-- The objects of a device can be told apart. -/
structure DriDevice.Sane (d : DriDevice) : Prop where
  crtcs : ∀ c ∈ d.crtcList, c.mCrtc.isSome
  crtcIds : (d.crtcList.map DrmCrtc.id).Nodup
  crtcIds_ne : 0 ∉ d.crtcList.map DrmCrtc.id
  connectorIds : (d.connectorList.map DrmConnector.connectorId).Nodup
  fds : ∀ c ∈ d.connectorList, c.mDrmModulefd = d.drmModuleFd
  planeIds : (d.planeList.map Plane.planeId).Nodup
  planeIds_ne : 0 ∉ d.planeList.map Plane.planeId

/-! ## Lists of objects -/

theorem asks_loadEach {α : Type} {read : ℕ → Act (Option α)} (hread : ∀ id, Asks (read id)) :
    ∀ (ids : List ℕ) (loaded : List α), Asks (loadEach read ids loaded)
  | [], _ => .pure _
  | id :: ids, loaded => by
    refine .bind (hread id) fun a => ?_
    cases a with
    | none => exact asks_loadEach hread ids _
    | some a => exact asks_loadEach hread ids _

/-- What is loaded follows what was loaded before, and has some of the ids asked
    for, in their order. -/
theorem loadEach_spec {α : Type} {read : ℕ → Act (Option α)} (key : α → ℕ) (P : α → Prop)
    (hread : ∀ id h a h', read id k h = .ok (some a, h') → key a = id ∧ P a) {ids : List ℕ}
    {loaded res : List α} (hr : loadEach read ids loaded k h = .ok (res, h')) :
    ∃ as, res = loaded ++ as ∧ (as.map key).Sublist ids ∧ ∀ a ∈ as, P a := by
  induction ids generalizing loaded h with
  | nil =>
    simp only [loadEach, Prog.pure_eq_ok, Prod.mk.injEq] at hr
    obtain ⟨rfl, _⟩ := hr
    exact ⟨[], by simp, by simp, by simp⟩
  | cons id ids ih =>
    rw [loadEach, Prog.bind_eq_ok] at hr
    obtain ⟨a, h₁, ha, hr⟩ := hr
    cases a with
    | none =>
      obtain ⟨as, rfl, hsub, hP⟩ := ih hr
      exact ⟨as, rfl, hsub.cons id, hP⟩
    | some a =>
      obtain ⟨as, rfl, hsub, hP⟩ := ih hr
      obtain ⟨hkey, hPa⟩ := hread _ _ _ _ ha
      refine ⟨a :: as, by simp, ?_, List.forall_mem_cons.2 ⟨hPa, hP⟩⟩
      rw [List.map_cons, hkey]
      exact hsub.cons_cons id

theorem asks_loadCrtcs (fd : ℤ) :
    ∀ (ids : List ℕ) (i : ℕ) (loaded : List DrmCrtc), Asks (loadCrtcs fd ids i loaded)
  | [], _, _ => .pure _
  | _ :: ids, i, _ => .bind (asks_ask _ _ _) fun _ => asks_loadCrtcs fd ids (i + 1) _

theorem loadCrtcs_spec {fd : ℤ} {ids : List ℕ} {i : ℕ} {loaded res : List DrmCrtc}
    (hr : loadCrtcs fd ids i loaded k h = .ok (res, h')) :
    ∃ cs, res = loaded ++ cs ∧ (∀ c ∈ cs, c.Blank) ∧
      (k.Sane → cs.map DrmCrtc.id = ids ∧ ∀ c ∈ cs, c.mCrtc.isSome) := by
  induction ids generalizing i loaded h with
  | nil =>
    simp only [loadCrtcs, Prog.pure_eq_ok, Prod.mk.injEq] at hr
    obtain ⟨rfl, _⟩ := hr
    exact ⟨[], by simp, by simp, by simp⟩
  | cons id ids ih =>
    rw [loadCrtcs, Prog.bind_eq_ok] at hr
    obtain ⟨crtc, h₁, hget, hr⟩ := hr
    obtain ⟨cs, rfl, hblank, hsane⟩ := ih hr
    rw [drmModeGetCrtc, ask, Prog.call_eq_ok, Prod.mk.injEq] at hget
    refine ⟨{ mCrtc := crtc, crtcIndex := i } :: cs, by simp,
      List.forall_mem_cons.2 ⟨⟨rfl, rfl, rfl, rfl⟩, hblank⟩, fun hk => ?_⟩
    obtain ⟨hids, hsome⟩ := hsane hk
    obtain ⟨c, hc⟩ := Option.isSome_iff_exists.1 ((hk.card h fd).crtc id)
    rw [hc] at hget
    refine ⟨?_, List.forall_mem_cons.2 ⟨by simp [hget.1], hsome⟩⟩
    rw [List.map_cons, hids]
    simp [DrmCrtc.id, hget.1]

theorem loadConnector_spec {fd : ℤ} {id : ℕ} {c : DrmConnector}
    (hr : loadConnector fd id k h = .ok (some c, h')) :
    c.connectorId = id ∧ c.crtcId = 0 ∧ c.mDrmModulefd = fd := by
  simp only [loadConnector, drmModeGetConnector, ask, Prog.bind_eq_ok, Prog.call_eq_ok,
    Prog.lift_eq_ok, Prog.pure_eq_ok, Prod.mk.injEq, Option.some.injEq] at hr
  obtain ⟨p, _, ⟨hp, _⟩, c', _, ⟨hnew, _⟩, hc, _⟩ := hr
  subst hc
  unfold DrmConnector.new at hnew
  split at hnew
  · cases hnew
  next p' hp' =>
    split at hnew
    · cases hnew
    · split at hnew
      · cases hnew
      · cases hnew
        obtain ⟨q, _, rfl⟩ := Option.map_eq_some_iff.1 hp.symm
        exact ⟨rfl, rfl, rfl⟩

theorem loadPlane_spec {fd : ℤ} {id : ℕ} {p : Plane}
    (hr : loadPlane fd id k h = .ok (some p, h')) : p.planeId = id := by
  simp only [loadPlane, drmModeGetPlane, ask, Prog.bind_eq_ok, Prog.call_eq_ok, Prog.lift_eq_ok,
    Prog.pure_eq_ok, Prod.mk.injEq, deref_eq_ok] at hr
  obtain ⟨q, _, ⟨hq, _⟩, p', _, ⟨hp', _⟩, type, _, _, hp, _⟩ := hr
  split at hp
  · cases hp
    rw [hp'] at hq
    obtain ⟨_, _, rfl⟩ := Option.map_eq_some_iff.1 hq.symm
    rfl
  · cases hp

theorem asks_loadConnector (fd : ℤ) (id : ℕ) : Asks (loadConnector fd id) :=
  .bind (asks_ask _ _ _) fun _ => .bind (.lift _) fun _ => .pure _

theorem asks_loadEncoder (fd : ℤ) (id : ℕ) : Asks (loadEncoder fd id) :=
  .bind (asks_ask _ _ _) fun _ => .pure _

theorem asks_planeTypeOfProperties (fd : ℤ) :
    ∀ props : List (ℕ × ℕ), Asks (planeTypeOfProperties fd props)
  | [] => .pure _
  | _ :: props => by
    refine .bind (asks_ask _ _ _) fun prop => .bind (.lift _) fun prop => ?_
    split
    · exact .pure _
    · exact asks_planeTypeOfProperties fd props

theorem asks_loadPlane (fd : ℤ) (id : ℕ) : Asks (loadPlane fd id) := by
  refine .bind (asks_ask _ _ _) fun plane => .bind (.lift _) fun plane => .bind ?_ fun _ => .pure _
  exact .bind (asks_ask _ _ _) fun _ => .bind (.lift _) fun _ => asks_planeTypeOfProperties fd _

/-! ## Devices -/

/-- The objects loaded for a device. -/
structure Loaded (k : Kernel) (fd : ℤ) (crtcs : List DrmCrtc) (conns : List DrmConnector)
    (planes : List Plane) : Prop where
  blank : ∀ c ∈ crtcs, c.Blank
  unrouted : ∀ c ∈ conns, c.crtcId = 0 ∧ c.mDrmModulefd = fd
  read : k.Sane → ∀ c ∈ crtcs, c.mCrtc.isSome
  crtcIds : k.Sane → (crtcs.map DrmCrtc.id).Nodup ∧ 0 ∉ crtcs.map DrmCrtc.id
  connectorIds : k.Sane → (conns.map DrmConnector.connectorId).Nodup
  planeIds : k.Sane → (planes.map Plane.planeId).Nodup ∧ 0 ∉ planes.map Plane.planeId

theorem Loaded.empty (k : Kernel) (fd : ℤ) : Loaded k fd [] [] [] := by
  constructor <;> simp

theorem asks_loadDevice (node : String) (d : DriDevice) : Asks (loadDevice node d) := by
  refine .bind (.call fun _ => rfl) fun fd => ?_
  dsimp only
  split
  · exact .pure _
  refine .bind (asks_ask _ _ _) fun res => ?_
  cases res with
  | none => exact .pure _
  | some res =>
    refine .bind (asks_loadCrtcs _ _ _ _) fun _ =>
      .bind (asks_loadEach (asks_loadConnector _) _ _) fun _ =>
      .bind (asks_loadEach (asks_loadEncoder _) _ _) fun _ =>
      .bind (asks_ask _ _ _) fun planes => ?_
    cases planes with
    | none => exact .pure _
    | some planes => exact .bind (asks_loadEach (asks_loadPlane _) _ _) fun _ => .pure _

/-- What is loaded follows what the device had. -/
theorem loadDevice_spec {node : String} {d d' : DriDevice} {goOn : Bool}
    (hr : loadDevice node d k h = .ok ((goOn, d'), h')) :
    ∃ crtcs conns planes, Loaded k d'.drmModuleFd crtcs conns planes ∧
      d'.crtcList = d.crtcList ++ crtcs ∧ d'.connectorList = d.connectorList ++ conns ∧
        d'.planeList = d.planeList ++ planes := by
  rw [loadDevice, Prog.bind_eq_ok] at hr
  obtain ⟨fd, h₁, _, hr⟩ := hr
  dsimp only at hr
  -- where the card cannot be opened or read, nothing is loaded
  split at hr
  · simp only [Prog.pure_eq_ok, Prod.mk.injEq] at hr
    obtain ⟨⟨_, rfl⟩, _⟩ := hr
    exact ⟨[], [], [], .empty _ _, by simp, by simp, by simp⟩
  rw [Prog.bind_eq_ok] at hr
  obtain ⟨res, h₂, hres, hr⟩ := hr
  cases res with
  | none =>
    simp only [Prog.pure_eq_ok, Prod.mk.injEq] at hr
    obtain ⟨⟨_, rfl⟩, _⟩ := hr
    exact ⟨[], [], [], .empty _ _, by simp, by simp, by simp⟩
  | some res =>
    simp only [Prog.bind_eq_ok] at hr
    obtain ⟨_, _, hcrtcs, _, _, hconns, encoders, _, _, planes, h₆, hplanes, hr⟩ := hr
    obtain ⟨crtcs, rfl, hblank, hread⟩ := loadCrtcs_spec hcrtcs
    obtain ⟨conns, rfl, hsub, hconn⟩ := loadEach_spec DrmConnector.connectorId
      (fun c => c.crtcId = 0 ∧ c.mDrmModulefd = fd) (fun _ _ _ _ => loadConnector_spec) hconns
    rw [drmModeGetResources, ask, Prog.call_eq_ok, Prod.mk.injEq] at hres
    -- the ids are those of the card, and so sane on a sane kernel
    have hcrtcIds (hk : k.Sane) : (crtcs.map DrmCrtc.id).Nodup ∧ 0 ∉ crtcs.map DrmCrtc.id := by
      rw [(hread hk).1]
      exact (hk.card h₁ fd).crtcs res hres.1.symm
    have hconnIds (hk : k.Sane) : (conns.map DrmConnector.connectorId).Nodup :=
      ((hk.card h₁ fd).connectors res hres.1.symm).sublist hsub
    cases planes with
    | none =>
      simp only [Prog.pure_eq_ok, Prod.mk.injEq] at hr
      obtain ⟨⟨_, rfl⟩, _⟩ := hr
      exact ⟨crtcs, conns, [], ⟨hblank, hconn, fun hk => (hread hk).2, hcrtcIds, hconnIds, by simp⟩,
        rfl, rfl, by simp⟩
    | some ids =>
      simp only [Prog.bind_eq_ok, Prog.pure_eq_ok, Prod.mk.injEq] at hr
      obtain ⟨_, _, hload, ⟨_, rfl⟩, _⟩ := hr
      obtain ⟨planes, rfl, hsub', _⟩ := loadEach_spec Plane.planeId (fun _ => True)
        (fun _ _ _ _ hp => ⟨loadPlane_spec hp, trivial⟩) hload
      rw [drmModeGetPlaneResources, ask, Prog.call_eq_ok, Prod.mk.injEq] at hplanes
      refine ⟨crtcs, conns, planes, ⟨hblank, hconn, fun hk => (hread hk).2, hcrtcIds, hconnIds,
        fun hk => ?_⟩, rfl, rfl, rfl⟩
      obtain ⟨hnodup, hne⟩ := (hk.card _ fd).planes ids hplanes.1.symm
      exact ⟨hnodup.sublist hsub', fun hmem => hne (hsub'.subset hmem)⟩

/-- What holds of all values still does once one that has it is written. -/
theorem forall_mapSet {α : Type} {P : α → Prop} {key : String} {a : α} {l : List (String × α)}
    (ha : P a) (hl : ∀ p ∈ l, P p.2) : ∀ p ∈ mapSet key a l, P p.2 := by
  intro p hp
  obtain ⟨pre, post, heq, hset⟩ := exists_mapSet_eq key l
  rw [hset, List.mem_append, List.mem_cons] at hp
  rw [heq] at hl
  rcases hp with hp | rfl | hp
  · exact hl p (List.mem_append_left _ (List.mem_append_left _ hp))
  · exact ha
  · exact hl p (List.mem_append_right _ hp)

theorem asks_loadDevices :
    ∀ (nodes : List String) (devices : List (String × DriDevice)), Asks (loadDevices nodes devices)
  | [], _ => .pure _
  | node :: nodes, devices => by
    rw [loadDevices]
    split
    · refine .bind (asks_loadDevice _ _) fun ⟨goOn, d⟩ => ?_
      dsimp only
      split
      · exact asks_loadDevices nodes _
      · exact .pure _
    · exact asks_loadDevices nodes _

/-- What holds of a device after it was loaded holds of all devices, if it does
    not matter whether the device was loaded before. -/
theorem loadDevices_forall (P : DriDevice → Prop) (hempty : P {})
    (hload : ∀ node d goOn d' h h', P d → loadDevice node d k h = .ok ((goOn, d'), h') → P d')
    {nodes : List String} {devices devices' : List (String × DriDevice)}
    (hP : ∀ p ∈ devices, P p.2) (hr : loadDevices nodes devices k h = .ok (devices', h')) :
    ∀ p ∈ devices', P p.2 := by
  induction nodes generalizing devices h with
  | nil =>
    simp only [loadDevices, Prog.pure_eq_ok, Prod.mk.injEq] at hr
    obtain ⟨rfl, _⟩ := hr
    exact hP
  | cons node nodes ih =>
    rw [loadDevices] at hr
    split at hr
    · rw [Prog.bind_eq_ok] at hr
      obtain ⟨⟨goOn, d⟩, h₁, hd, hr⟩ := hr
      have hPd : P d := by
        refine hload _ _ _ _ _ _ ?_ hd
        -- a node that is named twice is loaded on top of what it had
        rcases hl : devices.lookup node with _ | d₀
        · exact hempty
        · exact hP _ (Lists.mem_of_lookup hl)
      have hP' : ∀ p ∈ mapSet node d devices, P p.2 := forall_mapSet hPd hP
      dsimp only at hr
      split at hr
      · exact ih hP' hr
      · simp only [Prog.pure_eq_ok, Prod.mk.injEq] at hr
        obtain ⟨rfl, _⟩ := hr
        exact hP'
    · exact ih hP hr

/-- What holds of a device after it was loaded holds of all devices, if each is
    loaded once. -/
theorem loadDevices_forall_of_nodup (P : DriDevice → Prop)
    (hload : ∀ node goOn d' h h', loadDevice node {} k h = .ok ((goOn, d'), h') → P d')
    {nodes : List String} {devices devices' : List (String × DriDevice)} (hnodup : nodes.Nodup)
    (hnew : ∀ node ∈ nodes, devices.lookup node = none) (hP : ∀ p ∈ devices, P p.2)
    (hr : loadDevices nodes devices k h = .ok (devices', h')) : ∀ p ∈ devices', P p.2 := by
  induction nodes generalizing devices h with
  | nil =>
    simp only [loadDevices, Prog.pure_eq_ok, Prod.mk.injEq] at hr
    obtain ⟨rfl, _⟩ := hr
    exact hP
  | cons node nodes ih =>
    obtain ⟨hnode, hnodup⟩ := List.nodup_cons.1 hnodup
    obtain ⟨hnone, hnew⟩ := List.forall_mem_cons.1 hnew
    rw [loadDevices] at hr
    split at hr
    · rw [Prog.bind_eq_ok, hnone] at hr
      obtain ⟨⟨goOn, d⟩, h₁, hd, hr⟩ := hr
      have hP' : ∀ p ∈ mapSet node d devices, P p.2 := forall_mapSet (hload _ _ _ _ _ hd) hP
      -- the nodes ahead differ from the one that is loaded
      have hnew' : ∀ n ∈ nodes, (mapSet node d devices).lookup n = none := by
        intro n hn
        have hne : ¬ (n == node) = true := fun heq => hnode (eq_of_beq heq ▸ hn)
        rw [lookup_mapSet, if_neg hne, hnew n hn]
      dsimp only at hr
      split at hr
      · exact ih hnodup hnew' hP' hr
      · simp only [Prog.pure_eq_ok, Prod.mk.injEq] at hr
        obtain ⟨rfl, _⟩ := hr
        exact hP'
    · exact ih hnodup hnew hP hr

namespace DriDevice

/-- A device as it was loaded. -/
structure Untouched (d : DriDevice) : Prop where
  blank : ∀ c ∈ d.crtcList, c.Blank
  unrouted : ∀ c ∈ d.connectorList, c.crtcId = 0
  sane : d.Sane

/-- What keeps the ids of the objects keeps them apart. -/
theorem Sane.keep {d d' : DriDevice} (hd : d.Sane)
    (hconns : List.Forall₂ DrmConnector.Rerouted d.connectorList d'.connectorList)
    (hcrtcs : d'.crtcList.map DrmCrtc.mCrtc = d.crtcList.map DrmCrtc.mCrtc)
    (hfd : d'.drmModuleFd = d.drmModuleFd) (hplanes : d'.planeList = d.planeList) : d'.Sane := by
  have hids : d'.crtcList.map DrmCrtc.id = d.crtcList.map DrmCrtc.id := DrmCrtc.ids_of_mCrtc hcrtcs
  have hconnIds := ids_of_rerouted hconns
  refine ⟨DrmCrtc.read_of_mCrtc hcrtcs hd.crtcs, hids ▸ hd.crtcIds, hids ▸ hd.crtcIds_ne,
    hconnIds ▸ hd.connectorIds, fun c hc => ?_, hplanes ▸ hd.planeIds, hplanes ▸ hd.planeIds_ne⟩
  obtain ⟨c₀, hc₀, _, _, _, rfl⟩ := Prog.exists_rel_of_mem hconns hc
  exact hfd ▸ hd.fds c₀ hc₀

theorem Sane.empty : Sane {} := by
  constructor <;> simp

/-- On a sane kernel, a device loaded once is as it should be. -/
theorem untouched_of_loadDevice (hk : k.Sane) {node : String} {d : DriDevice} {goOn : Bool}
    (hr : loadDevice node {} k h = .ok ((goOn, d), h')) : d.Untouched := by
  obtain ⟨crtcs, conns, planes, hl, hcrtcs, hconns, hplanes⟩ := loadDevice_spec hr
  rw [List.nil_append] at hcrtcs hconns hplanes
  subst hcrtcs hconns hplanes
  exact ⟨hl.blank, fun c hc => (hl.unrouted c hc).1, hl.read hk, (hl.crtcIds hk).1,
    (hl.crtcIds hk).2, hl.connectorIds hk, fun c hc => (hl.unrouted c hc).2, (hl.planeIds hk).1,
    (hl.planeIds hk).2⟩

end DriDevice

/-! ## The constructor -/

/-- The key that a map of the given keys starts with. -/
def Kernel.firstOf (k : Kernel) (keys : List String) : Option String :=
  keys[k.firstKey keys % keys.length]?

theorem Kernel.exists_firstOf (k : Kernel) {keys : List String} (hkeys : keys ≠ []) :
    ∃ name, k.firstOf keys = some name :=
  ⟨_, List.getElem?_eq_getElem (Nat.mod_lt (k.firstKey keys) (List.length_pos_iff.2 hkeys))⟩

theorem Kernel.firstOf_mem (k : Kernel) {keys : List String} {name : String}
    (hf : k.firstOf keys = some name) : name ∈ keys := List.mem_of_getElem? hf

namespace DRIElements

variable {e e' : DRIElements}

theorem asks_loadResources (e : DRIElements) : Asks e.loadResources :=
  .bind (.call fun _ => rfl) fun _ => .bind (asks_loadDevices _ _) fun _ => .pure _

theorem loadResources_spec (he : e.mDeviceList = []) (hr : e.loadResources k h = .ok (e', h')) :
    (∃ devices, e' = { e with mDeviceList := devices }) ∧
      (∀ p ∈ e'.mDeviceList, ∀ c ∈ p.2.crtcList, c.Blank) ∧
        (k.Sane → ∀ p ∈ e'.mDeviceList, p.2.Untouched) := by
  rw [loadResources, Prog.bind_eq_ok] at hr
  obtain ⟨nodes, h₁, hnodes, hr⟩ := hr
  rw [Prog.bind_eq_ok, he] at hr
  obtain ⟨devices, h₂, hload, hr⟩ := hr
  rw [Prog.pure_eq_ok] at hr
  cases hr
  refine ⟨⟨devices, rfl⟩, ?_, fun hk => ?_⟩
  · refine loadDevices_forall (fun d => ∀ c ∈ d.crtcList, c.Blank) (by simp)
      (fun node d goOn d' h h' hblank hd => ?_) (by simp) hload
    obtain ⟨crtcs, _, _, hl, hcrtcs, _⟩ := loadDevice_spec hd
    rw [hcrtcs]
    exact fun c hc => (List.mem_append.1 hc).elim (hblank c) (hl.blank c)
  · rw [Prog.call_eq_ok, Prod.mk.injEq] at hnodes
    refine loadDevices_forall_of_nodup DriDevice.Untouched
      (fun node goOn d h h' hd => DriDevice.untouched_of_loadDevice hk hd) ?_ (by simp) (by simp)
      hload
    rw [hnodes.1]
    exact hk.devices h

/-- The first device is one, if there is any. -/
theorem firstDevice_eq_ok {name : Option String} (hr : e.firstDevice k h = .ok (name, h')) :
    h' = h ∧ (name = none → e.mDeviceList = []) ∧
      ∀ n ∈ name, ∃ d, e.mDeviceList.lookup n = some d := by
  obtain ⟨hkey, hh⟩ := Prod.mk.inj (Except.ok.inj hr)
  refine ⟨hh.symm, ?_, ?_⟩
  · rintro rfl
    by_contra hne
    obtain ⟨n, hn⟩ := k.exists_firstOf (mt List.map_eq_nil_iff.1 hne)
    cases hkey.symm.trans hn
  · rintro n rfl
    obtain ⟨p, hp, rfl⟩ := List.mem_map.1 (k.firstOf_mem hkey)
    exact Option.isSome_iff_exists.1 (List.lookup_isSome_iff.2 ⟨p, hp, by simp⟩)

/-- An update sets up the device of the name, if there is one. -/
theorem updateDevice_eq_ok {name : String} {called : Bool}
    (hr : e.updateDevice name k h = .ok ((called, e'), h')) :
    (e.mDeviceList.lookup name = none ∧ e' = e ∧ h' = h) ∨
      ∃ d d', e.mDeviceList.lookup name = some d ∧
        d.setupDevice e.confMode k h = .ok (d', h') ∧
          e' = { e with mDeviceList := mapSet name d' e.mDeviceList } := by
  rw [updateDevice] at hr
  cases hd : e.mDeviceList.lookup name with
  | none =>
    rw [hd, Prog.pure_eq_ok] at hr
    cases hr
    exact .inl ⟨rfl, rfl, rfl⟩
  | some d =>
    simp only [hd, Prog.bind_eq_ok, Prog.pure_eq_ok] at hr
    obtain ⟨d', h₁, hs, hr⟩ := hr
    cases hr
    exact .inr ⟨d, d', rfl, hs, rfl⟩

/-- The constructor loads the cards, and sets up the first device, if any. -/
theorem startUp_eq_ok {defMode : Size} {device : Option String}
    (hr : startUp defMode k h = .ok ((device, e), h')) :
    ∃ e₀ h₀, loadResources { mInitialMode := defMode, mConfiguredMode := defMode } k h =
        .ok (e₀, h₀) ∧
      ((device = none ∧ e = e₀ ∧ h' = h₀ ∧ e₀.mDeviceList = []) ∨
        ∃ name d₀ d₁, device = some name ∧ e₀.firstDevice k h₀ = .ok (some name, h₀) ∧
          e₀.mDeviceList.lookup name = some d₀ ∧
          d₀.setupDevice e₀.confMode k h₀ = .ok (d₁, h') ∧
          e = { e₀ with mDeviceList := mapSet name d₁ e₀.mDeviceList }) := by
  rw [startUp, Prog.bind_eq_ok] at hr
  obtain ⟨e₀, h₀, hload, hr⟩ := hr
  rw [Prog.bind_eq_ok] at hr
  obtain ⟨first, h₁, hfirst, hr⟩ := hr
  obtain ⟨rfl, hnone, hsome⟩ := firstDevice_eq_ok hfirst
  refine ⟨e₀, h₁, hload, ?_⟩
  cases first with
  | none =>
    rw [Prog.pure_eq_ok] at hr
    cases hr
    exact .inl ⟨rfl, rfl, rfl, hnone rfl⟩
  | some name =>
    obtain ⟨d, hd⟩ := hsome name rfl
    simp only [Prog.bind_eq_ok, Prog.pure_eq_ok] at hr
    obtain ⟨⟨called, e₁⟩, h₂, hu, hr⟩ := hr
    cases hr
    -- the device that the constructor updates is there
    rcases updateDevice_eq_ok hu with ⟨hmissing, _⟩ | ⟨d₀, d₁, hd₀, hsetup, rfl⟩
    · cases hd.symm.trans hmissing
    · exact .inr ⟨name, d₀, d₁, rfl, hfirst, hd₀, hsetup, rfl⟩

/-- The constructor loads the cards, sets up the first device, if any, and sets
    a mode on each of its CRTCs. -/
theorem new_eq_ok {defMode : Size} (hr : new defMode k h = .ok (e, h')) :
    ∃ e₀ h₀, loadResources { mInitialMode := defMode, mConfiguredMode := defMode } k h =
        .ok (e₀, h₀) ∧
      ((e = e₀ ∧ h' = h₀ ∧ e₀.mDeviceList = []) ∨
        ∃ name d₀ d₁ d₂ h₁, e₀.firstDevice k h₀ = .ok (some name, h₀) ∧
          e₀.mDeviceList.lookup name = some d₀ ∧
          d₀.setupDevice e₀.confMode k h₀ = .ok (d₁, h₁) ∧
          setActiveModes d₁ k h₁ = .ok (d₂, h') ∧
          e = { e₀ with mPrimaryDev := name, mDeviceList := mapSet name d₂ e₀.mDeviceList }) := by
  rw [new, Prog.bind_eq_ok] at hr
  obtain ⟨⟨device, e₁⟩, h₁, hstart, hr⟩ := hr
  obtain ⟨e₀, h₀, hload, hend⟩ := startUp_eq_ok hstart
  refine ⟨e₀, h₀, hload, ?_⟩
  rcases hend with ⟨rfl, rfl, rfl, hnone⟩ | ⟨name, d₀, d₁, rfl, hfirst, hd₀, hsetup, rfl⟩
  · simp only [finish, Prog.pure_eq_ok] at hr
    cases hr
    exact .inl ⟨rfl, rfl, hnone⟩
  · simp only [finish, lookup_mapSet, beq_self_eq_true, if_true, Option.getD_some, mapSet_mapSet,
      Prog.bind_eq_ok, Prog.pure_eq_ok] at hr
    obtain ⟨d₂, h₂, hmodes, hr⟩ := hr
    cases hr
    exact .inr ⟨name, d₀, d₁, d₂, _, hfirst, hd₀, hsetup, hmodes, rfl⟩

end DRIElements

end ValRpi
