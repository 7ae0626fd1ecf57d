import ValRpi.Planes
import ValRpi.Resolution

/-!
# Windows and their sinks

The windows are numbered from 0 on, and the table of sinks has these numbers for
keys. Nothing that happens later adds a key, removes one, or changes what a
sink stands for; only `connect` and `disconnect` write to it, and only whether
it is connected (`sinks_of_step`).

* `sinks_of_run`: so the table is complete in every reachable state, and a sink
  is connected if the last `connect` or `disconnect` of its window was a
  `connect`. A callback never looks for a sink that is not there.
-/

namespace ValRpi

variable {k : Kernel} {h h' : History}

namespace ValVideoImpl

variable {v v' : ValVideoImpl} {caps : DeviceCapability} {e : DRIElements}

/-! ## The callback -/

/-- The callback changes the greatest sizes of the windows. -/
theorem updatePlanes_eq_ok (hr : v.updatePlanes k h = .ok (v', h')) :
    List.Forall₂ (fun p p' => ∃ size, p' = { p with maxSizeT := size }) v.logicalPlanes
      v'.logicalPlanes ∧
      (v' = { v with logicalPlanes := v'.logicalPlanes, driElements := v'.driElements }) ∧
        (v'.driElements = v.driElements ∨ v'.driElements = v.driElements.touch) := by
  simp only [updatePlanes, Prog.bind_eq_ok, Prog.pure_eq_ok] at hr
  obtain ⟨⟨planes, _⟩, h₁, hloop, hr⟩ := hr
  cases hr
  refine ⟨Prog.forEach_forall₂ (fun p _ p' _ _ _ hf => ?_) hloop, rfl, ?_⟩
  · simp only [updatePlane, Prog.bind_eq_ok, Prog.pure_eq_ok] at hf
    obtain ⟨p₁, _, ⟨sink, _, _, range, _, _, hp⟩, hf⟩ := hf
    cases hf
    -- the window keeps its size unless its CRTC is there and within the limits
    rcases range with _ | ⟨min, max⟩
    · rw [Prog.pure_eq_ok] at hp
      cases hp
      exact ⟨_, rfl⟩
    · dsimp only at hp
      split at hp
      · rw [Prog.pure_eq_ok] at hp
        cases hp
        exact ⟨_, rfl⟩
      · rw [Prog.pure_eq_ok] at hp
        cases hp
        exact ⟨_, rfl⟩
  · dsimp only
    split
    · exact .inl rfl
    · exact .inr rfl

/-- Without windows there is nothing to do. -/
theorem updatePlanes_of_nil (hv : v.logicalPlanes = []) : v.updatePlanes k h = .ok (v, h) := by
  obtain ⟨planes, physical, sinks, caps, e⟩ := v
  obtain rfl : planes = [] := hv
  rfl

theorem videoSinks_updatePlanes (hr : v.updatePlanes k h = .ok (v', h')) :
    v'.videoSinks = v.videoSinks ∧
      v'.logicalPlanes.map ValPlane.wId = v.logicalPlanes.map ValPlane.wId := by
  obtain ⟨hplanes, hv, _⟩ := updatePlanes_eq_ok hr
  refine ⟨by rw [hv], Prog.map_eq_of_forall₂ ?_ hplanes⟩
  rintro p _ ⟨size, rfl⟩
  rfl

/-! ## The table -/

/-- The sinks that the constructor makes are those of the windows, none of them connected. -/
theorem keys_of_makeSinks {planes : List ValPlane} {ids physical : List ℕ}
    {sinks : List (ℕ × SinkInfo)} (hr : makeSinks e planes ids = .ok (physical, sinks)) :
    sinks.map Prod.fst = planes.map ValPlane.wId ∧ ∀ q ∈ sinks, q.2.connected = false := by
  induction planes generalizing ids physical sinks with
  | nil =>
    cases hr
    exact ⟨rfl, by simp⟩
  | cons plane planes ih =>
    cases ids with
    | nil =>
      obtain ⟨physical, sinks, hrest, heq⟩ := makeSinks_nil_eq_ok hr
      cases heq
      obtain ⟨hkeys, hconnected⟩ := ih hrest
      exact ⟨congrArg (plane.wId :: ·) hkeys, List.forall_mem_cons.2 ⟨rfl, hconnected⟩⟩
    | cons id ids =>
      obtain ⟨crtcId, connId, physical, sinks, _, _, hrest, heq⟩ := makeSinks_cons_eq_ok hr
      cases heq
      obtain ⟨hkeys, hconnected⟩ := ih hrest
      exact ⟨congrArg (plane.wId :: ·) hkeys, List.forall_mem_cons.2 ⟨rfl, hconnected⟩⟩

theorem wId_makePlanes (caps : DeviceCapability) :
    (makePlanes caps).map ValPlane.wId = List.range caps.mPlaneNames.length := by
  rw [makePlanes, List.map_map]
  exact (List.zipIdx_map_snd 0 caps.mPlaneNames).trans List.range_eq_range'.symm

/-- The constructor numbers the windows, and gives each a sink. -/
theorem sinks_of_init (hr : init caps e k h = .ok (v, h')) :
    v.logicalPlanes.map ValPlane.wId = List.range caps.mPlaneNames.length ∧
      v.videoSinks.map Prod.fst = List.range caps.mPlaneNames.length ∧
        ∀ q ∈ v.videoSinks, q.2.connected = false := by
  rw [init, Prog.bind_eq_ok] at hr
  obtain ⟨⟨physical, sinks⟩, h₁, hlift, hr⟩ := hr
  obtain ⟨hsinks, rfl⟩ := Prog.lift_eq_ok.1 hlift
  obtain ⟨hkeys, hconnected⟩ := keys_of_makeSinks hsinks
  obtain ⟨hvs, hwids⟩ := videoSinks_updatePlanes hr
  rw [wId_makePlanes] at hkeys
  rw [hwids, hvs]
  exact ⟨wId_makePlanes caps, hkeys, hconnected⟩

/-! ## Connecting -/

/-- What an operation says about the connection of a window. -/
def Op.connects (wId : ℕ) : Op → Option Bool
  | .connect w _ => if w = wId then some true else none
  | .disconnect w => if w = wId then some false else none
  | _ => none

/-- A sink whose connection is as said, if anything is. -/
def settle (connected : Option Bool) (sink : SinkInfo) : SinkInfo :=
  { sink with connected := connected.getD sink.connected }

theorem keys_setSink (wId : ℕ) (sink : SinkInfo) :
    (v.setSink wId sink).videoSinks.map Prod.fst = v.videoSinks.map Prod.fst := by
  rw [setSink, List.map_map]
  refine List.map_congr_left fun p _ => ?_
  rw [Function.comp_apply]
  split
  next heq => exact heq.symm
  · rfl

theorem lookup_setSink (wId w : ℕ) (sink : SinkInfo) :
    (v.setSink wId sink).videoSinks.lookup w =
      if w = wId then (v.videoSinks.lookup w).map fun _ => sink else v.videoSinks.lookup w := by
  rw [setSink]
  induction v.videoSinks with
  | nil => simp
  | cons p sinks ih =>
    obtain ⟨x, s⟩ := p
    rw [List.map_cons]
    by_cases hx : x = wId
    · obtain rfl := hx
      rw [if_pos rfl, List.lookup_cons, List.lookup_cons]
      by_cases hw : w = x
      · simp [hw]
      · have hne : (w == x) = false := by simpa using hw
        rw [hne]
        exact ih
    · rw [if_neg hx, List.lookup_cons, List.lookup_cons]
      by_cases hw : w = x
      · obtain rfl := hw
        simp [hx]
      · have hne : (w == x) = false := by simpa using hw
        rw [hne]
        exact ih

/-- A window whose sink, if it has one, is connected as said already, or whose
    sink is written to. -/
def Connects (wId : ℕ) (connected : Bool) (v v' : ValVideoImpl) : Prop :=
  (v' = v ∧ ∀ sink, v.videoSinks.lookup wId = some sink → sink.connected = connected) ∨
    ∃ sink, v.videoSinks.lookup wId = some sink ∧
      v' = v.setSink wId { sink with connected := connected }

theorem connects_connect (wId planeId : ℕ) :
    Connects wId true v (v.connect wId planeId).2.2 := by
  rw [connect]
  split
  next hnone => exact .inl ⟨rfl, by simp [hnone]⟩
  next sink hs =>
    split
    next hc => exact .inl ⟨rfl, by simp [hs, hc]⟩
    · exact .inr ⟨sink, hs, rfl⟩

theorem connects_disconnect (wId : ℕ) : Connects wId false v (v.disconnect wId).2 := by
  rw [disconnect]
  split
  next hnone => exact .inl ⟨rfl, by simp [hnone]⟩
  next sink hs =>
    split
    · exact .inr ⟨sink, hs, rfl⟩
    next hc => exact .inl ⟨rfl, by simp [hs, hc]⟩

/-- Only that sink changes, and only its connection. -/
theorem Connects.lookup {wId : ℕ} {connected : Bool} (hc : Connects wId connected v v') (w : ℕ) :
    v'.videoSinks.lookup w =
      (v.videoSinks.lookup w).map (settle (if wId = w then some connected else none)) := by
  by_cases hw : wId = w
  · obtain rfl := hw
    rw [if_pos rfl]
    rcases hc with ⟨rfl, hsettled⟩ | ⟨sink, hs, rfl⟩
    · cases hl : v'.videoSinks.lookup wId with
      | none => rfl
      | some sink => rw [Option.map_some, settle, Option.getD_some, ← hsettled sink hl]
    · rw [lookup_setSink, if_pos rfl, hs]
      rfl
  · have hsame : v'.videoSinks.lookup w = v.videoSinks.lookup w := by
      rcases hc with ⟨rfl, _⟩ | ⟨sink, _, rfl⟩
      · rfl
      · rw [lookup_setSink, if_neg (Ne.symm hw)]
    rw [hsame, if_neg hw]
    exact Option.map_id'.symm

/-! ## Operations -/

theorem updateDevice_eq_ok {name : String} (hr : v.updateDevice name k h = .ok (v', h')) :
    ∃ called e' h₁, v.driElements.updateDevice name k h = .ok ((called, e'), h₁) ∧
      if called then updatePlanes { v with driElements := e' } k h₁ = .ok (v', h')
        else v' = { v with driElements := e' } ∧ h' = h₁ := by
  rw [updateDevice, Prog.bind_eq_ok] at hr
  obtain ⟨⟨called, e'⟩, h₁, hu, hr⟩ := hr
  refine ⟨called, e', h₁, hu, ?_⟩
  cases called with
  | true => exact hr
  | false =>
    simp only [Bool.false_eq_true, if_false, Prog.pure_eq_ok] at hr ⊢
    cases hr
    exact ⟨rfl, rfl⟩

theorem applyScaling_eq_ok {wId : ℕ} {inputRegion outputRegion : Rect} {r : Bool}
    (hr : v.applyScaling wId inputRegion outputRegion k h = .ok ((r, v'), h')) :
    v' = v ∨ v' = { v with driElements := v.driElements.touch } := by
  rw [applyScaling] at hr
  cases hs : v.videoSinks.lookup wId with
  | none =>
    rw [hs, Prog.pure_eq_ok] at hr
    cases hr
    exact .inl rfl
  | some sink =>
    simp only [hs] at hr
    split at hr
    · rw [Prog.pure_eq_ok] at hr
      cases hr
      exact .inl rfl
    split at hr
    · rw [Prog.pure_eq_ok] at hr
      cases hr
      exact .inl rfl
    · simp only [Prog.bind_eq_ok, Prog.pure_eq_ok] at hr
      obtain ⟨_, _, _, hr⟩ := hr
      cases hr
      exact .inr rfl

theorem getParam_eq_ok {control : Control} {wId : Option ℤ} {r : Reply}
    (hr : v.getParam control wId k h = .ok ((r, v'), h')) :
    v' = v ∨ ∃ conns, v' = { v with driElements := v.driElements.asked conns } := by
  cases control with
  | drmResources =>
    cases wId with
    | none =>
      cases hr
      exact .inl rfl
    | some wId =>
      rw [getParam] at hr
      cases hs : v.videoSinks.lookup (wId % 2 ^ 32).toNat with
      | none =>
        simp only [hs, Prog.pure_eq_ok] at hr
        cases hr
        exact .inl rfl
      | some sink =>
        simp only [hs, Prog.pure_eq_ok] at hr
        cases hr
        exact .inl rfl
  | numConnector =>
    simp only [getParam, Prog.bind_eq_ok] at hr
    obtain ⟨⟨n, e⟩, h₁, hn, hr⟩ := hr
    obtain ⟨conns, rfl⟩ := DRIElements.asked_of_getSupportedNumConnector hn
    dsimp only at hr
    split at hr
    · rw [Prog.pure_eq_ok] at hr
      cases hr
      exact .inr ⟨conns, rfl⟩
    · rw [Prog.pure_eq_ok] at hr
      cases hr
      exact .inr ⟨conns, rfl⟩
  | other name =>
    cases hr
    exact .inl rfl

/-- What an operation other than an update and a request for a mode does: it may
    ask the connectors, and write whether a sink is connected. -/
structure Quiet (op : Op) (v v' : ValVideoImpl) : Prop where
  logicalPlanes : v'.logicalPlanes = v.logicalPlanes
  capability : v'.mDeviceCapability = v.mDeviceCapability
  keys : v'.videoSinks.map Prod.fst = v.videoSinks.map Prod.fst
  sinks : ∀ w, v'.videoSinks.lookup w = (v.videoSinks.lookup w).map (settle (op.connects w))
  elements : v'.driElements = v.driElements ∨ ∃ conns, v'.driElements = v.driElements.asked conns

theorem Quiet.of_elements {op : Op} {e' : DRIElements} (hop : ∀ w, op.connects w = none)
    (he : e' = v.driElements ∨ ∃ conns, e' = v.driElements.asked conns) :
    Quiet op v { v with driElements := e' } :=
  ⟨rfl, rfl, rfl, fun w => by rw [hop]; exact Option.map_id'.symm, he⟩

theorem Quiet.touch {op : Op} (hop : ∀ w, op.connects w = none) :
    Quiet op v { v with driElements := v.driElements.touch } :=
  .of_elements hop (.inr ⟨v.driElements.primary.connectorList, rfl⟩)

theorem Quiet.refl {op : Op} (hop : ∀ w, op.connects w = none) : Quiet op v v :=
  .of_elements hop (.inl rfl)

theorem Quiet.of_connects {op : Op} {wId : ℕ} {connected : Bool}
    (hop : ∀ w, op.connects w = if wId = w then some connected else none)
    (hc : Connects wId connected v v') : Quiet op v v' := by
  have hsinks (w : ℕ) :
      v'.videoSinks.lookup w = (v.videoSinks.lookup w).map (settle (op.connects w)) := by
    rw [hop]
    exact hc.lookup w
  rcases hc with ⟨rfl, _⟩ | ⟨sink, _, rfl⟩
  · exact ⟨rfl, rfl, rfl, hsinks, .inl rfl⟩
  · exact ⟨rfl, rfl, keys_setSink _ _, hsinks, .inl rfl⟩

/-- An operation is an update, a request for a mode, or neither. -/
theorem run_cases {op : Op} (hr : v.run op k h = .ok (v', h')) :
    (∃ name, op = .updateDevice name ∧ v.updateDevice name k h = .ok (v', h')) ∨
      (∃ win displayPath r e', op = .setDisplayResolution win displayPath ∧
        Outcome v k h win displayPath r e' h' ∧ v' = { v with driElements := e' }) ∨
      Quiet op v v' := by
  cases op with
  | hotplug =>
    rw [run, Prog.call_eq_ok] at hr
    cases hr
    exact .inr (.inr (.refl fun _ => rfl))
  | updateDevice name => exact .inl ⟨name, rfl, hr⟩
  | setDisplayResolution win displayPath =>
    simp only [run, Prog.bind_eq_ok, Prog.pure_eq_ok] at hr
    obtain ⟨⟨r, v₁⟩, h₁, hset, hr⟩ := hr
    cases hr
    obtain ⟨e', hout, rfl⟩ := outcome_of_setDisplayResolution hset
    exact .inr (.inl ⟨win, displayPath, r, e', rfl, hout, rfl⟩)
  | getSupportedResolutions dispIndex =>
    simp only [run, Prog.bind_eq_ok, Prog.pure_eq_ok] at hr
    obtain ⟨_, _, _, hr⟩ := hr
    cases hr
    exact .inr (.inr (.touch fun _ => rfl))
  | connect wId planeId =>
    rw [run, Prog.pure_eq_ok] at hr
    cases hr
    exact .inr (.inr (.of_connects (fun _ => rfl) (connects_connect wId planeId)))
  | disconnect wId =>
    rw [run, Prog.pure_eq_ok] at hr
    cases hr
    exact .inr (.inr (.of_connects (fun _ => rfl) (connects_disconnect wId)))
  | applyScaling wId inputRegion outputRegion =>
    simp only [run, Prog.bind_eq_ok, Prog.pure_eq_ok] at hr
    obtain ⟨⟨r, v₁⟩, h₁, hscale, hr⟩ := hr
    cases hr
    rcases applyScaling_eq_ok hscale with rfl | rfl
    · exact .inr (.inr (.refl fun _ => rfl))
    · exact .inr (.inr (.touch fun _ => rfl))
  | getParam control wId =>
    simp only [run, Prog.bind_eq_ok, Prog.pure_eq_ok] at hr
    obtain ⟨⟨r, v₁⟩, h₁, hget, hr⟩ := hr
    cases hr
    rcases getParam_eq_ok hget with rfl | ⟨conns, rfl⟩
    · exact .inr (.inr (.refl fun _ => rfl))
    · exact .inr (.inr (.of_elements (fun _ => rfl) (.inr ⟨conns, rfl⟩)))
  | getVideoPlanes =>
    rw [run, Prog.pure_eq_ok] at hr
    cases hr
    exact .inr (.inr (.refl fun _ => rfl))

/-- The windows keep their ids and the sinks their keys, and only `connect` and
    `disconnect` write to the sinks. -/
theorem sinks_of_step {op : Op} (hr : v.run op k h = .ok (v', h')) :
    v'.logicalPlanes.map ValPlane.wId = v.logicalPlanes.map ValPlane.wId ∧
      v'.videoSinks.map Prod.fst = v.videoSinks.map Prod.fst ∧
        ∀ w, v'.videoSinks.lookup w = (v.videoSinks.lookup w).map (settle (op.connects w)) := by
  rcases run_cases hr with ⟨name, rfl, hu⟩ | ⟨win, displayPath, r, e', rfl, _, rfl⟩ | hq
  · have hvs : v'.videoSinks = v.videoSinks ∧
        v'.logicalPlanes.map ValPlane.wId = v.logicalPlanes.map ValPlane.wId := by
      obtain ⟨called, e', h₁, _, hu⟩ := updateDevice_eq_ok hu
      cases called with
      | false =>
        obtain ⟨rfl, _⟩ := hu
        exact ⟨rfl, rfl⟩
      | true =>
        rw [if_pos rfl] at hu
        exact videoSinks_updatePlanes (v := { v with driElements := e' }) hu
    exact ⟨hvs.2, by rw [hvs.1], fun w => by rw [hvs.1]; exact Option.map_id'.symm⟩
  · exact ⟨rfl, rfl, fun w => Option.map_id'.symm⟩
  · exact ⟨by rw [hq.logicalPlanes], hq.keys, hq.sinks⟩

/-! ## Runs -/

/-- The windows are numbered from 0 to `n - 1`, and these are the keys of the sinks. -/
structure Numbered (n : ℕ) (v : ValVideoImpl) : Prop where
  windows : v.logicalPlanes.map ValPlane.wId = List.range n
  keys : v.videoSinks.map Prod.fst = List.range n

/-- The callback finds a sink for every window. -/
theorem Numbered.sink {n : ℕ} (hv : v.Numbered n) {p : ValPlane} (hp : p ∈ v.logicalPlanes) :
    ∃ sink, v.videoSinks.lookup p.wId = some sink := by
  have hmem : p.wId ∈ v.videoSinks.map Prod.fst := by
    rw [hv.keys, ← hv.windows]
    exact List.mem_map_of_mem hp
  obtain ⟨q, hq, heq⟩ := List.mem_map.1 hmem
  exact Option.isSome_iff_exists.1 (List.lookup_isSome_iff.2 ⟨q, hq, by simpa using heq.symm⟩)

/-- The constructor makes the windows last. -/
theorem new_eq_ok (hnew : new caps k h = .ok (v, h')) :
    ∃ e h₁, DRIElements.new caps.mMaxResolution k h = .ok (e, h₁) ∧
      init caps e k h₁ = .ok (v, h') := by
  rwa [new_eq, Prog.bind_eq_ok] at hnew

/-- A sink is connected if the last operation on its connection was a `connect`. -/
theorem lookup_of_run {v₀ : ValVideoImpl} {h₀ h₁ : History} {ops : List Op}
    (hinit : init caps e k h₁ = .ok (v₀, h₀)) (hrun : Run (Step k) (v₀, h₀) ops (v, h)) :
    v.Numbered caps.mPlaneNames.length ∧
      ∀ wId, v.videoSinks.lookup wId = (v₀.videoSinks.lookup wId).map fun sink =>
        { sink with connected := (ops.findSome? (Op.connects wId)).getD false } := by
  obtain ⟨hwindows₀, hkeys₀, hconnected₀⟩ := sinks_of_init hinit
  refine hrun.ghost (fun ops s => s.1.Numbered caps.mPlaneNames.length ∧
    ∀ wId, s.1.videoSinks.lookup wId = (v₀.videoSinks.lookup wId).map fun sink =>
      { sink with connected := (ops.findSome? (Op.connects wId)).getD false })
    ⟨⟨hwindows₀, hkeys₀⟩, fun wId => ?_⟩ ?_
  · cases hl : v₀.videoSinks.lookup wId with
    | none => rfl
    | some sink =>
      have hfalse := hconnected₀ _ (Lists.mem_of_lookup hl)
      rw [Option.map_some, List.findSome?_nil, Option.getD_none, ← hfalse]
  · rintro ops ⟨v, h⟩ op ⟨v', h'⟩ ⟨hv, hsinks⟩ hstep
    obtain ⟨hwids, hkeys, hlookup⟩ := sinks_of_step hstep
    refine ⟨⟨hwids.trans hv.windows, hkeys.trans hv.keys⟩, fun wId => ?_⟩
    dsimp only at hsinks ⊢
    rw [hlookup, hsinks, Option.map_map, List.findSome?_cons]
    -- the operation has the last word, if it says anything
    cases op.connects wId with
    | none => rfl
    | some b => rfl

/-- In every reachable state the sinks are those of the windows and as the
    constructor made them, but for their connections: a sink is connected if the
    last operation on its connection was a `connect`. The callback inside of the
    constructor of `driElements` finds neither windows nor sinks. -/
theorem sinks_of_run {v₀ : ValVideoImpl} {h₀ : History} {ops : List Op}
    (hnew : new caps k [] = .ok (v₀, h₀)) (hrun : Run (Step k) (v₀, h₀) ops (v, h)) :
    v.Numbered caps.mPlaneNames.length ∧
      (∀ p ∈ v.logicalPlanes, ∃ sink, v.videoSinks.lookup p.wId = some sink) ∧
      (∀ wId, v.videoSinks.lookup wId = (v₀.videoSinks.lookup wId).map fun sink =>
        { sink with connected := (ops.findSome? (Op.connects wId)).getD false }) ∧
      ∀ e h, updatePlanes { mDeviceCapability := caps, driElements := e } k h =
        .ok ({ mDeviceCapability := caps, driElements := e }, h) := by
  obtain ⟨e, h₁, _, hinit⟩ := new_eq_ok hnew
  obtain ⟨hnumbered, hlookup⟩ := lookup_of_run hinit hrun
  exact ⟨hnumbered, fun p hp => hnumbered.sink hp, hlookup, fun e h => updatePlanes_of_nil rfl⟩

/-- Of two windows the first one is connected, and a third one is asked for. -/
theorem sinks_of_run_fullHd : ∃ v₀ h₀ v h,
    new .fullHd (.willing fun _ => .oneDisplay) [] = .ok (v₀, h₀) ∧
      Run (Step (.willing fun _ => .oneDisplay)) (v₀, h₀)
        [.getVideoPlanes, .disconnect 2, .connect 0 0] (v, h) ∧
      v.Numbered 2 ∧ v.videoSinks.lookup 0 = some ⟨41, 31, 21, true⟩ ∧
        v.videoSinks.lookup 2 = none := by
  let k : Kernel := .willing fun _ => .oneDisplay
  have hrun : (new .fullHd k []).map (fun s =>
      (s.1.videoSinks.lookup 0, s.1.videoSinks.lookup 2)) =
        .ok (some ⟨41, 31, 21, false⟩, none) := by
    decide +kernel
  obtain ⟨⟨v₀, h₀⟩, hnew, hobs⟩ := Prog.exists_of_map_eq_ok hrun
  obtain ⟨hfirst, hthird⟩ := Prod.mk.inj hobs
  have hsteps : Run (Step k) (v₀, h₀) [.getVideoPlanes, .disconnect 2, .connect 0 0]
      (((v₀.connect 0 0).2.2.disconnect 2).2, h₀) :=
    .step (.step (.step .nil rfl) rfl) rfl
  obtain ⟨hnumbered, _, hlookup, _⟩ := sinks_of_run hnew hsteps
  refine ⟨v₀, h₀, _, _, hnew, hsteps, hnumbered, ?_, ?_⟩
  · rw [hlookup, hfirst]
    rfl
  · rw [hlookup, hthird]
    rfl

end ValVideoImpl

end ValRpi
