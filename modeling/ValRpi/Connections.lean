import ValRpi.Reach
import ValRpi.Windows

/-!
# Connecting windows

A plane of the hardware is reserved for each window, as long as there are any,
and the windows after these have a dummy for a sink. `connect` does not tell
the ones from the others, and says which plane it is only the first time.

* `Reserves`: the sink of a window has the plane that is reserved for it, in
  every reachable state;
* `connect_sound_iff` says when a caller is told the plane of its window, and
  when no window without one is connected.
-/

namespace ValRpi

variable {k : Kernel} {h h' : History}

namespace ValVideoImpl

variable {v v' v₀ : ValVideoImpl} {caps : DeviceCapability} {e : DRIElements} {h₀ h₁ : History}
  {ops : List Op}

/-! ## Reserved planes -/

/-- The planes that are reserved are planes, and the sinks are those of them, with
    dummies after the last one. -/
structure Reserves (v : ValVideoImpl) : Prop where
  planes : 0 ∉ v.physicalPlanes
  sinks : ∀ wId sink, v.videoSinks.lookup wId = some sink →
    sink.planeId = v.physicalPlanes[wId]?.getD 0

theorem planeId_of_makeSinks {planes : List ValPlane} {ids physical : List ℕ}
    {sinks : List (ℕ × SinkInfo)} (hr : makeSinks e planes ids = .ok (physical, sinks)) (i : ℕ) :
    sinks[i]?.map (·.2.planeId) = planes[i]?.map fun _ => physical[i]?.getD 0 := by
  induction planes generalizing ids physical sinks i with
  | nil =>
    cases hr
    rfl
  | cons plane planes ih =>
    cases ids with
    | nil =>
      obtain ⟨physical, sinks, hrest, heq⟩ := makeSinks_nil_eq_ok hr
      cases heq
      have hnone : physical = [] := by
        rw [(sunk_of_makeSinks hrest).reserved, List.take_nil]
      have hrest' := ih hrest
      subst hnone
      cases i with
      | zero => rfl
      | succ i => exact hrest' i
    | cons id ids =>
      obtain ⟨crtcId, connId, physical, sinks, _, _, hrest, heq⟩ := makeSinks_cons_eq_ok hr
      cases heq
      cases i with
      | zero => rfl
      | succ i => exact ih hrest i

theorem reserves_of_init (he : e.primary.Sane) (hr : init caps e k h = .ok (v, h')) :
    v.Reserves := by
  obtain ⟨hwindows, hkeys, _⟩ := sinks_of_init hr
  obtain ⟨hsunk, _⟩ := init_eq_ok hr
  constructor
  · intro hzero
    rw [hsunk.reserved] at hzero
    have hmem := List.mem_of_mem_take hzero
    rw [e.getPlanes_eq, Lists.mem_flatMap_filter] at hmem
    obtain ⟨p, hp, hid, _⟩ := hmem
    exact he.planeIds_ne (hid ▸ List.mem_map_of_mem hp)
  · intro wId sink hsink
    rw [init, Prog.bind_eq_ok] at hr
    obtain ⟨⟨physical, sinks⟩, _, hlift, hr⟩ := hr
    obtain ⟨hsinks, rfl⟩ := Prog.lift_eq_ok.1 hlift
    obtain ⟨_, hv, _⟩ := updatePlanes_eq_ok hr
    have hplane := planeId_of_makeSinks hsinks wId
    rw [Lists.lookup_of_keys_range hkeys] at hsink
    rw [hv] at hsink ⊢
    obtain ⟨q, hq, rfl⟩ := Option.map_eq_some_iff.1 hsink
    rw [hq] at hplane
    obtain ⟨_, _, heq⟩ := Option.map_eq_some_iff.1 hplane.symm
    exact heq.symm

/-- Nothing reserves planes later. -/
theorem physicalPlanes_of_step {op : Op} (hr : v.run op k h = .ok (v', h')) :
    v'.physicalPlanes = v.physicalPlanes := by
  cases op with
  | hotplug =>
    rw [run, Prog.call_eq_ok] at hr
    cases hr
    rfl
  | updateDevice name =>
    obtain ⟨called, e', h₁, _, hu⟩ := updateDevice_eq_ok hr
    cases called with
    | false =>
      obtain ⟨rfl, _⟩ := hu
      rfl
    | true =>
      rw [if_pos rfl] at hu
      rw [(updatePlanes_eq_ok hu).2.1]
  | setDisplayResolution win displayPath =>
    simp only [run, Prog.bind_eq_ok, Prog.pure_eq_ok] at hr
    obtain ⟨⟨r, v₁⟩, h₁, hset, hr⟩ := hr
    cases hr
    obtain ⟨e', _, rfl⟩ := outcome_of_setDisplayResolution hset
    rfl
  | getSupportedResolutions dispIndex =>
    simp only [run, Prog.bind_eq_ok, Prog.pure_eq_ok] at hr
    obtain ⟨_, _, _, hr⟩ := hr
    cases hr
    rfl
  | connect wId planeId =>
    rw [run, Prog.pure_eq_ok] at hr
    cases hr
    rcases connects_connect wId planeId with ⟨heq, _⟩ | ⟨sink, _, heq⟩
    · rw [heq]
    · rw [heq]
      rfl
  | disconnect wId =>
    rw [run, Prog.pure_eq_ok] at hr
    cases hr
    rcases connects_disconnect wId with ⟨heq, _⟩ | ⟨sink, _, heq⟩
    · rw [heq]
    · rw [heq]
      rfl
  | applyScaling wId inputRegion outputRegion =>
    simp only [run, Prog.bind_eq_ok, Prog.pure_eq_ok] at hr
    obtain ⟨⟨r, v₁⟩, h₁, hscale, hr⟩ := hr
    cases hr
    rcases applyScaling_eq_ok hscale with rfl | rfl <;> rfl
  | getParam control wId =>
    simp only [run, Prog.bind_eq_ok, Prog.pure_eq_ok] at hr
    obtain ⟨⟨r, v₁⟩, h₁, hget, hr⟩ := hr
    cases hr
    rcases getParam_eq_ok hget with rfl | ⟨conns, rfl⟩ <;> rfl
  | getVideoPlanes =>
    rw [run, Prog.pure_eq_ok] at hr
    cases hr
    rfl

theorem reserves_step (hv : v.Reserves) {op : Op} (hr : v.run op k h = .ok (v', h')) :
    v'.Reserves := by
  have hplanes := physicalPlanes_of_step hr
  obtain ⟨_, _, hlookup⟩ := sinks_of_step hr
  refine ⟨hplanes ▸ hv.planes, fun wId sink hsink => ?_⟩
  rw [hlookup] at hsink
  obtain ⟨sink₀, hsink₀, rfl⟩ := Option.map_eq_some_iff.1 hsink
  rw [hplanes]
  exact hv.sinks wId sink₀ hsink₀

theorem reserves_of_run (hs : k.Sane) (hnew : new caps k [] = .ok (v₀, h₀))
    (hrun : Run (Step k) (v₀, h₀) ops (v, h)) : v.Reserves := by
  obtain ⟨e, h₁, he, hinit⟩ := new_eq_ok hnew
  exact hrun.invariant (fun s => s.1.Reserves)
    (reserves_of_init (DRIElements.kept_new hs he).sane hinit) fun _ _ _ hv hstep =>
      reserves_step hv hstep

/-! ## What a caller is told -/

/-- `getParam` reports a plane for a window. -/
def Reports (v : ValVideoImpl) (wId planeId : ℕ) : Prop :=
  ∀ (w : ℤ) k h, (w % 2 ^ 32).toNat = wId → ∃ reply,
    v.getParam .drmResources (some w) k h = .ok ((reply, v), h) ∧
      reply.lookup "planeId" = some (planeId : ℤ)

theorem reports_of_sink {wId planeId : ℕ} {sink : SinkInfo}
    (hsink : v.videoSinks.lookup wId = some sink) (hplane : sink.planeId = planeId) :
    v.Reports wId planeId := by
  rintro w k h rfl
  refine ⟨[("returnValue", 1), ("planeId", sink.planeId), ("crtcId", sink.crtcId),
    ("connId", sink.connId)], ?_, ?_⟩
  · rw [getParam, hsink]
    rfl
  · rw [← hplane]
    rfl

/-- After a `connect` that returns true the window is connected, and the variable
    of the caller has the plane that is reserved for it, the one that `getParam`
    reports. -/
def TellsPlane (v : ValVideoImpl) (wId planeId : ℕ) : Prop :=
  (v.connect wId planeId).1 = true →
    (v.connect wId planeId).2.2.isSinkConnected wId = true ∧ ∃ p,
      v.physicalPlanes[wId]? = some p ∧ p ≠ 0 ∧ (v.connect wId planeId).2.1 = p ∧
        (v.connect wId planeId).2.2.Reports wId p

/-- No window without a plane is connected. -/
def DummiesIdle (v : ValVideoImpl) : Prop :=
  ∀ wId, v.physicalPlanes[wId]? = none → v.isSinkConnected wId = false

/-- A caller is told the plane of a window if there is one, and if the variable
    has it already where the window is connected already. -/
theorem tellsPlane_iff (hv : v.Reserves) {wId planeId : ℕ} : v.TellsPlane wId planeId ↔
    ∀ sink, v.videoSinks.lookup wId = some sink → ∃ p, v.physicalPlanes[wId]? = some p ∧
      (sink.connected = true → planeId = p) := by
  rw [TellsPlane, connect]
  cases hsink : v.videoSinks.lookup wId with
  | none => simp
  | some sink =>
    have hplane := hv.sinks wId sink hsink
    dsimp only
    by_cases hc : sink.connected = true
    · rw [if_pos hc]
      constructor
      · rintro htold s hs
        obtain rfl := Option.some.inj hs
        obtain ⟨_, p, hp, _, heq, _⟩ := htold rfl
        exact ⟨p, hp, fun _ => heq⟩
      · intro hp _
        obtain ⟨p, hp, heq⟩ := hp sink rfl
        rw [hp, Option.getD_some] at hplane
        refine ⟨by rw [isSinkConnected, hsink]; exact hc, p, hp, ?_, heq hc,
          reports_of_sink hsink hplane⟩
        exact ne_of_mem_of_not_mem (List.mem_of_getElem? hp) hv.planes
    · rw [if_neg hc]
      have hset : (v.setSink wId { sink with connected := true }).videoSinks.lookup wId =
          some { sink with connected := true } := by
        rw [lookup_setSink, if_pos rfl, hsink]
        rfl
      constructor
      · rintro htold s hs
        obtain rfl := Option.some.inj hs
        obtain ⟨_, p, hp, _, _, _⟩ := htold rfl
        exact ⟨p, hp, fun hc' => absurd hc' hc⟩
      · intro hp _
        obtain ⟨p, hp, _⟩ := hp sink rfl
        rw [hp, Option.getD_some] at hplane
        refine ⟨by rw [isSinkConnected, hset], p, hp, ?_, hplane, reports_of_sink hset hplane⟩
        exact ne_of_mem_of_not_mem (List.mem_of_getElem? hp) hv.planes

/-- In every reachable state, a `connect` tells the plane of the window, and no
    window without one is connected, if and only if the window has a plane, which
    the variable names if it is connected already, and the last operation on the
    connection of a window without a plane was not a `connect`. -/
theorem connect_sound_iff (hs : k.Sane) (hnew : new caps k [] = .ok (v₀, h₀))
    (hrun : Run (Step k) (v₀, h₀) ops (v, h)) (wId planeId : ℕ) :
    (v.TellsPlane wId planeId ∧ v.DummiesIdle) ↔
      (∀ sink, v.videoSinks.lookup wId = some sink → ∃ p, v.physicalPlanes[wId]? = some p ∧
        (sink.connected = true → planeId = p)) ∧
      ∀ w, v.isValidSink w = true → v.physicalPlanes[w]? = none →
        ops.findSome? (Op.connects w) ≠ some true := by
  rw [tellsPlane_iff (reserves_of_run hs hnew hrun)]
  refine and_congr_right fun _ => forall_congr' fun w => ?_
  obtain ⟨e, h₁, _, hinit⟩ := new_eq_ok hnew
  have hlookup := (lookup_of_run hinit hrun).2 w
  rw [isSinkConnected, isValidSink, hlookup]
  cases v₀.videoSinks.lookup w with
  | none => simp
  | some sink => cases ops.findSome? (Op.connects w) <;> simp

/-- The first of two windows is connected, and there is one plane. -/
theorem connect_sound_first_window : ∃ v₀ h₀ v h,
    new .fullHd (.willing fun _ => .oneDisplay) [] = .ok (v₀, h₀) ∧
      Run (Step (.willing fun _ => .oneDisplay)) (v₀, h₀) [.connect 0 0] (v, h) ∧
        v.TellsPlane 0 41 ∧ v.DummiesIdle := by
  let k : Kernel := .willing fun _ => .oneDisplay
  have hrun : (new .fullHd k []).map (fun s => (s.1.connect 0 0).2.2.physicalPlanes) =
      .ok [41] := by
    decide +kernel
  obtain ⟨⟨v₀, h₀⟩, hnew, hplanes⟩ := Prog.exists_of_map_eq_ok hrun
  have hsteps : Run (Step k) (v₀, h₀) [.connect 0 0] ((v₀.connect 0 0).2.2, h₀) := .step .nil rfl
  refine ⟨v₀, h₀, _, _, hnew, hsteps, (connect_sound_iff
    (Kernel.scripted_sane _ _ _ _ fun _ => Card.oneDisplay_sane) hnew hsteps 0 41).2 ⟨?_, ?_⟩⟩
  · intro sink _
    exact ⟨41, by rw [hplanes]; rfl, fun _ => rfl⟩
  · intro w _ hnone
    -- the window that is connected has the plane
    rw [hplanes] at hnone
    have hw : (0 : ℕ) ≠ w := by
      rintro rfl
      cases hnone
    rw [List.findSome?_cons, Op.connects, if_neg hw]
    simp

/-- With one plane for two windows, both are connected, and a second `connect` of
    the first one leaves the variable of the caller as it was. -/
theorem connect_tells_nothing : ∃ v₀ h₀ v h,
    new .fullHd (.willing fun _ => .oneDisplay) [] = .ok (v₀, h₀) ∧
      Run (Step (.willing fun _ => .oneDisplay)) (v₀, h₀) [.connect 1 7, .connect 0 7] (v, h) ∧
        v.physicalPlanes = [41] ∧ ((v.connect 0 7).1 = true ∧ (v.connect 0 7).2.1 = 7) ∧
          v.isSinkConnected 1 = true ∧ ¬ v.TellsPlane 0 7 ∧ ¬ v.DummiesIdle := by
  let k : Kernel := .willing fun _ => .oneDisplay
  let after (v : ValVideoImpl) : ValVideoImpl := ((v.connect 0 7).2.2.connect 1 7).2.2
  have hrun : (new .fullHd k []).map (fun s => ((after s.1).physicalPlanes,
      ((after s.1).connect 0 7).1, ((after s.1).connect 0 7).2.1, (after s.1).isSinkConnected 1)) =
        .ok ([41], true, 7, true) := by
    decide +kernel
  obtain ⟨⟨v₀, h₀⟩, hnew, hobs⟩ := Prog.exists_of_map_eq_ok hrun
  obtain ⟨hplanes, hobs⟩ := Prod.mk.inj hobs
  obtain ⟨htrue, hobs⟩ := Prod.mk.inj hobs
  obtain ⟨hvar, hconnected⟩ := Prod.mk.inj hobs
  refine ⟨v₀, h₀, after v₀, h₀, hnew, .step (.step .nil rfl) rfl, hplanes, ⟨htrue, hvar⟩,
    hconnected, fun htold => ?_, fun hidle => ?_⟩
  · obtain ⟨_, p, hp, _, heq, _⟩ := htold htrue
    rw [hplanes] at hp
    cases hp
    exact absurd (hvar.symm.trans heq) (by decide)
  · rw [hidle 1 (by rw [hplanes]; rfl)] at hconnected
    cases hconnected

end ValVideoImpl

end ValRpi
