import ValRpi.Lib.Lists
import ValRpi.Load
import ValRpi.Video

/-!
# Planes and sinks

The constructor reserves a plane of the hardware for each window, in the order
of `getPlanes`, and looks up the CRTC and the connector of each plane.

* `getPlanes` goes through the CRTCs that have connectors, and for each through
  the planes it can scan out. A plane that two of them can scan out is listed
  twice, and two windows share it: `init_exclusive_iff`.
-/

namespace ValRpi

variable {k : Kernel} {h h' : History}

namespace DRIElements

/-- `getPlanes` flattens the relation between CRTCs and planes. -/
theorem getPlanes_eq (e : DRIElements) : e.getPlanes =
    e.primary.crtcList.flatMap fun crtc =>
      (e.primary.planeList.filter (offers crtc)).map Plane.planeId := by
  rw [getPlanes]
  refine List.flatMap_congr fun crtc _ => ?_
  by_cases hc : crtc.connectors = []
  · have hoffers : offers crtc = fun _ => false := by
      funext p
      simp [offers, hc]
    simp [hc, hoffers]
  · have hoffers : offers crtc = fun p => p.possibleCrtcs.testBit crtc.crtcIndex := by
      funext p
      simp [offers, hc]
    simp [hc, hoffers]

theorem getPlanes_touch (e : DRIElements) : e.touch.getPlanes = e.getPlanes := by
  rw [getPlanes, primary_touch, getPlanes]

/-- The planes that a CRTC with a connector can scan out, each once. -/
def PlanesOnce (e : DRIElements) : Prop :=
  (∀ id, id ∈ e.getPlanes ↔ ∃ p ∈ e.primary.planeList, p.planeId = id ∧
    ∃ crtc ∈ e.primary.crtcList, offers crtc p = true) ∧ e.getPlanes.Nodup

end DRIElements

namespace ValVideoImpl

variable {v : ValVideoImpl} {caps : DeviceCapability} {e : DRIElements}

/-! ## Sinks -/

theorem makeSinks_nil_eq_ok {plane : ValPlane} {planes : List ValPlane}
    {r : List ℕ × List (ℕ × SinkInfo)} (hr : makeSinks e (plane :: planes) [] = .ok r) :
    ∃ physical sinks, makeSinks e planes [] = .ok (physical, sinks) ∧
      r = (physical, (plane.wId, ⟨0, 0, 0, false⟩) :: sinks) := by
  rw [makeSinks] at hr
  cases hrest : makeSinks e planes [] with
  | error _ => rw [hrest] at hr; cases hr
  | ok rest =>
    rw [hrest] at hr
    cases hr
    exact ⟨_, _, rfl, rfl⟩

theorem makeSinks_cons_eq_ok {plane : ValPlane} {planes : List ValPlane} {id : ℕ} {ids : List ℕ}
    {r : List ℕ × List (ℕ × SinkInfo)} (hr : makeSinks e (plane :: planes) (id :: ids) = .ok r) :
    ∃ crtcId connId physical sinks, e.getCrtcId id = .ok crtcId ∧ e.getConnId id = .ok connId ∧
      makeSinks e planes ids = .ok (physical, sinks) ∧
        r = (id :: physical, (plane.wId, ⟨id, crtcId, connId, false⟩) :: sinks) := by
  rw [makeSinks] at hr
  cases hcrtc : e.getCrtcId id with
  | error _ => rw [hcrtc] at hr; cases hr
  | ok crtcId =>
    cases hconn : e.getConnId id with
    | error _ => rw [hcrtc, hconn] at hr; cases hr
    | ok connId =>
      cases hrest : makeSinks e planes ids with
      | error _ => rw [hcrtc, hconn, hrest] at hr; cases hr
      | ok rest =>
        rw [hcrtc, hconn, hrest] at hr
        cases hr
        exact ⟨crtcId, connId, _, _, rfl, rfl, rfl, rfl⟩

/-- The constructor is that of `driElements` and the rest: the callback finds no
    windows yet. -/
theorem new_eq (caps : DeviceCapability) :
    new caps = DRIElements.new caps.mMaxResolution >>= init caps := by
  rw [new, DRIElements.new, bind_assoc]
  refine bind_congr fun r => ?_
  obtain ⟨device, e⟩ := r
  cases device <;> rfl

/-- What the sinks are for a list of planes of the hardware: the first ones are
    reserved, and a sink that has a plane has one of these, with the CRTC and
    the connector found for it. -/
structure Sunk (d : DriDevice) (n : ℕ) (ids physical : List ℕ) (sinks : List (ℕ × SinkInfo)) :
    Prop where
  reserved : physical = ids.take n
  route : ∀ q ∈ sinks, q.2.planeId ≠ 0 → q.2.planeId ∈ physical ∧
    d.findCrtcOfPlane q.2.planeId = .ok q.2.crtcId ∧ d.findConnector q.2.planeId = .ok q.2.connId
  all : ∀ id ∈ physical, ∃ q ∈ sinks, q.2.planeId = id
  apart : ids.Nodup → sinks.Pairwise fun a b =>
    a.2.planeId ≠ 0 → b.2.planeId ≠ 0 → a.2.planeId ≠ b.2.planeId

theorem sunk_of_makeSinks {planes : List ValPlane} {ids physical : List ℕ}
    {sinks : List (ℕ × SinkInfo)} (hr : makeSinks e planes ids = .ok (physical, sinks)) :
    Sunk e.primary planes.length ids physical sinks := by
  induction planes generalizing ids physical sinks with
  | nil =>
    cases hr
    exact ⟨rfl, by simp, by simp, fun _ => .nil⟩
  | cons plane planes ih =>
    cases ids with
    | nil =>
      obtain ⟨physical, sinks, hrest, heq⟩ := makeSinks_nil_eq_ok hr
      cases heq
      have hs := ih hrest
      refine ⟨by rw [hs.reserved]; simp, ?_, fun id hid => ?_, fun hids => ?_⟩
      · exact List.forall_mem_cons.2 ⟨fun hne => absurd rfl hne, hs.route⟩
      · obtain ⟨q, hq, hid⟩ := hs.all id hid
        exact ⟨q, List.mem_cons_of_mem _ hq, hid⟩
      · exact .cons (fun q _ hne => absurd rfl hne) (hs.apart hids)
    | cons id ids =>
      obtain ⟨crtcId, connId, physical, sinks, hcrtc, hconn, hrest, heq⟩ := makeSinks_cons_eq_ok hr
      cases heq
      have hs := ih hrest
      refine ⟨by rw [hs.reserved]; simp, List.forall_mem_cons.2
        ⟨fun _ => ⟨List.mem_cons_self, hcrtc, hconn⟩, fun q hq hne => ?_⟩, fun x hx => ?_,
        fun hids => ?_⟩
      · obtain ⟨hmem, hroute⟩ := hs.route q hq hne
        exact ⟨List.mem_cons_of_mem _ hmem, hroute⟩
      · rcases List.mem_cons.1 hx with rfl | hx
        · exact ⟨_, List.mem_cons_self, rfl⟩
        · obtain ⟨q, hq, hid⟩ := hs.all x hx
          exact ⟨q, List.mem_cons_of_mem _ hq, hid⟩
      · obtain ⟨hnot, hids⟩ := List.nodup_cons.1 hids
        refine .cons (fun q hq _ hne => ?_) (hs.apart hids)
        rintro (rfl : id = q.2.planeId)
        -- a later sink has one of the planes after this one
        have hmem := (hs.route q hq hne).1
        rw [hs.reserved] at hmem
        exact hnot (List.mem_of_mem_take hmem)

/-- The constructor makes the sinks for the planes of `getPlanes`. -/
theorem init_eq_ok (hr : init caps e k h = .ok (v, h')) :
    Sunk e.primary caps.mPlaneNames.length e.getPlanes v.physicalPlanes v.videoSinks ∧
      v.driElements.primary = e.primary := by
  rw [init, Prog.bind_eq_ok] at hr
  obtain ⟨⟨physical, sinks⟩, h₁, hlift, hr⟩ := hr
  obtain ⟨hsinks, rfl⟩ := Prog.lift_eq_ok.1 hlift
  have hs := sunk_of_makeSinks hsinks
  simp only [updatePlanes, Prog.bind_eq_ok, Prog.pure_eq_ok] at hr
  obtain ⟨⟨planes, _⟩, _, _, hr⟩ := hr
  cases hr
  have hlen : (makePlanes caps).length = caps.mPlaneNames.length := by simp [makePlanes]
  rw [hlen, DRIElements.primary_touch, DRIElements.getPlanes_touch] at hs
  refine ⟨hs, ?_⟩
  dsimp only
  split <;> simp

/-! ## Exclusive planes -/

/-- Two windows that have planes have different ones. -/
def Exclusive (v : ValVideoImpl) : Prop :=
  ∀ w₁ w₂ s₁ s₂, v.videoSinks.lookup w₁ = some s₁ → v.videoSinks.lookup w₂ = some s₂ → w₁ ≠ w₂ →
    s₁.planeId ≠ 0 → s₂.planeId ≠ 0 → s₁.planeId ≠ s₂.planeId

theorem exclusive_of_pairwise (h : v.videoSinks.Pairwise fun a b =>
    a.2.planeId ≠ 0 → b.2.planeId ≠ 0 → a.2.planeId ≠ b.2.planeId) : v.Exclusive := by
  intro w₁ w₂ s₁ s₂ h₁ h₂ hne hne₁ hne₂
  have hsymm : Std.Symm fun a b : ℕ × SinkInfo =>
      a.2.planeId ≠ 0 → b.2.planeId ≠ 0 → a.2.planeId ≠ b.2.planeId :=
    ⟨fun _ _ h hb ha => (h ha hb).symm⟩
  have hpair : (w₁, s₁) ≠ (w₂, s₂) := fun heq => hne (Prod.mk.inj heq).1
  exact h.forall (Lists.mem_of_lookup h₁) (Lists.mem_of_lookup h₂) hpair hne₁ hne₂

/-- Planes are listed once, and windows share none, if and only if no plane can
    be scanned out by two CRTCs with connectors. -/
theorem init_exclusive_iff (hids : (e.primary.planeList.map Plane.planeId).Nodup)
    (hr : init caps e k h = .ok (v, h')) : (e.PlanesOnce ∧ v.Exclusive) ↔
      ∀ p ∈ e.primary.planeList,
        (e.primary.crtcList.filter (DRIElements.offers · p)).length ≤ 1 := by
  have hs := (init_eq_ok hr).1
  rw [← Lists.nodup_flatMap_filter_iff hids, ← e.getPlanes_eq]
  constructor
  · exact fun hp => hp.1.2
  · intro hnodup
    refine ⟨⟨fun id => ?_, hnodup⟩, exclusive_of_pairwise (hs.apart hnodup)⟩
    rw [e.getPlanes_eq]
    exact Lists.mem_flatMap_filter

/-- On two displays with a plane each, planes are listed once, and the windows have
    different ones. -/
theorem init_exclusive_two_displays : ∃ e h₀ v h,
    DRIElements.new ⟨1920, 1080⟩ (.willing fun _ => .planeEach) [] = .ok (e, h₀) ∧
      init .fullHd e (.willing fun _ => .planeEach) h₀ = .ok (v, h) ∧
        v.videoSinks.map (fun q => (q.1, q.2.planeId)) = [(0, 41), (1, 42)] ∧
          e.PlanesOnce ∧ v.Exclusive := by
  have hrun : (DRIElements.new ⟨1920, 1080⟩ (.willing fun _ => .planeEach) []).map (fun s =>
      (decide ((s.1.primary.planeList.map Plane.planeId).Nodup ∧ ∀ p ∈ s.1.primary.planeList,
        (s.1.primary.crtcList.filter (DRIElements.offers · p)).length ≤ 1),
      (init .fullHd s.1 (.willing fun _ => .planeEach) s.2).map fun r =>
        r.1.videoSinks.map fun q => (q.1, q.2.planeId))) =
        .ok (true, .ok [(0, 41), (1, 42)]) := by
    decide +kernel
  obtain ⟨⟨e, h₀⟩, hnew, hobs⟩ := Prog.exists_of_map_eq_ok hrun
  obtain ⟨hcond, hinit⟩ := Prod.mk.inj hobs
  obtain ⟨⟨v, h⟩, hinit, hsinks⟩ := Prog.exists_of_map_eq_ok hinit
  obtain ⟨hids, hone⟩ := of_decide_eq_true hcond
  exact ⟨e, h₀, v, h, hnew, hinit, hsinks, (init_exclusive_iff hids hinit).2 hone⟩

/-- With two displays, the plane for both CRTCs is listed twice, and both
    windows have it. -/
theorem init_shares_plane : ∃ v h,
    new .fullHd (.willing fun _ => .twoDisplays) [] = .ok (v, h) ∧
      v.driElements.getPlanes = [41, 41] ∧ ¬ v.driElements.PlanesOnce ∧ ¬ v.Exclusive := by
  have hrun : (new .fullHd (.willing fun _ => .twoDisplays) []).map (fun s =>
      (s.1.driElements.getPlanes, s.1.videoSinks.lookup 0, s.1.videoSinks.lookup 1)) =
        .ok ([41, 41], some ⟨41, 31, 21, false⟩, some ⟨41, 31, 21, false⟩) := by
    decide +kernel
  obtain ⟨⟨v, h⟩, hnew, hobs⟩ := Prog.exists_of_map_eq_ok hrun
  obtain ⟨hplanes, hobs⟩ := Prod.mk.inj hobs
  obtain ⟨h₀, h₁⟩ := Prod.mk.inj hobs
  refine ⟨v, h, hnew, hplanes, fun honce => ?_, fun hexcl => ?_⟩
  · exact absurd (hplanes ▸ honce.2) (by decide)
  · exact hexcl 0 1 _ _ h₀ h₁ (by decide) (by decide) (by decide) rfl

end ValVideoImpl

end ValRpi
