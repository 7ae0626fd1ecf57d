import ValRpi.Planes
import ValRpi.Reach

/-!
# Routes

The way from a plane to a display: the plane is scanned out by a CRTC, which has
a connector. A sink holds such a way, put together by three searches that know
nothing of each other: `getPlanes` takes planes of any CRTC with a connector,
`findCrtc` the CRTC of the lowest bit of the plane, and `findConnector` the
first connector that has this CRTC.

* `routedTo` are the connectors that have a CRTC. After the setup of a device
  as it was loaded, a CRTC names the last one of them (`DriDevice.Routed`);
* hence the three searches agree if and only if the CRTC of the lowest bit has
  exactly one connector (`init_coherent_iff`).
-/

namespace ValRpi

variable {k : Kernel} {h h' : History}

/-- The connectors that have a CRTC, in order. -/
def routedTo (conns : List DrmConnector) (crtcId : ℕ) : List ℕ :=
  (conns.filter (·.crtcId == crtcId)).map (·.connectorId)

theorem routedTo_append (conns conns' : List DrmConnector) (crtcId : ℕ) :
    routedTo (conns ++ conns') crtcId = routedTo conns crtcId ++ routedTo conns' crtcId := by
  rw [routedTo, List.filter_append, List.map_append, routedTo, routedTo]

/-- Another answer of the kernel does not change where connectors go. -/
theorem routedTo_congr {conns conns' : List DrmConnector}
    (hconns : List.Forall₂ DrmConnector.Refreshed conns conns') (crtcId : ℕ) :
    routedTo conns' crtcId = routedTo conns crtcId := by
  induction hconns with
  | nil => rfl
  | @cons c c' _ _ hc _ ih =>
    rw [routedTo, routedTo, List.filter_cons, List.filter_cons, hc.crtcId]
    split
    · rw [List.map_cons, List.map_cons, hc.connectorId]
      exact congrArg _ ih
    · exact ih

theorem nodup_routedTo {conns : List DrmConnector} (hids : (conns.map (·.connectorId)).Nodup)
    (crtcId : ℕ) : (routedTo conns crtcId).Nodup :=
  hids.sublist (List.filter_sublist.map _)

/-! ## The setup of a loaded device -/

/-- The setup of a connector, whatever the kernel answers. -/
theorem setupConnector_spec {fd : ℤ} {confMode : Size} {conn conn' : DrmConnector}
    {crtcs crtcs' : List DrmCrtc} (hcrtcs : ReadCrtcs crtcs)
    (hs : setupConnector fd confMode conn crtcs k h = .ok ((conn', crtcs'), h')) :
    ∃ p id min max, p.connectorId = conn.connectorId ∧
      conn' = { conn with mConnectorPtr := p, crtcId := if id = 0 then conn.crtcId else id } ∧
        crtcs' = crtcs.map fun c =>
          if id == c.id then c.assign conn.connectorId confMode min max else c := by
  obtain ⟨plugged, conn₁, h₁, hp, hs⟩ := setupConnector_eq_ok hs
  obtain ⟨p, hid, rfl⟩ := DrmConnector.refreshed_of_isPlugged hp
  rcases hs with ⟨_, rfl, rfl⟩ | ⟨_, id, h₂, _, hs⟩
  · exact ⟨p, 0, default, default, hid, rfl, (hcrtcs.map_zero rfl _).symm⟩
  rcases hs with ⟨rfl, rfl, rfl⟩ | ⟨hne, range, h₃, r, hrange, hv⟩
  · exact ⟨p, 0, default, default, hid, rfl, (hcrtcs.map_zero rfl _).symm⟩
  · obtain ⟨q, hid', rfl⟩ := refreshed_of_getModeRange hrange
    refine ⟨q, id, _, _, hid'.trans hid, ?_, visitFirst_assignRange hcrtcs hv⟩
    rw [if_neg hne]
    rfl

namespace DriDevice

variable {d d' : DriDevice}

/-- Every CRTC names the last of the connectors that have it. -/
def Routed (d : DriDevice) : Prop :=
  ∀ c ∈ d.crtcList, c.connectors = (routedTo d.connectorList c.id).getLast?.toList

theorem routed_of_setupDevice {confMode : Size} (hd : d.Untouched)
    (hs : d.setupDevice confMode k h = .ok (d', h')) : d'.Routed := by
  obtain ⟨conns, crtcs, new, hnew, hloop, rfl⟩ := setupDevice_eq_ok hs
  -- the connectors behind are set up, those ahead have no CRTC yet
  have hinv := Prog.forEach_inPlace
    (fun behind ahead crtcs _ => ReadCrtcs crtcs ∧ (∀ conn ∈ ahead, conn.crtcId = 0) ∧
      ∀ c ∈ crtcs, c.connectors = (routedTo behind c.id).getLast?.toList)
    (fun behind conn ahead crtcs conn' crtcs' l l' hinv hf => ?_) []
    ⟨hd.sane.readCrtcs, hd.unrouted, fun c hc => (hd.blank c hc).connectors⟩ hloop
  · exact hinv.2.2
  · obtain ⟨hcrtcs, hahead, hrouted⟩ := hinv
    obtain ⟨hzero, hahead⟩ := List.forall_mem_cons.1 hahead
    obtain ⟨p, id, min, max, hid, rfl, rfl⟩ := setupConnector_spec hcrtcs hf
    refine ⟨hcrtcs.map fun c => by split <;> rfl, hahead, List.forall_mem_map.2 fun c hc => ?_⟩
    have hcrtcId : (if id = 0 then conn.crtcId else id) = id := by
      rw [hzero]
      split
      next h0 => exact h0.symm
      · rfl
    rw [routedTo_append, hcrtcId]
    by_cases hc' : id == c.id
    · rw [if_pos hc', DrmCrtc.assign_eq]
      have hone : routedTo [{ conn with mConnectorPtr := p, crtcId := id }] c.id =
          [conn.connectorId] := by
        rw [routedTo, List.filter_cons_of_pos (by exact hc')]
        exact congrArg (fun x => [x]) hid
      change [conn.connectorId] = (_ ++ routedTo _ c.id).getLast?.toList
      rw [hone, List.getLast?_concat]
      rfl
    · have hnone : routedTo [{ conn with mConnectorPtr := p, crtcId := id }] c.id = [] := by
        rw [routedTo, List.filter_cons_of_neg (by exact hc')]
        rfl
      rw [if_neg hc', hnone, List.append_nil]
      exact hrouted c hc

theorem Remoded.routed (hr : d.Remoded d') (hd : d.Routed) : d'.Routed := by
  intro c' hc'
  obtain ⟨c, hc, _, _, _, rfl⟩ := Prog.exists_rel_of_mem hr.crtcs hc'
  rw [routedTo_congr hr.connectors]
  exact hd c hc

end DriDevice

/-- After the constructor, every CRTC names the last of the connectors that have it. -/
theorem DRIElements.routed_new (hs : k.Sane) {defMode : Size} {e : DRIElements}
    (hnew : new defMode k h = .ok (e, h')) : e.primary.Routed := by
  obtain ⟨e₀, h₀, hload, hnew⟩ := new_eq_ok hnew
  obtain ⟨⟨devices, rfl⟩, _, huntouched⟩ := loadResources_spec rfl hload
  rcases hnew with ⟨rfl, rfl, hnone⟩ | ⟨name, d₀, d₁, d₂, h₁, _, hd₀, hsetup, hmodes, rfl⟩
  · obtain rfl : devices = [] := hnone
    intro c hc
    cases hc
  · have hd₀' := huntouched hs _ (Lists.mem_of_lookup hd₀)
    have hd₂ := (remoded_of_setActiveModes hmodes).routed
      (DriDevice.routed_of_setupDevice hd₀' hsetup)
    simpa [primary, lookup_mapSet] using hd₂

/-! ## Lookups -/

namespace DriDevice

variable {d : DriDevice}

/-- The CRTC of the lowest bit of a plane. -/
def lowestCrtc (d : DriDevice) (p : Plane) : Option DrmCrtc :=
  d.crtcList.find? (·.crtcIndex == lowestBit p.possibleCrtcs)

theorem findCrtcOfPlane_eq (hd : d.Sane) {p : Plane} (hp : p ∈ d.planeList) :
    d.findCrtcOfPlane p.planeId = .ok (((d.lowestCrtc p).map DrmCrtc.id).getD 0) := by
  rw [findCrtcOfPlane, Lists.find?_key hd.planeIds hp, lowestCrtc]
  dsimp only
  cases hc : d.crtcList.find? (·.crtcIndex == lowestBit p.possibleCrtcs) with
  | none => rfl
  | some c => exact c.crtcId_eq (hd.crtcs c (List.mem_of_find?_eq_some hc))

theorem findConnector_eq {planeId crtcId : ℕ} (hc : d.findCrtcOfPlane planeId = .ok crtcId)
    (hne : crtcId ≠ 0) :
    d.findConnector planeId = .ok ((routedTo d.connectorList crtcId).head?.getD 0) := by
  rw [findConnector, hc, routedTo, List.head?_map, List.head?_filter]
  exact if_pos hne

/-- The first connector that has a CRTC is the one that the CRTC names if and
    only if there is exactly one. -/
theorem Routed.head_mem_iff (hr : d.Routed) (hd : d.Sane) {c : DrmCrtc} (hc : c ∈ d.crtcList) :
    (routedTo d.connectorList c.id).head?.getD 0 ∈ c.connectors ↔
      (routedTo d.connectorList c.id).length = 1 := by
  rw [hr c hc]
  exact Lists.head?_mem_getLast?_iff (nodup_routedTo hd.connectorIds c.id) 0

/-- The route that is looked up for a plane is coherent if and only if the CRTC
    of its lowest bit has exactly one connector. -/
theorem Routed.route_iff (hr : d.Routed) (hd : d.Sane) {p : Plane} (hp : p ∈ d.planeList)
    {crtcId connId : ℕ} (hcrtc : d.findCrtcOfPlane p.planeId = .ok crtcId)
    (hconn : d.findConnector p.planeId = .ok connId) :
    (∃ c ∈ d.crtcList, c.crtcId = .ok crtcId ∧ p.possibleCrtcs.testBit c.crtcIndex = true ∧
      c.connectors ≠ [] ∧ connId ∈ c.connectors) ↔
      ∃ c ∈ d.lowestCrtc p, p.possibleCrtcs.testBit c.crtcIndex = true ∧
        (routedTo d.connectorList c.id).length = 1 := by
  have hne {c : DrmCrtc} (hc : c ∈ d.crtcList) : c.id ≠ 0 := fun h0 =>
    hd.crtcIds_ne (h0 ▸ List.mem_map_of_mem hc)
  have hlow := hcrtc.symm.trans (findCrtcOfPlane_eq hd hp)
  -- the connector is the first one that has the CRTC
  have hhead {c : DrmCrtc} (hc : c ∈ d.crtcList) (hid : crtcId = c.id) :
      connId ∈ c.connectors ↔ (routedTo d.connectorList c.id).length = 1 := by
    obtain rfl := hid
    rw [← hr.head_mem_iff hd hc,
      Except.ok.inj (hconn.symm.trans (findConnector_eq hcrtc (hne hc)))]
  constructor
  · rintro ⟨c, hc, hid, hbit, _, hmem⟩
    have hcid : crtcId = c.id :=
      Except.ok.inj (hid.symm.trans (DrmCrtc.crtcId_eq (hd.crtcs c hc)))
    cases hfound : d.lowestCrtc p with
    | none =>
      rw [hfound] at hlow
      exact absurd (hcid.symm.trans (Except.ok.inj hlow)) (hne hc)
    | some c' =>
      rw [hfound] at hlow
      have hc' : c' ∈ d.crtcList := List.mem_of_find?_eq_some hfound
      obtain rfl := Lists.eq_of_key_eq hd.crtcIds hc' hc ((Except.ok.inj hlow).symm.trans hcid)
      exact ⟨c', rfl, hbit, (hhead hc hcid).1 hmem⟩
  · rintro ⟨c, hfound, hbit, hone⟩
    have hc : c ∈ d.crtcList := List.mem_of_find?_eq_some hfound
    rw [hfound] at hlow
    have hcid : crtcId = c.id := Except.ok.inj hlow
    have hmem := (hhead hc hcid).2 hone
    exact ⟨c, hc, hcid ▸ DrmCrtc.crtcId_eq (hd.crtcs c hc), hbit, List.ne_nil_of_mem hmem, hmem⟩

end DriDevice

namespace ValVideoImpl

variable {v : ValVideoImpl} {caps : DeviceCapability} {e : DRIElements} {h₀ : History}

/-- Every sink with a plane names a CRTC that can scan out the plane and has
    connectors, and one of these. -/
def Coherent (v : ValVideoImpl) : Prop :=
  ∀ q ∈ v.videoSinks, q.2.planeId ≠ 0 →
    ∃ p ∈ v.driElements.primary.planeList, p.planeId = q.2.planeId ∧
      ∃ c ∈ v.driElements.primary.crtcList, c.crtcId = .ok q.2.crtcId ∧
        p.possibleCrtcs.testBit c.crtcIndex = true ∧ c.connectors ≠ [] ∧ q.2.connId ∈ c.connectors

instance (v : ValVideoImpl) : Decidable v.Coherent :=
  inferInstanceAs (Decidable (∀ q ∈ v.videoSinks, q.2.planeId ≠ 0 →
    ∃ p ∈ v.driElements.primary.planeList, p.planeId = q.2.planeId ∧
      ∃ c ∈ v.driElements.primary.crtcList, c.crtcId = .ok q.2.crtcId ∧
        p.possibleCrtcs.testBit c.crtcIndex = true ∧ c.connectors ≠ [] ∧
          q.2.connId ∈ c.connectors))

/-- The routes of the constructor are coherent if and only if, for each plane
    reserved for a window, the CRTC of its lowest bit has exactly one connector. -/
theorem init_coherent_iff (hs : k.Sane)
    (hnew : DRIElements.new caps.mMaxResolution k [] = .ok (e, h₀))
    (hr : init caps e k h₀ = .ok (v, h')) : v.Coherent ↔
      ∀ p ∈ e.primary.planeList, p.planeId ∈ e.getPlanes.take caps.mPlaneNames.length →
        ∃ c ∈ e.primary.lowestCrtc p, p.possibleCrtcs.testBit c.crtcIndex = true ∧
          (routedTo e.primary.connectorList c.id).length = 1 := by
  obtain ⟨hsunk, hprimary⟩ := init_eq_ok hr
  have hd := (DRIElements.kept_new hs hnew).sane
  have hrouted := DRIElements.routed_new hs hnew
  rw [Coherent, hprimary, ← hsunk.reserved]
  constructor
  · intro hcoh p hp hmem
    obtain ⟨q, hq, hid⟩ := hsunk.all _ hmem
    have hne : q.2.planeId ≠ 0 := fun h0 =>
      hd.planeIds_ne (h0 ▸ hid ▸ List.mem_map_of_mem hp)
    obtain ⟨_, hcrtc, hconn⟩ := hsunk.route q hq hne
    obtain ⟨p', hp', hid', hroute⟩ := hcoh q hq hne
    obtain rfl := Lists.eq_of_key_eq hd.planeIds hp' hp (hid'.trans hid)
    rw [hid] at hcrtc hconn
    exact (hrouted.route_iff hd hp hcrtc hconn).1 hroute
  · intro hall q hq hne
    obtain ⟨hmem, hcrtc, hconn⟩ := hsunk.route q hq hne
    -- a plane of `getPlanes` is one of the device
    have hlisted := List.mem_of_mem_take (hsunk.reserved ▸ hmem)
    rw [e.getPlanes_eq, Lists.mem_flatMap_filter] at hlisted
    obtain ⟨p, hp, hid, _⟩ := hlisted
    rw [← hid] at hcrtc hconn hmem
    exact ⟨p, hp, hid, (hrouted.route_iff hd hp hcrtc hconn).2 (hall p hp hmem)⟩

/-- One display, on the CRTC of its plane. -/
theorem init_coherent_one_display : ∃ e h₀ v h,
    DRIElements.new DeviceCapability.fullHd.mMaxResolution (.willing fun _ => .oneDisplay) [] =
      .ok (e, h₀) ∧
        init .fullHd e (.willing fun _ => .oneDisplay) h₀ = .ok (v, h) ∧ v.Coherent := by
  have hrun : (DRIElements.new DeviceCapability.fullHd.mMaxResolution
      (.willing fun _ => .oneDisplay) []).map (fun s => (decide (∀ p ∈ s.1.primary.planeList,
        p.planeId ∈ s.1.getPlanes.take DeviceCapability.fullHd.mPlaneNames.length →
          ∃ c ∈ s.1.primary.lowestCrtc p, p.possibleCrtcs.testBit c.crtcIndex = true ∧
            (routedTo s.1.primary.connectorList c.id).length = 1),
      (init .fullHd s.1 (.willing fun _ => .oneDisplay) s.2).map fun _ => ())) =
        .ok (true, .ok ()) := by
    decide +kernel
  obtain ⟨⟨e, h₀⟩, hnew, hobs⟩ := Prog.exists_of_map_eq_ok hrun
  obtain ⟨hcond, hinit⟩ := Prod.mk.inj hobs
  obtain ⟨⟨v, h⟩, hinit, _⟩ := Prog.exists_of_map_eq_ok hinit
  exact ⟨e, h₀, v, h, hnew, hinit,
    (init_coherent_iff (Kernel.scripted_sane _ _ _ _ fun _ => Card.oneDisplay_sane) hnew hinit).2
      (of_decide_eq_true hcond)⟩

/-- The plane is that of the second CRTC, which has the display, and its sink
    names the first one. -/
theorem init_mixes_routes : ∃ k : Kernel, k.Sane ∧ ∃ v h, new .fullHd k [] = .ok (v, h) ∧
    v.videoSinks.lookup 0 = some ⟨41, 31, 0, false⟩ ∧ ¬ v.Coherent := by
  let k : Kernel := .willing fun _ => .secondCrtc
  have hrun : (new .fullHd k []).map (fun s => decide
      (s.1.videoSinks.lookup 0 = some ⟨41, 31, 0, false⟩ ∧ ¬ s.1.Coherent)) = .ok true := by
    decide +kernel
  obtain ⟨⟨v, h⟩, hnew, hobs⟩ := Prog.exists_of_map_eq_ok hrun
  exact ⟨k, Kernel.scripted_sane _ _ _ _ fun _ => Card.secondCrtc_sane, v, h, hnew,
    of_decide_eq_true hobs⟩

end ValVideoImpl

end ValRpi
