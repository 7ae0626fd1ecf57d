import ValRpi.Routes

/-!
# Lookups

What a caller asks for may not be there: a plane that no card has, or a display
after the last one. Both are looked up without a check.

* `findCrtc` takes a plane that it does not know for one of the first CRTC, and a
  plane without a CRTC for one of the last index there can be. So what is looked
  up for a plane is right if and only if no CRTC has these indices, and the CRTC
  of the lowest bit is there if that of any bit is (`DriDevice.finds_iff`).
* `getSupportedModes` tests the list of connectors for being empty, and not the
  index (`ValVideoImpl.getSupportedResolutions_inRange_iff`).
-/

namespace ValRpi

variable {k : Kernel} {h : History}

/-! ## Planes -/

/-- A CRTC whose id is read could be read. -/
theorem DrmCrtc.isSome_of_crtcId {c : DrmCrtc} {id : ℕ} (hc : c.crtcId = .ok id) :
    c.mCrtc.isSome := by
  rw [crtcId] at hc
  cases hp : c.mCrtc with
  | none =>
    rw [hp] at hc
    cases hc
  | some p => rfl

namespace DriDevice

theorem lowestBit_zero : lowestBit 0 = 2 ^ 32 - 1 := by
  have hnone : (List.range 32).find? (Nat.testBit 0) = none := by
    rw [List.find?_eq_none]
    intro i _
    simp
  rw [lowestBit, hnone, Option.getD_none]

/-- The lowest bit of a mask is one of its bits. -/
theorem testBit_lowestBit {mask : ℕ} (hmask : mask < 2 ^ 32) (hne : mask ≠ 0) :
    mask.testBit (lowestBit mask) = true := by
  obtain ⟨i, hi⟩ := Nat.exists_testBit_of_ne_zero hne
  have hlt : i < 32 := (Nat.pow_lt_pow_iff_right Nat.one_lt_two).1
    ((Nat.ge_two_pow_of_testBit hi).trans_lt hmask)
  cases hfind : (List.range 32).find? mask.testBit with
  | none => exact absurd hi (List.find?_eq_none.1 hfind i (List.mem_range.2 hlt))
  | some j =>
    rw [lowestBit, hfind, Option.getD_some]
    exact List.find?_some hfind

variable {d : DriDevice} {planeId crtcId connId : ℕ}

/-- What is looked up for a plane, 0 if there is none: a CRTC that can scan out the
    plane, if the plane and such a CRTC are known, and a connector that has it. -/
structure LooksUp (d : DriDevice) (planeId crtcId connId : ℕ) : Prop where
  sound : crtcId ≠ 0 → ∃ p ∈ d.planeList, p.planeId = planeId ∧
    ∃ c ∈ d.crtcList, c.crtcId = .ok crtcId ∧ p.possibleCrtcs.testBit c.crtcIndex = true
  complete : ∀ p ∈ d.planeList, p.planeId = planeId →
    (∃ c ∈ d.crtcList, p.possibleCrtcs.testBit c.crtcIndex = true) → crtcId ≠ 0
  connector : connId ≠ 0 → crtcId ≠ 0 ∧
    ∃ conn ∈ d.connectorList, conn.connectorId = connId ∧ conn.crtcId = crtcId
  unknown : planeId ∉ d.planeList.map Plane.planeId → crtcId = 0 ∧ connId = 0

/-- The first CRTC of an index. -/
def crtcAt (d : DriDevice) (index : ℕ) : Option DrmCrtc :=
  d.crtcList.find? (·.crtcIndex == index)

theorem crtcAt_eq_some {index : ℕ} {c : DrmCrtc} (hc : d.crtcAt index = some c) :
    c ∈ d.crtcList ∧ c.crtcIndex = index :=
  Lists.of_find?_key hc

theorem crtcAt_eq_none {index : ℕ} :
    d.crtcAt index = none ↔ ∀ c ∈ d.crtcList, c.crtcIndex ≠ index := by
  rw [crtcAt, List.find?_eq_none]
  simp only [beq_iff_eq, ne_eq]

/-- The index of the CRTC that is looked up for a plane. -/
def indexOf (d : DriDevice) (planeId : ℕ) : ℕ :=
  ((d.planeList.find? (·.planeId == planeId)).map fun p => lowestBit p.possibleCrtcs).getD 0

theorem indexOf_of_mem (hids : (d.planeList.map Plane.planeId).Nodup) {p : Plane}
    (hp : p ∈ d.planeList) : d.indexOf p.planeId = lowestBit p.possibleCrtcs := by
  rw [indexOf, Lists.find?_key hids hp]
  rfl

theorem indexOf_of_unknown (hunknown : planeId ∉ d.planeList.map Plane.planeId) :
    d.indexOf planeId = 0 := by
  have hnone : d.planeList.find? (·.planeId == planeId) = none := by
    rw [List.find?_eq_none]
    intro p hp heq
    exact hunknown (eq_of_beq heq ▸ List.mem_map_of_mem hp)
  rw [indexOf, hnone]
  rfl

theorem findCrtcOfPlane_eq_crtcAt (d : DriDevice) (planeId : ℕ) : d.findCrtcOfPlane planeId =
    (d.crtcAt (d.indexOf planeId)).elim (.ok 0) DrmCrtc.crtcId := by
  rw [findCrtcOfPlane, indexOf, crtcAt]
  cases d.planeList.find? (·.planeId == planeId) with
  | none =>
    dsimp only [Option.map_none, Option.getD_none]
    cases d.crtcList.find? (·.crtcIndex == 0) <;> rfl
  | some p =>
    dsimp only [Option.map_some, Option.getD_some]
    cases d.crtcList.find? (·.crtcIndex == lowestBit p.possibleCrtcs) <;> rfl

/-- The connector that is looked up has the CRTC that is looked up. -/
theorem connector_of_findConnector (hcrtc : d.findCrtcOfPlane planeId = .ok crtcId)
    (hconn : d.findConnector planeId = .ok connId) (hne : connId ≠ 0) : crtcId ≠ 0 ∧
      ∃ conn ∈ d.connectorList, conn.connectorId = connId ∧ conn.crtcId = crtcId := by
  by_cases h0 : crtcId = 0
  · rw [findConnector, hcrtc, h0] at hconn
    exact absurd (Except.ok.inj hconn).symm hne
  · refine ⟨h0, ?_⟩
    rw [findConnector_eq hcrtc h0, Except.ok.injEq, routedTo, List.head?_map,
      List.head?_filter] at hconn
    cases hfind : d.connectorList.find? (·.crtcId == crtcId) with
    | none =>
      rw [hfind] at hconn
      exact absurd hconn.symm hne
    | some conn =>
      rw [hfind] at hconn
      obtain ⟨hmem, hid⟩ := Lists.of_find?_key hfind
      exact ⟨conn, hmem, hconn, hid⟩

/-- Where the CRTC is found, a connector is looked for. -/
theorem exists_findConnector (hcrtc : d.findCrtcOfPlane planeId = .ok crtcId) :
    ∃ connId, d.findConnector planeId = .ok connId := by
  by_cases h0 : crtcId = 0
  · rw [findConnector, hcrtc, h0]
    exact ⟨0, rfl⟩
  · exact ⟨_, findConnector_eq hcrtc h0⟩

/-- The searches for a plane end, with what is to be looked up. -/
def Finds (d : DriDevice) (planeId : ℕ) : Prop :=
  ∃ crtcId connId, d.findCrtcOfPlane planeId = .ok crtcId ∧ d.findConnector planeId = .ok connId ∧
    d.LooksUp planeId crtcId connId

/-- A plane that is not known is taken for one of the first CRTC. -/
theorem finds_iff_of_unknown (hne : ∀ c ∈ d.crtcList, c.crtcId ≠ .ok 0)
    (hunknown : planeId ∉ d.planeList.map Plane.planeId) :
    d.Finds planeId ↔ ∀ c ∈ d.crtcList, c.crtcIndex ≠ 0 := by
  have hcrtc := d.findCrtcOfPlane_eq_crtcAt planeId
  rw [indexOf_of_unknown hunknown] at hcrtc
  rw [← crtcAt_eq_none]
  cases hat : d.crtcAt 0 with
  | some c =>
    rw [hat] at hcrtc
    refine iff_of_false ?_ (Option.some_ne_none c)
    rintro ⟨crtcId, connId, hfound, _, hlooks⟩
    rw [(hlooks.unknown hunknown).1] at hfound
    exact hne c (crtcAt_eq_some hat).1 (hcrtc.symm.trans hfound)
  | none =>
    rw [hat] at hcrtc
    obtain ⟨connId, hconn⟩ := exists_findConnector hcrtc
    have hnone : connId = 0 := by
      by_contra hconn0
      exact (connector_of_findConnector hcrtc hconn hconn0).1 rfl
    refine iff_of_true ⟨0, connId, hcrtc, hconn, ?_⟩ rfl
    exact ⟨fun h => absurd rfl h, fun p hp hid => absurd (hid ▸ List.mem_map_of_mem hp) hunknown,
      fun h => absurd hnone h, fun _ => ⟨rfl, hnone⟩⟩

/-- Where no CRTC is found for a plane, there must be none of a bit of its mask. -/
theorem finds_iff_of_zero (hids : (d.planeList.map Plane.planeId).Nodup) {p : Plane}
    (hp : p ∈ d.planeList) (hcrtc : d.findCrtcOfPlane p.planeId = .ok 0) :
    d.Finds p.planeId ↔ ¬ ∃ c ∈ d.crtcList, p.possibleCrtcs.testBit c.crtcIndex = true := by
  constructor
  · rintro ⟨crtcId, connId, hfound, _, hlooks⟩ hbit
    exact hlooks.complete p hp rfl hbit (Except.ok.inj (hfound.symm.trans hcrtc))
  · intro hnone
    obtain ⟨connId, hconn⟩ := exists_findConnector hcrtc
    refine ⟨0, connId, hcrtc, hconn, fun h => absurd rfl h, fun p' hp' hid hbit => ?_,
      connector_of_findConnector hcrtc hconn, fun h => absurd (List.mem_map_of_mem hp) h⟩
    rw [Lists.eq_of_key_eq hids hp' hp hid] at hbit
    exact absurd hbit hnone

/-- Where a CRTC is found for a plane, it must be one of a bit of its mask. -/
theorem finds_iff_of_ne_zero (hids : (d.planeList.map Plane.planeId).Nodup) {p : Plane}
    (hp : p ∈ d.planeList) (hne : crtcId ≠ 0) (hcrtc : d.findCrtcOfPlane p.planeId = .ok crtcId) :
    d.Finds p.planeId ↔ ∃ c ∈ d.crtcList, c.crtcId = .ok crtcId ∧
      p.possibleCrtcs.testBit c.crtcIndex = true := by
  constructor
  · rintro ⟨crtcId', connId, hfound, _, hlooks⟩
    obtain rfl := Except.ok.inj (hfound.symm.trans hcrtc)
    obtain ⟨p', hp', hid, hbit⟩ := hlooks.sound hne
    rwa [Lists.eq_of_key_eq hids hp' hp hid] at hbit
  · intro hbit
    obtain ⟨connId, hconn⟩ := exists_findConnector hcrtc
    exact ⟨crtcId, connId, hcrtc, hconn, fun _ => ⟨p, hp, rfl, hbit⟩, fun _ _ _ _ => hne,
      connector_of_findConnector hcrtc hconn, fun h => absurd (List.mem_map_of_mem hp) h⟩

/-- A plane that is known is taken for one of the CRTC of its lowest bit. -/
theorem finds_iff_of_mem (hids : (d.planeList.map Plane.planeId).Nodup)
    (hne : ∀ c ∈ d.crtcList, c.crtcId ≠ .ok 0) {p : Plane} (hp : p ∈ d.planeList)
    (hmask : p.possibleCrtcs < 2 ^ 32) : d.Finds p.planeId ↔
      (p.possibleCrtcs = 0 → ∀ c ∈ d.crtcList, c.crtcIndex ≠ 2 ^ 32 - 1) ∧
      ((∃ c ∈ d.crtcList, p.possibleCrtcs.testBit c.crtcIndex = true) →
        ∃ c ∈ d.lowestCrtc p, c.mCrtc.isSome) := by
  have hcrtc := d.findCrtcOfPlane_eq_crtcAt p.planeId
  rw [indexOf_of_mem hids hp] at hcrtc
  rw [show d.lowestCrtc p = d.crtcAt (lowestBit p.possibleCrtcs) from rfl]
  cases hat : d.crtcAt (lowestBit p.possibleCrtcs) with
  | none =>
    rw [hat] at hcrtc
    rw [finds_iff_of_zero hids hp hcrtc]
    constructor
    · refine fun hnone => ⟨fun h0 => ?_, fun hbit => absurd hbit hnone⟩
      rw [h0, lowestBit_zero] at hat
      exact crtcAt_eq_none.1 hat
    · rintro ⟨_, hbits⟩ hbit
      obtain ⟨c, hc, _⟩ := hbits hbit
      cases hc
  | some c =>
    rw [hat] at hcrtc
    obtain ⟨hc, hindex⟩ := crtcAt_eq_some hat
    -- a CRTC of the last index is found for an empty mask
    have hlast (h0 : p.possibleCrtcs = 0) : c.crtcIndex = 2 ^ 32 - 1 := by
      rw [hindex, h0, lowestBit_zero]
    have hbit (h0 : p.possibleCrtcs ≠ 0) : p.possibleCrtcs.testBit c.crtcIndex = true :=
      hindex ▸ testBit_lowestBit hmask h0
    by_cases hread : c.mCrtc.isSome
    · have hid := DrmCrtc.crtcId_eq hread
      rw [finds_iff_of_ne_zero hids hp (fun h => hne c hc (h ▸ hid)) (hcrtc.trans hid)]
      constructor
      · rintro ⟨c', _, _, hbit'⟩
        refine ⟨fun h0 => ?_, fun _ => ⟨c, rfl, hread⟩⟩
        rw [h0, Nat.zero_testBit] at hbit'
        exact absurd hbit' Bool.false_ne_true
      · rintro ⟨hempty, _⟩
        exact ⟨c, hc, hid, hbit fun h0 => hempty h0 c hc (hlast h0)⟩
    · refine iff_of_false ?_ ?_
      · rintro ⟨crtcId, _, hfound, _⟩
        exact hread (DrmCrtc.isSome_of_crtcId (hcrtc.symm.trans hfound))
      · rintro ⟨hempty, hbits⟩
        obtain ⟨c', hc', hread'⟩ := hbits ⟨c, hc, hbit fun h0 => hempty h0 c hc (hlast h0)⟩
        cases hc'
        exact hread hread'

/-- The searches for a plane find what they are to if and only if, for a plane that
    is not known, no CRTC has the first index; for one without a CRTC, no CRTC has
    the last index there can be; and for one with the bit of any CRTC, the first CRTC
    of its lowest bit is there and could be read. -/
theorem finds_iff (hids : (d.planeList.map Plane.planeId).Nodup)
    (hmask : ∀ p ∈ d.planeList, p.possibleCrtcs < 2 ^ 32)
    (hne : ∀ c ∈ d.crtcList, c.crtcId ≠ .ok 0) : d.Finds planeId ↔
      (planeId ∉ d.planeList.map Plane.planeId → ∀ c ∈ d.crtcList, c.crtcIndex ≠ 0) ∧
      ∀ p ∈ d.planeList, p.planeId = planeId →
        (p.possibleCrtcs = 0 → ∀ c ∈ d.crtcList, c.crtcIndex ≠ 2 ^ 32 - 1) ∧
        ((∃ c ∈ d.crtcList, p.possibleCrtcs.testBit c.crtcIndex = true) →
          ∃ c ∈ d.lowestCrtc p, c.mCrtc.isSome) := by
  by_cases hknown : planeId ∈ d.planeList.map Plane.planeId
  · obtain ⟨p, hp, rfl⟩ := List.mem_map.1 hknown
    rw [finds_iff_of_mem hids hne hp (hmask p hp)]
    constructor
    · intro hone
      refine ⟨fun hunknown => absurd hknown hunknown, fun p' hp' hid => ?_⟩
      rwa [Lists.eq_of_key_eq hids hp' hp hid]
    · exact fun hall => hall.2 p hp rfl
  · rw [finds_iff_of_unknown hne hknown]
    constructor
    · refine fun hfirst => ⟨fun _ => hfirst, fun p hp hid => ?_⟩
      exact absurd (hid ▸ List.mem_map_of_mem hp) hknown
    · exact fun hall => hall.1 hknown

/-- The plane of one display. -/
theorem finds_one_display : ∃ e h,
    DRIElements.new ⟨1920, 1080⟩ (.willing fun _ => .oneDisplay) [] = .ok (e, h) ∧
      e.primary.Finds 41 := by
  have hrun : (DRIElements.new ⟨1920, 1080⟩ (.willing fun _ => .oneDisplay) []).map
      (fun s => (s.1.primary.planeList,
        s.1.primary.crtcList.map fun c => (c.mCrtc, c.crtcIndex))) =
        .ok ([⟨41, 1⟩], [(some ⟨31⟩, 0)]) := by
    decide +kernel
  obtain ⟨⟨e, h⟩, hnew, hobs⟩ := Prog.exists_of_map_eq_ok hrun
  obtain ⟨hplanes, hcrtcs⟩ := Prod.mk.inj hobs
  obtain ⟨c, hc, hread⟩ := List.map_eq_singleton_iff.1 hcrtcs
  obtain ⟨hread, hindex⟩ := Prod.mk.inj hread
  refine ⟨e, h, hnew, (finds_iff ?_ ?_ ?_).2 ⟨fun hunknown => ?_, ?_⟩⟩
  · rw [hplanes]; decide
  · rw [hplanes]; decide
  · rw [hc, List.forall_mem_singleton, DrmCrtc.crtcId, hread]; decide
  · rw [hplanes] at hunknown; exact absurd (by decide) hunknown
  · rw [hplanes, List.forall_mem_singleton]
    refine fun _ => ⟨fun h0 => absurd h0 (by decide), fun _ => ⟨c, ?_, by rw [hread]; rfl⟩⟩
    rw [lowestCrtc, hc]
    exact List.find?_cons_of_pos (by rw [hindex]; decide)

/-- A plane that no one knows is taken for one of the first CRTC. -/
theorem findCrtcOfPlane_finds_unknown : ∃ e h,
    DRIElements.new ⟨1920, 1080⟩ (.willing fun _ => .oneDisplay) [] = .ok (e, h) ∧
      99 ∉ e.primary.planeList.map Plane.planeId ∧ e.getCrtcId 99 = .ok 31 ∧
      e.getConnId 99 = .ok 21 ∧ ¬ e.primary.Finds 99 := by
  have hrun : (DRIElements.new ⟨1920, 1080⟩ (.willing fun _ => .oneDisplay) []).map
      (fun s => (decide (99 ∉ s.1.primary.planeList.map Plane.planeId), s.1.getCrtcId 99,
        s.1.getConnId 99)) = .ok (true, .ok 31, .ok 21) := by
    decide +kernel
  obtain ⟨⟨e, h⟩, hnew, hobs⟩ := Prog.exists_of_map_eq_ok hrun
  simp only [Prod.mk.injEq, decide_eq_true_eq] at hobs
  obtain ⟨hunknown, hcrtc, hconn⟩ := hobs
  refine ⟨e, h, hnew, hunknown, hcrtc, hconn, ?_⟩
  rintro ⟨crtcId, connId, hfound, _, hlooks⟩
  rw [(hlooks.unknown hunknown).1, ← DRIElements.getCrtcId, hcrtc] at hfound
  cases hfound

end DriDevice

/-! ## Displays -/

namespace ValVideoImpl

variable {v : ValVideoImpl}

/-- What is reported for a display is that of the connector of the index, if there is
    one, and nothing otherwise. -/
def InRange (v : ValVideoImpl) (dispIndex : UInt8) : Prop :=
  ∃ modes, v.getSupportedResolutions dispIndex = .ok modes ∧
    match v.driElements.primary.connectorList[dispIndex.toNat]? with
    | some conn => modes = (conn.getSupportedModes.destutter (· ≠ ·)).filter v.isValidMode
    | none => modes = []

/-- Only connectors that exist are read if and only if there are none, or the index
    is that of one. -/
theorem getSupportedResolutions_inRange_iff {dispIndex : UInt8} : v.InRange dispIndex ↔
    v.driElements.primary.connectorList = [] ∨
      dispIndex.toNat < v.driElements.primary.connectorList.length := by
  rw [InRange, getSupportedResolutions, DRIElements.getSupportedModes, ← List.length_eq_zero_iff]
  by_cases h0 : v.driElements.primary.connectorList.length = 0
  · rw [if_neg (not_not.2 h0), List.length_eq_zero_iff.1 h0]
    exact iff_of_true ⟨[], rfl, rfl⟩ (.inl rfl)
  · rw [if_pos h0, or_iff_right h0]
    cases hat : v.driElements.primary.connectorList[dispIndex.toNat]? with
    | none =>
      refine iff_of_false ?_ (not_lt.2 (List.getElem?_eq_none_iff.1 hat))
      rintro ⟨modes, hmodes, _⟩
      cases hmodes
    | some conn =>
      exact iff_of_true ⟨_, rfl, rfl⟩ (List.getElem?_eq_some_iff.1 hat).1

/-- One display, and the index of a second one. -/
theorem getSupportedResolutions_reads_beyond : ∃ v h,
    Reachable (.willing fun _ => .oneDisplay) .fullHd (v, h) ∧
      v.driElements.primary.connectorList.length = 1 ∧
      v.getSupportedResolutions 1 = .error .outOfBounds ∧ ¬ v.InRange 1 := by
  have hrun : (new .fullHd (.willing fun _ => .oneDisplay) []).map
      (fun s => (s.1.driElements.primary.connectorList.length, s.1.getSupportedResolutions 1)) =
        .ok (1, .error .outOfBounds) := by
    decide +kernel
  obtain ⟨⟨v, h⟩, hnew, hobs⟩ := Prog.exists_of_map_eq_ok hrun
  obtain ⟨hlength, hbeyond⟩ := Prod.mk.inj hobs
  refine ⟨v, h, ⟨_, [], hnew, .nil⟩, hlength, hbeyond, ?_⟩
  rintro ⟨modes, hmodes, _⟩
  rw [hbeyond] at hmodes
  cases hmodes

end ValVideoImpl

end ValRpi
