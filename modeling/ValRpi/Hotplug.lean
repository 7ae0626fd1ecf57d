import ValRpi.Reach

/-!
# Hotplug

What an update of the primary device makes of its CRTCs, in any run.

* It sets the CRTCs up for the initial mode, and so takes back a resolution that
  was chosen at run time, unless the connector limits both modes to its own. A
  CRTC whose plugged connector is given none keeps the size it had
  (`updateDevice_clamps_iff`).
* It writes only to CRTCs that are given to a plugged connector, and so a CRTC
  that lost its connector still names it (`updateDevice_wires_iff`).

Both are stated of the card as it is after the update, on a kernel that changes
between calls only (`Kernel.Steady`).
-/

namespace ValRpi

variable {k : Kernel} {h h' : History}

/-! ## The mode in force -/

/-- A mode limits a size to its own. -/
def ModeInfo.Limits (m : ModeInfo) (s : Size) : Prop :=
  m.size = s ∨ ((m.hdisplay < s.w ∨ m.vdisplay < s.h) ∧ m.hdisplay ≠ 0 ∧ m.vdisplay ≠ 0)

instance (m : ModeInfo) (s : Size) : Decidable (m.Limits s) := inferInstanceAs (Decidable (_ ∨ _))

theorem clampMode_eq_size_iff (m : ModeInfo) (s : Size) :
    clampMode m s = m.size ↔ m.Limits s := by
  rw [clampMode, ModeInfo.Limits]
  split
  next hlt => exact ⟨fun _ => .inr hlt, fun _ => rfl⟩
  next hlt => exact ⟨fun heq => .inl heq.symm, fun hlim => (hlim.resolve_right hlt).symm⟩

/-- What a size comes to is the mode or the size itself. -/
theorem clampMode_eq_or (m : ModeInfo) (s : Size) : clampMode m s = m.size ∨ clampMode m s = s := by
  rw [clampMode]
  split
  exacts [.inl rfl, .inr rfl]

/-- Two sizes come to the same only if they are the same, or the mode limits both. -/
theorem clampMode_eq_iff (m : ModeInfo) (s s' : Size) :
    clampMode m s = clampMode m s' ↔ s = s' ∨ (m.Limits s ∧ m.Limits s') := by
  rw [← clampMode_eq_size_iff, ← clampMode_eq_size_iff]
  constructor
  · intro heq
    rcases clampMode_eq_or m s with hs | hs
    · exact .inr ⟨hs, heq ▸ hs⟩
    rcases clampMode_eq_or m s' with hs' | hs'
    · exact .inr ⟨heq.trans hs', hs'⟩
    · exact .inl (hs.symm.trans (heq.trans hs'))
  · rintro (rfl | ⟨hs, hs'⟩)
    exacts [rfl, hs.trans hs'.symm]

/-- The last connector that a CRTC is given to by the setup of a device, as the card
    is. -/
def DriDevice.givenTo (d : DriDevice) (card : Card) (c : DrmCrtc) : Option ℕ :=
  card.lastGiven (d.connectorList.map (·.connectorId)) c.id

namespace DRIElements

variable {e e' e₀ : DRIElements} {h₀ : History} {defMode : Size} {ls : List (Op × ℤ)} {ret : ℤ}

/-- The connectors of the primary device. -/
def connectorIds (e : DRIElements) : List ℕ := e.primary.connectorList.map (·.connectorId)

/-- The same, of the primary device. -/
def givenTo (e : DRIElements) (card : Card) (c : DrmCrtc) : Option ℕ := e.primary.givenTo card c

theorem givenTo_eq (e : DRIElements) (card : Card) (c : DrmCrtc) :
    e.givenTo card c = card.lastGiven e.connectorIds c.id := rfl

/-- A connector keeps a CRTC in the setup: it had it before, and is given none. -/
def Keeps (card : Card) (conn : DrmConnector) (c : DrmCrtc) : Prop :=
  card.gives conn.connectorId = 0 ∧ conn.crtcId = c.id

instance (card : Card) (conn : DrmConnector) (c : DrmCrtc) : Decidable (Keeps card conn c) :=
  inferInstanceAs (Decidable (_ ∧ _))

/-- The last plugged connector that keeps a CRTC. -/
def keptBy (e : DRIElements) (card : Card) (c : DrmCrtc) : Option ℕ :=
  ((e.primary.connectorList.filter fun conn =>
    card.plugged conn.connectorId && Keeps card conn c).map (·.connectorId)).getLast?

/-- The plugged connector that a CRTC is assigned to: the last one that the setup
    gives it to, or else the last one that keeps it. -/
def assignedTo (e : DRIElements) (card : Card) (c : DrmCrtc) : Option ℕ :=
  (e.givenTo card c).or (e.keptBy card c)

/-- Every CRTC assigned to a plugged connector is to show a mode, clamped by that
    connector. -/
def Clamped (e : DRIElements) (card : Card) (mode : Size) : Prop :=
  ∀ c ∈ e.primary.crtcList, ∀ connId ∈ e.assignedTo card c,
    c.max = clampMode (card.maxMode connId) mode

instance (e : DRIElements) (card : Card) (mode : Size) : Decidable (e.Clamped card mode) :=
  inferInstanceAs (Decidable (∀ c ∈ e.primary.crtcList, ∀ connId ∈ e.assignedTo card c,
    c.max = clampMode (card.maxMode connId) mode))

/-- A step that updates the primary device. -/
theorem updateDevice_of_step (hstep : Step k (e, h) (.updateDevice e.mPrimaryDev, ret) (e', h')) :
    ∃ called, e.updateDevice e.mPrimaryDev k h = .ok ((called, e'), h') := by
  rcases step_cases hstep with ⟨hop, _⟩ | ⟨name, called, hop, hu⟩ | ⟨_, _, _, _, hop, _⟩
  · cases hop
  · cases hop
    exact ⟨called, hu⟩
  · cases hop

/-- The connectors keep their ids in an update. -/
theorem connectorIds_setUp {card : Card}
    (hconns : e'.primary.connectorList = e.primary.connectorList.map (·.setUp card)) :
    e'.connectorIds = e.connectorIds := by
  rw [connectorIds, hconns, List.map_map, connectorIds]
  exact List.map_congr_left fun c _ => c.connectorId_setUp card

/-- A connector that is given no CRTC keeps the one it has. -/
theorem keeps_setUp_iff {card : Card} {conn : DrmConnector} {c c' : DrmCrtc} (hid : c'.id = c.id) :
    Keeps card (conn.setUp card) c' ↔ Keeps card conn c := by
  rw [Keeps, Keeps, DrmConnector.connectorId_setUp, hid]
  refine and_congr_right fun hzero => ?_
  rw [DrmConnector.setUp]
  dsimp only
  rw [if_pos hzero]

/-- The setup changes neither what gives a CRTC nor what keeps it. -/
theorem assignedTo_setUp {card : Card} {c c' : DrmCrtc}
    (hconns : e'.primary.connectorList = e.primary.connectorList.map (·.setUp card))
    (hid : c'.id = c.id) : e'.givenTo card c' = e.givenTo card c ∧
      e'.keptBy card c' = e.keptBy card c := by
  refine ⟨?_, ?_⟩
  · rw [givenTo_eq, connectorIds_setUp hconns, hid, givenTo_eq]
  · have hkeep : ∀ conn ∈ e.primary.connectorList,
        (card.plugged (conn.setUp card).connectorId && decide (Keeps card (conn.setUp card) c')) =
          (card.plugged conn.connectorId && decide (Keeps card conn c)) := by
      intro conn _
      rw [DrmConnector.connectorId_setUp, decide_eq_decide.2 (keeps_setUp_iff hid)]
    have hids : (fun conn => (conn.setUp card).connectorId) = DrmConnector.connectorId :=
      funext fun conn => conn.connectorId_setUp card
    rw [keptBy, keptBy, hconns, List.filter_map, List.map_map]
    change (List.map (fun conn => (conn.setUp card).connectorId) (List.filter (fun conn =>
      card.plugged (conn.setUp card).connectorId && decide (Keeps card (conn.setUp card) c'))
        e.primary.connectorList)).getLast? = _
    rw [hids, List.filter_congr hkeep]

/-- After an update, the last configured mode is in force if and only if it is the
    initial one, or each connector that is given a CRTC limits both modes to its own;
    and each CRTC that is given to none, but kept by a connector, was clamped so
    before. -/
theorem updateDevice_clamps_iff (hk : k.Steady) (hs : k.Sane)
    (hnew : new defMode k [] = .ok (e₀, h₀)) (hrun : Run (Step k) (e₀, h₀) ls (e, h))
    (hstep : Step k (e, h) (.updateDevice e.mPrimaryDev, ret) (e', h')) :
    e'.Clamped (e'.card k h') (lastConfigured defMode ls) ↔ ∀ c ∈ e.primary.crtcList,
      (∀ connId ∈ e.givenTo (e.card k h) c, lastConfigured defMode ls = defMode ∨
        (((e.card k h).maxMode connId).Limits defMode ∧
          ((e.card k h).maxMode connId).Limits (lastConfigured defMode ls))) ∧
      (e.givenTo (e.card k h) c = none → ∀ connId ∈ e.keptBy (e.card k h) c,
        c.max = clampMode ((e.card k h).maxMode connId) (lastConfigured defMode ls)) := by
  obtain ⟨hsane, hinit, _⟩ := kept_of_run hs hnew hrun
  obtain ⟨called, hu⟩ := updateDevice_of_step hstep
  obtain ⟨card, hcard, hcard', hconns, hcrtcs⟩ := primary_updateDevice hk hsane hu
  rw [DRIElements.card, DRIElements.card, hcard, hcard', Clamped, hcrtcs, List.forall_mem_map]
  refine forall₂_congr fun c _ => ?_
  have hid : (c.setUp card e.mInitialMode e.connectorIds).id = c.id := DrmCrtc.id_setUp
  obtain ⟨hgiven, hkept⟩ := assignedTo_setUp hconns hid
  rw [assignedTo, ← connectorIds, hgiven, hkept]
  cases hg : e.givenTo card c with
  | some connId =>
    -- the setup clamps the initial mode
    simp only [Option.some_or, Option.mem_some_iff, forall_eq', reduceCtorEq, false_imp_iff,
      and_true]
    rw [givenTo_eq] at hg
    rw [DrmCrtc.setUp_of_some hg, hinit]
    change clampMode (card.maxMode connId) defMode = _ ↔ _
    rw [clampMode_eq_iff, eq_comm]
  | none =>
    -- the CRTC is not written to
    rw [givenTo_eq] at hg
    rw [DrmCrtc.setUp_of_none hg]
    simp

/-- The modes of the display limit both the initial mode and the configured one. -/
theorem updateDevice_clamps_full_hd : ∃ e₀ h₀ e h e' h',
    new ⟨3840, 2160⟩ (.willing fun _ => .oneDisplay) [] = .ok (e₀, h₀) ∧
      Run (Step (.willing fun _ => .oneDisplay)) (e₀, h₀) [(.changeMode 1920 1080 0 0, 1)] (e, h) ∧
        Step (.willing fun _ => .oneDisplay) (e, h) (.updateDevice e.mPrimaryDev, 0) (e', h') ∧
          e'.Clamped (e'.card (.willing fun _ => .oneDisplay) h') ⟨1920, 1080⟩ := by
  let k : Kernel := .willing fun _ => .oneDisplay
  have hrun : (new ⟨3840, 2160⟩ k []).map (fun s =>
      (s.1.changeMode 1920 1080 0 0 k s.2).map fun r =>
        (r.1.1, (r.1.2.run (.updateDevice r.1.2.mPrimaryDev) k r.2).map fun u => u.1.1,
          decide (∀ c ∈ r.1.2.primary.crtcList,
            (∀ connId ∈ r.1.2.givenTo (r.1.2.card k r.2) c,
              (⟨1920, 1080⟩ : Size) = ⟨3840, 2160⟩ ∨
                (((r.1.2.card k r.2).maxMode connId).Limits ⟨3840, 2160⟩ ∧
                  ((r.1.2.card k r.2).maxMode connId).Limits ⟨1920, 1080⟩)) ∧
            (r.1.2.givenTo (r.1.2.card k r.2) c = none →
              ∀ connId ∈ r.1.2.keptBy (r.1.2.card k r.2) c,
                c.max = clampMode ((r.1.2.card k r.2).maxMode connId) ⟨1920, 1080⟩)))) =
                  .ok (.ok (1, .ok 0, true)) := by
    decide +kernel
  obtain ⟨⟨e₀, h₀⟩, hnew, hchange⟩ := Prog.exists_of_map_eq_ok hrun
  obtain ⟨⟨⟨ret, e⟩, h⟩, hchange, hobs⟩ := Prog.exists_of_map_eq_ok hchange
  obtain ⟨rfl, hobs⟩ := Prod.mk.inj hobs
  obtain ⟨hupdate, hlimits⟩ := Prod.mk.inj hobs
  obtain ⟨⟨⟨ret, e'⟩, h'⟩, hupdate, rfl⟩ := Prog.exists_of_map_eq_ok hupdate
  have hstep : Step k (e₀, h₀) (.changeMode 1920 1080 0 0, 1) (e, h) := hchange
  have hstep' : Step k (e, h) (.updateDevice e.mPrimaryDev, 0) (e', h') := hupdate
  exact ⟨e₀, h₀, e, h, e', h', hnew, .step .nil hstep, hstep',
    (updateDevice_clamps_iff (Kernel.scripted_steady _ _ _ _)
      (Kernel.scripted_sane _ _ _ _ fun _ => Card.oneDisplay_sane) hnew (.step .nil hstep) hstep').2
        (of_decide_eq_true hlimits)⟩

/-- A resolution chosen at run time is lost at the next update. -/
theorem updateDevice_loses_resolution : ∃ e₀ h₀ e h e' h',
    new ⟨1920, 1080⟩ (.willing fun _ => .oneDisplay) [] = .ok (e₀, h₀) ∧
      Run (Step (.willing fun _ => .oneDisplay)) (e₀, h₀) [(.changeMode 1280 720 0 0, 1)] (e, h) ∧
        Step (.willing fun _ => .oneDisplay) (e, h) (.updateDevice e.mPrimaryDev, 0) (e', h') ∧
          ¬ e'.Clamped (e'.card (.willing fun _ => .oneDisplay) h') ⟨1280, 720⟩ := by
  let k : Kernel := .willing fun _ => .oneDisplay
  have hrun : (new ⟨1920, 1080⟩ k []).map (fun s =>
      (s.1.changeMode 1280 720 0 0 k s.2).map fun r =>
        (r.1.1, (r.1.2.run (.updateDevice r.1.2.mPrimaryDev) k r.2).map fun u =>
          (u.1.1, decide (u.1.2.Clamped (u.1.2.card k u.2) ⟨1280, 720⟩)))) =
            .ok (.ok (1, .ok (0, false))) := by
    decide +kernel
  obtain ⟨⟨e₀, h₀⟩, hnew, hchange⟩ := Prog.exists_of_map_eq_ok hrun
  obtain ⟨⟨⟨ret, e⟩, h⟩, hchange, hobs⟩ := Prog.exists_of_map_eq_ok hchange
  obtain ⟨rfl, hupdate⟩ := Prod.mk.inj hobs
  obtain ⟨⟨⟨ret, e'⟩, h'⟩, hupdate, hobs⟩ := Prog.exists_of_map_eq_ok hupdate
  obtain ⟨rfl, hclamped⟩ := Prod.mk.inj hobs
  have hstep : Step k (e₀, h₀) (.changeMode 1280 720 0 0, 1) (e, h) := hchange
  have hstep' : Step k (e, h) (.updateDevice e.mPrimaryDev, 0) (e', h') := hupdate
  exact ⟨e₀, h₀, e, h, e', h', hnew, .step .nil hstep, hstep', of_decide_eq_false hclamped⟩

/-! ## The connectors of a CRTC -/

/-- The connectors that a CRTC names are the plugged ones that have it. -/
def Wired (e : DRIElements) (card : Card) : Prop :=
  ∀ c ∈ e.primary.crtcList, ∀ conn ∈ e.primary.connectorList,
    conn.connectorId ∈ c.connectors ↔ card.plugged conn.connectorId = true ∧ conn.crtcId = c.id

instance (e : DRIElements) (card : Card) : Decidable (e.Wired card) :=
  inferInstanceAs (Decidable (∀ c ∈ e.primary.crtcList, ∀ conn ∈ e.primary.connectorList,
    (conn.connectorId ∈ c.connectors ↔
      card.plugged conn.connectorId = true ∧ conn.crtcId = c.id)))

theorem crtcId_setUp_eq_iff {card : Card} {conn : DrmConnector} {c : DrmCrtc} (hc : c.id ≠ 0) :
    (conn.setUp card).crtcId = c.id ↔ card.gives conn.connectorId = c.id ∨ Keeps card conn c := by
  change (if card.gives conn.connectorId = 0 then conn.crtcId else card.gives conn.connectorId) =
    c.id ↔ _
  rw [Keeps]
  split
  next hzero =>
    rw [hzero]
    exact ⟨fun heq => .inr ⟨rfl, heq⟩, fun hor => hor.elim (fun h0 => absurd h0.symm hc) And.right⟩
  next hne => exact ⟨.inl, fun hor => hor.resolve_right fun hkeep => hne hkeep.1⟩

/-- After an update, CRTCs name the plugged connectors that have them if and only
    if each CRTC that is given to a connector goes to no other one, and each that
    is not named just the plugged ones that keep it. -/
theorem updateDevice_wires_iff (hk : k.Steady) (hs : k.Sane)
    (hnew : new defMode k [] = .ok (e₀, h₀)) (hrun : Run (Step k) (e₀, h₀) ls (e, h))
    (hstep : Step k (e, h) (.updateDevice e.mPrimaryDev, ret) (e', h')) :
    e'.Wired (e'.card k h') ↔ ∀ c ∈ e.primary.crtcList, ∀ conn ∈ e.primary.connectorList,
      (∀ connId ∈ e.givenTo (e.card k h) c, (e.card k h).plugged conn.connectorId = true →
        (e.card k h).gives conn.connectorId = c.id ∨ Keeps (e.card k h) conn c →
          conn.connectorId = connId) ∧
      (e.givenTo (e.card k h) c = none → (conn.connectorId ∈ c.connectors ↔
        (e.card k h).plugged conn.connectorId = true ∧ Keeps (e.card k h) conn c)) := by
  obtain ⟨hsane, _, _⟩ := kept_of_run hs hnew hrun
  obtain ⟨called, hu⟩ := updateDevice_of_step hstep
  obtain ⟨card, hcard, hcard', hconns, hcrtcs⟩ := primary_updateDevice hk hsane hu
  rw [DRIElements.card, DRIElements.card, hcard, hcard', Wired, hconns, hcrtcs, List.forall_mem_map]
  refine forall₂_congr fun c hc => ?_
  rw [List.forall_mem_map]
  refine forall₂_congr fun conn hconn => ?_
  have hne : c.id ≠ 0 := fun h0 => hsane.crtcIds_ne (h0 ▸ List.mem_map_of_mem hc)
  rw [DrmConnector.connectorId_setUp, DrmCrtc.id_setUp, crtcId_setUp_eq_iff hne, ← connectorIds,
    givenTo_eq]
  cases hgiven : card.lastGiven e.connectorIds c.id with
  | some connId =>
    -- the set of the CRTC is cleared for each connector it is given to
    rw [DrmCrtc.setUp_of_some hgiven]
    simp only [List.mem_singleton, Option.mem_some_iff, forall_eq', reduceCtorEq, false_imp_iff,
      and_true]
    refine ⟨fun hiff hp hgets => hiff.2 ⟨hp, hgets⟩, fun hone => ⟨?_, fun hgets => ?_⟩⟩
    · rintro rfl
      have hgives := (Card.lastGiven_eq_some hgiven).2
      exact ⟨Card.plugged_of_gives (hgives ▸ hne), .inl hgives⟩
    · exact hone hgets.1 hgets.2
  | none =>
    -- the CRTC is not written to
    have hother : card.gives conn.connectorId ≠ c.id :=
      Card.lastGiven_eq_none.1 hgiven _ (List.mem_map_of_mem hconn)
    rw [DrmCrtc.setUp_of_none hgiven]
    simp [hother]

/-- An update that finds everything as it was. -/
theorem updateDevice_wires_one_display : ∃ e h e' h',
    new ⟨1920, 1080⟩ (.willing fun _ => .oneDisplay) [] = .ok (e, h) ∧
      Step (.willing fun _ => .oneDisplay) (e, h) (.updateDevice e.mPrimaryDev, 0) (e', h') ∧
        e'.Wired (e'.card (.willing fun _ => .oneDisplay) h') := by
  let k : Kernel := .willing fun _ => .oneDisplay
  have hrun : (new ⟨1920, 1080⟩ k []).map (fun s =>
      ((s.1.run (.updateDevice s.1.mPrimaryDev) k s.2).map fun u => u.1.1,
        decide (∀ c ∈ s.1.primary.crtcList, ∀ conn ∈ s.1.primary.connectorList,
          (∀ connId ∈ s.1.givenTo (s.1.card k s.2) c,
            (s.1.card k s.2).plugged conn.connectorId = true →
              (s.1.card k s.2).gives conn.connectorId = c.id ∨ Keeps (s.1.card k s.2) conn c →
                conn.connectorId = connId) ∧
          (s.1.givenTo (s.1.card k s.2) c = none → (conn.connectorId ∈ c.connectors ↔
            (s.1.card k s.2).plugged conn.connectorId = true ∧
              Keeps (s.1.card k s.2) conn c))))) = .ok (.ok 0, true) := by
    decide +kernel
  obtain ⟨⟨e, h⟩, hnew, hobs⟩ := Prog.exists_of_map_eq_ok hrun
  obtain ⟨hupdate, hcond⟩ := Prod.mk.inj hobs
  obtain ⟨⟨⟨ret, e'⟩, h'⟩, hupdate, rfl⟩ := Prog.exists_of_map_eq_ok hupdate
  have hstep : Step k (e, h) (.updateDevice e.mPrimaryDev, 0) (e', h') := hupdate
  exact ⟨e, h, e', h', hnew, hstep, (updateDevice_wires_iff (Kernel.scripted_steady _ _ _ _)
    (Kernel.scripted_sane _ _ _ _ fun _ => Card.oneDisplay_sane) hnew .nil hstep).2
      (of_decide_eq_true hcond)⟩

/-- The display is unplugged: the CRTC still names its connector, and its plane
    is still offered. -/
theorem updateDevice_keeps_unplugged : ∃ k : Kernel, k.Steady ∧ k.Sane ∧ ∃ e₀ h₀ e h e' h',
    new ⟨1920, 1080⟩ k [] = .ok (e₀, h₀) ∧ Run (Step k) (e₀, h₀) [(.hotplug, 0)] (e, h) ∧
      Step k (e, h) (.updateDevice e.mPrimaryDev, 0) (e', h') ∧
        ¬ e'.Wired (e'.card k h') ∧ e'.getPlanes = [41] := by
  let k : Kernel := .willing fun n => if n = 0 then .oneDisplay else .noDisplay
  have hrun : (new ⟨1920, 1080⟩ k []).map (fun s => (s.1.run .hotplug k s.2).map fun r =>
      (r.1.1, (r.1.2.run (.updateDevice r.1.2.mPrimaryDev) k r.2).map fun u =>
        (u.1.1, decide (¬ u.1.2.Wired (u.1.2.card k u.2) ∧ u.1.2.getPlanes = [41])))) =
          .ok (.ok (0, .ok (0, true))) := by
    decide +kernel
  obtain ⟨⟨e₀, h₀⟩, hnew, hplug⟩ := Prog.exists_of_map_eq_ok hrun
  obtain ⟨⟨⟨ret, e⟩, h⟩, hplug, hobs⟩ := Prog.exists_of_map_eq_ok hplug
  obtain ⟨rfl, hupdate⟩ := Prod.mk.inj hobs
  obtain ⟨⟨⟨ret, e'⟩, h'⟩, hupdate, hobs⟩ := Prog.exists_of_map_eq_ok hupdate
  obtain ⟨rfl, hwired⟩ := Prod.mk.inj hobs
  have hstep : Step k (e₀, h₀) (.hotplug, 0) (e, h) := hplug
  have hstep' : Step k (e, h) (.updateDevice e.mPrimaryDev, 0) (e', h') := hupdate
  refine ⟨k, Kernel.scripted_steady _ _ _ _, Kernel.scripted_sane _ _ _ _ fun n => ?_, e₀, h₀, e, h,
    e', h', hnew, .step .nil hstep, hstep', of_decide_eq_true hwired⟩
  split
  exacts [Card.oneDisplay_sane, Card.noDisplay_sane]

end DRIElements

end ValRpi
