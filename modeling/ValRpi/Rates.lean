import ValRpi.Displays
import ValRpi.ModeSets

/-!
# Refresh rates

`changeMode` is asked for a refresh rate and does not pass it on, so that
`setActiveMode` takes the first mode of the name, at whatever rate. It looks for
it among the modes of the connector of a CRTC, that of the display's connector.

* `findTarget_of_display` says which mode the checks of a mode change find;
* `changeMode_rate_iff` says when it is the first one of the display's connector
  that has the name and the rate;
* `setsRate_iff_of_own`: where the CRTC has the display's own connector, this is when the
  rate is 0 or that of the mode that is taken.
-/

namespace ValRpi

variable {k : Kernel} {h h₁ : History} {card : Card} {fd : ℤ}

/-- The first mode of a name and a rate, or of any rate if this is 0. -/
def Card.firstMode (card : Card) (connId : ℕ) (name : String) (vRefresh : ℕ) : Option ModeInfo :=
  (card.modes connId).find? (DrmConnector.isMode name vRefresh)

/-- The mode that a mode set takes from a connector: the first one of the name, if
    the connector is plugged. -/
def Card.takenMode (card : Card) (connId : ℕ) (name : String) : Option ModeInfo :=
  if card.plugged connId = true then card.firstMode connId name 0 else none

/-- The first mode of a name is the first one of a rate, too, if it has this rate. -/
theorem Card.firstMode_eq_iff {connId : ℕ} {name : String} {mode : ModeInfo}
    (hmode : card.firstMode connId name 0 = some mode) (vRefresh : ℕ) :
    card.firstMode connId name vRefresh = some mode ↔ vRefresh = 0 ∨ mode.vrefresh = vRefresh := by
  obtain ⟨hname, before, after, hmodes, hbefore⟩ := List.find?_eq_some_iff_append.1 hmode
  rw [DrmConnector.isMode, beq_self_eq_true, Bool.true_or, Bool.and_true] at hname
  constructor
  · intro hrate
    have := List.find?_some hrate
    rw [DrmConnector.isMode, hname, Bool.true_and, Bool.or_eq_true, beq_iff_eq, beq_iff_eq] at this
    exact this
  · intro hrate
    refine List.find?_eq_some_iff_append.2 ⟨?_, before, after, hmodes, fun m hm => ?_⟩
    · rw [DrmConnector.isMode, hname, Bool.true_and, Bool.or_eq_true, beq_iff_eq, beq_iff_eq]
      exact hrate
    · -- those before do not even have the name
      have := hbefore m hm
      rw [DrmConnector.isMode, beq_self_eq_true, Bool.true_or, Bool.and_true] at this
      rw [DrmConnector.isMode, Bool.not_and, this, Bool.true_or]

/-! ## What the checks find -/

/-- Connectors that were asked can be asked again. -/
theorem Answered.refreshed {conns conns' : List DrmConnector} (ha : Answered card fd conns)
    (hconns : List.Forall₂ DrmConnector.Refreshed conns conns') : Answered card fd conns' := by
  refine ⟨fun conn hconn => ?_, fun conn hconn => ?_⟩
  all_goals obtain ⟨conn₀, hconn₀, p, hp, rfl⟩ := Prog.exists_rel_of_mem hconns hconn
  · exact ha.fds conn₀ hconn₀
  · rw [DrmConnector.connectorId, hp]
    exact ha.read conn₀ hconn₀

/-- The check of one connector finds its first mode of the name, if it is plugged. -/
theorem checkConnectors_of_answered {conns : List DrmConnector} (ha : Answered card fd conns)
    (hcard : k.card h fd = card) {connId : ℕ} (hmem : connId ∈ conns.map (·.connectorId))
    (name : String) : ∃ r conns', checkConnectors name [connId] none conns k h =
      .ok ((r, conns'), .query (.connector fd connId) :: h) ∧
        r.join = card.takenMode connId name := by
  rw [Card.takenMode]
  obtain ⟨split, hsplit, hfind⟩ : ∃ split, Prog.splitFirst
      (fun c : DrmConnector => (.ok (c.connectorId == connId) : Except Fault Bool)) conns =
        .ok split ∧ split.map (·.2.1) = conns.find? (·.connectorId == connId) :=
    Prog.splitFirst_of_ok fun _ _ => rfl
  obtain ⟨conn₀, hconn₀, hid₀⟩ := List.mem_map.1 hmem
  rcases split with _ | ⟨pre, conn, post⟩
  · exact absurd (beq_iff_eq.2 hid₀) (List.find?_eq_none.1 hfind.symm conn₀ hconn₀)
  obtain ⟨hconn, rfl⟩ := Lists.of_find?_key hfind.symm
  have hp := isPlugged_of_answered ha hconn hcard
  have hmodes := DrmConnector.modes_refresh (ha.read conn hconn)
  rw [checkConnectors, Prog.visitFirst_eq, hsplit, bind_assoc,
    Prog.bind_of_ok (Prog.lift_eq_ok.2 ⟨rfl, rfl⟩)]
  dsimp only
  rw [bind_assoc, bind_assoc, Prog.bind_of_ok hp, pure_bind, pure_bind]
  dsimp only
  cases card.plugged conn.connectorId with
  | false => exact ⟨_, _, rfl, rfl⟩
  | true =>
    have hget : (conn.refresh card).getMode name = card.firstMode conn.connectorId name 0 := by
      rw [DrmConnector.getMode, hmodes, Card.firstMode]
    dsimp only
    rw [if_pos rfl, if_pos Option.isNone_none, hget]
    split
    · exact ⟨_, _, rfl, rfl⟩
    next hsupported =>
      refine ⟨_, _, rfl, (Option.eq_none_iff_forall_ne_some.2 fun mode hmode => ?_).symm⟩
      rw [← hget] at hmode
      exact hsupported (List.any_eq_true.2
        ⟨mode, List.mem_of_find?_eq_some hmode, List.find?_some hmode⟩)

variable {c : DrmCrtc} {connId width height : ℕ}

/-- So do the checks of a CRTC with this connector. -/
theorem findMode_of_answered {conns : List DrmConnector} (ha : Answered card fd conns)
    (hcard : k.card h fd = card) (hmem : connId ∈ conns.map (·.connectorId)) {id : ℕ}
    (hid : c.crtcId = .ok id) (hc : c.connectors = [connId]) (width height : ℕ) :
    ∃ conns', findMode conns c width height k h = .ok
      (((card.takenMode connId (modeName width height)).map (id, ·), conns'),
        .query (.connector fd connId) :: h) := by
  obtain ⟨r, conns', hcheck, hr⟩ :=
    checkConnectors_of_answered ha hcard hmem (modeName width height)
  refine ⟨conns', ?_⟩
  rw [findMode, hid, Prog.bind_of_ok (Prog.lift_eq_ok.2 ⟨rfl, rfl⟩), hc,
    if_neg (by simp), Prog.bind_of_ok hcheck, ← hr]
  rfl

namespace DriDevice

variable {d : DriDevice} {displayPath : UInt8}

/-- What happened once the checks of a mode change asked: about the connectors up
    to that of the display path, and about that of its CRTC. -/
def checked (d : DriDevice) (position connId : ℕ) (h : History) : History :=
  .query (.connector d.drmModuleFd connId) ::
    askedAbout d.drmModuleFd (d.connectorList.take (position + 1)) h

/-- The parts of the checks of a mode change that has a target. -/
theorem exists_findMode {t : Target} {conns : List DrmConnector}
    (ht : d.findTarget width height displayPath k h = .ok ((some t, conns), h₁)) :
    ∃ found conns₁ h₂, DRIElements.findDisplay displayPath 0 d.connectorList k h =
        .ok ((found, conns₁), h₂) ∧
      t.crtc.hasId ((found.map (·.crtcId)).getD 0) = .ok true ∧
        findMode conns₁ t.crtc width height k h₂ =
          .ok ((some (t.crtcId, t.mode), conns), h₁) := by
  simp only [findTarget, Prog.bind_eq_ok, Prod.exists, Prog.lift_eq_ok] at ht
  obtain ⟨found, conns₁, h₂, hfind, split, _, ⟨hs, rfl⟩, ht⟩ := ht
  rcases split with _ | ⟨pre, crtc, post⟩
  · simp at ht
  simp only [Prog.bind_eq_ok, Prog.pure_eq_ok, Prod.exists, Prod.mk.injEq] at ht
  obtain ⟨mode, conns₂, _, hm, ⟨hmode, rfl⟩, rfl⟩ := ht
  obtain ⟨m, rfl, rfl⟩ := Option.map_eq_some_iff.1 hmode.symm
  exact ⟨found, conns₁, _, hfind, (Prog.splitFirst_eq_some hs).2.1, hm⟩

/-- The checks of a mode change, where the display has a CRTC with one connector. -/
theorem findTarget_of_display (hk : k.Steady) (hd : d.Sane)
    (hcard : k.card h d.drmModuleFd = card)
    (ha : ValRpi.Answered card d.drmModuleFd d.connectorList)
    {q : DrmConnector × ℕ} (hq : (pluggedFrom card d.connectorList 0).find?
      (countedAs · == displayPath.toNat) = some q)
    (hmem : c ∈ d.crtcList) (hid : c.id = q.1.crtcId) (hc : c.connectors = [connId])
    (hconn : connId ∈ d.connectorList.map (·.connectorId)) (width height : ℕ) :
    ∃ pre post conns, d.findTarget width height displayPath k h = .ok
      (((card.takenMode connId (modeName width height)).map
        fun mode => ⟨pre, c, post, q.1.crtcId, mode⟩, conns), d.checked q.2 connId h) := by
  obtain ⟨conns₁, h₂, hfind, hasked⟩ := DRIElements.findDisplay_eq hk hcard ha displayPath
    (by rfl : (0 : UInt8).toNat = 0 % 256)
  rw [hq] at hfind
  obtain rfl : h₂ = _ := hasked q hq
  have hconns := refreshed_of_findDisplay hfind
  have hcard₁ : k.card (askedAbout d.drmModuleFd (d.connectorList.take (q.2 + 1 - 0)) h)
      d.drmModuleFd = card := (hk.card_eq (asks_findDisplay _ _ _) hfind).trans hcard
  have hids := ids_of_refreshed hconns
  -- CRTCs are told apart by their ids
  obtain ⟨split, hs, hsplit⟩ := Prog.splitFirst_of_ok fun c₁ hc₁ =>
    DrmCrtc.hasId_eq (hd.crtcs c₁ hc₁) q.1.crtcId
  rw [← hid, Lists.find?_key hd.crtcIds hmem] at hsplit
  obtain ⟨⟨pre, c₁, post⟩, rfl, rfl⟩ := Option.map_eq_some_iff.1 hsplit
  obtain ⟨conns₂, hmode⟩ := findMode_of_answered (ha.refreshed hconns) hcard₁ (hids ▸ hconn)
    (DrmCrtc.crtcId_eq (hd.crtcs c₁ hmem)) hc width height
  refine ⟨pre, post, conns₂, ?_⟩
  rw [findTarget, Prog.bind_of_ok hfind]
  refine (Prog.bind_of_ok (Prog.lift_eq_ok.2 ⟨hs, rfl⟩)).trans
    ((Prog.bind_of_ok hmode).trans ?_)
  dsimp only
  rw [Option.map_map, ← hid]
  rfl

/-- The mode that a mode change takes for a display, whatever the rate: the CRTC of
    the display's connector has one connector, which has a mode of the name, and
    the kernel grants the buffer and the framebuffer. -/
def Takes (d : DriDevice) (k : Kernel) (h : History) (display : DrmConnector × ℕ)
    (width height : ℕ) (mode : ModeInfo) : Prop :=
  ∃ c ∈ d.crtcList, c.id = display.1.crtcId ∧ ∃ connId, c.connectors = [connId] ∧
    connId ∈ d.connectorList.map (·.connectorId) ∧
      (k.card h d.drmModuleFd).takenMode connId (modeName width height) = some mode ∧
        DrmCrtc.grant k (c.released d.drmModuleFd (d.checked display.2 connId h)) d.drmModuleFd
          width height ≠ none

end DriDevice

namespace DRIElements

variable {e e₀ e' : DRIElements} {h₀ h' : History} {defMode : Size} {displayPath : UInt8}
  {vRefresh : ℕ} {display : DrmConnector × ℕ} {mode : ModeInfo}

/-- A mode change that takes a mode sets it, -/
theorem changeMode_of_takes (hk : k.Steady) (hd : e.primary.Sane)
    (hcard : k.card h e.primary.drmModuleFd = card)
    (ha : Answered card e.primary.drmModuleFd e.primary.connectorList)
    (hq : (pluggedFrom card e.primary.connectorList 0).find?
      (countedAs · == displayPath.toNat) = some display)
    (ht : e.primary.Takes k h display width height mode) (vRefresh : ℕ) :
    ∃ e' req done before, e.changeMode width height displayPath vRefresh k h =
      .ok ((1, e'), .setCrtc req done :: before) ∧ req.mode = mode := by
  obtain ⟨c, hmem, hid, connId, hc, hconn, hmode, hgrant⟩ := ht
  obtain ⟨pre, post, conns, htarget⟩ := DriDevice.findTarget_of_display hk hd hcard ha hq hmem hid
    hc hconn width height
  rw [← hcard, hmode] at htarget
  obtain ⟨⟨arg, fbId⟩, hg⟩ := Option.ne_none_iff_exists'.1 hgrant
  exact ⟨_, _, _, _, changeMode_of_grant htarget hg, rfl⟩

/-- and no other one is done. -/
theorem takes_of_changeMode (hk : k.Steady) (hd : e.primary.Sane) (hs : Single e.crtcs)
    (hcard : k.card h e.primary.drmModuleFd = card)
    (ha : Answered card e.primary.drmModuleFd e.primary.connectorList)
    (hq : (pluggedFrom card e.primary.connectorList 0).find?
      (countedAs · == displayPath.toNat) = some display) {ret : ℤ}
    (hr : e.changeMode width height displayPath vRefresh k h = .ok ((ret, e'), h'))
    (hret : ret ≠ 0) : ∃ mode, e.primary.Takes k h display width height mode ∧
      ∃ req done before, h' = .setCrtc req done :: before ∧ req.mode = mode := by
  cases changed_of_changeMode hr with
  | noTarget _ => exact absurd rfl hret
  | refused _ _ => exact absurd rfl hret
  | @granted conns h₁ t arg fbId done ht hg =>
    obtain ⟨found, conns₁, h₂, hfind, hid, hmode⟩ := DriDevice.exists_findMode ht
    have hmem : t.crtc ∈ e.primary.crtcList := by
      rw [((DriDevice.findTarget_spec ht).2 t rfl).crtcList]
      simp
    -- the display's connector names the CRTC
    obtain ⟨conns₂, h₃, hfind', _⟩ := findDisplay_eq hk hcard ha displayPath
      (by rfl : (0 : UInt8).toNat = 0 % 256)
    rw [hq] at hfind'
    obtain ⟨rfl, _⟩ := Prod.mk.inj (Prod.mk.inj (Except.ok.inj (hfind.symm.trans hfind'))).1
    rw [DrmCrtc.hasId_eq (hd.crtcs _ hmem)] at hid
    replace hid : t.crtc.id = display.1.crtcId := eq_of_beq (Except.ok.inj hid)
    -- and the CRTC has one connector
    obtain ⟨before, after, hcrtcs, _⟩ := e.exists_crtcs_eq e.mPrimaryDev
    have hsingle : t.crtc.connectors.length ≤ 1 := by
      refine hs _ ?_
      rw [hcrtcs]
      exact List.mem_append_left _ (List.mem_append_right _ hmem)
    obtain ⟨hne, hoffered, _⟩ := findMode_of_single hsingle hmode
    obtain ⟨connId, hc⟩ : ∃ connId, t.crtc.connectors = [connId] :=
      List.length_eq_one_iff.1 (Nat.le_antisymm hsingle (List.length_pos_iff.2 hne))
    obtain ⟨conn, hconn, rfl, _⟩ := hoffered connId (by simp [hc])
    have hids := ids_of_refreshed (refreshed_of_findDisplay hfind)
    have hconn' := hids ▸ List.mem_map_of_mem hconn
    obtain ⟨pre, post, conns₃, htarget⟩ := DriDevice.findTarget_of_display hk hd hcard ha hq hmem
      hid hc hconn' width height
    obtain ⟨htaken, rfl⟩ := Prod.mk.inj (Except.ok.inj (ht.symm.trans htarget))
    obtain ⟨mode, htaken, heq⟩ := Option.map_eq_some_iff.1 (Prod.mk.inj htaken).1.symm
    refine ⟨mode, ⟨_, hmem, hid, conn.connectorId, hc, hconn', hcard ▸ htaken, ?_⟩, _, _, _,
      rfl, congrArg Target.mode heq.symm⟩
    rw [hg]
    exact Option.some_ne_none _

/-- A mode change that is done sets the first mode of the name and the rate that the
    connector of the display path has, and none is done if it has none. -/
def SetsRate (e : DRIElements) (k : Kernel) (h : History) (width height : ℕ)
    (displayPath : UInt8) (vRefresh : ℕ) : Prop :=
  ∀ connId ret e' h', e.Selects k h displayPath connId →
    e.changeMode width height displayPath vRefresh k h = .ok ((ret, e'), h') →
      match (e.card k h).firstMode connId (modeName width height) vRefresh with
      | some mode =>
        ret ≠ 0 → ∃ req done before, h' = .setCrtc req done :: before ∧ req.mode = mode
      | none => ret = 0

/-- A mode that is taken is set at any rate, and nothing is done if none is taken. -/
theorem setsRate_iff (hk : k.Steady) (hd : e.primary.Sane) (hs : Single e.crtcs)
    (hread : ∀ conn ∈ e.primary.connectorList,
      ((e.card k h).connector conn.connectorId).isSome) :
    e.SetsRate k h width height displayPath vRefresh ↔
      ∀ display ∈ (pluggedFrom (e.card k h) e.primary.connectorList 0).find?
        (countedAs · == displayPath.toNat),
          ∀ mode, e.primary.Takes k h display width height mode →
            (e.card k h).firstMode display.1.connectorId (modeName width height) vRefresh =
              some mode := by
  have ha : Answered (e.card k h) e.primary.drmModuleFd e.primary.connectorList := ⟨hd.fds, hread⟩
  constructor
  · intro hrate display hq mode ht
    obtain ⟨e', req, done, before, hr, rfl⟩ :=
      changeMode_of_takes hk hd rfl ha hq ht vRefresh
    have hset := hrate _ _ _ _ ((selects_iff hk rfl ha).2 ⟨display, hq, rfl⟩) hr
    split at hset
    next mode hmode =>
      obtain ⟨_, _, _, heq, rfl⟩ := hset Int.one_ne_zero
      cases heq
      exact hmode
    · exact absurd hset Int.one_ne_zero
  · intro htakes connId ret e' h' hsel hr
    obtain ⟨display, hq, rfl⟩ := (selects_iff hk rfl ha).1 hsel
    have htaken := takes_of_changeMode hk hd hs rfl ha hq hr
    split
    next mode hmode =>
      intro hret
      obtain ⟨mode', ht, hset⟩ := htaken hret
      rw [htakes display hq mode' ht] at hmode
      exact Option.some.inj hmode ▸ hset
    next hnone =>
      by_contra hret
      obtain ⟨mode', ht, _⟩ := htaken hret
      rw [htakes display hq mode' ht] at hnone
      cases hnone

/-- In every state that is reached, the right mode is set if and only if the one
    that is taken, whatever the rate, is also the first one of the display's
    connector that has the name and the rate. -/
theorem changeMode_rate_iff (hk : k.Steady) (hs : k.Sane)
    (hnew : new defMode k [] = .ok (e₀, h₀)) {ls : List (Op × ℤ)}
    (hrun : Run (Step k) (e₀, h₀) ls (e, h))
    (hread : ∀ conn ∈ e.primary.connectorList,
      ((e.card k h).connector conn.connectorId).isSome) :
    e.SetsRate k h width height displayPath vRefresh ↔
      ∀ display ∈ (pluggedFrom (e.card k h) e.primary.connectorList 0).find?
        (countedAs · == displayPath.toNat),
          ∀ mode, e.primary.Takes k h display width height mode →
            (e.card k h).firstMode display.1.connectorId (modeName width height) vRefresh =
              some mode :=
  setsRate_iff hk (kept_of_run hs hnew hrun).sane (single_of_run hnew hrun) hread

/-- Where the CRTC of the display has the display's own connector, the right mode is set if
    and only if none is taken, or the rate is 0 or that of the one that is taken, which is
    the first one of the name. -/
theorem setsRate_iff_of_own (hk : k.Steady) (hs : k.Sane)
    (hnew : new defMode k [] = .ok (e₀, h₀)) {ls : List (Op × ℤ)}
    (hrun : Run (Step k) (e₀, h₀) ls (e, h))
    (hread : ∀ conn ∈ e.primary.connectorList,
      ((e.card k h).connector conn.connectorId).isSome)
    (hown : ∀ display ∈ (pluggedFrom (e.card k h) e.primary.connectorList 0).find?
      (countedAs · == displayPath.toNat), ∀ c ∈ e.primary.crtcList, c.id = display.1.crtcId →
        ∀ connId, c.connectors = [connId] → connId = display.1.connectorId) :
    e.SetsRate k h width height displayPath vRefresh ↔
      ∀ display ∈ (pluggedFrom (e.card k h) e.primary.connectorList 0).find?
        (countedAs · == displayPath.toNat),
          ∀ mode, e.primary.Takes k h display width height mode →
            vRefresh = 0 ∨ mode.vrefresh = vRefresh := by
  rw [setsRate_iff hk (kept_of_run hs hnew hrun).sane (single_of_run hnew hrun) hread]
  refine forall₂_congr fun display hq => forall₂_congr fun mode ht => ?_
  obtain ⟨c, hmem, hid, connId, hc, _, htaken, _⟩ := ht
  obtain rfl := hown display hq c hmem hid connId hc
  refine Card.firstMode_eq_iff ?_ vRefresh
  rw [Card.takenMode] at htaken
  split at htaken
  · exact htaken
  · cases htaken

/-- A rate that the first mode of the size has. -/
theorem changeMode_rate_one_display : ∃ e h,
    new ⟨1920, 1080⟩ (.willing fun _ => .oneDisplay) [] = .ok (e, h) ∧
      (e.changeMode 1280 720 0 60 (.willing fun _ => .oneDisplay) h).map (·.1.1) = .ok 1 ∧
        e.SetsRate (.willing fun _ => .oneDisplay) h 1280 720 0 60 := by
  let k : Kernel := .willing fun _ => .oneDisplay
  have hrun : (new ⟨1920, 1080⟩ k []).map (fun s =>
      (s.1.primary.connectorList.map (·.connectorId),
        (s.1.changeMode 1280 720 0 60 k s.2).map (·.1.1))) = .ok ([21], .ok 1) := by
    decide +kernel
  obtain ⟨⟨e, h⟩, hnew, hobs⟩ := Prog.exists_of_map_eq_ok hrun
  obtain ⟨hids, hdone⟩ := Prod.mk.inj hobs
  have hid : ∀ conn ∈ e.primary.connectorList, conn.connectorId = 21 := fun conn hconn =>
    List.mem_singleton.1 (hids ▸ List.mem_map_of_mem hconn)
  refine ⟨e, h, hnew, hdone, (changeMode_rate_iff (Kernel.scripted_steady _ _ _ _)
    (Kernel.scripted_sane _ _ _ _ fun _ => Card.oneDisplay_sane) hnew .nil fun conn hconn => ?_).2
      fun display hq mode ht => ?_⟩
  · rw [hid conn hconn]
    rfl
  · obtain ⟨c, _, _, connId, _, hconn, htaken, _⟩ := ht
    replace hids : e.primary.connectorList.map (·.connectorId) = [21] := hids
    rw [hids, List.mem_singleton] at hconn
    subst hconn
    rw [hid _ (mem_pluggedFrom (List.mem_of_find?_eq_some hq)).1]
    have hmode : Card.oneDisplay.firstMode 21 (modeName 1280 720) 0 = some mode := htaken
    have hfirst : Card.oneDisplay.firstMode 21 (modeName 1280 720) 0 =
        some (.progressive 1280 720) := by decide +kernel
    obtain rfl := Option.some.inj (hfirst.symm.trans hmode)
    exact (Card.firstMode_eq_iff hmode 60).2 (.inr rfl)

/-- A display with a size at two rates: the first one is set, whichever is asked for. -/
theorem changeMode_ignores_rate : ∃ e h,
    new ⟨1920, 1080⟩ (.willing fun _ => .preferredDisplay) [] = .ok (e, h) ∧
      ¬ e.SetsRate (.willing fun _ => .preferredDisplay) h 1280 720 0 50 := by
  let k : Kernel := .willing fun _ => .preferredDisplay
  have hrun : (new ⟨1920, 1080⟩ k []).map (fun s =>
      ((findDisplay 0 0 s.1.primary.connectorList k s.2).map fun f =>
        f.1.1.map (·.connectorId),
        (s.1.changeMode 1280 720 0 50 k s.2).map fun r => (r.1.1, r.2.head?))) =
          .ok (.ok (some 21), .ok (1,
            some (.setCrtc ⟨3, 31, 2, 0, 0, [21], .progressive 1280 720⟩ true))) := by
    decide +kernel
  obtain ⟨⟨e, h⟩, hnew, hobs⟩ := Prog.exists_of_map_eq_ok hrun
  obtain ⟨hfind, hchange⟩ := Prod.mk.inj hobs
  obtain ⟨⟨⟨found, conns⟩, h₁⟩, hfind, hid⟩ := Prog.exists_of_map_eq_ok hfind
  obtain ⟨conn, rfl, hconn⟩ := Option.map_eq_some_iff.1 hid
  obtain ⟨⟨⟨ret, e'⟩, h'⟩, hchange, hobs⟩ := Prog.exists_of_map_eq_ok hchange
  obtain ⟨rfl, hhead⟩ := Prod.mk.inj hobs
  refine ⟨e, h, hnew, fun hrate => ?_⟩
  obtain ⟨req, done, before, rfl, hmode⟩ : ∃ req done before, h' = .setCrtc req done :: before ∧
      req.mode = ⟨modeName 1280 720, 1280, 720, 50, 0⟩ :=
    hrate 21 1 e' h' ⟨conn, conns, h₁, hfind, hconn⟩ hchange Int.one_ne_zero
  cases hhead
  exact absurd hmode (by decide)

end DRIElements

end ValRpi
