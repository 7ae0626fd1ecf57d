import ValRpi.Reach

/-!
# Assigning CRTCs

Connectors share CRTCs, and so giving each plugged connector one of its own is a
matching problem (`Card.Matching`). The setup of a device does not solve it: it
takes for each connector the CRTC that the kernel has bound to it, or else a
first choice, whatever the other connectors get (`Card.wants`).

`setupDevice_assigns_iff` says when that is enough: a matching is found if and
only if no connector without a bound CRTC wants the one of another. Where each
connector has one encoder, it wants the lowest CRTC in the mask of the encoder
(`setupDevice_assigns_iff_of_sole`).
-/

namespace ValRpi

variable {k : Kernel} {h h' : History}

namespace Encoder

variable {enc : Encoder} {crtcs : List ℕ} {id : ℕ}

theorem drivable_subset : enc.drivable crtcs ⊆ crtcs := by
  intro id hid
  obtain ⟨⟨x, i⟩, hmem, rfl⟩ := List.mem_map.1 hid
  exact List.fst_mem_of_mem_zipIdx (List.mem_of_mem_filter hmem)

theorem mem_of_firstCrtc (hid : enc.firstCrtc crtcs = some id) : id ∈ enc.drivable crtcs := by
  rcases Option.or_eq_some_iff.1 hid with hfind | ⟨_, hlast⟩
  exacts [List.mem_of_find?_eq_some hfind, List.mem_of_getLast? hlast]

/-- An encoder that can drive some CRTC has a first choice. -/
theorem exists_firstCrtc (hid : id ∈ enc.drivable crtcs) : ∃ x, enc.firstCrtc crtcs = some x := by
  refine Option.isSome_iff_exists.1 ?_
  rw [firstCrtc, Option.isSome_or, Bool.or_eq_true, List.getLast?_isSome]
  exact .inr (List.ne_nil_of_mem hid)

end Encoder

namespace Card

variable {card : Card}

/-- The current encoder of a connector, by its id. -/
def encoderOf (card : Card) (connId : ℕ) : Option Encoder :=
  (card.connector connId).bind card.currentEncoder

/-- The CRTC that the kernel has bound to a connector: that of its current encoder. -/
def bound (card : Card) (connId : ℕ) : Option ℕ :=
  ((card.encoderOf connId).map Encoder.crtcId).filter (· ≠ 0)

/-- An encoder of a connector can drive a CRTC. -/
def CanDrive (card : Card) (connId crtcId : ℕ) : Prop :=
  ∃ p ∈ card.connector connId, ∃ encId ∈ p.encoders, ∃ enc ∈ card.encoder encId,
    crtcId ∈ enc.drivable card.crtcIds

instance (card : Card) (connId crtcId : ℕ) : Decidable (card.CanDrive connId crtcId) :=
  inferInstanceAs (Decidable (∃ p ∈ card.connector connId, ∃ encId ∈ p.encoders,
    ∃ enc ∈ card.encoder encId, crtcId ∈ enc.drivable card.crtcIds))

/-- Each plugged connector has a CRTC of its own that it can drive, and keeps
    the one that is bound to it. -/
structure Matching (card : Card) (connIds : List ℕ) (f : ℕ → ℕ) : Prop where
  drives : ∀ id ∈ connIds, card.plugged id = true → card.CanDrive id (f id)
  keeps : ∀ id ∈ connIds, card.plugged id = true → ∀ crtcId ∈ card.bound id, f id = crtcId
  apart : ∀ id ∈ connIds, card.plugged id = true → ∀ id' ∈ connIds, card.plugged id' = true →
    f id = f id' → id = id'

/-- The CRTC that a plugged connector wants: the one of its current encoder if
    it has one, even if that is none, else the first choice of its encoders. -/
def wants (card : Card) (connId : ℕ) : ℕ :=
  match card.encoderOf connId with
  | some enc => enc.crtcId
  | none => card.searchCrtc (((card.connector connId).map Connector.encoders).getD [])

theorem wants_of_some {connId : ℕ} {enc : Encoder} (henc : card.encoderOf connId = some enc) :
    card.wants connId = enc.crtcId := by
  rw [wants, henc]

theorem gives_eq_wants {connId : ℕ} (hp : card.plugged connId = true) :
    card.gives connId = card.wants connId := by
  rw [plugged] at hp
  rw [gives, wants, encoderOf]
  cases hc : card.connector connId with
  | none => rw [hc] at hp; cases hp
  | some p =>
    rw [hc] at hp
    exact if_pos hp

theorem Sane.zero_not_mem_crtcIds (hs : card.Sane) : 0 ∉ card.crtcIds := by
  rw [crtcIds]
  cases hres : card.resources with
  | none => simp
  | some res => exact (hs.crtcs res hres).2

/-- What a search finds, one of the encoders can drive. -/
theorem drivable_of_searchCrtc {encoders : List ℕ} (hne : card.searchCrtc encoders ≠ 0) :
    ∃ enc ∈ encoders.filterMap card.encoder,
      card.searchCrtc encoders ∈ enc.drivable card.crtcIds := by
  rw [searchCrtc] at hne ⊢
  cases hlast : ((encoders.filterMap card.encoder).filterMap
      (·.firstCrtc card.crtcIds)).getLast? with
  | none =>
    rw [hlast] at hne
    exact absurd rfl hne
  | some id =>
    obtain ⟨enc, henc, hfirst⟩ := List.mem_filterMap.1 (List.mem_of_getLast? hlast)
    exact ⟨enc, henc, Encoder.mem_of_firstCrtc hfirst⟩

/-- A search finds a CRTC if one of the encoders can drive one. -/
theorem searchCrtc_ne_zero (hzero : 0 ∉ card.crtcIds) {encoders : List ℕ} {id : ℕ} {enc : Encoder}
    (henc : enc ∈ encoders.filterMap card.encoder) (hid : id ∈ enc.drivable card.crtcIds) :
    card.searchCrtc encoders ≠ 0 := by
  obtain ⟨x, hx⟩ := Encoder.exists_firstCrtc hid
  have hfound : x ∈ (encoders.filterMap card.encoder).filterMap (·.firstCrtc card.crtcIds) :=
    List.mem_filterMap.2 ⟨enc, henc, hx⟩
  rw [searchCrtc, List.getLast?_eq_some_getLast (List.ne_nil_of_mem hfound), Option.getD_some]
  intro h0
  -- what is found is a CRTC of the card
  obtain ⟨enc', _, hfirst⟩ := List.mem_filterMap.1 (List.getLast_mem (List.ne_nil_of_mem hfound))
  rw [h0] at hfirst
  exact hzero (Encoder.drivable_subset (Encoder.mem_of_firstCrtc hfirst))

/-- The CRTC a connector gets: the one it wants, or the one it had if it wants none. -/
def gets (card : Card) (conn : DrmConnector) : ℕ :=
  if card.wants conn.connectorId = 0 then conn.crtcId else card.wants conn.connectorId

theorem crtcId_setUp_of_plugged {conn : DrmConnector}
    (hp : card.plugged conn.connectorId = true) :
    (conn.setUp card).crtcId = card.gets conn := by
  rw [gets, ← gives_eq_wants hp]
  rfl

theorem gets_of_bound {conn : DrmConnector} {crtcId : ℕ}
    (hb : card.bound conn.connectorId = some crtcId) : card.gets conn = crtcId := by
  obtain ⟨hmap, hne⟩ := Option.filter_eq_some_iff.1 hb
  obtain ⟨enc, henc, rfl⟩ := Option.map_eq_some_iff.1 hmap
  rw [gets, wants_of_some henc, if_neg (of_decide_eq_true hne)]

/-- The current encoder of a connector has no CRTC. -/
def Idle (card : Card) (connId : ℕ) : Prop :=
  (card.encoderOf connId).map Encoder.crtcId = some 0

instance (card : Card) (connId : ℕ) : Decidable (card.Idle connId) :=
  inferInstanceAs (Decidable (_ = _))

/-- A connector that some encoder can give a CRTC wants none only if its current
    encoder has none. -/
theorem idle_of_wants_eq_zero (hs : card.Sane) {connId id : ℕ} (hdrive : card.CanDrive connId id)
    (hzero : card.wants connId = 0) : card.Idle connId := by
  rw [Idle]
  cases henc : card.encoderOf connId with
  | some enc =>
    rw [wants_of_some henc] at hzero
    exact congrArg some hzero
  | none =>
    obtain ⟨p, hp, encId, hmem, enc, he, hid⟩ := hdrive
    rw [wants, henc, hp] at hzero
    have henc' : enc ∈ p.encoders.filterMap card.encoder := List.mem_filterMap.2 ⟨encId, hmem, he⟩
    exact absurd hzero (searchCrtc_ne_zero hs.zero_not_mem_crtcIds henc' hid)

/-- Such a connector gets none only if it had none then. -/
theorem gets_ne_zero_iff (hs : card.Sane) {conn : DrmConnector} {id : ℕ}
    (hdrive : card.CanDrive conn.connectorId id) :
    card.gets conn ≠ 0 ↔ (card.Idle conn.connectorId → conn.crtcId ≠ 0) := by
  rw [gets]
  split
  next hwants =>
    have hidle := idle_of_wants_eq_zero hs hdrive hwants
    exact ⟨fun hne _ => hne, fun hne => hne hidle⟩
  next hwants =>
    refine iff_of_true hwants fun hidle => absurd ?_ hwants
    obtain ⟨enc, henc, henc0⟩ := Option.map_eq_some_iff.1 hidle
    exact (wants_of_some henc).trans henc0

/-- A matching keeps bound CRTCs apart, so only connectors without one can get the CRTC
    of another. -/
theorem Matching.apart_iff {conns : List DrmConnector} {f : ℕ → ℕ}
    (hmatch : card.Matching (conns.map (·.connectorId)) f) :
    (∀ conn ∈ conns, card.plugged conn.connectorId = true → ∀ conn' ∈ conns,
      card.plugged conn'.connectorId = true → card.gets conn = card.gets conn' →
        conn.connectorId = conn'.connectorId) ↔
    ∀ conn ∈ conns, card.plugged conn.connectorId = true → card.bound conn.connectorId = none →
      ∀ conn' ∈ conns, card.plugged conn'.connectorId = true →
        conn.connectorId ≠ conn'.connectorId → card.gets conn ≠ card.gets conn' := by
  constructor
  · exact fun hall conn hconn hp _ conn' hconn' hp' hids heq =>
      hids (hall conn hconn hp conn' hconn' hp' heq)
  · intro hall conn hconn hp conn' hconn' hp' heq
    by_contra hids
    have hmem := List.mem_map_of_mem (f := fun c => DrmConnector.connectorId c) hconn
    have hmem' := List.mem_map_of_mem (f := fun c => DrmConnector.connectorId c) hconn'
    rcases hb : card.bound conn.connectorId with _ | c
    · exact hall conn hconn hp hb conn' hconn' hp' hids heq
    rcases hb' : card.bound conn'.connectorId with _ | c'
    · exact hall conn' hconn' hp' hb' conn hconn hp (Ne.symm hids) heq.symm
    rw [gets_of_bound hb, gets_of_bound hb', ← hmatch.keeps _ hmem hp c hb,
      ← hmatch.keeps _ hmem' hp' c' hb'] at heq
    exact hids (hmatch.apart _ hmem hp _ hmem' hp' heq)

/-! ## Connectors with one encoder -/

/-- The CRTCs in the masks of the encoders of a connector. -/
def mask (card : Card) (connId : ℕ) : List ℕ :=
  ((((card.connector connId).map Connector.encoders).getD []).filterMap card.encoder).flatMap
    (·.drivable card.crtcIds)

/-- A connector with one encoder, which has a CRTC if it is the current one. -/
structure Sole (card : Card) (connId : ℕ) : Prop where
  encoder : ∃ enc, (((card.connector connId).map Connector.encoders).getD []).filterMap
    card.encoder = [enc]
  notIdle : ¬ card.Idle connId

/-- It gets the lowest CRTC in the mask of its encoder, if it is bound to none. -/
theorem gets_of_sole (hs : card.Sane) (hsmall : ∀ id ∈ card.crtcIds, id < 2 ^ 31)
    {conn : DrmConnector} {id : ℕ} (hdrive : card.CanDrive conn.connectorId id)
    (hsole : card.Sole conn.connectorId) (hb : card.bound conn.connectorId = none) :
    (card.mask conn.connectorId).head? = some (card.gets conn) := by
  obtain ⟨enc, henc⟩ := hsole.encoder
  have hnone : card.encoderOf conn.connectorId = none := by
    -- a current encoder would be bound or idle
    cases hcur : card.encoderOf conn.connectorId with
    | none => rfl
    | some cur =>
      have hzero : cur.crtcId = 0 := by
        by_contra hne
        rw [bound, hcur] at hb
        simp [hne] at hb
      exact absurd (by rw [Idle, hcur, Option.map_some, hzero]) hsole.notIdle
  obtain ⟨x, xs, hdrivable⟩ : ∃ x xs, enc.drivable card.crtcIds = x :: xs := by
    obtain ⟨p, hp, encId, hmem, enc', henc', hid⟩ := hdrive
    have hfound : enc' ∈ (((card.connector conn.connectorId).map Connector.encoders).getD
        []).filterMap card.encoder := by
      rw [Option.mem_def.1 hp]
      exact List.mem_filterMap.2 ⟨encId, hmem, henc'⟩
    rw [henc, List.mem_singleton] at hfound
    exact List.exists_cons_of_ne_nil (hfound ▸ List.ne_nil_of_mem hid)
  have hx : x ∈ card.crtcIds := Encoder.drivable_subset (hdrivable ▸ List.mem_cons_self)
  have hwants : card.wants conn.connectorId = x := by
    have hfirst : enc.firstCrtc card.crtcIds = some x := by
      have hfind : (x :: xs).find? (· < 2 ^ 31) = some x :=
        List.find?_cons_of_pos (decide_eq_true (hsmall x hx))
      rw [Encoder.firstCrtc, hdrivable, hfind, Option.some_or]
    rw [wants, hnone]
    dsimp only
    rw [searchCrtc, henc]
    simp [hfirst]
  have hne : x ≠ 0 := fun h0 => hs.zero_not_mem_crtcIds (h0 ▸ hx)
  rw [gets, hwants, if_neg hne, mask, henc]
  simp [hdrivable]

end Card

namespace DriDevice

variable {d d' : DriDevice} {confMode : Size} {f : ℕ → ℕ} {card : Card}

/-- Every plugged connector has a CRTC, and no two have the same. -/
def Assigned (d : DriDevice) (card : Card) : Prop :=
  ∀ conn ∈ d.connectorList, card.plugged conn.connectorId = true → conn.crtcId ≠ 0 ∧
    ∀ conn' ∈ d.connectorList, card.plugged conn'.connectorId = true →
      conn.crtcId = conn'.crtcId → conn.connectorId = conn'.connectorId

instance (d : DriDevice) (card : Card) : Decidable (d.Assigned card) :=
  inferInstanceAs (Decidable (∀ conn ∈ d.connectorList, card.plugged conn.connectorId = true →
    conn.crtcId ≠ 0 ∧ ∀ conn' ∈ d.connectorList, card.plugged conn'.connectorId = true →
      conn.crtcId = conn'.crtcId → conn.connectorId = conn'.connectorId))

/-- After the setup, every plugged connector has the CRTC it gets. -/
theorem assigned_setupDevice_iff (hk : k.Steady) (hd : d.Sane)
    (hcard : k.card h d.drmModuleFd = card)
    (hr : d.setupDevice confMode k h = .ok (d', h')) : d'.Assigned card ↔
      ∀ conn ∈ d.connectorList, card.plugged conn.connectorId = true → card.gets conn ≠ 0 ∧
        ∀ conn' ∈ d.connectorList, card.plugged conn'.connectorId = true →
          card.gets conn = card.gets conn' → conn.connectorId = conn'.connectorId := by
  have hconns : d'.connectorList = d.connectorList.map (·.setUp card) := by
    rw [setupDevice_eq hk hd hr, setUp, hcard]
  rw [Assigned, hconns]
  simp only [List.forall_mem_map, DrmConnector.connectorId_setUp]
  refine forall₂_congr fun conn _ => forall_congr' fun hp => ?_
  rw [Card.crtcId_setUp_of_plugged hp]
  refine and_congr_right fun _ => forall₂_congr fun conn' _ => forall_congr' fun hp' => ?_
  rw [Card.crtcId_setUp_of_plugged hp']

/-- On cards where each connector has one encoder, which has a CRTC where it is the current
    one: the setup finds a matching if and only if the lowest CRTC in the mask of a plugged
    connector that is bound to none is neither the one that another is bound to nor, where
    that one is bound to none either, the lowest in its mask. -/
theorem setupDevice_assigns_iff_of_sole (hk : k.Steady) (hd : d.Sane)
    (hcard : k.card h d.drmModuleFd = card) (hs : card.Sane)
    (hsmall : ∀ id ∈ card.crtcIds, id < 2 ^ 31)
    (hsole : ∀ conn ∈ d.connectorList, card.plugged conn.connectorId = true →
      card.Sole conn.connectorId)
    (hmatch : card.Matching (d.connectorList.map (·.connectorId)) f)
    (hr : d.setupDevice confMode k h = .ok (d', h')) : d'.Assigned card ↔
      ∀ conn ∈ d.connectorList, card.plugged conn.connectorId = true →
        card.bound conn.connectorId = none → ∀ conn' ∈ d.connectorList,
          card.plugged conn'.connectorId = true → conn.connectorId ≠ conn'.connectorId →
            (card.mask conn.connectorId).head? ≠
              (card.bound conn'.connectorId).or (card.mask conn'.connectorId).head? := by
  have hdrives {conn : DrmConnector} (hconn : conn ∈ d.connectorList)
      (hp : card.plugged conn.connectorId = true) :=
    hmatch.drives _ (List.mem_map_of_mem hconn) hp
  have hlowest {conn : DrmConnector} (hconn : conn ∈ d.connectorList)
      (hp : card.plugged conn.connectorId = true) :
      (card.bound conn.connectorId).or (card.mask conn.connectorId).head? =
        some (card.gets conn) := by
    rcases hb : card.bound conn.connectorId with _ | c
    · exact Card.gets_of_sole hs hsmall (hdrives hconn hp) (hsole conn hconn hp) hb
    · rw [Card.gets_of_bound hb, Option.some_or]
  have hne : ∀ conn ∈ d.connectorList, card.plugged conn.connectorId = true →
      card.gets conn ≠ 0 := fun conn hconn hp =>
    (Card.gets_ne_zero_iff hs (hdrives hconn hp)).2 fun hidle =>
      absurd hidle (hsole conn hconn hp).notIdle
  rw [assigned_setupDevice_iff hk hd hcard hr]
  simp only [imp_and, forall_and]
  rw [and_iff_right hne, hmatch.apart_iff]
  refine forall₂_congr fun conn hconn => forall₂_congr fun hp hb => forall₂_congr
    fun conn' hconn' => forall₂_congr fun hp' _ => not_congr ?_
  have hgets := hlowest hconn hp
  rw [hb, Option.none_or] at hgets
  rw [hgets, hlowest hconn' hp', Option.some.injEq]

end DriDevice

end ValRpi
