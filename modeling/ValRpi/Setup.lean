import ValRpi.Load

/-!
# What a setup does

The setup of a device asks the card about each connector in turn, and writes to
the CRTC it is given. On a steady kernel the card answers the same throughout,
and so the setup is a function of the card (`DriDevice.setupDevice_eq`):

* `Card.gives` is the CRTC that a connector is given. That is the CRTC of its
  current encoder if it has one, else one that an encoder of it can drive
  (`Card.crtcFor`), and none if it is not plugged;
* a CRTC belongs to the last connector it is given to (`Card.lastGiven`).
-/

namespace ValRpi

variable {k : Kernel} {h h' : History} {fd : ℤ}

/-! ## Steady kernels -/

theorem Kernel.Steady.card_append (hk : k.Steady) {new : History} (hnew : ∀ e ∈ new, e.isQuery) :
    k.card (new ++ h) fd = k.card h fd := by
  induction new with
  | nil => rfl
  | cons e new ih =>
    obtain ⟨he, htail⟩ := List.forall_mem_cons.1 hnew
    obtain ⟨q, rfl⟩ : ∃ q, e = .query q := by
      cases e with
      | query q => exact ⟨q, rfl⟩
      | _ => cases he
    exact (hk _ q fd).trans (ih htail)

/-- A program that only asks leaves the card as it is. -/
theorem Kernel.Steady.card_eq (hk : k.Steady) {α : Type} {x : Act α} {a : α} (hx : Asks x)
    (hr : x k h = .ok (a, h')) : k.card h' fd = k.card h fd := by
  obtain ⟨new, rfl, hnew⟩ := hx _ _ _ _ hr
  exact hk.card_append hnew

/-! ## What a card answers -/

namespace Encoder

/-- The CRTCs that an encoder can drive, of those of a card, in their order. -/
def drivable (enc : Encoder) (crtcs : List ℕ) : List ℕ :=
  (crtcs.zipIdx.filter (enc.possibleCrtcs.testBit ·.2)).map Prod.fst

/-- The first of them whose id is not negative as a signed number, or the last
    one if all are. -/
def firstCrtc (enc : Encoder) (crtcs : List ℕ) : Option ℕ :=
  ((enc.drivable crtcs).find? (· < 2 ^ 31)).or (enc.drivable crtcs).getLast?

end Encoder

namespace Card

variable (card : Card)

/-- Whether a connector is plugged. -/
def plugged (id : ℕ) : Bool := (card.connector id).any Connector.plugged

/-- The modes of a connector. -/
def modes (id : ℕ) : List ModeInfo := ((card.connector id).map Connector.modes).getD []

/-- The first mode of a connector, taken as its greatest one. -/
def maxMode (id : ℕ) : ModeInfo := (card.modes id).head?.getD default

/-- The last mode of a connector, taken as its least one. -/
def minMode (id : ℕ) : ModeInfo := (card.modes id).getLast?.getD default

/-- The CRTCs of a card. -/
def crtcIds : List ℕ := (card.resources.map Resources.crtcs).getD []

/-- The current encoder of a connector. -/
def currentEncoder (p : Connector) : Option Encoder :=
  if p.encoderId ≠ 0 then card.encoder p.encoderId else none

/-- The first choice of the last of some encoders that can drive a CRTC at all,
    or 0. -/
def searchCrtc (encoders : List ℕ) : ℕ :=
  ((encoders.filterMap card.encoder).filterMap (·.firstCrtc card.crtcIds)).getLast?.getD 0

/-- The CRTC that `findCrtc` finds, or 0. -/
def crtcFor (p : Connector) : ℕ :=
  match card.currentEncoder p with
  | some enc => enc.crtcId
  | none => card.searchCrtc p.encoders

/-- The CRTC that a connector is given, or 0. -/
def gives (id : ℕ) : ℕ :=
  match card.connector id with
  | some p => if p.plugged then card.crtcFor p else 0
  | none => 0

/-- The last of some connectors that a CRTC is given to. -/
def lastGiven (ids : List ℕ) (crtcId : ℕ) : Option ℕ :=
  (ids.filter (card.gives · == crtcId)).getLast?

variable {card}

theorem plugged_of_gives {id : ℕ} (hid : card.gives id ≠ 0) : card.plugged id = true := by
  rw [gives] at hid
  rw [plugged]
  cases hp : card.connector id with
  | none => simp [hp] at hid
  | some p =>
    rw [hp] at hid
    by_contra hne
    exact hid (if_neg hne)

theorem lastGiven_eq_some {ids : List ℕ} {crtcId id : ℕ}
    (hid : card.lastGiven ids crtcId = some id) : id ∈ ids ∧ card.gives id = crtcId := by
  have hmem := List.mem_of_getLast? hid
  rw [List.mem_filter, beq_iff_eq] at hmem
  exact hmem

theorem lastGiven_eq_none {ids : List ℕ} {crtcId : ℕ} :
    card.lastGiven ids crtcId = none ↔ ∀ id ∈ ids, card.gives id ≠ crtcId := by
  rw [lastGiven, List.getLast?_eq_none_iff, List.filter_eq_nil_iff]
  simp only [beq_iff_eq]

end Card

/-! ## The search for a CRTC -/

theorem scanCrtcs_eq (mask j : ℕ) (ids : List ℕ) (crtc : ℕ) :
    scanCrtcs mask j ids crtc =
      (((((ids.zipIdx j).filter (mask.testBit ·.2)).map Prod.fst).find? (· < 2 ^ 31)).or
        (((ids.zipIdx j).filter (mask.testBit ·.2)).map Prod.fst).getLast?).getD crtc := by
  induction ids generalizing j crtc with
  | nil => rfl
  | cons id ids ih =>
    rw [scanCrtcs, List.zipIdx_cons]
    -- a CRTC that can be driven ends the scan unless its id is negative
    by_cases hbit : mask.testBit j = true
    · rw [if_pos hbit, List.filter_cons_of_pos (by exact hbit), List.map_cons, List.getLast?_cons]
      by_cases hid : id < 2 ^ 31
      · rw [if_pos hid, List.find?_cons_of_pos (by simpa using hid)]
        rfl
      · rw [if_neg hid, ih, List.find?_cons_of_neg (by simpa using hid)]
        cases List.find? _ _ <;> rfl
    · rw [if_neg hbit, ih, List.filter_cons_of_neg (by exact hbit)]

theorem scanCrtcs_eq_firstCrtc (enc : Encoder) (ids : List ℕ) (crtc : ℕ) :
    scanCrtcs enc.possibleCrtcs 0 ids crtc = (enc.firstCrtc ids).getD crtc :=
  scanCrtcs_eq _ _ _ _

theorem scanEncoders_eq (hk : k.Steady) {card : Card} (hcard : k.card h fd = card) {ids : List ℕ}
    {crtc r : ℕ} (hr : scanEncoders fd card.resources ids crtc k h = .ok (r, h')) :
    r = ((ids.filterMap card.encoder).filterMap (·.firstCrtc card.crtcIds)).getLast?.getD crtc := by
  induction ids generalizing crtc h with
  | nil =>
    simp only [scanEncoders, Prog.pure_eq_ok, Prod.mk.injEq] at hr
    exact hr.1
  | cons id ids ih =>
    rw [scanEncoders, drmModeGetEncoder, ask, Prog.bind_eq_ok] at hr
    obtain ⟨enc, h₁, hask, hr⟩ := hr
    rw [Prog.call_eq_ok, Prod.mk.injEq, hcard] at hask
    obtain ⟨rfl, rfl⟩ := hask
    have hcard₁ := (hk h (.encoder fd id) fd).trans hcard
    cases he : card.encoder id with
    | none =>
      rw [he] at hr
      rw [List.filterMap_cons_none he]
      exact ih hcard₁ hr
    | some enc =>
      simp only [he, Option.map_some, Prog.bind_eq_ok, Prog.lift_eq_ok, deref_eq_ok] at hr
      obtain ⟨res, _, ⟨hres, rfl⟩, hr⟩ := hr
      have hids : res.crtcs = card.crtcIds := by rw [Card.crtcIds, hres]; rfl
      rw [ih hcard₁ hr, scanCrtcs_eq_firstCrtc enc, hids, List.filterMap_cons_some he]
      -- a CRTC that the encoder finds replaces the one found before
      rw [List.filterMap_cons]
      cases enc.firstCrtc card.crtcIds with
      | none => rfl
      | some id => exact (congrArg (·.getD crtc) List.getLast?_cons).symm

/-- `findCrtc` finds the CRTC for a connector. -/
theorem findCrtc_eq (hk : k.Steady) {card : Card} (hcard : k.card h fd = card) {conn : DrmConnector}
    {id : ℕ} (hr : findCrtc fd conn k h = .ok (id, h')) : id = card.crtcFor conn.mConnectorPtr := by
  rw [findCrtc, Prog.bind_eq_ok] at hr
  obtain ⟨enc, h₁, henc, hr⟩ := hr
  have hcard₁ : k.card h₁ fd = card := (hk.card_eq (asks_currentEncoder fd conn) henc).trans hcard
  have hcurrent : enc.map Encoder.crtcId =
      (card.currentEncoder conn.mConnectorPtr).map Encoder.crtcId := by
    rw [currentEncoder] at henc
    rw [Card.currentEncoder]
    split at henc
    next hne =>
      rw [drmModeGetEncoder, ask, Prog.call_eq_ok, Prod.mk.injEq, hcard] at henc
      rw [henc.1, if_pos hne, Option.map_map]
      rfl
    next hne =>
      rw [Prog.pure_eq_ok, Prod.mk.injEq] at henc
      rw [henc.1, if_neg hne]
  rw [Card.crtcFor]
  cases enc with
  | some enc =>
    obtain ⟨enc₀, hsome, hid⟩ := Option.map_eq_some_iff.1 hcurrent.symm
    rw [Prog.pure_eq_ok, Prod.mk.injEq] at hr
    rw [hr.1, hsome]
    exact hid.symm
  | none =>
    rw [Option.map_eq_none_iff.1 hcurrent.symm]
    rw [Prog.bind_eq_ok, drmModeGetResources, ask] at hr
    obtain ⟨res, h₂, hres, hr⟩ := hr
    rw [Prog.call_eq_ok, Prod.mk.injEq, hcard₁] at hres
    obtain ⟨rfl, rfl⟩ := hres
    exact scanEncoders_eq hk ((hk _ _ _).trans hcard₁) hr

/-! ## The setup of a connector -/

namespace DrmConnector

/-- A connector that holds what the card answers about it. -/
def refresh (c : DrmConnector) (card : Card) : DrmConnector :=
  { c with
    mConnectorPtr := ((card.connector c.connectorId).map
      ({ · with connectorId := c.connectorId })).getD c.mConnectorPtr }

/-- A connector after the setup: it has the CRTC it is given, or else the one it
    had before. -/
def setUp (c : DrmConnector) (card : Card) : DrmConnector :=
  { c.refresh card with
    crtcId := if card.gives c.connectorId = 0 then c.crtcId else card.gives c.connectorId }

variable (c : DrmConnector) (card : Card)

@[simp]
theorem connectorId_refresh : (c.refresh card).connectorId = c.connectorId := by
  rw [refresh, connectorId]
  cases card.connector c.connectorId <;> rfl

@[simp]
theorem connectorId_setUp : (c.setUp card).connectorId = c.connectorId := connectorId_refresh c card

variable {c card}

theorem isPlugged_eq (hcard : k.card h c.mDrmModulefd = card) {c' : DrmConnector} {b : Bool}
    (hp : c.isPlugged k h = .ok ((b, c'), h')) :
    b = card.plugged c.connectorId ∧ c' = c.refresh card ∧
      (card.connector c.connectorId).isSome := by
  obtain ⟨p, hconn, rfl, rfl, _⟩ := isPlugged_eq_ok.1 hp
  rw [hcard] at hconn
  rw [Card.plugged, refresh, hconn]
  exact ⟨rfl, rfl, rfl⟩

theorem gives_eq (hc : (card.connector c.connectorId).isSome) : card.gives c.connectorId =
    if card.plugged c.connectorId then card.crtcFor (c.refresh card).mConnectorPtr else 0 := by
  obtain ⟨p, hp⟩ := Option.isSome_iff_exists.1 hc
  rw [Card.gives, Card.plugged, refresh, hp]
  rfl

theorem modes_refresh (hc : (card.connector c.connectorId).isSome) :
    (c.refresh card).mConnectorPtr.modes = card.modes c.connectorId := by
  obtain ⟨p, hp⟩ := Option.isSome_iff_exists.1 hc
  rw [refresh, Card.modes, hp]
  rfl

theorem refresh_setCrtcId (id : ℕ) :
    ((c.refresh card).setCrtcId id).refresh card = (c.refresh card).setCrtcId id := by
  have hid : ((c.refresh card).setCrtcId id).connectorId = c.connectorId :=
    connectorId_refresh c card
  rw [refresh, hid]
  cases hp : card.connector c.connectorId with
  | none => rfl
  | some p => simp [refresh, setCrtcId, hp]

theorem getD_modeRange (modes : List ModeInfo) : (modeRange modes).getD default =
    (modes.getLast?.getD default, modes.head?.getD default) := by
  rw [modeRange]
  cases modes with
  | nil => rfl
  | cons m modes =>
    rw [List.getLast?_cons]
    rfl

end DrmConnector

namespace DrmCrtc

theorem hasId_eq {c : DrmCrtc} (hc : c.mCrtc.isSome) (id : ℕ) : c.hasId id = .ok (c.id == id) := by
  rw [hasId, crtcId_eq hc]
  rfl

/-- A CRTC that is assigned to a connector has no other. -/
theorem assign_eq (c : DrmCrtc) (connId : ℕ) (confMode : Size) (min max : ModeInfo) :
    c.assign connId confMode min max =
      { c with connectors := [connId], max := clampMode max confMode, min := min.size } := by
  rw [assign]
  cases c.connectors <;> simp

/-- A CRTC after it is assigned to a connector of the card. -/
def take (c : DrmCrtc) (card : Card) (confMode : Size) (connId : ℕ) : DrmCrtc :=
  c.assign connId confMode (card.minMode connId) (card.maxMode connId)

theorem take_take (c : DrmCrtc) (card : Card) (confMode : Size) (connId connId' : ℕ) :
    (c.take card confMode connId').take card confMode connId = c.take card confMode connId := by
  simp only [take, assign_eq]

/-- A CRTC after the setup for some connectors. -/
def setUp (c : DrmCrtc) (card : Card) (confMode : Size) (connIds : List ℕ) : DrmCrtc :=
  ((card.lastGiven connIds c.id).map (c.take card confMode ·)).getD c

variable {card : Card} {confMode : Size} {connIds : List ℕ} {c : DrmCrtc}

theorem setUp_of_some {connId : ℕ} (hc : card.lastGiven connIds c.id = some connId) :
    c.setUp card confMode connIds =
      { c with
        connectors := [connId]
        max := clampMode (card.maxMode connId) confMode
        min := (card.minMode connId).size } := by
  rw [setUp, hc, Option.map_some, Option.getD_some, take, assign_eq]

theorem setUp_of_none (hc : card.lastGiven connIds c.id = none) :
    c.setUp card confMode connIds = c := by
  rw [setUp, hc, Option.map_none, Option.getD_none]

@[simp]
theorem mCrtc_setUp : (c.setUp card confMode connIds).mCrtc = c.mCrtc := by
  rw [setUp]
  cases card.lastGiven connIds c.id <;> rfl

@[simp]
theorem id_setUp : (c.setUp card confMode connIds).id = c.id := by
  rw [DrmCrtc.id, mCrtc_setUp, DrmCrtc.id]

/-- Of the connectors that CRTCs are assigned to in turn, the last one counts. -/
theorem foldl_take (card : Card) (confMode : Size) (connIds : List ℕ) (crtcs : List DrmCrtc) :
    connIds.foldl (fun crtcs id => crtcs.map fun c =>
        if card.gives id == c.id then c.take card confMode id else c) crtcs =
      crtcs.map (·.setUp card confMode connIds) := by
  rw [Lists.foldl_map_eq (fun id c => card.gives id == DrmCrtc.id c)
    (fun id c => c.take card confMode id) connIds crtcs]
  refine List.map_congr_left fun c _ => ?_
  exact Lists.settle_eq (fun id c => card.gives id == DrmCrtc.id c)
    (fun id c => c.take card confMode id) (fun id id' c => c.take_take card confMode id id')
    (fun _ _ _ => rfl) connIds c

end DrmCrtc

/-- CRTCs that were read and can be told apart. -/
structure ReadCrtcs (crtcs : List DrmCrtc) : Prop where
  read : ∀ c ∈ crtcs, c.mCrtc.isSome
  nodup : (crtcs.map DrmCrtc.id).Nodup
  ne_zero : 0 ∉ crtcs.map DrmCrtc.id

/-- What keeps the answers of the kernel keeps CRTCs apart. -/
theorem ReadCrtcs.keep {crtcs crtcs' : List DrmCrtc} (hc : ReadCrtcs crtcs)
    (heq : crtcs'.map DrmCrtc.mCrtc = crtcs.map DrmCrtc.mCrtc) : ReadCrtcs crtcs' := by
  have hids : crtcs'.map DrmCrtc.id = crtcs.map DrmCrtc.id := DrmCrtc.ids_of_mCrtc heq
  exact ⟨DrmCrtc.read_of_mCrtc heq hc.read, hids ▸ hc.nodup, hids ▸ hc.ne_zero⟩

theorem ReadCrtcs.map {crtcs : List DrmCrtc} (hc : ReadCrtcs crtcs) {g : DrmCrtc → DrmCrtc}
    (hg : ∀ c, (g c).mCrtc = c.mCrtc) : ReadCrtcs (crtcs.map g) := by
  refine hc.keep ?_
  rw [List.map_map]
  exact List.map_congr_left fun c _ => hg c

theorem ReadCrtcs.empty : ReadCrtcs [] := by
  constructor <;> simp

theorem DriDevice.Sane.readCrtcs {d : DriDevice} (hd : d.Sane) : ReadCrtcs d.crtcList :=
  ⟨hd.crtcs, hd.crtcIds, hd.crtcIds_ne⟩

/-- The search for a CRTC by its id, and the write to it. -/
theorem visitFirst_assignRange {connId id : ℕ} {confMode : Size}
    {range : Option (ModeInfo × ModeInfo)} {crtcs crtcs' : List DrmCrtc} {r : Option Unit}
    (hcrtcs : ReadCrtcs crtcs) (hv : Prog.visitFirst (DrmCrtc.hasId id)
      (DrmCrtc.assignRange connId confMode range) crtcs k h = .ok ((r, crtcs'), h')) :
    crtcs' = crtcs.map fun c => if id == c.id then
      c.assign connId confMode (range.getD default).1 (range.getD default).2 else c := by
  have hmap : crtcs' = crtcs.map fun c => if c.id == id then
      c.assign connId confMode (range.getD default).1 (range.getD default).2 else c := by
    refine Prog.visitFirst_eq_map (fun c hc => DrmCrtc.hasId_eq (hcrtcs.read c hc) _)
      hcrtcs.nodup (fun c _ _ _ c' _ _ hf => ?_) hv
    obtain ⟨min, max, rfl, rfl, _⟩ := assignRange_eq_ok.1 hf
    rfl
  rw [hmap]
  refine List.map_congr_left fun c _ => ?_
  rw [BEq.comm]

/-- No CRTC has the id that stands for none. -/
theorem ReadCrtcs.map_zero {crtcs : List DrmCrtc} (hcrtcs : ReadCrtcs crtcs) {id : ℕ}
    (hzero : id = 0) (g : DrmCrtc → DrmCrtc) :
    crtcs.map (fun c => if id == c.id then g c else c) = crtcs := by
  conv_rhs => rw [← List.map_id crtcs]
  refine List.map_congr_left fun c hc => if_neg fun heq => hcrtcs.ne_zero ?_
  rw [← hzero, eq_of_beq heq]
  exact List.mem_map_of_mem hc

/-- The setup of a connector writes to the CRTC that the connector is given. -/
theorem setupConnector_eq (hk : k.Steady) {card : Card} {confMode : Size}
    {conn conn' : DrmConnector} (hcard : k.card h conn.mDrmModulefd = card)
    {crtcs crtcs' : List DrmCrtc} (hcrtcs : ReadCrtcs crtcs)
    (hs : setupConnector conn.mDrmModulefd confMode conn crtcs k h = .ok ((conn', crtcs'), h')) :
    conn' = conn.setUp card ∧ crtcs' = crtcs.map fun c =>
      if card.gives conn.connectorId == c.id then c.take card confMode conn.connectorId else c := by
  -- a connector that is given nothing is only read again
  have hnone (hzero : card.gives conn.connectorId = 0) : conn.refresh card = conn.setUp card ∧
      crtcs = crtcs.map fun c => if card.gives conn.connectorId == c.id then
        c.take card confMode conn.connectorId else c := by
    refine ⟨?_, (hcrtcs.map_zero hzero _).symm⟩
    rw [DrmConnector.setUp, if_pos hzero]
    rfl
  obtain ⟨plugged, conn₁, h₁, hp, hs⟩ := setupConnector_eq_ok hs
  have hcard₁ := (hk.card_eq (DrmConnector.asks_isPlugged conn) hp).trans hcard
  obtain ⟨rfl, rfl, hsome⟩ := DrmConnector.isPlugged_eq hcard hp
  have hgives := DrmConnector.gives_eq hsome
  rcases hs with ⟨hunplugged, rfl, rfl⟩ | ⟨hplugged, id, h₂, hfind, hs⟩
  · rw [hunplugged, if_neg Bool.false_ne_true] at hgives
    exact hnone hgives
  rw [hplugged, if_pos rfl] at hgives
  have hcard₂ := (hk.card_eq (asks_findCrtc _ _) hfind).trans hcard₁
  obtain rfl := (findCrtc_eq hk hcard₁ hfind).trans hgives.symm
  rcases hs with ⟨hzero, rfl, rfl⟩ | ⟨hne, range, h₃, r, hrange, hv⟩
  · exact hnone hzero
  simp only [DrmConnector.getModeRange, Prog.bind_eq_ok, Prog.pure_eq_ok, Prod.exists,
    Prod.mk.injEq] at hrange
  obtain ⟨plugged, conn₂, _, hp, ⟨rfl, rfl⟩, rfl⟩ := hrange
  obtain ⟨rfl, rfl, -⟩ := DrmConnector.isPlugged_eq (by exact hcard₂) hp
  rw [DrmConnector.refresh_setCrtcId] at hv ⊢
  constructor
  · rw [DrmConnector.setUp, if_neg hne]
    rfl
  · have hid : ((conn.refresh card).setCrtcId (card.gives conn.connectorId)).connectorId =
        conn.connectorId := DrmConnector.connectorId_refresh conn card
    have hmodes : ((conn.refresh card).setCrtcId
        (card.gives conn.connectorId)).mConnectorPtr.modes = card.modes conn.connectorId :=
      DrmConnector.modes_refresh hsome
    rw [hid, hplugged, if_pos rfl, hmodes] at hv
    rw [visitFirst_assignRange hcrtcs hv, DrmConnector.getD_modeRange]
    rfl

/-! ## The setup of a device -/

namespace DriDevice

/-- A device after the setup. -/
def setUp (d : DriDevice) (card : Card) (confMode : Size) : DriDevice :=
  { d with
    hasDumbBuffChecked := true
    connectorList := d.connectorList.map (·.setUp card)
    crtcList := d.crtcList.map (·.setUp card confMode (d.connectorList.map (·.connectorId))) }

variable {d d' : DriDevice} {confMode : Size}

/-- On a steady kernel, the setup is a function of the card. -/
theorem setupDevice_eq (hk : k.Steady) (hd : d.Sane)
    (hs : d.setupDevice confMode k h = .ok (d', h')) :
    d' = d.setUp (k.card h d.drmModuleFd) confMode := by
  obtain ⟨conns, crtcs, new, hnew, hloop, rfl⟩ := setupDevice_eq_ok hs
  have hcard : k.card (new ++ h) d.drmModuleFd = k.card h d.drmModuleFd := hk.card_append hnew
  -- the loop: each connector is set up, and its write goes through the CRTCs
  have hmap : conns = d.connectorList.map (·.setUp (k.card h d.drmModuleFd)) ∧
      crtcs = d.connectorList.foldl (fun crtcs conn => crtcs.map fun c =>
        if (k.card h d.drmModuleFd).gives conn.connectorId == c.id then
          c.take (k.card h d.drmModuleFd) confMode conn.connectorId else c) d.crtcList := by
    refine Prog.forEach_eq_map
      (fun crtcs l => k.card l d.drmModuleFd = k.card h d.drmModuleFd ∧ ReadCrtcs crtcs)
      (fun conn hconn crtcs conn' crtcs' l l' hinv hf => ?_) ⟨hcard, hd.readCrtcs⟩ hloop
    rw [← hd.fds conn hconn] at hinv hf ⊢
    obtain ⟨rfl, rfl⟩ := setupConnector_eq hk hinv.1 hinv.2 hf
    refine ⟨rfl, rfl, (hk.card_eq (asks_setupConnector _ _ _ _) hf).trans hinv.1, ?_⟩
    exact hinv.2.map fun c => by split <;> rfl
  obtain ⟨rfl, hfold⟩ := hmap
  have hids := DrmCrtc.foldl_take (k.card h d.drmModuleFd) confMode
    (d.connectorList.map (·.connectorId)) d.crtcList
  rw [List.foldl_map, ← hfold] at hids
  rw [setUp, ← hids]

end DriDevice

end ValRpi
