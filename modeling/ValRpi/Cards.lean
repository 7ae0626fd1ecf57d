import ValRpi.Reach

/-!
# The cards of the machine

`loadResources` reads the cards in the order in which udev lists their nodes,
and stops at the first one that cannot be opened or read.

* While the program only asks, the cards stay as they are
  (`Kernel.Presents`): a card *works* if its lists of objects can be read.
* The device of a card that works has all its objects (`DriDevice.Has`), unless a
  plane is taken for a cursor by mistake (`Card.NoFalseCursor`).
* The map has the nodes up to the first one whose card does not work, with that
  one (`loadDevices_covers`). So a card that works is missing exactly if one
  that does not is listed before it, and the primary device, which is the first
  one of the map, may be one that does not work (`DRIElements.cards_new_iff`).
-/

namespace ValRpi

variable {k : Kernel} {h h' : History} {fd : ℤ} {card : Card}

/-! ## Cards -/

/-- While the program only asks, a card is as it is. -/
def Kernel.Answers (k : Kernel) (fd : ℤ) (card : Card) (h : History) : Prop :=
  ∀ new : History, (∀ e ∈ new, e.isQuery) → k.card (new ++ h) fd = card

theorem Kernel.Answers.now (ha : k.Answers fd card h) : k.card h fd = card := ha [] (by simp)

theorem Kernel.Answers.asked {α : Type} {x : Act α} {a : α} (ha : k.Answers fd card h)
    (hx : Asks x) (hr : x k h = .ok (a, h')) : k.Answers fd card h' := by
  obtain ⟨new, rfl, hnew⟩ := hx _ _ _ _ hr
  intro new' hnew'
  rw [← List.append_assoc]
  exact ha _ (List.forall_mem_append.2 ⟨hnew', hnew⟩)

theorem Kernel.Answers.ask {α : Type} {q : Query} {answer : Card → α} {a : α}
    (ha : k.Answers fd card h) (hr : ask fd q answer k h = .ok (a, h')) : a = answer card := by
  obtain ⟨rfl, _⟩ := Prod.mk.inj (Except.ok.inj hr)
  exact congrArg answer ha.now

namespace Card

/-- What the card tells of a CRTC. -/
def crtcRead (card : Card) (id : ℕ) : Option Crtc := (card.crtc id).map ({ · with crtcId := id })

/-- What the card tells of an encoder. -/
def encoderRead (card : Card) (id : ℕ) : Option Encoder :=
  (card.encoder id).map ({ · with encoderId := id })

/-- What the card tells of a connector, -/
def connectorRead (card : Card) (id : ℕ) : Option Connector :=
  (card.connector id).map ({ · with connectorId := id })

/-- with the name of its type, if it has one. -/
def connectorNamed (card : Card) (id : ℕ) : Option (Connector × String) :=
  (card.connectorRead id).bind fun c => (utilLookupConnectorTypeName c.connectorType).map (c, ·)

/-- What the card tells of a plane. -/
def planeRead (card : Card) (id : ℕ) : Option Plane :=
  (card.plane id).map ({ · with planeId := id })

/-- What the value of a property is called, if it is one of its enums. -/
def valueName (card : Card) (q : ℕ × ℕ) : Option String :=
  ((card.property q.1).bind fun p => p.enums.find? (·.1 == q.2)).map Prod.snd

/-- The type that is found for a plane: that of the first property whose value has
    a name. -/
def planeType (card : Card) (id : ℕ) : PlaneType :=
  (((card.planeProperties id).getD []).findSome? fun (prop, value) =>
    ((card.property prop).bind fun p => p.enums.find? (·.1 == value)).map
      fun enum => planeTypeOfName enum.2).getD .none

/-- The kind of a plane: what the value of its property `type` is called. -/
def planeKind (card : Card) (id : ℕ) : PlaneType :=
  ((((card.planeProperties id).getD []).find? fun q =>
    (card.property q.1).any (·.name == "type")).bind card.valueName).elim .none planeTypeOfName

/-- The first property of a plane whose value is one of its enums calls it a cursor
    only if its kind is that. -/
def NoFalseCursor (card : Card) (id : ℕ) : Prop :=
  ∀ before q after, (card.planeProperties id).getD [] = before ++ q :: after →
    (∀ x ∈ before, card.valueName x = none) → card.valueName q = some "Cursor" →
      card.planeKind id = .cursor

/-- The lists of objects of the card can be read. -/
def works (card : Card) : Bool := card.resources.isSome && card.planeResources.isSome

end Card

/-- So no plane of the card is taken for a cursor by mistake. -/
def Card.NoFalseCursors (card : Card) : Prop :=
  ∀ ids ∈ card.planeResources, ∀ id ∈ ids, card.NoFalseCursor id

theorem planeTypeOfName_eq_cursor_iff {name : String} :
    planeTypeOfName name = .cursor ↔ name = "Cursor" := by
  constructor
  · intro hcursor
    rw [planeTypeOfName] at hcursor
    split at hcursor
    · cases hcursor
    split at hcursor
    · cases hcursor
    split at hcursor
    next hname => exact eq_of_beq hname
    · cases hcursor
  · rintro rfl
    rfl

namespace Card

theorem planeType_eq (card : Card) (id : ℕ) : card.planeType id =
    (((card.planeProperties id).getD []).findSome? card.valueName).elim .none planeTypeOfName := by
  rw [planeType]
  induction (card.planeProperties id).getD [] with
  | nil => rfl
  | cons q props ih =>
    obtain ⟨prop, value⟩ := q
    rw [List.findSome?_cons, List.findSome?_cons, valueName]
    dsimp only
    cases (card.property prop).bind fun p => p.enums.find? (·.1 == value) with
    | none => exact ih
    | some enum => rfl

/-- A plane is taken for a cursor only if it is one. -/
theorem noFalseCursor_iff {id : ℕ} :
    card.NoFalseCursor id ↔ (card.planeType id = .cursor → card.planeKind id = .cursor) := by
  rw [planeType_eq]
  constructor
  · intro hno hcursor
    cases hfirst : ((card.planeProperties id).getD []).findSome? card.valueName with
    | none =>
      rw [hfirst] at hcursor
      cases hcursor
    | some name =>
      rw [hfirst] at hcursor
      obtain rfl := planeTypeOfName_eq_cursor_iff.1 hcursor
      obtain ⟨before, q, after, hprops, hname, hbefore⟩ := List.findSome?_eq_some_iff.1 hfirst
      exact hno before q after hprops hbefore hname
  · intro hcursor before q after hprops hbefore hname
    refine hcursor ?_
    rw [List.findSome?_eq_some_iff.2 ⟨before, q, after, hprops, hname, hbefore⟩]
    rfl

end Card

/-- A device has all objects of a card, cursor planes apart. -/
structure DriDevice.Has (card : Card) (d : DriDevice) : Prop where
  crtcs : ∀ res ∈ card.resources,
    (res.crtcs.map card.crtcRead).Sublist (d.crtcList.map DrmCrtc.mCrtc)
  connectors : ∀ res ∈ card.resources,
    res.connectors.Sublist (d.connectorList.map DrmConnector.connectorId)
  encoders : ∀ res ∈ card.resources, (res.encoders.map card.encoderRead).Sublist d.encoderList
  planes : ∀ ids ∈ card.planeResources,
    (ids.filter (card.planeKind · ≠ .cursor)).Sublist (d.planeList.map Plane.planeId)

/-- No plane of a device is taken for a cursor. -/
def DriDevice.Spares (card : Card) (d : DriDevice) : Prop :=
  ∀ p ∈ d.planeList, card.planeType p.planeId ≠ .cursor

/-- The nodes that udev lists at first, with the cards behind those that can be
    opened. -/
structure Kernel.Presents (k : Kernel) (nodes : List String) (cards : String → Option Card) :
    Prop where
  devices : k.devices [] = nodes
  closed : ∀ h node, (∀ e ∈ h, e.isQuery) → cards node = none → k.openNode h node < 0
  opened : ∀ h node, (∀ e ∈ h, e.isQuery) → ∀ card ∈ cards node,
    0 ≤ k.openNode h node ∧ k.Answers (k.openNode h node) card (.query (.open node) :: h)

/-! ## Lists of objects -/

/-- What is loaded is what is read of each id, unless it is left out. -/
theorem map_loadEach {α κ : Type} {read : ℕ → Act (Option α)} (key : α → κ) (f : ℕ → Option κ)
    (hasks : ∀ id, Asks (read id))
    (hread : ∀ id a h h', k.Answers fd card h → read id k h = .ok (a, h') → a.map key = f id)
    {ids : List ℕ} {loaded res : List α} (ha : k.Answers fd card h)
    (hr : loadEach read ids loaded k h = .ok (res, h')) :
    res.map key = loaded.map key ++ ids.filterMap f := by
  induction ids generalizing loaded h with
  | nil =>
    simp only [loadEach, Prog.pure_eq_ok, Prod.mk.injEq] at hr
    obtain ⟨rfl, _⟩ := hr
    rw [List.filterMap_nil, List.append_nil]
  | cons id ids ih =>
    rw [loadEach, Prog.bind_eq_ok] at hr
    obtain ⟨a, h₁, hone, hr⟩ := hr
    have hkey := hread _ _ _ _ ha hone
    have ha₁ := ha.asked (hasks id) hone
    cases a with
    | none =>
      rw [ih ha₁ hr, List.filterMap_cons_none hkey.symm]
    | some a =>
      rw [ih ha₁ hr, List.filterMap_cons_some hkey.symm, List.map_append, List.append_assoc]
      rfl

theorem map_loadCrtcs {ids : List ℕ} {i : ℕ} {loaded res : List DrmCrtc}
    (ha : k.Answers fd card h) (hr : loadCrtcs fd ids i loaded k h = .ok (res, h')) :
    res.map DrmCrtc.mCrtc = loaded.map DrmCrtc.mCrtc ++ ids.map card.crtcRead := by
  induction ids generalizing i loaded h with
  | nil =>
    simp only [loadCrtcs, Prog.pure_eq_ok, Prod.mk.injEq] at hr
    obtain ⟨rfl, _⟩ := hr
    rw [List.map_nil, List.append_nil]
  | cons id ids ih =>
    rw [loadCrtcs, Prog.bind_eq_ok] at hr
    obtain ⟨crtc, h₁, hone, hr⟩ := hr
    have hcrtc : crtc = card.crtcRead id := ha.ask hone
    rw [ih (ha.asked (asks_ask _ _ _) hone) hr, List.map_append, List.append_assoc, hcrtc]
    rfl

/-- A connector that is read is not left out. -/
theorem map_loadConnector {id : ℕ} {conn : Option DrmConnector}
    (hr : loadConnector fd id k h = .ok (conn, h')) :
    conn.map DrmConnector.connectorId = some id := by
  cases conn with
  | none =>
    simp only [loadConnector, Prog.bind_eq_ok] at hr
    obtain ⟨_, _, _, c, _, _, hr⟩ := hr
    cases hr
  | some conn => rw [Option.map_some, (loadConnector_spec hr).1]

/-- What is read of it, and the name of its type, are kept. -/
theorem loadConnector_eq {id : ℕ} {conn : Option DrmConnector} (ha : k.Answers fd card h)
    (hr : loadConnector fd id k h = .ok (conn, h')) :
    conn.map (fun conn => (conn.mConnectorPtr, conn.mName)) = card.connectorNamed id := by
  simp only [loadConnector, Prog.bind_eq_ok, Prog.lift_eq_ok, Prog.pure_eq_ok, Prod.mk.injEq] at hr
  obtain ⟨p, _, hread, c, _, ⟨hnew, _⟩, rfl, _⟩ := hr
  have hp : p = card.connectorRead id := ha.ask hread
  unfold DrmConnector.new at hnew
  split at hnew
  · cases hnew
  next q =>
    split at hnew
    · cases hnew
    · split at hnew
      · cases hnew
      next name hname =>
        cases hnew
        rw [Card.connectorNamed, ← hp, Option.bind_some, hname]
        rfl

theorem loadEncoder_eq {id : ℕ} {enc : Option (Option Encoder)} (ha : k.Answers fd card h)
    (hr : loadEncoder fd id k h = .ok (enc, h')) : enc = some (card.encoderRead id) := by
  rw [loadEncoder, Prog.bind_eq_ok] at hr
  obtain ⟨encoder, h₁, hask, hr⟩ := hr
  cases hr
  exact congrArg some (ha.ask hask)

theorem planeTypeOfProperties_eq {props : List (ℕ × ℕ)} {type : PlaneType}
    (ha : k.Answers fd card h) (hr : planeTypeOfProperties fd props k h = .ok (type, h')) :
    type = (props.findSome? fun (prop, value) =>
      ((card.property prop).bind fun p => p.enums.find? (·.1 == value)).map
        fun enum => planeTypeOfName enum.2).getD .none := by
  induction props generalizing h with
  | nil => exact congrArg Prod.fst (Prog.pure_eq_ok.1 hr)
  | cons prop props ih =>
    obtain ⟨id, value⟩ := prop
    rw [planeTypeOfProperties, Prog.bind_eq_ok] at hr
    obtain ⟨answer, h₁, hask, hr⟩ := hr
    have ha₁ := ha.asked (asks_ask _ _ _) hask
    have hanswer : answer = card.property id := ha.ask hask
    simp only [Prog.bind_eq_ok, Prog.lift_eq_ok, deref_eq_ok] at hr
    obtain ⟨p, _, ⟨hp, rfl⟩, hr⟩ := hr
    simp only [List.findSome?_cons, ← hanswer, hp, Option.bind_some]
    -- the first enum whose value is the current one ends the search
    cases hf : p.enums.find? (·.1 == value) with
    | none =>
      rw [hf] at hr
      exact ih ha₁ hr
    | some enum =>
      rw [hf] at hr
      exact congrArg Prod.fst (Prog.pure_eq_ok.1 hr)

/-- A plane is left out if it is a cursor plane. -/
theorem loadPlane_eq {id : ℕ} {plane : Option Plane} (ha : k.Answers fd card h)
    (hr : loadPlane fd id k h = .ok (plane, h')) : ∃ p, card.planeRead id = some p ∧
      p.planeId = id ∧ plane = if card.planeType id ≠ .cursor then some p else none := by
  simp only [loadPlane, getPlaneType, Prog.bind_eq_ok, Prog.lift_eq_ok, Prog.pure_eq_ok,
    deref_eq_ok] at hr
  obtain ⟨read, h₁, hread, p, _, ⟨hp, rfl⟩, type, h₂, ⟨props, _, hprops, _, _, ⟨rfl, rfl⟩, htype⟩,
    hr⟩ := hr
  have ha₁ := ha.asked (asks_ask _ _ _) hread
  have ha₂ := ha₁.asked (asks_ask _ _ _) hprops
  have hplane : card.planeRead id = some p := (ha.ask hread).symm.trans hp
  have hid : p.planeId = id := by
    obtain ⟨_, _, rfl⟩ := Option.map_eq_some_iff.1 hplane
    rfl
  have hcard : type = card.planeType id := by
    have hanswer := ha₁.ask hprops
    rw [hid] at hanswer
    rw [planeTypeOfProperties_eq ha₂ htype, Card.planeType, ← hanswer]
    rfl
  cases hr
  rw [hcard]
  exact ⟨p, hplane, hid, rfl⟩

theorem map_loadPlane {id : ℕ} {plane : Option Plane} (ha : k.Answers fd card h)
    (hr : loadPlane fd id k h = .ok (plane, h')) :
    plane.map Plane.planeId = Option.guard (card.planeType · ≠ .cursor) id := by
  obtain ⟨p, _, hid, rfl⟩ := loadPlane_eq ha hr
  by_cases hc : card.planeType id = .cursor
  · simp [hc, Option.guard]
  · simp [hc, hid, Option.guard]

theorem filter_loadPlane {id : ℕ} {plane : Option Plane} (ha : k.Answers fd card h)
    (hr : loadPlane fd id k h = .ok (plane, h')) :
    plane.map (fun p => p) = (card.planeRead id).filter fun _ => card.planeType id ≠ .cursor := by
  obtain ⟨p, hp, _, rfl⟩ := loadPlane_eq ha hr
  rw [hp, Option.filter_some, Option.map_id']
  simp only [decide_eq_true_eq]

theorem map_loadConnectors {ids : List ℕ} {loaded conns : List DrmConnector}
    (ha : k.Answers fd card h) (hr : loadEach (loadConnector fd) ids loaded k h = .ok (conns, h')) :
    conns.map (fun conn => (conn.mConnectorPtr, conn.mName)) =
        loaded.map (fun conn => (conn.mConnectorPtr, conn.mName)) ++
          ids.filterMap card.connectorNamed ∧
      conns.map DrmConnector.connectorId = loaded.map DrmConnector.connectorId ++ ids := by
  have hids := map_loadEach DrmConnector.connectorId some (asks_loadConnector _)
    (fun _ _ _ _ _ => map_loadConnector) ha hr
  rw [List.filterMap_some] at hids
  exact ⟨map_loadEach _ card.connectorNamed (asks_loadConnector _)
    (fun _ _ _ _ => loadConnector_eq) ha hr, hids⟩

theorem loadEncoders_eq {ids : List ℕ} {loaded encs : List (Option Encoder)}
    (ha : k.Answers fd card h) (hr : loadEach (loadEncoder fd) ids loaded k h = .ok (encs, h')) :
    encs = loaded ++ ids.map card.encoderRead := by
  have hencs := map_loadEach id (fun id => some (card.encoderRead id)) (asks_loadEncoder _)
    (fun _ _ _ _ ha hr => by rw [loadEncoder_eq ha hr]; rfl) ha hr
  rwa [List.map_id, List.map_id, List.filterMap_eq_map'] at hencs

theorem loadPlanes_eq {ids : List ℕ} {loaded planes : List Plane} (ha : k.Answers fd card h)
    (hr : loadEach (loadPlane fd) ids loaded k h = .ok (planes, h')) :
    planes = loaded ++ (ids.filterMap fun id =>
        (card.planeRead id).filter fun _ => card.planeType id ≠ .cursor) ∧
      planes.map Plane.planeId =
        loaded.map Plane.planeId ++ ids.filter (card.planeType · ≠ .cursor) := by
  have hread := map_loadEach id
    (fun id => (card.planeRead id).filter fun _ => card.planeType id ≠ .cursor)
    (asks_loadPlane _) (fun _ _ _ _ => filter_loadPlane) ha hr
  have hids := map_loadEach Plane.planeId (Option.guard (card.planeType · ≠ .cursor))
    (asks_loadPlane _) (fun _ _ _ _ => map_loadPlane) ha hr
  rw [List.map_id, List.map_id] at hread
  rw [List.filterMap_eq_filter] at hids
  exact ⟨hread, hids⟩

/-! ## Devices -/

variable {nodes : List String} {cards : String → Option Card}

/-- The nodes of cards. -/
def cardNodes (nodes : List String) : List String := nodes.filter isCard

/-- The node opens, and the card behind it works. -/
def worksAt (cards : String → Option Card) (node : String) : Bool := (cards node).any Card.works

theorem worksAt_iff {node : String} : worksAt cards node ↔ ∃ card ∈ cards node, card.works := by
  rw [worksAt, Option.any_eq_true]
  rfl

/-- The objects of a card that lists them are appended to those of a device. -/
structure DriDevice.Loads (card : Card) (res : Resources) (d d' : DriDevice) : Prop where
  crtcs : d'.crtcList.map DrmCrtc.mCrtc =
    d.crtcList.map DrmCrtc.mCrtc ++ res.crtcs.map card.crtcRead
  connectors : d'.connectorList.map (fun conn => (conn.mConnectorPtr, conn.mName)) =
    d.connectorList.map (fun conn => (conn.mConnectorPtr, conn.mName)) ++
      res.connectors.filterMap card.connectorNamed
  connectorIds : d'.connectorList.map DrmConnector.connectorId =
    d.connectorList.map DrmConnector.connectorId ++ res.connectors
  encoders : d'.encoderList = d.encoderList ++ res.encoders.map card.encoderRead
  planes : ∀ ids ∈ card.planeResources,
    d'.planeList = d.planeList ++ ids.filterMap fun id =>
      (card.planeRead id).filter fun _ => card.planeType id ≠ .cursor
  planeIds : ∀ ids ∈ card.planeResources, d'.planeList.map Plane.planeId =
    d.planeList.map Plane.planeId ++ ids.filter (card.planeType · ≠ .cursor)

/-- The loop goes on exactly after a card that works. What the card lists is
    appended. -/
theorem loadDevice_loads {node : String} {d d' : DriDevice} {goOn : Bool}
    (hfd : 0 ≤ k.openNode h node)
    (ha : k.Answers (k.openNode h node) card (.query (.open node) :: h))
    (hr : loadDevice node d k h = .ok ((goOn, d'), h')) :
    goOn = card.works ∧ ∀ res ∈ card.resources, DriDevice.Loads card res d d' := by
  rw [loadDevice, Prog.bind_eq_ok] at hr
  obtain ⟨fd, h₁, hopen, hr⟩ := hr
  obtain ⟨rfl, rfl⟩ := Prod.mk.inj (Except.ok.inj hopen)
  dsimp only at hr
  rw [if_neg (not_lt.2 hfd), Prog.bind_eq_ok] at hr
  obtain ⟨res, h₂, hres, hr⟩ := hr
  have ha₂ := ha.asked (asks_ask _ _ _) hres
  have hresources : res = card.resources := ha.ask hres
  cases res with
  | none =>
    cases hr
    rw [Card.works, ← hresources]
    exact ⟨rfl, fun _ hmem => (Option.not_mem_none _ hmem).elim⟩
  | some res =>
    simp only [Prog.bind_eq_ok] at hr
    obtain ⟨crtcs, h₃, hcrtcs, conns, h₄, hconns, encs, h₅, hencs, planes, h₆, hplanes, hr⟩ := hr
    have ha₃ := ha₂.asked (asks_loadCrtcs _ _ _ _) hcrtcs
    have ha₄ := ha₃.asked (asks_loadEach (asks_loadConnector _) _ _) hconns
    have ha₅ := ha₄.asked (asks_loadEach (asks_loadEncoder _) _ _) hencs
    have ha₆ := ha₅.asked (asks_ask _ _ _) hplanes
    have hids : planes = card.planeResources := ha₅.ask hplanes
    have hcrtcs := map_loadCrtcs ha₂ hcrtcs
    obtain ⟨hconns, hconnIds⟩ := map_loadConnectors ha₃ hconns
    have hencs := loadEncoders_eq ha₄ hencs
    cases planes with
    | none =>
      cases hr
      rw [Card.works, ← hids, ← hresources]
      refine ⟨rfl, fun res' hres' => ?_⟩
      obtain rfl := Option.some.inj hres'
      refine ⟨hcrtcs, hconns, hconnIds, hencs, fun ids hmem => ?_, fun ids hmem => ?_⟩ <;>
        cases hids.trans hmem
    | some ids =>
      rw [Prog.bind_eq_ok] at hr
      obtain ⟨planes, h₇, hload, hr⟩ := hr
      cases hr
      obtain ⟨hplanes, hplaneIds⟩ := loadPlanes_eq ha₆ hload
      rw [Card.works, ← hids, ← hresources]
      refine ⟨rfl, fun res' hres' => ?_⟩
      obtain rfl := Option.some.inj hres'
      refine ⟨hcrtcs, hconns, hconnIds, hencs, fun ids' hmem => ?_, fun ids' hmem => ?_⟩
      · cases hids.trans hmem
        exact hplanes
      · cases hids.trans hmem
        exact hplaneIds

/-- The planes that are appended are not taken for cursors. -/
theorem spares_of_loadDevice {node : String} {d d' : DriDevice} {goOn : Bool}
    (hfd : 0 ≤ k.openNode h node)
    (ha : k.Answers (k.openNode h node) card (.query (.open node) :: h)) (hd : d.Spares card)
    (hr : loadDevice node d k h = .ok ((goOn, d'), h')) : d'.Spares card := by
  rw [loadDevice, Prog.bind_eq_ok] at hr
  obtain ⟨fd, h₁, hopen, hr⟩ := hr
  obtain ⟨rfl, rfl⟩ := Prod.mk.inj (Except.ok.inj hopen)
  dsimp only at hr
  rw [if_neg (not_lt.2 hfd), Prog.bind_eq_ok] at hr
  obtain ⟨res, h₂, hres, hr⟩ := hr
  have ha₂ := ha.asked (asks_ask _ _ _) hres
  cases res with
  | none =>
    cases hr
    exact hd
  | some res =>
    simp only [Prog.bind_eq_ok] at hr
    obtain ⟨crtcs, h₃, hcrtcs, conns, h₄, hconns, encs, h₅, hencs, planes, h₆, hplanes, hr⟩ := hr
    have ha₃ := ha₂.asked (asks_loadCrtcs _ _ _ _) hcrtcs
    have ha₄ := ha₃.asked (asks_loadEach (asks_loadConnector _) _ _) hconns
    have ha₅ := ha₄.asked (asks_loadEach (asks_loadEncoder _) _ _) hencs
    have ha₆ := ha₅.asked (asks_ask _ _ _) hplanes
    cases planes with
    | none =>
      cases hr
      exact hd
    | some ids =>
      rw [Prog.bind_eq_ok] at hr
      obtain ⟨planes, h₇, hload, hr⟩ := hr
      cases hr
      obtain ⟨_, hids⟩ := loadPlanes_eq ha₆ hload
      intro p hp
      have hmem : p.planeId ∈ planes.map Plane.planeId := List.mem_map_of_mem hp
      rw [hids, List.mem_append, List.mem_filter] at hmem
      rcases hmem with hmem | ⟨_, hkept⟩
      · obtain ⟨q, hq, hid⟩ := List.mem_map.1 hmem
        exact hid ▸ hd q hq
      · exact of_decide_eq_true hkept

/-- A device to which the objects of a card are appended has them, if none of its
    planes is taken for a cursor by mistake. -/
theorem DriDevice.Loads.has {d d' : DriDevice} {res : Resources} (hres : card.resources = some res)
    (hl : Loads card res d d') (hplanes : card.NoFalseCursors) : d'.Has card := by
  constructor <;> intro read hread
  · obtain rfl := Option.some.inj (hres.symm.trans hread)
    rw [hl.crtcs]
    exact List.sublist_append_right _ _
  · obtain rfl := Option.some.inj (hres.symm.trans hread)
    rw [hl.connectorIds]
    exact List.sublist_append_right _ _
  · obtain rfl := Option.some.inj (hres.symm.trans hread)
    rw [hl.encoders]
    exact List.sublist_append_right _ _
  · rw [hl.planeIds read hread]
    have hkinds : read.filter (card.planeKind · ≠ .cursor) =
        (read.filter (card.planeType · ≠ .cursor)).filter (card.planeKind · ≠ .cursor) := by
      rw [List.filter_filter]
      refine List.filter_congr fun id hid => ?_
      have hno := Card.noFalseCursor_iff.1 (hplanes read hread id hid)
      by_cases htype : card.planeType id = .cursor <;> simp [htype, hno]
    rw [hkinds]
    exact List.filter_sublist.trans (List.sublist_append_right _ _)

/-- If a device has all objects, then no plane is taken for a cursor by mistake. -/
theorem DriDevice.Has.noFalseCursors {d : DriDevice} (hd : d.Has card) (hs : d.Spares card) :
    card.NoFalseCursors := by
  intro ids hids id hid
  refine Card.noFalseCursor_iff.2 fun htype => ?_
  by_contra hkind
  have hmem : id ∈ d.planeList.map Plane.planeId :=
    (hd.planes ids hids).subset (List.mem_filter.2 ⟨hid, decide_eq_true hkind⟩)
  obtain ⟨p, hp, rfl⟩ := List.mem_map.1 hmem
  exact hs p hp htype

/-- The loop goes on exactly after a node that opens, and whose card works. -/
theorem loadDevice_of_presents (hp : k.Presents nodes cards) (hh : ∀ e ∈ h, e.isQuery)
    {node : String} {d d' : DriDevice} {goOn : Bool}
    (hr : loadDevice node d k h = .ok ((goOn, d'), h')) :
    goOn = worksAt cards node ∧
      ∀ card ∈ cards node, ∀ res ∈ card.resources, DriDevice.Loads card res d d' := by
  cases hcard : cards node with
  | none =>
    rw [loadDevice, Prog.bind_of_ok (Prog.call_eq_ok.2 rfl)] at hr
    dsimp only at hr
    rw [if_pos (hp.closed h node hh hcard)] at hr
    cases hr
    rw [worksAt, hcard]
    exact ⟨rfl, fun _ hmem => (Option.not_mem_none _ hmem).elim⟩
  | some card =>
    obtain ⟨hfd, ha⟩ := hp.opened h node hh card hcard
    obtain ⟨hgo, hl⟩ := loadDevice_loads hfd ha hr
    rw [worksAt, hcard]
    refine ⟨hgo, fun c hc => ?_⟩
    obtain rfl := Option.some.inj hc
    exact hl

/-- A node that is loaded keeps the planes that are not taken for cursors. -/
theorem spares_of_presents (hp : k.Presents nodes cards) (hh : ∀ e ∈ h, e.isQuery)
    {node : String} {d d' : DriDevice} {goOn : Bool}
    (hr : loadDevice node d k h = .ok ((goOn, d'), h')) (hd : ∀ card ∈ cards node, d.Spares card) :
    ∀ card ∈ cards node, d'.Spares card := by
  intro card hcard
  obtain ⟨hfd, ha⟩ := hp.opened h node hh card hcard
  exact spares_of_loadDevice hfd ha (hd card hcard) hr

/-- So does the map. -/
theorem spares_of_loadDevices (hp : k.Presents nodes cards) (hh : ∀ e ∈ h, e.isQuery)
    {ahead : List String} {devices devices' : List (String × DriDevice)}
    (hr : loadDevices ahead devices k h = .ok (devices', h'))
    (hd : ∀ node, ∀ d ∈ devices.lookup node, ∀ card ∈ cards node, d.Spares card) :
    ∀ node, ∀ d ∈ devices'.lookup node, ∀ card ∈ cards node, d.Spares card := by
  induction ahead generalizing devices h with
  | nil =>
    cases hr
    exact hd
  | cons node ahead ih =>
    rw [loadDevices] at hr
    split at hr
    · rw [Prog.bind_eq_ok] at hr
      obtain ⟨⟨goOn, d⟩, h₁, hload, hr⟩ := hr
      obtain ⟨new, rfl, hnew⟩ := asks_loadDevice _ _ _ _ _ _ hload
      -- a node that is new starts without planes
      have hold : ∀ card ∈ cards node, ((devices.lookup node).getD {}).Spares card := by
        intro card hcard
        cases hlookup : devices.lookup node with
        | none => exact fun p hmem => (List.not_mem_nil hmem).elim
        | some d₀ => exact hd node d₀ hlookup card hcard
      have hwritten : ∀ n, ∀ d' ∈ (mapSet node d devices).lookup n, ∀ card ∈ cards n,
          d'.Spares card := by
        intro n d' hd' card hcard
        rw [lookup_mapSet] at hd'
        split at hd'
        next hsame =>
          obtain rfl := eq_of_beq hsame
          obtain rfl := Option.some.inj hd'
          exact spares_of_presents hp hh hload hold card hcard
        · exact hd n d' hd' card hcard
      dsimp only at hr
      split at hr
      · exact ih (List.forall_mem_append.2 ⟨hnew, hh⟩) hr hwritten
      · cases hr
        exact hwritten
    · exact ih hh hr hd

/-- The map has the nodes seen so far, and all objects of the cards that work, but
    for the planes that are taken for cursors. -/
structure Covers (cards : String → Option Card) (seen : List String)
    (devices : List (String × DriDevice)) : Prop where
  keys : devices.map Prod.fst = seen.eraseDups
  has : ∀ node ∈ seen, ∀ card ∈ cards node, card.works → card.NoFalseCursors →
    ∃ d ∈ devices.lookup node, d.Has card
  spares : ∀ node, ∀ d ∈ devices.lookup node, ∀ card ∈ cards node, d.Spares card

/-- The map after devices were written to it, in turn. -/
def writeAll (loads : List (String × DriDevice)) (devices : List (String × DriDevice)) :
    List (String × DriDevice) :=
  loads.foldl (fun devices p => mapSet p.1 p.2 devices) devices

theorem map_fst_writeAll (loads : List (String × DriDevice)) :
    (writeAll loads []).map Prod.fst = (loads.map Prod.fst).eraseDups := by
  induction loads using List.reverseRecOn with
  | nil => rfl
  | append_singleton loads p ih =>
    have hcontains : (loads.map Prod.fst).eraseDups.contains p.1 =
        (loads.map Prod.fst).contains p.1 := by
      rw [Bool.eq_iff_iff, List.contains_iff_mem, List.contains_iff_mem, List.mem_eraseDups]
    rw [writeAll, List.foldl_concat, map_fst_mapSet, ← writeAll, ih, List.map_append, hcontains]
    exact (Lists.eraseDups_concat _ _).symm

/-- The map has what was written last. -/
theorem lookup_writeAll (loads : List (String × DriDevice)) {node : String}
    (hnode : node ∈ loads.map Prod.fst) :
    ∃ d, (node, d) ∈ loads ∧ (writeAll loads []).lookup node = some d := by
  induction loads using List.reverseRecOn with
  | nil => cases hnode
  | append_singleton loads p ih =>
    rw [writeAll, List.foldl_concat, lookup_mapSet, ← writeAll]
    split
    next hsame =>
      obtain rfl := eq_of_beq hsame
      exact ⟨p.2, List.mem_append_right _ List.mem_cons_self, rfl⟩
    next hne =>
      rw [List.map_append, List.mem_append] at hnode
      rcases hnode with hnode | hnode
      · obtain ⟨d, hd, hlookup⟩ := ih hnode
        exact ⟨d, List.mem_append_left _ hd, hlookup⟩
      · exact absurd (beq_iff_eq.2 (List.mem_singleton.1 hnode)) hne

/-- The nodes are loaded up to the first one whose card does not work. -/
theorem exists_loads (hp : k.Presents nodes cards) (hh : ∀ e ∈ h, e.isQuery) {ahead : List String}
    {devices devices' : List (String × DriDevice)}
    (hr : loadDevices ahead devices k h = .ok (devices', h')) : ∃ loads,
      loads.map Prod.fst = Lists.takeThrough (worksAt cards) (cardNodes ahead) ∧
        devices' = writeAll loads devices ∧ ∀ p ∈ loads, ∃ d, ∀ card ∈ cards p.1,
          ∀ res ∈ card.resources, DriDevice.Loads card res d p.2 := by
  induction ahead generalizing devices h with
  | nil =>
    cases hr
    exact ⟨[], rfl, rfl, by simp⟩
  | cons node ahead ih =>
    rw [loadDevices] at hr
    rw [cardNodes, List.filter_cons]
    split at hr
    next hcard =>
      rw [Prog.bind_eq_ok] at hr
      obtain ⟨⟨goOn, d⟩, h₁, hload, hr⟩ := hr
      obtain ⟨hgo, hd⟩ := loadDevice_of_presents hp hh hload
      obtain ⟨new, rfl, hnew⟩ := asks_loadDevice _ _ _ _ _ _ hload
      rw [if_pos hcard, Lists.takeThrough, ← hgo]
      dsimp only at hr
      cases goOn with
      | true =>
        obtain ⟨loads, hnodes, rfl, hall⟩ := ih (List.forall_mem_append.2 ⟨hnew, hh⟩) hr
        exact ⟨(node, d) :: loads, congrArg (node :: ·) hnodes, rfl,
          List.forall_mem_cons.2 ⟨⟨_, hd⟩, hall⟩⟩
      | false =>
        cases hr
        exact ⟨[(node, d)], rfl, rfl, List.forall_mem_singleton.2 ⟨_, hd⟩⟩
    next hcard =>
      rw [if_neg hcard]
      exact ih hh hr

/-- So the map has the nodes up to that one, and all objects of those that work. -/
theorem loadDevices_covers (hp : k.Presents nodes cards) (hh : ∀ e ∈ h, e.isQuery)
    {ahead : List String} {devices : List (String × DriDevice)}
    (hr : loadDevices ahead [] k h = .ok (devices, h')) :
    Covers cards (Lists.takeThrough (worksAt cards) (cardNodes ahead)) devices := by
  have hspares := spares_of_loadDevices hp hh hr (by simp)
  obtain ⟨loads, hnodes, rfl, hall⟩ := exists_loads hp hh hr
  rw [← hnodes]
  refine ⟨map_fst_writeAll loads, fun node hnode card hcard hworks hplanes => ?_, hspares⟩
  obtain ⟨d, hd, hlookup⟩ := lookup_writeAll loads hnode
  obtain ⟨d₀, hloads⟩ := hall _ hd
  obtain ⟨res, hres⟩ := Option.isSome_iff_exists.1 (Bool.and_eq_true_iff.1 hworks).1
  exact ⟨d, hlookup, (hloads card hcard res hres).has hres hplanes⟩

/-! ## The constructor -/

theorem DriDevice.Has.keep {d d' : DriDevice} (hd : d.Has card)
    (hcrtcs : d'.crtcList.map DrmCrtc.mCrtc = d.crtcList.map DrmCrtc.mCrtc)
    (hconns : d'.connectorList.map DrmConnector.connectorId =
      d.connectorList.map DrmConnector.connectorId)
    (hencs : d'.encoderList = d.encoderList) (hplanes : d'.planeList = d.planeList) :
    d'.Has card :=
  ⟨hcrtcs ▸ hd.crtcs, hconns ▸ hd.connectors, hencs ▸ hd.encoders, hplanes ▸ hd.planes⟩

/-- The setup of a device and the mode sets leave its objects there. -/
theorem DriDevice.Has.setUp {d d₁ d₂ : DriDevice} {confMode : Size} (hd : d.Has card)
    (hs : d.setupDevice confMode k h = .ok (d₁, h')) (hr : d₁.Remoded d₂) : d₂.Has card := by
  have hasked := ids_of_refreshed hr.connectors
  have hrouted := ids_of_rerouted (refit_of_setupDevice hs).1
  obtain ⟨conns, crtcs, _, _, _, heq⟩ := setupDevice_eq_ok hs
  refine hd.keep (hr.mCrtc.trans (mCrtc_of_setupDevice hs)) (hasked.trans hrouted) ?_ ?_
  · rw [hr.rest, heq]
  · rw [hr.rest, heq]

namespace DRIElements

variable {e : DRIElements} {defMode : Size}

/-- The constructor keeps what was loaded, and names the first key of the map. -/
theorem covers_new (hp : k.Presents nodes cards) (hnew : new defMode k [] = .ok (e, h)) :
    Covers cards (Lists.takeThrough (worksAt cards) (cardNodes nodes)) e.mDeviceList ∧
      e.mPrimaryDev = (k.firstOf (e.mDeviceList.map Prod.fst)).getD "" := by
  obtain ⟨e₀, h₀, hload, hnew⟩ := new_eq_ok hnew
  rw [loadResources, Prog.bind_eq_ok] at hload
  obtain ⟨listed, h₁, hdevices, hload⟩ := hload
  rw [Prog.bind_eq_ok] at hload
  obtain ⟨devices, h₂, hload, heq⟩ := hload
  cases heq
  obtain ⟨hlisted, rfl⟩ := Prod.mk.inj (Except.ok.inj hdevices)
  obtain rfl : nodes = listed := hp.devices.symm.trans hlisted
  have hc := loadDevices_covers hp (by simp [Event.isQuery]) hload
  rcases hnew with ⟨rfl, rfl, hnone⟩ | ⟨name, d₀, d₁, d₂, h₁, hfirst, hd₀, hsetup, hmodes, rfl⟩
  · obtain rfl : devices = [] := hnone
    exact ⟨hc, rfl⟩
  · have hname : k.firstOf (devices.map Prod.fst) = some name :=
      (Prod.mk.inj (Except.ok.inj hfirst)).1
    -- the device is written back where it was
    have hkeys : (mapSet name d₂ devices).map Prod.fst = devices.map Prod.fst := by
      rw [map_fst_mapSet, if_pos (List.contains_iff_mem.2 (k.firstOf_mem hname)),
        List.append_nil]
    have hr := remoded_of_setActiveModes hmodes
    refine ⟨⟨hkeys.trans hc.keys, fun node hnode card hcard hworks hplanes => ?_,
      fun node d hd card hcard => ?_⟩, ?_⟩
    · obtain ⟨d, hd, hhas⟩ := hc.has node hnode card hcard hworks hplanes
      dsimp only
      rw [lookup_mapSet]
      split
      next hsame =>
        obtain rfl := eq_of_beq hsame
        obtain rfl := Option.some.inj (hd₀.symm.trans hd)
        exact ⟨d₂, rfl, hhas.setUp hsetup hr⟩
      · exact ⟨d, hd, hhas⟩
    · dsimp only at hd
      rw [lookup_mapSet] at hd
      split at hd
      next hsame =>
        obtain rfl := eq_of_beq hsame
        obtain rfl := Option.some.inj hd
        have hkept : d₂.planeList = d₀.planeList := by
          obtain ⟨_, _, _, _, _, heq⟩ := DriDevice.setupDevice_eq_ok hsetup
          rw [hr.rest, heq]
        intro p hmem
        exact hc.spares _ d₀ hd₀ card hcard p (hkept ▸ hmem)
      · exact hc.spares node d hd card hcard
    · dsimp only
      rw [hkeys, hname]
      rfl

/-- Every card that works is loaded with all its objects. -/
def AllLoaded (nodes : List String) (cards : String → Option Card) (e : DRIElements) : Prop :=
  ∀ node ∈ cardNodes nodes, ∀ card ∈ cards node, card.works →
    ∃ d ∈ e.mDeviceList.lookup node, d.Has card

/-- The primary device is a card that works, if there is one. -/
def PrimaryWorks (nodes : List String) (cards : String → Option Card) (e : DRIElements) : Prop :=
  (∃ node ∈ cardNodes nodes, worksAt cards node) →
    e.mPrimaryDev ∈ cardNodes nodes ∧ worksAt cards e.mPrimaryDev

/-- The cards that work are all loaded, with all their objects, exactly if they are
    listed before the first one that does not, and no plane of theirs is taken for
    a cursor by mistake. The primary device is one of them exactly if the map of the
    nodes up to that one starts with a card that works. -/
theorem cards_new_iff (hp : k.Presents nodes cards) (hnew : new defMode k [] = .ok (e, h)) :
    (e.AllLoaded nodes cards ∧ e.PrimaryWorks nodes cards) ↔
      ((∀ node ∈ cardNodes nodes, worksAt cards node →
        node ∈ (cardNodes nodes).takeWhile (worksAt cards)) ∧
        ∀ node ∈ cardNodes nodes, ∀ card ∈ cards node, card.works → card.NoFalseCursors) ∧
      ((∃ node ∈ cardNodes nodes, worksAt cards node) →
        ∃ name ∈ k.firstOf (Lists.takeThrough (worksAt cards) (cardNodes nodes)).eraseDups,
          worksAt cards name) := by
  obtain ⟨hc, hprimary⟩ := covers_new hp hnew
  rw [hc.keys] at hprimary
  refine and_congr ?_ (imp_congr_right fun ⟨node, hnode, hworks⟩ => ?_)
  · constructor
    · intro hall
      refine ⟨fun node hnode hworks => ?_, fun node hnode card hcard hw => ?_⟩
      · obtain ⟨card, hcard, hw⟩ := worksAt_iff.1 hworks
        obtain ⟨d, hd, _⟩ := hall node hnode card hcard hw
        -- the node is a key of the map
        have hkey : node ∈ e.mDeviceList.map Prod.fst :=
          List.mem_map_of_mem (Lists.mem_of_lookup hd)
        rw [hc.keys, List.mem_eraseDups] at hkey
        exact (Lists.mem_takeThrough_iff hworks).1 hkey
      · obtain ⟨d, hd, hhas⟩ := hall node hnode card hcard hw
        exact hhas.noFalseCursors (hc.spares node d hd card hcard)
    · rintro ⟨hall, hplanes⟩ node hnode card hcard hw
      have hworks := worksAt_iff.2 ⟨card, hcard, hw⟩
      have hseen := (Lists.mem_takeThrough_iff hworks).2 (hall node hnode hworks)
      exact hc.has node hseen card hcard hw (hplanes node hnode card hcard hw)
  · have hne : (Lists.takeThrough (worksAt cards) (cardNodes nodes)).eraseDups ≠ [] := by
      cases hl : cardNodes nodes with
      | nil => rw [hl] at hnode; cases hnode
      | cons a l => rw [Lists.takeThrough, List.eraseDups_cons]; exact List.cons_ne_nil _ _
    obtain ⟨name, hname⟩ := k.exists_firstOf hne
    rw [hname, Option.getD_some] at hprimary
    have hmem : name ∈ cardNodes nodes :=
      Lists.mem_of_mem_takeThrough (List.mem_eraseDups.1 (k.firstOf_mem hname))
    rw [hprimary, hname]
    simp [hmem]

end DRIElements

/-! ## Two cards -/

/-- A card that only renders: it has no display to tell of. -/
def Card.renderOnly : Card := { Card.oneDisplay with resources := none }

theorem Card.oneDisplay_noFalseCursors : Card.oneDisplay.NoFalseCursors := by
  intro ids hids id hid
  obtain rfl := Option.some.inj hids
  obtain rfl := List.mem_singleton.1 hid
  exact noFalseCursor_iff.2 (by decide)

/-- The nodes of two cards. -/
def twoNodes : List String := ["/dev/dri/card0", "/dev/dri/card1"]

/-- The cards behind these. -/
def behind (first second : Card) (node : String) : Option Card :=
  some (if node = "/dev/dri/card0" then first else second)

/-- A kernel with two cards, in the order of udev and of the map. -/
def Kernel.twoCards (first second : Card) : Kernel :=
  { Kernel.willing fun _ => first with
    devices := fun _ => twoNodes
    openNode := fun _ node => if node = "/dev/dri/card0" then 3 else 4
    card := fun _ fd => if fd = 3 then first else second }

theorem Kernel.twoCards_presents (first second : Card) :
    (twoCards first second).Presents twoNodes (behind first second) where
  devices := rfl
  closed _ _ _ hnone := by cases hnone
  opened h node _ card hcard := by
    obtain rfl := Option.some.inj hcard
    by_cases hnode : node = "/dev/dri/card0"
    · simp [twoCards, Answers, hnode]
    · simp [twoCards, Answers, hnode]

namespace DRIElements

/-- A card that works, and after it one that does not. -/
theorem cards_new_iff_render_second : ∃ e h,
    new ⟨1920, 1080⟩ (.twoCards .oneDisplay .renderOnly) [] = .ok (e, h) ∧
      e.AllLoaded twoNodes (behind .oneDisplay .renderOnly) ∧
      e.PrimaryWorks twoNodes (behind .oneDisplay .renderOnly) := by
  have hrun : (new ⟨1920, 1080⟩ (.twoCards .oneDisplay .renderOnly) []).map (fun _ => ()) =
      .ok () := by
    decide +kernel
  obtain ⟨⟨e, h⟩, hnew, _⟩ := Prog.exists_of_map_eq_ok hrun
  refine ⟨e, h, hnew, (cards_new_iff (Kernel.twoCards_presents _ _) hnew).2
    ⟨⟨?_, fun node _ card hcard hw => ?_⟩, fun _ => ?_⟩⟩
  · decide +kernel
  · obtain rfl := Option.some.inj hcard
    by_cases hnode : node = "/dev/dri/card0"
    · rw [if_pos hnode]
      exact Card.oneDisplay_noFalseCursors
    · rw [if_neg hnode] at hw
      cases hw
  · exact ⟨"/dev/dri/card0", by decide +kernel, by decide⟩

/-- A card that only renders is listed first: the one with the display is
    missing, and the primary device has none. -/
theorem cards_lost_after_render : ∃ e h,
    new ⟨1920, 1080⟩ (.twoCards .renderOnly .oneDisplay) [] = .ok (e, h) ∧
      Kernel.Presents (.twoCards .renderOnly .oneDisplay) twoNodes
        (behind .renderOnly .oneDisplay) ∧
      e.mDeviceList.map Prod.fst = ["/dev/dri/card0"] ∧ e.mPrimaryDev = "/dev/dri/card0" ∧
      ¬ e.AllLoaded twoNodes (behind .renderOnly .oneDisplay) ∧
      ¬ e.PrimaryWorks twoNodes (behind .renderOnly .oneDisplay) := by
  have hrun : (new ⟨1920, 1080⟩ (.twoCards .renderOnly .oneDisplay) []).map
      (fun s => (s.1.mDeviceList.map Prod.fst, s.1.mPrimaryDev)) =
      .ok (["/dev/dri/card0"], "/dev/dri/card0") := by
    decide +kernel
  obtain ⟨⟨e, h⟩, hnew, hobs⟩ := Prog.exists_of_map_eq_ok hrun
  obtain ⟨hkeys, hprimary⟩ := Prod.mk.inj hobs
  refine ⟨e, h, hnew, Kernel.twoCards_presents _ _, hkeys, hprimary, fun hall => ?_,
    fun hworks => ?_⟩
  · -- the second card works, but is no key
    obtain ⟨d, hd, _⟩ := hall "/dev/dri/card1" (by decide +kernel) .oneDisplay rfl rfl
    have hkey : "/dev/dri/card1" ∈ e.mDeviceList.map Prod.fst :=
      List.mem_map_of_mem (Lists.mem_of_lookup hd)
    rw [hkeys] at hkey
    exact absurd hkey (by decide)
  · obtain ⟨_, hfirst⟩ := hworks ⟨"/dev/dri/card1", by decide +kernel, rfl⟩
    rw [hprimary] at hfirst
    revert hfirst
    decide

end DRIElements

end ValRpi
