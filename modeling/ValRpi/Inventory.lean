import ValRpi.Cards

/-!
# What the load survives

`loadResources` asks for every object of a card, and may get a null pointer for any
of them. A CRTC or an encoder that cannot be read is kept as it is. A connector that
cannot be read, or whose type has no name, ends the program; and so does a plane, one
of whose properties is needed to tell its type and cannot be read.

* `Card.Loadable` says which cards the load survives (`loadDevice_ends_iff`);
* so the objects that can be read are all loaded if and only if the cards that are
  read are such, and no card that lists objects comes after one that cannot be read
  (`DRIElements.loadResources_loads_iff`).
-/

namespace ValRpi

variable {k : Kernel} {h h' : History} {fd : ℤ} {card : Card} {nodes : List String}
  {fds : String → ℤ} {cards : String → Option Card}

namespace Card

/-- The properties up to the first one whose value is one of its enums can be read. -/
def TypeReadable (card : Card) (props : List (ℕ × ℕ)) : Prop :=
  ∀ before q after, props = before ++ q :: after → (∀ x ∈ before, card.valueName x = none) →
    (card.property q.1).isSome

theorem typeReadable_nil : card.TypeReadable [] := by
  intro before q after heq
  simp at heq

theorem typeReadable_cons_iff {q : ℕ × ℕ} {props : List (ℕ × ℕ)} :
    card.TypeReadable (q :: props) ↔
      (card.property q.1).isSome ∧ (card.valueName q = none → card.TypeReadable props) := by
  constructor
  · intro hread
    refine ⟨hread [] q props rfl (by simp), fun hq before q' after heq hbefore => ?_⟩
    exact hread (q :: before) q' after (by rw [heq]; rfl) (List.forall_mem_cons.2 ⟨hq, hbefore⟩)
  · rintro ⟨hq, hread⟩ before q' after heq hbefore
    cases before with
    | nil =>
      cases heq
      exact hq
    | cons x before =>
      cases heq
      obtain ⟨hx, hbefore⟩ := List.forall_mem_cons.1 hbefore
      exact hread hx before q' after rfl hbefore

/-- A card whose connectors can be read and named, and whose planes can be read with
    the properties that tell their types; it is not opened as descriptor 0, unless
    it has no connectors. -/
structure Loadable (card : Card) (fd : ℤ) : Prop where
  connectors : ∀ res ∈ card.resources, ∀ id ∈ res.connectors,
    0 < fd ∧ ∃ c ∈ card.connector id, (utilLookupConnectorTypeName c.connectorType).isSome
  planes : ∀ res ∈ card.resources, ∀ ids ∈ card.planeResources, ∀ id ∈ ids,
    (card.plane id).isSome ∧ ∃ props ∈ card.planeProperties id, card.TypeReadable props

end Card

/-! ## Reading a card -/

theorem ask_of_answers {α : Type} (ha : k.Answers fd card h) (q : Query)
    (answer : Card → α) : ask fd q answer k h = .ok (answer card, .query q :: h) := by
  rw [ask, Prog.call_eq_ok, ha.now]

theorem Kernel.Answers.query (ha : k.Answers fd card h) (q : Query) :
    k.Answers fd card (.query q :: h) :=
  ha.asked (asks_ask fd q fun _ => ()) (ask_of_answers ha q fun _ => ())

/-- The loop over a list of ids ends if the reading of each does. -/
theorem loadEach_ends_iff {α : Type} {read : ℕ → Act (Option α)} {P : ℕ → Prop}
    (hasks : ∀ id, Asks (read id))
    (hread : ∀ id h, k.Answers fd card h → (Prog.Ends (read id) k h ↔ P id)) {ids : List ℕ}
    {loaded : List α} (ha : k.Answers fd card h) :
    Prog.Ends (loadEach read ids loaded) k h ↔ ∀ id ∈ ids, P id := by
  induction ids generalizing loaded h with
  | nil => exact iff_of_true (Prog.ends_pure _) (by simp)
  | cons id ids ih =>
    rw [loadEach, List.forall_mem_cons, ← hread id h ha]
    refine Prog.ends_bind_iff fun a h₁ hone => ?_
    cases a with
    | none => exact ih (ha.asked (hasks id) hone)
    | some a => exact ih (ha.asked (hasks id) hone)

theorem loadCrtcs_ends (ids : List ℕ) (i : ℕ) (loaded : List DrmCrtc)
    (ha : k.Answers fd card h) : Prog.Ends (loadCrtcs fd ids i loaded) k h := by
  induction ids generalizing i loaded h with
  | nil => exact Prog.ends_pure _
  | cons id ids ih =>
    rw [loadCrtcs, drmModeGetCrtc, Prog.ends_bind_of_ok (ask_of_answers ha _ _)]
    exact ih _ _ (ha.query _)

theorem DrmConnector.exists_new_iff (fd : ℤ) (p : Option Connector) :
    (∃ conn, new fd p = .ok conn) ↔
      0 < fd ∧ ∃ c ∈ p, (utilLookupConnectorTypeName c.connectorType).isSome := by
  cases p with
  | none => simp [new]
  | some c =>
    rw [new]
    by_cases hfd : fd ≤ 0
    · simp [hfd]
    · cases hname : utilLookupConnectorTypeName c.connectorType with
      | none => simp [hfd, hname]
      | some name => simp [hfd, hname, not_le.1 hfd]

theorem loadConnector_ends_iff {id : ℕ} (ha : k.Answers fd card h) :
    Prog.Ends (loadConnector fd id) k h ↔
      0 < fd ∧ ∃ c ∈ card.connector id, (utilLookupConnectorTypeName c.connectorType).isSome := by
  rw [loadConnector, drmModeGetConnector, Prog.ends_bind_of_ok (ask_of_answers ha _ _),
    Prog.ends_lift_bind_iff]
  have hnew := DrmConnector.exists_new_iff fd
    ((card.connector id).map ({ · with connectorId := id }))
  rw [Option.exists_mem_map] at hnew
  rw [← hnew]
  exact exists_congr fun conn => and_iff_left (Prog.ends_pure _)

theorem loadEncoder_ends {id : ℕ} (ha : k.Answers fd card h) :
    Prog.Ends (loadEncoder fd id) k h := by
  rw [loadEncoder, drmModeGetEncoder, Prog.ends_bind_of_ok (ask_of_answers ha _ _)]
  exact Prog.ends_pure _

theorem ends_deref_bind_iff {α β : Type} {x : Option α} {f : α → Act β} :
    Prog.Ends (.lift (deref x) >>= f) k h ↔ ∃ a ∈ x, Prog.Ends (f a) k h := by
  rw [Prog.ends_lift_bind_iff]
  simp only [deref_eq_ok, Option.mem_def]

theorem planeTypeOfProperties_ends_iff {props : List (ℕ × ℕ)} (ha : k.Answers fd card h) :
    Prog.Ends (planeTypeOfProperties fd props) k h ↔ card.TypeReadable props := by
  induction props generalizing h with
  | nil => exact iff_of_true (Prog.ends_pure _) Card.typeReadable_nil
  | cons q props ih =>
    rw [planeTypeOfProperties, drmModeGetProperty, Prog.ends_bind_of_ok (ask_of_answers ha _ _),
      ends_deref_bind_iff, Card.typeReadable_cons_iff, Card.valueName]
    cases hp : card.property q.1 with
    | none => simp
    | some p =>
      simp only [Option.isSome_some, Option.bind_some, true_and, Option.mem_some_iff,
        exists_eq_left']
      cases hfind : p.enums.find? (·.1 == q.2) with
      | none => exact (ih (ha.query _)).trans ⟨fun hread _ => hread, fun hread => hread rfl⟩
      | some enum => exact iff_of_true (Prog.ends_pure _) fun hnone => by cases hnone

theorem loadPlane_ends_iff {id : ℕ} (ha : k.Answers fd card h) :
    Prog.Ends (loadPlane fd id) k h ↔
      (card.plane id).isSome ∧ ∃ props ∈ card.planeProperties id, card.TypeReadable props := by
  rw [loadPlane, drmModeGetPlane, Prog.ends_bind_of_ok (ask_of_answers ha _ _),
    ends_deref_bind_iff]
  cases hp : card.plane id with
  | none => simp
  | some p =>
    simp only [Option.map_some, Option.isSome_some, true_and, Option.mem_some_iff, exists_eq_left']
    rw [Prog.ends_bind_iff (Q := True) fun _ _ _ => iff_true_intro (Prog.ends_pure _), and_true,
      getPlaneType, drmModeObjectGetProperties,
      Prog.ends_bind_of_ok (ask_of_answers (ha.query _) _ _), ends_deref_bind_iff]
    refine exists_congr fun props => and_congr_right fun _ => ?_
    exact planeTypeOfProperties_ends_iff ((ha.query _).query _)

/-! ## Loading cards -/

/-- The load of a card that is opened ends if and only if the card is loadable. -/
theorem loadDevice_ends_iff {node : String} {d : DriDevice} (hfd : 0 ≤ k.openNode h node)
    (ha : k.Answers (k.openNode h node) card (.query (.open node) :: h)) :
    Prog.Ends (loadDevice node d) k h ↔ card.Loadable (k.openNode h node) := by
  rw [loadDevice, Prog.ends_bind_of_ok (Prog.call_eq_ok.2 rfl)]
  dsimp only
  rw [if_neg (not_lt.2 hfd), drmModeGetResources, Prog.ends_bind_of_ok (ask_of_answers ha _ _)]
  have ha₁ := ha.query (.resources (k.openNode h node))
  cases hres : card.resources with
  | none =>
    refine iff_of_true (Prog.ends_pure _) ⟨?_, ?_⟩
    all_goals
      intro res hmem
      rw [hres] at hmem
      cases hmem
  | some res =>
    dsimp only
    -- the connectors decide, and after them the planes
    rw [Prog.ends_bind_iff (Q := card.Loadable (k.openNode h node)),
      and_iff_right (loadCrtcs_ends _ _ _ ha₁)]
    intro crtcs h₂ hcrtcs
    have ha₂ := ha₁.asked (asks_loadCrtcs _ _ _ _) hcrtcs
    rw [Prog.ends_bind_iff (Q := ∀ ids ∈ card.planeResources, ∀ id ∈ ids, (card.plane id).isSome ∧
        ∃ props ∈ card.planeProperties id, card.TypeReadable props),
      loadEach_ends_iff (asks_loadConnector _) (fun _ _ => loadConnector_ends_iff) ha₂]
    · constructor
      · rintro ⟨hconns, hplanes⟩
        refine ⟨fun res' hres' => ?_, fun _ _ => hplanes⟩
        obtain rfl := Option.some.inj (hres.symm.trans hres')
        exact hconns
      · exact fun hload => ⟨hload.connectors res hres, hload.planes res hres⟩
    intro conns h₃ hconns
    have ha₃ := ha₂.asked (asks_loadEach (asks_loadConnector _) _ _) hconns
    rw [Prog.ends_bind_iff (Q := ∀ ids ∈ card.planeResources, ∀ id ∈ ids, (card.plane id).isSome ∧
        ∃ props ∈ card.planeProperties id, card.TypeReadable props),
      loadEach_ends_iff (P := fun _ => True) (asks_loadEncoder _)
        (fun _ _ ha => iff_true_intro (loadEncoder_ends ha)) ha₃]
    · exact and_iff_right fun _ _ => trivial
    intro encs h₄ hencs
    have ha₄ := ha₃.asked (asks_loadEach (asks_loadEncoder _) _ _) hencs
    rw [drmModeGetPlaneResources, Prog.ends_bind_of_ok (ask_of_answers ha₄ _ _)]
    cases hids : card.planeResources with
    | none => exact iff_of_true (Prog.ends_pure _) (by simp)
    | some ids =>
      rw [Prog.ends_bind_iff (Q := True) fun _ _ _ => iff_true_intro (Prog.ends_pure _), and_true,
        loadEach_ends_iff (asks_loadPlane _) (fun _ _ => loadPlane_ends_iff) (ha₄.query _)]
      simp only [Option.mem_def, Option.some.injEq, forall_eq']

/-- What is met when the cards are loaded: the nodes that udev lists, and for each the
    descriptor that it opens as, and the card behind it. -/
structure Kernel.Inventory (k : Kernel) (nodes : List String) (fds : String → ℤ)
    (cards : String → Option Card) : Prop extends k.Presents nodes cards where
  fd : ∀ h node, (∀ e ∈ h, e.isQuery) → k.openNode h node = fds node

theorem Kernel.Inventory.loadDevice_ends_iff (hk : k.Inventory nodes fds cards)
    (hh : ∀ e ∈ h, e.isQuery) {node : String} {d : DriDevice} :
    Prog.Ends (loadDevice node d) k h ↔ ∀ card ∈ cards node, card.Loadable (fds node) := by
  cases hcard : cards node with
  | none =>
    rw [loadDevice, Prog.ends_bind_of_ok (Prog.call_eq_ok.2 rfl)]
    dsimp only
    rw [if_pos (hk.closed h node hh hcard)]
    exact iff_of_true (Prog.ends_pure _) (by simp)
  | some card =>
    obtain ⟨hfd, ha⟩ := hk.opened h node hh card hcard
    rw [ValRpi.loadDevice_ends_iff hfd ha, hk.fd h node hh]
    simp only [Option.mem_def, Option.some.injEq, forall_eq']

/-- The nodes whose cards are read: up to the first one that does not work. -/
def readNodes (nodes : List String) (cards : String → Option Card) : List String :=
  Lists.takeThrough (worksAt cards) (cardNodes nodes)

theorem loadDevices_ends_iff (hk : k.Inventory nodes fds cards) (hh : ∀ e ∈ h, e.isQuery)
    {ahead : List String} (devices : List (String × DriDevice)) :
    Prog.Ends (loadDevices ahead devices) k h ↔
      ∀ node ∈ readNodes ahead cards, ∀ card ∈ cards node, card.Loadable (fds node) := by
  induction ahead generalizing devices h with
  | nil => exact iff_of_true (Prog.ends_pure _) (by simp [readNodes, cardNodes, Lists.takeThrough])
  | cons node ahead ih =>
    rw [loadDevices, readNodes, cardNodes]
    by_cases hcard : isCard node = true
    · rw [if_pos hcard, List.filter_cons_of_pos hcard, Lists.takeThrough, List.forall_mem_cons,
        ← hk.loadDevice_ends_iff hh]
      refine Prog.ends_bind_iff fun r h₁ hload => ?_
      obtain ⟨goOn, d⟩ := r
      obtain ⟨rfl, _⟩ := loadDevice_of_presents hk.toPresents hh hload
      obtain ⟨new, rfl, hnew⟩ := asks_loadDevice _ _ _ _ _ _ hload
      dsimp only
      split
      · exact ih (List.forall_mem_append.2 ⟨hnew, hh⟩) _
      · exact iff_of_true (Prog.ends_pure _) (by simp)
    · rw [if_neg hcard, List.filter_cons_of_neg hcard]
      exact ih hh devices

/-! ## The load -/

/-- A device has the objects of a card that can be read, and named. -/
structure DriDevice.HasReadable (card : Card) (d : DriDevice) : Prop where
  crtcs : ∀ res ∈ card.resources, ∀ id ∈ res.crtcs, ∀ c ∈ card.crtcRead id,
    some c ∈ d.crtcList.map DrmCrtc.mCrtc
  connectors : ∀ res ∈ card.resources, ∀ id ∈ res.connectors, ∀ c ∈ card.connectorRead id,
    ∀ name ∈ utilLookupConnectorTypeName c.connectorType,
      (c, name) ∈ d.connectorList.map fun conn => (conn.mConnectorPtr, conn.mName)
  encoders : ∀ res ∈ card.resources, ∀ id ∈ res.encoders, ∀ enc ∈ card.encoderRead id,
    some enc ∈ d.encoderList
  planes : ∀ ids ∈ card.planeResources, ∀ id ∈ ids, ∀ p ∈ card.planeRead id,
    card.planeType id ≠ .cursor → p ∈ d.planeList

theorem DriDevice.Loads.hasReadable {d d' : DriDevice} {res : Resources}
    (hres : card.resources = some res) (hl : Loads card res d d') : d'.HasReadable card := by
  constructor
  · intro res' hres' id hid c hc
    obtain rfl := Option.some.inj (hres.symm.trans hres')
    rw [hl.crtcs]
    exact List.mem_append_right _ (List.mem_map.2 ⟨id, hid, hc⟩)
  · intro res' hres' id hid c hc name hname
    obtain rfl := Option.some.inj (hres.symm.trans hres')
    rw [hl.connectors]
    refine List.mem_append_right _ (List.mem_filterMap.2 ⟨id, hid, ?_⟩)
    rw [Card.connectorNamed, Option.mem_def.1 hc, Option.bind_some, Option.mem_def.1 hname]
    rfl
  · intro res' hres' id hid enc henc
    obtain rfl := Option.some.inj (hres.symm.trans hres')
    rw [hl.encoders]
    exact List.mem_append_right _ (List.mem_map.2 ⟨id, hid, henc⟩)
  · intro ids hids id hid p hp htype
    rw [hl.planes ids hids]
    refine List.mem_append_right _ (List.mem_filterMap.2 ⟨id, hid, ?_⟩)
    rw [Option.mem_def.1 hp, Option.filter_some, if_pos (by simpa using htype)]

namespace DRIElements

variable {defMode : Size}

theorem loadResources_eq_ok (hp : k.Presents nodes cards) {e e' : DRIElements} :
    e.loadResources k [] = .ok (e', h) ↔
      ∃ devices, loadDevices nodes e.mDeviceList k [.query .devices] = .ok (devices, h) ∧
        e' = { e with mDeviceList := devices } := by
  rw [loadResources, Prog.bind_of_ok (Prog.call_eq_ok.2 rfl), hp.devices, Prog.bind_eq_ok]
  constructor
  · rintro ⟨devices, h₁, hload, heq⟩
    cases heq
    exact ⟨devices, hload, rfl⟩
  · rintro ⟨devices, hload, rfl⟩
    exact ⟨devices, h, hload, rfl⟩

/-- The load ends, and every card that lists its objects is loaded, with all of them
    that can be read. -/
def LoadsRest (k : Kernel) (defMode : Size) (nodes : List String) (cards : String → Option Card) :
    Prop :=
  ∃ e h, loadResources { mInitialMode := defMode, mConfiguredMode := defMode } k [] = .ok (e, h) ∧
    ∀ node ∈ cardNodes nodes, ∀ card ∈ cards node, card.resources.isSome →
      ∃ d ∈ e.mDeviceList.lookup node, d.HasReadable card

/-- All that can be read is loaded if and only if the cards that are read are
    loadable, and none that lists its objects comes after the first one that cannot
    be opened or read. -/
theorem loadResources_loads_iff (hk : k.Inventory nodes fds cards) :
    LoadsRest k defMode nodes cards ↔
      (∀ node ∈ readNodes nodes cards, ∀ card ∈ cards node, card.Loadable (fds node)) ∧
      ∀ node ∈ cardNodes nodes, ∀ card ∈ cards node, card.resources.isSome →
        node ∈ readNodes nodes cards := by
  have hasked : ∀ e ∈ [Event.query .devices], e.isQuery := by simp [Event.isQuery]
  rw [← loadDevices_ends_iff hk hasked []]
  constructor
  · rintro ⟨e, h, hload, hall⟩
    obtain ⟨devices, hdevices, rfl⟩ := (loadResources_eq_ok hk.toPresents).1 hload
    refine ⟨⟨_, hdevices⟩, fun node hnode card hcard hres => ?_⟩
    -- the device is one of the map, whose keys are the nodes that are read
    obtain ⟨d, hd, _⟩ := hall node hnode card hcard hres
    have hkey := List.mem_map_of_mem (f := Prod.fst) (Lists.mem_of_lookup hd)
    rwa [(loadDevices_covers hk.toPresents hasked hdevices).keys, List.mem_eraseDups] at hkey
  · rintro ⟨⟨⟨devices, h⟩, hdevices⟩, hread⟩
    refine ⟨_, h, (loadResources_eq_ok hk.toPresents).2 ⟨devices, hdevices, rfl⟩,
      fun node hnode card hcard hres => ?_⟩
    obtain ⟨loads, hnodes, rfl, hloads⟩ := exists_loads hk.toPresents hasked hdevices
    have hmem := hread node hnode card hcard hres
    rw [readNodes, ← hnodes] at hmem
    obtain ⟨d, hd, hlookup⟩ := lookup_writeAll loads hmem
    obtain ⟨d₀, hloaded⟩ := hloads _ hd
    obtain ⟨res, hres⟩ := Option.isSome_iff_exists.1 hres
    exact ⟨d, hlookup, (hloaded card hcard res hres).hasReadable hres⟩

end DRIElements

/-! ## One card -/

theorem Kernel.willing_presents (card : Card) :
    (willing fun _ => card).Presents ["/dev/dri/card0"] fun _ => some card where
  devices := rfl
  closed _ _ _ hnone := by cases hnone
  opened h node _ card' hcard := by
    obtain rfl := Option.some.inj hcard
    exact ⟨(by decide : (0 : ℤ) ≤ 3), fun _ _ => rfl⟩

theorem Kernel.willing_inventory (card : Card) :
    (willing fun _ => card).Inventory ["/dev/dri/card0"] (fun _ => 3) fun _ => some card where
  toPresents := willing_presents card
  fd _ _ _ := rfl

/-- One display, whose CRTC and encoder cannot be read. -/
def Card.halfRead : Card :=
  { Card.oneDisplay with crtc := fun _ => none, encoder := fun _ => none }

/-- One display, and a connector of a type without a name. -/
def Card.unnamedConnector : Card :=
  .ofTables [31]
    [⟨22, 0, 19, .disconnected, [], []⟩,
      ⟨21, 11, 11, .connected, [.progressive 1920 1080, .progressive 1280 720], [11]⟩]
    [⟨11, 31, 1⟩] [⟨41, 1⟩]

theorem Card.halfRead_loadable : Card.halfRead.Loadable 3 where
  connectors res hres id hid := by
    obtain rfl := Option.some.inj hres
    obtain rfl := List.mem_singleton.1 hid
    exact ⟨by decide, _, rfl, rfl⟩
  planes res hres ids hids id hid := by
    obtain rfl := Option.some.inj hids
    obtain rfl := List.mem_singleton.1 hid
    refine ⟨rfl, [(5, 1)], rfl, ?_⟩
    rw [typeReadable_cons_iff]
    exact ⟨rfl, fun _ => typeReadable_nil⟩

namespace DRIElements

/-- A CRTC and an encoder that cannot be read leave the rest loaded. -/
theorem loadResources_loads_half_read :
    LoadsRest (.willing fun _ => .halfRead) ⟨1920, 1080⟩ ["/dev/dri/card0"]
      fun _ => some .halfRead := by
  refine (loadResources_loads_iff (Kernel.willing_inventory _)).2 ⟨?_, ?_⟩
  · rintro node _ card hcard
    obtain rfl := Option.some.inj hcard
    exact Card.halfRead_loadable
  · rintro node hnode card _ _
    revert hnode
    rw [readNodes]
    have hnodes : cardNodes ["/dev/dri/card0"] = ["/dev/dri/card0"] := by decide +kernel
    rw [hnodes]
    exact fun hnode => List.mem_singleton.1 hnode ▸ List.mem_cons_self

/-- The name of the connector is a string built from a null pointer, and the
    display is not loaded. -/
theorem loadResources_reads_null :
    Kernel.Inventory (.willing fun _ => .unnamedConnector) ["/dev/dri/card0"] (fun _ => 3)
      (fun _ => some .unnamedConnector) ∧
    loadResources { mInitialMode := ⟨1920, 1080⟩, mConfiguredMode := ⟨1920, 1080⟩ }
      (.willing fun _ => .unnamedConnector) [] = .error .nullDeref ∧
    ¬ LoadsRest (.willing fun _ => .unnamedConnector) ⟨1920, 1080⟩ ["/dev/dri/card0"]
      fun _ => some .unnamedConnector := by
  have hload : loadResources { mInitialMode := ⟨1920, 1080⟩, mConfiguredMode := ⟨1920, 1080⟩ }
      (.willing fun _ => .unnamedConnector) [] = .error .nullDeref := by
    decide +kernel
  refine ⟨Kernel.willing_inventory _, hload, ?_⟩
  rintro ⟨e, h, hok, _⟩
  rw [hload] at hok
  cases hok

end DRIElements

end ValRpi
