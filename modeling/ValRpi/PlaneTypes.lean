import ValRpi.Inventory

/-!
# Types of planes

A card tells of a plane by its properties, one of which, called `type`, names the
kind of the plane. `getPlaneType` does not look at what properties are called: it
takes the first one whose value is one of its enums.

* So it is right if and only if that one names the kind of the plane
  (`Card.namesKind_iff`);
* `loadResources` keeps the planes that are not cursors as far as this is so
  (`DRIElements.loadResources_sorts_iff`).
-/

namespace ValRpi

variable {k : Kernel} {h h' : History} {fd : ℤ} {card : Card} {nodes : List String}
  {cards : String → Option Card}

namespace Card

/-- The planes the card lists. -/
def planeIds (card : Card) : List ℕ := card.planeResources.getD []

/-- The first property of a plane whose value is one of its enums names the kind
    of the plane. -/
def NamesKind (card : Card) (id : ℕ) : Prop :=
  ∀ before q after name, (card.planeProperties id).getD [] = before ++ q :: after →
    (∀ x ∈ before, card.valueName x = none) → card.valueName q = some name →
      planeTypeOfName name = card.planeKind id

/-- The type that is found is the kind of the plane if and only if the first
    property that names any kind names this one. -/
theorem namesKind_iff {id : ℕ} : card.NamesKind id ↔ card.planeType id = card.planeKind id := by
  rw [planeType_eq]
  constructor
  · intro hkind
    cases hfirst : ((card.planeProperties id).getD []).findSome? card.valueName with
    | none =>
      -- no value of a property has a name, that of `type` neither
      rw [List.findSome?_eq_none_iff] at hfirst
      rw [planeKind]
      cases htype : ((card.planeProperties id).getD []).find? fun q =>
          (card.property q.1).any (·.name == "type") with
      | none => rfl
      | some q =>
        rw [Option.bind_some, hfirst q (List.mem_of_find?_eq_some htype)]
    | some name =>
      obtain ⟨before, q, after, hprops, hname, hbefore⟩ := List.findSome?_eq_some_iff.1 hfirst
      exact hkind before q after name hprops hbefore hname
  · intro htype before q after name hprops hbefore hname
    rw [← htype, List.findSome?_eq_some_iff.2 ⟨before, q, after, hprops, hname, hbefore⟩]
    rfl

/-- The objects of a card can be read, with the properties of its planes. -/
structure Readable (card : Card) : Prop where
  resources : card.resources.isSome
  connectors : ∀ res ∈ card.resources, ∀ id ∈ res.connectors,
    ∃ c ∈ card.connector id, (utilLookupConnectorTypeName c.connectorType).isSome
  planes : card.planeResources.isSome
  plane : ∀ id ∈ card.planeIds, (card.plane id).isSome
  properties : ∀ id ∈ card.planeIds,
    ∃ props ∈ card.planeProperties id, ∀ q ∈ props, (card.property q.1).isSome

end Card

/-! ## Reading a card -/

theorem Card.typeReadable_of_forall {props : List (ℕ × ℕ)}
    (hprops : ∀ q ∈ props, (card.property q.1).isSome) : card.TypeReadable props := by
  rintro before q after rfl _
  exact hprops q (by simp)

/-- `getPlaneType` finds the type of a plane whose properties can be read. -/
theorem getPlaneType_eq {id : ℕ} {props : List (ℕ × ℕ)} (hid : card.planeProperties id = some props)
    (hprops : ∀ q ∈ props, (card.property q.1).isSome) (ha : k.Answers fd card h) :
    ∃ h', getPlaneType fd id k h = .ok (card.planeType id, h') := by
  have ha₁ := ha.query (.planeProperties fd id)
  obtain ⟨⟨type, h'⟩, hends⟩ :=
    (planeTypeOfProperties_ends_iff ha₁).2 (Card.typeReadable_of_forall hprops)
  have htype : type = card.planeType id := by
    rw [planeTypeOfProperties_eq ha₁ hends, Card.planeType, hid]
    rfl
  refine ⟨h', ?_⟩
  rw [getPlaneType, drmModeObjectGetProperties, Prog.bind_of_ok (ask_of_answers ha _ _), hid]
  exact htype ▸ hends

/-! ## Loading cards -/

theorem Card.Readable.loadable (hread : card.Readable) (hfd : 0 < fd) : card.Loadable fd where
  connectors res hres id hid := ⟨hfd, hread.connectors res hres id hid⟩
  planes res _ ids hids id hid := by
    have hmem : id ∈ card.planeIds := by
      rw [planeIds, hids]
      exact hid
    obtain ⟨props, hprops, hall⟩ := hread.properties id hmem
    exact ⟨hread.plane id hmem, props, hprops, typeReadable_of_forall hall⟩

/-- A card that can be read is loaded, but for the planes that are taken for cursors. -/
theorem loadDevice_of_readable {node : String} (hfd : 0 < k.openNode h node)
    (ha : k.Answers (k.openNode h node) card (.query (.open node) :: h)) (hread : card.Readable) :
    ∃ d h', loadDevice node {} k h = .ok ((true, d), h') ∧
      d.planeList.map Plane.planeId = card.planeIds.filter (card.planeType · ≠ .cursor) := by
  obtain ⟨⟨⟨goOn, d⟩, h'⟩, hload⟩ := (loadDevice_ends_iff hfd.le ha).2 (hread.loadable hfd)
  obtain ⟨hgo, hloads⟩ := loadDevice_loads hfd.le ha hload
  obtain ⟨res, hres⟩ := Option.isSome_iff_exists.1 hread.resources
  obtain ⟨ids, hids⟩ := Option.isSome_iff_exists.1 hread.planes
  rw [Card.works, hread.resources, hread.planes] at hgo
  obtain rfl : goOn = true := hgo
  refine ⟨d, h', hload, ?_⟩
  rw [(hloads res hres).planeIds ids hids, Card.planeIds, hids]
  rfl

/-- Cards that can be read are loaded, each to the device of its node. -/
theorem loadDevices_of_readable {listed : List String} (hp : k.Presents listed cards)
    (hfd : ∀ h node, k.openNode h node ≠ 0) {devices : List (String × DriDevice)}
    (hnodup : nodes.Nodup) (hread : ∀ node ∈ cardNodes nodes, ∃ card ∈ cards node, card.Readable)
    (hnew : ∀ node ∈ nodes, devices.lookup node = none) (hh : ∀ e ∈ h, e.isQuery) :
    ∃ devices' h', loadDevices nodes devices k h = .ok (devices', h') ∧
      (∀ node, node ∉ nodes → devices'.lookup node = devices.lookup node) ∧
        ∀ node ∈ cardNodes nodes, ∀ card ∈ cards node, ∃ d ∈ devices'.lookup node,
          d.planeList.map Plane.planeId = card.planeIds.filter (card.planeType · ≠ .cursor) := by
  induction nodes generalizing devices h with
  | nil => exact ⟨devices, h, rfl, fun _ _ => rfl, by simp [cardNodes]⟩
  | cons node nodes ih =>
    obtain ⟨hnode, hnodup⟩ := List.nodup_cons.1 hnodup
    obtain ⟨hnone, hnew⟩ := List.forall_mem_cons.1 hnew
    rw [loadDevices]
    by_cases hcard : isCard node = true
    · rw [cardNodes, List.filter_cons_of_pos hcard, List.forall_mem_cons] at hread
      obtain ⟨⟨card, hc, hreadable⟩, hread⟩ := hread
      obtain ⟨hge, ha⟩ := hp.opened h node hh card hc
      obtain ⟨d, h₁, hload, hplanes⟩ :=
        loadDevice_of_readable (lt_of_le_of_ne hge (hfd h node).symm) ha hreadable
      obtain ⟨new, rfl, hasked⟩ := asks_loadDevice _ _ _ _ _ _ hload
      -- the nodes ahead differ from the one that is loaded
      have hother (n : String) (hn : n ≠ node) :
          (mapSet node d devices).lookup n = devices.lookup n := by
        rw [lookup_mapSet, if_neg (by simpa using hn)]
      obtain ⟨devices', h', hrest, hframe, hall⟩ := ih hnodup hread
        (fun n hn => (hother n (ne_of_mem_of_not_mem hn hnode)).trans (hnew n hn))
        (List.forall_mem_append.2 ⟨hasked, hh⟩)
      refine ⟨devices', h', ?_, fun n hn => ?_, ?_⟩
      · rw [if_pos hcard, hnone, Option.getD_none, Prog.bind_of_ok hload]
        exact hrest
      · obtain ⟨hne, hn⟩ := List.ne_and_not_mem_of_not_mem_cons hn
        exact (hframe n hn).trans (hother n hne)
      · rw [cardNodes, List.filter_cons_of_pos hcard, List.forall_mem_cons]
        refine ⟨fun c hc' => ?_, hall⟩
        obtain rfl := Option.some.inj (hc.symm.trans hc')
        rw [hframe node hnode, lookup_mapSet, if_pos (beq_self_eq_true node)]
        exact ⟨d, rfl, hplanes⟩
    · rw [if_neg hcard, cardNodes, List.filter_cons_of_neg hcard]
      rw [cardNodes, List.filter_cons_of_neg hcard] at hread
      obtain ⟨devices', h', hrest, hframe, hall⟩ := ih hnodup hread hnew hh
      exact ⟨devices', h', hrest,
        fun n hn => hframe n (List.ne_and_not_mem_of_not_mem_cons hn).2, hall⟩

namespace DRIElements

variable {e : DRIElements}

/-- Of every plane that is listed the kind is found, and the planes that are not
    cursors are those that are kept. -/
def SortsPlanes (e : DRIElements) (k : Kernel) (nodes : List String)
    (cards : String → Option Card) : Prop :=
  (∀ node ∈ cardNodes nodes, ∀ card ∈ cards node, ∀ id ∈ card.planeIds, ∀ h : History,
    (∀ e ∈ h, e.isQuery) → ∃ h', getPlaneType (k.openNode h node) id k
      (.query (.open node) :: h) = .ok (card.planeKind id, h')) ∧
  ∃ e' h', e.loadResources k [] = .ok (e', h') ∧
    ∀ node ∈ cardNodes nodes, ∀ card ∈ cards node, ∃ d ∈ e'.mDeviceList.lookup node,
      d.planeList.map Plane.planeId = card.planeIds.filter (card.planeKind · ≠ .cursor)

/-- The planes are sorted by their kinds if and only if, for each, the first
    property whose value is one of its enums names its kind. -/
theorem loadResources_sorts_iff (hp : k.Presents nodes cards) (hnodup : nodes.Nodup)
    (hfd : ∀ h node, k.openNode h node ≠ 0)
    (hread : ∀ node ∈ cardNodes nodes, ∃ card ∈ cards node, card.Readable)
    (he : e.mDeviceList = []) : e.SortsPlanes k nodes cards ↔
      ∀ node ∈ cardNodes nodes, ∀ card ∈ cards node, ∀ id ∈ card.planeIds, card.NamesKind id := by
  have htype : ∀ node ∈ cardNodes nodes, ∀ card ∈ cards node, ∀ id ∈ card.planeIds, ∀ h : History,
      (∀ e ∈ h, e.isQuery) → ∃ h', getPlaneType (k.openNode h node) id k
        (.query (.open node) :: h) = .ok (card.planeType id, h') := by
    intro node hnode card hcard id hid h hh
    obtain ⟨c, hc, hreadable⟩ := hread node hnode
    obtain rfl := Option.some.inj (hc.symm.trans hcard)
    obtain ⟨props, hprops, hall⟩ := hreadable.properties id hid
    exact getPlaneType_eq hprops hall (hp.opened h node hh c hc).2
  constructor
  · rintro ⟨hkind, _⟩ node hnode card hcard id hid
    obtain ⟨h₁, h₁'⟩ := htype node hnode card hcard id hid [] (by simp)
    obtain ⟨h₂, h₂'⟩ := hkind node hnode card hcard id hid [] (by simp)
    rw [h₁'] at h₂'
    exact Card.namesKind_iff.2 (Prod.mk.inj (Except.ok.inj h₂')).1
  · intro hkind
    refine ⟨fun node hnode card hcard id hid h hh => ?_, ?_⟩
    · rw [← Card.namesKind_iff.1 (hkind node hnode card hcard id hid)]
      exact htype node hnode card hcard id hid h hh
    · have hnew : ∀ node ∈ nodes, ([] : List (String × DriDevice)).lookup node = none :=
        fun _ _ => rfl
      have hlisted : ∀ e ∈ [Event.query .devices], e.isQuery := by simp [Event.isQuery]
      obtain ⟨devices, h', hload, _, hall⟩ :=
        loadDevices_of_readable hp hfd hnodup hread hnew hlisted
      refine ⟨{ e with mDeviceList := devices }, h', ?_, fun node hnode card hcard => ?_⟩
      · rw [loadResources, Prog.bind_of_ok (Prog.call_eq_ok.2 rfl), hp.devices, he,
          Prog.bind_of_ok hload]
        rfl
      · obtain ⟨d, hd, hplanes⟩ := hall node hnode card hcard
        refine ⟨d, hd, hplanes.trans (List.filter_congr fun id hid => ?_)⟩
        rw [Card.namesKind_iff.1 (hkind node hnode card hcard id hid)]

end DRIElements

/-! ## One card -/

theorem Card.oneDisplay_readable : Card.oneDisplay.Readable where
  resources := rfl
  connectors res hres id hid := by
    obtain rfl := Option.some.inj hres
    obtain rfl := List.mem_singleton.1 hid
    exact ⟨_, rfl, rfl⟩
  planes := rfl
  plane := by decide
  properties id hid := ⟨[(5, 1)], rfl, by decide⟩

/-- A primary plane and a cursor plane, whose properties start with the way they
    are blended. -/
def Card.cursorPlane : Card :=
  { Card.ofTables [31]
      [⟨21, 11, 11, .connected, [.progressive 1920 1080, .progressive 1280 720], [11]⟩]
      [⟨11, 31, 1⟩] [⟨41, 1⟩, ⟨42, 1⟩] with
    planeProperties := fun id => some (if id = 42 then [(6, 0), (5, 2)] else [(5, 1)])
    property := fun id => some (if id = 6 then
        ⟨"pixel blend mode", [(2, "None"), (0, "Pre-multiplied"), (1, "Coverage")]⟩
      else
        ⟨"type", [(0, "Overlay"), (1, "Primary"), (2, "Cursor")]⟩) }

namespace DRIElements

/-- A plane with one property. -/
theorem loadResources_sorts_one_display :
    SortsPlanes { mInitialMode := ⟨1920, 1080⟩, mConfiguredMode := ⟨1920, 1080⟩ }
      (.willing fun _ => .oneDisplay) ["/dev/dri/card0"] fun _ => some .oneDisplay := by
  have hfd (h : History) (node : String) :
      (Kernel.willing fun _ => .oneDisplay).openNode h node ≠ 0 := (by decide : (3 : ℤ) ≠ 0)
  refine (loadResources_sorts_iff (Kernel.willing_presents _) (by decide) hfd
    (fun _ _ => ⟨_, rfl, Card.oneDisplay_readable⟩) rfl).2 fun node _ card hcard id hid => ?_
  obtain rfl := Option.some.inj hcard
  obtain rfl := List.mem_singleton.1 hid
  exact Card.namesKind_iff.2 (by decide)

/-- The cursor plane is taken for one of no kind, and kept. -/
theorem loadResources_keeps_cursor : ∃ e h,
    loadResources { mInitialMode := ⟨1920, 1080⟩, mConfiguredMode := ⟨1920, 1080⟩ }
      (.willing fun _ => .cursorPlane) [] = .ok (e, h) ∧
    (e.mDeviceList.lookup "/dev/dri/card0").map (·.planeList.map Plane.planeId) = some [41, 42] ∧
    Card.cursorPlane.planeKind 42 = .cursor ∧
    ¬ SortsPlanes { mInitialMode := ⟨1920, 1080⟩, mConfiguredMode := ⟨1920, 1080⟩ }
      (.willing fun _ => .cursorPlane) ["/dev/dri/card0"] fun _ => some .cursorPlane := by
  have hrun : (loadResources { mInitialMode := ⟨1920, 1080⟩, mConfiguredMode := ⟨1920, 1080⟩ }
      (.willing fun _ => .cursorPlane) []).map (fun s =>
        (s.1.mDeviceList.lookup "/dev/dri/card0").map (·.planeList.map Plane.planeId)) =
          .ok (some [41, 42]) := by
    decide +kernel
  obtain ⟨⟨e, h⟩, hload, hplanes⟩ := Prog.exists_of_map_eq_ok hrun
  refine ⟨e, h, hload, hplanes, by decide, ?_⟩
  rintro ⟨_, e', h', hload', hall⟩
  rw [hload] at hload'
  cases hload'
  obtain ⟨d, hd, hkept⟩ := hall "/dev/dri/card0" (by decide +kernel) .cursorPlane rfl
  rw [hd, Option.map_some, hkept] at hplanes
  revert hplanes
  decide

end DRIElements

end ValRpi
