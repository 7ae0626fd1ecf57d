import ValRpi.Renewal
import ValRpi.Stable

/-!
# Polling

Every change of a connector queues an event at the monitor, which the program
enables before it asks for anything. A poll (`pollDRIDevices`) takes one event
off the queue, if there is one, and updates the device. Changes may come at any
time, also while the program starts up or updates the device.

* A device is *settled* on a card if setting it up for it changes nothing
  (`DriDevice.Settled`), and it is once it was set up while nothing changed.
* If no event is queued, nothing changed since the last update began, and the
  device is settled on the card as it is (`Watch.Sound`).
* So no change is missed, and of several updates in a row for the same cards
  the first one counts (`Watch.nothing_missed_of_run`).
-/

namespace ValRpi

variable {k : Kernel} {h h' : History} {fd : ℤ}

/-! ## Changes -/

/-- A setup is told the same about the connectors of two cards. -/
structure Card.Alike (card card' : Card) : Prop where
  gives : ∀ id, card'.gives id = card.gives id
  modes : ∀ id, card'.modes id = card.modes id

theorem Card.Alike.refl (card : Card) : card.Alike card := ⟨fun _ => rfl, fun _ => rfl⟩

theorem Card.Alike.trans {a b c : Card} (hab : a.Alike b) (hbc : b.Alike c) : a.Alike c :=
  ⟨fun id => (hbc.gives id).trans (hab.gives id), fun id => (hbc.modes id).trans (hab.modes id)⟩

/-- `changes` is how many changes of connectors there were so far, and so how many
    events were queued. Where there is none, asking leaves the cards as they are,
    and nothing else that the program does changes what a setup is told. -/
structure Kernel.Announces (k : Kernel) (changes : History → ℕ) : Prop where
  mono : ∀ ev h, changes h ≤ changes (ev :: h)
  asked : ∀ q h, changes (.query q :: h) = changes h → k.card (.query q :: h) = k.card h
  alike : ∀ ev h fd, changes (ev :: h) = changes h → (k.card h fd).Alike (k.card (ev :: h) fd)

namespace Kernel.Announces

variable {changes : History → ℕ} (hk : k.Announces changes)

include hk

theorem le_of_suffix (hle : h <:+ h') : changes h ≤ changes h' := by
  obtain ⟨new, rfl⟩ := hle
  induction new with
  | nil => exact le_rfl
  | cons ev new ih => exact ih.trans (hk.mono ev (new ++ h))

/-- If nothing changed from `h` to `h'`, nothing did in between. -/
theorem eq_between {h₁ : History} (hsame : changes h' = changes h) (hfrom : h <:+ h₁)
    (hto : h₁ <:+ h') : changes h₁ = changes h :=
  ((hk.le_of_suffix hto).trans hsame.le).antisymm (hk.le_of_suffix hfrom)

/-- Asking for a while without a change leaves the cards as they are. -/
theorem still {new : History} (hnew : ∀ e ∈ new, e.isQuery)
    (hsame : changes (new ++ h) = changes h) : k.Still h (new ++ h) := by
  induction new with
  | nil =>
    intro h₁ hfrom hto
    rw [hto.eq_of_length_le hfrom.length_le]
    rfl
  | cons e new ih =>
    obtain ⟨he, hrest⟩ := List.forall_mem_cons.1 hnew
    have hmid : changes (new ++ h) = changes h :=
      hk.eq_between hsame (List.suffix_append new h) (List.suffix_cons e (new ++ h))
    intro h₁ hfrom hto
    rcases List.suffix_cons_iff.1 hto with rfl | hto
    · obtain ⟨q, rfl⟩ : ∃ q, e = .query q := by
        cases e with
        | query q => exact ⟨q, rfl⟩
        | _ => cases he
      have hlast := ih hrest hmid (new ++ h) (List.suffix_append new h) (List.suffix_refl _)
      exact (hk.asked q _ (hsame.trans hmid.symm)).trans hlast
    · exact ih hrest hmid h₁ hfrom hto

/-- Without a change a setup is told the same. -/
theorem alike_of_suffix (hle : h <:+ h') (hsame : changes h' = changes h) :
    (k.card h fd).Alike (k.card h' fd) := by
  obtain ⟨new, rfl⟩ := hle
  induction new with
  | nil => exact .refl _
  | cons ev new ih =>
    have hmid : changes (new ++ h) = changes h :=
      hk.eq_between hsame (List.suffix_append new h) (List.suffix_cons ev (new ++ h))
    exact (ih hmid).trans (hk.alike ev _ _ (hsame.trans hmid.symm))

end Kernel.Announces

/-- The changes of a scripted kernel are those from outside. -/
theorem Kernel.scripted_announces (card : ℕ → Card) (bo fb set : History → Bool) :
    (scripted card bo fb set).Announces hotplugs where
  mono ev h := List.count_le_count_cons
  asked q h _ := by simp [scripted, hotplugs]
  alike ev h fd hsame := by
    rw [scripted]
    dsimp only
    rw [hsame]
    exact .refl _

/-! ## Settled devices -/

/-- Setting the device up for a card would leave the CRTCs of its connectors and
    its CRTCs as they are. -/
structure DriDevice.Settled (card : Card) (confMode : Size) (d : DriDevice) : Prop where
  connectors : ∀ c ∈ d.connectorList, (c.setUp card).crtcId = c.crtcId
  crtcs : ∀ c ∈ d.crtcList, c.setUp card confMode (d.connectorList.map (·.connectorId)) = c

namespace DrmCrtc

variable {card card' : Card} {confMode : Size} {connIds : List ℕ} {c c' : DrmCrtc}

theorem setUp_of_alike (ha : card.Alike card') :
    c.setUp card' confMode connIds = c.setUp card confMode connIds := by
  have hgives : card'.gives = card.gives := funext ha.gives
  have hmodes : card'.modes = card.modes := funext ha.modes
  have htake : (c.take card' confMode ·) = (c.take card confMode ·) := by
    funext id
    rw [take, Card.minMode, Card.maxMode, hmodes]
    rfl
  rw [setUp, Card.lastGiven, hgives, htake]
  rfl

/-- A CRTC that was set up is not changed by another setup. -/
theorem setUp_setUp : (c.setUp card confMode connIds).setUp card confMode connIds =
    c.setUp card confMode connIds := by
  rcases hgiven : card.lastGiven connIds c.id with _ | id
  · rw [setUp_of_none hgiven, setUp_of_none hgiven]
  · have hgiven' : card.lastGiven connIds (c.setUp card confMode connIds).id = some id := by
      rw [id_setUp, hgiven]
    rw [setUp_of_some hgiven', setUp_of_some hgiven]

/-- Nor is one with another framebuffer. -/
theorem Rescanned.setUp_eq (hc : c.Rescanned c') (hset : c.setUp card confMode connIds = c) :
    c'.setUp card confMode connIds = c' := by
  obtain ⟨fbId, bo, heq⟩ := hc
  have hid : c'.id = c.id := by rw [heq]; rfl
  rcases hgiven : card.lastGiven connIds c'.id with _ | id
  · exact setUp_of_none hgiven
  · rw [setUp_of_some (hid ▸ hgiven)] at hset
    rw [setUp_of_some hgiven, heq, ← hset]

end DrmCrtc

namespace DriDevice

variable {card card' : Card} {confMode : Size} {d d' : DriDevice}

theorem settled_empty : Settled card confMode {} := by
  constructor <;> simp

/-- A device that was set up is settled. -/
theorem settled_setUp (d : DriDevice) (card : Card) (confMode : Size) :
    (d.setUp card confMode).Settled card confMode := by
  have hids : (d.setUp card confMode).connectorList.map (·.connectorId) =
      d.connectorList.map (·.connectorId) := by
    rw [setUp, List.map_map]
    exact List.map_congr_left fun c _ => c.connectorId_setUp card
  constructor
  · rw [setUp, List.forall_mem_map]
    intro c _
    change (if card.gives (c.setUp card).connectorId = 0 then (c.setUp card).crtcId
      else card.gives (c.setUp card).connectorId) = (c.setUp card).crtcId
    rw [DrmConnector.connectorId_setUp]
    split
    · rfl
    next hne => exact (if_neg hne).symm
  · rw [hids, setUp, List.forall_mem_map]
    exact fun c _ => DrmCrtc.setUp_setUp

theorem Settled.alike (hd : d.Settled card confMode) (ha : card.Alike card') :
    d.Settled card' confMode := by
  constructor
  · intro c hc
    have hset := hd.connectors c hc
    rw [DrmConnector.setUp] at hset ⊢
    rwa [ha.gives]
  · intro c hc
    rw [DrmCrtc.setUp_of_alike ha]
    exact hd.crtcs c hc

/-- Asking the connectors and giving the CRTCs framebuffers unsettles nothing. -/
theorem Settled.rescanned (hd : d.Settled card confMode)
    (hconns : List.Forall₂ DrmConnector.Refreshed d.connectorList d'.connectorList)
    (hcrtcs : List.Forall₂ DrmCrtc.Rescanned d.crtcList d'.crtcList) :
    d'.Settled card confMode := by
  have hids := ids_of_refreshed hconns
  constructor
  · intro c' hc'
    obtain ⟨c, hc, hcc'⟩ := Prog.exists_rel_of_mem hconns hc'
    have hset := hd.connectors c hc
    rw [DrmConnector.setUp] at hset ⊢
    rwa [hcc'.connectorId, hcc'.crtcId]
  · intro c' hc'
    obtain ⟨c, hc, hcc'⟩ := Prog.exists_rel_of_mem hcrtcs hc'
    rw [hids]
    exact hcc'.setUp_eq (hd.crtcs c hc)

/-- What a setup determines of a device: the CRTCs of its connectors, and the
    connectors, the least and the greatest size of each of its CRTCs. -/
structure View where
  crtcIds : List ℕ
  crtcs : List (List ℕ × Size × Size)
  deriving DecidableEq, Repr

def view (d : DriDevice) : View :=
  ⟨d.connectorList.map (·.crtcId), d.crtcList.map fun c => (c.connectors, c.min, c.max)⟩

theorem Settled.crtcList_setUp (hd : d.Settled card confMode) :
    (d.setUp card confMode).crtcList = d.crtcList := by
  conv_rhs => rw [← List.map_id d.crtcList]
  exact List.map_congr_left hd.crtcs

theorem Settled.view_setUp (hd : d.Settled card confMode) :
    (d.setUp card confMode).view = d.view := by
  have hconns : (d.setUp card confMode).connectorList.map (·.crtcId) =
      d.connectorList.map (·.crtcId) := by
    rw [setUp, List.map_map]
    exact List.map_congr_left hd.connectors
  rw [view, view, hconns, hd.crtcList_setUp]

end DriDevice

/-! ## Updates -/

namespace DRIElements

variable {e : DRIElements}

/-- What updates determine of all devices. -/
def view (e : DRIElements) : List (String × DriDevice.View) :=
  e.mDeviceList.map fun p => (p.1, p.2.view)

/-- The primary device is there. -/
def Present (e : DRIElements) : Prop := (e.mDeviceList.lookup e.mPrimaryDev).isSome

theorem present_setPrimary (d : DriDevice) : (e.setPrimary d).Present := by
  rw [Present, setPrimary, lookup_mapSet, beq_self_eq_true, if_pos rfl]
  rfl

theorem Present.lookup (he : e.Present) : e.mDeviceList.lookup e.mPrimaryDev = some e.primary := by
  obtain ⟨d, hd⟩ := Option.isSome_iff_exists.1 he
  rw [primary, hd, Option.getD_some]

theorem touch_setPrimary (d : DriDevice) : (e.setPrimary d).touch = e.setPrimary d := by
  rw [touch, primary_setPrimary, setPrimary_setPrimary]

theorem view_setPrimary (he : e.Present) {d : DriDevice} (hd : d.view = e.primary.view) :
    (e.setPrimary d).view = e.view := by
  obtain ⟨pre, post, hl, hset⟩ := exists_mapSet_eq e.mPrimaryDev e.mDeviceList
  rw [he.lookup] at hl
  rw [view, view, setPrimary, hset, hl]
  simp [hd]

end DRIElements

namespace ValVideoImpl

variable {v v' : ValVideoImpl} {card card' : Card} {caps : DeviceCapability}

/-- What updates determine: the devices, as far as setups do, and the windows. -/
structure View where
  devices : List (String × DriDevice.View)
  logicalPlanes : List ValPlane
  deriving DecidableEq, Repr

def view (v : ValVideoImpl) : View := ⟨v.driElements.view, v.logicalPlanes⟩

/-- The primary device is there, and its objects can be told apart. -/
structure Ready (v : ValVideoImpl) : Prop where
  present : v.driElements.Present
  sane : v.driElements.primary.Sane

/-- An update of the primary device would change nothing of what it determines. -/
structure Settled (card : Card) (v : ValVideoImpl) : Prop where
  device : v.driElements.primary.Settled card v.driElements.mInitialMode
  windows : ∀ p ∈ v.logicalPlanes, v.renewed p = p

/-- The second of two callbacks finds nothing to renew. -/
theorem renewed_renewed (v : ValVideoImpl) (p : ValPlane) :
    v.renewed (v.renewed p) = v.renewed p := by
  rcases hc : v.crtcOf p.wId with _ | c
  · have hp : v.renewed p = p := by rw [renewed, hc]
    rw [hp, hp]
  · by_cases hle : v.mDeviceCapability.mMaxResolution.h ≥ c.max.h ∨
        v.mDeviceCapability.mMaxResolution.w ≥ c.max.w
    · have hp (q : ValPlane) (hq : q.wId = p.wId) : v.renewed q = { q with maxSizeT := c.max } := by
        rw [renewed, hq, hc]
        exact if_pos hle
      rw [hp _ (wId_renewed p), hp p rfl]
    · have hp : v.renewed p = p := by
        rw [renewed, hc]
        exact if_neg hle
      rw [hp, hp]

/-- What a window is renewed to depends on the sinks, the limits and the CRTCs. -/
theorem renewed_congr (hsinks : v'.videoSinks = v.videoSinks)
    (hcaps : v'.mDeviceCapability = v.mDeviceCapability)
    (hcrtcs : v'.driElements.primary.crtcList = v.driElements.primary.crtcList) (p : ValPlane) :
    v'.renewed p = v.renewed p := by
  have hcrtc : v'.crtcOf p.wId = v.crtcOf p.wId := by
    simp only [crtcOf, hsinks, DRIElements.namedCrtc, hcrtcs]
  rw [renewed, renewed, hcrtc, hcaps]

/-- The callback renews the windows, and nothing else. -/
theorem updatePlanes_renews (he : ReadCrtcs v.driElements.primary.crtcList)
    (htouch : v.driElements.touch = v.driElements) (hr : v.updatePlanes k h = .ok (v', h')) :
    h' = h ∧ v'.driElements = v.driElements ∧ v'.videoSinks = v.videoSinks ∧
      v'.mDeviceCapability = v.mDeviceCapability ∧
        v'.logicalPlanes = v.logicalPlanes.map v'.renewed := by
  obtain ⟨_, heq, hor⟩ := updatePlanes_eq_ok hr
  have helements : v'.driElements = v.driElements := hor.elim id fun hto => hto.trans htouch
  have hplanes := logicalPlanes_updatePlanes he hr
  refine ⟨?_, helements, by rw [heq], by rw [heq], ?_⟩
  · simp only [updatePlanes, Prog.bind_eq_ok, Prog.pure_eq_ok] at hr
    obtain ⟨⟨planes, _⟩, h₁, hloop, hr⟩ := hr
    cases hr
    refine Prog.forEach_invariant (fun _ l => l = h) (fun p _ s p' s' l l' hl hf => ?_) rfl hloop
    simp only [Prog.bind_eq_ok, Prog.pure_eq_ok] at hf
    obtain ⟨p₁, _, hp, hf⟩ := hf
    cases hf
    exact (updatePlane_eq he hp).2.trans hl
  · rw [hplanes]
    refine List.map_congr_left fun p _ => (renewed_congr ?_ ?_ ?_ p).symm
    · rw [heq]
    · rw [heq]
    · rw [helements]

/-- An update sets up the primary device, and renews the windows. -/
theorem updateDevice_primary (hv : v.Ready)
    (hr : v.updateDevice v.driElements.mPrimaryDev k h = .ok (v', h')) :
    ∃ d, v.driElements.primary.setupDevice v.driElements.mInitialMode k h = .ok (d, h') ∧
      v'.driElements = v.driElements.setPrimary d ∧ v'.videoSinks = v.videoSinks ∧
        v'.mDeviceCapability = v.mDeviceCapability ∧
          v'.logicalPlanes = v.logicalPlanes.map v'.renewed := by
  obtain ⟨called, e', h₁, hu, hr⟩ := updateDevice_eq_ok hr
  rw [DRIElements.updateDevice, hv.present.lookup] at hu
  simp only [Prog.bind_eq_ok, Prog.pure_eq_ok, DRIElements.confMode_eq] at hu
  obtain ⟨d, h₂, hs, hu⟩ := hu
  cases hu
  rw [if_pos rfl] at hr
  have hread : ReadCrtcs (v.driElements.setPrimary d).primary.crtcList := by
    rw [DRIElements.primary_setPrimary]
    exact (DriDevice.sane_of_setupDevice hv.sane hs).readCrtcs
  obtain ⟨rfl, hrest⟩ := updatePlanes_renews hread (DRIElements.touch_setPrimary d) hr
  exact ⟨d, hs, hrest⟩

theorem ready_updateDevice (hv : v.Ready)
    (hr : v.updateDevice v.driElements.mPrimaryDev k h = .ok (v', h')) : v'.Ready := by
  obtain ⟨d, hs, helements, _⟩ := updateDevice_primary hv hr
  constructor
  · rw [helements]
    exact DRIElements.present_setPrimary d
  · rw [helements, DRIElements.primary_setPrimary]
    exact DriDevice.sane_of_setupDevice hv.sane hs

variable {changes : History → ℕ}

theorem suffix_updateDevice (hv : v.Ready)
    (hr : v.updateDevice v.driElements.mPrimaryDev k h = .ok (v', h')) : h <:+ h' := by
  obtain ⟨d, hs, _⟩ := updateDevice_primary hv hr
  obtain ⟨new, rfl, _⟩ := DriDevice.asks_setupDevice _ _ _ _ _ _ hs
  exact List.suffix_append new h

/-- While nothing changes, an update is a function of the card. -/
theorem updateDevice_still (hk : k.Announces changes) (hv : v.Ready)
    (hsame : changes h' = changes h)
    (hr : v.updateDevice v.driElements.mPrimaryDev k h = .ok (v', h')) :
    v'.driElements = v.driElements.setPrimary
        (v.driElements.primary.setUp (v.driElements.card k h) v.driElements.mInitialMode) ∧
      v'.videoSinks = v.videoSinks ∧ v'.mDeviceCapability = v.mDeviceCapability ∧
        v'.logicalPlanes = v.logicalPlanes.map v'.renewed ∧ k.Still h h' := by
  obtain ⟨d, hs, helements, hsinks, hcaps, hplanes⟩ := updateDevice_primary hv hr
  obtain ⟨new, rfl, hnew⟩ := DriDevice.asks_setupDevice _ _ _ _ _ _ hs
  have hstill := hk.still hnew hsame
  obtain rfl := DriDevice.setupDevice_still hstill hv.sane hs
  exact ⟨helements, hsinks, hcaps, hplanes, hstill⟩

/-- After an update during which nothing changed, the device is settled. -/
theorem settled_updateDevice (hk : k.Announces changes) (hv : v.Ready)
    (hsame : changes h' = changes h)
    (hr : v.updateDevice v.driElements.mPrimaryDev k h = .ok (v', h')) :
    v'.Settled (v'.driElements.card k h') := by
  obtain ⟨helements, _, _, hplanes, hstill⟩ := updateDevice_still hk hv hsame hr
  have hcard : v'.driElements.card k h' = v.driElements.card k h := by
    rw [helements, DRIElements.card, DRIElements.primary_setPrimary]
    exact congrFun (hstill h' (suffix_updateDevice hv hr) (List.suffix_refl _)) _
  constructor
  · rw [hcard, helements, DRIElements.primary_setPrimary]
    exact DriDevice.settled_setUp _ _ _
  · rw [hplanes, List.forall_mem_map]
    exact fun p _ => v'.renewed_renewed p

/-- An update of a settled device changes nothing of what it determines. -/
theorem view_updateDevice (hk : k.Announces changes) (hv : v.Ready)
    (hset : v.Settled (v.driElements.card k h)) (hsame : changes h' = changes h)
    (hr : v.updateDevice v.driElements.mPrimaryDev k h = .ok (v', h')) : v'.view = v.view := by
  obtain ⟨helements, hsinks, hcaps, hplanes, _⟩ := updateDevice_still hk hv hsame hr
  have hdevices : v'.driElements.view = v.driElements.view := by
    rw [helements]
    exact DRIElements.view_setPrimary hv.present hset.device.view_setUp
  have hcrtcs : v'.driElements.primary.crtcList = v.driElements.primary.crtcList := by
    rw [helements, DRIElements.primary_setPrimary, hset.device.crtcList_setUp]
  have hwindows : v'.logicalPlanes = v.logicalPlanes := by
    rw [hplanes]
    conv_rhs => rw [← List.map_id v.logicalPlanes]
    refine List.map_congr_left fun p hp => ?_
    rw [renewed_congr hsinks hcaps hcrtcs]
    exact hset.windows p hp
  rw [view, view, hdevices, hwindows]

end ValVideoImpl

/-! ## The constructor -/

/-- The constructor leaves the primary device settled if nothing changed while
    it ran. -/
theorem DRIElements.settled_new {changes : History → ℕ} {defMode : Size} {e : DRIElements}
    (hk : k.Announces changes) (hs : k.Sane) (hnew : new defMode k [] = .ok (e, h))
    (hsame : changes h = changes []) : e.primary.Settled (e.card k h) e.mInitialMode := by
  obtain ⟨e₀, h₀, hload, hnew⟩ := new_eq_ok hnew
  obtain ⟨⟨devices, rfl⟩, _, huntouched⟩ := loadResources_spec rfl hload
  rcases hnew with ⟨rfl, rfl, hnone⟩ | ⟨name, d₀, d₁, d₂, h₁, _, hd₀, hsetup, hmodes, rfl⟩
  · obtain rfl : devices = [] := hnone
    exact DriDevice.settled_empty
  obtain ⟨new, rfl, hnewq⟩ := DriDevice.asks_setupDevice _ _ _ _ _ _ hsetup
  have hle₁ : h₀ <:+ new ++ h₀ := List.suffix_append new h₀
  have hle₂ : new ++ h₀ <:+ h := suffix_of_setActiveModes hmodes
  -- nothing changed during the setup, nor since
  have hsame₀ : changes h₀ = changes [] :=
    hk.eq_between hsame (List.nil_suffix) (hle₁.trans hle₂)
  have hsame₁ : changes (new ++ h₀) = changes [] := hk.eq_between hsame (List.nil_suffix) hle₂
  have hstill := hk.still hnewq (hsame₁.trans hsame₀.symm)
  have hd₀' := (huntouched hs _ (Lists.mem_of_lookup hd₀)).sane
  rw [confMode_eq] at hsetup
  obtain rfl := DriDevice.setupDevice_still hstill hd₀' hsetup
  have hremoded := remoded_of_setActiveModes hmodes
  have hset := (d₀.settled_setUp (k.card h₀ d₀.drmModuleFd) defMode).rescanned hremoded.connectors
    (rescanned_of_setActiveModes hmodes)
  have hprimary : primary ⟨name, mapSet name d₂ devices, defMode, defMode⟩ = d₂ := by
    rw [primary, lookup_mapSet, beq_self_eq_true, if_pos rfl, Option.getD_some]
  have hfd : d₂.drmModuleFd = d₀.drmModuleFd := by rw [hremoded.rest]; rfl
  rw [DRIElements.card, hprimary, hfd]
  exact hset.alike (hk.alike_of_suffix (hle₁.trans hle₂) (hsame.trans hsame₀.symm))

namespace ValVideoImpl

variable {v : ValVideoImpl} {caps : DeviceCapability} {changes : History → ℕ}

theorem settled_new (hk : k.Announces changes) (hs : k.Sane)
    (hnew : new caps k [] = .ok (v, h)) : v.Ready ∧
      (changes h = changes [] → v.Settled (v.driElements.card k h)) := by
  obtain ⟨e, h₁, he, hinit⟩ := new_eq_ok hnew
  obtain ⟨physical, sinks, hp⟩ := init_updatePlanes hinit
  have hsane : e.touch.primary.Sane := by
    rw [DRIElements.primary_touch]
    exact (DRIElements.kept_new hs he).sane
  obtain ⟨rfl, helements, _, _, hplanes⟩ :=
    updatePlanes_renews hsane.readCrtcs (DRIElements.touch_setPrimary _) hp
  refine ⟨⟨?_, ?_⟩, fun hsame => ⟨?_, ?_⟩⟩
  · rw [helements]
    exact DRIElements.present_setPrimary _
  · rw [helements]
    exact hsane
  · have hset := DRIElements.settled_new hk hs he hsame
    rw [helements, DRIElements.card, DRIElements.primary_touch]
    exact hset
  · rw [hplanes, List.forall_mem_map]
    exact fun p _ => v.renewed_renewed p

end ValVideoImpl

/-! ## The poll loop -/

/-- `pollDRIDevices`: the device that the monitor returns is updated, if there is one. -/
def pollDRIDevices (v : ValVideoImpl) : Option String → Act ValVideoImpl
  | some node => v.updateDevice node
  | none => pure v

/-- The object, with what happened so far and how many events were taken off the
    queue of the monitor. -/
structure Watch where
  video : ValVideoImpl
  past : History
  taken : ℕ

namespace Watch

variable {changes : History → ℕ} {s s' : Watch}

/-- How many events are queued: one for each change, unless it was taken. -/
def queued (changes : History → ℕ) (s : Watch) : ℕ := changes s.past - s.taken

/-- The device that the monitor returns. All events name the primary card. -/
def received (changes : History → ℕ) (s : Watch) : Option String :=
  if 0 < s.queued changes then some s.video.driElements.mPrimaryDev else none

/-- Whose turn it is: changes between two polls, or a poll. -/
inductive Turn
  | change
  | poll
  deriving DecidableEq, Repr

def Step (k : Kernel) (changes : History → ℕ) (s : Watch) : Turn → Watch → Prop
  | .change, s' => s' = { s with past := .hotplug :: s.past }
  | .poll, s' =>
    pollDRIDevices s.video (s.received changes) k s.past = .ok (s'.video, s'.past) ∧
      s'.taken = s.taken + (s.received changes).toList.length

/-- A poll updates the primary device, if an event is queued. -/
theorem poll_cases (hstep : Step k changes s .poll s') :
    (s.queued changes = 0 ∧ s' = s) ∨
      0 < s.queued changes ∧ s'.taken = s.taken + 1 ∧
        s.video.updateDevice s.video.driElements.mPrimaryDev k s.past =
          .ok (s'.video, s'.past) := by
  obtain ⟨hpoll, htaken⟩ := hstep
  rcases Nat.eq_zero_or_pos (s.queued changes) with hzero | hpos
  · rw [received, if_neg (by omega)] at hpoll htaken
    obtain ⟨video, past, taken⟩ := s'
    obtain ⟨rfl, rfl⟩ := Prod.mk.inj (Prog.pure_eq_ok.1 hpoll)
    obtain rfl : taken = s.taken := htaken
    exact .inl ⟨hzero, rfl⟩
  · rw [received, if_pos hpos] at hpoll htaken
    exact .inr ⟨hpos, htaken, hpoll⟩

theorem poll_of_queued {v : ValVideoImpl} (hpos : 0 < s.queued changes)
    (hu : s.video.updateDevice s.video.driElements.mPrimaryDev k s.past = .ok (v, h)) :
    Step k changes s .poll ⟨v, h, s.taken + 1⟩ := by
  rw [Step, received, if_pos hpos]
  exact ⟨hu, rfl⟩

/-- The device is settled on the card as it is. -/
def Settled (k : Kernel) (s : Watch) : Prop :=
  s.video.Settled (s.video.driElements.card k s.past)

/-- No more events were taken than there were changes, and if all were the device
    is settled. -/
structure Sound (k : Kernel) (changes : History → ℕ) (s : Watch) : Prop where
  ready : s.video.Ready
  taken : s.taken ≤ changes s.past
  settled : s.taken = changes s.past → s.Settled k

/-- Changes that were there before are there after a step. -/
theorem le_step (hk : k.Announces changes) (hs : s.video.Ready) {turn : Turn}
    (hstep : Step k changes s turn s') : changes s.past ≤ changes s'.past := by
  cases turn with
  | change =>
    obtain rfl := hstep
    exact hk.mono _ _
  | poll =>
    rcases poll_cases hstep with ⟨_, rfl⟩ | ⟨_, _, hu⟩
    · exact le_rfl
    · exact hk.le_of_suffix (ValVideoImpl.suffix_updateDevice hs hu)

theorem ready_step (hs : s.video.Ready) {turn : Turn} (hstep : Step k changes s turn s') :
    s'.video.Ready := by
  cases turn with
  | change =>
    obtain rfl := hstep
    exact hs
  | poll =>
    rcases poll_cases hstep with ⟨_, rfl⟩ | ⟨_, _, hu⟩
    · exact hs
    · exact ValVideoImpl.ready_updateDevice hs hu

/-- While nothing changes, a settled device stays settled, and nothing that
    updates determine changes. -/
theorem settled_step (hk : k.Announces changes) (hs : s.video.Ready) (hset : s.Settled k)
    {turn : Turn} (hstep : Step k changes s turn s') (hsame : changes s'.past = changes s.past) :
    s'.Settled k ∧ s'.video.view = s.video.view := by
  cases turn with
  | change =>
    obtain rfl := hstep
    exact ⟨⟨hset.device.alike (hk.alike _ _ _ hsame), hset.windows⟩, rfl⟩
  | poll =>
    rcases poll_cases hstep with ⟨_, rfl⟩ | ⟨_, _, hu⟩
    · exact ⟨hset, rfl⟩
    · exact ⟨ValVideoImpl.settled_updateDevice hk hs hsame hu,
        ValVideoImpl.view_updateDevice hk hs hset hsame hu⟩

theorem sound_step (hk : k.Announces changes) (hs : s.Sound k changes) {turn : Turn}
    (hstep : Step k changes s turn s') : s'.Sound k changes := by
  have hle := le_step hk hs.ready hstep
  have htaken := hs.taken
  refine ⟨ready_step hs.ready hstep, ?_, fun hall => ?_⟩
  · cases turn with
    | change =>
      obtain rfl := hstep
      exact htaken.trans hle
    | poll =>
      rcases poll_cases hstep with ⟨_, rfl⟩ | ⟨hpos, htaken', _⟩
      · exact htaken
      · rw [queued] at hpos
        omega
  · cases turn with
    | change =>
      -- no event was queued before, and none came
      have htaken' : s'.taken = s.taken := by rw [show s' = _ from hstep]
      have hsame : s.taken = changes s.past := by omega
      exact (settled_step hk hs.ready (hs.settled hsame) hstep (by omega)).1
    | poll =>
      rcases poll_cases hstep with ⟨_, rfl⟩ | ⟨hpos, htaken', hu⟩
      · exact hs.settled hall
      · -- the last event was taken, and none came
        rw [queued] at hpos
        exact ValVideoImpl.settled_updateDevice hk hs.ready (by omega) hu

theorem le_run (hk : k.Announces changes) (hs : s.video.Ready) {turns : List Turn}
    (hrun : Run (Step k changes) s turns s') :
    s'.video.Ready ∧ changes s.past ≤ changes s'.past := by
  refine hrun.invariant (fun s' => s'.video.Ready ∧ changes s.past ≤ changes s'.past)
    ⟨hs, le_rfl⟩ ?_
  rintro s₁ turn s₂ ⟨hs₁, hle₁⟩ hstep
  exact ⟨ready_step hs₁ hstep, hle₁.trans (le_step hk hs₁ hstep)⟩

/-- While nothing changes, polls of a settled device change nothing that updates
    determine. -/
theorem view_run (hk : k.Announces changes) (hs : s.video.Ready) (hset : s.Settled k)
    {turns : List Turn} (hrun : Run (Step k changes) s turns s')
    (hsame : changes s'.past = changes s.past) : s'.Settled k ∧ s'.video.view = s.video.view := by
  induction hrun with
  | nil => exact ⟨hset, rfl⟩
  | step hrun hstep ih =>
    -- nothing changed before the last step either
    obtain ⟨hs₁, hle₁⟩ := le_run hk hs hrun
    have hle₂ := le_step hk hs₁ hstep
    obtain ⟨hset₁, hview₁⟩ := ih (by omega)
    obtain ⟨hset₂, hview₂⟩ := settled_step hk hs₁ hset₁ hstep (by omega)
    exact ⟨hset₂, hview₂.trans hview₁⟩

variable {caps : DeviceCapability} {v₀ : ValVideoImpl} {h₀ : History} {turns : List Turn}

theorem sound_of_run (hk : k.Announces changes) (hs : k.Sane)
    (hnew : ValVideoImpl.new caps k [] = .ok (v₀, h₀))
    (hrun : Run (Step k changes) ⟨v₀, h₀, changes []⟩ turns s) : s.Sound k changes := by
  obtain ⟨hready, hset⟩ := ValVideoImpl.settled_new hk hs hnew
  have hsound : Sound k changes ⟨v₀, h₀, changes []⟩ :=
    ⟨hready, hk.le_of_suffix List.nil_suffix, fun hall => hset hall.symm⟩
  exact hrun.invariant (Sound k changes) hsound fun _ _ _ hinv hstep => sound_step hk hinv hstep

/-- If no event is queued, no change was missed: an update of the primary device
    would change nothing that updates determine. And after the update for one
    event, those for further events change nothing as long as the cards stay as
    they are. -/
theorem nothing_missed_of_run (hk : k.Announces changes) (hs : k.Sane)
    (hnew : ValVideoImpl.new caps k [] = .ok (v₀, h₀))
    (hrun : Run (Step k changes) ⟨v₀, h₀, changes []⟩ turns s) :
    (s.queued changes = 0 → ∀ v' h',
      s.video.updateDevice s.video.driElements.mPrimaryDev k s.past = .ok (v', h') →
        changes h' = changes s.past → v'.view = s.video.view) ∧
    (∀ s₁ s₂ turns', 0 < s.queued changes → Step k changes s .poll s₁ →
      Run (Step k changes) s₁ turns' s₂ → changes s₂.past = changes s.past →
        s₂.video.view = s₁.video.view) := by
  have hsound := sound_of_run hk hs hnew hrun
  have htaken := hsound.taken
  refine ⟨fun hzero v' h' hu hsame => ?_, fun s₁ s₂ turns' hpos hpoll hrun' hsame => ?_⟩
  · rw [queued] at hzero
    exact ValVideoImpl.view_updateDevice hk hsound.ready (hsound.settled (by omega)) hsame hu
  · rcases poll_cases hpoll with ⟨hzero, _⟩ | ⟨_, _, hu⟩
    · omega
    have hready := ready_step hsound.ready hpoll
    have hle := le_step hk hsound.ready hpoll
    have hle' := (le_run hk hready hrun').2
    -- nothing changed during the first update
    have hset : s₁.Settled k :=
      ValVideoImpl.settled_updateDevice hk hsound.ready (by omega) hu
    exact (view_run hk hready hset hrun' (by omega)).2

/-- A display that is replaced by a greater one, with two events for it: the first
    update takes its modes, and those after it find nothing to do. -/
theorem nothing_missed_of_run_greater_display : ∃ k : Kernel, k.Announces hotplugs ∧ k.Sane ∧
    ∃ v₀ h₀ s s₁ s₂ v' h', ValVideoImpl.new .fullHd k [] = .ok (v₀, h₀) ∧
      Run (Step k hotplugs) ⟨v₀, h₀, hotplugs []⟩ [.change, .change] s ∧
      s.queued hotplugs = 2 ∧ Step k hotplugs s .poll s₁ ∧ s₁.video.view ≠ v₀.view ∧
      Step k hotplugs s₁ .poll s₂ ∧ s₂.queued hotplugs = 0 ∧ s₂.video.view = s₁.video.view ∧
      s₂.video.updateDevice s₂.video.driElements.mPrimaryDev k s₂.past = .ok (v', h') ∧
      v'.view = s₂.video.view := by
  let k : Kernel := .willing fun n => if n = 0 then .smallDisplay else .oneDisplay
  have hk : k.Announces hotplugs := Kernel.scripted_announces _ _ _ _
  have hs : k.Sane := by
    refine Kernel.scripted_sane _ _ _ _ fun n => ?_
    split
    exacts [Card.smallDisplay_sane, Card.oneDisplay_sane]
  have hobs : (ValVideoImpl.new .fullHd k []).map (fun (s : ValVideoImpl × History) =>
      (s.1.updateDevice s.1.driElements.mPrimaryDev k (.hotplug :: .hotplug :: s.2)).map fun r =>
        (r.1.updateDevice r.1.driElements.mPrimaryDev k r.2).map fun u =>
          (u.1.updateDevice u.1.driElements.mPrimaryDev k u.2).map fun w =>
            decide (hotplugs s.2 = 0 ∧ r.1.view ≠ s.1.view ∧ hotplugs r.2 = 2 ∧
              hotplugs u.2 = 2 ∧ hotplugs w.2 = 2)) =
      .ok (.ok (.ok (.ok true))) := by
    decide +kernel
  obtain ⟨⟨v₀, h₀⟩, hnew, hobs⟩ := Prog.exists_of_map_eq_ok hobs
  obtain ⟨⟨v₁, h₁⟩, hfirst, hobs⟩ := Prog.exists_of_map_eq_ok hobs
  obtain ⟨⟨v₂, h₂⟩, hsecond, hobs⟩ := Prog.exists_of_map_eq_ok hobs
  obtain ⟨⟨v', h'⟩, hthird, hobs⟩ := Prog.exists_of_map_eq_ok hobs
  obtain ⟨hnone, hview, htwo, htwo', htwo''⟩ := of_decide_eq_true hobs
  let s : Watch := ⟨v₀, .hotplug :: .hotplug :: h₀, hotplugs []⟩
  let s₁ : Watch := ⟨v₁, h₁, 1⟩
  let s₂ : Watch := ⟨v₂, h₂, 2⟩
  have hpast : hotplugs s.past = 2 := by
    rw [show s.past = .hotplug :: .hotplug :: h₀ from rfl, hotplugs, List.count_cons_self,
      List.count_cons_self]
    exact congrArg (· + 2) hnone
  have hqueued : s.queued hotplugs = 2 := by rw [queued, hpast]; rfl
  have hpoll₁ : Step k hotplugs s .poll s₁ := poll_of_queued (by omega) hfirst
  have hpoll₂ : Step k hotplugs s₁ .poll s₂ := by
    refine poll_of_queued ?_ hsecond
    rw [queued, show hotplugs s₁.past = 2 from htwo]
    exact Nat.one_pos
  have hqueued₂ : s₂.queued hotplugs = 0 := by
    rw [queued, show hotplugs s₂.past = 2 from htwo']
    rfl
  have hchanges : Run (Step k hotplugs) ⟨v₀, h₀, hotplugs []⟩ [.change, .change] s :=
    .step (.step .nil rfl) rfl
  have hrun := nothing_missed_of_run hk hs hnew hchanges
  have hrun₂ := nothing_missed_of_run hk hs hnew (.step (.step hchanges hpoll₁) hpoll₂)
  refine ⟨k, hk, hs, v₀, h₀, s, s₁, s₂, v', h', hnew, hchanges, hqueued, hpoll₁,
    hview, hpoll₂, hqueued₂, ?_, hthird, ?_⟩
  · exact hrun.2 s₁ s₂ _ (by omega) hpoll₁ (.step .nil hpoll₂) (htwo'.trans hpast.symm)
  · exact hrun₂.1 hqueued₂ v' h' hthird (htwo''.trans htwo'.symm)

end Watch

end ValRpi
