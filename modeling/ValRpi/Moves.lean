import Mathlib.Logic.Relation
import ValRpi.Lookups
import ValRpi.Ownership
import ValRpi.Renewal
import ValRpi.Scaling

/-!
# Moves

An abstract machine of the CRTCs of the primary device and of what happened. It
notes what changes nothing, gives a CRTC other connectors and sizes, and makes a
framebuffer for a CRTC and shows it, or fails to where the CRTC has none (`Move`).

* `moves_of_run`: the library is such a machine, as long as every request for a mode is
  for a CRTC that owns no framebuffer or is granted the new one (`Supplied`). Such a run of
  it is a sequence of moves, from CRTCs that have no framebuffer. Where a CRTC is refused
  what is to replace its own, a pointer to the old buffer is left behind;
* `commands_of_run`: hence all commands of such a run go to the primary device, and so
  do those that destroy the buffers it has.
-/

namespace ValRpi

variable {k : Kernel} {h h' h₁ : History} {fd : ℤ}

/-- The device an event is a command to, if it does more than read. -/
def Event.target : Event → Option ℤ
  | .hotplug => none
  | .query _ => none
  | .createDumb req _ => some req.fd
  | .destroyDumb fd _ => some fd
  | .addFB2 req _ => some req.fd
  | .rmFB fd _ => some fd
  | .setCrtc req _ => some req.fd
  | .setProperty req _ => some req.fd
  | .setPlane req _ => some req.fd

/-- A change from outside, a query, or a property that is set on a device. -/
def Event.Plain (fd : ℤ) : Event → Prop
  | .hotplug => True
  | .query _ => True
  | .setProperty req _ => req.fd = fd
  | _ => False

theorem Event.Plain.of_isQuery {ev : Event} (hev : ev.isQuery) : ev.Plain fd := by
  cases ev with
  | query q => trivial
  | _ => cases hev

theorem idle_of_plain {ev : Event} (hev : ev.Plain fd) :
    Ledger.Idle addsFb removesFb ev ∧ Ledger.Idle createsBo destroysBo ev := by
  cases ev with
  | hotplug => exact ⟨⟨rfl, rfl⟩, ⟨rfl, rfl⟩⟩
  | query q => exact ⟨⟨rfl, rfl⟩, ⟨rfl, rfl⟩⟩
  | setProperty req done => exact ⟨⟨rfl, rfl⟩, ⟨rfl, rfl⟩⟩
  | _ => cases hev

/-- A move, the primary device being open at `fd`. -/
inductive Move (k : Kernel) (fd : ℤ) :
    List DrmCrtc × History → List DrmCrtc × History → Prop
  | note {cs : List DrmCrtc} {h : History} {ev : Event} : ev.Plain fd →
      Move k fd (cs, h) (cs, ev :: h)
  | refit {before after : List DrmCrtc} {c c' : DrmCrtc} {h : History} : c.Refit c' →
      Move k fd (before ++ c :: after, h) (before ++ c' :: after, h)
  | commit {before after : List DrmCrtc} {c c' : DrmCrtc} {width height : ℕ} {m : ℕ × ModeInfo}
      {ret : ℤ} {h h' : History} : c.crtcId = .ok m.1 →
      (c.owned = none ∨ (DrmCrtc.grant k (c.released fd h) fd width height).isSome) →
      c.Committed k fd width height m h ret c' h' →
      Move k fd (before ++ c :: after, h) (before ++ c' :: after, h')

/-- Any number of moves. -/
abbrev Moves (k : Kernel) (fd : ℤ) := Relation.ReflTransGen (Move k fd)

namespace Moves

variable {cs cs' : List DrmCrtc}

theorem notes {new : History} (hnew : ∀ ev ∈ new, ev.Plain fd) :
    Moves k fd (cs, h) (cs, new ++ h) := by
  induction new with
  | nil => exact .refl
  | cons ev new ih =>
    obtain ⟨hev, hnew⟩ := List.forall_mem_cons.1 hnew
    exact (ih hnew).tail (.note hev)

theorem queries {new : History} (hnew : ∀ ev ∈ new, ev.isQuery) :
    Moves k fd (cs, h) (cs, new ++ h) :=
  notes fun ev hev => .of_isQuery (hnew ev hev)

/-- What every move keeps holds after any number of moves. -/
theorem invariant {s s' : List DrmCrtc × History} (Inv : List DrmCrtc × History → Prop)
    (hmove : ∀ s s', Inv s → Move k fd s s' → Inv s') (h0 : Inv s) (hm : Moves k fd s s') :
    Inv s' := by
  induction hm with
  | refl => exact h0
  | tail _ hm ih => exact hmove _ _ ih hm

theorem refits (hcs : List.Forall₂ DrmCrtc.Refit cs cs') : Moves k fd (cs, h) (cs', h) :=
  Prog.forall₂_inPlace (fun cs' => Moves k fd (cs, h) (cs', h))
    (fun _ _ _ _ _ hc hmoves => hmoves.tail (.refit hc)) hcs .refl

end Moves

/-! ## Ids -/

section Ids

variable {before after : List DrmCrtc} {c : DrmCrtc} {id : ℕ}

theorem DrmCrtc.id_of_crtcId (hc : c.crtcId = .ok id) : c.id = id :=
  Except.ok.inj ((c.crtcId_eq (DrmCrtc.isSome_of_crtcId hc)).symm.trans hc)

/-- The other CRTCs have other ids. -/
theorem ids_ne (hids : ((before ++ c :: after).map DrmCrtc.id).Nodup) (hid : c.crtcId = .ok id)
    {a : DrmCrtc} (ha : a ∈ before ++ after) : a.id ≠ id := by
  rw [List.map_append, List.map_cons, List.nodup_middle, List.nodup_cons, ← List.map_append] at hids
  intro heq
  rw [← DrmCrtc.id_of_crtcId hid] at heq
  exact hids.1 (heq ▸ List.mem_map_of_mem ha)

end Ids

/-! ## The state of all cards -/

namespace DRIElements

variable {e e' e₁ : DRIElements}

/-- The state after some moves, on the same primary device. -/
structure Follows (k : Kernel) (e : DRIElements) (h : History) (e' : DRIElements) (h' : History) :
    Prop where
  fd : e'.primary.drmModuleFd = e.primary.drmModuleFd
  moves : Moves k e.primary.drmModuleFd (e.primary.crtcList, h) (e'.primary.crtcList, h')

theorem Follows.refl (e : DRIElements) (h : History) : Follows k e h e h := ⟨rfl, .refl⟩

theorem Follows.trans (h₁₂ : Follows k e h e₁ h₁) (h₂₃ : Follows k e₁ h₁ e' h') :
    Follows k e h e' h' :=
  ⟨h₂₃.fd.trans h₁₂.fd, h₁₂.moves.trans (h₁₂.fd ▸ h₂₃.moves)⟩

/-- The same, without making a framebuffer. -/
structure Noted (e : DRIElements) (h : History) (e' : DRIElements) (h' : History) : Prop where
  fd : e'.primary.drmModuleFd = e.primary.drmModuleFd
  crtcs : List.Forall₂ DrmCrtc.Refit e.primary.crtcList e'.primary.crtcList
  log : ∃ new : History, h' = new ++ h ∧ ∀ ev ∈ new, ev.Plain e.primary.drmModuleFd

theorem Noted.follows (hn : Noted e h e' h') : Follows k e h e' h' := by
  obtain ⟨new, rfl, hnew⟩ := hn.log
  exact ⟨hn.fd, (Moves.notes hnew).trans (Moves.refits hn.crtcs)⟩

theorem Noted.refl (e : DRIElements) (h : History) : Noted e h e h :=
  ⟨rfl, refit_refl _, [], rfl, by simp⟩

theorem Noted.trans (h₁₂ : Noted e h e₁ h₁) (h₂₃ : Noted e₁ h₁ e' h') : Noted e h e' h' := by
  obtain ⟨new₁, rfl, hnew₁⟩ := h₁₂.log
  obtain ⟨new₂, rfl, hnew₂⟩ := h₂₃.log
  refine ⟨h₂₃.fd.trans h₁₂.fd, Prog.forall₂_trans ?_ h₁₂.crtcs h₂₃.crtcs, new₂ ++ new₁,
    (List.append_assoc _ _ _).symm, fun ev hev => ?_⟩
  · exact fun _ _ _ => DrmCrtc.Refit.trans
  · rcases List.mem_append.1 hev with hev | hev
    · exact h₁₂.fd ▸ hnew₂ ev hev
    · exact hnew₁ ev hev

/-- Asking the connectors. -/
theorem Noted.asked (conns : List DrmConnector) {new : History}
    (hnew : ∀ ev ∈ new, ev.Plain e.primary.drmModuleFd) :
    Noted e h (e.asked conns) (new ++ h) := by
  refine ⟨by rw [DRIElements.asked, primary_setPrimary], ?_, new, rfl, hnew⟩
  rw [DRIElements.asked, primary_setPrimary]
  exact refit_refl _

theorem Noted.touch : Noted e h e.touch h := by
  have hnone : ∀ ev ∈ ([] : History), ev.Plain e.primary.drmModuleFd := by simp
  exact .asked _ hnone

/-- An update of a card gives CRTCs other connectors and sizes. -/
theorem noted_updateDevice {name : String} {called : Bool}
    (hr : e.updateDevice name k h = .ok ((called, e'), h')) : Noted e h e' h' := by
  rcases updateDevice_eq_ok hr with ⟨_, rfl, rfl⟩ | ⟨d, d', hd, hs, rfl⟩
  · exact .refl _ _
  obtain ⟨new, rfl, hnew⟩ := DriDevice.asks_setupDevice _ _ _ _ _ _ hs
  have hplain : ∀ ev ∈ new, ev.Plain e.primary.drmModuleFd := fun ev hev =>
    .of_isQuery (hnew ev hev)
  by_cases hname : name = e.mPrimaryDev
  · -- the primary device itself
    subst hname
    have hnow : primary { e with mDeviceList := mapSet e.mPrimaryDev d' e.mDeviceList } = d' :=
      primary_setPrimary e d'
    have hold : e.primary = d := by rw [primary, hd, Option.getD_some]
    refine ⟨?_, ?_, new, rfl, hplain⟩
    · obtain ⟨conns, crtcs, _, _, _, hd'⟩ := DriDevice.setupDevice_eq_ok hs
      rw [hnow, hold, hd']
    · rw [hnow, hold]
      exact (assigned_of_setupDevice hs).imp fun _ _ => DrmCrtc.Assigned.refit
  · have hsame : primary { e with mDeviceList := mapSet name d' e.mDeviceList } = e.primary := by
      rw [primary, primary, lookup_mapSet, if_neg (by simpa using Ne.symm hname)]
    refine ⟨by rw [hsame], ?_, new, rfl, hplain⟩
    rw [hsame]
    exact refit_refl _

/-- The constructor moves from CRTCs as they are loaded. -/
theorem moves_new {defMode : Size} (hr : new defMode k [] = .ok (e, h)) : ∃ cs₀ h₀,
    (∀ c ∈ cs₀, DrmCrtc.Blank c) ∧ (∀ ev ∈ h₀, Event.isQuery ev) ∧
      Moves k e.primary.drmModuleFd (cs₀, h₀) (e.primary.crtcList, h) := by
  refine primary_new (fun cs h => ∃ cs₀ h₀, (∀ c ∈ cs₀, DrmCrtc.Blank c) ∧
    (∀ ev ∈ h₀, Event.isQuery ev) ∧ Moves k e.primary.drmModuleFd (cs₀, h₀) (cs, h))
    (fun cs h hcs hh => ⟨cs, h, hcs, hh, .refl⟩) ?_ ?_ ?_ hr
  · rintro cs new h hnew ⟨cs₀, h₀, hcs₀, hh₀, hmoves⟩
    exact ⟨cs₀, h₀, hcs₀, hh₀, hmoves.trans (Moves.queries hnew)⟩
  · rintro before c c' after h _ hc ⟨cs₀, h₀, hcs₀, hh₀, hmoves⟩
    exact ⟨cs₀, h₀, hcs₀, hh₀, hmoves.tail (.refit hc.refit)⟩
  · rintro before c after h m ret c' h' hbare hid hm ⟨cs₀, h₀, hcs₀, hh₀, hmoves⟩
    exact ⟨cs₀, h₀, hcs₀, hh₀, hmoves.tail (.commit hid (.inl hbare.owned) hm)⟩

end DRIElements

/-! ## The library -/

namespace ValVideoImpl

variable {v v' : ValVideoImpl} {caps : DeviceCapability}

/-- The callback does not call the kernel. -/
theorem updatePlanes_log (hr : v.updatePlanes k h = .ok (v', h')) : h' = h := by
  have hrange (id : ℕ) : Prog.Logs (fun _ : Event => False) (v.driElements.getModeRange id) :=
    .bind (.visitFirst (fun _ => .pure _) _) fun _ => .pure _
  have hplane (p : ValPlane) : Prog.Logs (fun _ : Event => False) (v.updatePlane p) := by
    refine .bind (.lift _) fun sink => .bind (hrange _) fun range => ?_
    rcases range with _ | ⟨min, max⟩
    · exact .pure _
    · dsimp only
      split
      · exact .pure _
      · exact .pure _
  have hlogs : Prog.Logs (fun _ : Event => False) v.updatePlanes :=
    .bind (.forEach (fun p _ => .bind (hplane p) fun _ => .pure _) _ _) fun _ => .pure _
  obtain ⟨new, rfl, hnew⟩ := hlogs _ _ _ _ hr
  rw [List.eq_nil_iff_forall_not_mem.2 hnew, List.nil_append]

theorem noted_updatePlanes (hr : v.updatePlanes k h = .ok (v', h')) :
    DRIElements.Noted v.driElements h v'.driElements h' := by
  obtain rfl := updatePlanes_log hr
  rcases (updatePlanes_eq_ok hr).2.2 with heq | heq
  · rw [heq]
    exact .refl _ _
  · rw [heq]
    exact .touch

theorem noted_getSupportedNumConnector {n : ℕ} {e : DRIElements}
    (hn : v.driElements.getSupportedNumConnector k h = .ok ((n, e), h₁)) :
    DRIElements.Noted v.driElements h e h₁ := by
  obtain ⟨conns, rfl⟩ := DRIElements.asked_of_getSupportedNumConnector hn
  obtain ⟨new, rfl, hnew⟩ := DRIElements.asks_getSupportedNumConnector _ _ _ _ _ hn
  exact .asked conns fun ev hev => .of_isQuery (hnew ev hev)

theorem noted_findTarget {e : DRIElements} {width height : ℕ} {displayPath : UInt8}
    {target : Option Target} {conns : List DrmConnector}
    (ht : e.primary.findTarget width height displayPath k h = .ok ((target, conns), h')) :
    DRIElements.Noted e h (e.asked conns) h' := by
  obtain ⟨new, rfl, hnew⟩ := DriDevice.asks_findTarget _ _ _ _ _ _ _ _ ht
  exact .asked conns fun ev hev => .of_isQuery (hnew ev hev)

/-- The target of a request is a CRTC of the primary device as it was. -/
theorem Reaches.target {win : Size} {displayPath : UInt8} {e : DRIElements}
    {conns : List DrmConnector} {t : Target} {h₂ : History}
    (hreach : Reaches v k h win displayPath e conns t h₂) :
    e.primary.drmModuleFd = v.driElements.primary.drmModuleFd ∧
      v.driElements.primary.crtcList = t.pre ++ t.crtc :: t.post ∧
        t.crtc.crtcId = .ok t.crtcId := by
  obtain ⟨_, n, h₁, hn, _, ht⟩ := hreach
  have hof := (DriDevice.findTarget_spec ht).2 t rfl
  obtain ⟨conns₀, rfl⟩ := DRIElements.asked_of_getSupportedNumConnector hn
  rw [DRIElements.asked, DRIElements.primary_setPrimary] at hof ⊢
  exact ⟨rfl, hof.crtcList, hof.crtcId⟩

/-- The CRTC that a request for a mode gives a new framebuffer, if any, owns none or is
    granted the new one. -/
def Grants (k : Kernel) (s : ValVideoImpl × History) (op : Op) : Prop :=
  ∀ win displayPath e conns t h₂, op = .setDisplayResolution win displayPath →
    Reaches s.1 k s.2 win displayPath e conns t h₂ →
      t.crtc.owned = none ∨ (granted k win e t h₂).isSome

/-- The states reached from the constructor by operations that meet this condition. -/
def Supplied (k : Kernel) (caps : DeviceCapability) (s : ValVideoImpl × History) : Prop :=
  ∃ s₀ ops, new caps k [] = .ok s₀ ∧ Run (Run.when (Grants k) (Step k)) s₀ ops s

theorem Supplied.reachable (hr : Supplied k caps (v, h)) : Reachable k caps (v, h) := by
  obtain ⟨s₀, ops, hnew, hrun⟩ := hr
  exact ⟨s₀, ops, hnew, hrun.of_when⟩

/-- A request for a mode asks, and makes the framebuffer of its target. -/
theorem Outcome.follows {win : Size} {displayPath : UInt8} {r : Bool} {e' : DRIElements}
    (hg : Grants k (v, h) (.setDisplayResolution win displayPath))
    (ho : Outcome v k h win displayPath r e' h') :
    DRIElements.Follows k v.driElements h e' h' := by
  cases ho with
  | invalid _ => exact .refl _ _
  | noDisplay _ hn _ => exact (noted_getSupportedNumConnector hn).follows
  | noTarget _ hn _ ht =>
    exact ((noted_getSupportedNumConnector hn).trans (noted_findTarget ht)).follows
  | @refused e conns t h₂ hreach hrefused =>
    have hcond := hg _ _ _ _ _ _ rfl hreach
    obtain ⟨hfd, hcrtcs, hid⟩ := hreach.target
    obtain ⟨new, rfl, hnew⟩ := hreach.history
    have hlist : (e.asked conns).primary.crtcList = t.pre ++ t.crtc :: t.post := by
      obtain ⟨_, n, h₁, hn, _, ht⟩ := hreach
      rw [DRIElements.asked, DRIElements.primary_setPrimary]
      exact ((DriDevice.findTarget_spec ht).2 t rfl).crtcList
    refine ⟨by rw [DRIElements.asked, DRIElements.primary_setPrimary, hfd], ?_⟩
    rw [hlist, hcrtcs, ← hfd]
    exact (Moves.queries hnew).tail (.commit (m := (t.crtcId, t.mode)) hid hcond
      (.refused hrefused))
  | @granted e conns t h₂ arg fbId hreach hgrant =>
    have hcond := hg _ _ _ _ _ _ rfl hreach
    obtain ⟨hfd, hcrtcs, hid⟩ := hreach.target
    obtain ⟨new, rfl, hnew⟩ := hreach.history
    have hmade : Move k e.primary.drmModuleFd (t.pre ++ t.crtc :: t.post, new ++ h)
        (t.pre ++ t.crtc.scanout e.primary.drmModuleFd arg fbId :: t.post,
          .setCrtc (t.request e.primary.drmModuleFd fbId)
            (modeSetError k win e t (new ++ h) arg fbId).isNone ::
              prepared win e t (new ++ h) arg fbId) :=
      .commit (m := (t.crtcId, t.mode)) hid hcond (.granted hgrant)
    refine ⟨?_, ?_⟩
    · change (e.setPrimary _).primary.drmModuleFd = _
      rw [DRIElements.primary_setPrimary, hfd]
    · rw [DRIElements.crtcList_switched, Target.crtcList, hcrtcs, ← hfd]
      exact ((Moves.queries hnew).tail hmade).tail (.refit ⟨_, _, _, rfl⟩)

/-- A request for a mode that reaches no target only asks. -/
theorem Outcome.noted {win : Size} {displayPath : UInt8} {r : Bool} {e' : DRIElements}
    (ho : Outcome v k h win displayPath r e' h')
    (hnot : ∀ e conns t h₂, ¬ Reaches v k h win displayPath e conns t h₂) :
    DRIElements.Noted v.driElements h e' h' := by
  cases ho with
  | invalid _ => exact .refl _ _
  | noDisplay _ hn _ => exact noted_getSupportedNumConnector hn
  | noTarget _ hn _ ht => exact (noted_getSupportedNumConnector hn).trans (noted_findTarget ht)
  | refused hreach _ => exact absurd hreach (hnot _ _ _ _)
  | granted hreach _ => exact absurd hreach (hnot _ _ _ _)

theorem noted_applyScaling {wId : ℕ} {inputRegion outputRegion : Rect} {r : Bool}
    (hr : v.applyScaling wId inputRegion outputRegion k h = .ok ((r, v'), h')) :
    DRIElements.Noted v.driElements h v'.driElements h' := by
  by_cases hs : ∃ sink, v.Scalable wId sink outputRegion
  · obtain ⟨sink, hs⟩ := hs
    rw [applyScaling_of_scalable hs] at hr
    cases hr
    have hplain (done : Bool) : ∀ ev ∈ [Event.setProperty
        (v.scaling sink inputRegion outputRegion) done],
        ev.Plain v.driElements.primary.drmModuleFd := by
      intro ev hev
      obtain rfl := List.mem_singleton.1 hev
      rfl
    exact .asked _ (hplain _)
  · rw [applyScaling_of_not_scalable (not_exists.1 hs)] at hr
    cases hr
    exact .refl _ _

theorem noted_getParam {control : Control} {wId : Option ℤ} {r : Reply}
    (hr : v.getParam control wId k h = .ok ((r, v'), h')) :
    DRIElements.Noted v.driElements h v'.driElements h' := by
  have hlogs : Asks (v.getParam control wId) := by
    cases control with
    | drmResources =>
      rcases wId with _ | wId
      · exact .pure _
      · dsimp only [getParam]
        split
        · exact .pure _
        · exact .pure _
    | numConnector =>
      refine .bind (DRIElements.asks_getSupportedNumConnector _) fun n => ?_
      dsimp only
      split
      · exact .pure _
      · exact .pure _
    | other name => exact .pure _
  obtain ⟨new, rfl, hnew⟩ := hlogs _ _ _ _ hr
  have hplain : ∀ ev ∈ new, ev.Plain v.driElements.primary.drmModuleFd := fun ev hev =>
    .of_isQuery (hnew ev hev)
  rcases getParam_eq_ok hr with rfl | ⟨conns, rfl⟩
  · exact ⟨rfl, refit_refl _, new, rfl, hplain⟩
  · exact .asked conns hplain

/-- Every operation but a request for a mode makes no framebuffer. -/
theorem noted_run {op : Op} (hop : ∀ win displayPath, op ≠ .setDisplayResolution win displayPath)
    (hr : v.run op k h = .ok (v', h')) : DRIElements.Noted v.driElements h v'.driElements h' := by
  cases op with
  | hotplug =>
    rw [run, Prog.call_eq_ok] at hr
    cases hr
    refine ⟨rfl, refit_refl _, [.hotplug], rfl, fun ev hev => ?_⟩
    obtain rfl := List.mem_singleton.1 hev
    trivial
  | updateDevice name =>
    obtain ⟨called, e', h₁, hu, hr⟩ := updateDevice_eq_ok hr
    have hupdated := DRIElements.noted_updateDevice hu
    cases called with
    | false =>
      obtain ⟨rfl, rfl⟩ := hr
      exact hupdated
    | true =>
      rw [if_pos rfl] at hr
      exact hupdated.trans (noted_updatePlanes hr)
  | setDisplayResolution win displayPath => exact absurd rfl (hop win displayPath)
  | getSupportedResolutions dispIndex =>
    simp only [run, Prog.bind_eq_ok, Prog.lift_eq_ok, Prog.pure_eq_ok] at hr
    obtain ⟨_, _, ⟨_, rfl⟩, hr⟩ := hr
    cases hr
    exact .touch
  | connect wId planeId =>
    rw [run, Prog.pure_eq_ok] at hr
    cases hr
    rcases connects_connect (v := v) wId planeId with ⟨heq, _⟩ | ⟨sink, _, heq⟩
    · rw [heq]
      exact .refl _ _
    · rw [heq]
      exact .refl _ _
  | disconnect wId =>
    rw [run, Prog.pure_eq_ok] at hr
    cases hr
    rcases connects_disconnect (v := v) wId with ⟨heq, _⟩ | ⟨sink, _, heq⟩
    · rw [heq]
      exact .refl _ _
    · rw [heq]
      exact .refl _ _
  | applyScaling wId inputRegion outputRegion =>
    simp only [run, Prog.bind_eq_ok, Prog.pure_eq_ok] at hr
    obtain ⟨⟨r, v₁⟩, h₁, hscale, hr⟩ := hr
    cases hr
    exact noted_applyScaling hscale
  | getParam control wId =>
    simp only [run, Prog.bind_eq_ok, Prog.pure_eq_ok] at hr
    obtain ⟨⟨r, v₁⟩, h₁, hget, hr⟩ := hr
    cases hr
    exact noted_getParam hget
  | getVideoPlanes =>
    rw [run, Prog.pure_eq_ok] at hr
    cases hr
    exact .refl _ _

theorem outcome_of_run {win : Size} {displayPath : UInt8}
    (hr : v.run (.setDisplayResolution win displayPath) k h = .ok (v', h')) :
    ∃ r, Outcome v k h win displayPath r v'.driElements h' := by
  simp only [run, Prog.bind_eq_ok, Prog.pure_eq_ok] at hr
  obtain ⟨⟨r, v₁⟩, h₁, hset, hr⟩ := hr
  cases hr
  obtain ⟨e', ho, rfl⟩ := outcome_of_setDisplayResolution hset
  exact ⟨r, ho⟩

/-- Every operation that meets the condition is a sequence of moves. -/
theorem follows_run {op : Op} (hg : Grants k (v, h) op) (hr : v.run op k h = .ok (v', h')) :
    DRIElements.Follows k v.driElements h v'.driElements h' := by
  by_cases hop : ∃ win displayPath, op = .setDisplayResolution win displayPath
  · obtain ⟨win, displayPath, rfl⟩ := hop
    obtain ⟨r, ho⟩ := outcome_of_run hr
    exact ho.follows hg
  · refine (noted_run (fun win displayPath heq => hop ⟨win, displayPath, heq⟩) hr).follows

/-- The library moves, from CRTCs as they are loaded. -/
theorem moves_of_run (hr : Supplied k caps (v, h)) : ∃ cs₀ h₀,
    (∀ c ∈ cs₀, DrmCrtc.Blank c) ∧ (∀ ev ∈ h₀, Event.isQuery ev) ∧
      Moves k v.driElements.primary.drmModuleFd (cs₀, h₀) (v.driElements.primary.crtcList, h) := by
  obtain ⟨⟨v₀, h₀⟩, ops, hnew, hrun⟩ := hr
  obtain ⟨e, h₁, he, hinit⟩ := new_eq_ok hnew
  obtain ⟨physical, sinks, hp⟩ := init_updatePlanes hinit
  have hfirst : DRIElements.Follows k e h₁ v₀.driElements h₀ :=
    (DRIElements.Noted.touch.trans (noted_updatePlanes hp)).follows
  have hlater : DRIElements.Follows k v₀.driElements h₀ v.driElements h := by
    refine hrun.invariant (fun s => DRIElements.Follows k v₀.driElements h₀ s.1.driElements s.2)
      (.refl _ _) ?_
    exact fun _ _ _ hf hstep => hf.trans (follows_run hstep.1 hstep.2)
  have hall := hfirst.trans hlater
  obtain ⟨cs₀, h₀, hcs₀, hh₀, hmoves⟩ := DRIElements.moves_new he
  rw [hall.fd]
  exact ⟨cs₀, h₀, hcs₀, hh₀, hmoves.trans hall.moves⟩

end ValVideoImpl

/-! ## Commands -/

/-- All commands go to the device, all mode sets name CRTCs of it, and the buffers
    of the CRTCs are buffers of it. -/
structure Addressed (fd : ℤ) (cs : List DrmCrtc) (h : History) : Prop where
  commands : ∀ ev ∈ h, ∀ d ∈ ev.target, d = fd
  crtcs : ∀ req done, .setCrtc req done ∈ h → ∃ c ∈ cs, c.crtcId = .ok req.crtcId
  buffers : ∀ c ∈ cs, ∀ bo ∈ c.boHandle, bo.fd = fd

namespace Addressed

variable {cs before after : List DrmCrtc} {c c' : DrmCrtc}

theorem of_blank (hcs : ∀ c ∈ cs, c.Blank) (hh : ∀ ev ∈ h, ev.isQuery) : Addressed fd cs h := by
  refine ⟨fun ev hev d hd => ?_, fun req done hset => ?_, fun c hc bo hbo => ?_⟩
  · have hquery := hh ev hev
    cases ev with
    | query q => cases hd
    | _ => cases hquery
  · cases hh _ hset
  · rw [(hcs c hc).boHandle] at hbo
    cases hbo

theorem note (ha : Addressed fd cs h) {ev : Event} (hev : ev.Plain fd) :
    Addressed fd cs (ev :: h) := by
  refine ⟨List.forall_mem_cons.2 ⟨fun d hd => ?_, ha.commands⟩, fun req done hset => ?_,
    ha.buffers⟩
  · cases ev with
    | hotplug => cases hd
    | query q => cases hd
    | setProperty req done =>
      obtain rfl := Option.mem_some.1 hd
      exact hev
    | _ => cases hev
  · rcases List.mem_cons.1 hset with rfl | hset
    · cases hev
    · exact ha.crtcs req done hset

/-- A CRTC may be replaced by one of the same id. -/
theorem replace (ha : Addressed fd (before ++ c :: after) h) (hid : c'.crtcId = c.crtcId)
    (hbo : ∀ bo ∈ c'.boHandle, bo.fd = fd) : Addressed fd (before ++ c' :: after) h := by
  refine ⟨ha.commands, fun req done hset => ?_,
    Lists.forall_mem_middle.2 ⟨hbo, (Lists.forall_mem_middle.1 ha.buffers).2⟩⟩
  obtain ⟨a, hmem, hreq⟩ := ha.crtcs req done hset
  rcases Lists.mem_middle.1 hmem with rfl | hmem
  · exact ⟨c', Lists.mem_middle.2 (.inl rfl), hid.trans hreq⟩
  · exact ⟨a, Lists.mem_middle.2 (.inr hmem), hreq⟩

/-- A command to the device that is no mode set. -/
theorem command (ha : Addressed fd cs h) {ev : Event} (hev : ev.target = some fd)
    (hset : ∀ req done, ev ≠ .setCrtc req done) : Addressed fd cs (ev :: h) := by
  refine ⟨List.forall_mem_cons.2 ⟨fun d hd => ?_, ha.commands⟩, fun req done hmem => ?_,
    ha.buffers⟩
  · rw [hev] at hd
    exact (Option.some.inj hd).symm
  · rcases List.mem_cons.1 hmem with heq | hmem
    · exact absurd heq.symm (hset req done)
    · exact ha.crtcs req done hmem

theorem released (ha : Addressed fd cs h) (hc : c ∈ cs) : Addressed fd cs (c.released fd h) := by
  rw [DrmCrtc.released]
  split
  next bo ho =>
    rw [DrmCrtc.owned] at ho
    split at ho
    · have hbo : bo.fd = fd := ha.buffers c hc bo ho
      exact (ha.command rfl (by simp)).command (congrArg some hbo) (by simp)
    · cases ho
  · exact ha

theorem refused (ha : Addressed fd cs h) (width height : ℕ) :
    Addressed fd cs (DrmCrtc.refused k h fd width height) := by
  rw [DrmCrtc.refused]
  split
  · exact ha.command rfl (by simp)
  · exact ((ha.command rfl (by simp)).command rfl (by simp)).command rfl (by simp)

theorem granted (ha : Addressed fd cs h) (width height : ℕ) (arg : DumbBuffer) (fbId : ℕ) :
    Addressed fd cs (DrmCrtc.granted h fd width height arg fbId) :=
  (ha.command rfl (by simp)).command rfl (by simp)

theorem committed {width height : ℕ} {m : ℕ × ModeInfo} {ret : ℤ} (hid : c.crtcId = .ok m.1)
    (hm : c.Committed k fd width height m h ret c' h')
    (ha : Addressed fd (before ++ c :: after) h) : Addressed fd (before ++ c' :: after) h' := by
  have hgave : Addressed fd (before ++ c :: after) (c.released fd h) := ha.released (by simp)
  cases hm with
  | refused _ => exact hgave.refused _ _
  | @granted arg fbId done _ =>
    have hmade : Addressed fd (before ++ c.scanout fd arg fbId :: after)
        (DrmCrtc.granted (c.released fd h) fd width height arg fbId) := by
      refine (hgave.granted width height arg fbId).replace rfl fun bo hbo => ?_
      obtain rfl := Option.mem_some.1 hbo
      rfl
    refine ⟨List.forall_mem_cons.2 ⟨fun d hd => (Option.mem_some.1 hd).symm, hmade.commands⟩,
      fun req done hset => ?_, hmade.buffers⟩
    rcases List.mem_cons.1 hset with heq | hset
    · cases heq
      exact ⟨_, List.mem_append_right _ List.mem_cons_self, hid⟩
    · exact hmade.crtcs req done hset

theorem move {s s' : List DrmCrtc × History} (hm : Move k fd s s') (ha : Addressed fd s.1 s.2) :
    Addressed fd s'.1 s'.2 := by
  cases hm with
  | note hev => exact ha.note hev
  | @refit before after c c' h hc =>
    obtain ⟨_, _, _, rfl⟩ := hc
    exact ha.replace rfl (ha.buffers c (by simp))
  | commit hid _ hm => exact ha.committed hid hm

end Addressed

/-- A move keeps the ledgers. -/
theorem Owns.move (hk : k.Fresh) {s s' : List DrmCrtc × History} (hm : Move k fd s s')
    (ho : Owns s.1 s.2) : Owns s'.1 s'.2 := by
  cases hm with
  | note hev =>
    obtain ⟨hfb, hbo⟩ := idle_of_plain hev
    exact ho.idle hfb hbo
  | refit hc => exact ho.refit_one hc
  | commit _ hcond hm => exact ho.committed hk hcond hm

namespace ValVideoImpl

variable {v : ValVideoImpl} {caps : DeviceCapability}

/-- All commands of a run go to the primary device, all its mode sets name CRTCs of that
    device, and the buffers of its CRTCs are alive, as long as every request for a mode is
    for a CRTC that owns no framebuffer or is granted the new one. -/
theorem commands_of_run (hk : k.Fresh) (hr : Supplied k caps (v, h)) :
    Addressed v.driElements.primary.drmModuleFd v.driElements.primary.crtcList h ∧
      ∀ c ∈ v.driElements.primary.crtcList, ∀ bo ∈ c.boHandle, bo.handle ∈ liveBos h := by
  obtain ⟨cs₀, h₀, hcs₀, hh₀, hmoves⟩ := moves_of_run hr
  obtain ⟨haddressed, howns⟩ := hmoves.invariant
    (fun s => Addressed v.driElements.primary.drmModuleFd s.1 s.2 ∧ Owns s.1 s.2)
    (fun _ _ hs hm => ⟨hs.1.move hm, hs.2.move hk hm⟩) ⟨.of_blank hcs₀ hh₀, .of_blank hcs₀ hh₀⟩
  exact ⟨haddressed, fun c hc bo hbo => (howns.alive hc hbo).1⟩

/-- A kernel that grants everything grants every request. -/
theorem grants_willing (card : ℕ → Card) (s : ValVideoImpl × History) (op : Op) :
    Grants (.willing card) s op :=
  fun _ _ _ _ _ _ _ _ => .inr (by simp [granted, DrmCrtc.grant, Kernel.scripted])

/-- Three commands make the first framebuffer of one display and show it, and five
    more replace it. -/
theorem commands_of_run_one_display : ∃ v h,
    Supplied (.willing fun _ => .oneDisplay) .fullHd (v, h) ∧
      (h.filterMap Event.target).length = 8 ∧
        Addressed v.driElements.primary.drmModuleFd v.driElements.primary.crtcList h ∧
          ∀ c ∈ v.driElements.primary.crtcList, ∀ bo ∈ c.boHandle, bo.handle ∈ liveBos h := by
  let k : Kernel := .willing fun _ => .oneDisplay
  have hrun : (new .fullHd k []).map (fun s =>
      (s.1.run (.setDisplayResolution ⟨1280, 720⟩ 0) k s.2).map fun r =>
        (r.2.filterMap Event.target).length) = .ok (.ok 8) := by
    decide +kernel
  obtain ⟨⟨v₀, h₀⟩, hnew, hset⟩ := Prog.exists_of_map_eq_ok hrun
  obtain ⟨⟨v, h⟩, hset, hcount⟩ := Prog.exists_of_map_eq_ok hset
  have hstep : Step k (v₀, h₀) (.setDisplayResolution ⟨1280, 720⟩ 0) (v, h) := hset
  have hreach : Supplied k .fullHd (v, h) :=
    ⟨_, _, hnew, .step .nil ⟨grants_willing _ _ _, hstep⟩⟩
  exact ⟨v, h, hreach, hcount, commands_of_run (Kernel.scripted_fresh _ _ _ _) hreach⟩

end ValVideoImpl

end ValRpi
