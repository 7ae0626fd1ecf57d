import ValRpi.Video

/-!
# What queries leave alone

Most of what the program does is asking. Asking replaces what a connector
holds of the last answer (`DrmConnector.Refreshed`), logs queries
(`Event.isQuery`), and changes nothing else: no framebuffer, no buffer object
and none of the fields the program itself sets.
-/

namespace ValRpi

/-- The program logs only queries. -/
abbrev Asks {α : Type} (x : Act α) : Prop := x.Logs fun e => e.isQuery

theorem liveFbs_append {new h : History} (hnew : ∀ e ∈ new, e.isQuery) :
    liveFbs (new ++ h) = liveFbs h :=
  Ledger.live_append_idle fun e he => Event.idle_fb (hnew e he)

theorem liveBos_append {new h : History} (hnew : ∀ e ∈ new, e.isQuery) :
    liveBos (new ++ h) = liveBos h :=
  Ledger.live_append_idle fun e he => Event.idle_bo (hnew e he)

theorem asks_ask {α : Type} (fd : ℤ) (q : Query) (answer : Card → α) : Asks (ask fd q answer) :=
  .call fun _ => rfl

namespace DrmConnector

/-! ## Connectors -/

/-- The same connector, with another answer of the kernel about it. -/
def Refreshed (c c' : DrmConnector) : Prop :=
  ∃ p : Connector, p.connectorId = c.connectorId ∧ c' = { c with mConnectorPtr := p }

theorem Refreshed.refl (c : DrmConnector) : Refreshed c c := ⟨c.mConnectorPtr, rfl, rfl⟩

theorem Refreshed.trans {a b c : DrmConnector} (hab : Refreshed a b) (hbc : Refreshed b c) :
    Refreshed a c := by
  obtain ⟨p, hp, rfl⟩ := hab
  obtain ⟨q, hq, rfl⟩ := hbc
  exact ⟨q, hq.trans hp, rfl⟩

theorem Refreshed.connectorId {c c' : DrmConnector} (h : Refreshed c c') :
    c'.connectorId = c.connectorId := by
  obtain ⟨p, hp, rfl⟩ := h
  exact hp

theorem Refreshed.crtcId {c c' : DrmConnector} (h : Refreshed c c') : c'.crtcId = c.crtcId := by
  obtain ⟨p, _, rfl⟩ := h
  rfl

variable {k : Kernel} {h h' : History} {c c' : DrmConnector}

/-- `isPlugged` asks once. -/
theorem isPlugged_eq_ok {b : Bool} :
    c.isPlugged k h = .ok ((b, c'), h') ↔
      ∃ p, (k.card h c.mDrmModulefd).connector c.connectorId = some p ∧ b = p.plugged ∧
        c' = { c with mConnectorPtr := { p with connectorId := c.connectorId } } ∧
        h' = .query (.connector c.mDrmModulefd c.connectorId) :: h := by
  rw [isPlugged, drmModeGetConnector, ask, Prog.bind_eq_ok]
  simp only [Prog.call_eq_ok, Prog.bind_eq_ok, Prog.lift_eq_ok, Prog.pure_eq_ok, deref_eq_ok,
    Prod.mk.injEq]
  constructor
  · rintro ⟨q, _, ⟨rfl, rfl⟩, p, _, ⟨hp, rfl⟩, ⟨rfl, rfl⟩, rfl⟩
    obtain ⟨p', hp', rfl⟩ := Option.map_eq_some_iff.1 hp
    exact ⟨p', hp', rfl, rfl, rfl⟩
  · rintro ⟨p, hp, rfl, rfl, rfl⟩
    exact ⟨_, _, ⟨rfl, rfl⟩, _, _, ⟨Option.map_eq_some_iff.2 ⟨p, hp, rfl⟩, rfl⟩, ⟨rfl, rfl⟩, rfl⟩

theorem asks_isPlugged (c : DrmConnector) : Asks c.isPlugged :=
  .bind (asks_ask _ _ _) fun _ => .bind (.lift _) fun _ => .pure _

theorem refreshed_of_isPlugged {b : Bool} (hp : c.isPlugged k h = .ok ((b, c'), h')) :
    Refreshed c c' := by
  obtain ⟨p, _, _, rfl, _⟩ := isPlugged_eq_ok.1 hp
  exact ⟨{ p with connectorId := c.connectorId }, rfl, rfl⟩

theorem asks_getModeRange (c : DrmConnector) : Asks c.getModeRange :=
  .bind (asks_isPlugged c) fun _ => .pure _

end DrmConnector

open DrmConnector

theorem refreshed_refl (conns : List DrmConnector) : List.Forall₂ Refreshed conns conns :=
  List.forall₂_same.2 fun c _ => .refl c

theorem refreshed_trans {as bs cs : List DrmConnector} (hab : List.Forall₂ Refreshed as bs)
    (hbc : List.Forall₂ Refreshed bs cs) : List.Forall₂ Refreshed as cs := by
  refine Prog.forall₂_trans ?_ hab hbc
  exact fun _ _ _ => Refreshed.trans

variable {k : Kernel} {h h' : History}

/-! ## Mode checks -/

theorem asks_checkConnectors (name : String) :
    ∀ (ids : List ℕ) (mode : Option ModeInfo) (conns : List DrmConnector),
      Asks (checkConnectors name ids mode conns)
  | [], _, _ => .pure _
  | _ :: ids, _, _ => by
    refine .bind (.visitFirst (fun c => .bind (asks_isPlugged c) fun _ => .pure _) _)
      fun ⟨found, conns⟩ => ?_
    rcases found with _ | ⟨_ | _, conn⟩
    · exact asks_checkConnectors name ids _ _
    · exact asks_checkConnectors name ids _ _
    · simp only
      split
      · exact asks_checkConnectors name ids _ _
      · exact .pure _

theorem refreshed_of_checkConnectors {name : String} {ids : List ℕ} {mode : Option ModeInfo}
    {conns conns' : List DrmConnector} {r : Option (Option ModeInfo)}
    (hc : checkConnectors name ids mode conns k h = .ok ((r, conns'), h')) :
    List.Forall₂ Refreshed conns conns' := by
  induction ids generalizing mode conns h with
  | nil =>
    simp only [checkConnectors, Prog.pure_eq_ok, Prod.mk.injEq] at hc
    obtain ⟨⟨_, rfl⟩, _⟩ := hc
    exact refreshed_refl _
  | cons id ids ih =>
    simp only [checkConnectors, Prog.bind_eq_ok, Prod.exists] at hc
    obtain ⟨found, conns₁, h₁, hv, hc⟩ := hc
    have h₁ : List.Forall₂ Refreshed conns conns₁ := by
      refine Prog.visitFirst_forall₂ Refreshed.refl (fun c a c' h h' hf => ?_) hv
      simp only [Prog.bind_eq_ok, Prog.pure_eq_ok, Prod.exists, Prod.mk.injEq] at hf
      obtain ⟨b, c₁, _, hp, ⟨_, rfl⟩, _⟩ := hf
      exact refreshed_of_isPlugged hp
    -- the connector is not known, or not plugged, or its modes are looked at
    rcases found with _ | ⟨_ | _, conn⟩
    · exact refreshed_trans h₁ (ih hc)
    · exact refreshed_trans h₁ (ih hc)
    · simp only at hc
      split at hc
      · exact refreshed_trans h₁ (ih hc)
      · simp only [Prog.pure_eq_ok, Prod.mk.injEq] at hc
        obtain ⟨⟨_, rfl⟩, _⟩ := hc
        exact h₁

/-! ## Setup -/

/-- The same CRTC, with other connectors and sizes. -/
def DrmCrtc.Refit (c c' : DrmCrtc) : Prop :=
  ∃ connectors max min, c' = { c with connectors := connectors, max := max, min := min }

theorem DrmCrtc.Refit.refl (c : DrmCrtc) : c.Refit c := ⟨c.connectors, c.max, c.min, rfl⟩

theorem refit_refl (crtcs : List DrmCrtc) : List.Forall₂ DrmCrtc.Refit crtcs crtcs :=
  List.forall₂_same.2 fun c _ => .refl c

theorem DrmCrtc.Refit.trans {a b c : DrmCrtc} (hab : a.Refit b) (hbc : b.Refit c) : a.Refit c := by
  obtain ⟨_, _, _, rfl⟩ := hab
  obtain ⟨conns, max, min, rfl⟩ := hbc
  exact ⟨conns, max, min, rfl⟩

theorem mCrtc_of_refit {crtcs crtcs' : List DrmCrtc} (h : List.Forall₂ DrmCrtc.Refit crtcs crtcs') :
    crtcs'.map DrmCrtc.mCrtc = crtcs.map DrmCrtc.mCrtc := by
  refine Prog.map_eq_of_forall₂ (fun c c' hc => ?_) h
  obtain ⟨_, _, _, rfl⟩ := hc
  rfl

/-- The same connector, with another answer of the kernel and another CRTC. -/
def DrmConnector.Rerouted (c c' : DrmConnector) : Prop :=
  ∃ p id, p.connectorId = c.connectorId ∧ c' = { c with mConnectorPtr := p, crtcId := id }

theorem DrmConnector.Refreshed.rerouted {c c' : DrmConnector} (h : Refreshed c c') :
    c.Rerouted c' := by
  obtain ⟨p, hp, rfl⟩ := h
  exact ⟨p, c.crtcId, hp, rfl⟩

theorem ids_of_rerouted {conns conns' : List DrmConnector}
    (h : List.Forall₂ DrmConnector.Rerouted conns conns') :
    conns'.map (·.connectorId) = conns.map (·.connectorId) :=
  Prog.map_eq_of_forall₂ (fun _ _ ⟨_, _, hid, heq⟩ => heq ▸ hid) h

theorem ids_of_refreshed {conns conns' : List DrmConnector}
    (h : List.Forall₂ Refreshed conns conns') :
    conns'.map (·.connectorId) = conns.map (·.connectorId) :=
  ids_of_rerouted (h.imp fun _ _ => Refreshed.rerouted)

theorem refreshed_of_getModeRange {c c' : DrmConnector} {r : Option (ModeInfo × ModeInfo)}
    (hr : c.getModeRange k h = .ok ((r, c'), h')) : Refreshed c c' := by
  simp only [getModeRange, Prog.bind_eq_ok, Prog.pure_eq_ok, Prod.exists, Prod.mk.injEq] at hr
  obtain ⟨b, c₁, _, hp, ⟨_, rfl⟩, _⟩ := hr
  exact refreshed_of_isPlugged hp

theorem asks_scanEncoders (fd : ℤ) (res : Option Resources) :
    ∀ (ids : List ℕ) (crtc : ℕ), Asks (scanEncoders fd res ids crtc)
  | [], _ => .pure _
  | _ :: ids, _ => by
    refine .bind (asks_ask _ _ _) fun enc => ?_
    cases enc with
    | none => exact asks_scanEncoders fd res ids _
    | some enc => exact .bind (.lift _) fun _ => asks_scanEncoders fd res ids _

theorem asks_currentEncoder (fd : ℤ) (conn : DrmConnector) : Asks (currentEncoder fd conn) := by
  rw [currentEncoder]
  split
  · exact asks_ask _ _ _
  · exact .pure _

theorem asks_findCrtc (fd : ℤ) (conn : DrmConnector) : Asks (findCrtc fd conn) := by
  refine .bind (asks_currentEncoder fd conn) fun enc => ?_
  cases enc with
  | some enc => exact .pure _
  | none => exact .bind (asks_ask _ _ _) fun res => asks_scanEncoders _ _ _ _

theorem asks_setupConnector (fd : ℤ) (confMode : Size) (conn : DrmConnector)
    (crtcs : List DrmCrtc) : Asks (setupConnector fd confMode conn crtcs) := by
  refine .bind (asks_isPlugged conn) fun ⟨plugged, conn⟩ => ?_
  dsimp only
  split
  · exact .pure _
  · refine .bind (asks_findCrtc _ _) fun crtcId => ?_
    split
    · exact .pure _
    · refine .bind (asks_getModeRange _) fun ⟨range, conn⟩ => .bind (.visitFirst (fun crtc => ?_) _)
        fun _ => .pure _
      exact .bind (.lift _) fun _ => .pure _

/-- What the setup of a connector can do: nothing if it is not plugged, or if no
    CRTC is found for it. Else the connector gets the CRTC found, which is
    written to. -/
theorem setupConnector_eq_ok {fd : ℤ} {confMode : Size} {conn conn' : DrmConnector}
    {crtcs crtcs' : List DrmCrtc}
    (hs : setupConnector fd confMode conn crtcs k h = .ok ((conn', crtcs'), h')) :
    ∃ plugged conn₁ h₁, conn.isPlugged k h = .ok ((plugged, conn₁), h₁) ∧
      ((plugged = false ∧ conn' = conn₁ ∧ crtcs' = crtcs) ∨
        plugged = true ∧ ∃ id h₂, findCrtc fd conn₁ k h₁ = .ok (id, h₂) ∧
          ((id = 0 ∧ conn' = conn₁ ∧ crtcs' = crtcs) ∨
            id ≠ 0 ∧ ∃ range h₃ r,
              (conn₁.setCrtcId id).getModeRange k h₂ = .ok ((range, conn'), h₃) ∧
                Prog.visitFirst (DrmCrtc.hasId id)
                  (DrmCrtc.assignRange conn.connectorId confMode range) crtcs k h₃ =
                    .ok ((r, crtcs'), h'))) := by
  rw [setupConnector, Prog.bind_eq_ok] at hs
  obtain ⟨⟨plugged, conn₁⟩, h₁, hp, hs⟩ := hs
  refine ⟨plugged, conn₁, h₁, hp, ?_⟩
  cases plugged with
  | false =>
    simp only [Bool.not_false, if_true, Prog.pure_eq_ok, Prod.mk.injEq] at hs
    exact .inl ⟨rfl, hs.1.1, hs.1.2⟩
  | true =>
    simp only [Bool.not_true, Bool.false_eq_true, if_false, Prog.bind_eq_ok] at hs
    obtain ⟨id, h₂, hfind, hs⟩ := hs
    refine .inr ⟨rfl, id, h₂, hfind, ?_⟩
    split at hs
    next hzero =>
      simp only [Prog.pure_eq_ok, Prod.mk.injEq] at hs
      exact .inl ⟨hzero, hs.1.1, hs.1.2⟩
    next hne =>
      simp only [Prog.bind_eq_ok, Prog.pure_eq_ok, Prod.exists, Prod.mk.injEq] at hs
      obtain ⟨range, conn₂, h₃, hrange, r, crtcs₁, _, hv, ⟨rfl, rfl⟩, rfl⟩ := hs
      exact .inr ⟨hne, range, h₃, r, hrange, hv⟩

theorem assignRange_eq_ok {connId : ℕ} {confMode : Size} {range : Option (ModeInfo × ModeInfo)}
    {c c' : DrmCrtc} {r : Unit} :
    c.assignRange connId confMode range k h = .ok ((r, c'), h') ↔
      ∃ min max, range = some (min, max) ∧ c' = c.assign connId confMode min max ∧ h' = h := by
  simp only [DrmCrtc.assignRange, Prog.bind_eq_ok, Prog.lift_eq_ok, Prog.pure_eq_ok, deref_eq_ok,
    Prod.exists, Prod.mk.injEq, true_and]
  constructor
  · rintro ⟨min, max, _, ⟨hrange, rfl⟩, rfl, rfl⟩
    exact ⟨min, max, hrange, rfl, rfl⟩
  · rintro ⟨min, max, hrange, rfl, rfl⟩
    exact ⟨min, max, _, ⟨hrange, rfl⟩, rfl, rfl⟩

/-- Writing does not ask. -/
theorem visitFirst_assignRange_log {id connId : ℕ} {confMode : Size}
    {range : Option (ModeInfo × ModeInfo)} {crtcs crtcs' : List DrmCrtc} {r : Option Unit}
    (hv : Prog.visitFirst (DrmCrtc.hasId id) (DrmCrtc.assignRange connId confMode range) crtcs k h =
      .ok ((r, crtcs'), h')) : h' = h := by
  have hlogs : Prog.Logs (fun _ : Event => False) (Prog.visitFirst (DrmCrtc.hasId id)
      (DrmCrtc.assignRange connId confMode range) crtcs : Act _) :=
    .visitFirst (fun c => .bind (.lift _) fun _ => .pure _) _
  obtain ⟨new, rfl, hnew⟩ := hlogs _ _ _ _ hv
  rw [List.eq_nil_iff_forall_not_mem.2 hnew, List.nil_append]

/-- The setup of a connector reroutes it, and refits CRTCs. -/
theorem refit_of_setupConnector {fd : ℤ} {confMode : Size} {conn conn' : DrmConnector}
    {crtcs crtcs' : List DrmCrtc}
    (hs : setupConnector fd confMode conn crtcs k h = .ok ((conn', crtcs'), h')) :
    conn.Rerouted conn' ∧ List.Forall₂ DrmCrtc.Refit crtcs crtcs' := by
  obtain ⟨plugged, conn₁, h₁, hp, hs⟩ := setupConnector_eq_ok hs
  have hconn₁ := refreshed_of_isPlugged hp
  rcases hs with ⟨_, rfl, rfl⟩ | ⟨_, id, h₂, hfind, hs⟩
  · exact ⟨hconn₁.rerouted, refit_refl _⟩
  rcases hs with ⟨_, rfl, rfl⟩ | ⟨_, range, h₃, r, hrange, hv⟩
  · exact ⟨hconn₁.rerouted, refit_refl _⟩
  -- it is plugged, and a CRTC is found for it
  constructor
  · obtain ⟨p, hid, rfl⟩ := hconn₁
    obtain ⟨q, hid', rfl⟩ := refreshed_of_getModeRange hrange
    exact ⟨q, id, hid'.trans hid, rfl⟩
  · refine Prog.visitFirst_forall₂ DrmCrtc.Refit.refl (fun c _ c' _ _ hf => ?_) hv
    obtain ⟨min, max, _, rfl, _⟩ := assignRange_eq_ok.1 hf
    exact ⟨_, _, _, rfl⟩

namespace DriDevice

variable {d d' : DriDevice} {confMode : Size}

theorem asks_checkDumbBuff (d : DriDevice) : Asks d.checkDumbBuff := by
  rw [checkDumbBuff]
  split
  · exact .pure _
  · refine .bind (asks_ask _ _ _) fun dumb => ?_
    split
    · exact .pure _
    · exact .fault _

theorem asks_setupDevice (d : DriDevice) (confMode : Size) : Asks (d.setupDevice confMode) :=
  .bind (asks_checkDumbBuff d) fun _ =>
    .bind (.forEach (fun _ _ => asks_setupConnector _ _ _ _) _ _) fun _ => .pure _

/-- The setup of a device is the loop over its connectors. -/
theorem setupDevice_eq_ok (hs : d.setupDevice confMode k h = .ok (d', h')) :
    ∃ connectorList crtcList, ∃ new : History, (∀ e ∈ new, e.isQuery) ∧
      Prog.forEach (setupConnector d.drmModuleFd confMode) d.connectorList d.crtcList k (new ++ h) =
        .ok ((connectorList, crtcList), h') ∧
      d' = { d with hasDumbBuffChecked := true, connectorList, crtcList } := by
  rw [setupDevice, Prog.bind_eq_ok] at hs
  obtain ⟨_, h₁, hcheck, hs⟩ := hs
  obtain ⟨new, rfl, hnew⟩ := asks_checkDumbBuff _ _ _ _ _ hcheck
  simp only [Prog.bind_eq_ok, Prog.pure_eq_ok, Prod.exists, Prod.mk.injEq] at hs
  obtain ⟨conns, crtcs, _, hloop, rfl, rfl⟩ := hs
  exact ⟨conns, crtcs, new, hnew, hloop, rfl⟩

/-- The setup of a device reroutes its connectors and refits its CRTCs. -/
theorem refit_of_setupDevice (hs : d.setupDevice confMode k h = .ok (d', h')) :
    List.Forall₂ DrmConnector.Rerouted d.connectorList d'.connectorList ∧
      List.Forall₂ DrmCrtc.Refit d.crtcList d'.crtcList := by
  obtain ⟨conns, crtcs, new, _, hloop, rfl⟩ := setupDevice_eq_ok hs
  constructor
  · refine Prog.forEach_forall₂ ?_ hloop
    exact fun conn crtcs conn' crtcs' _ _ hf => (refit_of_setupConnector hf).1
  · refine Prog.forEach_invariant (fun crtcs _ => List.Forall₂ DrmCrtc.Refit d.crtcList crtcs)
      (fun conn _ crtcs conn' crtcs' _ _ hinv hf => ?_) (refit_refl _) hloop
    refine Prog.forall₂_trans ?_ hinv (refit_of_setupConnector hf).2
    exact fun _ _ _ => DrmCrtc.Refit.trans

end DriDevice

end ValRpi
