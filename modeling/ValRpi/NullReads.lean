import ValRpi.Setup

/-!
# Null answers

The kernel answers a query about a connector, an encoder or the resources of a
card with a null pointer if there is no such thing any more, and one about a
connector that is not plugged any more with a connector without modes. The
setup asks about a plugged connector twice, and goes by the first answer.

* `ConnectorSafe` says which answers about a connector the setup survives
  (`safe_of_setupConnector`, `setupConnector_of_safe`);
* A connector that is gone at the second query was given a CRTC already, but
  nothing is written to the CRTC (`eq_of_disappears`).
* `updateDevice_safe_iff`: so an update reads through no null pointer, and skips
  what disappears, if and only if the answers about every connector are safe, in
  turn, and one that disappears has had the CRTC.

A card that does not support dumb buffers ends the setup before.
-/

namespace ValRpi

variable {k : Kernel} {h h' : History} {fd : ℤ}

/-! ## The search for a CRTC -/

/-- What happened after queries about some encoders, in turn. -/
def afterEncoders (fd : ℤ) : List ℕ → History → History
  | [], h => h
  | id :: ids, h => afterEncoders fd ids (.query (.encoder fd id) :: h)

/-- The answers to these. -/
def encoderAnswers (k : Kernel) (fd : ℤ) : List ℕ → History → List (Option Encoder)
  | [], _ => []
  | id :: ids, h =>
    (k.card h fd).encoder id :: encoderAnswers k fd ids (.query (.encoder fd id) :: h)

/-- The first choice of the last encoder that can drive a CRTC at all, of those
    that were read. -/
def lastChoice (answers : List (Option Encoder)) (crtcs : List ℕ) : Option ℕ :=
  (answers.filterMap fun enc => enc.bind (·.firstCrtc crtcs)).getLast?

theorem scanEncoders_eq_ok_iff {res : Option Resources} {ids : List ℕ} {crtc : ℕ}
    {r : ℕ × History} : scanEncoders fd res ids crtc k h = .ok r ↔
      (res = none → ∀ enc ∈ encoderAnswers k fd ids h, enc = none) ∧
        r = ((lastChoice (encoderAnswers k fd ids h) ((res.map Resources.crtcs).getD [])).getD crtc,
          afterEncoders fd ids h) := by
  induction ids generalizing crtc h with
  | nil => simp [scanEncoders, encoderAnswers, afterEncoders, lastChoice]
  | cons id ids ih =>
    rw [scanEncoders, drmModeGetEncoder, ask, Prog.bind_of_ok (Prog.call_eq_ok.2 rfl),
      encoderAnswers, afterEncoders]
    cases henc : (k.card h fd).encoder id with
    | none => simpa [lastChoice] using ih
    | some enc =>
      simp only [Option.map_some, Prog.bind_eq_ok, Prog.lift_eq_ok, deref_eq_ok]
      cases res with
      | none => simp
      | some res =>
        -- a CRTC that the encoder finds replaces the one found before
        have hlast : (lastChoice (encoderAnswers k fd ids (.query (.encoder fd id) :: h))
            res.crtcs).getD (scanCrtcs enc.possibleCrtcs 0 res.crtcs crtc) =
              (lastChoice (some enc :: encoderAnswers k fd ids (.query (.encoder fd id) :: h))
                res.crtcs).getD crtc := by
          rw [scanCrtcs_eq_firstCrtc enc, lastChoice, lastChoice, List.filterMap_cons,
            Option.bind_some]
          cases enc.firstCrtc res.crtcs with
          | none => rfl
          | some id => exact (congrArg (·.getD crtc) List.getLast?_cons).symm
        constructor
        · rintro ⟨_, _, ⟨hres, rfl⟩, hr⟩
          obtain rfl := Option.some.inj hres
          exact ⟨by simp, hlast ▸ (ih.1 hr).2⟩
        · rintro ⟨_, rfl⟩
          exact ⟨res, _, ⟨rfl, rfl⟩, ih.2 ⟨by simp, congrArg (Prod.mk · _) hlast.symm⟩⟩

/-- The answer about the current encoder of a connector, and what happened then. -/
def currentAnswer (k : Kernel) (fd : ℤ) (p : Connector) (h : History) : Option Encoder × History :=
  if p.encoderId ≠ 0 then
    ((k.card h fd).encoder p.encoderId, .query (.encoder fd p.encoderId) :: h)
  else
    (none, h)

/-- What happened once the resources were asked for, too. -/
def afterResources (k : Kernel) (fd : ℤ) (p : Connector) (h : History) : History :=
  .query (.resources fd) :: (currentAnswer k fd p h).2

/-- The answer about these. -/
def resourcesAnswer (k : Kernel) (fd : ℤ) (p : Connector) (h : History) : Option Resources :=
  (k.card (currentAnswer k fd p h).2 fd).resources

/-- The resources are there, or they are not needed: the current encoder can be
    read, or no encoder at all. -/
def ResourcesSafe (k : Kernel) (fd : ℤ) (p : Connector) (h : History) : Prop :=
  (currentAnswer k fd p h).1 = none → resourcesAnswer k fd p h = none →
    ∀ enc ∈ encoderAnswers k fd p.encoders (afterResources k fd p h), enc = none

/-- The CRTC that the answers give to a connector, or 0, and what happened then. -/
def given (k : Kernel) (fd : ℤ) (p : Connector) (h : History) : ℕ × History :=
  match (currentAnswer k fd p h).1 with
  | some enc => (enc.crtcId, (currentAnswer k fd p h).2)
  | none =>
    ((lastChoice (encoderAnswers k fd p.encoders (afterResources k fd p h))
        (((resourcesAnswer k fd p h).map Resources.crtcs).getD [])).getD 0,
      afterEncoders fd p.encoders (afterResources k fd p h))

theorem findCrtc_eq_ok_iff {conn : DrmConnector} {r : ℕ × History} :
    findCrtc fd conn k h = .ok r ↔ ResourcesSafe k fd conn.mConnectorPtr h ∧
      r = given k fd conn.mConnectorPtr h := by
  have hcurrent : currentEncoder fd conn k h =
      .ok (((currentAnswer k fd conn.mConnectorPtr h).1.map
        ({ · with encoderId := conn.mConnectorPtr.encoderId })),
          (currentAnswer k fd conn.mConnectorPtr h).2) := by
    rw [currentEncoder, currentAnswer]
    split <;> rfl
  rw [findCrtc, Prog.bind_of_ok hcurrent, given, ResourcesSafe]
  cases (currentAnswer k fd conn.mConnectorPtr h).1 with
  | some enc => simp
  | none =>
    simp only [Option.map_none, drmModeGetResources, ask, forall_const]
    rw [Prog.bind_of_ok (Prog.call_eq_ok.2 rfl), scanEncoders_eq_ok_iff]
    rfl

/-- Whether a search by id finds a CRTC, among what the kernel answered about the
    CRTCs; none if it comes to a null pointer. -/
def findsCrtc (id : ℕ) : List (Option Crtc) → Option Bool
  | [] => some false
  | none :: _ => none
  | some p :: ps => if p.crtcId = id then some true else findsCrtc id ps

theorem visitFirst_assignRange_isOk_iff {connId id : ℕ} {confMode : Size}
    {range : Option (ModeInfo × ModeInfo)} {crtcs : List DrmCrtc} :
    (∃ r, Prog.visitFirst (DrmCrtc.hasId id) (DrmCrtc.assignRange connId confMode range) crtcs k h =
      .ok r) ↔ ∃ found, findsCrtc id (crtcs.map DrmCrtc.mCrtc) = some found ∧
        (found = true → range.isSome) := by
  induction crtcs with
  | nil => simp [Prog.visitFirst, findsCrtc, pure]
  | cons c crtcs ih =>
    rw [List.map_cons, Prog.visitFirst]
    cases hc : c.mCrtc with
    | none => simp [findsCrtc, DrmCrtc.hasId, DrmCrtc.crtcId, hc, deref, Except.map]
    | some p =>
      have htest : c.hasId id = .ok (p.crtcId == id) := by
        rw [DrmCrtc.hasId, DrmCrtc.crtcId, hc]
        rfl
      rw [htest, findsCrtc, Prog.bind_of_ok (Prog.lift_eq_ok.2 ⟨rfl, rfl⟩)]
      by_cases hid : p.crtcId = id
      · rw [if_pos hid, beq_iff_eq.2 hid, if_pos rfl]
        constructor
        · rintro ⟨r, hr⟩
          obtain ⟨⟨_, c'⟩, _, hf, _⟩ := Prog.bind_eq_ok.1 hr
          obtain ⟨min, max, hrange, _⟩ := assignRange_eq_ok.1 hf
          exact ⟨true, rfl, fun _ => Option.isSome_of_eq_some hrange⟩
        · rintro ⟨found, hfound, hrange⟩
          obtain rfl := Option.some.inj hfound
          obtain ⟨⟨min, max⟩, hrange⟩ := Option.isSome_iff_exists.1 (hrange rfl)
          have hf : c.assignRange connId confMode range k h =
              .ok (((), c.assign connId confMode min max), h) :=
            assignRange_eq_ok.2 ⟨min, max, hrange, rfl, rfl⟩
          exact ⟨_, Prog.bind_of_ok hf⟩
      · rw [if_neg hid, beq_eq_false_iff_ne.2 hid, if_neg Bool.false_ne_true, ← ih]
        constructor
        · rintro ⟨r, hr⟩
          obtain ⟨s, _, hs, _⟩ := Prog.bind_eq_ok.1 hr
          exact ⟨_, hs⟩
        · rintro ⟨s, hs⟩
          exact ⟨_, Prog.bind_of_ok hs⟩

/-! ## The setup of a connector -/

/-- What happened once a connector was asked about. -/
def DrmConnector.afterQuery (conn : DrmConnector) (h : History) : History :=
  .query (.connector conn.mDrmModulefd conn.connectorId) :: h

/-- The answer about it. -/
def DrmConnector.answer (conn : DrmConnector) (k : Kernel) (h : History) : Option Connector :=
  (k.card h conn.mDrmModulefd).connector conn.connectorId

/-- The connector once it holds an answer. -/
def DrmConnector.holding (conn : DrmConnector) (p : Connector) : DrmConnector :=
  { conn with mConnectorPtr := { p with connectorId := conn.connectorId } }

/-- What happened once a connector was set up. -/
def afterConnector (k : Kernel) (fd : ℤ) (conn : DrmConnector) (h : History) : History :=
  match conn.answer k h with
  | none => conn.afterQuery h
  | some p =>
    if p.plugged then
      if (given k fd p (conn.afterQuery h)).1 = 0 then (given k fd p (conn.afterQuery h)).2
      else conn.afterQuery (given k fd p (conn.afterQuery h)).2
    else
      conn.afterQuery h

/-- The answers about a connector that the setup survives: it is there, and if it
    is plugged then the resources are there where they are needed. If it is given
    a CRTC then it is still there, and still plugged if the search for the CRTC
    among `crtcs` finds it; the search comes to no null pointer. -/
def ConnectorSafe (k : Kernel) (fd : ℤ) (crtcs : List (Option Crtc)) (conn : DrmConnector)
    (h : History) : Prop :=
  ∃ p, conn.answer k h = some p ∧ (p.plugged = true →
    ResourcesSafe k fd p (conn.afterQuery h) ∧ ((given k fd p (conn.afterQuery h)).1 ≠ 0 →
      ∃ p' found, conn.answer k (given k fd p (conn.afterQuery h)).2 = some p' ∧
        findsCrtc (given k fd p (conn.afterQuery h)).1 crtcs = some found ∧
          (found = true → p'.plugged = true)))

theorem isPlugged_eq_ok_iff {conn : DrmConnector} {r : (Bool × DrmConnector) × History} :
    conn.isPlugged k h = .ok r ↔ ∃ p, conn.answer k h = some p ∧
      r = ((p.plugged, conn.holding p), conn.afterQuery h) := by
  obtain ⟨⟨b, conn'⟩, h₁⟩ := r
  rw [DrmConnector.isPlugged_eq_ok]
  refine exists_congr fun p => and_congr_right fun _ => ?_
  rw [Prod.mk.injEq, Prod.mk.injEq, and_assoc]
  rfl

theorem getModeRange_eq_ok_iff {conn : DrmConnector}
    {r : (Option (ModeInfo × ModeInfo) × DrmConnector) × History} :
    conn.getModeRange k h = .ok r ↔ ∃ p, conn.answer k h = some p ∧
      r = ((if p.plugged then DrmConnector.modeRange p.modes else none, conn.holding p),
        conn.afterQuery h) := by
  rw [DrmConnector.getModeRange, Prog.bind_eq_ok]
  constructor
  · rintro ⟨_, _, hp, hr⟩
    obtain ⟨p, hanswer, heq⟩ := isPlugged_eq_ok_iff.1 hp
    cases heq
    exact ⟨p, hanswer, Prog.pure_eq_ok.1 hr⟩
  · rintro ⟨p, hp, rfl⟩
    exact ⟨_, _, isPlugged_eq_ok_iff.2 ⟨p, hp, rfl⟩, rfl⟩

/-- A plugged connector has modes, and so a range of modes. -/
theorem isSome_range_iff (p : Connector) :
    (if p.plugged then DrmConnector.modeRange p.modes else none).isSome ↔ p.plugged = true := by
  cases hp : p.plugged with
  | false => simp
  | true =>
    rw [if_pos rfl, DrmConnector.modeRange]
    obtain ⟨_, _, _, _, modes, _⟩ := p
    cases modes with
    | nil => simp [Connector.plugged] at hp
    | cons m modes => simp [List.getLast?_cons]

/-- A setup of a connector that gets through had safe answers. -/
theorem safe_of_setupConnector {confMode : Size} {conn conn' : DrmConnector}
    {crtcs crtcs' : List DrmCrtc}
    (hr : setupConnector fd confMode conn crtcs k h = .ok ((conn', crtcs'), h')) :
    ConnectorSafe k fd (crtcs.map DrmCrtc.mCrtc) conn h := by
  obtain ⟨plugged, conn₁, h₁, hp, hr⟩ := setupConnector_eq_ok hr
  obtain ⟨p, hanswer, heq⟩ := isPlugged_eq_ok_iff.1 hp
  cases heq
  refine ⟨p, hanswer, fun hplugged => ?_⟩
  rcases hr with ⟨hunplugged, _⟩ | ⟨_, id, h₂, hfind, hr⟩
  · rw [hunplugged] at hplugged
    cases hplugged
  obtain ⟨hres, hgiven⟩ := findCrtc_eq_ok_iff.1 hfind
  refine ⟨hres, fun hne => ?_⟩
  change (id, h₂) = given k fd p (conn.afterQuery h) at hgiven
  rw [← hgiven] at hne ⊢
  rcases hr with ⟨hzero, _⟩ | ⟨_, range, h₃, r, hrange, hv⟩
  · exact absurd hzero hne
  obtain ⟨p', hanswer', heq⟩ := getModeRange_eq_ok_iff.1 hrange
  cases heq
  obtain ⟨found, hfound, hsome⟩ := visitFirst_assignRange_isOk_iff.1 ⟨_, hv⟩
  exact ⟨p', found, hanswer', hfound, fun hf => (isSome_range_iff p').1 (hsome hf)⟩

/-- A setup of a connector with safe answers gets through. -/
theorem setupConnector_of_safe {confMode : Size} {conn : DrmConnector} {crtcs : List DrmCrtc}
    (hsafe : ConnectorSafe k fd (crtcs.map DrmCrtc.mCrtc) conn h) :
    ∃ r, setupConnector fd confMode conn crtcs k h = .ok (r, afterConnector k fd conn h) := by
  obtain ⟨p, hanswer, hsafe⟩ := hsafe
  rw [setupConnector, Prog.bind_of_ok (isPlugged_eq_ok_iff.2 ⟨p, hanswer, rfl⟩), afterConnector,
    hanswer]
  dsimp only
  cases hplugged : p.plugged with
  | false => exact ⟨_, rfl⟩
  | true =>
    obtain ⟨hres, hsecond⟩ := hsafe hplugged
    obtain ⟨⟨id, h₂⟩, hgiven⟩ : ∃ g, given k fd p (conn.afterQuery h) = g := ⟨_, rfl⟩
    rw [hgiven] at hsecond ⊢
    have hfind : findCrtc fd (conn.holding p) k (conn.afterQuery h) = .ok (id, h₂) :=
      findCrtc_eq_ok_iff.2 ⟨hres, hgiven.symm⟩
    rw [Bool.not_true, if_neg Bool.false_ne_true, Prog.bind_of_ok hfind, if_pos rfl]
    by_cases hzero : id = 0
    · rw [if_pos hzero, if_pos hzero]
      exact ⟨_, rfl⟩
    · obtain ⟨p', found, hanswer', hfound, hf⟩ := hsecond hzero
      have hrange : ((conn.holding p).setCrtcId id).getModeRange k h₂ = .ok _ :=
        getModeRange_eq_ok_iff.2 ⟨p', hanswer', rfl⟩
      obtain ⟨⟨⟨r, crtcs'⟩, h₃⟩, hv⟩ := visitFirst_assignRange_isOk_iff.2
        ⟨found, hfound, fun h => (isSome_range_iff p').2 (hf h)⟩
      obtain rfl := visitFirst_assignRange_log hv
      rw [if_neg hzero, if_neg hzero, Prog.bind_of_ok hrange]
      exact ⟨_, Prog.bind_of_ok hv⟩

/-- The connector is plugged at first and given a CRTC, and is gone, or not plugged
    any more, at the second query. -/
def DrmConnector.Disappears (k : Kernel) (fd : ℤ) (conn : DrmConnector) (h : History) : Prop :=
  ∃ p, conn.answer k h = some p ∧ p.plugged = true ∧ (given k fd p (conn.afterQuery h)).1 ≠ 0 ∧
    ∀ p', conn.answer k (given k fd p (conn.afterQuery h)).2 = some p' → p'.plugged = false

/-- The setup skips a connector: the connector keeps its CRTC, and no CRTC is
    written to. -/
def Skips (fd : ℤ) (confMode : Size) (conn : DrmConnector) (crtcs : List DrmCrtc) (k : Kernel)
    (h : History) : Prop :=
  ∃ conn' h', setupConnector fd confMode conn crtcs k h = .ok ((conn', crtcs), h') ∧
    conn'.crtcId = conn.crtcId

/-- A connector that disappears has had the CRTC that it is given. -/
def DrmConnector.HadGiven (k : Kernel) (fd : ℤ) (conn : DrmConnector) (h : History) : Prop :=
  conn.Disappears k fd h →
    ∀ p ∈ conn.answer k h, (given k fd p (conn.afterQuery h)).1 = conn.crtcId

/-- The setup writes the CRTC to a connector that disappears, but nothing to the
    CRTC. -/
theorem eq_of_disappears {confMode : Size} {conn conn' : DrmConnector} {p : Connector}
    {crtcs crtcs' : List DrmCrtc} (hd : conn.Disappears k fd h) (hp : conn.answer k h = some p)
    (hr : setupConnector fd confMode conn crtcs k h = .ok ((conn', crtcs'), h')) :
    crtcs' = crtcs ∧ conn'.crtcId = (given k fd p (conn.afterQuery h)).1 := by
  obtain ⟨p₁, hanswer, hplugged, hne, hgone⟩ := hd
  cases hp.symm.trans hanswer
  obtain ⟨plugged, conn₁, h₁, hfirst, hr⟩ := setupConnector_eq_ok hr
  obtain ⟨q, hanswer', heq⟩ := isPlugged_eq_ok_iff.1 hfirst
  cases hp.symm.trans hanswer'
  cases heq
  rcases hr with ⟨hunplugged, _⟩ | ⟨_, id, h₂, hfind, hr⟩
  · rw [hunplugged] at hplugged
    cases hplugged
  have hgiven := (findCrtc_eq_ok_iff.1 hfind).2
  change (id, h₂) = given k fd p (conn.afterQuery h) at hgiven
  rw [← hgiven] at hne hgone ⊢
  rcases hr with ⟨hzero, _⟩ | ⟨_, range, h₃, r, hrange, hv⟩
  · exact absurd hzero hne
  obtain ⟨p', hsecond, heq⟩ := getModeRange_eq_ok_iff.1 hrange
  cases heq
  -- there is no range, so the search came to no CRTC
  have hunplugged : p'.plugged = false := hgone p' hsecond
  rw [hunplugged, if_neg Bool.false_ne_true] at hv
  refine ⟨?_, rfl⟩
  have hsame : List.Forall₂ Eq crtcs crtcs' := by
    refine Prog.visitFirst_forall₂ (fun _ => rfl) (fun c a c' l l' hf => ?_) hv
    obtain ⟨_, _, hnone, _⟩ := assignRange_eq_ok.1 hf
    cases hnone
  rw [List.forall₂_eq_eq_eq] at hsame
  exact hsame.symm

/-- A connector with safe answers that disappears is skipped if and only if it has
    had the CRTC. -/
theorem skips_iff_of_safe {confMode : Size} {conn : DrmConnector} {crtcs : List DrmCrtc}
    (hsafe : ConnectorSafe k fd (crtcs.map DrmCrtc.mCrtc) conn h) :
    (conn.Disappears k fd h → Skips fd confMode conn crtcs k h) ↔ conn.HadGiven k fd h := by
  refine forall_congr' fun hd => ?_
  obtain ⟨⟨conn', crtcs'⟩, hr⟩ : ∃ r, setupConnector fd confMode conn crtcs k h =
    .ok (r, afterConnector k fd conn h) := setupConnector_of_safe hsafe
  obtain ⟨p, hp, _⟩ := id hd
  obtain ⟨rfl, hid⟩ := eq_of_disappears hd hp hr
  constructor
  · rintro ⟨conn₁, h₁, hskip, hsame⟩ q hq
    obtain rfl := Option.some.inj (hp.symm.trans hq)
    rw [hr] at hskip
    cases hskip
    exact hid.symm.trans hsame
  · intro hhad
    exact ⟨conn', _, hr, hid.trans (hhad p hp)⟩

/-! ## The setup of a device -/

/-- The answers about some connectors, in turn, are safe. -/
def AllSafe (k : Kernel) (fd : ℤ) (crtcs : List (Option Crtc)) : List DrmConnector → History → Prop
  | [], _ => True
  | conn :: conns, h =>
    ConnectorSafe k fd crtcs conn h ∧ AllSafe k fd crtcs conns (afterConnector k fd conn h)

theorem forEach_setupConnector_isOk_iff {confMode : Size} {conns : List DrmConnector}
    {crtcs : List DrmCrtc} :
    (∃ r, Prog.forEach (setupConnector fd confMode) conns crtcs k h = .ok r) ↔
      AllSafe k fd (crtcs.map DrmCrtc.mCrtc) conns h := by
  induction conns generalizing crtcs h with
  | nil => simp [Prog.forEach, AllSafe]
  | cons conn conns ih =>
    rw [Prog.forEach, AllSafe]
    by_cases hsafe : ConnectorSafe k fd (crtcs.map DrmCrtc.mCrtc) conn h
    · have hr : ∃ r, setupConnector fd confMode conn crtcs k h =
          .ok (r, afterConnector k fd conn h) := setupConnector_of_safe hsafe
      obtain ⟨⟨conn', crtcs'⟩, hr⟩ := hr
      have hsame : crtcs'.map DrmCrtc.mCrtc = crtcs.map DrmCrtc.mCrtc :=
        mCrtc_of_refit (refit_of_setupConnector hr).2
      rw [Prog.bind_of_ok hr, and_iff_right hsafe, ← hsame, ← ih]
      constructor
      · rintro ⟨r, hrest⟩
        obtain ⟨s, _, hs, _⟩ := Prog.bind_eq_ok.1 hrest
        exact ⟨_, hs⟩
      · rintro ⟨s, hs⟩
        exact ⟨_, Prog.bind_of_ok hs⟩
    · refine iff_of_false ?_ fun hall => hsafe hall.1
      rintro ⟨r, hr⟩
      obtain ⟨s, _, hs, _⟩ := Prog.bind_eq_ok.1 hr
      exact hsafe (safe_of_setupConnector hs)

/-- Of some connectors, in turn, those that disappear are skipped. -/
def SkipsGone (fd : ℤ) (confMode : Size) (k : Kernel) :
    List DrmConnector → List DrmCrtc → History → Prop
  | [], _, _ => True
  | conn :: conns, crtcs, h => (conn.Disappears k fd h → Skips fd confMode conn crtcs k h) ∧
    ∀ r h', setupConnector fd confMode conn crtcs k h = .ok (r, h') →
      SkipsGone fd confMode k conns r.2 h'

/-- Those that disappear have had the CRTC that they are given. -/
def AllHadGiven (k : Kernel) (fd : ℤ) : List DrmConnector → History → Prop
  | [], _ => True
  | conn :: conns, h =>
    conn.HadGiven k fd h ∧ AllHadGiven k fd conns (afterConnector k fd conn h)

theorem skipsGone_iff_of_safe {confMode : Size} {conns : List DrmConnector} {crtcs : List DrmCrtc}
    (hsafe : AllSafe k fd (crtcs.map DrmCrtc.mCrtc) conns h) :
    SkipsGone fd confMode k conns crtcs h ↔ AllHadGiven k fd conns h := by
  induction conns generalizing crtcs h with
  | nil => exact iff_of_true trivial trivial
  | cons conn conns ih =>
    obtain ⟨hconn, hconns⟩ := hsafe
    rw [SkipsGone, AllHadGiven, skips_iff_of_safe hconn]
    refine and_congr_right fun _ => ?_
    obtain ⟨⟨conn', crtcs'⟩, hr⟩ : ∃ r, setupConnector fd confMode conn crtcs k h =
      .ok (r, afterConnector k fd conn h) := setupConnector_of_safe hconn
    -- the ids of the CRTCs stay the same
    have hsame : crtcs'.map DrmCrtc.mCrtc = crtcs.map DrmCrtc.mCrtc :=
      mCrtc_of_refit (refit_of_setupConnector hr).2
    rw [← hsame] at hconns
    rw [← ih hconns]
    constructor
    · exact fun hall => hall _ _ hr
    · intro hall r h' hr'
      rw [hr] at hr'
      cases hr'
      exact hall

theorem deref_eq_error {α : Type} {x : Option α} {e : Fault} (hx : deref x = .error e) :
    e = .nullDeref := by
  cases x <;> cases hx
  rfl

theorem faults_ask {α : Type} (fd : ℤ) (q : Query) (answer : Card → α) :
    (ask fd q answer).Faults (· = .nullDeref) := .call

theorem faults_isPlugged (conn : DrmConnector) : conn.isPlugged.Faults (· = .nullDeref) :=
  .bind (faults_ask _ _ _) fun _ => .bind (.lift fun _ => deref_eq_error) fun _ => .pure _

theorem faults_scanEncoders (fd : ℤ) (res : Option Resources) :
    ∀ (ids : List ℕ) (crtc : ℕ), (scanEncoders fd res ids crtc).Faults (· = .nullDeref)
  | [], _ => .pure _
  | _ :: ids, _ => by
    refine .bind (faults_ask _ _ _) fun enc => ?_
    cases enc with
    | none => exact faults_scanEncoders fd res ids _
    | some enc =>
      exact .bind (.lift fun _ => deref_eq_error) fun _ => faults_scanEncoders fd res ids _

theorem faults_findCrtc (fd : ℤ) (conn : DrmConnector) :
    (findCrtc fd conn).Faults (· = .nullDeref) := by
  refine .bind ?_ fun enc => ?_
  · rw [currentEncoder]
    split
    · exact faults_ask _ _ _
    · exact .pure _
  · cases enc with
    | some enc => exact .pure _
    | none => exact .bind (faults_ask _ _ _) fun res => faults_scanEncoders _ _ _ _

/-- The setup of a connector fails by a null pointer only. -/
theorem faults_setupConnector (fd : ℤ) (confMode : Size) (conn : DrmConnector)
    (crtcs : List DrmCrtc) : (setupConnector fd confMode conn crtcs).Faults (· = .nullDeref) := by
  refine .bind (faults_isPlugged conn) fun ⟨plugged, conn⟩ => ?_
  dsimp only
  split
  · exact .pure _
  · refine .bind (faults_findCrtc _ _) fun crtcId => ?_
    split
    · exact .pure _
    · refine .bind (.bind (faults_isPlugged _) fun _ => .pure _) fun ⟨range, conn⟩ =>
        .bind (.visitFirst (fun crtc e he => ?_) (fun crtc => ?_) _) fun _ => .pure _
      · rw [DrmCrtc.hasId, DrmCrtc.crtcId] at he
        cases hp : crtc.mCrtc with
        | none =>
          rw [hp] at he
          cases he
          rfl
        | some p =>
          rw [hp] at he
          cases he
      · exact .bind (.lift fun _ => deref_eq_error) fun _ => .pure _

namespace DriDevice

variable {d : DriDevice} {confMode : Size}

/-- The check for dumb buffers passes, if it is made. -/
def Checked (d : DriDevice) (k : Kernel) (h : History) : Prop :=
  d.hasDumbBuffChecked = true ∨ (k.card h d.drmModuleFd).dumbBuffers = true

/-- What happened then. -/
def afterCheck (d : DriDevice) (h : History) : History :=
  if d.hasDumbBuffChecked then h else .query (.dumbBuffers d.drmModuleFd) :: h

/-- The answers about the connectors are safe, unless the setup ends before them. -/
def Answered (d : DriDevice) (k : Kernel) (h : History) : Prop :=
  d.Checked k h → AllSafe k d.drmModuleFd (d.crtcList.map DrmCrtc.mCrtc) d.connectorList
    (d.afterCheck h)

theorem checkDumbBuff_of_checked (hc : d.Checked k h) :
    d.checkDumbBuff k h = .ok ((), d.afterCheck h) := by
  rw [checkDumbBuff, afterCheck]
  cases hb : d.hasDumbBuffChecked with
  | true => rfl
  | false =>
    have hdumb : (k.card h d.drmModuleFd).dumbBuffers = true := by simpa [Checked, hb] using hc
    rw [if_neg Bool.false_ne_true, hasDumbBuff, drmGetCapDumbBuffer, ask,
      Prog.bind_of_ok (Prog.call_eq_ok.2 rfl), hdumb]
    rfl

theorem checkDumbBuff_of_not_checked (hc : ¬ d.Checked k h) :
    ∃ message, d.checkDumbBuff k h = .error (.fatalException message) := by
  rw [Checked, not_or, Bool.not_eq_true, Bool.not_eq_true] at hc
  rw [checkDumbBuff, hc.1, if_neg Bool.false_ne_true, hasDumbBuff, drmGetCapDumbBuffer, ask,
    Prog.bind_of_ok (Prog.call_eq_ok.2 rfl), hc.2]
  exact ⟨_, rfl⟩

/-- The setup of a device reads through no null pointer if and only if the answers
    about its connectors are safe. -/
theorem setupDevice_safe_iff :
    d.setupDevice confMode k h ≠ .error .nullDeref ↔ d.Answered k h := by
  by_cases hc : d.Checked k h
  · have hloop : (∃ r, Prog.forEach (setupConnector d.drmModuleFd confMode) d.connectorList
        d.crtcList k (d.afterCheck h) = .ok r) ↔ d.Answered k h := by
      rw [forEach_setupConnector_isOk_iff, Answered, forall_prop_of_true hc]
    rw [setupDevice, Prog.bind_of_ok (checkDumbBuff_of_checked hc), ← hloop]
    cases hr : Prog.forEach (setupConnector d.drmModuleFd confMode) d.connectorList d.crtcList k
        (d.afterCheck h) with
    | ok r =>
      rw [Prog.bind_of_ok hr]
      exact iff_of_true (by simp [pure]) ⟨r, rfl⟩
    | error e =>
      obtain rfl := Prog.Faults.forEach (faults_setupConnector _ _) _ _ _ _ _ hr
      rw [Prog.bind_of_error hr]
      exact iff_of_false (by simp) (by simp)
  · obtain ⟨message, hfatal⟩ := checkDumbBuff_of_not_checked hc
    rw [setupDevice, Prog.bind_of_error hfatal]
    exact iff_of_true (by simp) fun h => absurd h hc

end DriDevice

namespace DRIElements

/-- An update reads through no null pointer, and skips the connectors of its device
    that disappear between two queries. -/
structure SafeUpdate (e : DRIElements) (name : String) (k : Kernel) (h : History) : Prop where
  readsNoNull : e.updateDevice name k h ≠ .error .nullDeref
  skipsGone : ∀ d, e.mDeviceList.lookup name = some d → d.Checked k h →
    SkipsGone d.drmModuleFd e.confMode k d.connectorList d.crtcList (d.afterCheck h)

/-- No null pointer is read through if and only if the answers about the connectors
    are safe. -/
theorem readsNoNull_iff (e : DRIElements) (name : String) :
    e.updateDevice name k h ≠ .error .nullDeref ↔
      ∀ d, e.mDeviceList.lookup name = some d → d.Answered k h := by
  rw [updateDevice]
  cases hd : e.mDeviceList.lookup name with
  | none => exact iff_of_true (by simp [pure]) (by simp)
  | some d =>
    have hsafe : d.setupDevice e.confMode k h ≠ .error .nullDeref ↔ d.Answered k h :=
      DriDevice.setupDevice_safe_iff
    simp only [Option.some.injEq, forall_eq']
    rw [← hsafe]
    cases hs : d.setupDevice e.confMode k h with
    | error f =>
      rw [Prog.bind_of_error hs]
      simp
    | ok r =>
      rw [Prog.bind_of_ok hs]
      exact iff_of_true (by simp [pure]) (by simp)

/-- An update is safe if and only if the answers about the connectors of its device
    are, and those that disappear have had the CRTC that they are given. -/
theorem updateDevice_safe_iff (e : DRIElements) (name : String) :
    e.SafeUpdate name k h ↔ ∀ d, e.mDeviceList.lookup name = some d → d.Checked k h →
      AllSafe k d.drmModuleFd (d.crtcList.map DrmCrtc.mCrtc) d.connectorList (d.afterCheck h) ∧
        AllHadGiven k d.drmModuleFd d.connectorList (d.afterCheck h) := by
  constructor
  · rintro ⟨hnull, hskips⟩ d hd hc
    have hsafe := (readsNoNull_iff e name).1 hnull d hd hc
    exact ⟨hsafe, (skipsGone_iff_of_safe hsafe).1 (hskips d hd hc)⟩
  · intro hall
    refine ⟨(readsNoNull_iff e name).2 fun d hd hc => (hall d hd hc).1, fun d hd hc => ?_⟩
    obtain ⟨hsafe, hhad⟩ := hall d hd hc
    exact (skipsGone_iff_of_safe hsafe).2 hhad

/-- A display that is unplugged between the two queries of an update: the setup
    reads the size of a mode that is not there. -/
theorem updateDevice_reads_null : ∃ (k : Kernel) (e : DRIElements) (h : History),
    new ⟨1920, 1080⟩ k [] = .ok (e, h) ∧
      ((k.card h 3).connector 21).map Connector.plugged = some true ∧
        ((k.card (.query (.encoder 3 11) :: .query (.connector 3 21) :: h) 3).connector 21).map
            Connector.plugged = some false ∧
          e.updateDevice "/dev/dri/card0" k h = .error .nullDeref ∧
            ¬ e.SafeUpdate "/dev/dri/card0" k h := by
  let k : Kernel := { Kernel.willing fun _ => .oneDisplay with
    -- the fifth query about the connector is the last one that finds the display
    card := fun h _ => if 5 ≤ h.count (.query (.connector 3 21)) then .noDisplay else .oneDisplay }
  have hrun : (new ⟨1920, 1080⟩ k []).map (fun s =>
      (((k.card s.2 3).connector 21).map Connector.plugged,
        ((k.card (.query (.encoder 3 11) :: .query (.connector 3 21) :: s.2) 3).connector 21).map
          Connector.plugged, (s.1.updateDevice "/dev/dri/card0" k s.2).map fun _ => ())) =
      .ok (some true, some false, .error .nullDeref) := by
    decide +kernel
  obtain ⟨⟨e, h⟩, hnew, hobs⟩ := Prog.exists_of_map_eq_ok hrun
  obtain ⟨hfirst, hobs⟩ := Prod.mk.inj hobs
  obtain ⟨hsecond, hupdate⟩ := Prod.mk.inj hobs
  have hnull : e.updateDevice "/dev/dri/card0" k h = .error .nullDeref := by
    cases hu : e.updateDevice "/dev/dri/card0" k h with
    | ok r =>
      dsimp only at hupdate
      rw [hu] at hupdate
      cases hupdate
    | error f =>
      dsimp only at hupdate
      rw [hu] at hupdate
      cases hupdate
      rfl
  exact ⟨k, e, h, hnew, hfirst, hsecond, hnull, fun hsafe => hsafe.readsNoNull hnull⟩

end DRIElements

end ValRpi
