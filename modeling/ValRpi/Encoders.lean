import ValRpi.Assignment
import ValRpi.NullReads

/-!
# The search for a CRTC

A connector has encoders, one of which may be its current one, and an encoder
has a mask of CRTCs and may be bound to one. `findCrtc` returns the CRTC of the
current encoder if there is a current encoder, even if it is bound to none, and
looks at masks only if there is none.

`findCrtc_complete_iff` says when it finds a CRTC if there is one to find.
-/

namespace ValRpi

variable {k : Kernel} {h h' : History} {fd : ℤ}

namespace Card

variable {card : Card} {p : Connector} {crtcId : ℕ}

/-- The encoders of a connector that can be read, the current one first. -/
def encodersOf (card : Card) (p : Connector) : List Encoder :=
  (card.currentEncoder p).toList ++ p.encoders.filterMap card.encoder

/-- An encoder of the connector can drive a CRTC: it is bound to it, or has it in
    its mask. -/
def Drives (card : Card) (p : Connector) (crtcId : ℕ) : Prop :=
  ∃ enc ∈ card.encodersOf p, crtcId ≠ 0 ∧ enc.crtcId = crtcId ∨ crtcId ∈ enc.drivable card.crtcIds

theorem Drives.ne_zero (hzero : 0 ∉ card.crtcIds) (hd : card.Drives p crtcId) : crtcId ≠ 0 := by
  obtain ⟨enc, _, ⟨hne, _⟩ | hid⟩ := hd
  · exact hne
  · exact ne_of_mem_of_not_mem (Encoder.drivable_subset hid) hzero

/-- The current encoder has a CRTC, or there is none and a mask of another encoder
    has one. -/
def Reaches (card : Card) (p : Connector) : Prop :=
  (∃ enc ∈ card.currentEncoder p, enc.crtcId ≠ 0) ∨
    card.currentEncoder p = none ∧ ∃ enc ∈ p.encoders.filterMap card.encoder,
      enc.drivable card.crtcIds ≠ []

/-- What is found can be driven exactly if the search reaches a CRTC. -/
theorem drives_crtcFor_iff (hzero : 0 ∉ card.crtcIds) :
    card.Drives p (card.crtcFor p) ↔ card.Reaches p := by
  rw [Reaches, crtcFor]
  cases hcurrent : card.currentEncoder p with
  | some enc =>
    constructor
    · intro hd
      exact .inl ⟨enc, rfl, hd.ne_zero hzero⟩
    · rintro (⟨enc', henc', hne⟩ | ⟨hnone, _⟩)
      · obtain rfl := Option.some.inj henc'
        refine ⟨enc, ?_, .inl ⟨hne, rfl⟩⟩
        rw [encodersOf, hcurrent]
        exact List.mem_cons_self
      · cases hnone
  | none =>
    constructor
    · intro hd
      obtain ⟨enc, henc, hid⟩ := drivable_of_searchCrtc (hd.ne_zero hzero)
      exact .inr ⟨rfl, enc, henc, List.ne_nil_of_mem hid⟩
    · rintro (⟨enc, henc, _⟩ | ⟨_, enc, henc, hne⟩)
      · cases henc
      · obtain ⟨id, hid⟩ := List.exists_mem_of_ne_nil _ hne
        obtain ⟨enc', henc', hid'⟩ := drivable_of_searchCrtc (searchCrtc_ne_zero hzero henc hid)
        refine ⟨enc', ?_, .inr hid'⟩
        rw [encodersOf, hcurrent]
        exact henc'

end Card

/-- A search succeeds if the resources of the card can be read. -/
theorem exists_findCrtc (hk : k.Steady) (hres : (k.card h fd).resources.isSome)
    (conn : DrmConnector) :
    ∃ h', findCrtc fd conn k h = .ok ((k.card h fd).crtcFor conn.mConnectorPtr, h') := by
  have hsafe : ResourcesSafe k fd conn.mConnectorPtr h := by
    intro _ hnone
    have hcard : k.card (currentAnswer k fd conn.mConnectorPtr h).2 fd = k.card h fd := by
      rw [currentAnswer]
      split
      · exact hk _ _ _
      · rfl
    rw [resourcesAnswer, hcard] at hnone
    rw [hnone] at hres
    cases hres
  obtain ⟨⟨id, h'⟩, hr⟩ : ∃ r, findCrtc fd conn k h = .ok r :=
    ⟨_, findCrtc_eq_ok_iff.2 ⟨hsafe, rfl⟩⟩
  refine ⟨h', ?_⟩
  rw [hr, findCrtc_eq hk rfl hr]

/-- A search finds a CRTC that can be driven if there is one, and finds none only
    if there is none. -/
def FindsCrtc (k : Kernel) (h : History) (fd : ℤ) (conn : DrmConnector) : Prop :=
  ∃ id h', findCrtc fd conn k h = .ok (id, h') ∧
    ((∃ crtcId, (k.card h fd).Drives conn.mConnectorPtr crtcId) →
      (k.card h fd).Drives conn.mConnectorPtr id) ∧
    (id = 0 → ∀ crtcId, ¬ (k.card h fd).Drives conn.mConnectorPtr crtcId)

/-- A search is complete if and only if there is no CRTC to find, or the current
    encoder has one, or there is none and a mask of another encoder has one. -/
theorem findCrtc_complete_iff (hk : k.Steady) (hres : (k.card h fd).resources.isSome)
    (hzero : 0 ∉ (k.card h fd).crtcIds) (conn : DrmConnector) : FindsCrtc k h fd conn ↔
      (∀ crtcId, ¬ (k.card h fd).Drives conn.mConnectorPtr crtcId) ∨
        (k.card h fd).Reaches conn.mConnectorPtr := by
  obtain ⟨h', hr⟩ := exists_findCrtc hk hres conn
  rw [← Card.drives_crtcFor_iff hzero, FindsCrtc, hr]
  constructor
  · rintro ⟨id, h'', heq, hdrives, _⟩
    obtain ⟨rfl, _⟩ := Prod.mk.inj (Except.ok.inj heq)
    by_cases hex : ∃ crtcId, (k.card h fd).Drives conn.mConnectorPtr crtcId
    · exact .inr (hdrives hex)
    · exact .inl (not_exists.1 hex)
  · intro hor
    refine ⟨_, h', rfl, fun hex => ?_, fun hid crtcId hd => ?_⟩
    · exact hor.resolve_left fun hnone => hnone _ hex.choose_spec
    · rcases hor with hnone | hd'
      · exact hnone crtcId hd
      · exact hd'.ne_zero hzero hid

/-- The current encoder of a display is bound to a CRTC. -/
theorem findCrtc_complete_one_display : ∃ conn,
    DrmConnector.new 3 (Card.oneDisplay.connector 21) = .ok conn ∧
      FindsCrtc (.willing fun _ => .oneDisplay) [] 3 conn := by
  have hzero : 0 ∉ ((Kernel.willing fun _ => .oneDisplay).card [] 3).crtcIds :=
    Card.oneDisplay_sane.zero_not_mem_crtcIds
  refine ⟨_, rfl, (findCrtc_complete_iff (Kernel.scripted_steady _ _ _ _) rfl hzero _).2 ?_⟩
  exact .inr (.inl ⟨⟨11, 31, 1⟩, rfl, by decide⟩)

/-- A display whose current encoder is bound to no CRTC, and can drive one. -/
def Card.idleEncoder : Card :=
  .ofTables [31] [⟨21, 11, 11, .connected, [.progressive 1920 1080], [11]⟩] [⟨11, 0, 1⟩] [⟨41, 1⟩]

/-- No CRTC is found for it. -/
theorem findCrtc_misses_idle : ∃ conn,
    DrmConnector.new 3 (Card.idleEncoder.connector 21) = .ok conn ∧
      (∃ h, findCrtc 3 conn (.willing fun _ => .idleEncoder) [] = .ok (0, h)) ∧
        Card.idleEncoder.Drives conn.mConnectorPtr 31 ∧
          ¬ FindsCrtc (.willing fun _ => .idleEncoder) [] 3 conn := by
  have hdrives : Card.idleEncoder.Drives
      ⟨21, 11, 11, .connected, [.progressive 1920 1080], [11]⟩ 31 :=
    ⟨⟨11, 0, 1⟩, by decide, .inr (by decide)⟩
  refine ⟨_, rfl, ⟨_, rfl⟩, hdrives, ?_⟩
  rintro ⟨id, h', hr, _, hnone⟩
  cases hr
  exact hnone rfl 31 hdrives

end ValRpi
