import ValRpi.Reach

/-!
# Displays

The displays are numbered twice. The check of a display path counts the plugged
connectors (`getSupportedNumConnector`), the search for its connector counts all
of them (`findDisplay`), up to 256.

* `findDisplay_eq` and `getSupportedNumConnector_eq` say what both come to on a
  kernel that does not change meanwhile;
* they agree if and only if the plugged connectors are at the first positions of
  the list (`displayPath_one_to_one_iff`).
-/

namespace ValRpi

variable {k : Kernel} {h h' : History} {card : Card} {fd : ℤ}

/-- The connectors of a device can be asked: they are those of its card, which
    answers about each. -/
structure Answered (card : Card) (fd : ℤ) (conns : List DrmConnector) : Prop where
  fds : ∀ conn ∈ conns, conn.mDrmModulefd = fd
  read : ∀ conn ∈ conns, (card.connector conn.connectorId).isSome

theorem Answered.tail {conn : DrmConnector} {conns : List DrmConnector}
    (ha : Answered card fd (conn :: conns)) : Answered card fd conns :=
  ⟨fun c hc => ha.fds c (List.mem_cons_of_mem _ hc),
    fun c hc => ha.read c (List.mem_cons_of_mem _ hc)⟩

theorem Answered.refresh {conns : List DrmConnector} (ha : Answered card fd conns) :
    Answered card fd (conns.map (·.refresh card)) := by
  refine ⟨List.forall_mem_map.2 ha.fds, List.forall_mem_map.2 fun c hc => ?_⟩
  rw [DrmConnector.connectorId_refresh]
  exact ha.read c hc

/-- A connector that can be asked. -/
theorem isPlugged_of_answered {conn : DrmConnector} {conns : List DrmConnector}
    (ha : Answered card fd conns) (hconn : conn ∈ conns) (hcard : k.card h fd = card) :
    conn.isPlugged k h = .ok ((card.plugged conn.connectorId, conn.refresh card),
      .query (.connector fd conn.connectorId) :: h) := by
  have hfd := ha.fds conn hconn
  obtain ⟨p, hp⟩ := Option.isSome_iff_exists.1 (ha.read conn hconn)
  refine DrmConnector.isPlugged_eq_ok.2 ⟨p, ?_, ?_, ?_, by rw [hfd]⟩
  · rw [hfd, hcard, hp]
  · rw [Card.plugged, hp]
    rfl
  · rw [DrmConnector.refresh, hp]
    rfl

/-- What happened once the card was asked about connectors, in turn. -/
def askedAbout (fd : ℤ) (conns : List DrmConnector) (h : History) : History :=
  conns.foldl (fun h conn => .query (.connector fd conn.connectorId) :: h) h

/-- The plugged connectors with their positions, from a position on. -/
def pluggedFrom (card : Card) (conns : List DrmConnector) (i : ℕ) : List (DrmConnector × ℕ) :=
  (conns.zipIdx i).filter fun q => card.plugged q.1.connectorId

/-- The display path that a position is counted as, on 8 bits. -/
def countedAs (q : DrmConnector × ℕ) : ℕ := q.2 % 256

theorem pluggedFrom_of_plugged {conn : DrmConnector} {conns : List DrmConnector} {i : ℕ}
    (hp : card.plugged conn.connectorId = true) :
    pluggedFrom card (conn :: conns) i = (conn, i) :: pluggedFrom card conns (i + 1) := by
  rw [pluggedFrom, List.zipIdx_cons, pluggedFrom]
  exact List.filter_cons_of_pos hp

theorem pluggedFrom_of_not_plugged {conn : DrmConnector} {conns : List DrmConnector} {i : ℕ}
    (hp : ¬ card.plugged conn.connectorId = true) :
    pluggedFrom card (conn :: conns) i = pluggedFrom card conns (i + 1) := by
  rw [pluggedFrom, List.zipIdx_cons, pluggedFrom]
  exact List.filter_cons_of_neg hp

theorem mem_pluggedFrom {conns : List DrmConnector} {i : ℕ} {q : DrmConnector × ℕ}
    (hq : q ∈ pluggedFrom card conns i) : q.1 ∈ conns ∧ card.plugged q.1.connectorId = true := by
  obtain ⟨hmem, hp⟩ := List.mem_filter.1 hq
  exact ⟨List.fst_mem_of_mem_zipIdx hmem, hp⟩

theorem le_of_mem_pluggedFrom {conns : List DrmConnector} {i : ℕ} {q : DrmConnector × ℕ}
    (hq : q ∈ pluggedFrom card conns i) : i ≤ q.2 :=
  List.le_snd_of_mem_zipIdx (List.mem_filter.1 hq).1

theorem exists_mem_pluggedFrom {conns : List DrmConnector} {conn : DrmConnector} (i : ℕ)
    (hconn : conn ∈ conns) (hp : card.plugged conn.connectorId = true) :
    ∃ j, (conn, j) ∈ pluggedFrom card conns i := by
  rw [← List.zipIdx_map_fst i conns] at hconn
  obtain ⟨⟨c, j⟩, hj, rfl⟩ := List.mem_map.1 hconn
  exact ⟨j, List.mem_filter.2 ⟨hj, hp⟩⟩

/-- The plugged connectors are told apart by their ids. -/
theorem nodup_pluggedFrom {conns : List DrmConnector}
    (hids : (conns.map (·.connectorId)).Nodup) (i : ℕ) :
    ((pluggedFrom card conns i).map (·.1.connectorId)).Nodup := by
  have hall : (conns.zipIdx i).map (fun q => q.1.connectorId) = conns.map (·.connectorId) := by
    conv_rhs => rw [← List.zipIdx_map_fst i conns, List.map_map]
    rfl
  rw [← hall] at hids
  exact hids.sublist (List.filter_sublist.map _)

theorem pluggedFrom_refresh (conns : List DrmConnector) (i : ℕ) :
    pluggedFrom card (conns.map (·.refresh card)) i =
      (pluggedFrom card conns i).map fun q => (q.1.refresh card, q.2) := by
  rw [pluggedFrom, List.zipIdx_map, List.filter_map, pluggedFrom]
  congr 1
  refine List.filter_congr fun q _ => ?_
  simp

namespace DRIElements

/-- The search of `changeMode` finds the first plugged connector at a position
    that the display path stands for, and asks about those up to it. -/
theorem findDisplay_eq (hk : k.Steady) (hcard : k.card h fd = card) {conns : List DrmConnector}
    (ha : Answered card fd conns) (displayPath : UInt8) {dIdx : UInt8} {i : ℕ}
    (hi : dIdx.toNat = i % 256) :
    ∃ conns' h', findDisplay displayPath dIdx conns k h =
      .ok ((((pluggedFrom card conns i).find? (countedAs · == displayPath.toNat)).map
        (·.1.refresh card), conns'), h') ∧
      ∀ q, (pluggedFrom card conns i).find? (countedAs · == displayPath.toNat) = some q →
        h' = askedAbout fd (conns.take (q.2 + 1 - i)) h := by
  induction conns generalizing h dIdx i with
  | nil => exact ⟨_, _, rfl, fun q hq => by cases hq⟩
  | cons conn conns ih =>
    have hp := isPlugged_of_answered ha List.mem_cons_self hcard
    have hcard' := (hk h (.connector fd conn.connectorId) fd).trans hcard
    -- `dIdx` wraps around after 255
    have hnext : (dIdx + 1).toNat = (i + 1) % 256 := by
      rw [UInt8.toNat_add, hi]
      change (i % 256 + 1) % 256 = (i + 1) % 256
      omega
    have hpath : (dIdx == displayPath) = (i % 256 == displayPath.toNat) := by
      rw [Bool.eq_iff_iff, beq_iff_eq, beq_iff_eq, ← hi]
      exact UInt8.toNat_inj.symm
    obtain ⟨conns', h₁, hrest, hasked⟩ := ih hcard' ha.tail hnext
    -- one connector more is asked about than in the rest of the list
    have hmore : ∀ q, (pluggedFrom card conns (i + 1)).find? (countedAs · == displayPath.toNat) =
        some q → h₁ = askedAbout fd ((conn :: conns).take (q.2 + 1 - i)) h := by
      intro q hq
      have hle := le_of_mem_pluggedFrom (List.mem_of_find?_eq_some hq)
      rw [hasked q hq, show q.2 + 1 - i = q.2 + 1 - (i + 1) + 1 by omega]
      rfl
    rw [findDisplay, Prog.bind_of_ok hp]
    dsimp only
    by_cases hplugged : card.plugged conn.connectorId = true
    · rw [pluggedFrom_of_plugged hplugged, hplugged, Bool.true_and, hpath]
      by_cases hfound : (i % 256 == displayPath.toNat) = true
      · rw [if_pos hfound, List.find?_cons_of_pos (by exact hfound)]
        refine ⟨_, _, rfl, fun q hq => ?_⟩
        cases hq
        dsimp only
        rw [Nat.add_sub_cancel_left]
        rfl
      · rw [if_neg hfound, List.find?_cons_of_neg (by exact hfound), Prog.bind_of_ok hrest]
        exact ⟨_, _, rfl, hmore⟩
    · rw [pluggedFrom_of_not_plugged hplugged, if_neg (by simp [hplugged]), Prog.bind_of_ok hrest]
      exact ⟨_, _, rfl, hmore⟩

/-- The loop of `getSupportedNumConnector` counts the plugged connectors. -/
theorem countPlugged_eq (hk : k.Steady) (hcard : k.card h fd = card) {conns : List DrmConnector}
    (ha : Answered card fd conns) (n i : ℕ) :
    ∃ h', Prog.forEach countPlugged conns n k h =
      .ok ((conns.map (·.refresh card), n + (pluggedFrom card conns i).length), h') ∧
        k.card h' fd = card := by
  induction conns generalizing h n i with
  | nil => exact ⟨h, rfl, hcard⟩
  | cons conn conns ih =>
    have hp := isPlugged_of_answered ha List.mem_cons_self hcard
    have hcard' := (hk h (.connector fd conn.connectorId) fd).trans hcard
    obtain ⟨h₁, hrest, hcard₁⟩ := ih hcard' ha.tail
      (if card.plugged conn.connectorId = true then n + 1 else n) (i + 1)
    refine ⟨h₁, ?_, hcard₁⟩
    -- the count so far and the connectors ahead add up as before
    have hlen : n + (pluggedFrom card (conn :: conns) i).length =
        (if card.plugged conn.connectorId = true then n + 1 else n) +
          (pluggedFrom card conns (i + 1)).length := by
      by_cases hplugged : card.plugged conn.connectorId = true
      · rw [pluggedFrom_of_plugged hplugged, if_pos hplugged, List.length_cons]
        omega
      · rw [pluggedFrom_of_not_plugged hplugged, if_neg hplugged]
    rw [Prog.forEach, countPlugged, bind_assoc, Prog.bind_of_ok hp, pure_bind]
    dsimp only
    rw [Prog.bind_of_ok hrest, hlen]
    rfl

variable {e : DRIElements}

theorem getSupportedNumConnector_eq (hk : k.Steady)
    (ha : Answered (e.card k h) e.primary.drmModuleFd e.primary.connectorList) :
    ∃ h', e.getSupportedNumConnector k h =
      .ok (((pluggedFrom (e.card k h) e.primary.connectorList 0).length, e.setPrimary
        { e.primary with connectorList := e.primary.connectorList.map (·.refresh (e.card k h)) }),
          h') ∧ k.card h' e.primary.drmModuleFd = e.card k h := by
  obtain ⟨h', hloop, hcard⟩ := countPlugged_eq hk (rfl : k.card h _ = e.card k h) ha 0 0
  refine ⟨h', ?_, hcard⟩
  rw [getSupportedNumConnector, Prog.bind_of_ok hloop, Nat.zero_add]
  rfl

/-! ## Display paths -/

/-- The search of `changeMode` ends at a connector. -/
def Selects (e : DRIElements) (k : Kernel) (h : History) (displayPath : UInt8) (connId : ℕ) :
    Prop :=
  ∃ conn conns h', findDisplay displayPath 0 e.primary.connectorList k h =
    .ok ((some conn, conns), h') ∧ conn.connectorId = connId

/-- The display paths that the check of `setDisplayResolution` lets through, and
    the plugged connectors: each path selects one, no two paths the same one,
    and each one is selected. -/
def OneToOne (e : DRIElements) (k : Kernel) (h : History) : Prop :=
  ∃ n e₁ h₁, e.getSupportedNumConnector k h = .ok ((n, e₁), h₁) ∧
    (∀ displayPath : UInt8, displayPath.toNat < n % 2 ^ 16 →
      ∃ connId, e₁.Selects k h₁ displayPath connId ∧ (e.card k h).plugged connId = true) ∧
    (∀ displayPath displayPath' connId, displayPath.toNat < n % 2 ^ 16 →
      displayPath'.toNat < n % 2 ^ 16 → e₁.Selects k h₁ displayPath connId →
        e₁.Selects k h₁ displayPath' connId → displayPath = displayPath') ∧
    ∀ conn ∈ e.primary.connectorList, (e.card k h).plugged conn.connectorId = true →
      ∃ displayPath : UInt8, displayPath.toNat < n % 2 ^ 16 ∧
        e₁.Selects k h₁ displayPath conn.connectorId

theorem selects_iff (hk : k.Steady) (hcard : k.card h fd = card)
    (ha : Answered card fd e.primary.connectorList) {displayPath : UInt8} {connId : ℕ} :
    e.Selects k h displayPath connId ↔ ∃ q, (pluggedFrom card e.primary.connectorList 0).find?
      (countedAs · == displayPath.toNat) = some q ∧ q.1.connectorId = connId := by
  obtain ⟨conns', h', hfind, _⟩ := findDisplay_eq hk hcard ha displayPath
    (by rfl : (0 : UInt8).toNat = 0 % 256)
  rw [Selects, hfind]
  constructor
  · rintro ⟨conn, _, _, heq, rfl⟩
    obtain ⟨hconn, _⟩ := Prod.mk.inj (Prod.mk.inj (Except.ok.inj heq)).1
    obtain ⟨q, hq, rfl⟩ := Option.map_eq_some_iff.1 hconn
    exact ⟨q, hq, (q.1.connectorId_refresh card).symm⟩
  · rintro ⟨q, hq, rfl⟩
    rw [hq]
    exact ⟨q.1.refresh card, _, _, rfl, q.1.connectorId_refresh card⟩

/-- Display paths are numbers below 256. -/
theorem forall_displayPath_iff {n : ℕ} {P : ℕ → Prop} :
    (∀ displayPath : UInt8, displayPath.toNat < n → P displayPath.toNat) ↔
      ∀ x < min 256 n, P x := by
  constructor
  · intro hall x hx
    have hx' : (UInt8.ofNat x).toNat = x := UInt8.toNat_ofNat_of_lt (hx.trans_le (min_le_left _ _))
    have := hall (UInt8.ofNat x) (by omega)
    rwa [hx'] at this
  · intro hall displayPath hlt
    have := displayPath.toNat_lt
    exact hall _ (by omega)

theorem exists_displayPath_iff {n : ℕ} {P : ℕ → Prop} :
    (∃ displayPath : UInt8, displayPath.toNat < n ∧ P displayPath.toNat) ↔
      ∃ x < min 256 n, P x := by
  constructor
  · rintro ⟨displayPath, hlt, hP⟩
    have := displayPath.toNat_lt
    exact ⟨_, by omega, hP⟩
  · rintro ⟨x, hx, hP⟩
    have hx' : (UInt8.ofNat x).toNat = x := UInt8.toNat_ofNat_of_lt (hx.trans_le (min_le_left _ _))
    exact ⟨UInt8.ofNat x, by omega, hx'.symm ▸ hP⟩

/-- What the search of `changeMode` selects after the count of the connectors. -/
theorem selects_counted_iff (hk : k.Steady) (hcard : k.card h e.primary.drmModuleFd = card)
    (ha : Answered card e.primary.drmModuleFd e.primary.connectorList) (displayPath : UInt8)
    (connId : ℕ) :
    (e.setPrimary { e.primary with
      connectorList := e.primary.connectorList.map (·.refresh card) }).Selects
        k h displayPath connId ↔
      ∃ q, (pluggedFrom card e.primary.connectorList 0).find? (countedAs · == displayPath.toNat) =
        some q ∧ q.1.connectorId = connId := by
  rw [selects_iff hk (by exact hcard) (by simpa using ha.refresh), primary_setPrimary,
    pluggedFrom_refresh, List.find?_map]
  constructor
  · rintro ⟨q, hq, rfl⟩
    obtain ⟨q', hq', rfl⟩ := Option.map_eq_some_iff.1 hq
    exact ⟨q', hq', (q'.1.connectorId_refresh card).symm⟩
  · rintro ⟨q, hq, rfl⟩
    exact ⟨_, Option.map_eq_some_iff.2 ⟨q, hq, rfl⟩, q.1.connectorId_refresh card⟩

/-- Which display path selects which connector is a matter of their positions. -/
theorem oneToOne_iff (hk : k.Steady) (hd : e.primary.Sane)
    (ha : Answered (e.card k h) e.primary.drmModuleFd e.primary.connectorList)
    {plugged : List (DrmConnector × ℕ)}
    (hplugged : pluggedFrom (e.card k h) e.primary.connectorList 0 = plugged) : e.OneToOne k h ↔
      (∀ x < min 256 (plugged.length % 2 ^ 16), ∃ q, plugged.find? (countedAs · == x) = some q) ∧
        ∀ q ∈ plugged, ∃ x < min 256 (plugged.length % 2 ^ 16),
          plugged.find? (countedAs · == x) = some q := by
  obtain ⟨h₁, hcount, hcard₁⟩ := getSupportedNumConnector_eq hk ha
  have hselects := selects_counted_iff hk hcard₁ ha
  have hids : (plugged.map (·.1.connectorId)).Nodup :=
    hplugged ▸ nodup_pluggedFrom hd.connectorIds 0
  have hmem : ∀ q ∈ plugged, q.1 ∈ e.primary.connectorList ∧
      (e.card k h).plugged q.1.connectorId = true :=
    fun q hq => mem_pluggedFrom (hplugged ▸ hq)
  rw [hplugged] at hcount hselects
  -- numbers below 256 are display paths
  rw [← forall_displayPath_iff]
  simp only [← exists_displayPath_iff]
  constructor
  · rintro ⟨n, e₁, h₁', hrun, hall, _, honto⟩
    rw [hcount] at hrun
    cases hrun
    refine ⟨fun displayPath hlt => ?_, fun q hq => ?_⟩
    · obtain ⟨connId, hsel, _⟩ := hall displayPath hlt
      obtain ⟨q, hq, _⟩ := (hselects _ _).1 hsel
      exact ⟨q, hq⟩
    · obtain ⟨hconn, hp⟩ := hmem q hq
      obtain ⟨displayPath, hlt, hsel⟩ := honto q.1 hconn hp
      obtain ⟨q', hq', hid⟩ := (hselects _ _).1 hsel
      obtain rfl := Lists.eq_of_key_eq hids (Lists.of_find?_key hq').1 hq hid
      exact ⟨displayPath, hlt, hq'⟩
  · rintro ⟨hall, honto⟩
    refine ⟨_, _, h₁, hcount, fun displayPath hlt => ?_, ?_, fun conn hconn hp => ?_⟩
    · obtain ⟨q, hq⟩ := hall displayPath hlt
      exact ⟨q.1.connectorId, (hselects _ _).2 ⟨q, hq, rfl⟩, (hmem q (Lists.of_find?_key hq).1).2⟩
    · -- a connector has one position only, so two paths to it are the same
      rintro displayPath displayPath' connId _ _ hsel hsel'
      obtain ⟨q, hq, hid⟩ := (hselects _ _).1 hsel
      obtain ⟨q', hq', hid'⟩ := (hselects _ _).1 hsel'
      obtain ⟨hq, hpath⟩ := Lists.of_find?_key hq
      obtain ⟨hq', hpath'⟩ := Lists.of_find?_key hq'
      obtain rfl := Lists.eq_of_key_eq hids hq hq' (hid.trans hid'.symm)
      exact UInt8.toNat_inj.1 (hpath.symm.trans hpath')
    · obtain ⟨j, hj⟩ := exists_mem_pluggedFrom 0 hconn hp
      obtain ⟨displayPath, hlt, hq⟩ := honto _ (hplugged ▸ hj)
      exact ⟨displayPath, hlt, (hselects _ _).2 ⟨_, hq, rfl⟩⟩

/-- Display paths and plugged connectors are in one-to-one correspondence if and
    only if the positions of the plugged connectors, counted on 8 bits, are those
    from 0 on. -/
theorem displayPath_one_to_one_iff (hk : k.Steady) (hd : e.primary.Sane)
    (hread : ∀ conn ∈ e.primary.connectorList,
      ((e.card k h).connector conn.connectorId).isSome) :
    e.OneToOne k h ↔
      ((pluggedFrom (e.card k h) e.primary.connectorList 0).map countedAs).Perm
        (List.range (pluggedFrom (e.card k h) e.primary.connectorList 0).length) := by
  have hids : ((pluggedFrom (e.card k h) e.primary.connectorList 0).map
      (·.1.connectorId)).Nodup := nodup_pluggedFrom hd.connectorIds 0
  rw [oneToOne_iff hk hd ⟨hd.fds, hread⟩ rfl, Lists.find?_range_iff (List.Nodup.of_map _ hids)]
  constructor
  · intro hperm
    have hlen := hperm.length_eq
    rw [List.length_map, List.length_range] at hlen
    rwa [← hlen] at hperm
  · intro hperm
    -- there are at most 256 such positions
    have hle : (pluggedFrom (e.card k h) e.primary.connectorList 0).length ≤ 256 := by
      by_contra hlt
      obtain ⟨q, _, hq⟩ := List.mem_map.1 (hperm.mem_iff.2 (List.mem_range.2 (not_le.1 hlt)))
      rw [countedAs] at hq
      omega
    have hn : min 256 ((pluggedFrom (e.card k h) e.primary.connectorList 0).length % 2 ^ 16) =
        (pluggedFrom (e.card k h) e.primary.connectorList 0).length := by omega
    rwa [hn]

/-- Two plugged displays. -/
theorem displayPath_two_displays : ∃ e h,
    new ⟨1920, 1080⟩ (.willing fun _ => .twoDisplays) [] = .ok (e, h) ∧
      e.OneToOne (.willing fun _ => .twoDisplays) h := by
  let k : Kernel := .willing fun _ => .twoDisplays
  have hrun : (new ⟨1920, 1080⟩ k []).map (fun s => decide
      ((∀ conn ∈ s.1.primary.connectorList,
        ((s.1.card k s.2).connector conn.connectorId).isSome) ∧
      ((pluggedFrom (s.1.card k s.2) s.1.primary.connectorList 0).map countedAs).Perm
        (List.range (pluggedFrom (s.1.card k s.2) s.1.primary.connectorList 0).length))) =
          .ok true := by
    decide +kernel
  obtain ⟨⟨e, h⟩, hnew, hobs⟩ := Prog.exists_of_map_eq_ok hrun
  obtain ⟨hread, hperm⟩ := of_decide_eq_true hobs
  have hs : k.Sane := Kernel.scripted_sane _ _ _ _ fun _ => Card.twoDisplays_sane
  exact ⟨e, h, hnew, (displayPath_one_to_one_iff (Kernel.scripted_steady _ _ _ _)
    (kept_new hs hnew).sane hread).2 hperm⟩

/-- Only the second of two displays is plugged: the one display path that is let
    through selects no connector. -/
theorem displayPath_selects_none : ∃ e h,
    new ⟨1920, 1080⟩ (.willing fun _ => .secondDisplay) [] = .ok (e, h) ∧
      ¬ e.OneToOne (.willing fun _ => .secondDisplay) h := by
  let k : Kernel := .willing fun _ => .secondDisplay
  have hrun : (new ⟨1920, 1080⟩ k []).map (fun s =>
      (s.1.getSupportedNumConnector k s.2).map fun r => (r.1.1,
        (findDisplay 0 0 r.1.2.primary.connectorList k r.2).map fun f => f.1.1)) =
          .ok (.ok (1, .ok none)) := by
    decide +kernel
  obtain ⟨⟨e, h⟩, hnew, hobs⟩ := Prog.exists_of_map_eq_ok hrun
  obtain ⟨⟨⟨n, e₁⟩, h₁⟩, hcount, hobs⟩ := Prog.exists_of_map_eq_ok hobs
  obtain ⟨rfl, hobs⟩ := Prod.mk.inj hobs
  refine ⟨e, h, hnew, ?_⟩
  rintro ⟨n, e₂, h₂, hcount', hall, _⟩
  rw [hcount] at hcount'
  cases hcount'
  obtain ⟨_, ⟨conn, conns, h', hsel, _⟩, _⟩ := hall 0 (by decide)
  rw [hsel] at hobs
  cases hobs

end DRIElements

end ValRpi
