import ValRpi.Lib.Lists
import ValRpi.Video

/-!
# Supported modes

A mode is asked for by its size, and looked up by the name of that size. The
kernel names a progressive mode so (`modeName`), and an interlaced one with an
`i` at the end (`ModeInfo.Named`).

* Different sizes have different names, and no name of a size is that of an
  interlaced mode (`modeName_eq_iff`);
* hence a size that only interlaced modes have is reported as supported, and is
  refused (`getSupportedResolutions_agrees_iff`);
* a size is reported once for each place where its modes stand together
  (`getSupportedResolutions_once_iff`).
-/

namespace ValRpi

/-! ## Names -/

/-- A mode is named as the kernel names it. -/
def ModeInfo.Named (m : ModeInfo) : Prop :=
  m.name = modeName m.hdisplay m.vdisplay ++ if m.interlaced then "i" else ""

instance (m : ModeInfo) : Decidable m.Named := inferInstanceAs (Decidable (_ = _))

theorem toList_modeName (width height : ℕ) : (modeName width height).toList =
    Nat.toDigits 10 width ++ 'x' :: Nat.toDigits 10 height := by
  simp [modeName, ← Nat.toList_repr]

theorem not_mem_toDigits {c : Char} (hc : c.isDigit = false) (n : ℕ) :
    c ∉ Nat.toDigits 10 n := by
  intro hmem
  rw [Nat.isDigit_of_mem_toDigits (by decide) (by decide) hmem] at hc
  cases hc

theorem toDigits_injective {m n : ℕ} (heq : Nat.toDigits 10 m = Nat.toDigits 10 n) : m = n := by
  rw [← Nat.ofDigitChars_ten_toDigits (n := m), heq, Nat.ofDigitChars_ten_toDigits]

/-- The name of a size is that of a mode if and only if the mode has this size
    and is progressive. -/
theorem modeName_eq_iff {m : ModeInfo} (hm : m.Named) (s : Size) :
    modeName s.w s.h = m.name ↔ m.size = s ∧ m.interlaced = false := by
  rw [hm]
  constructor
  · intro heq
    have hchars := congrArg String.toList heq
    rw [String.toList_append, toList_modeName, toList_modeName, List.append_assoc,
      List.cons_append, List.append_cons_inj_of_notMem
        (not_mem_toDigits (by decide) _) (not_mem_toDigits (by decide) _)] at hchars
    obtain ⟨hw, _, hh⟩ := hchars
    cases hi : m.interlaced with
    | true =>
      -- the name of a size ends with a digit
      refine absurd ?_ (not_mem_toDigits (c := 'i') (by decide) s.h)
      rw [hh, hi]
      simp
    | false =>
      rw [hi] at hh
      simp only [Bool.false_eq_true, if_false, String.toList_empty, List.append_nil] at hh
      refine ⟨?_, rfl⟩
      ext
      exacts [(toDigits_injective hw).symm, (toDigits_injective hh).symm]
  · rintro ⟨rfl, hi⟩
    rw [hi]
    simp [ModeInfo.size]

/-! ## Reported and accepted sizes -/

namespace ValVideoImpl

variable {v : ValVideoImpl} {dispIndex : UInt8} {conn : DrmConnector} {s : Size}

/-- The sizes of the modes, without those equal to the one before, and then without
    those that are not valid. -/
theorem getSupportedResolutions_eq
    (hconn : v.driElements.primary.connectorList[dispIndex.toNat]? = some conn) :
    v.getSupportedResolutions dispIndex =
      .ok ((conn.getSupportedModes.destutter (· ≠ ·)).filter v.isValidMode) := by
  have hlen : v.driElements.primary.connectorList.length ≠ 0 := by
    obtain ⟨hlt, _⟩ := List.getElem?_eq_some_iff.1 hconn
    omega
  rw [getSupportedResolutions, DRIElements.getSupportedModes, if_pos hlen, hconn]
  rfl

theorem mem_reported_iff : s ∈ (conn.getSupportedModes.destutter (· ≠ ·)).filter v.isValidMode ↔
    v.isValidMode s = true ∧ ∃ m ∈ conn.mConnectorPtr.modes, m.size = s := by
  rw [List.mem_filter, Lists.mem_destutter_ne, DrmConnector.getSupportedModes, List.mem_map,
    and_comm]

/-- The valid sizes of the modes are reported. -/
theorem mem_getSupportedResolutions_iff
    (hconn : v.driElements.primary.connectorList[dispIndex.toNat]? = some conn) :
    (∃ sizes, v.getSupportedResolutions dispIndex = .ok sizes ∧ s ∈ sizes) ↔
      v.isValidMode s = true ∧ ∃ m ∈ conn.mConnectorPtr.modes, m.size = s := by
  rw [getSupportedResolutions_eq hconn, ← mem_reported_iff]
  constructor
  · rintro ⟨sizes, heq, hs⟩
    rwa [Except.ok.inj heq]
  · intro hs
    exact ⟨_, rfl, hs⟩

/-- The valid sizes of the modes are reported, and no others, each of them once. -/
def ReportsOnce (v : ValVideoImpl) (dispIndex : UInt8) (conn : DrmConnector) : Prop :=
  ∃ sizes, v.getSupportedResolutions dispIndex = .ok sizes ∧
    (∀ s, s ∈ sizes ↔ v.isValidMode s = true ∧ ∃ m ∈ conn.mConnectorPtr.modes, m.size = s) ∧
      sizes.Nodup

/-- The valid sizes are reported once each if and only if the modes of each of them
    stand together in the list of the connector. -/
theorem getSupportedResolutions_once_iff
    (hconn : v.driElements.primary.connectorList[dispIndex.toNat]? = some conn) :
    v.ReportsOnce dispIndex conn ↔
      ∀ s, v.isValidMode s = true → Lists.Together s conn.getSupportedModes := by
  rw [ReportsOnce, getSupportedResolutions_eq hconn, ← Lists.nodup_filter_destutter_iff]
  constructor
  · rintro ⟨sizes, heq, _, hnodup⟩
    rwa [Except.ok.inj heq]
  · intro hnodup
    exact ⟨_, rfl, fun s => mem_reported_iff, hnodup⟩

theorem getSupportedResolutions_once_one_display : ∃ v h conn,
    new .fullHd (.willing fun _ => .oneDisplay) [] = .ok (v, h) ∧
      v.driElements.primary.connectorList[(0 : UInt8).toNat]? = some conn ∧
        v.ReportsOnce 0 conn := by
  have hrun : (new .fullHd (.willing fun _ => .oneDisplay) []).map (fun s =>
      (s.1.driElements.primary.connectorList[0]?.map DrmConnector.getSupportedModes)) =
        .ok (some [⟨1920, 1080⟩, ⟨1280, 720⟩]) := by
    decide +kernel
  obtain ⟨⟨v, h⟩, hnew, hobs⟩ := Prog.exists_of_map_eq_ok hrun
  obtain ⟨conn, hconn, hsizes⟩ := Option.map_eq_some_iff.1 hobs
  refine ⟨v, h, conn, hnew, hconn, (getSupportedResolutions_once_iff hconn).2 fun s _ => ?_⟩
  rw [hsizes]
  exact Lists.together_of_nodup (by decide)

/-- A display that prefers a mode of 1280x720 at 60 Hz, and has one at 50 Hz after a
    larger size: the size is reported twice. -/
theorem getSupportedResolutions_reports_twice : ∃ v h conn,
    new .fullHd (.willing fun _ => .preferredDisplay) [] = .ok (v, h) ∧
      v.driElements.primary.connectorList[(0 : UInt8).toNat]? = some conn ∧
        v.getSupportedResolutions 0 = .ok [⟨1280, 720⟩, ⟨1920, 1080⟩, ⟨1280, 720⟩] ∧
          ¬ v.ReportsOnce 0 conn := by
  have hrun : (new .fullHd (.willing fun _ => .preferredDisplay) []).map (fun s =>
      (s.1.driElements.primary.connectorList[0]?.isSome, s.1.getSupportedResolutions 0)) =
        .ok (true, .ok [⟨1280, 720⟩, ⟨1920, 1080⟩, ⟨1280, 720⟩]) := by
    decide +kernel
  obtain ⟨⟨v, h⟩, hnew, hobs⟩ := Prog.exists_of_map_eq_ok hrun
  obtain ⟨hfound, hsizes⟩ := Prod.mk.inj hobs
  obtain ⟨conn, hconn⟩ := Option.isSome_iff_exists.1 hfound
  refine ⟨v, h, conn, hnew, hconn, hsizes, ?_⟩
  rintro ⟨sizes, heq, _, hnodup⟩
  rw [hsizes] at heq
  cases heq
  exact absurd hnodup (by decide)

theorem isModeSupported_iff {name : String} : conn.isModeSupported name = true ↔
    ∃ m ∈ conn.mConnectorPtr.modes, name = m.name := by
  simp [DrmConnector.isModeSupported, DrmConnector.isMode]

/-- A size is reported as supported for a display if and only if a mode change to
    it will not be refused. -/
def Agrees (v : ValVideoImpl) (dispIndex : UInt8) (conn : DrmConnector) (s : Size) : Prop :=
  (∃ sizes, v.getSupportedResolutions dispIndex = .ok sizes ∧ s ∈ sizes) ↔
    (v.isValidMode s = true ∧ conn.isModeSupported (modeName s.w s.h) = true)

/-- What is reported and what is accepted agree on a size if and only if it is
    not valid, or not the size of any mode, or that of a progressive one. -/
theorem getSupportedResolutions_agrees_iff
    (hconn : v.driElements.primary.connectorList[dispIndex.toNat]? = some conn)
    (hnames : ∀ m ∈ conn.mConnectorPtr.modes, m.Named) : v.Agrees dispIndex conn s ↔
      (v.isValidMode s = true → (∃ m ∈ conn.mConnectorPtr.modes, m.size = s) →
        ∃ m ∈ conn.mConnectorPtr.modes, m.size = s ∧ m.interlaced = false) := by
  have hsupported : conn.isModeSupported (modeName s.w s.h) = true ↔
      ∃ m ∈ conn.mConnectorPtr.modes, m.size = s ∧ m.interlaced = false := by
    rw [isModeSupported_iff]
    exact exists_congr fun m => and_congr_right fun hm => modeName_eq_iff (hnames m hm) s
  rw [Agrees, mem_getSupportedResolutions_iff hconn, hsupported]
  constructor
  · intro hiff hvalid hmode
    exact (hiff.1 ⟨hvalid, hmode⟩).2
  · intro hprog
    constructor
    · rintro ⟨hvalid, hmode⟩
      exact ⟨hvalid, hprog hvalid hmode⟩
    · rintro ⟨hvalid, m, hm, hsize, _⟩
      exact ⟨hvalid, m, hm, hsize⟩

theorem getSupportedResolutions_agrees_one_display : ∃ v h conn,
    new .fullHd (.willing fun _ => .oneDisplay) [] = .ok (v, h) ∧
      v.driElements.primary.connectorList[(0 : UInt8).toNat]? = some conn ∧
        v.Agrees 0 conn ⟨1280, 720⟩ := by
  have hrun : (new .fullHd (.willing fun _ => .oneDisplay) []).map (fun s =>
      (s.1.driElements.primary.connectorList[0]?.map fun conn => conn.mConnectorPtr.modes)) =
        .ok (some [.progressive 1920 1080, .progressive 1280 720]) := by
    decide +kernel
  obtain ⟨⟨v, h⟩, hnew, hobs⟩ := Prog.exists_of_map_eq_ok hrun
  obtain ⟨conn, hconn, hmodes⟩ := Option.map_eq_some_iff.1 hobs
  refine ⟨v, h, conn, hnew, hconn, (getSupportedResolutions_agrees_iff hconn ?_).2 ?_⟩
  · rw [hmodes]
    decide +kernel
  · rw [hmodes]
    intro _ _
    exact ⟨.progressive 1280 720, by simp, rfl, rfl⟩

/-- A size that is interlaced only is reported, and a mode change to it refused. -/
theorem getSupportedResolutions_reports_interlaced : ∃ v h conn,
    new .fullHd (.willing fun _ => .interlacedDisplay) [] = .ok (v, h) ∧
      v.driElements.primary.connectorList[(0 : UInt8).toNat]? = some conn ∧
        (∀ m ∈ conn.mConnectorPtr.modes, m.Named) ∧
          v.getSupportedResolutions 0 = .ok [⟨1920, 1080⟩, ⟨1280, 720⟩] ∧
            conn.isModeSupported (modeName 1920 1080) = false ∧ ¬ v.Agrees 0 conn ⟨1920, 1080⟩ := by
  have hrun : (new .fullHd (.willing fun _ => .interlacedDisplay) []).map (fun s =>
      (s.1.driElements.primary.connectorList[0]?.map (fun conn => (conn.mConnectorPtr.modes,
        conn.isModeSupported (modeName 1920 1080))), s.1.getSupportedResolutions 0)) =
          .ok (some ([.interlacedAt 1920 1080, .progressive 1280 720], false),
            .ok [⟨1920, 1080⟩, ⟨1280, 720⟩]) := by
    decide +kernel
  obtain ⟨⟨v, h⟩, hnew, hobs⟩ := Prog.exists_of_map_eq_ok hrun
  obtain ⟨hfound, hsizes⟩ := Prod.mk.inj hobs
  obtain ⟨conn, hconn, hpair⟩ := Option.map_eq_some_iff.1 hfound
  obtain ⟨hmodes, hrefused⟩ := Prod.mk.inj hpair
  refine ⟨v, h, conn, hnew, hconn, ?_, hsizes, hrefused, ?_⟩
  · rw [hmodes]
    decide +kernel
  · intro hagrees
    have hacc := (hagrees.1 ⟨_, hsizes, by simp⟩).2
    rw [hrefused] at hacc
    cases hacc

end ValVideoImpl

end ValRpi
