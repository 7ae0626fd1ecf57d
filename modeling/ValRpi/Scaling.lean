import ValRpi.Video

/-!
# Scaling

`applyScaling` writes the regions to a property of the plane of the window, and
returns true whatever the kernel says (`applyScaling_of_scalable`).

* `applyScaling_sound_iff`: so its result is right, and its write one to a plane,
  as long as the windows that are scaled have planes and the kernel accepts.
-/

namespace ValRpi

variable {k : Kernel} {h h' : History}

namespace ValVideoImpl

variable {v : ValVideoImpl} {wId : ℕ} {sink : SinkInfo} {inputRegion outputRegion : Rect}

/-- The write for a sink and two regions: each coordinate in its own field. -/
def scaling (v : ValVideoImpl) (sink : SinkInfo) (inputRegion outputRegion : Rect) :
    SetProperty where
  fd := v.driElements.primary.drmModuleFd
  planeId := sink.planeId
  property := setScalingT
  value :=
    { crtcX := outputRegion.x
      crtcY := outputRegion.y
      crtcW := outputRegion.w
      crtcH := outputRegion.h
      srcX := inputRegion.x
      srcY := inputRegion.y
      srcW := inputRegion.w
      srcH := inputRegion.h }

/-- A window is connected, and the height of the output is not from 2 to 11. -/
structure Scalable (v : ValVideoImpl) (wId : ℕ) (sink : SinkInfo) (outputRegion : Rect) :
    Prop where
  lookup : v.videoSinks.lookup wId = some sink
  connected : sink.connected = true
  height : ¬ (2 ≤ outputRegion.h ∧ outputRegion.h ≤ 11)

/-- The kernel is asked once, and not listened to. -/
theorem applyScaling_of_scalable (hs : v.Scalable wId sink outputRegion) (k : Kernel)
    (h : History) : v.applyScaling wId inputRegion outputRegion k h =
      .ok ((true, { v with driElements := v.driElements.touch }),
        .setProperty (v.scaling sink inputRegion outputRegion)
          (k.setProperty h (v.scaling sink inputRegion outputRegion)).isNone :: h) := by
  have hheight : ¬ (1 < outputRegion.h ∧ outputRegion.h < 12) := by
    have := hs.height
    omega
  rw [applyScaling, hs.lookup]
  dsimp only
  rw [hs.connected, if_neg (by decide), if_neg hheight]
  rfl

/-- Otherwise nothing is written. -/
theorem applyScaling_of_not_scalable (hs : ∀ sink, ¬ v.Scalable wId sink outputRegion) (k : Kernel)
    (h : History) : v.applyScaling wId inputRegion outputRegion k h = .ok ((false, v), h) := by
  rw [applyScaling]
  cases hsink : v.videoSinks.lookup wId with
  | none => rfl
  | some sink =>
    dsimp only
    cases hc : sink.connected with
    | false => rfl
    | true =>
      have hheight : 1 < outputRegion.h ∧ outputRegion.h < 12 := by
        by_contra hnot
        exact hs sink ⟨hsink, hc, by omega⟩
      rw [if_neg (by decide), if_pos hheight]
      rfl

/-- Scaling writes for windows it applies to, to their planes, with the regions as
    they are, and returns whether the kernel accepted the write. -/
def ScalesSoundly (v : ValVideoImpl) (k : Kernel) (h : History) (wId : ℕ)
    (inputRegion outputRegion : Rect) : Prop :=
  ∃ r v' new, v.applyScaling wId inputRegion outputRegion k h = .ok ((r, v'), new ++ h) ∧
    (∀ e ∈ new, ∃ sink done, v.Scalable wId sink outputRegion ∧ sink.planeId ≠ 0 ∧
      e = .setProperty (v.scaling sink inputRegion outputRegion) done) ∧
    (r = true ↔ ∃ req, .setProperty req true ∈ new)

/-- Where scaling is sound, a write is one to a plane, and accepted. -/
theorem ScalesSoundly.accepted (hv : v.ScalesSoundly k h wId inputRegion outputRegion)
    (hs : v.Scalable wId sink outputRegion) : sink.planeId ≠ 0 ∧
      k.setProperty h (v.scaling sink inputRegion outputRegion) = none := by
  obtain ⟨r, v', new, hr, hwrites, hresult⟩ := hv
  rw [applyScaling_of_scalable hs] at hr
  obtain ⟨hrv, hnew⟩ := Prod.mk.inj (Except.ok.inj hr)
  obtain ⟨rfl, _⟩ := Prod.mk.inj hrv
  rw [← List.singleton_append, List.append_left_inj] at hnew
  subst hnew
  obtain ⟨sink', _, hs', hplane, _⟩ := hwrites _ List.mem_cons_self
  obtain rfl := Option.some.inj (hs'.lookup.symm.trans hs.lookup)
  obtain ⟨req, hreq⟩ := hresult.1 rfl
  rw [List.mem_singleton, Event.setProperty.injEq] at hreq
  exact ⟨hplane, Option.isNone_iff_eq_none.1 hreq.2.symm⟩

/-- Scaling is sound if and only if the window has a plane and the kernel accepts
    the write, where there is one. -/
theorem applyScaling_sound_iff : v.ScalesSoundly k h wId inputRegion outputRegion ↔
    ∀ sink, v.Scalable wId sink outputRegion →
      sink.planeId ≠ 0 ∧ k.setProperty h (v.scaling sink inputRegion outputRegion) = none := by
  constructor
  · exact fun hv _ hs => hv.accepted hs
  · intro hplane
    by_cases hex : ∃ sink, v.Scalable wId sink outputRegion
    · obtain ⟨sink, hs⟩ := hex
      obtain ⟨hne, hnone⟩ := hplane sink hs
      refine ⟨true, _, [_], applyScaling_of_scalable hs k h, fun e he => ?_, fun _ => ?_,
        fun _ => rfl⟩
      · exact ⟨sink, _, hs, hne, List.mem_singleton.1 he⟩
      · rw [hnone]
        exact ⟨_, List.mem_cons_self⟩
    · refine ⟨false, v, [], applyScaling_of_not_scalable (not_exists.1 hex) k h, by simp, by simp⟩

/-- A kernel that does not know the scaling property. -/
def refusesScaling : Kernel :=
  { Kernel.willing fun _ => .oneDisplay with setProperty := fun _ _ => some ⟨22, Nat.succ_pos 21⟩ }

/-- The first window is connected: scaling it is refused, and true is returned. -/
theorem applyScaling_reports_success : ∃ v h, Reachable refusesScaling .fullHd (v, h) ∧
    v.Scalable 0 ⟨41, 31, 21, true⟩ ⟨0, 0, 1920, 1080⟩ ∧
      (∃ v' req, v.applyScaling 0 ⟨0, 0, 1280, 720⟩ ⟨0, 0, 1920, 1080⟩ refusesScaling h =
        .ok ((true, v'), .setProperty req false :: h)) ∧
          ¬ v.ScalesSoundly refusesScaling h 0 ⟨0, 0, 1280, 720⟩ ⟨0, 0, 1920, 1080⟩ := by
  have hrun : (new .fullHd refusesScaling []).map (fun s =>
      (s.1.connect 0 0).2.2.videoSinks.lookup 0) = .ok (some ⟨41, 31, 21, true⟩) := by
    decide +kernel
  obtain ⟨⟨v₀, h⟩, hnew, hsink⟩ := Prog.exists_of_map_eq_ok hrun
  have hs : (v₀.connect 0 0).2.2.Scalable 0 ⟨41, 31, 21, true⟩ ⟨0, 0, 1920, 1080⟩ :=
    ⟨hsink, rfl, by decide⟩
  refine ⟨_, h, ⟨_, [.connect 0 0], hnew, .step .nil rfl⟩, hs,
    ⟨_, _, applyScaling_of_scalable hs refusesScaling h⟩, ?_⟩
  intro hv
  cases (hv.accepted hs).2

end ValVideoImpl

end ValRpi
