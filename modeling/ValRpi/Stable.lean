import ValRpi.Setup

/-!
# While nothing changes

Cards change whenever they want, also while a device is set up. But where none
did (`Kernel.Still`), the setup has seen the same cards throughout, and went as
on a kernel whose cards never change (`Kernel.frozen`). So it is a function of
the card (`DriDevice.setupDevice_still`).
-/

namespace ValRpi

/-- All that the program sees of the kernel is the cards. -/
abbrev SeesCards {α : Type} (x : Act α) : Prop := x.Sees fun k k' h => k'.card h = k.card h

theorem seesCards_ask {α : Type} (fd : ℤ) (q : Query) (answer : Card → α) :
    SeesCards (ask fd q answer) :=
  .call fun _ _ _ hcard => congrArg (fun card => answer (card fd)) hcard

theorem DrmConnector.seesCards_isPlugged (c : DrmConnector) : SeesCards c.isPlugged :=
  .bind (seesCards_ask _ _ _) fun _ => .bind (.lift _) fun _ => .pure _

theorem DrmConnector.seesCards_getModeRange (c : DrmConnector) : SeesCards c.getModeRange :=
  .bind c.seesCards_isPlugged fun _ => .pure _

theorem seesCards_scanEncoders (fd : ℤ) (res : Option Resources) :
    ∀ (ids : List ℕ) (crtc : ℕ), SeesCards (scanEncoders fd res ids crtc)
  | [], _ => .pure _
  | _ :: ids, _ => by
    refine .bind (seesCards_ask _ _ _) fun enc => ?_
    rcases enc with _ | enc
    · exact seesCards_scanEncoders fd res ids _
    · exact .bind (.lift _) fun _ => seesCards_scanEncoders fd res ids _

theorem seesCards_currentEncoder (fd : ℤ) (conn : DrmConnector) :
    SeesCards (currentEncoder fd conn) := by
  rw [currentEncoder]
  split
  · exact seesCards_ask _ _ _
  · exact .pure _

theorem seesCards_findCrtc (fd : ℤ) (conn : DrmConnector) : SeesCards (findCrtc fd conn) := by
  refine .bind (seesCards_currentEncoder fd conn) fun enc => ?_
  rcases enc with _ | enc
  · exact .bind (seesCards_ask _ _ _) fun _ => seesCards_scanEncoders _ _ _ _
  · exact .pure _

theorem seesCards_setupConnector (fd : ℤ) (confMode : Size) (conn : DrmConnector)
    (crtcs : List DrmCrtc) : SeesCards (setupConnector fd confMode conn crtcs) := by
  refine .bind conn.seesCards_isPlugged fun ⟨plugged, conn⟩ => ?_
  dsimp only
  split
  · exact .pure _
  · refine .bind (seesCards_findCrtc _ _) fun crtcId => ?_
    split
    · exact .pure _
    · refine .bind (DrmConnector.seesCards_getModeRange _) fun ⟨range, conn⟩ =>
        .bind (.visitFirst (fun crtc => ?_) _) fun _ => .pure _
      exact .bind (.lift _) fun _ => .pure _

/-! ## Standing still -/

/-- The kernel, its cards staying as they are after `h`. -/
def Kernel.frozen (k : Kernel) (h : History) : Kernel := { k with card := fun _ => k.card h }

/-- No card changed from `h` to `h'`. -/
def Kernel.Still (k : Kernel) (h h' : History) : Prop :=
  ∀ h₁ : History, h <:+ h₁ → h₁ <:+ h' → k.card h₁ = k.card h

variable {k : Kernel} {h h' : History}

theorem Kernel.frozen_steady : (k.frozen h).Steady := fun _ _ _ => rfl

/-- Where no card changed, none ever need to. -/
theorem Kernel.Still.frozen {α : Type} {x : Act α} {a : α} (hstill : k.Still h h')
    (hx : SeesCards x) (hr : x k h = .ok (a, h')) : x (k.frozen h) h = .ok (a, h') :=
  (hx k (k.frozen h) _ _ _ hr).2 fun h₁ hfrom hto => (hstill h₁ hfrom hto).symm

namespace DriDevice

variable {d d' : DriDevice} {confMode : Size}

theorem seesCards_checkDumbBuff (d : DriDevice) : SeesCards d.checkDumbBuff := by
  rw [checkDumbBuff]
  split
  · exact .pure _
  · refine .bind (seesCards_ask _ _ _) fun dumb => ?_
    split
    · exact .pure _
    · exact .fault _

theorem seesCards_setupDevice (d : DriDevice) (confMode : Size) :
    SeesCards (d.setupDevice confMode) :=
  .bind d.seesCards_checkDumbBuff fun _ =>
    .bind (.forEach (fun _ _ => seesCards_setupConnector _ _ _ _) _ _) fun _ => .pure _

/-- Where no card changed, the setup is a function of the card. -/
theorem setupDevice_still (hstill : k.Still h h') (hd : d.Sane)
    (hs : d.setupDevice confMode k h = .ok (d', h')) :
    d' = d.setUp (k.card h d.drmModuleFd) confMode := by
  have hfrozen := hstill.frozen (d.seesCards_setupDevice confMode) hs
  exact setupDevice_eq (k := k.frozen h) Kernel.frozen_steady hd hfrozen

end DriDevice

end ValRpi
