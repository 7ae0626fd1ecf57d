import ValRpi.Windows

/-!
# Device capabilities

`src/device_capability.cpp`: the limits of the modes and the names of the windows
are read from a file.

* `DeviceCapability.new` is the constructor. What the file does not have keeps its
  default, and what does not fit in 16 bits is cut;
* `ValVideoImpl.isValidMode_as_written_iff` says when the modes that are accepted
  are those between the limits that are written in the file.

What `pbnjson` makes of the file is a value, or nothing if the file is not valid. How
it converts values is a parameter.
-/

namespace ValRpi

/-- `pbnjson::JValue`. Numbers that are not integers are kept as they are written. -/
inductive JValue
  | null
  | boolean (b : Bool)
  | integer (n : ℤ)
  | decimal (text : String)
  | string (s : String)
  | array (items : List JValue)
  | object (members : List (String × JValue))

/-- The value of a key, if `hasKey`. Only objects have keys. -/
def JValue.get? (key : String) : JValue → Option JValue
  | object members => members.lookup key
  | _ => none

/-- The conversions of values: `asNumber<int32_t>` and `asString`. -/
structure Pbnjson where
  asNumber : JValue → Int32
  asString : JValue → String

/-- Integers of 32 bits are converted to themselves. -/
def Pbnjson.ReadsIntegers (json : Pbnjson) : Prop :=
  ∀ n : Int32, json.asNumber (.integer n.toInt) = n

/-- `DeviceModeResolution`. -/
structure DeviceModeResolution where
  w : UInt16
  h : UInt16
  freq : UInt16
  deriving DecidableEq, Repr

/-- The conversion to `VAL_VIDEO_SIZE_T`. -/
def DeviceModeResolution.size (r : DeviceModeResolution) : Size := ⟨r.w.toNat, r.h.toNat⟩

/-! ## Names -/

/-- `std::set::insert`, of the names in ascending order. -/
def insertName (name : String) : List String → List String
  | [] => [name]
  | n :: names =>
    if name < n then name :: n :: names
    else if name = n then n :: names
    else n :: insertName name names

theorem mem_insertName {name n : String} {names : List String} (h : n ∈ insertName name names) :
    n = name ∨ n ∈ names := by
  induction names with
  | nil => exact .inl (List.mem_singleton.1 h)
  | cons n₀ names ih =>
    rw [insertName] at h
    split at h
    · exact List.mem_cons.1 h
    split at h
    · exact .inr h
    · rcases List.mem_cons.1 h with rfl | h
      · exact .inr List.mem_cons_self
      · exact (ih h).imp_right (List.mem_cons_of_mem _)

theorem sorted_insertName (name : String) {names : List String} (h : names.Pairwise (· < ·)) :
    (insertName name names).Pairwise (· < ·) := by
  induction names with
  | nil => exact List.pairwise_singleton _ _
  | cons n names ih =>
    obtain ⟨hn, hnames⟩ := List.pairwise_cons.1 h
    rw [insertName]
    split
    next hlt =>
      refine List.pairwise_cons.2 ⟨fun n' hn' => ?_, h⟩
      rcases List.mem_cons.1 hn' with rfl | hn'
      · exact hlt
      · exact String.lt_trans hlt (hn n' hn')
    split
    · exact h
    next hge hne =>
      refine List.pairwise_cons.2 ⟨fun n' hn' => ?_, ih hnames⟩
      rcases mem_insertName hn' with rfl | hn'
      · exact Std.lt_of_le_of_ne (String.not_lt.1 hge) (Ne.symm hne)
      · exact hn n' hn'

/-! ## The constructor -/

namespace DeviceCapability

/-- The greatest resolution, unless the file says otherwise. -/
def defaultMax : DeviceModeResolution := ⟨1920, 1080, 60⟩

/-- The least resolution, unless the file says otherwise. -/
def defaultMin : DeviceModeResolution := ⟨0, 0, 60⟩

/-- The fields before the file is read. -/
def defaults : DeviceCapability where
  mMaxResolution := defaultMax.size
  mMinResolution := defaultMin.size
  mPlaneNames := ["MAIN"]
  sorted := List.pairwise_singleton _ _

variable (json : Pbnjson)

/-- `parseResolution`: all of the entries or none, each cut to 16 bits. -/
def parseResolution (resolution : DeviceModeResolution) (object : JValue) : DeviceModeResolution :=
  match object.get? "w", object.get? "h", object.get? "freq" with
  | some w, some h, some freq =>
    ⟨.ofInt (json.asNumber w).toInt, .ofInt (json.asNumber h).toInt,
      .ofInt (json.asNumber freq).toInt⟩
  | _, _, _ => resolution

/-- A name more. -/
def insertPlane (caps : DeviceCapability) (name : String) : DeviceCapability :=
  { caps with
    mPlaneNames := insertName name caps.mPlaneNames
    sorted := sorted_insertName name caps.sorted }

/-- `parsePlanes`. -/
def parsePlanes (caps : DeviceCapability) : JValue → DeviceCapability
  | .array items =>
    items.foldl (fun caps pl => caps.insertPlane (json.asString pl))
      { caps with mPlaneNames := [], sorted := .nil }
  | _ => caps

/-- The limits, as the constructor reads them from the capabilities of the file. -/
def parseLimits (videoCapabilities : JValue) : DeviceCapability :=
  { defaults with
    mMaxResolution := match videoCapabilities.get? "maxResolution" with
      | some object => (parseResolution json defaultMax object).size
      | none => defaultMax.size
    mMinResolution := match videoCapabilities.get? "minResolution" with
      | some object => (parseResolution json defaultMin object).size
      | none => defaultMin.size }

/-- The constructor. -/
def new : Option JValue → DeviceCapability
  | none => defaults
  | some configJson =>
    let caps := match configJson.get? "videoCapabilities" with
      | some videoCapabilities => parseLimits json videoCapabilities
      | none => defaults
    match configJson.get? "planes" with
    | some element => caps.parsePlanes json element
    | none => caps

end DeviceCapability

/-! ## Limits as they are written -/

/-- The entries of a resolution in a file. -/
structure Entries where
  w : Int32
  h : Int32
  freq : Int32
  deriving DecidableEq, Repr

/-- A configuration has a resolution with the entries under a key. -/
def JValue.Carries (config : JValue) (key : String) (entries : Entries) : Prop :=
  ∃ videoCapabilities object, config.get? "videoCapabilities" = some videoCapabilities ∧
    videoCapabilities.get? key = some object ∧
      object.get? "w" = some (.integer entries.w.toInt) ∧
        object.get? "h" = some (.integer entries.h.toInt) ∧
          object.get? "freq" = some (.integer entries.freq.toInt)

/-- What an entry says: itself, or the default where it has no 16 bits. -/
def writtenEntry (entry : Int32) (default : UInt16) : ℕ :=
  if 0 ≤ entry.toInt ∧ entry.toInt < 2 ^ 16 then entry.toInt.toNat else default.toNat

/-- What is kept of an entry. -/
def keptEntry (entry : Int32) : ℕ := (entry.toInt % 2 ^ 16).toNat

/-- An entry has 16 bits, or the default is what is kept of it. -/
def EntryFits (entry : Int32) (default : UInt16) : Prop :=
  0 ≤ entry.toInt ∧ entry.toInt < 2 ^ 16 ∨ entry.toInt % 2 ^ 16 = default.toNat

theorem toNat_ofInt (entry : Int32) : (UInt16.ofInt entry.toInt).toNat = keptEntry entry := by
  rw [UInt16.ofInt, UInt16.toNat_ofNat', keptEntry]
  omega

theorem keptEntry_eq_iff (entry : Int32) (default : UInt16) :
    keptEntry entry = writtenEntry entry default ↔ EntryFits entry default := by
  rw [keptEntry, writtenEntry, EntryFits]
  split <;> omega

namespace Entries

/-- The size that the entries say. -/
def written (entries : Entries) (default : DeviceModeResolution) : Size :=
  ⟨writtenEntry entries.w default.w, writtenEntry entries.h default.h⟩

/-- The size that is kept of them. -/
def kept (entries : Entries) : Size := ⟨keptEntry entries.w, keptEntry entries.h⟩

/-- The width and the height fit. -/
def Fit (entries : Entries) (default : DeviceModeResolution) : Prop :=
  EntryFits entries.w default.w ∧ EntryFits entries.h default.h

theorem kept_eq_written_iff (entries : Entries) (default : DeviceModeResolution) :
    entries.kept = entries.written default ↔ entries.Fit default := by
  rw [kept, written, Size.mk.injEq, keptEntry_eq_iff, keptEntry_eq_iff, Fit]

end Entries

namespace DeviceCapability

variable {json : Pbnjson} {config : JValue} {entries : Entries}

theorem parseResolution_eq (hjson : json.ReadsIntegers) (resolution : DeviceModeResolution)
    {object : JValue} (hw : object.get? "w" = some (.integer entries.w.toInt))
    (hh : object.get? "h" = some (.integer entries.h.toInt))
    (hfreq : object.get? "freq" = some (.integer entries.freq.toInt)) :
    (parseResolution json resolution object).size = entries.kept := by
  rw [parseResolution, hw, hh, hfreq]
  dsimp only
  rw [hjson, hjson, DeviceModeResolution.size, toNat_ofInt, toNat_ofInt, Entries.kept]

/-- The names of the windows do not matter for the limits. -/
theorem limits_parsePlanes (json : Pbnjson) (caps : DeviceCapability) (element : JValue) :
    (caps.parsePlanes json element).mMaxResolution = caps.mMaxResolution ∧
      (caps.parsePlanes json element).mMinResolution = caps.mMinResolution := by
  cases element with
  | array items =>
    refine List.foldlRecOn (motive := fun caps' : DeviceCapability =>
      caps'.mMaxResolution = caps.mMaxResolution ∧ caps'.mMinResolution = caps.mMinResolution)
      items _ ⟨rfl, rfl⟩ fun caps' hcaps pl _ => hcaps
  | _ => exact ⟨rfl, rfl⟩

/-- The limits are what is kept of the entries. -/
theorem limits_new (hjson : json.ReadsIntegers) {max min : Entries}
    (hmax : config.Carries "maxResolution" max) (hmin : config.Carries "minResolution" min) :
    (new json (some config)).mMaxResolution = max.kept ∧
      (new json (some config)).mMinResolution = min.kept := by
  obtain ⟨caps, object, hcaps, hobject, hw, hh, hfreq⟩ := hmax
  obtain ⟨caps', object', hcaps', hobject', hw', hh', hfreq'⟩ := hmin
  obtain rfl : caps = caps' := Option.some.inj (hcaps.symm.trans hcaps')
  have hlimits : (parseLimits json caps).mMaxResolution = max.kept ∧
      (parseLimits json caps).mMinResolution = min.kept := by
    rw [parseLimits]
    dsimp only
    rw [hobject, hobject']
    exact ⟨parseResolution_eq hjson _ hw hh hfreq, parseResolution_eq hjson _ hw' hh' hfreq'⟩
  rw [new, hcaps]
  dsimp only
  split
  next element _ =>
    obtain ⟨hmax, hmin⟩ := limits_parsePlanes json (parseLimits json caps) element
    exact ⟨hmax.trans hlimits.1, hmin.trans hlimits.2⟩
  · exact hlimits

end DeviceCapability

/-! ## Sample files -/

/-- A resolution of a file. -/
def Entries.object (entries : Entries) : JValue :=
  .object [("w", .integer entries.w.toInt), ("h", .integer entries.h.toInt),
    ("freq", .integer entries.freq.toInt)]

/-- A configuration such as `files/conf/device-cap.json`. -/
def JValue.deviceCap (max min : Entries) : JValue :=
  .object [("videoCapabilities",
      .object [("maxResolution", max.object), ("minResolution", min.object)]),
    ("planes", .array [.string "DISP0_MAIN", .string "DISP0_SUB0", .string "DISP0_SUB1",
      .string "DISP0_SUB2"])]

theorem JValue.carries_deviceCap (max min : Entries) :
    (deviceCap max min).Carries "maxResolution" max ∧
      (deviceCap max min).Carries "minResolution" min :=
  ⟨⟨_, _, rfl, rfl, rfl, rfl, rfl⟩, ⟨_, _, rfl, rfl, rfl, rfl, rfl⟩⟩

/-- Conversions without errors: what cannot be converted is 0 or empty. -/
def Pbnjson.plain : Pbnjson where
  asNumber
    | .integer n => .ofInt n
    | _ => 0
  asString
    | .string s => s
    | _ => ""

theorem Pbnjson.plain_readsIntegers : plain.ReadsIntegers := fun n => Int32.ofInt_toInt n

/-! ## Sizes between limits -/

theorem Size.Within.refl (s : Size) : s.Within s := ⟨le_rfl, le_rfl⟩

theorem Size.Within.trans {a b c : Size} (hab : a.Within b) (hbc : b.Within c) : a.Within c :=
  ⟨hab.1.trans hbc.1, hab.2.trans hbc.2⟩

theorem Size.Within.antisymm {a b : Size} (hab : a.Within b) (hba : b.Within a) : a = b :=
  Size.ext (Nat.le_antisymm hab.1 hba.1) (Nat.le_antisymm hab.2 hba.2)

/-- The same sizes are between two pairs of limits if and only if the limits are the
    same, or no size is between either. -/
theorem Size.between_iff {min max min' max' : Size} :
    (∀ s : Size, min.Within s ∧ s.Within max ↔ min'.Within s ∧ s.Within max') ↔
      min = min' ∧ max = max' ∨ ¬ min.Within max ∧ ¬ min'.Within max' := by
  constructor
  · intro hall
    by_cases hle : min.Within max
    · -- each limit is between the others
      obtain ⟨hmin, hmin'⟩ := (hall min).1 ⟨.refl _, hle⟩
      obtain ⟨hmax', hmax⟩ := (hall max).1 ⟨hle, .refl _⟩
      have hle' := hmin.trans (hle.trans hmax)
      have hmin₁ := ((hall min').2 ⟨.refl _, hle'⟩).1
      have hmax₁ := ((hall max').2 ⟨hle', .refl _⟩).2
      exact .inl ⟨hmin₁.antisymm hmin, hmax.antisymm hmax₁⟩
    · refine .inr ⟨hle, fun hle' => hle ?_⟩
      have hmin := ((hall min').2 ⟨.refl _, hle'⟩).1
      have hmax := ((hall max').2 ⟨hle', .refl _⟩).2
      exact hmin.trans (hle'.trans hmax)
  · rintro (⟨rfl, rfl⟩ | ⟨hnot, hnot'⟩) s
    · exact Iff.rfl
    · exact ⟨fun hs => absurd (hs.1.trans hs.2) hnot, fun hs => absurd (hs.1.trans hs.2) hnot'⟩

/-! ## Modes that are accepted -/

namespace ValVideoImpl

variable {k : Kernel} {h : History} {caps : DeviceCapability} {v : ValVideoImpl}

theorem isValidMode_iff {win : Size} : v.isValidMode win = true ↔
    v.mDeviceCapability.mMinResolution.Within win ∧
      win.Within v.mDeviceCapability.mMaxResolution := by
  rw [isValidMode, decide_eq_true_eq, Size.Within, Size.Within]
  tauto

/-- The capabilities never change. -/
theorem capability_of_reachable (hr : Reachable k caps (v, h)) : v.mDeviceCapability = caps := by
  obtain ⟨⟨v₀, h₀⟩, ops, hnew, hrun⟩ := hr
  refine hrun.invariant (fun s => s.1.mDeviceCapability = caps) ?_ fun s op s' hs hstep => ?_
  · obtain ⟨e, h₁, _, hinit⟩ := new_eq_ok hnew
    rw [init, Prog.bind_eq_ok] at hinit
    obtain ⟨_, _, _, hp⟩ := hinit
    rw [(updatePlanes_eq_ok hp).2.1]
  · rcases run_cases hstep with ⟨name, _, hu⟩ | ⟨_, _, _, _, _, _, heq⟩ | hq
    · obtain ⟨called, e', h₁, _, hend⟩ := updateDevice_eq_ok hu
      split at hend
      · rw [(updatePlanes_eq_ok hend).2.1]
        exact hs
      · rw [hend.1]
        exact hs
    · rw [heq]
      exact hs
    · exact hq.capability.trans hs

/-- The modes that are accepted are those between the limits that are written, if
    and only if all entries for the limits fit, or no size is between these limits
    nor between what is kept of them. -/
theorem isValidMode_as_written_iff {json : Pbnjson} {config : JValue} {max min : Entries}
    (hjson : json.ReadsIntegers) (hmax : config.Carries "maxResolution" max)
    (hmin : config.Carries "minResolution" min)
    (hr : Reachable k (.new json (some config)) (v, h)) :
    (∀ win, v.isValidMode win = true ↔
      (min.written DeviceCapability.defaultMin).Within win ∧
        win.Within (max.written DeviceCapability.defaultMax)) ↔
      min.Fit DeviceCapability.defaultMin ∧ max.Fit DeviceCapability.defaultMax ∨
        ¬ min.kept.Within max.kept ∧ ¬ (min.written DeviceCapability.defaultMin).Within
          (max.written DeviceCapability.defaultMax) := by
  obtain ⟨hkept, hkept'⟩ := DeviceCapability.limits_new hjson hmax hmin
  simp only [isValidMode_iff, capability_of_reachable hr, hkept, hkept']
  rw [Size.between_iff, Entries.kept_eq_written_iff, Entries.kept_eq_written_iff]

/-- The file of the repository. -/
theorem isValidMode_as_written_device_cap : ∃ v h, Reachable (.willing fun _ => .oneDisplay)
    (.new .plain (some (.deviceCap ⟨1920, 1080, 60⟩ ⟨0, 0, 60⟩))) (v, h) ∧
      ∀ win, v.isValidMode win = true ↔
        Size.Within ⟨0, 0⟩ win ∧ win.Within ⟨1920, 1080⟩ := by
  let caps : DeviceCapability := .new .plain (some (.deviceCap ⟨1920, 1080, 60⟩ ⟨0, 0, 60⟩))
  have hrun : (new caps (.willing fun _ => .oneDisplay) []).map (fun _ => ()) = .ok () := by
    decide +kernel
  obtain ⟨⟨v, h⟩, hnew, _⟩ := Prog.exists_of_map_eq_ok hrun
  obtain ⟨hmax, hmin⟩ := JValue.carries_deviceCap ⟨1920, 1080, 60⟩ ⟨0, 0, 60⟩
  have hr : Reachable (.willing fun _ => .oneDisplay) caps (v, h) := ⟨_, [], hnew, .nil⟩
  exact ⟨v, h, hr, (isValidMode_as_written_iff Pbnjson.plain_readsIntegers hmax hmin hr).2
    (.inl ⟨⟨.inl (by decide), .inl (by decide)⟩, .inl (by decide), .inl (by decide)⟩)⟩

/-- A least width of -1, which is kept as 65535: no mode is accepted. -/
theorem isValidMode_rejects_all : ∃ v h, Reachable (.willing fun _ => .oneDisplay)
    (.new .plain (some (.deviceCap ⟨1920, 1080, 60⟩ ⟨-1, 0, 60⟩))) (v, h) ∧
      ¬ ∀ win, v.isValidMode win = true ↔
        (Entries.written ⟨-1, 0, 60⟩ DeviceCapability.defaultMin).Within win ∧
          win.Within (Entries.written ⟨1920, 1080, 60⟩ DeviceCapability.defaultMax) := by
  let caps : DeviceCapability := .new .plain (some (.deviceCap ⟨1920, 1080, 60⟩ ⟨-1, 0, 60⟩))
  have hrun : (new caps (.willing fun _ => .oneDisplay) []).map
      (fun s => s.1.isValidMode ⟨1280, 720⟩) = .ok false := by
    decide +kernel
  obtain ⟨⟨v, h⟩, hnew, hfalse⟩ := Prog.exists_of_map_eq_ok hrun
  refine ⟨v, h, ⟨_, [], hnew, .nil⟩, fun hall => ?_⟩
  exact Bool.false_ne_true (hfalse.symm.trans ((hall ⟨1280, 720⟩).2 (by decide)))

end ValVideoImpl

end ValRpi
