import Mathlib.Data.List.Basic
import Mathlib.Data.List.Nodup

/-! # USRP1 discovery

`usrp1_find` of `usrp1_impl.cpp`: the filter on the hint, the loop that loads the
firmware onto every device enumerated under the boot-loader or the USRP1 ids, and the
loop that collects an address for every device enumerated again afterwards. The USB bus
and the image search path are the environment, fixed for one call.
-/

namespace Uhd.Usrp1

/-- `device_addr_t`, a `uhd::dict` of strings: keys in insertion order. -/
structure DeviceAddr where
  bindings : List (String × String)
deriving DecidableEq, Repr

/-- `dict::has_key`. -/
def DeviceAddr.hasKey (addr : DeviceAddr) (key : String) : Bool :=
  addr.bindings.any (·.1 == key)

/-- The value of `key`, what the `const` `operator[]` returns once `has_key` holds. -/
def DeviceAddr.lookup (addr : DeviceAddr) (key : String) : Option String :=
  (addr.bindings.find? (·.1 == key)).map (·.2)

/-- `dict::get(key, other)`. -/
def DeviceAddr.get (addr : DeviceAddr) (key other : String) : String :=
  (addr.lookup key).getD other

/-- `addr[key] = value`: overwrite the binding of `key`, or append one. -/
def DeviceAddr.set (addr : DeviceAddr) (key value : String) : DeviceAddr :=
  if addr.hasKey key then ⟨addr.bindings.map (fun kv => if kv.1 == key then (key, value) else kv)⟩
  else ⟨addr.bindings ++ [(key, value)]⟩

def usrp1VendorId : BitVec 16 := 0xfffe#16
def usrp1ProductId : BitVec 16 := 0x0002#16
def fx2VendorId : BitVec 16 := 0x04b4#16
def fx2ProductId : BitVec 16 := 0x8613#16

/-- One handle of `get_device_list`: its serial, whether `usb_control::make` throws on it
because it is claimed, and the `"name"` of its motherboard EEPROM. -/
structure UsbDevice where
  serial : String
  claimed : Bool
  eepromName : String
deriving DecidableEq, Repr

/-- What `usrp1_find` reads of the host. -/
structure FindEnv where
  /-- `usb_device_handle::get_device_list(vid, pid)` in the firmware loop. -/
  devicesBefore : BitVec 16 → BitVec 16 → List UsbDevice
  /-- The same query after the firmware loads, when the devices have re-enumerated. -/
  devicesAfter : BitVec 16 → BitVec 16 → List UsbDevice
  /-- `find_image_path`, `none` where it throws. -/
  findImagePath : String → Option String

/-- What one call returns, with the firmware loads and warnings it issues on the way. -/
structure FindResult where
  addrs : List DeviceAddr
  firmwareLoads : List (String × String)
  warnings : List String
deriving DecidableEq, Repr

def noFirmwareWarning : String :=
  "Could not locate USRP1 firmware.\nPlease install the images package.\n"

/-- The first loop. `find_image_path` is asked on every pass and fails on the first
if at all; `none` is the early `return usrp1_addrs`, and otherwise the result is the
`(serial, image)` of every `usrp_load_firmware`, claimed handles skipped. -/
def loadFirmwareLoop (fwImage : Option String) :
    List UsbDevice → Option (List (String × String))
  | [] => some []
  | handle :: rest =>
      match fwImage with
      | none => none
      | some image =>
          if handle.claimed then loadFirmwareLoop fwImage rest
          else (loadFirmwareLoop fwImage rest).map ((handle.serial, image) :: ·)

/-- `new_addr` of the second loop. -/
def newAddr (handle : UsbDevice) : DeviceAddr :=
  (((⟨[]⟩ : DeviceAddr).set "type" "usrp1").set "name" handle.eepromName).set "serial" handle.serial

/-- `not hint.has_key(key) or hint[key] == value`. -/
def hintAdmits (hint : DeviceAddr) (key value : String) : Bool :=
  match hint.lookup key with
  | some wanted => wanted == value
  | none => true

/-- The second loop, pushing each matching address onto `usrp1_addrs`. -/
def collectAddrs (hint : DeviceAddr) : List UsbDevice → List DeviceAddr → List DeviceAddr
  | [], usrp1Addrs => usrp1Addrs
  | handle :: rest, usrp1Addrs =>
      if handle.claimed then collectAddrs hint rest usrp1Addrs
      else if hintAdmits hint "name" handle.eepromName && hintAdmits hint "serial" handle.serial
      then collectAddrs hint rest (usrp1Addrs ++ [newAddr handle])
      else collectAddrs hint rest usrp1Addrs

/-- `usrp1_find`. -/
def usrp1Find (env : FindEnv) (hint : DeviceAddr) : FindResult :=
  if hint.hasKey "type" && hint.lookup "type" != some "usrp1" then ⟨[], [], []⟩
  else if hint.hasKey "addr" then ⟨[], [], []⟩
  else
    let vid := if hint.hasKey "uninit" then fx2VendorId else usrp1VendorId
    let pid := if hint.hasKey "uninit" then fx2ProductId else usrp1ProductId
    match loadFirmwareLoop (env.findImagePath (hint.get "fw" "usrp1_fw.ihx"))
        (env.devicesBefore vid pid) with
    | none => ⟨[], [], [noFirmwareWarning]⟩
    | some loads =>
        ⟨collectAddrs hint (env.devicesAfter usrp1VendorId usrp1ProductId) [], loads, []⟩

/-! ## What discovery reports -/

/-- The two hints that rule the USRP1 out before any USB access: a `type` other than
`usrp1`, and an `addr`. -/
def hintExcludes (hint : DeviceAddr) : Bool :=
  (hint.hasKey "type" && hint.lookup "type" != some "usrp1") || hint.hasKey "addr"

/-- Whether the second loop reports a handle. -/
def reported (hint : DeviceAddr) (handle : UsbDevice) : Bool :=
  !handle.claimed && (hintAdmits hint "name" handle.eepromName && hintAdmits hint "serial" handle.serial)

@[simp] theorem lookup_newAddr (handle : UsbDevice) :
    (newAddr handle).lookup "type" = some "usrp1" ∧
    (newAddr handle).lookup "name" = some handle.eepromName ∧
    (newAddr handle).lookup "serial" = some handle.serial := by
  simp [newAddr, DeviceAddr.set, DeviceAddr.hasKey, DeviceAddr.lookup]

theorem collectAddrs_eq (hint : DeviceAddr) (handles : List UsbDevice) (usrp1Addrs : List DeviceAddr) :
    collectAddrs hint handles usrp1Addrs =
      usrp1Addrs ++ (handles.filter (reported hint)).map newAddr := by
  induction handles generalizing usrp1Addrs with
  | nil => simp [collectAddrs]
  | cons handle rest ih =>
      by_cases hc : handle.claimed <;>
        by_cases hm : (hintAdmits hint "name" handle.eepromName && hintAdmits hint "serial" handle.serial) <;>
        simp [collectAddrs, reported, hc, hm, ih]

theorem loadFirmwareLoop_some (image : String) (handles : List UsbDevice) :
    loadFirmwareLoop (some image) handles =
      some ((handles.filter (!·.claimed)).map (fun handle => (handle.serial, image))) := by
  induction handles with
  | nil => rfl
  | cons handle rest ih => by_cases hc : handle.claimed <;> simp [loadFirmwareLoop, hc, ih]

theorem loadFirmwareLoop_none (handles : List UsbDevice) :
    loadFirmwareLoop none handles = if handles = [] then some [] else none := by
  cases handles <;> simp [loadFirmwareLoop]

/-- The ids of the first enumeration: the boot-loader's for an `uninit` hint. -/
def firstEnumIds (hint : DeviceAddr) : BitVec 16 × BitVec 16 :=
  if hint.hasKey "uninit" then (fx2VendorId, fx2ProductId) else (usrp1VendorId, usrp1ProductId)

/-- The whole of `usrp1_find` as one case split: ruled out by the hint; no image for
devices that need one; or every free device of the first enumeration given the image and
every reported device of the second one given an address, in enumeration order. -/
theorem usrp1Find_eq (env : FindEnv) (hint : DeviceAddr) :
    usrp1Find env hint =
      if hintExcludes hint then ⟨[], [], []⟩
      else
        match loadFirmwareLoop (env.findImagePath (hint.get "fw" "usrp1_fw.ihx"))
            (env.devicesBefore (firstEnumIds hint).1 (firstEnumIds hint).2) with
        | none => ⟨[], [], [noFirmwareWarning]⟩
        | some loads =>
            ⟨((env.devicesAfter usrp1VendorId usrp1ProductId).filter (reported hint)).map newAddr,
              loads, []⟩ := by
  unfold usrp1Find hintExcludes firstEnumIds
  by_cases ht : (hint.hasKey "type" && hint.lookup "type" != some "usrp1") = true
  · simp [ht]
  · by_cases ha : hint.hasKey "addr" = true
    · simp [ha]
    · by_cases hu : hint.hasKey "uninit" = true <;> simp [ht, ha, hu, collectAddrs_eq]

/-- With the firmware image found, discovery loads it onto every free device of the first
enumeration and reports, in order, every free device of the second one whose EEPROM name
and serial agree with the hint. -/
theorem usrp1Find_of_image (env : FindEnv) {hint : DeviceAddr} {image : String}
    (hx : hintExcludes hint = false)
    (himage : env.findImagePath (hint.get "fw" "usrp1_fw.ihx") = some image) :
    usrp1Find env hint =
      ⟨((env.devicesAfter usrp1VendorId usrp1ProductId).filter (reported hint)).map newAddr,
        ((env.devicesBefore (firstEnumIds hint).1 (firstEnumIds hint).2).filter
          (!·.claimed)).map (fun handle => (handle.serial, image)), []⟩ := by
  simp [usrp1Find_eq, hx, himage, loadFirmwareLoop_some]

theorem usrp1Find_of_image_one_device :
    hintExcludes ⟨[("serial", "4cfe5")]⟩ = false ∧
    usrp1Find ⟨fun _ _ => [⟨"4cfe5", false, ""⟩], fun _ _ => [⟨"4cfe5", false, "rx"⟩],
        fun name => some name⟩ ⟨[("serial", "4cfe5")]⟩ =
      ⟨[⟨[("type", "usrp1"), ("name", "rx"), ("serial", "4cfe5")]⟩], [("4cfe5", "usrp1_fw.ihx")], []⟩ := by
  refine ⟨by decide, ?_⟩
  rw [usrp1Find_of_image _ (by decide) rfl]
  decide

theorem mem_usrp1Find_addrs {env : FindEnv} {hint addr : DeviceAddr}
    (h : addr ∈ (usrp1Find env hint).addrs) :
    ∃ handle ∈ env.devicesAfter usrp1VendorId usrp1ProductId,
      reported hint handle = true ∧ addr = newAddr handle := by
  rw [usrp1Find_eq] at h
  split at h
  · simp at h
  · split at h
    · simp at h
    · obtain ⟨handle, hmem, rfl⟩ := List.mem_map.mp h
      exact ⟨handle, (List.mem_filter.mp hmem).1, (List.mem_filter.mp hmem).2, rfl⟩

/-- Every address discovery returns is that of a free device of the USRP1 enumeration,
typed `usrp1`, and agrees with the hint on name and serial wherever the hint gives them. -/
theorem usrp1Find_sound (env : FindEnv) (hint addr : DeviceAddr)
    (h : addr ∈ (usrp1Find env hint).addrs) :
    ∃ handle ∈ env.devicesAfter usrp1VendorId usrp1ProductId,
      handle.claimed = false ∧ addr = newAddr handle ∧
      addr.lookup "type" = some "usrp1" ∧
      (∀ name, hint.lookup "name" = some name → addr.lookup "name" = some name) ∧
      (∀ serial, hint.lookup "serial" = some serial → addr.lookup "serial" = some serial) := by
  obtain ⟨handle, hin, hrep, rfl⟩ := mem_usrp1Find_addrs h
  simp only [reported, Bool.and_eq_true, Bool.not_eq_true'] at hrep
  obtain ⟨hfree, hname, hserial⟩ := hrep
  refine ⟨handle, hin, hfree, rfl, (lookup_newAddr handle).1, ?_, ?_⟩
  · intro name hn
    simp only [hintAdmits, hn, beq_iff_eq] at hname
    rw [(lookup_newAddr handle).2.1, hname]
  · intro serial hs
    simp only [hintAdmits, hs, beq_iff_eq] at hserial
    rw [(lookup_newAddr handle).2.2, hserial]

theorem usrp1Find_sound_one_device :
    ∃ handle ∈ [(⟨"4cfe5", false, "rx"⟩ : UsbDevice)], handle.claimed = false ∧
      newAddr ⟨"4cfe5", false, "rx"⟩ = newAddr handle ∧
      (newAddr ⟨"4cfe5", false, "rx"⟩).lookup "type" = some "usrp1" ∧
      (∀ name, DeviceAddr.lookup ⟨[("name", "rx")]⟩ "name" = some name →
        (newAddr ⟨"4cfe5", false, "rx"⟩).lookup "name" = some name) ∧
      (∀ serial, DeviceAddr.lookup ⟨[("name", "rx")]⟩ "serial" = some serial →
        (newAddr ⟨"4cfe5", false, "rx"⟩).lookup "serial" = some serial) :=
  usrp1Find_sound ⟨fun _ _ => [], fun _ _ => [⟨"4cfe5", false, "rx"⟩], fun _ => none⟩
    ⟨[("name", "rx")]⟩ (newAddr ⟨"4cfe5", false, "rx"⟩) (by decide)

/-! ## Opening a reported device -/

/-- The handle `usrp1_impl::usrp1_impl` opens: the first device of its
`get_device_list(USRP1_VENDOR_ID, USRP1_PRODUCT_ID)` whose serial is the address's
`"serial"`; `none` where the `const` `operator[]` throws on a missing key or
`UHD_ASSERT_THROW` fails. -/
def openHandle (devices : List UsbDevice) (deviceAddr : DeviceAddr) : Option UsbDevice := do
  let serial ← deviceAddr.lookup "serial"
  devices.find? (·.serial == serial)

/-- On a bus unchanged since discovery, the constructor opens every address discovery
reports: it finds a device with that address's serial. -/
theorem openHandle_of_mem_usrp1Find (env : FindEnv) (hint addr : DeviceAddr)
    (h : addr ∈ (usrp1Find env hint).addrs) :
    ∃ handle ∈ env.devicesAfter usrp1VendorId usrp1ProductId,
      openHandle (env.devicesAfter usrp1VendorId usrp1ProductId) addr = some handle ∧
      addr.lookup "serial" = some handle.serial := by
  obtain ⟨d, hd, -, rfl⟩ := mem_usrp1Find_addrs h
  obtain ⟨handle, hh⟩ : ∃ handle, (env.devicesAfter usrp1VendorId usrp1ProductId).find?
      (·.serial == d.serial) = some handle :=
    Option.isSome_iff_exists.mp (List.find?_isSome.mpr ⟨d, hd, by simp⟩)
  have hs : handle.serial = d.serial := by simpa using List.find?_some hh
  exact ⟨handle, List.mem_of_find?_eq_some hh, by simp [openHandle, hh], by simp [hs]⟩

theorem openHandle_of_mem_usrp1Find_one_device :
    newAddr ⟨"4cfe5", false, "rx"⟩ ∈
        (usrp1Find ⟨fun _ _ => [], fun _ _ => [⟨"4cfe5", false, "rx"⟩], fun _ => none⟩ ⟨[]⟩).addrs ∧
      ∃ handle ∈ [(⟨"4cfe5", false, "rx"⟩ : UsbDevice)],
        openHandle [⟨"4cfe5", false, "rx"⟩] (newAddr ⟨"4cfe5", false, "rx"⟩) = some handle ∧
        (newAddr ⟨"4cfe5", false, "rx"⟩).lookup "serial" = some handle.serial := by
  have h : newAddr ⟨"4cfe5", false, "rx"⟩ ∈
      (usrp1Find ⟨fun _ _ => [], fun _ _ => [⟨"4cfe5", false, "rx"⟩], fun _ => none⟩ ⟨[]⟩).addrs := by
    decide
  exact ⟨h, openHandle_of_mem_usrp1Find _ _ _ h⟩

/-! ## Finding a reported device again -/

theorem newAddr_eq (handle : UsbDevice) :
    newAddr handle = ⟨[("type", "usrp1"), ("name", handle.eepromName), ("serial", handle.serial)]⟩ := by
  simp [newAddr, DeviceAddr.set, DeviceAddr.hasKey]

theorem hintExcludes_newAddr (handle : UsbDevice) : hintExcludes (newAddr handle) = false := by
  simp [hintExcludes, newAddr_eq, DeviceAddr.hasKey, DeviceAddr.lookup]

theorem firstEnumIds_newAddr (handle : UsbDevice) :
    firstEnumIds (newAddr handle) = (usrp1VendorId, usrp1ProductId) := by
  simp [firstEnumIds, newAddr_eq, DeviceAddr.hasKey]

theorem get_fw_newAddr (handle : UsbDevice) :
    (newAddr handle).get "fw" "usrp1_fw.ihx" = "usrp1_fw.ihx" := by
  simp [DeviceAddr.get, newAddr_eq, DeviceAddr.lookup]

/-- Given a free device's address as the hint, the second loop reports the free devices
with its EEPROM name and serial: on a bus whose free devices have distinct serials, that
device alone. -/
theorem filter_reported_newAddr {devices : List UsbDevice} {d : UsbDevice} (hd : d ∈ devices)
    (hfree : d.claimed = false)
    (hserials : ((devices.filter (!·.claimed)).map (·.serial)).Nodup) :
    devices.filter (reported (newAddr d)) = [d] := by
  have hrep : ∀ x, reported (newAddr d) x = true ↔
      x.claimed = false ∧ d.eepromName = x.eepromName ∧ d.serial = x.serial := by
    intro x
    simp [reported, hintAdmits, lookup_newAddr]
  have hsub : List.Sublist (devices.filter (reported (newAddr d))) (devices.filter (!·.claimed)) :=
    List.monotone_filter_right devices fun x hx => by simp [(hrep x).mp hx]
  have hfree' : d ∈ devices.filter (!·.claimed) := List.mem_filter.mpr ⟨hd, by simp [hfree]⟩
  have hall : ∀ x ∈ devices.filter (reported (newAddr d)), x = d := fun x hx =>
    List.inj_on_of_nodup_map hserials (hsub.subset hx) hfree'
      ((hrep x).mp (List.mem_filter.mp hx).2).2.2.symm
  have hnodup : (devices.filter (reported (newAddr d))).Nodup :=
    (hserials.sublist (hsub.map _)).of_map _
  have hdmem : d ∈ devices.filter (reported (newAddr d)) :=
    List.mem_filter.mpr ⟨hd, (hrep d).mpr ⟨hfree, rfl, rfl⟩⟩
  rw [List.eq_replicate_iff.mpr ⟨rfl, hall⟩] at hnodup hdmem ⊢
  have hlen : (devices.filter (reported (newAddr d))).length = 1 :=
    le_antisymm (List.nodup_replicate.mp hnodup) (Nat.pos_of_ne_zero (List.mem_replicate.mp hdmem).1)
  rw [hlen]
  rfl

/-- Discovery finds again what it reported. A second call sees the bus the first left: its
first enumeration under the USRP1 ids is the first call's second one, and the devices
re-enumerate as they were. On such a bus, whose free USRP1 devices have distinct serials,
an address the first call returned, given back as the hint, yields that address alone, once
the default image is loaded again onto every free device; without the default image it
yields only the warning. -/
theorem usrp1Find_rediscover (env env' : FindEnv) (hint addr : DeviceAddr)
    (h : addr ∈ (usrp1Find env hint).addrs)
    (hbefore : env'.devicesBefore usrp1VendorId usrp1ProductId =
      env.devicesAfter usrp1VendorId usrp1ProductId)
    (hafter : env'.devicesAfter usrp1VendorId usrp1ProductId =
      env.devicesAfter usrp1VendorId usrp1ProductId)
    (hserials : (((env.devicesAfter usrp1VendorId usrp1ProductId).filter (!·.claimed)).map
      (·.serial)).Nodup) :
    usrp1Find env' addr =
      match env'.findImagePath "usrp1_fw.ihx" with
      | some image => ⟨[addr], ((env.devicesAfter usrp1VendorId usrp1ProductId).filter
          (!·.claimed)).map (fun handle => (handle.serial, image)), []⟩
      | none => ⟨[], [], [noFirmwareWarning]⟩ := by
  obtain ⟨d, hd, hrep, rfl⟩ := mem_usrp1Find_addrs h
  have hfree : d.claimed = false := by
    simp only [reported, Bool.and_eq_true, Bool.not_eq_true'] at hrep
    exact hrep.1
  rw [usrp1Find_eq, hintExcludes_newAddr, firstEnumIds_newAddr, get_fw_newAddr, hbefore, hafter]
  cases env'.findImagePath "usrp1_fw.ihx" with
  | none => simp [loadFirmwareLoop_none, List.ne_nil_of_mem hd]
  | some image => simp [loadFirmwareLoop_some, filter_reported_newAddr hd hfree hserials]

theorem usrp1Find_rediscover_one_device :
    newAddr ⟨"4cfe5", false, "rx"⟩ ∈
        (usrp1Find ⟨fun _ _ => [], fun _ _ => [⟨"4cfe5", false, "rx"⟩], fun _ => none⟩ ⟨[]⟩).addrs ∧
      ((([⟨"4cfe5", false, "rx"⟩] : List UsbDevice).filter (!·.claimed)).map (·.serial)).Nodup ∧
      usrp1Find ⟨fun _ _ => [⟨"4cfe5", false, "rx"⟩], fun _ _ => [⟨"4cfe5", false, "rx"⟩],
          fun name => some name⟩ (newAddr ⟨"4cfe5", false, "rx"⟩) =
        ⟨[newAddr ⟨"4cfe5", false, "rx"⟩], [("4cfe5", "usrp1_fw.ihx")], []⟩ := by
  have h : newAddr ⟨"4cfe5", false, "rx"⟩ ∈
      (usrp1Find ⟨fun _ _ => [], fun _ _ => [⟨"4cfe5", false, "rx"⟩], fun _ => none⟩ ⟨[]⟩).addrs := by
    decide
  have hserials : ((([⟨"4cfe5", false, "rx"⟩] : List UsbDevice).filter (!·.claimed)).map
      (·.serial)).Nodup := by
    decide
  exact ⟨h, hserials, usrp1Find_rediscover _ ⟨fun _ _ => [⟨"4cfe5", false, "rx"⟩],
    fun _ _ => [⟨"4cfe5", false, "rx"⟩], fun name => some name⟩ _ _ h rfl rfl hserials⟩

/-! ## Narrowing a hint -/

theorem DeviceAddr.lookup_set_of_hasKey_eq_false {addr : DeviceAddr} {key : String}
    (h : addr.hasKey key = false) (value k : String) :
    (addr.set key value).lookup k = if k = key then some value else addr.lookup k := by
  have hfresh : ∀ kv ∈ addr.bindings, ¬(kv.1 == key) = true := by
    simpa [DeviceAddr.hasKey] using h
  simp only [DeviceAddr.set, h, Bool.false_eq_true, if_false, DeviceAddr.lookup, List.find?_append]
  by_cases hk : k = key
  · subst hk
    simp [List.find?_eq_none.mpr hfresh]
  · simp [hk, Ne.symm hk]

theorem DeviceAddr.hasKey_set_of_hasKey_eq_false {addr : DeviceAddr} {key : String}
    (h : addr.hasKey key = false) (value k : String) :
    (addr.set key value).hasKey k = (k == key || addr.hasKey k) := by
  simp only [DeviceAddr.set, h, Bool.false_eq_true, if_false]
  simp only [DeviceAddr.hasKey, List.any_append]
  by_cases hk : k = key
  · subst hk
    simp
  · simp [beq_eq_false_iff_ne.mpr hk, beq_eq_false_iff_ne.mpr (Ne.symm hk)]

/-- Narrowing a hint by a `name` or `serial` it did not give changes nothing in discovery but
the addresses reported: those of the wider hint with that key's value. -/
theorem usrp1Find_narrow (env : FindEnv) {hint : DeviceAddr} {key : String}
    (hkey : key = "name" ∨ key = "serial") (hfresh : hint.hasKey key = false) (value : String) :
    usrp1Find env (hint.set key value) =
      { usrp1Find env hint with
        addrs := (usrp1Find env hint).addrs.filter (·.lookup key == some value) } := by
  have hl := DeviceAddr.lookup_set_of_hasKey_eq_false hfresh value
  have hh := DeviceAddr.hasKey_set_of_hasKey_eq_false hfresh value
  have hx : hintExcludes (hint.set key value) = hintExcludes hint := by
    rcases hkey with rfl | rfl <;> simp [hintExcludes, hl, hh]
  have hfw : (hint.set key value).get "fw" "usrp1_fw.ihx" = hint.get "fw" "usrp1_fw.ihx" := by
    rcases hkey with rfl | rfl <;> simp [DeviceAddr.get, hl]
  have hids : firstEnumIds (hint.set key value) = firstEnumIds hint := by
    rcases hkey with rfl | rfl <;> simp [firstEnumIds, hh]
  have hnone : hint.lookup key = none := by
    simpa [DeviceAddr.hasKey, DeviceAddr.lookup, List.find?_eq_none] using hfresh
  have hrep : ∀ d, reported (hint.set key value) d =
      ((newAddr d).lookup key == some value && reported hint d) := by
    intro d
    rcases hkey with rfl | rfl <;> simp [reported, hintAdmits, hl, hnone, Bool.beq_comm, Bool.and_comm, Bool.and_left_comm]
  rw [usrp1Find_eq, usrp1Find_eq, hx, hfw, hids]
  split
  · rfl
  · split
    · rfl
    · simp only [List.filter_map, List.filter_filter, Function.comp_def, funext hrep]

theorem usrp1Find_narrow_serial :
    ("serial" = "name" ∨ "serial" = "serial") ∧ (⟨[]⟩ : DeviceAddr).hasKey "serial" = false ∧
      usrp1Find ⟨fun _ _ => [], fun _ _ => [⟨"4cfe5", false, "rx"⟩, ⟨"77ab0", false, "tx"⟩],
          fun _ => none⟩ ((⟨[]⟩ : DeviceAddr).set "serial" "4cfe5") =
        { usrp1Find ⟨fun _ _ => [], fun _ _ => [⟨"4cfe5", false, "rx"⟩, ⟨"77ab0", false, "tx"⟩],
            fun _ => none⟩ ⟨[]⟩ with
          addrs := (usrp1Find ⟨fun _ _ => [], fun _ _ => [⟨"4cfe5", false, "rx"⟩,
              ⟨"77ab0", false, "tx"⟩], fun _ => none⟩ ⟨[]⟩).addrs.filter
            (·.lookup "serial" == some "4cfe5") } :=
  ⟨.inr rfl, rfl, @usrp1Find_narrow _ ⟨[]⟩ _ (.inr rfl) rfl "4cfe5"⟩

end Uhd.Usrp1
