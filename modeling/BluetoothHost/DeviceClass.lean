import BluetoothHost.Coded

/-!
# `DeviceClass` — what kind of device it is

A device describes itself by a word of bit fields: a major class in bits 8–12, a minor class in
bits 2–7 and service classes in bits 13–23.

## Contents
- `RawClass`: the three fields, cut from a word by `RawClass.ofWord`.
- `MajorClass`: the major classes with a name; `MajorClass.ofCode`, total.
- `DeviceClass`, made from the fields by `RawClass.deviceClass`.
-/

namespace BluetoothHost

/-- The fields of a class word. The minor and the service classes stay at their place in it. -/
structure RawClass where
  major : BitVec 32 := 0
  minor : BitVec 32 := 0
  service : BitVec 32 := 0
  deriving DecidableEq, Inhabited

/-- Cuts a class word into its fields. -/
def RawClass.ofWord (word : BitVec 32) : RawClass where
  major := (word &&& 0x1f00) >>> 8
  minor := word &&& 0xfc
  service := word &&& 0xffe000

/-- The major device classes. -/
inductive MajorClass where
  | misc
  | computer
  | phone
  | lanNetworkAccessPoint
  | audioVideo
  | peripheral
  | imaging
  | wearable
  | toy
  | health
  | uncategorized
  deriving DecidableEq, Inhabited

namespace MajorClass

/-- The code and the name of a major class. -/
def entry : MajorClass → Int × String
  | .misc => (0x00, "Misc")
  | .computer => (0x01, "Computer")
  | .phone => (0x02, "Phone")
  | .lanNetworkAccessPoint => (0x03, "LanNetworkAccessPoint")
  | .audioVideo => (0x04, "AudioVideo")
  | .peripheral => (0x05, "Peripheral")
  | .imaging => (0x06, "Imaging")
  | .wearable => (0x07, "Wearable")
  | .toy => (0x08, "Toy")
  | .health => (0x09, "Health")
  | .uncategorized => (0x1f, "Uncategorized")

instance : Coded MajorClass where
  values := [.misc, .computer, .phone, .lanNetworkAccessPoint, .audioVideo, .peripheral,
    .imaging, .wearable, .toy, .health, .uncategorized]
  code c := c.entry.1
  name c := c.entry.2

/-- The major class of a code; a code without one stands for `uncategorized`. -/
def ofCode (n : Int) : MajorClass := (Coded.ofCode? n).getD .uncategorized

theorem ofCode_code (c : MajorClass) : ofCode (Coded.code c) = c := by cases c <;> rfl

end MajorClass

/-- What kind of device it is. -/
structure DeviceClass where
  major : MajorClass
  /-- The minor class, at bits 2–7. -/
  minor : BitVec 32
  /-- The service classes, at bits 13–23. -/
  services : BitVec 32
  deriving DecidableEq, Inhabited

/-- The class with these fields. -/
def RawClass.deviceClass (c : RawClass) : DeviceClass where
  major := MajorClass.ofCode c.major.toNat
  minor := c.minor
  services := c.service

end BluetoothHost
