import BluetoothHost.Text.Fields
import BluetoothHost.Text.Hex

/-!
# `ServiceMask` — the services a device offers, as a set of bits

A device names its services by UUIDs. Those with a short form below `0x10000` stand for one of
twenty-three service classes, each a bit of a mask; several UUIDs may share a bit.

## Contents
- `ServiceMask`: the bits; `ServiceMask.flags` lists the known ones with their names.
- `shortForm?` reads the short form of a UUID; `ofShortForm` gives its bit.
- `ServiceMask.ofUuids` joins the bits of a list, with `ofUuids_nil`, `ofUuids_cons` and
  `ofUuids_append`.
-/

namespace BluetoothHost

/-- A set of service classes, one bit each. -/
abbrev ServiceMask := BitVec 32

namespace ServiceMask

/-! ## The known service classes -/

/-- The known service classes with their names, in ascending order. -/
def flags : List (String × ServiceMask) :=
  [("RES", 0x1), ("SPP", 0x2), ("DUN", 0x4), ("FAX", 0x8), ("LAP", 0x10), ("HSP", 0x20),
    ("HFP", 0x40), ("OPP", 0x80), ("FTP", 0x100), ("CTP", 0x200), ("ICP", 0x400),
    ("SYNC", 0x800), ("BPP", 0x1000), ("BIP", 0x2000), ("PANU", 0x4000), ("NAP", 0x8000),
    ("GN", 0x10000), ("SAP", 0x20000), ("A2DP", 0x40000), ("AVRCP", 0x80000),
    ("PBAP", 0x100000), ("HID", 0x200000), ("A2DP_SOURCE", 0x400000)]

/-- All known service classes together. -/
def known : ServiceMask := flags.foldl (fun mask flag => mask ||| flag.2) 0

/-- The known service classes among some bits. -/
def ofBits (bits : BitVec 32) : ServiceMask := bits &&& known

/-- The set of exactly these bits, unless one of them is unknown. -/
def ofBits? (bits : BitVec 32) : Option ServiceMask :=
  if bits &&& ~~~known = 0 then some bits else none

/-- The names of the service classes in a set, between bars. -/
def names (mask : ServiceMask) : String :=
  if mask = 0 then "(empty)"
  else " | ".intercalate ((flags.filter fun flag => mask &&& flag.2 == flag.2).map (·.1))

/-! ## Service classes of UUIDs -/

/-- The service class a short form stands for, if it stands for one. -/
def ofShortForm (short : BitVec 16) : ServiceMask :=
  match short.toNat with
  | 0x1101 => 0x2
  | 0x1102 => 0x10
  | 0x1103 => 0x4
  | 0x1104 => 0x800
  | 0x1105 => 0x80
  | 0x1106 => 0x100
  | 0x1108 | 0x1112 => 0x20
  | 0x1109 => 0x200
  | 0x110a => 0x400000
  | 0x110b | 0x110d => 0x40000
  | 0x110c | 0x110e | 0x110f => 0x80000
  | 0x1110 => 0x400
  | 0x1111 => 0x8
  | 0x1115 => 0x4000
  | 0x1116 => 0x8000
  | 0x1117 => 0x10000
  | 0x111a => 0x2000
  | 0x111e | 0x111f => 0x40
  | 0x1122 => 0x1000
  | 0x1124 => 0x200000
  | 0x112d => 0x20000
  | 0x112f | 0x1130 => 0x100000
  | _ => 0

/-- The short form of a UUID: the low half of the number before its first hyphen. A UUID without a
    hyphen is a short form itself. -/
def shortForm? (uuid : String) : Option (BitVec 16) :=
  (Text.word? (uuid.toList.takeWhile (· != '-'))).map (·.setWidth 16)

/-- The service class of a UUID; none if it has no short form. -/
def ofUuid (uuid : String) : ServiceMask :=
  match shortForm? uuid with
  | some short => ofShortForm short
  | none => 0

/-- The service classes that a list of UUIDs names. -/
def ofUuids (uuids : List String) : ServiceMask :=
  uuids.foldl (fun mask uuid => mask ||| ofUuid uuid) 0

/-- The UUIDs of a list that have no short form. -/
def unreadable (uuids : List String) : List String :=
  uuids.filter fun uuid => (shortForm? uuid).isNone

theorem foldl_or_eq (uuids : List String) (start : ServiceMask) :
    uuids.foldl (fun mask uuid => mask ||| ofUuid uuid) start = start ||| ofUuids uuids := by
  induction uuids generalizing start with
  | nil => simp [ofUuids]
  | cons uuid rest ih =>
    simp only [ofUuids, List.foldl_cons] at ih ⊢
    rw [ih, ih (0 ||| ofUuid uuid), BitVec.or_assoc]
    simp

@[simp] theorem ofUuids_nil : ofUuids [] = 0 := rfl

@[simp] theorem ofUuids_cons (uuid : String) (rest : List String) :
    ofUuids (uuid :: rest) = ofUuid uuid ||| ofUuids rest := by
  rw [ofUuids, List.foldl_cons, foldl_or_eq, BitVec.ofNat_eq_ofNat, BitVec.zero_or]

/-- The classes of two lists together are the classes of both. -/
theorem ofUuids_append (first second : List String) :
    ofUuids (first ++ second) = ofUuids first ||| ofUuids second := by
  induction first with
  | nil => simp
  | cons uuid rest ih => simp [ih, BitVec.or_assoc]

end ServiceMask

end BluetoothHost
