import BluetoothHost.Proofs.Conversion
import BluetoothHost.Proofs.Decoding
import Mathlib.Data.List.TakeWhile

/-!
# `Proofs.Names` — the names of devices

The name of a device comes in a field of octets that zero octets fill up. Nothing says that the name fits the
field, nor that it is text at all.

A name that is too long is cut where the field ends. What is read is the longest beginning of the name that the
field has room for, and one U+FFFD if the cut goes through a character (`cut_text_is_kept`). A name of any
octets gives a text without U+0000, which is empty only if no octet stands in front of the first zero octet, and
that text is read back from its own octets (`any_octets_are_a_name`).

## Contents
- `zero_mem_encode_iff`: a zero octet is written for U+0000 only; `broken_of_cut`: a character that is cut.
- `Longest`, `EndInside` and `Cut`, with `exists_cut`, `Longest.lt_iff` and `Cut.decode_take`: where a text is cut.
- `Padding` and `unpadded`, with `nul_notMem_padded`, `padded_encode` and `padded_eq_empty_iff`.
- `cut_text_is_kept`, `DeviceRecord.any_octets_are_a_name`.
-/

namespace BluetoothHost.Text.Utf8

/-! ## The octets of a text -/

/-- Only the character of the number zero is written with a zero octet. -/
theorem zero_notMem_encodeChar {c : Char} (h : c ≠ '\x00') : 0 ∉ String.utf8EncodeChar c := by
  obtain ⟨b, l, bs, hc, hl, hbs, hnumber⟩ := exists_lead_of_encodeChar c
  rw [hc, List.mem_cons, not_or]
  refine ⟨?_, hbs.zero_notMem (range_of_lead? hl).1⟩
  rintro rfl
  obtain rfl := Option.some.inj ((show lead? 0 = some ⟨0, 0x80, 0xbf, 0⟩ by decide).symm.trans hl)
  obtain rfl : bs = [] := hbs
  refine h ?_
  rw [← Char.ofNat_toNat c, ← hnumber]
  rfl

theorem zero_mem_encode_iff {cs : List Char} : 0 ∈ encode cs ↔ '\x00' ∈ cs := by
  constructor
  · intro h
    obtain ⟨c, hc, hzero⟩ := List.mem_flatMap.1 h
    by_cases hnul : c = '\x00'
    · exact hnul ▸ hc
    · exact absurd hzero (zero_notMem_encodeChar hnul)
  · intro h
    exact List.mem_flatMap.2 ⟨_, h, by decide⟩

theorem encode_append (cs ds : List Char) : encode (cs ++ ds) = encode cs ++ encode ds :=
  List.flatMap_append

theorem encode_singleton (c : Char) : encode [c] = String.utf8EncodeChar c := List.flatMap_singleton ..

/-- The octets of a character are the beginning of no other's. -/
theorem eq_of_encodeChar_begins {c d : Char} (h : String.utf8EncodeChar d <+: String.utf8EncodeChar c) : c = d := by
  obtain ⟨more, hmore⟩ := h
  have hc := decode_encodeChar_append c []
  rw [List.append_nil, ← hmore, decode_encodeChar_append] at hc
  exact (List.cons.inj hc).1.symm

/-- A character that is cut is ill-formed. -/
theorem broken_of_cut {c : Char} {part more : List UInt8} (h : String.utf8EncodeChar c = part ++ more)
    (hpart : part ≠ []) (hmore : more ≠ []) : Broken part [] := by
  constructor
  case nonempty => exact hpart
  case illFormed =>
    rintro d ⟨left, hleft⟩
    rw [List.append_nil] at hleft
    obtain rfl : c = d := eq_of_encodeChar_begins ⟨left ++ more, by rw [h, ← hleft, List.append_assoc]⟩
    rw [← hleft, List.append_assoc, List.self_eq_append_right] at h
    exact hmore (List.append_eq_nil_iff.1 h).2
  case unfinished => exact .inl ⟨c, more, h.symm⟩
  case maximal =>
    intro longer hlonger _
    rw [List.append_nil] at hlonger
    exact hlonger.length_le

/-! ## Where a text is cut -/

/-- The longest beginning of a text that some octets have room for. -/
structure Longest (cs : List Char) (n : Nat) (kept : List Char) : Prop where
  beginning : kept <+: cs
  fits : (encode kept).length ≤ n
  longest : ∀ other, other <+: cs → (encode other).length ≤ n → other <+: kept

/-- Some octets of a text end inside one of its characters. -/
def EndInside (cs : List Char) (n : Nat) : Prop :=
  ∃ before c after, cs = before ++ c :: after ∧ (encode before).length < n ∧
    n < (encode (before ++ [c])).length

theorem length_encode_append (cs ds : List Char) :
    (encode (cs ++ ds)).length = (encode cs).length + (encode ds).length := by
  rw [encode_append, List.length_append]

/-- A text is cut: its beginning has room in some octets, but not together with the next character. -/
structure Cut (kept rest : List Char) (n : Nat) : Prop where
  fits : (encode kept).length ≤ n
  next : ∀ c after, rest = c :: after → n < (encode kept).length + (String.utf8EncodeChar c).length

theorem exists_cut (cs : List Char) (n : Nat) : ∃ kept rest, cs = kept ++ rest ∧ Cut kept rest n := by
  induction cs generalizing n with
  | nil => exact ⟨[], [], rfl, Nat.zero_le n, nofun⟩
  | cons c cs ih =>
    rcases Nat.lt_or_ge n (String.utf8EncodeChar c).length with hroom | hroom
    · refine ⟨[], c :: cs, rfl, Nat.zero_le n, fun d after h => ?_⟩
      obtain rfl := (List.cons.inj h).1
      exact Nat.lt_of_lt_of_le hroom (Nat.le_add_left _ _)
    · obtain ⟨kept, rest, rfl, hfits, hnext⟩ := ih (n - (String.utf8EncodeChar c).length)
      have hlength : (encode (c :: kept)).length = (String.utf8EncodeChar c).length + (encode kept).length := by
        rw [encode_cons, List.length_append]
      refine ⟨c :: kept, rest, rfl, by omega, fun d after h => ?_⟩
      have := hnext d after h
      omega

/-- What is in front of a cut is the longest that could be. -/
theorem Cut.longest {kept rest : List Char} {n : Nat} (h : Cut kept rest n) : Longest (kept ++ rest) n kept := by
  refine ⟨List.prefix_append kept rest, h.fits, fun other hother hroom => ?_⟩
  rcases List.prefix_or_prefix_of_prefix hother (List.prefix_append kept rest) with hle | ⟨extra, rfl⟩
  · exact hle
  · match extra with
    | [] => exact (List.append_nil kept).symm ▸ List.prefix_refl kept
    | c :: cs =>
      obtain ⟨after, hafter⟩ := (List.prefix_append_right_inj kept).1 hother
      have hnext := h.next c _ hafter.symm
      rw [length_encode_append, encode_cons, List.length_append] at hroom
      omega

/-- What is kept of a text leaves octets over if these end inside a character, and not otherwise. -/
theorem Longest.lt_iff {cs kept : List Char} {n : Nat} (h : Longest cs n kept) (hn : n ≤ (encode cs).length) :
    (encode kept).length < n ↔ EndInside cs n := by
  obtain ⟨rest, rfl⟩ := h.beginning
  constructor
  · intro hroom
    match rest with
    | [] =>
      rw [List.append_nil] at hn
      omega
    | c :: after =>
      refine ⟨kept, c, after, rfl, hroom, Nat.lt_of_not_le fun hle => ?_⟩
      have hlonger := h.longest (kept ++ [c]) ⟨after, by rw [List.append_assoc]; rfl⟩ hle
      have := hlonger.length_le
      rw [List.length_append, List.length_singleton] at this
      omega
  · rintro ⟨before, c, after, hsplit, hbefore, hafter⟩
    obtain ⟨extra, rfl⟩ := h.longest before ⟨c :: after, hsplit.symm⟩ (Nat.le_of_lt hbefore)
    match extra with
    | [] => rwa [List.append_nil]
    | d :: ds =>
      -- the character the octets end in would be among those kept
      rw [List.append_assoc, List.append_cancel_left_eq] at hsplit
      obtain rfl := (List.cons.inj hsplit).1
      have hfits := h.fits
      rw [length_encode_append, encode_cons, List.length_append] at hfits
      rw [length_encode_append, encode_singleton] at hafter
      omega

/-- The octets of a character that are in front of a cut inside it are read as one U+FFFD. -/
theorem decode_take_encodeChar {c : Char} {k : Nat} (hpos : 0 < k) (hk : k < (String.utf8EncodeChar c).length) :
    decode ((String.utf8EncodeChar c).take k) = [replacement] := by
  have hbroken : Broken ((String.utf8EncodeChar c).take k) [] := by
    apply broken_of_cut (List.take_append_drop k _).symm
    · rw [← List.length_pos_iff, List.length_take]
      omega
    · rw [← List.length_pos_iff, List.length_drop]
      omega
  rw [← List.append_nil ((String.utf8EncodeChar c).take k), decode_broken_append hbroken, decode_nil]

/-- **What is left of a text that is cut**: what is kept, and one U+FFFD if octets are left over. -/
theorem Cut.decode_take {kept rest : List Char} {n : Nat} (h : Cut kept rest n)
    (hn : n ≤ (encode (kept ++ rest)).length) :
    decode ((encode (kept ++ rest)).take n) =
      kept ++ if (encode kept).length < n then [replacement] else [] := by
  have hfits := h.fits
  rw [encode_append, List.take_append, List.take_of_length_le hfits, decode_encode_append]
  congr 1
  split
  · rename_i hover
    match rest with
    | [] =>
      rw [List.append_nil] at hn
      omega
    | c :: after =>
      have hnext := h.next c after rfl
      rw [encode_cons, List.take_append_of_le_length (by omega), decode_take_encodeChar (by omega) (by omega)]
  · rw [show n - (encode kept).length = 0 by omega, List.take_zero, decode_nil]

/-! ## The field a name stands in -/

/-- What may stand behind the octets of a field: nothing, or a zero octet and anything. -/
def Padding (octets : List UInt8) : Prop := octets = [] ∨ ∃ rest, octets = 0 :: rest

/-- The octets of a field in front of the first zero octet. -/
def unpadded (octets : List UInt8) : List UInt8 := octets.takeWhile (· != 0)

theorem unpadded_append {octets padding : List UInt8} (h : 0 ∉ octets) (hpadding : Padding padding) :
    unpadded (octets ++ padding) = octets := by
  have hnone : unpadded padding = [] := by
    rcases hpadding with rfl | ⟨rest, rfl⟩ <;> rfl
  have hall : ∀ b ∈ octets, (b != 0) = true := by
    intro b hb
    rw [bne_iff_ne]
    rintro rfl
    exact h hb
  rw [unpadded, List.takeWhile_append_of_pos hall, ← unpadded, hnone, List.append_nil]

theorem zero_notMem_unpadded (octets : List UInt8) : 0 ∉ unpadded octets := by
  intro h
  have hzero := List.mem_takeWhile_imp h
  exact absurd hzero (by decide)

theorem unpadded_eq_nil_iff {octets : List UInt8} : unpadded octets = [] ↔ Padding octets := by
  match octets with
  | [] => exact ⟨fun _ => .inl rfl, fun _ => rfl⟩
  | b :: rest =>
    by_cases hb : b = 0
    · subst hb
      exact ⟨fun _ => .inr ⟨rest, rfl⟩, fun _ => rfl⟩
    · have hkeep : unpadded (b :: rest) = b :: unpadded rest := List.takeWhile_cons_of_pos (bne_iff_ne.2 hb)
      rw [hkeep]
      refine ⟨nofun, ?_⟩
      rintro (hnil | ⟨others, hzero⟩)
      · exact absurd hnil (List.cons_ne_nil b rest)
      · exact absurd (List.cons.inj hzero).1 hb

/-- A field is read as the text of the octets in front of the first zero octet. -/
theorem toList_padded (octets : List UInt8) : (padded octets).toList = decode (unpadded octets) :=
  String.toList_ofList

/-- Octets without a zero octet are read as a text without U+0000. -/
theorem nul_notMem_of_reads {bs : List UInt8} {cs : List Char} (h : Reads bs cs) (hzero : 0 ∉ bs) :
    '\x00' ∉ cs := by
  induction h with
  | nil => exact List.not_mem_nil
  | character c _ ih =>
    rw [List.mem_append, not_or] at hzero
    rw [List.mem_cons, not_or]
    refine ⟨?_, ih hzero.2⟩
    rintro rfl
    exact hzero.1 (by decide)
  | broken _ _ ih =>
    rw [List.mem_append, not_or] at hzero
    rw [List.mem_cons, not_or]
    exact ⟨by decide, ih hzero.2⟩

theorem nul_notMem_padded (octets : List UInt8) : '\x00' ∉ (padded octets).toList := by
  rw [toList_padded]
  exact nul_notMem_of_reads (reads_decode _) (zero_notMem_unpadded octets)

/-- A text without U+0000 is read back from its own octets, padded or not. -/
theorem padded_encode {s : String} (hnul : '\x00' ∉ s.toList) {padding : List UInt8} (hpadding : Padding padding) :
    padded (encode s.toList ++ padding) = s := by
  rw [← String.toList_inj, toList_padded, unpadded_append (zero_mem_encode_iff.not.2 hnul) hpadding,
    ← List.append_nil (encode s.toList), decode_encode_append, decode_nil, List.append_nil]

theorem padded_eq_empty_iff {octets : List UInt8} : padded octets = "" ↔ Padding octets := by
  rw [← String.toList_eq_nil_iff, toList_padded, ← unpadded_eq_nil_iff]
  cases unpadded octets with
  | nil => simp
  | cons b bs => simp [decode_cons]

/-- **A text survives padding and being cut.** Of the first octets of a text without U+0000, with any padding
    behind them, the longest beginning of the text is read that they have room for, and one U+FFFD behind it if
    they end inside a character. If they are all octets of the text, it is the text that is read. -/
theorem cut_text_is_kept (s : String) (hnul : '\x00' ∉ s.toList) (n : Nat) (hn : n ≤ (encode s.toList).length)
    (padding : List UInt8) (hpadding : Padding padding) :
    (∃ kept, Longest s.toList n kept ∧
      (EndInside s.toList n →
        padded ((encode s.toList).take n ++ padding) = String.ofList (kept ++ [replacement])) ∧
      (¬ EndInside s.toList n → padded ((encode s.toList).take n ++ padding) = String.ofList kept)) ∧
    (n = (encode s.toList).length → padded ((encode s.toList).take n ++ padding) = s) := by
  have hzero : 0 ∉ (encode s.toList).take n :=
    fun h => hnul (zero_mem_encode_iff.1 (List.mem_of_mem_take h))
  obtain ⟨kept, rest, hsplit, hcut⟩ := exists_cut s.toList n
  have hkept : Longest s.toList n kept := hsplit ▸ hcut.longest
  have hread : padded ((encode s.toList).take n ++ padding) =
      String.ofList (kept ++ if (encode kept).length < n then [replacement] else []) := by
    rw [padded, ← unpadded, unpadded_append hzero hpadding, hsplit, hcut.decode_take (hsplit ▸ hn)]
  refine ⟨⟨kept, hkept, fun hinside => ?_, fun hinside => ?_⟩, ?_⟩
  · rw [hread, if_pos ((hkept.lt_iff hn).2 hinside)]
  · rw [hread, if_neg fun hlt => hinside ((hkept.lt_iff hn).1 hlt), List.append_nil]
  · rintro rfl
    rw [List.take_length, padded_encode hnul hpadding]

/-- A cut inside a character of four octets, with more behind the zero octet. -/
theorem cut_text_is_kept_insideFlag :
    '\x00' ∉ "né⚑🏁".toList ∧ 9 ≤ (encode "né⚑🏁".toList).length ∧ Padding [0, 0xff] ∧
      EndInside "né⚑🏁".toList 9 ∧
      ∃ kept, Longest "né⚑🏁".toList 9 kept ∧
        padded ((encode "né⚑🏁".toList).take 9 ++ [0, 0xff]) = String.ofList (kept ++ [replacement]) := by
  have hnul : '\x00' ∉ "né⚑🏁".toList := by decide
  have hn : 9 ≤ (encode "né⚑🏁".toList).length := by decide
  have hpadding : Padding [0, 0xff] := .inr ⟨[0xff], rfl⟩
  have hinside : EndInside "né⚑🏁".toList 9 :=
    ⟨['n', 'é', '⚑'], '🏁', [], by decide, by decide, by decide⟩
  obtain ⟨⟨kept, hkept, hread, -⟩, -⟩ := cut_text_is_kept "né⚑🏁" hnul 9 hn [0, 0xff] hpadding
  exact ⟨hnul, hn, hpadding, hinside, kept, hkept, hread hinside⟩

end BluetoothHost.Text.Utf8

/-! ## The names of devices -/

namespace BluetoothHost.DeviceRecord

open Text.Utf8

theorem remoteName_eq_none_iff (r : DeviceRecord) : r.remoteName = none ↔ Padding r.name := by
  rw [← padded_eq_empty_iff, ← String.isEmpty_iff, remoteName]
  split <;> simp_all

theorem eq_padded_of_mem_remoteName {r : DeviceRecord} {name : String} (h : name ∈ r.remoteName) :
    name = padded r.name := by
  rw [Option.mem_def, remoteName] at h
  split at h
  · exact absurd h nofun
  · exact (Option.some.inj h).symm

/-- **Any octets are read as a name.** What is read are the characters in front of the first zero octet, with
    one U+FFFD for each maximal ill-formed part. Nothing behind that octet shows, and U+0000 is not among the
    characters; text that stands in front of other octets is read as it is, and what is read is read back from
    its own octets. The device has no name if no octet stands in front of the first zero octet, and this one
    otherwise. -/
theorem any_octets_are_a_name (octets : List UInt8) :
    Reads (unpadded octets) (padded octets).toList ∧
    (∀ others, unpadded others = unpadded octets → padded others = padded octets) ∧
    '\x00' ∉ (padded octets).toList ∧
    (∀ (p : String) (c : List UInt8), unpadded octets = encode p.toList ++ c →
      padded octets = p ++ String.ofList (decode c)) ∧
    padded (encode (padded octets).toList) = padded octets ∧
    ∀ r : DeviceRecord, r.name = octets → r.serviceCount ≤ r.uuids.length →
      ∃ d f, Device.ofRecord r = .ok d ∧ Discovery.ofRecord r = .ok f ∧ f.remoteName = d.remoteName ∧
        (d.remoteName = none ↔ octets = [] ∨ ∃ rest, octets = 0 :: rest) ∧
        ∀ name, d.remoteName = some name → name = padded octets := by
  refine ⟨?_, fun others h => ?_, nul_notMem_padded octets, fun p c h => ?_, ?_, ?_⟩
  · rw [toList_padded]
    exact reads_decode _
  · rw [← String.toList_inj, toList_padded, toList_padded, h]
  · rw [← String.toList_inj, toList_padded, h, decode_encode_append, String.toList_append, String.toList_ofList]
  · rw [← List.append_nil (encode _)]
    exact padded_encode (nul_notMem_padded octets) (.inl rfl)
  · rintro r rfl hcount
    refine ⟨_, _, Device.ofRecord_eq_ok_iff.mpr ⟨hcount, rfl⟩,
      Discovery.ofRecord_eq_ok_iff.mpr ⟨hcount, rfl⟩, rfl, r.remoteName_eq_none_iff,
      fun name hname => ?_⟩
    exact eq_padded_of_mem_remoteName hname

/-- The record of a device whose name was not written in UTF-8. -/
def legacy : DeviceRecord where
  name := [0x43, 0x61, 0x66, 0xe9, 0x00, 0x21]

/-- A record with a name in which no character stands. -/
def garbled : DeviceRecord where
  name := [0xff, 0xc0, 0x80]

/-- What can be read of a name is, and a name of which nothing can be read is one nevertheless. -/
theorem any_octets_are_a_name_garbled :
    padded legacy.name = "Caf" ++ String.ofList (decode [0xe9]) ∧
    padded [0x43, 0x61, 0x66, 0xe9] = padded legacy.name ∧
    ∃ d, Device.ofRecord garbled = .ok d ∧ d.remoteName = some (padded garbled.name) := by
  obtain ⟨-, hbefore, -, hpart, -⟩ := any_octets_are_a_name legacy.name
  obtain ⟨-, -, -, -, -, hrecord⟩ := any_octets_are_a_name garbled.name
  obtain ⟨d, f, hd, -, -, hnone, hsome⟩ := hrecord garbled rfl (by decide)
  refine ⟨hpart "Caf" [0xe9] (by decide), hbefore _ (by decide), d, hd, ?_⟩
  cases hname : d.remoteName with
  | none =>
    rcases hnone.1 hname with hnil | ⟨rest, hzero⟩
    · exact absurd hnil (by decide)
    · exact absurd (List.cons.inj hzero).1 (by decide)
  | some name => rw [hsome name hname]

end BluetoothHost.DeviceRecord
