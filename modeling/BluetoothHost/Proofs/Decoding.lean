import BluetoothHost.Text.Utf8

/-!
# `Proofs.Decoding` — what arbitrary octets are read as

Octets are read one character at a time, and whatever forms none is replaced. What this comes to is said
without the reader (`Reads`): a text consists of the characters that stand in the octets, and of one U+FFFD for
each maximal ill-formed part, which is all that begins a character and cannot go on as one (`Broken`). The
reader gives this text and no other (`decode_eq_iff`).

All of it follows from what one step reads (`step_cases`), and that from two facts about first octets: the
octets of every character are read as its number (`exists_lead_of_encodeChar`), and octets that are read as a
number are those of the character with it (`exists_encodeChar_of_lead`). The two keep overlong forms, surrogates
and numbers that are too large out.

## Contents
- `Continues`, `number`, with `follow_cases`: what is read behind a first octet.
- `FirstOctet`, with `lead?_eq_some_iff`: the octets that begin a character.
- `encodeChar_two`, `encodeChar_three`, `encodeChar_four`: the octets of a character.
- `Begins`, `Broken`, `Reads`, with `step_cases`, `reads_decode` and `decode_eq_iff`.
- `decode_encode_append`: what is written is read back.
-/

namespace BluetoothHost.Text.Utf8

/-! ## The octets behind the first -/

/-- Octets that complete a character: as many as are to follow, the next one of them within a range and the
    later ones within `0x80`–`0xbf`. -/
def Continues : (count : Nat) → (low high : UInt8) → List UInt8 → Prop
  | 0, _, _, bs => bs = []
  | _ + 1, _, _, [] => False
  | count + 1, low, high, b :: rest => (low ≤ b ∧ b ≤ high) ∧ Continues count 0x80 0xbf rest

/-- The number that some bits and the octets behind them stand for. -/
def number (bits : Nat) (bs : List UInt8) : Nat :=
  bs.foldl (fun n b => 64 * n + b.toNat % 64) bits

theorem follow_of_continues {count : Nat} {low high : UInt8} {bs : List UInt8}
    (h : Continues count low high bs) (bits : Nat) (rest : List UInt8) :
    follow count low high bits (bs ++ rest) = (some (number bits bs), rest) := by
  induction count generalizing low high bits bs with
  | zero =>
    obtain rfl : bs = [] := h
    rfl
  | succ count ih =>
    cases bs with
    | nil => exact h.elim
    | cons b bs =>
      rw [List.cons_append, follow, if_pos h.1, ih h.2]
      rfl

/-- The octets that complete a character are none of ASCII. -/
theorem Continues.zero_notMem {count : Nat} {low high : UInt8} {bs : List UInt8}
    (h : Continues count low high bs) (hlow : 0x80 ≤ low) : 0 ∉ bs := by
  induction count generalizing low high bs with
  | zero =>
    obtain rfl : bs = [] := h
    exact List.not_mem_nil
  | succ count ih =>
    cases bs with
    | nil => exact h.elim
    | cons b bs =>
      rw [List.mem_cons, not_or]
      refine ⟨?_, ih h.2 (by decide)⟩
      rintro rfl
      exact absurd (UInt8.le_trans hlow h.1.1) (by decide)

/-- Further octets can be found as long as some are missing. -/
theorem exists_continues (count : Nat) {low high : UInt8} (h : low ≤ high) :
    ∃ bs, Continues count low high bs := by
  induction count generalizing low high with
  | zero => exact ⟨[], rfl⟩
  | succ count ih =>
    obtain ⟨bs, hbs⟩ := ih (show (0x80 : UInt8) ≤ 0xbf by decide)
    exact ⟨low :: bs, ⟨UInt8.le_refl low, h⟩, hbs⟩

/-- **What is read behind a first octet**: all that is to follow, or a beginning of it. In the second case it
    could have been completed, but not with the next octet that is there. -/
theorem follow_cases (count : Nat) {low high : UInt8} (h : low ≤ high) (bits : Nat) (bs : List UInt8) :
    ∃ mid, bs = mid ++ (follow count low high bits bs).2 ∧
      (Continues count low high mid ∧ (follow count low high bits bs).1 = some (number bits mid) ∨
        (follow count low high bits bs).1 = none ∧ (∃ more, Continues count low high (mid ++ more)) ∧
        ∀ b left, (follow count low high bits bs).2 = b :: left →
          ∀ more, ¬ Continues count low high (mid ++ b :: more)) := by
  induction count generalizing low high bits bs with
  | zero => exact ⟨[], rfl, .inl ⟨rfl, rfl⟩⟩
  | succ count ih =>
    cases bs with
    | nil =>
      obtain ⟨more, hmore⟩ := exists_continues (count + 1) h
      exact ⟨[], rfl, .inr ⟨rfl, ⟨more, hmore⟩, nofun⟩⟩
    | cons b bs =>
      by_cases hb : low ≤ b ∧ b ≤ high
      · obtain ⟨mid, hsplit, hcases⟩ :=
          ih (show (0x80 : UInt8) ≤ 0xbf by decide) (64 * bits + b.toNat % 64) bs
        rw [follow, if_pos hb]
        refine ⟨b :: mid, congrArg (b :: ·) hsplit, ?_⟩
        rcases hcases with ⟨hall, hnumber⟩ | ⟨hnone, ⟨more, hmore⟩, hstuck⟩
        · exact .inl ⟨⟨hb, hall⟩, hnumber⟩
        · exact .inr ⟨hnone, ⟨more, hb, hmore⟩, fun x left hleft more hx => hstuck x left hleft more hx.2⟩
      · obtain ⟨more, hmore⟩ := exists_continues (count + 1) h
        rw [follow, if_neg hb]
        refine ⟨[], rfl, .inr ⟨rfl, ⟨more, hmore⟩, ?_⟩⟩
        intro x left hleft more hx
        obtain rfl := (List.cons.inj hleft).1
        exact hb hx.1

/-! ## The octets of a character -/

/-- What a first octet fixes that begins a character of two octets. -/
def leadOfTwo (bits : Nat) : Lead := ⟨1, 0x80, 0xbf, bits⟩

/-- What a first octet fixes that begins a longer character. The range of the next octet is cut short at its
    lower end if the bits are all zero, and at its upper end if they have a certain value. -/
def leadOfMore (following : Nat) (low : UInt8) (value : Nat) (high : UInt8) (bits : Nat) : Lead :=
  ⟨following, if bits = 0 then low else 0x80, if bits = value then high else 0xbf, bits⟩

/-- Behind `0xe0` stand no overlong forms, and behind `0xed` no surrogates. -/
def leadOfThree (bits : Nat) : Lead := leadOfMore 2 0xa0 0xd 0x9f bits

/-- Behind `0xf0` stand no overlong forms, and behind `0xf4` no numbers above U+10FFFF. -/
def leadOfFour (bits : Nat) : Lead := leadOfMore 3 0x90 4 0x8f bits

theorem mem_range_leadOfMore {following value bits : Nat} {low high x : UInt8} (hlow : 0x80 ≤ low)
    (hhigh : high ≤ 0xbf) :
    (leadOfMore following low value high bits).low ≤ x ∧
        x ≤ (leadOfMore following low value high bits).high ↔
      (0x80 ≤ x.toNat ∧ x.toNat ≤ 0xbf) ∧ (bits = 0 → low.toNat ≤ x.toNat) ∧
        (bits = value → x.toNat ≤ high.toNat) := by
  have hfirst : 0x80 ≤ low.toNat := hlow
  have hlast : high.toNat ≤ 0xbf := hhigh
  have hleast : (0x80 : UInt8).toNat = 0x80 := rfl
  have hgreatest : (0xbf : UInt8).toNat = 0xbf := rfl
  simp only [leadOfMore, UInt8.le_iff_toNat_le]
  split <;> split <;> omega

/-- An octet begins a character and fixes so much of it. -/
inductive FirstOctet (b : UInt8) : Lead → Prop
  | one (h : b.toNat < 0x80) : FirstOctet b ⟨0, 0x80, 0xbf, b.toNat⟩
  | two {bits : Nat} (hlarge : 2 ≤ bits) (h : bits < 32) (hb : b.toNat = bits + 0xc0) :
      FirstOctet b (leadOfTwo bits)
  | three {bits : Nat} (h : bits < 16) (hb : b.toNat = bits + 0xe0) : FirstOctet b (leadOfThree bits)
  | four {bits : Nat} (h : bits < 5) (hb : b.toNat = bits + 0xf0) : FirstOctet b (leadOfFour bits)

theorem lead?_of_firstOctet {b : UInt8} {l : Lead} (h : FirstOctet b l) : lead? b = some l := by
  rw [← UInt8.ofNat_toNat (x := b)]
  cases h with
  | one h =>
    have hall : ∀ m : Fin 0x80, lead? (UInt8.ofNat m) = some ⟨0, 0x80, 0xbf, m⟩ := by decide
    exact hall ⟨b.toNat, h⟩
  | @two bits hlarge h hb =>
    have hall : ∀ m : Fin 32, 2 ≤ m.val → lead? (UInt8.ofNat (m + 0xc0)) = some (leadOfTwo m) := by decide
    exact hb ▸ hall ⟨bits, h⟩ hlarge
  | @three bits h hb =>
    have hall : ∀ m : Fin 16, lead? (UInt8.ofNat (m + 0xe0)) = some (leadOfThree m) := by decide
    exact hb ▸ hall ⟨bits, h⟩
  | @four bits h hb =>
    have hall : ∀ m : Fin 5, lead? (UInt8.ofNat (m + 0xf0)) = some (leadOfFour m) := by decide
    exact hb ▸ hall ⟨bits, h⟩

theorem firstOctet_of_lead? {b : UInt8} {l : Lead} (hl : lead? b = some l) : FirstOctet b l := by
  have hall : ∀ m : Fin 0x100, lead? (UInt8.ofNat m) =
      if m.val < 0x80 then some ⟨0, 0x80, 0xbf, m⟩
      else if m.val < 0xc2 then none
      else if m.val < 0xe0 then some (leadOfTwo (m - 0xc0))
      else if m.val < 0xf0 then some (leadOfThree (m - 0xe0))
      else if m.val < 0xf5 then some (leadOfFour (m - 0xf0)) else none := by decide +kernel
  have hb := hall ⟨b.toNat, b.toNat_lt⟩
  rw [UInt8.ofNat_toNat, hl] at hb
  dsimp only at hb
  split at hb
  · exact Option.some.inj hb ▸ .one ‹_›
  split at hb
  · exact absurd hb nofun
  split at hb
  · exact Option.some.inj hb ▸ .two (by omega) (by omega) (by omega)
  split at hb
  · exact Option.some.inj hb ▸ .three (by omega) (by omega)
  split at hb
  · exact Option.some.inj hb ▸ .four (by omega) (by omega)
  · exact absurd hb nofun

/-- **The octets that begin a character are those of the four kinds.** -/
theorem lead?_eq_some_iff {b : UInt8} {l : Lead} : lead? b = some l ↔ FirstOctet b l :=
  ⟨firstOctet_of_lead?, lead?_of_firstOctet⟩

/-- The octet behind a first one that stands for six bits. -/
def trailing (bits : Nat) : UInt8 := UInt8.ofNat (bits % 64 + 0x80)

theorem toNat_trailing (bits : Nat) : (trailing bits).toNat = bits % 64 + 0x80 := by
  rw [trailing, UInt8.toNat_ofNat']
  omega

theorem trailing_mem (bits : Nat) : 0x80 ≤ trailing bits ∧ trailing bits ≤ 0xbf := by
  rw [UInt8.le_iff_toNat_le, UInt8.le_iff_toNat_le, toNat_trailing]
  change 0x80 ≤ _ ∧ _ ≤ 0xbf
  omega

/-- Any octet that may stand behind a first one stands for its lowest six bits. -/
theorem trailing_eq {n : Nat} {b : UInt8} (hb : 0x80 ≤ b.toNat ∧ b.toNat ≤ 0xbf) (h : n % 64 = b.toNat % 64) :
    trailing n = b := by
  rw [← UInt8.toNat_inj, toNat_trailing]
  omega

theorem encodeChar_two {c : Char} (h : 0x80 ≤ c.toNat) (hsmall : c.toNat < 0x800) :
    String.utf8EncodeChar c = [UInt8.ofNat (c.toNat / 64 + 0xc0), trailing c.toNat] := by
  have hlarge : ¬ c.val.toNat ≤ 0x7f := Nat.not_le.2 h
  have htwo : c.val.toNat ≤ 0x7ff := Nat.le_of_lt_succ hsmall
  have hbits : c.val.toNat / 64 % 32 = c.toNat / 64 := Nat.mod_eq_of_lt (by change c.toNat / 64 < 32; omega)
  simp only [String.utf8EncodeChar, hlarge, htwo, if_true, if_false, hbits]
  rfl

theorem encodeChar_three {c : Char} (h : 0x800 ≤ c.toNat) (hsmall : c.toNat < 0x10000) :
    String.utf8EncodeChar c =
      [UInt8.ofNat (c.toNat / 4096 + 0xe0), trailing (c.toNat / 64), trailing c.toNat] := by
  have hlarge : ¬ c.val.toNat ≤ 0x7f := Nat.not_le.2 (Nat.le_trans (by decide) h)
  have hlarger : ¬ c.val.toNat ≤ 0x7ff := Nat.not_le.2 h
  have hthree : c.val.toNat ≤ 0xffff := Nat.le_of_lt_succ hsmall
  have hbits : c.val.toNat / 4096 % 16 = c.toNat / 4096 :=
    Nat.mod_eq_of_lt (by change c.toNat / 4096 < 16; omega)
  simp only [String.utf8EncodeChar, hlarge, hlarger, hthree, if_true, if_false, hbits]
  rfl

theorem encodeChar_four {c : Char} (h : 0x10000 ≤ c.toNat) :
    String.utf8EncodeChar c = [UInt8.ofNat (c.toNat / 262144 + 0xf0), trailing (c.toNat / 4096),
      trailing (c.toNat / 64), trailing c.toNat] := by
  have hvalid : c.toNat < 0xd800 ∨ 0xdfff < c.toNat ∧ c.toNat < 0x110000 := c.valid
  have hlarge : ¬ c.val.toNat ≤ 0x7f := Nat.not_le.2 (Nat.le_trans (by decide) h)
  have hlarger : ¬ c.val.toNat ≤ 0x7ff := Nat.not_le.2 (Nat.le_trans (by decide) h)
  have hlargest : ¬ c.val.toNat ≤ 0xffff := Nat.not_le.2 h
  have hbits : c.val.toNat / 262144 % 8 = c.toNat / 262144 :=
    Nat.mod_eq_of_lt (by change c.toNat / 262144 < 8; omega)
  simp only [String.utf8EncodeChar, hlarge, hlarger, hlargest, if_false, hbits]
  rfl

/-- **The octets of a character are read as its number.** -/
theorem exists_lead_of_encodeChar (c : Char) :
    ∃ b l bs, String.utf8EncodeChar c = b :: bs ∧ lead? b = some l ∧
      Continues l.following l.low l.high bs ∧ number l.bits bs = c.toNat := by
  have hvalid : c.toNat < 0xd800 ∨ 0xdfff < c.toNat ∧ c.toNat < 0x110000 := c.valid
  have hoctet : ∀ n : Nat, n < 0x100 → (UInt8.ofNat n).toNat = n := fun n hn =>
    UInt8.toNat_ofNat'.trans (Nat.mod_eq_of_lt hn)
  rcases Nat.lt_or_ge c.toNat 0x80 with hone | hone
  · have hnumber := hoctet c.toNat (by omega)
    exact ⟨_, _, _, encodeChar_of_ascii hone, lead?_eq_some_iff.2 (.one (by omega)), rfl, hnumber⟩
  rcases Nat.lt_or_ge c.toNat 0x800 with htwo | htwo
  · have hfirst := lead?_eq_some_iff.2 (.two (by omega) (by omega) (hoctet (c.toNat / 64 + 0xc0) (by omega)))
    refine ⟨_, _, _, encodeChar_two hone htwo, hfirst, ⟨trailing_mem _, rfl⟩, ?_⟩
    simp only [number, leadOfTwo, List.foldl_cons, List.foldl_nil, toNat_trailing]
    omega
  rcases Nat.lt_or_ge c.toNat 0x10000 with hthree | hthree
  · have hfirst := lead?_eq_some_iff.2 (.three (by omega) (hoctet (c.toNat / 4096 + 0xe0) (by omega)))
    refine ⟨_, _, _, encodeChar_three htwo hthree, hfirst, ⟨?_, trailing_mem _, rfl⟩, ?_⟩
    · rw [leadOfThree, mem_range_leadOfMore (by decide) (by decide), toNat_trailing]
      simp only [UInt8.reduceToNat]
      omega
    · simp only [number, leadOfThree, leadOfMore, List.foldl_cons, List.foldl_nil, toNat_trailing]
      omega
  · have hfirst := lead?_eq_some_iff.2 (.four (by omega) (hoctet (c.toNat / 262144 + 0xf0) (by omega)))
    refine ⟨_, _, _, encodeChar_four hthree, hfirst, ⟨?_, trailing_mem _, trailing_mem _, rfl⟩, ?_⟩
    · rw [leadOfFour, mem_range_leadOfMore (by decide) (by decide), toNat_trailing]
      simp only [UInt8.reduceToNat]
      omega
    · simp only [number, leadOfFour, leadOfMore, List.foldl_cons, List.foldl_nil, toNat_trailing]
      omega

theorem exists_char {n : Nat} (h : n < 0xd800 ∨ 0xdfff < n ∧ n < 0x110000) : ∃ c : Char, c.toNat = n :=
  ⟨Char.ofNatAux n h, rfl⟩

/-- **What is read as a number are the octets of the character with that number.** The ranges of the octets are
    such that the number is that of a character, and one of as many octets. -/
theorem exists_encodeChar_of_lead {b : UInt8} {l : Lead} {bs : List UInt8} (hl : lead? b = some l)
    (hbs : Continues l.following l.low l.high bs) :
    ∃ c : Char, String.utf8EncodeChar c = b :: bs ∧ c.toNat = number l.bits bs := by
  cases lead?_eq_some_iff.1 hl with
  | one h =>
    obtain rfl : bs = [] := hbs
    obtain ⟨c, hc⟩ := exists_char (n := b.toNat) (by omega)
    refine ⟨c, ?_, hc⟩
    rw [encodeChar_of_ascii (by omega), hc, UInt8.ofNat_toNat]
  | @two bits hlarge h hb =>
    match bs, hbs with
    | [x], ⟨hx, _⟩ =>
      obtain ⟨c, hc⟩ := exists_char (n := 64 * bits + x.toNat % 64) (by omega)
      refine ⟨c, ?_, hc⟩
      rw [encodeChar_two (by omega) (by omega), show c.toNat / 64 + 0xc0 = b.toNat by omega,
        UInt8.ofNat_toNat, trailing_eq hx (by omega)]
  | @three bits h hb =>
    match bs, hbs with
    | [x, y], ⟨hx, hy, _⟩ =>
      obtain ⟨hrange, hzero, hsurrogate⟩ := (mem_range_leadOfMore (by decide) (by decide)).1 hx
      simp only [UInt8.reduceToNat] at hzero hsurrogate
      obtain ⟨c, hc⟩ := exists_char (n := 64 * (64 * bits + x.toNat % 64) + y.toNat % 64) (by omega)
      refine ⟨c, ?_, hc⟩
      rw [encodeChar_three (by omega) (by omega), show c.toNat / 4096 + 0xe0 = b.toNat by omega,
        UInt8.ofNat_toNat, trailing_eq hrange (by omega), trailing_eq hy (by omega)]
  | @four bits h hb =>
    match bs, hbs with
    | [x, y, z], ⟨hx, hy, hz, _⟩ =>
      obtain ⟨hrange, hzero, hlast⟩ := (mem_range_leadOfMore (by decide) (by decide)).1 hx
      simp only [UInt8.reduceToNat] at hzero hlast
      obtain ⟨c, hc⟩ := exists_char
        (n := 64 * (64 * (64 * bits + x.toNat % 64) + y.toNat % 64) + z.toNat % 64) (by omega)
      refine ⟨c, ?_, hc⟩
      rw [encodeChar_four (by omega), show c.toNat / 262144 + 0xf0 = b.toNat by omega, UInt8.ofNat_toNat,
        trailing_eq hrange (by omega), trailing_eq hy (by omega), trailing_eq hz (by omega)]

/-- Every first octet leaves a choice for the next one, which is no ASCII character. -/
theorem range_of_lead? {b : UInt8} {l : Lead} (hl : lead? b = some l) : 0x80 ≤ l.low ∧ l.low ≤ l.high := by
  have hall : ∀ m : Fin 0x100, ∀ lead ∈ lead? (UInt8.ofNat m),
      0x80 ≤ lead.low ∧ lead.low ≤ lead.high := by
    decide +kernel
  have hb := hall ⟨b.toNat, b.toNat_lt⟩ l
  rw [UInt8.ofNat_toNat] at hb
  exact hb hl

/-! ## Maximal ill-formed parts -/

/-- Octets that some character begins with. -/
def Begins (part : List UInt8) : Prop := ∃ c, part <+: String.utf8EncodeChar c

/-- A maximal ill-formed part in front of some octets. No character stands there; the part is all that begins
    one, or a single octet if that begins none. -/
structure Broken (part rest : List UInt8) : Prop where
  nonempty : part ≠ []
  illFormed : ∀ c, ¬ String.utf8EncodeChar c <+: part ++ rest
  unfinished : Begins part ∨ part.length = 1
  maximal : ∀ longer, longer <+: part ++ rest → Begins longer → longer.length ≤ part.length

/-- The text of some octets: their characters, and one U+FFFD for each maximal ill-formed part. -/
inductive Reads : List UInt8 → List Char → Prop
  | nil : Reads [] []
  | character (c : Char) {bs : List UInt8} {cs : List Char} (rest : Reads bs cs) :
      Reads (String.utf8EncodeChar c ++ bs) (c :: cs)
  | broken {part bs : List UInt8} {cs : List Char} (h : Broken part bs) (rest : Reads bs cs) :
      Reads (part ++ bs) (replacement :: cs)

/-- No two parts in front of the same octets are maximal. -/
theorem Broken.eq_of_append_eq {part rest other left : List UInt8} (h : Broken part rest)
    (hother : Broken other left) (heq : part ++ rest = other ++ left) : part = other ∧ rest = left := by
  have hlength : ∀ {p r q l : List UInt8}, Broken p r → Broken q l → p ++ r = q ++ l →
      p.length ≤ q.length := by
    intro p r q l hp hq hpq
    rcases hp.unfinished with hbegins | hone
    · exact hq.maximal p (hpq ▸ List.prefix_append p r) hbegins
    · have := List.length_pos_iff.2 hq.nonempty
      omega
  exact List.append_inj heq (Nat.le_antisymm (hlength h hother heq) (hlength hother h heq.symm))

/-! ## Reading is reading these -/

theorem exists_encodeChar_eq_cons (c : Char) : ∃ b bs, String.utf8EncodeChar c = b :: bs :=
  List.exists_cons_of_ne_nil String.utf8EncodeChar_ne_nil

theorem step_of_encodeChar {c : Char} {b : UInt8} {bs : List UInt8} (h : String.utf8EncodeChar c = b :: bs)
    (rest : List UInt8) : step b (bs ++ rest) = (some c.toNat, rest) := by
  obtain ⟨first, l, others, heq, hl, hothers, hnumber⟩ := exists_lead_of_encodeChar c
  obtain ⟨rfl, rfl⟩ := List.cons.inj (h.symm.trans heq)
  rw [step, hl, ← hnumber]
  exact follow_of_continues hothers l.bits rest

/-- A first octet fixes what all characters have in common that it begins. -/
theorem exists_continues_of_begins {b : UInt8} {bs : List UInt8} (h : Begins (b :: bs)) :
    ∃ l, lead? b = some l ∧ ∃ more, Continues l.following l.low l.high (bs ++ more) := by
  obtain ⟨c, more, hc⟩ := h
  obtain ⟨first, l, others, heq, hl, hothers, -⟩ := exists_lead_of_encodeChar c
  obtain ⟨rfl, rfl⟩ := List.cons.inj (hc.trans heq)
  exact ⟨l, hl, more, hothers⟩

theorem broken_of_lead?_eq_none {b : UInt8} (h : lead? b = none) (rest : List UInt8) : Broken [b] rest := by
  have hnone : ∀ bs, ¬ Begins (b :: bs) := by
    intro bs hbs
    obtain ⟨l, hl, -⟩ := exists_continues_of_begins hbs
    rw [h] at hl
    exact absurd hl nofun
  constructor
  case nonempty => exact List.cons_ne_nil b []
  case illFormed =>
    intro c hc
    obtain ⟨first, bs, hfirst⟩ := exists_encodeChar_eq_cons c
    rw [hfirst] at hc
    obtain rfl := (List.cons_prefix_cons.1 hc).1
    exact hnone bs ⟨c, hfirst ▸ List.prefix_refl _⟩
  case unfinished => exact .inr rfl
  case maximal =>
    intro longer hlonger hbegins
    match longer with
    | [] => exact Nat.zero_le _
    | x :: xs =>
      obtain rfl := (List.cons_prefix_cons.1 hlonger).1
      exact absurd hbegins (hnone xs)

/-- A character that breaks off is ill-formed, together with all octets of it that are there. -/
theorem broken_of_stuck {b : UInt8} {l : Lead} {mid rest : List UInt8} (hl : lead? b = some l)
    (hnone : (step b (mid ++ rest)).1 = none)
    (hmore : ∃ more, Continues l.following l.low l.high (mid ++ more))
    (hstuck : ∀ x left, rest = x :: left → ∀ more, ¬ Continues l.following l.low l.high (mid ++ x :: more)) :
    Broken (b :: mid) rest := by
  constructor
  case nonempty => exact List.cons_ne_nil b mid
  case illFormed =>
    rintro c ⟨left, hleft⟩
    obtain ⟨first, bs, hfirst⟩ := exists_encodeChar_eq_cons c
    rw [List.cons_append, hfirst, List.cons_append] at hleft
    obtain ⟨rfl, hbs⟩ := List.cons.inj hleft
    rw [← hbs, step_of_encodeChar hfirst] at hnone
    exact absurd hnone nofun
  case unfinished =>
    obtain ⟨more, hmore⟩ := hmore
    obtain ⟨c, hc, -⟩ := exists_encodeChar_of_lead hl hmore
    exact .inl ⟨c, more, hc.symm⟩
  case maximal =>
    intro longer hlonger hbegins
    refine Nat.le_of_not_lt fun hlt => ?_
    -- a longer beginning would complete the character with the very octet that does not fit
    obtain ⟨extra, rfl⟩ := List.prefix_of_prefix_length_le (List.prefix_append _ rest) hlonger (Nat.le_of_lt hlt)
    match extra with
    | [] => exact absurd hlt (by simp)
    | x :: xs =>
      obtain ⟨left, hleft⟩ := (List.prefix_append_right_inj _).1 hlonger
      rw [List.cons_append] at hbegins
      obtain ⟨lead, hlead, more, hcontinues⟩ := exists_continues_of_begins hbegins
      obtain rfl := Option.some.inj (hl.symm.trans hlead)
      rw [List.append_assoc, List.cons_append] at hcontinues
      exact hstuck x _ hleft.symm _ hcontinues

/-- **What one step reads**: a character, or a maximal ill-formed part. -/
theorem step_cases (b : UInt8) (rest : List UInt8) :
    (∃ c, b :: rest = String.utf8EncodeChar c ++ (step b rest).2 ∧ (step b rest).1 = some c.toNat) ∨
    ∃ part, b :: rest = part ++ (step b rest).2 ∧ (step b rest).1 = none ∧ Broken part (step b rest).2 := by
  cases hl : lead? b with
  | none =>
    rw [step, hl]
    exact .inr ⟨[b], rfl, rfl, broken_of_lead?_eq_none hl rest⟩
  | some l =>
    have hstep : step b rest = follow l.following l.low l.high l.bits rest := by rw [step, hl]
    obtain ⟨mid, hsplit, hcases⟩ := follow_cases l.following (range_of_lead? hl).2 l.bits rest
    rw [← hstep] at hsplit hcases
    rcases hcases with ⟨hall, hnumber⟩ | ⟨hnone, hmore, hstuck⟩
    · obtain ⟨c, hc, hcn⟩ := exists_encodeChar_of_lead hl hall
      refine .inl ⟨c, ?_, hcn ▸ hnumber⟩
      rw [hc, List.cons_append, ← hsplit]
    · refine .inr ⟨b :: mid, congrArg (b :: ·) hsplit, hnone, broken_of_stuck hl ?_ hmore hstuck⟩
      rw [← hsplit]
      exact hnone

theorem decode_encodeChar_append (c : Char) (rest : List UInt8) :
    decode (String.utf8EncodeChar c ++ rest) = c :: decode rest := by
  obtain ⟨b, bs, h⟩ := exists_encodeChar_eq_cons c
  rw [h, List.cons_append, decode_cons, step_of_encodeChar h, Option.map_some, Option.getD_some, Char.ofNat_toNat]

theorem decode_broken_append {part rest : List UInt8} (h : Broken part rest) :
    decode (part ++ rest) = replacement :: decode rest := by
  obtain ⟨b, mid, rfl⟩ := List.exists_cons_of_ne_nil h.nonempty
  rw [List.cons_append, decode_cons]
  rcases step_cases b (mid ++ rest) with ⟨c, hsplit, -⟩ | ⟨part, hsplit, hnone, hbroken⟩
  · exact absurd ⟨_, hsplit.symm⟩ (h.illFormed c)
  · obtain ⟨-, hleft⟩ := h.eq_of_append_eq hbroken hsplit
    rw [hnone, ← hleft]
    rfl

theorem Reads.decode_eq {bs : List UInt8} {cs : List Char} (h : Reads bs cs) : decode bs = cs := by
  induction h with
  | nil => exact decode_nil
  | character c _ ih => rw [decode_encodeChar_append, ih]
  | broken hbroken _ ih => rw [decode_broken_append hbroken, ih]

theorem reads_decode (bs : List UInt8) : Reads bs (decode bs) := by
  fun_induction decode bs with
  | case1 => exact .nil
  | case2 b rest ih =>
    rcases step_cases b rest with ⟨c, hsplit, hc⟩ | ⟨part, hsplit, hnone, hbroken⟩
    · rw [hc, hsplit, Option.map_some, Option.getD_some, Char.ofNat_toNat]
      exact .character c ih
    · rw [hnone, hsplit]
      exact .broken hbroken ih

/-- **Octets are read as their characters, with one U+FFFD for each maximal ill-formed part.** -/
theorem decode_eq_iff {bs : List UInt8} {cs : List Char} : decode bs = cs ↔ Reads bs cs :=
  ⟨fun h => h ▸ reads_decode bs, Reads.decode_eq⟩

theorem encode_cons (c : Char) (cs : List Char) : encode (c :: cs) = String.utf8EncodeChar c ++ encode cs :=
  List.flatMap_cons

/-- A text that is written out is read back, whatever stands behind it. -/
theorem decode_encode_append (cs : List Char) (rest : List UInt8) :
    decode (encode cs ++ rest) = cs ++ decode rest := by
  induction cs with
  | nil => rfl
  | cons c cs ih =>
    rw [encode_cons, List.append_assoc, decode_encodeChar_append, ih, List.cons_append]

end BluetoothHost.Text.Utf8
