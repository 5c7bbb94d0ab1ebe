/-!
# `Text.Utf8` — texts as octets, and octets that may not be UTF-8

A text is read from arbitrary octets one character at a time. Where no character can be read, the
longest run of octets that still begins one is replaced by a single U+FFFD, and reading goes on
behind it.

## Contents
- `encode`: the octets of a text, with `encode_of_ascii`; a text whose octets are all ASCII has no
  other characters (`ascii_of_encode`).
- `Lead` and `lead?`: what the first octet of a character fixes about the rest of it.
- `follow`: reads the octets behind the first one; `length_follow_le` bounds what it leaves.
- `decode`: the whole text, by recursion on the number of octets left.
- `decode?`: the text, if nothing has to be replaced.
- `padded`: the text of a field that zero octets fill up.
-/

namespace BluetoothHost.Text.Utf8

/-! ## Writing -/

/-- The octets of a text. -/
def encode (cs : List Char) : List UInt8 := cs.flatMap String.utf8EncodeChar

/-- An ASCII character is a single octet. -/
theorem encodeChar_of_ascii {c : Char} (h : c.toNat < 0x80) :
    String.utf8EncodeChar c = [UInt8.ofNat c.toNat] :=
  if_pos (Nat.le_of_lt_succ h)

/-- Any other character has an octet that is none of an ASCII character. -/
theorem exists_mem_encodeChar {c : Char} (h : 0x80 ≤ c.toNat) :
    ∃ b ∈ String.utf8EncodeChar c, 0x80 ≤ b.toNat := by
  have large : ¬ c.val.toNat ≤ 127 := Nat.not_le.2 h
  unfold String.utf8EncodeChar
  simp only [large, if_false]
  -- in each of the longer forms the first octet will do
  split
  · exact ⟨_, List.mem_cons_self, by rw [UInt8.toNat_ofNat']; omega⟩
  · split
    · exact ⟨_, List.mem_cons_self, by rw [UInt8.toNat_ofNat']; omega⟩
    · exact ⟨_, List.mem_cons_self, by rw [UInt8.toNat_ofNat']; omega⟩

/-- A text of ASCII characters has one octet for each. -/
theorem encode_of_ascii {cs : List Char} (h : ∀ c ∈ cs, c.toNat < 0x80) :
    encode cs = cs.map fun c => UInt8.ofNat c.toNat := by
  induction cs with
  | nil => rfl
  | cons c rest ih =>
    have hrest := ih fun d hd => h d (List.mem_cons_of_mem c hd)
    rw [List.map_cons, ← hrest, encode, List.flatMap_cons,
      encodeChar_of_ascii (h c List.mem_cons_self)]
    rfl

/-- A text whose octets are all ASCII has no other characters. -/
theorem ascii_of_encode {cs : List Char} (h : ∀ b ∈ encode cs, b.toNat < 0x80) :
    ∀ c ∈ cs, c.toNat < 0x80 := by
  intro c hc
  refine Nat.lt_of_not_le fun hlarge => ?_
  obtain ⟨b, hb, hoctet⟩ := exists_mem_encodeChar hlarge
  have hsmall := h b (List.mem_flatMap.2 ⟨c, hc, hb⟩)
  omega

/-! ## Reading -/

/-- What the first octet of a character fixes: how many octets follow, the range of the first of
    them (which excludes overlong forms, surrogates and numbers above U+10FFFF), and the bits the
    octet itself contributes. -/
structure Lead where
  following : Nat
  low : UInt8
  high : UInt8
  bits : Nat
  deriving DecidableEq

/-- The character an octet begins, if it begins one. -/
def lead? (b : UInt8) : Option Lead :=
  if b < 0x80 then some ⟨0, 0x80, 0xbf, b.toNat⟩
  else if b < 0xc2 then none
  else if b < 0xe0 then some ⟨1, 0x80, 0xbf, b.toNat - 0xc0⟩
  else if b = 0xe0 then some ⟨2, 0xa0, 0xbf, 0⟩
  else if b = 0xed then some ⟨2, 0x80, 0x9f, 0xd⟩
  else if b < 0xf0 then some ⟨2, 0x80, 0xbf, b.toNat - 0xe0⟩
  else if b = 0xf0 then some ⟨3, 0x90, 0xbf, 0⟩
  else if b < 0xf4 then some ⟨3, 0x80, 0xbf, b.toNat - 0xf0⟩
  else if b = 0xf4 then some ⟨3, 0x80, 0x8f, 4⟩
  else none

/-- Reads `count` further octets of a character, the next one within `low`–`high` and the later
    ones within `0x80`–`0xbf`. The answer holds the character's number, or nothing if it breaks
    off, and the octets left. -/
def follow : (count : Nat) → (low high : UInt8) → (bits : Nat) → List UInt8 →
    Option Nat × List UInt8
  | 0, _, _, bits, rest => (some bits, rest)
  | _ + 1, _, _, _, [] => (none, [])
  | count + 1, low, high, bits, b :: rest =>
    if low ≤ b ∧ b ≤ high then follow count 0x80 0xbf (64 * bits + b.toNat % 64) rest
    else (none, b :: rest)

/-- Nothing is left but octets that were there. -/
theorem length_follow_le (count : Nat) (low high : UInt8) (bits : Nat) (bs : List UInt8) :
    (follow count low high bits bs).2.length ≤ bs.length := by
  fun_induction follow count low high bits bs with
  | case1 => simp
  | case2 => simp
  | case3 _ _ _ _ _ _ _ ih => simp only [List.length_cons]; omega
  | case4 => simp

/-- Reads the character that an octet begins: its number, or nothing if a U+FFFD has to take the
    place of the octets read, and the octets left. -/
def step (b : UInt8) (rest : List UInt8) : Option Nat × List UInt8 :=
  match lead? b with
  | some l => follow l.following l.low l.high l.bits rest
  | none => (none, rest)

theorem length_step_le (b : UInt8) (rest : List UInt8) :
    (step b rest).2.length ≤ rest.length := by
  unfold step
  split
  · exact length_follow_le ..
  · exact Nat.le_refl _

/-- The character that takes the place of octets which form none. -/
def replacement : Char := '\ufffd'

/-- The text of a sequence of octets, each maximal ill-formed part replaced by one U+FFFD. -/
def decode : List UInt8 → List Char
  | [] => []
  | b :: rest => ((step b rest).1.map Char.ofNat).getD replacement :: decode (step b rest).2
termination_by bs => bs.length
decreasing_by
  have := length_step_le b rest
  simp only [List.length_cons]
  omega

@[simp] theorem decode_nil : decode [] = [] := by rw [decode]

theorem decode_cons (b : UInt8) (rest : List UInt8) :
    decode (b :: rest) =
      ((step b rest).1.map Char.ofNat).getD replacement :: decode (step b rest).2 := by
  rw [decode]

/-- The text of a sequence of octets, if it is well-formed throughout. -/
def decode? : List UInt8 → Option (List Char)
  | [] => some []
  | b :: rest =>
    match (step b rest).1 with
    | some n => (decode? (step b rest).2).map (Char.ofNat n :: ·)
    | none => none
termination_by bs => bs.length
decreasing_by
  have := length_step_le b rest
  simp only [List.length_cons]
  omega

/-- The text of a field that zero octets fill up: it ends where the first of them stands. -/
def padded (octets : List UInt8) : String :=
  String.ofList (decode (octets.takeWhile (· != 0)))

end BluetoothHost.Text.Utf8
