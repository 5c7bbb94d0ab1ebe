import BluetoothHost.DeviceClass

/-!
# `Proofs.ClassWords` — what is kept of a class word

The masks that cut a class word into its fields each cover a stretch of places (`Covers`), and these stretches
follow one upon the other: 2–7, 8–12 and 13–23. So the fields share no bit, put together they are the word on
all of 2–23 (`or_ofWord`), and words have the same fields if they agree there (`ofWord_eq_iff`).

The class that is made from the fields keeps two of them as they are. The third is turned into a major class,
and codes without one become `uncategorized` alike (`MajorClass.ofCode_eq_ofCode_iff`): this is all that is
lost (`RawClass.class_word_is_kept`).

## Contents
- `MajorClass.ofCode_eq_iff`, `MajorClass.ofCode_eq_ofCode_iff`: the major class of a code.
- `Within`, `AgreeOn` and `Covers`: stretches of places, with `and_eq_and_iff` for the masks that cover them.
- `RawClass.or_ofWord`, `RawClass.ofWord_eq_iff`, `RawClass.deviceClass_ofWord_eq_iff`.
- `RawClass.class_word_is_kept`.
-/

namespace BluetoothHost

/-! ## Major classes -/

namespace MajorClass

theorem mem_values (m : MajorClass) : m ∈ (Coded.values : List MajorClass) := by cases m <;> decide

/-- **The major class of a code** is the one that has it, or `uncategorized` if none does. -/
theorem ofCode_eq_iff {n : Int} {m : MajorClass} :
    ofCode n = m ↔ Coded.code m = n ∨ m = .uncategorized ∧ ∀ named : MajorClass, Coded.code named ≠ n := by
  constructor
  · rintro rfl
    cases hfound : (Coded.ofCode? n : Option MajorClass) with
    | none =>
      refine .inr ⟨by rw [ofCode, hfound, Option.getD_none], fun named => ?_⟩
      simpa using List.find?_eq_none.1 hfound named (mem_values named)
    | some found =>
      rw [ofCode, hfound, Option.getD_some]
      exact .inl (Coded.code_of_ofCode? hfound)
  · rintro (rfl | ⟨rfl, hnone⟩)
    · exact ofCode_code m
    · have hmissing : (Coded.ofCode? n : Option MajorClass) = none := by
        rw [Coded.ofCode?, List.find?_eq_none]
        exact fun named _ => by simpa using hnone named
      rw [ofCode, hmissing, Option.getD_none]

/-- The codes up to nine are those of the major classes other than `uncategorized`. -/
theorem ofCode_eq_uncategorized_iff {n : Nat} : ofCode n = .uncategorized ↔ 9 < n := by
  rw [ofCode_eq_iff]
  constructor
  · rintro (hcode | ⟨-, hnone⟩)
    · -- its own code is above nine as well
      have huncategorized : (Coded.code MajorClass.uncategorized : Int) = 0x1f := rfl
      omega
    · refine Nat.lt_of_not_le fun hle => ?_
      have hnamed : ∀ k : Fin 10,
          ∃ named ∈ (Coded.values : List MajorClass), Coded.code named = (k : Int) := by
        decide
      obtain ⟨named, -, hcode⟩ := hnamed ⟨n, by omega⟩
      exact hnone named hcode
  · intro hlarge
    have hbound : ∀ named : MajorClass, Coded.code named ≤ 9 ∨ named = .uncategorized := by
      intro named
      cases named <;> decide
    by_cases hcode : Coded.code MajorClass.uncategorized = (n : Int)
    · exact .inl hcode
    · refine .inr ⟨rfl, fun named hnamed => ?_⟩
      rcases hbound named with hsmall | rfl
      · omega
      · exact hcode hnamed

/-- Codes have one major class if they are the same, or if neither is up to nine. -/
theorem ofCode_eq_ofCode_iff {a b : Nat} : ofCode a = ofCode b ↔ a = b ∨ 9 < a ∧ 9 < b := by
  constructor
  · intro h
    rcases ofCode_eq_iff.1 h with hcode | ⟨hnone, -⟩
    · rcases ofCode_eq_iff.1 (rfl : ofCode b = ofCode b) with hother | ⟨hnone, -⟩
      · exact .inl (Int.ofNat_inj.1 (hcode.symm.trans hother))
      · exact .inr ⟨ofCode_eq_uncategorized_iff.1 (h.trans hnone), ofCode_eq_uncategorized_iff.1 hnone⟩
    · exact .inr ⟨ofCode_eq_uncategorized_iff.1 (h.trans hnone), ofCode_eq_uncategorized_iff.1 hnone⟩
  · rintro (rfl | ⟨ha, hb⟩)
    · rfl
    · rw [ofCode_eq_uncategorized_iff.2 ha, ofCode_eq_uncategorized_iff.2 hb]

end MajorClass

/-! ## Stretches of places -/

/-- Bits are set within a stretch of places only. -/
def Within (first last : Nat) (bits : BitVec 32) : Prop :=
  ∀ i, bits.getLsbD i = true → first ≤ i ∧ i ≤ last

/-- Words have the same bits on a stretch of places. -/
def AgreeOn (first last : Nat) (a b : BitVec 32) : Prop :=
  ∀ i, first ≤ i → i ≤ last → a.getLsbD i = b.getLsbD i

/-- A mask covers a stretch of places: its bits are those of the stretch. -/
def Covers (mask : BitVec 32) (first last : Nat) : Prop :=
  ∀ i, mask.getLsbD i = decide (first ≤ i ∧ i ≤ last)

/-- A mask of a stretch within a word is known by the bits of the word. -/
theorem covers_of_forall_lt {mask : BitVec 32} {first last : Nat} (hlast : last < 32)
    (h : ∀ i : Fin 32, mask.getLsbD i = decide (first ≤ i.val ∧ i.val ≤ last)) : Covers mask first last := by
  intro i
  by_cases hi : i < 32
  · exact h ⟨i, hi⟩
  · rw [BitVec.getLsbD_of_ge mask i (Nat.le_of_not_lt hi), eq_comm, decide_eq_false_iff_not]
    omega

section Masks

variable {mask : BitVec 32} {first last : Nat}

theorem within_and (h : Covers mask first last) (word : BitVec 32) : Within first last (word &&& mask) := by
  intro i hi
  rw [BitVec.getLsbD_and, h i, Bool.and_eq_true, decide_eq_true_eq] at hi
  exact hi.2

theorem agreeOn_and (h : Covers mask first last) (word : BitVec 32) :
    AgreeOn first last (word &&& mask) word := by
  intro i hfirst hlast
  rw [BitVec.getLsbD_and, h i, decide_eq_true ⟨hfirst, hlast⟩, Bool.and_true]

/-- **Words are the same under a mask if they agree on the stretch that it covers.** -/
theorem and_eq_and_iff (h : Covers mask first last) {a b : BitVec 32} :
    a &&& mask = b &&& mask ↔ AgreeOn first last a b := by
  constructor
  · intro heq i hfirst hlast
    rw [← agreeOn_and h a i hfirst hlast, heq, agreeOn_and h b i hfirst hlast]
  · intro hagree
    apply BitVec.eq_of_getLsbD_eq
    intro i _
    rw [BitVec.getLsbD_and, BitVec.getLsbD_and, h i]
    by_cases hi : first ≤ i ∧ i ≤ last
    · rw [hagree i hi.1 hi.2]
    · rw [decide_eq_false hi, Bool.and_false, Bool.and_false]

end Masks

/-- Stretches that follow one upon the other are one stretch. -/
theorem agreeOn_append_iff {first mid last : Nat} (hfirst : first ≤ mid + 1) (hlast : mid ≤ last)
    {a b : BitVec 32} : AgreeOn first last a b ↔ AgreeOn first mid a b ∧ AgreeOn (mid + 1) last a b := by
  constructor
  · intro h
    exact ⟨fun i hi hmid => h i hi (Nat.le_trans hmid hlast),
      fun i hmid hi => h i (Nat.le_trans hfirst hmid) hi⟩
  · rintro ⟨hlow, hhigh⟩ i hi hilast
    rcases Nat.lt_or_ge mid i with hmid | hmid
    · exact hhigh i hmid hilast
    · exact hlow i hi hmid

/-! ## The fields of a class word -/

namespace RawClass

theorem covers_minor : Covers 0xfc 2 7 := covers_of_forall_lt (by decide) (by decide)

theorem covers_major : Covers 0x1f00 8 12 := covers_of_forall_lt (by decide) (by decide)

theorem covers_service : Covers 0xffe000 13 23 := covers_of_forall_lt (by decide) (by decide)

/-- The major class can be put back in its place. -/
theorem major_shiftLeft (word : BitVec 32) : (ofWord word).major <<< 8 = word &&& 0x1f00 := by
  apply BitVec.eq_of_getLsbD_eq
  intro i hi
  rw [ofWord, BitVec.getLsbD_shiftLeft, BitVec.getLsbD_ushiftRight, BitVec.getLsbD_and, BitVec.getLsbD_and,
    covers_major, covers_major]
  -- a shift to the left leaves nothing below the eighth place, where the mask has nothing either
  by_cases hplace : 8 ≤ i
  · rw [show 8 + (i - 8) = i by omega, decide_eq_true hi, decide_eq_false (Nat.not_lt.2 hplace)]
    rfl
  · simp [hplace, show i < 8 by omega]

theorem major_le (word : BitVec 32) : (ofWord word).major.toNat ≤ 31 := by
  have hmask : word.toNat &&& 0x1f00 ≤ 0x1f00 := Nat.and_le_right
  have hmajor : (ofWord word).major.toNat = (word.toNat &&& 0x1f00) / 256 := by
    rw [ofWord, BitVec.toNat_ushiftRight, BitVec.toNat_and, Nat.shiftRight_eq_div_pow]
    rfl
  omega

theorem major_eq_iff {a b : BitVec 32} : (ofWord a).major = (ofWord b).major ↔ AgreeOn 8 12 a b := by
  rw [← and_eq_and_iff covers_major]
  constructor
  · intro h
    rw [← major_shiftLeft, ← major_shiftLeft, h]
  · intro h
    rw [ofWord, ofWord, h]

theorem minor_eq_iff {a b : BitVec 32} : (ofWord a).minor = (ofWord b).minor ↔ AgreeOn 2 7 a b :=
  and_eq_and_iff covers_minor

theorem service_eq_iff {a b : BitVec 32} : (ofWord a).service = (ofWord b).service ↔ AgreeOn 13 23 a b :=
  and_eq_and_iff covers_service

/-- The fields of a word, each in its place, are the word on the stretch that they cover together. -/
theorem or_ofWord (word : BitVec 32) :
    (ofWord word).major <<< 8 ||| (ofWord word).minor ||| (ofWord word).service = word &&& 0x00fffffc := by
  calc (ofWord word).major <<< 8 ||| (ofWord word).minor ||| (ofWord word).service
      = word &&& 0x1f00 ||| word &&& 0xfc ||| word &&& 0xffe000 := by rw [major_shiftLeft]; rfl
    _ = word &&& (0x1f00 ||| 0xfc ||| 0xffe000) := by rw [BitVec.and_or_distrib_left, BitVec.and_or_distrib_left]
    _ = word &&& 0x00fffffc := rfl

/-- **Words have the same fields if they agree on the places 2–23.** -/
theorem ofWord_eq_iff {a b : BitVec 32} : ofWord a = ofWord b ↔ AgreeOn 2 23 a b := by
  have hfields : ofWord a = ofWord b ↔ (ofWord a).major = (ofWord b).major ∧
      (ofWord a).minor = (ofWord b).minor ∧ (ofWord a).service = (ofWord b).service :=
    Iff.of_eq (mk.injEq ..)
  have hlow : AgreeOn 2 23 a b ↔ AgreeOn 2 7 a b ∧ AgreeOn 8 23 a b :=
    agreeOn_append_iff (by decide) (by decide)
  have hhigh : AgreeOn 8 23 a b ↔ AgreeOn 8 12 a b ∧ AgreeOn 13 23 a b :=
    agreeOn_append_iff (by decide) (by decide)
  rw [hfields, major_eq_iff, minor_eq_iff, service_eq_iff, hlow, hhigh]
  exact and_left_comm

/-- **Words give the same class if they agree on the places that it keeps**, and the codes of their major
    classes are the same or both stand for none. -/
theorem deviceClass_ofWord_eq_iff {a b : BitVec 32} :
    (ofWord a).deviceClass = (ofWord b).deviceClass ↔ AgreeOn 2 7 a b ∧ AgreeOn 13 23 a b ∧
      ((ofWord a).major = (ofWord b).major ∨
        9 < (ofWord a).major.toNat ∧ 9 < (ofWord b).major.toNat) := by
  have hfields : (ofWord a).deviceClass = (ofWord b).deviceClass ↔
      MajorClass.ofCode (ofWord a).major.toNat = MajorClass.ofCode (ofWord b).major.toNat ∧
        (ofWord a).minor = (ofWord b).minor ∧ (ofWord a).service = (ofWord b).service :=
    Iff.of_eq (DeviceClass.mk.injEq ..)
  rw [hfields, MajorClass.ofCode_eq_ofCode_iff, BitVec.toNat_inj, minor_eq_iff, service_eq_iff]
  exact ⟨fun ⟨hmajor, hminor, hservices⟩ => ⟨hminor, hservices, hmajor⟩,
    fun ⟨hminor, hservices, hmajor⟩ => ⟨hmajor, hminor, hservices⟩⟩

/-- **A class word is kept on the places 2–23.** Its fields stay within their places, and put together they are
    the word there, so that words have the same fields if they agree there. A class has the minor and the service
    classes of the fields it is made from, and the major class whose code is the major field, `uncategorized`
    if there is none. From the class of a word the places 2–7 and 13–23 can be read back, and words have the
    same class if they agree on these and have the same major field, or both one above nine. -/
theorem class_word_is_kept (word : BitVec 32) :
    ((ofWord word).major.toNat ≤ 31 ∧ Within 2 7 (ofWord word).minor ∧ Within 13 23 (ofWord word).service) ∧
    (ofWord word).major <<< 8 ||| (ofWord word).minor ||| (ofWord word).service = word &&& 0x00fffffc ∧
    (∀ other, ofWord word = ofWord other ↔ AgreeOn 2 23 word other) ∧
    (∀ c : RawClass, c.deviceClass.minor = c.minor ∧ c.deviceClass.services = c.service ∧
      ∀ m, c.deviceClass.major = m ↔ Coded.code m = c.major.toNat ∨
        m = .uncategorized ∧ ∀ named : MajorClass, Coded.code named ≠ c.major.toNat) ∧
    (AgreeOn 2 7 (ofWord word).deviceClass.minor word ∧
      AgreeOn 13 23 (ofWord word).deviceClass.services word) ∧
    ∀ other, (ofWord word).deviceClass = (ofWord other).deviceClass ↔
      AgreeOn 2 7 word other ∧ AgreeOn 13 23 word other ∧
        ((ofWord word).major = (ofWord other).major ∨
          9 < (ofWord word).major.toNat ∧ 9 < (ofWord other).major.toNat) := by
  refine ⟨⟨major_le word, ?_, ?_⟩, or_ofWord word, fun other => ofWord_eq_iff, ?_, ⟨?_, ?_⟩,
    fun other => deviceClass_ofWord_eq_iff⟩
  · exact within_and covers_minor word
  · exact within_and covers_service word
  · intro c
    exact ⟨rfl, rfl, fun m => MajorClass.ofCode_eq_iff⟩
  · exact agreeOn_and covers_minor word
  · exact agreeOn_and covers_service word

-- two words whose codes stand for no major class, and which differ outside of the places 2–23 as well
example : ofWord 0x50020c = ⟨0x02, 0x0c, 0x500000⟩ ∧
    (ofWord 0xff000a0c).deviceClass = (ofWord 0x1f0f).deviceClass := by decide

end RawClass

end BluetoothHost
