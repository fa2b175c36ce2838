import LivePage.Proofs.Text.LossyDecoding

/-!
# Encoded text is read back

The octets of a character take the machine from between two characters to between two
characters, and all they mark is that character.
-/

namespace LivePage
namespace Utf8

/-- The octet whose lower six bits are given, as it stands inside a character. -/
def continuation (k : Nat) : UInt8 :=
  UInt8.ofNat (0x80 + k % 64)

theorem toNat_continuation (k : Nat) : (continuation k).toNat = 0x80 + k % 64 :=
  UInt8.toNat_ofNat_of_lt (by simp only [UInt8.size]; omega)

/-- An octet begins a character: so many octets are missing, these bits are read, and the
continuation by `k` may come next. -/
def Begins (b : UInt8) (missing bits k : Nat) : Prop :=
  ∃ least greatest, start b = ([], .inside missing least greatest bits) ∧
    least.toNat ≤ (continuation k).toNat ∧ (continuation k).toNat ≤ greatest.toNat

/-! ## First octets -/

theorem begins_two {n : Nat} (hleast : 0x80 ≤ n) (hlt : n < 0x800) :
    Begins (UInt8.ofNat (0xC0 + n / 64)) 1 (n / 64) n := by
  have hb : (UInt8.ofNat (0xC0 + n / 64)).toNat = 0xC0 + n / 64 :=
    UInt8.toNat_ofNat_of_lt (by simp only [UInt8.size]; omega)
  refine ⟨0x80, 0xBF, ?_, ?_⟩
  · simp only [start, UInt8.lt_iff_toNat_lt, UInt8.reduceToNat, hb]
    rw [if_neg (by omega), if_neg (by omega), if_pos (by omega), Nat.add_sub_cancel_left]
  · simp only [toNat_continuation, UInt8.reduceToNat]
    omega

/-- What is shorter in two octets, and what is no character, has no second octet here. -/
theorem begins_three {n : Nat} (hleast : 0x800 ≤ n) (hlt : n < 0x10000)
    (hvalid : n < 0xD800 ∨ 0xDFFF < n) :
    Begins (UInt8.ofNat (0xE0 + n / 4096)) 2 (n / 4096) (n / 64) := by
  have hb : (UInt8.ofNat (0xE0 + n / 4096)).toNat = 0xE0 + n / 4096 :=
    UInt8.toNat_ofNat_of_lt (by simp only [UInt8.size]; omega)
  unfold Begins
  simp only [start, UInt8.lt_iff_toNat_lt, ← UInt8.toNat_inj, UInt8.reduceToNat, hb,
    toNat_continuation]
  rw [if_neg (by omega), if_neg (by omega), if_neg (by omega)]
  by_cases hshort : n / 4096 = 0
  · refine ⟨0xA0, 0xBF, by simp [hshort], ?_⟩
    simp only [UInt8.reduceToNat]
    omega
  · by_cases hsurrogate : n / 4096 = 13
    · refine ⟨0x80, 0x9F, by simp [hsurrogate], ?_⟩
      simp only [UInt8.reduceToNat]
      omega
    · refine ⟨0x80, 0xBF, ?_, ?_⟩
      · rw [if_neg (by omega), if_neg (by omega), if_pos (by omega),
          Nat.add_sub_cancel_left]
      · simp only [UInt8.reduceToNat]
        omega

theorem begins_four {n : Nat} (hleast : 0x10000 ≤ n) (hlt : n < 0x110000) :
    Begins (UInt8.ofNat (0xF0 + n / 262144)) 3 (n / 262144) (n / 4096) := by
  have hb : (UInt8.ofNat (0xF0 + n / 262144)).toNat = 0xF0 + n / 262144 :=
    UInt8.toNat_ofNat_of_lt (by simp only [UInt8.size]; omega)
  unfold Begins
  simp only [start, UInt8.lt_iff_toNat_lt, ← UInt8.toNat_inj, UInt8.reduceToNat, hb,
    toNat_continuation]
  rw [if_neg (by omega), if_neg (by omega), if_neg (by omega), if_neg (by omega),
    if_neg (by omega), if_neg (by omega)]
  by_cases hshort : n / 262144 = 0
  · refine ⟨0x90, 0xBF, by simp [hshort], ?_⟩
    simp only [UInt8.reduceToNat]
    omega
  · by_cases hlast : n / 262144 = 4
    · refine ⟨0x80, 0x8F, by simp [hlast], ?_⟩
      simp only [UInt8.reduceToNat]
      omega
    · refine ⟨0x80, 0xBF, ?_, ?_⟩
      · rw [if_neg (by omega), if_pos (by omega), Nat.add_sub_cancel_left]
      · simp only [UInt8.reduceToNat]
        omega

/-! ## Continuations -/

/-- An octet that may come next adds its six bits. -/
theorem marks_continuation {least greatest : UInt8} {k : Nat}
    (hleast : least.toNat ≤ (continuation k).toNat)
    (hgreatest : (continuation k).toNat ≤ greatest.toNat) (missing bits : Nat)
    (bs : List UInt8) :
    (State.inside missing least greatest bits).marks (continuation k :: bs) =
      if missing ≤ 1 then some (Char.ofNat (bits * 64 + k % 64)) :: State.between.marks bs
      else (State.inside (missing - 1) 0x80 0xBF (bits * 64 + k % 64)).marks bs := by
  have hrange : least ≤ continuation k ∧ continuation k ≤ greatest :=
    ⟨UInt8.le_iff_toNat_le.mpr hleast, UInt8.le_iff_toNat_le.mpr hgreatest⟩
  rw [State.marks, State.read, if_pos hrange, toNat_continuation, Nat.add_sub_cancel_left]
  split <;> rfl

/-- Between the second octet and the last, any continuation may come. -/
theorem marks_any_continuation (missing bits k : Nat) (bs : List UInt8) :
    (State.inside missing 0x80 0xBF bits).marks (continuation k :: bs) =
      if missing ≤ 1 then some (Char.ofNat (bits * 64 + k % 64)) :: State.between.marks bs
      else (State.inside (missing - 1) 0x80 0xBF (bits * 64 + k % 64)).marks bs := by
  apply marks_continuation
  · simp only [toNat_continuation, UInt8.reduceToNat]
    omega
  · simp only [toNat_continuation, UInt8.reduceToNat]
    omega

theorem Begins.marks {b : UInt8} {missing bits k : Nat} (h : Begins b missing bits k)
    (bs : List UInt8) :
    State.between.marks (b :: continuation k :: bs) =
      if missing ≤ 1 then some (Char.ofNat (bits * 64 + k % 64)) :: State.between.marks bs
      else (State.inside (missing - 1) 0x80 0xBF (bits * 64 + k % 64)).marks bs := by
  obtain ⟨least, greatest, hstart, hleast, hgreatest⟩ := h
  rw [State.marks, State.read, hstart]
  exact marks_continuation hleast hgreatest missing bits bs

/-! ## Characters and texts -/

theorem marks_encodeChar_append (c : Char) (bs : List UInt8) :
    State.between.marks (encodeChar c ++ bs) = some c :: State.between.marks bs := by
  have hvalid : c.toNat < 0xD800 ∨ 0xDFFF < c.toNat ∧ c.toNat < 0x110000 := c.valid
  have hc : Char.ofNat c.toNat = c := c.ofNat_toNat
  generalize hn : c.toNat = n at hvalid hc
  unfold encodeChar
  rw [hn]
  dsimp only
  split_ifs with hone htwo hthree
  · have hb : (UInt8.ofNat n).toNat = n :=
      UInt8.toNat_ofNat_of_lt (by simp only [UInt8.size]; omega)
    rw [List.singleton_append, State.marks, State.read, start_of_ascii (by omega), hb, hc]
    rfl
  · have hbits : n / 64 * 64 + n % 64 = n := by omega
    have h := (begins_two (by omega) htwo).marks bs
    rw [if_pos (Nat.le_refl 1), hbits, hc] at h
    exact h
  · have hbits : (n / 4096 * 64 + n / 64 % 64) * 64 + n % 64 = n := by omega
    have h := (begins_three (by omega) hthree (by omega)).marks (continuation n :: bs)
    rw [if_neg (by decide), marks_any_continuation, if_pos (by decide), hbits, hc] at h
    exact h
  · have hbits : ((n / 262144 * 64 + n / 4096 % 64) * 64 + n / 64 % 64) * 64 + n % 64 = n := by
      omega
    have hlt : n < 0x110000 := by omega
    have h := (begins_four (Nat.le_of_not_lt hthree) hlt).marks
      (continuation (n / 64) :: continuation n :: bs)
    rw [if_neg (by decide), marks_any_continuation, if_neg (by decide),
      marks_any_continuation, if_pos (by decide), hbits, hc] at h
    exact h

theorem marks_encode (cs : List Char) : State.between.marks (encode cs) = cs.map some := by
  induction cs with
  | nil => rfl
  | cons c cs ih =>
      rw [encode, List.flatMap_cons, marks_encodeChar_append, List.map_cons]
      exact congrArg _ ih

theorem decodeLossy_encode (cs : List Char) : decodeLossy (encode cs) = cs := by
  simp [decodeLossy, marks_encode, Function.comp_def]

theorem encode_append (cs ds : List Char) : encode (cs ++ ds) = encode cs ++ encode ds :=
  List.flatMap_append

theorem equals_not_mem_encode {cs : List Char} (h : '=' ∉ cs) : 61 ∉ encode cs := by
  intro hmem
  obtain ⟨c, hc, hmem⟩ := List.mem_flatMap.mp hmem
  have hne : c.toNat ≠ 61 := by
    intro heq
    apply h
    rwa [← Char.ofNat_toNat c, heq] at hc
  have hlt : c.toNat < 0x110000 := by
    have hvalid : c.toNat < 0xD800 ∨ 0xDFFF < c.toNat ∧ c.toNat < 0x110000 := c.valid
    omega
  unfold encodeChar at hmem
  dsimp only at hmem
  split_ifs at hmem <;> simp [← UInt8.toNat_inj] at hmem <;> omega

theorem encode_injective {cs ds : List Char} (h : encode cs = encode ds) : cs = ds := by
  rw [← decodeLossy_encode cs, h, decodeLossy_encode]

/-- Text is read alike by both readers. -/
theorem decodeLossy_of_decode? {bs : List UInt8} {cs : List Char} (h : decode? bs = some cs) :
    decodeLossy bs = cs := by
  rw [decode?] at h
  rw [decodeLossy]
  generalize State.between.marks bs = marks at h
  induction marks generalizing cs with
  | nil =>
      cases h
      rfl
  | cons mark marks ih =>
      cases mark with
      | none => simp at h
      | some c =>
          rw [List.mapM_cons] at h
          obtain ⟨_, ⟨⟩, htail⟩ := Option.bind_eq_some_iff.mp h
          obtain ⟨rest, hrest, ⟨⟩⟩ := Option.bind_eq_some_iff.mp htail
          exact congrArg (c :: ·) (ih hrest)

end Utf8
end LivePage
