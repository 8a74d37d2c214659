import BrokerControl.Text.Percent
import Mathlib.Data.String.Basic
import Mathlib.Tactic.SplitIfs

/-!
# Texts that are read back

What encoders write is read back by their decoders: the digits of a number (`Digit.value_toDigits`),
the bytes of a text (`Utf8.text?_encode`) and a text as one component of a URL
(`Percent.decode?_encode`). Such a component holds unreserved characters and percent signs only
(`Percent.mem_encode`), so nothing in it ends it early. The bytes of texts stand in the order of the
texts (`Utf8.encode_le_encode_iff`).
-/

namespace BrokerControl

namespace Digit

theorem decimal?_of_isDigit {c : Char} (h : c.isDigit = true) :
    decimal? c = some (c.toNat - '0'.toNat) :=
  if_pos h

/-- The digits of a number are read as that number. -/
theorem value_toDigits (n : Nat) : value 10 ((Nat.toDigits 10 n).filterMap decimal?) = n := by
  have hread : ∀ cs : List Char, (∀ c ∈ cs, c.isDigit = true) → ∀ start,
      (cs.filterMap decimal?).foldl (fun n d ↦ n * 10 + d) start =
        Nat.ofDigitChars 10 cs start := by
    intro cs hcs
    induction cs with
    | nil => exact fun start ↦ Nat.ofDigitChars_nil.symm
    | cons c cs ih =>
        intro start
        obtain ⟨hc, hcs⟩ := List.forall_mem_cons.mp hcs
        rw [List.filterMap_cons, decimal?_of_isDigit hc, List.foldl_cons, ih hcs,
          Nat.ofDigitChars_cons, Nat.mul_comm]
  rw [value, hread _ fun c hc ↦ Nat.isDigit_of_mem_toDigits (by decide) (by decide) hc,
    Nat.ofDigitChars_ten_toDigits]

/-- Numbers are told apart by their digits. -/
theorem toString_inj {n m : Nat} : toString n = toString m ↔ n = m := by
  refine ⟨fun h ↦ ?_, congrArg toString⟩
  have hdigits : Nat.toDigits 10 n = Nat.toDigits 10 m := String.ofList_injective h
  rw [← value_toDigits n, hdigits, value_toDigits]

end Digit

namespace Utf8

variable {a b c d : UInt8}

/-- A byte below 128 is a character of its own. -/
theorem decode_one (ha : a.toNat < 0x80) (s : List UInt8) :
    decode (a :: s) = some (Char.ofNat a.toNat) :: decode s := by
  rw [decode.eq_def]
  dsimp only
  rw [if_pos ha]

/-- Two bytes are read as one character. -/
theorem decode_two (ha : within 0xC2 0xDF a = true) (hb : isTail b = true) (s : List UInt8) :
    decode (a :: b :: s) =
      some (Char.ofNat ((a.toNat - 0xC0) * 64 + payload b)) :: decode s := by
  have hlow : ¬ a.toNat < 0x80 := by
    simp only [within, decide_eq_true_eq] at ha
    omega
  rw [decode.eq_def]
  dsimp only
  rw [if_neg hlow, if_pos ha]
  simp only [hb, if_true]

/-- Three bytes are read as one character. -/
theorem decode_three (ha : within 0xE0 0xEF a = true) (hb : isSecond a b = true)
    (hc : isTail c = true) (s : List UInt8) :
    decode (a :: b :: c :: s) =
      some (Char.ofNat ((a.toNat - 0xE0) * 4096 + payload b * 64 + payload c)) :: decode s := by
  have hlow : ¬ a.toNat < 0x80 ∧ ¬ within 0xC2 0xDF a = true := by
    simp only [within, decide_eq_true_eq] at ha ⊢
    omega
  rw [decode.eq_def]
  dsimp only
  rw [if_neg hlow.1, if_neg hlow.2, if_pos ha]
  simp only [hb, hc, if_true]

/-- Four bytes are read as one character. -/
theorem decode_four (ha : within 0xF0 0xF4 a = true) (hb : isSecond a b = true)
    (hc : isTail c = true) (hd : isTail d = true) (s : List UInt8) :
    decode (a :: b :: c :: d :: s) =
      some (Char.ofNat ((a.toNat - 0xF0) * 262144 + payload b * 4096 + payload c * 64 +
        payload d)) :: decode s := by
  have hlow : ¬ a.toNat < 0x80 ∧ ¬ within 0xC2 0xDF a = true ∧ ¬ within 0xE0 0xEF a = true := by
    simp only [within, decide_eq_true_eq] at ha ⊢
    omega
  rw [decode.eq_def]
  dsimp only
  rw [if_neg hlow.1, if_neg hlow.2.1, if_neg hlow.2.2, if_pos ha]
  simp only [hb, hc, hd, if_true]

/-! ### The bytes of a character -/

theorem toNat_ofNat {k : Nat} (h : k < 256) : (UInt8.ofNat k).toNat = k :=
  UInt8.toNat_ofNat_of_lt' h

theorem toNat_tail (n k : Nat) :
    (UInt8.ofNat (0x80 + n / k % 64)).toNat = 0x80 + n / k % 64 :=
  toNat_ofNat (by omega)

@[simp] theorem isTail_tail (n k : Nat) : isTail (UInt8.ofNat (0x80 + n / k % 64)) = true := by
  simp only [isTail, within, toNat_tail, decide_eq_true_eq]
  omega

@[simp] theorem payload_tail (n k : Nat) :
    payload (UInt8.ofNat (0x80 + n / k % 64)) = n / k % 64 := by
  rw [payload, toNat_tail]
  omega

theorem within_ofNat {low high k : Nat} (h : k < 256) (hlow : low ≤ k) (hhigh : k ≤ high) :
    within low high (UInt8.ofNat k) = true := by
  simp [within, toNat_ofNat h, hlow, hhigh]

/-- A first byte and a second one fit if the number that both begin has no shorter form, is no
surrogate and is not too large. -/
theorem isSecond_ofNat {a b : Nat} (ha : a < 256) (hb : b < 64)
    (hshort : a = 0xE0 → 0x20 ≤ b) (hsurrogate : a = 0xED → b < 0x20)
    (hshort' : a = 0xF0 → 0x10 ≤ b) (hlarge : a = 0xF4 → b < 0x10) :
    isSecond (UInt8.ofNat a) (UInt8.ofNat (0x80 + b)) = true := by
  simp only [isSecond, secondBounds, toNat_ofNat ha]
  split_ifs <;> exact within_ofNat (by omega) (by omega) (by omega)

/-- The bytes of a character are read as that character. -/
theorem decode_encodeChar (c : Char) (s : List UInt8) :
    decode (encodeChar c ++ s) = some c :: decode s := by
  have hvalid : c.toNat < 0xD800 ∨ (0xDFFF < c.toNat ∧ c.toNat < 0x110000) := c.valid
  have hback {n : Nat} (h : n = c.toNat) :
      some (Char.ofNat n) :: decode s = some c :: decode s := by
    rw [h, Char.ofNat_toNat]
  simp only [encodeChar]
  split
  · next h1 =>
      have hfirst := toNat_ofNat (k := c.toNat) (by omega)
      exact (decode_one (by rwa [hfirst]) s).trans (hback hfirst)
  · split
    · next h2 =>
        have hfirst := toNat_ofNat (k := 0xC0 + c.toNat / 64) (by omega)
        have hlead : within 0xC2 0xDF (UInt8.ofNat (0xC0 + c.toNat / 64)) = true :=
          within_ofNat (by omega) (by omega) (by omega)
        refine (decode_two hlead (isTail_tail _ 1) s).trans (hback ?_)
        rw [hfirst, payload_tail]
        omega
    · split
      · next h3 =>
          have hfirst := toNat_ofNat (k := 0xE0 + c.toNat / 4096) (by omega)
          have hlead : within 0xE0 0xEF (UInt8.ofNat (0xE0 + c.toNat / 4096)) = true :=
            within_ofNat (by omega) (by omega) (by omega)
          have hsecond := isSecond_ofNat (a := 0xE0 + c.toNat / 4096) (b := c.toNat / 64 % 64)
            (by omega) (by omega) (by omega) (by omega) (by omega) (by omega)
          refine (decode_three hlead hsecond (isTail_tail _ 1) s).trans (hback ?_)
          rw [hfirst, payload_tail, payload_tail]
          omega
      · next h4 =>
          have hfirst := toNat_ofNat (k := 0xF0 + c.toNat / 262144) (by omega)
          have hlead : within 0xF0 0xF4 (UInt8.ofNat (0xF0 + c.toNat / 262144)) = true :=
            within_ofNat (by omega) (by omega) (by omega)
          have hsecond := isSecond_ofNat (a := 0xF0 + c.toNat / 262144) (b := c.toNat / 4096 % 64)
            (by omega) (by omega) (by omega) (by omega) (by omega) (by omega)
          refine (decode_four hlead hsecond (isTail_tail _ 64) (isTail_tail _ 1) s).trans (hback ?_)
          rw [hfirst, payload_tail, payload_tail, payload_tail]
          omega

/-- The bytes of a text are read as its characters. -/
theorem decode_encode (cs : List Char) : decode (encode cs) = cs.map some := by
  induction cs with
  | nil => rw [encode, List.flatMap_nil, List.map_nil, decode]
  | cons c cs ih => rw [encode, List.flatMap_cons, decode_encodeChar, ← encode, ih, List.map_cons]

/-- The bytes of a text are read as that text. -/
theorem text?_encode (cs : List Char) : text? (encode cs) = some (String.ofList cs) := by
  have hall : (cs.map some).mapM id = some cs := by
    induction cs with
    | nil => rfl
    | cons c cs ih => simp [ih]
  rw [text?, decode_encode, hall, Option.map_some]

/-- Every character has a byte. -/
theorem encodeChar_ne_nil (c : Char) : encodeChar c ≠ [] := by
  simp only [encodeChar]
  split_ifs <;> exact List.cons_ne_nil _ _

/-- A text has at least as many bytes as characters. -/
theorem length_le_size (cs : List Char) : cs.length ≤ size cs := by
  induction cs with
  | nil => exact Nat.zero_le _
  | cons c cs ih =>
      show cs.length + 1 ≤ (encodeChar c ++ encode cs).length
      have hc : 0 < (encodeChar c).length := List.length_pos_iff.mpr (encodeChar_ne_nil c)
      rw [List.length_append, ← size]
      omega

/-- An ASCII text has as many bytes as characters. -/
theorem size_of_ascii {cs : List Char} (h : ∀ c ∈ cs, c.toNat < 0x80) : size cs = cs.length := by
  induction cs with
  | nil => rfl
  | cons c cs ih =>
      obtain ⟨hc, hcs⟩ := List.forall_mem_cons.mp h
      have hone : encodeChar c = [UInt8.ofNat c.toNat] := if_pos hc
      show (encodeChar c ++ encode cs).length = cs.length + 1
      rw [hone, List.length_append, ← size, ih hcs]
      exact Nat.add_comm _ _

/-- A character has as many bytes as its place in the code needs. -/
theorem length_encodeChar (c : Char) : (encodeChar c).length = c.utf8Size := by
  have hone : c.val ≤ 0x7F ↔ c.toNat < 0x80 := by
    rw [UInt32.le_iff_toNat_le, ← Nat.lt_succ_iff]
    rfl
  have htwo : c.val ≤ 0x7FF ↔ c.toNat < 0x800 := by
    rw [UInt32.le_iff_toNat_le, ← Nat.lt_succ_iff]
    rfl
  have hthree : c.val ≤ 0xFFFF ↔ c.toNat < 0x10000 := by
    rw [UInt32.le_iff_toNat_le, ← Nat.lt_succ_iff]
    rfl
  show _ = if c.val ≤ 0x7F then 1 else if c.val ≤ 0x7FF then 2 else if c.val ≤ 0xFFFF then 3 else 4
  simp only [encodeChar, hone, htwo, hthree]
  split_ifs <;> rfl

/-- The size of a text is that of its UTF-8 form. -/
theorem size_toList (s : String) : size s.toList = s.utf8ByteSize := by
  rw [← String.ofList_toList (s := s), String.utf8ByteSize_ofList, String.toList_ofList]
  induction s.toList with
  | nil => rfl
  | cons c cs ih =>
      rw [String.utf8Len_cons, ← ih, ← length_encodeChar, Nat.add_comm]
      exact List.length_append

/-- Any number of whole characters ends at a position between characters. -/
theorem isValid_size_take (s : String) (n : Nat) :
    (String.Pos.Raw.mk (size (s.toList.take n))).IsValid s := by
  rw [String.Pos.Raw.isValid_iff_exists_append]
  refine ⟨String.ofList (s.toList.take n), String.ofList (s.toList.drop n), ?_, ?_⟩
  · rw [← String.ofList_append, List.take_append_drop, String.ofList_toList]
  · have hsize := size_toList (String.ofList (s.toList.take n))
    rw [String.toList_ofList] at hsize
    rw [hsize]
    rfl

/-! ### The order of bytes -/

/-- The smaller byte in front comes first, and equal ones leave it to the rest. -/
theorem ofNat_cons_lt {a b : Nat} {l m : List UInt8} (hb : b < 256) (hle : a ≤ b)
    (hrest : a = b → l < m) : UInt8.ofNat a :: l < UInt8.ofNat b :: m := by
  rw [List.cons_lt_cons_iff, UInt8.lt_iff_toNat_lt, toNat_ofNat hb, toNat_ofNat (by omega)]
  rcases Nat.lt_or_eq_of_le hle with hlt | heq
  · exact .inl hlt
  · exact .inr ⟨congrArg UInt8.ofNat heq, hrest heq⟩

/-- The bytes of a smaller character come first, whatever follows either. -/
theorem encodeChar_append_lt {c d : Char} (h : c < d) (r s : List UInt8) :
    encodeChar c ++ r < encodeChar d ++ s := by
  have hlt : c.toNat < d.toNat := h
  have hmax : d.toNat < 0x110000 := by
    have hvalid : d.toNat < 0xD800 ∨ (0xDFFF < d.toNat ∧ d.toNat < 0x110000) := d.valid
    omega
  -- A longer form has a greater first byte. In the same form the bytes are compared in turn, and
  -- not all of them are equal.
  simp only [encodeChar]
  split
  · split_ifs <;> exact ofNat_cons_lt (by omega) (by omega) (by omega)
  split
  · split_ifs
    · omega
    · exact ofNat_cons_lt (by omega) (by omega) fun h₁ ↦
        ofNat_cons_lt (by omega) (by omega) (by omega)
    all_goals exact ofNat_cons_lt (by omega) (by omega) (by omega)
  split
  · split_ifs
    · omega
    · omega
    · exact ofNat_cons_lt (by omega) (by omega) fun h₁ ↦
        ofNat_cons_lt (by omega) (by omega) fun h₂ ↦
        ofNat_cons_lt (by omega) (by omega) (by omega)
    · exact ofNat_cons_lt (by omega) (by omega) (by omega)
  · split_ifs
    · omega
    · omega
    · omega
    · exact ofNat_cons_lt (by omega) (by omega) fun h₁ ↦
        ofNat_cons_lt (by omega) (by omega) fun h₂ ↦
        ofNat_cons_lt (by omega) (by omega) fun h₃ ↦
        ofNat_cons_lt (by omega) (by omega) (by omega)

/-- Of two texts the one whose bytes come first is the one whose characters do. -/
theorem encode_lt_encode_iff {cs ds : List Char} : encode cs < encode ds ↔ cs < ds := by
  have hmono {cs ds : List Char} (h : cs < ds) : encode cs < encode ds := by
    induction h with
    | @nil d ds =>
        show ([] : List UInt8) < encodeChar d ++ encode ds
        obtain ⟨b, bs, hd⟩ := List.exists_cons_of_ne_nil (encodeChar_ne_nil d)
        rw [hd]
        exact List.nil_lt_cons _ _
    | cons _ ih => exact List.append_left_lt ih
    | rel h => exact encodeChar_append_lt h _ _
  refine ⟨fun h ↦ ?_, hmono⟩
  rcases lt_trichotomy cs ds with hlt | rfl | hgt
  · exact hlt
  · exact absurd h (List.lt_irrefl _)
  · exact absurd h (List.lt_asymm (hmono hgt))

/-- Texts stand in the order of their bytes. -/
theorem encode_le_encode_iff {s t : String} : encode s.toList ≤ encode t.toList ↔ s ≤ t := by
  show ¬ encode t.toList < encode s.toList ↔ ¬ t < s
  rw [encode_lt_encode_iff, String.lt_iff_toList_lt]

end Utf8

namespace Percent

/-! ### Triplets -/

theorem hex?_digitChar {n : Nat} (h : n < 16) :
    Digit.hex? (Nat.digitChar n).toUpper = some n := by
  revert n
  decide

theorem isUnreserved_digitChar {n : Nat} (h : n < 16) :
    isUnreserved (Nat.digitChar n).toUpper = true := by
  revert n
  decide

/-- A triplet is read as its byte. -/
theorem decode_triplet (b : UInt8) (rest : List Char) :
    decode (triplet b ++ rest) = b :: decode rest := by
  have hhigh : b.toNat / 16 < 16 := by have := b.toNat_lt; omega
  have hlow : b.toNat % 16 < 16 := by omega
  have hbyte : UInt8.ofNat (b.toNat / 16 * 16 + b.toNat % 16) = b := by
    rw [show b.toNat / 16 * 16 + b.toNat % 16 = b.toNat by omega, UInt8.ofNat_toNat]
  rw [triplet, List.cons_append, List.cons_append, List.singleton_append, decode,
    hex?_digitChar hhigh, hex?_digitChar hlow]
  simp only [hbyte]

theorem decode_triplets (bytes : List UInt8) (rest : List Char) :
    decode (bytes.flatMap triplet ++ rest) = bytes ++ decode rest := by
  induction bytes with
  | nil => rfl
  | cons b bytes ih =>
      rw [List.flatMap_cons, List.append_assoc, decode_triplet, ih, List.cons_append]

/-- Other characters stand for themselves. -/
theorem decode_cons_of_ne {c : Char} (h : c ≠ '%') (rest : List Char) :
    decode (c :: rest) = Utf8.encodeChar c ++ decode rest :=
  decode.eq_3 c rest fun _ _ _ hc _ ↦ h hc

/-- A text without percent signs stands for itself. -/
theorem decode_of_notMem {cs : List Char} (h : '%' ∉ cs) : decode cs = Utf8.encode cs := by
  induction cs with
  | nil => rfl
  | cons c cs ih =>
      obtain ⟨hc, hcs⟩ := List.ne_and_not_mem_of_not_mem_cons h
      rw [decode_cons_of_ne (Ne.symm hc), ih hcs, Utf8.encode, Utf8.encode, List.flatMap_cons]

/-! ### Components -/

/-- Where all characters are kept, nothing is changed. -/
theorem encodeWith_of_kept {keep : Char → Bool} {cs : List Char} (h : ∀ c ∈ cs, keep c = true) :
    encodeWith keep cs = cs := by
  induction cs with
  | nil => rfl
  | cons c cs ih =>
      obtain ⟨hc, hcs⟩ := List.forall_mem_cons.mp h
      rw [encodeWith, List.flatMap_cons, if_pos hc, ← encodeWith, ih hcs]
      rfl

/-- What is encoded is read back, if the percent sign itself is not kept. -/
theorem decode_encodeWith {keep : Char → Bool} (h : keep '%' = false) (cs : List Char) :
    decode (encodeWith keep cs) = Utf8.encode cs := by
  induction cs with
  | nil => rfl
  | cons c cs ih =>
      rw [encodeWith, List.flatMap_cons, ← encodeWith, Utf8.encode, List.flatMap_cons,
        ← Utf8.encode, ← ih]
      cases hkeep : keep c with
      | true =>
          have hne : c ≠ '%' := by
            rintro rfl
            rw [h] at hkeep
            cases hkeep
          exact decode_cons_of_ne hne _
      | false => exact decode_triplets _ _

/-- A text is read back from a component of a URL. -/
theorem decode?_encode (s : String) : decode? (encode s) = some s := by
  rw [decode?, encode, String.toList_ofList, decode_encodeWith rfl, Utf8.text?_encode,
    String.ofList_toList]

/-- Letters and digits come no later than the small `z`. -/
theorem toNat_le_of_isAlphanum {c : Char} (h : c.isAlphanum = true) : c.toNat ≤ 'z'.toNat := by
  rcases Bool.or_eq_true_iff.mp h with hletter | hdigit
  · rcases Bool.or_eq_true_iff.mp hletter with hbig | hsmall
    · have hle : c.val ≤ 'Z'.val := (of_decide_eq_true hbig).2
      exact Nat.le_trans (UInt32.le_iff_toNat_le.mp hle) (by decide)
    · have hle : c.val ≤ 'z'.val := of_decide_eq_true (Bool.and_eq_true_iff.mp hsmall).2
      exact UInt32.le_iff_toNat_le.mp hle
  · have hle : c.val ≤ '9'.val := of_decide_eq_true (Bool.and_eq_true_iff.mp hdigit).2
    exact Nat.le_trans (UInt32.le_iff_toNat_le.mp hle) (by decide)

/-- What holds of all unreserved characters holds of the few that there are. -/
theorem of_isUnreserved {p : Char → Bool} {c : Char}
    (hall : ∀ n < 127, isUnreserved (Char.ofNat n) = true → p (Char.ofNat n) = true)
    (h : isUnreserved c = true) : p c = true := by
  have hascii : c.toNat < 127 := by
    simp only [isUnreserved, Bool.or_eq_true, decide_eq_true_eq] at h
    obtain (((halphanum | rfl) | rfl) | rfl) | rfl := h
    · exact Nat.lt_of_le_of_lt (toNat_le_of_isAlphanum halphanum) (by decide)
    all_goals decide
  have hone := hall c.toNat hascii
  rw [Char.ofNat_toNat] at hone
  exact hone h

/-- Besides what is kept there are unreserved characters and percent signs only. -/
theorem mem_encodeWith {keep : Char → Bool} {cs : List Char} {c : Char}
    (h : c ∈ encodeWith keep cs) : c = '%' ∨ isUnreserved c = true ∨ c ∈ cs ∧ keep c = true := by
  rw [encodeWith] at h
  obtain ⟨k, hcs, hk⟩ := List.mem_flatMap.mp h
  split at hk
  · next hkeep =>
      rw [List.mem_singleton.mp hk]
      exact .inr (.inr ⟨hcs, hkeep⟩)
  · obtain ⟨b, -, hb⟩ := List.mem_flatMap.mp hk
    have hhigh : b.toNat / 16 < 16 := by have := b.toNat_lt; omega
    have hlow : b.toNat % 16 < 16 := by omega
    simp only [triplet, List.mem_cons, List.not_mem_nil, or_false] at hb
    rcases hb with rfl | rfl | rfl
    · exact .inl rfl
    · exact .inr (.inl (isUnreserved_digitChar hhigh))
    · exact .inr (.inl (isUnreserved_digitChar hlow))

/-- A component of a URL holds unreserved characters and percent signs only. -/
theorem mem_encode {s : String} {c : Char} (h : c ∈ (encode s).toList) :
    c = '%' ∨ isUnreserved c = true := by
  rw [encode, String.toList_ofList] at h
  obtain rfl | hplain | ⟨-, hkeep⟩ := mem_encodeWith h
  · exact .inl rfl
  · exact .inr hplain
  · exact .inr hkeep

/-- What neither stands in a text nor is needed to encode it does not come into it. -/
theorem notMem_encodeWith {keep : Char → Bool} {cs : List Char} {c : Char}
    (hplain : isUnreserved c = false) (hne : c ≠ '%') (h : c ∉ cs) : c ∉ encodeWith keep cs := by
  intro hmem
  obtain heq | hkeep | ⟨hcs, -⟩ := mem_encodeWith hmem
  · exact hne heq
  · exact Bool.false_ne_true (hplain.symm.trans hkeep)
  · exact h hcs

theorem encodeWith_ne_nil {keep : Char → Bool} {cs : List Char} (hne : cs ≠ []) :
    encodeWith keep cs ≠ [] := by
  obtain ⟨c, cs, rfl⟩ := List.exists_cons_of_ne_nil hne
  intro h
  have hc := List.flatMap_eq_nil_iff.mp h c List.mem_cons_self
  split at hc
  · cases hc
  · obtain ⟨b, bytes, hbytes⟩ := List.exists_cons_of_ne_nil (Utf8.encodeChar_ne_nil c)
    rw [hbytes] at hc
    cases hc

end Percent

end BrokerControl
