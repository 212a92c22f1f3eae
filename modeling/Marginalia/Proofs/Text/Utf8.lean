import Marginalia.Text.Utf8

/-!
# Reading what was written in UTF-8

The reader gives back every text that was written, and has then no character left that has begun.  The
proof follows the bytes of one character through the reader: the first byte fixes how many are to come and
the range of the second, and this range leaves out only bytes that no character has there.

Conversely, bytes in which the reader finds nothing invalid were written from the text that it gives.  Here
the proof follows the reader: `Begun` says which bytes can have brought it to where it stands.
-/

namespace Marginalia

/-- A pass that stops at the first item without a value gives the values of all items. -/
theorem mapM_eq_some_iff {α β : Type} (f : α → Option β) (items : List α) (values : List β) :
    items.mapM f = some values ↔ items.map f = values.map some := by
  induction items generalizing values with
  | nil => cases values <;> simp
  | cons item rest ih =>
    rw [List.mapM_cons, List.map_cons]
    cases found : f item with
    | none => cases values <;> simp
    | some value =>
      change (rest.mapM f).bind (fun later => some (value :: later)) = some values ↔ _
      rw [Option.bind_eq_some_iff]
      constructor
      · rintro ⟨later, read, whole⟩
        cases whole
        rw [(ih later).mp read, List.map_cons]
      · intro whole
        cases values with
        | nil => cases whole
        | cons first later =>
          obtain ⟨same, others⟩ := List.cons.inj whole
          cases same
          exact ⟨later, (ih later).mpr others, rfl⟩

namespace Utf8

/-! ## Bytes of a character -/

/-- A byte in the expected range completes the character or brings it one byte further. -/
theorem partsFrom_extend {started : Partial} {n : Nat} (small : n < 256) (above : started.low ≤ n)
    (below : n ≤ started.high) (rest : Bytes) :
    partsFrom (some started) (.ofNat n :: rest) =
      if started.needed ≤ 1 then some (Char.ofNat (64 * started.value + n % 64)) :: partsFrom none rest
      else partsFrom (some ⟨started.needed - 1, 0x80, 0xBF, 64 * started.value + n % 64⟩) rest := by
  have expected : started.low ≤ n ∧ n ≤ started.high := ⟨above, below⟩
  simp only [partsFrom, step, UInt8.toNat_ofNat_of_lt' small, if_pos expected, Partial.extend]
  split <;> rfl

/-- A byte that begins a character of several bytes. -/
theorem partsFrom_begin {n : Nat} {started : Partial} (begins : first (.ofNat n) = ([], some started))
    (rest : Bytes) : partsFrom none (.ofNat n :: rest) = partsFrom (some started) rest := by
  simp only [partsFrom, step, begins, List.nil_append]

theorem first_one {v : Nat} (short : v ≤ 0x7F) : first (.ofNat v) = ([some (Char.ofNat v)], none) := by
  have lead := UInt8.toNat_ofNat_of_lt' (show v < 256 by omega)
  unfold first
  simp only [lead]
  rw [if_pos (by omega)]

theorem first_two {v : Nat} (long : 0x7F < v) (short : v ≤ 0x7FF) :
    first (.ofNat (v / 64 % 32 + 192)) = ([], some ⟨1, 0x80, 0xBF, v / 64⟩) := by
  have lead := UInt8.toNat_ofNat_of_lt' (show v / 64 % 32 + 192 < 256 by omega)
  unfold first
  simp only [lead]
  rw [if_neg (by omega), if_neg (by omega), if_pos (by omega)]
  have value : v / 64 % 32 + 192 - 0xC0 = v / 64 := by omega
  rw [value]

/-- The second of three bytes is in the range that the first one sets, since it is not too small and the
character is no surrogate. -/
theorem first_three {v : Nat} (long : 0x7FF < v) (short : v ≤ 0xFFFF) (valid : v < 0xD800 ∨ 0xDFFF < v) :
    ∃ low high, first (.ofNat (v / 4096 % 16 + 224)) = ([], some ⟨2, low, high, v / 4096⟩) ∧
      low ≤ v / 64 % 64 + 128 ∧ v / 64 % 64 + 128 ≤ high := by
  have lead := UInt8.toNat_ofNat_of_lt' (show v / 4096 % 16 + 224 < 256 by omega)
  have value : v / 4096 % 16 + 224 - 0xE0 = v / 4096 := by omega
  unfold first
  simp only [lead]
  rw [if_neg (by omega), if_neg (by omega), if_neg (by omega)]
  split
  · rename_i smallest
    have zero : v / 4096 = 0 := by omega
    exact ⟨0xA0, 0xBF, by rw [zero], by omega, by omega⟩
  · split
    · rename_i surrogates
      exact ⟨0x80, 0x9F, by rw [value], by omega, by omega⟩
    · rw [if_pos (by omega), value]
      exact ⟨0x80, 0xBF, rfl, by omega, by omega⟩

/-- The same for the second of four bytes, since the character is not too large. -/
theorem first_four {v : Nat} (long : 0xFFFF < v) (valid : v < 0x110000) :
    ∃ low high, first (.ofNat (v / 262144 % 8 + 240)) = ([], some ⟨3, low, high, v / 262144⟩) ∧
      low ≤ v / 4096 % 64 + 128 ∧ v / 4096 % 64 + 128 ≤ high := by
  have lead := UInt8.toNat_ofNat_of_lt' (show v / 262144 % 8 + 240 < 256 by omega)
  have value : v / 262144 % 8 + 240 - 0xF0 = v / 262144 := by omega
  unfold first
  simp only [lead]
  rw [if_neg (by omega), if_neg (by omega), if_neg (by omega), if_neg (by omega), if_neg (by omega),
    if_neg (by omega)]
  split
  · rename_i smallest
    have zero : v / 262144 = 0 := by omega
    exact ⟨0x90, 0xBF, by rw [zero], by omega, by omega⟩
  · split
    · rw [value]
      exact ⟨0x80, 0xBF, rfl, by omega, by omega⟩
    · rw [if_pos (by omega), value]
      exact ⟨0x80, 0x8F, rfl, by omega, by omega⟩

/-! ## Characters and texts -/

/-- A character is read from its bytes, and nothing is left of it.  Only the number of the character matters: each
of its digits to the base 64 is a byte. -/
theorem partsFrom_utf8EncodeChar (c : Char) (rest : Bytes) :
    partsFrom none (String.utf8EncodeChar c ++ rest) = some c :: partsFrom none rest := by
  have valid : c.val.toNat < 0xD800 ∨ (0xDFFF < c.val.toNat ∧ c.val.toNat < 0x110000) := c.valid
  have whole : Char.ofNat c.val.toNat = c := Char.ofNat_toNat c
  unfold String.utf8EncodeChar
  generalize c.val.toNat = v at valid whole ⊢
  dsimp only
  split
  · rename_i short
    simp only [List.cons_append, List.nil_append, partsFrom, step, first_one short, whole]
  · rename_i long
    split
    · rename_i short
      have value : 64 * (v / 64) + (v % 64 + 128) % 64 = v := by omega
      simp only [List.cons_append, List.nil_append]
      rw [partsFrom_begin (first_two (by omega) short),
        partsFrom_extend (by omega) (by simp) (by simp; omega), if_pos (by simp), value, whole]
    · rename_i long
      split
      · rename_i short
        rcases first_three (by omega) short (by omega) with ⟨low, high, begins, above, below⟩
        have value : 64 * (64 * (v / 4096) + (v / 64 % 64 + 128) % 64) + (v % 64 + 128) % 64 = v := by
          omega
        simp only [List.cons_append, List.nil_append]
        rw [partsFrom_begin begins, partsFrom_extend (by omega) above below, if_neg (by simp),
          partsFrom_extend (by omega) (by simp) (by simp; omega), if_pos (by simp), value, whole]
      · rename_i long
        rcases first_four (show 0xFFFF < v by omega) (by omega) with ⟨low, high, begins, above, below⟩
        have value : 64 * (64 * (64 * (v / 262144) + (v / 4096 % 64 + 128) % 64) +
            (v / 64 % 64 + 128) % 64) + (v % 64 + 128) % 64 = v := by
          omega
        simp only [List.cons_append, List.nil_append]
        rw [partsFrom_begin begins, partsFrom_extend (by omega) above below, if_neg (by simp),
          partsFrom_extend (by omega) (by simp) (by simp; omega), if_neg (by simp),
          partsFrom_extend (by omega) (by simp) (by simp; omega), if_pos (by simp), value, whole]

/-- Every text is read back from its bytes, whatever follows. -/
theorem partsFrom_encode (text : Text) (rest : Bytes) :
    partsFrom none (encode text ++ rest) = text.map some ++ partsFrom none rest := by
  induction text with
  | nil => rfl
  | cons c text ih =>
    have bytes : encode (c :: text) ++ rest = String.utf8EncodeChar c ++ (encode text ++ rest) := by
      simp [encode]
    rw [bytes, partsFrom_utf8EncodeChar, ih, List.map_cons, List.cons_append]

@[simp] theorem decodeLossy_encode (text : Text) : decodeLossy (encode text) = text := by
  have read := partsFrom_encode text []
  rw [List.append_nil] at read
  rw [decodeLossy, parts, read, partsFrom, List.append_nil, List.map_map]
  exact List.map_id text

/-! ## Bytes that are a text -/

/-- Bytes that have brought the reader into the middle of a character.  Their digits make up the value so
far, and the ranges leave out the values that no character has. -/
inductive Begun : Partial → Bytes → Prop
  | two {v a : Nat} (first : a = v + 192) (low : 2 ≤ v) (high : v < 32) :
      Begun ⟨1, 0x80, 0xBF, v⟩ [.ofNat a]
  | three {v low high a : Nat} (first : a = v + 224) (small : v < 16) (above : 0x80 ≤ low)
      (below : high ≤ 0xBF) (shortest : v = 0 → 0xA0 ≤ low) (surrogate : v = 13 → high ≤ 0x9F) :
      Begun ⟨2, low, high, v⟩ [.ofNat a]
  | threeTwo {v a b : Nat} (first : a = v / 64 + 224) (second : b = v % 64 + 128) (low : 32 ≤ v)
      (high : v < 1024) (surrogate : v < 864 ∨ 895 < v) :
      Begun ⟨1, 0x80, 0xBF, v⟩ [.ofNat a, .ofNat b]
  | four {v low high a : Nat} (first : a = v + 240) (small : v ≤ 4) (above : 0x80 ≤ low)
      (below : high ≤ 0xBF) (shortest : v = 0 → 0x90 ≤ low) (largest : v = 4 → high ≤ 0x8F) :
      Begun ⟨3, low, high, v⟩ [.ofNat a]
  | fourTwo {v a b : Nat} (first : a = v / 64 + 240) (second : b = v % 64 + 128) (low : 16 ≤ v)
      (high : v < 272) : Begun ⟨2, 0x80, 0xBF, v⟩ [.ofNat a, .ofNat b]
  | fourThree {v a b c : Nat} (first : a = v / 4096 + 240) (second : b = v / 64 % 64 + 128)
      (third : c = v % 64 + 128) (low : 1024 ≤ v) (high : v < 17408) :
      Begun ⟨1, 0x80, 0xBF, v⟩ [.ofNat a, .ofNat b, .ofNat c]

/-- What one more byte can do: it is invalid, or completes a character, whose bytes have then been read, or
brings the character further. -/
inductive Continues (read : Bytes) : List Part × Option Partial → Prop
  | invalid : Continues read ([none], none)
  | completes (c : Char) (written : String.utf8EncodeChar c = read) : Continues read ([some c], none)
  | advances (started : Partial) (begun : Begun started read) : Continues read ([], some started)

theorem toNat_val_ofNat {v : Nat} (valid : v < 0xD800 ∨ 0xDFFF < v ∧ v < 0x110000) :
    (Char.ofNat v).val.toNat = v := by
  have isValid : v.isValidChar := valid
  rw [Char.ofNat, dif_pos isValid]
  rfl

theorem Continues.ite {read : Bytes} {p : Prop} [Decidable p] {first second : List Part × Option Partial}
    (yes : p → Continues read first) (no : ¬ p → Continues read second) :
    Continues read (if p then first else second) := by
  by_cases holds : p
  · rw [if_pos holds]
    exact yes holds
  · rw [if_neg holds]
    exact no holds

/-- A first byte tells how many bytes follow.  Some of those with two or three bytes to follow allow a narrower
range for the next one, and these are cases of their own. -/
theorem continues_first {n : Nat} (small : n < 256) : Continues [.ofNat n] (first (.ofNat n)) := by
  have byte := UInt8.toNat_ofNat_of_lt' small
  unfold first
  simp only [byte]
  refine .ite (fun short => ?_) fun _ => ?_
  · have value := toNat_val_ofNat (v := n) (by omega)
    refine .completes _ ?_
    simp only [String.utf8EncodeChar, value]
    rw [if_pos (by omega)]
  refine .ite (fun _ => .invalid) fun _ => ?_
  refine .ite (fun _ => .advances _ (.two (by omega) (by omega) (by omega))) fun _ => ?_
  refine .ite (fun _ => .advances _ (.three (by omega) (by omega) (by omega) (by omega) (by omega)
    (by omega))) fun _ => ?_
  refine .ite (fun _ => .advances _ (.three (by omega) (by omega) (by omega) (by omega) (by omega)
    (by omega))) fun _ => ?_
  refine .ite (fun _ => .advances _ (.three (by omega) (by omega) (by omega) (by omega) (by omega)
    (by omega))) fun _ => ?_
  refine .ite (fun _ => .advances _ (.four (by omega) (by omega) (by omega) (by omega) (by omega)
    (by omega))) fun _ => ?_
  refine .ite (fun _ => .advances _ (.four (by omega) (by omega) (by omega) (by omega) (by omega)
    (by omega))) fun _ => ?_
  exact .ite (fun _ => .advances _ (.four (by omega) (by omega) (by omega) (by omega) (by omega)
    (by omega))) fun _ => .invalid

theorem continues_extend {started : Partial} {read : Bytes} (begun : Begun started read) {n : Nat}
    (small : n < 256) (above : started.low ≤ n) (below : n ≤ started.high) :
    Continues (read ++ [.ofNat n]) (started.extend (.ofNat n)) := by
  have byte := UInt8.toNat_ofNat_of_lt' small
  unfold Partial.extend
  simp only [byte]
  cases begun with
  | @two v a first low high =>
    dsimp only at above below
    have value := toNat_val_ofNat (v := 64 * v + n % 64) (by omega)
    have lead : (64 * v + n % 64) / 64 % 32 + 192 = a := by omega
    have last : (64 * v + n % 64) % 64 + 128 = n := by omega
    refine .completes _ ?_
    simp only [String.utf8EncodeChar, value]
    rw [if_neg (by omega), if_pos (by omega), lead, last]
    rfl
  | three first small above' below' shortest surrogate =>
    dsimp only at above below ⊢
    exact .advances _ (.threeTwo (by omega) (by omega) (by omega) (by omega) (by omega))
  | @threeTwo v a b first second low high surrogate =>
    dsimp only at above below
    have value := toNat_val_ofNat (v := 64 * v + n % 64) (by omega)
    have lead : (64 * v + n % 64) / 4096 % 16 + 224 = a := by omega
    have middle : (64 * v + n % 64) / 64 % 64 + 128 = b := by omega
    have last : (64 * v + n % 64) % 64 + 128 = n := by omega
    refine .completes _ ?_
    simp only [String.utf8EncodeChar, value]
    rw [if_neg (by omega), if_neg (by omega), if_pos (by omega), lead, middle, last]
    rfl
  | four first small above' below' shortest largest =>
    dsimp only at above below ⊢
    exact .advances _ (.fourTwo (by omega) (by omega) (by omega) (by omega))
  | fourTwo first second low high =>
    dsimp only at above below ⊢
    exact .advances _ (.fourThree (by omega) (by omega) (by omega) (by omega) (by omega))
  | @fourThree v a b c first second third low high =>
    dsimp only at above below
    have value := toNat_val_ofNat (v := 64 * v + n % 64) (by omega)
    have lead : (64 * v + n % 64) / 262144 % 8 + 240 = a := by omega
    have upper : (64 * v + n % 64) / 4096 % 64 + 128 = b := by omega
    have lower : (64 * v + n % 64) / 64 % 64 + 128 = c := by omega
    have last : (64 * v + n % 64) % 64 + 128 = n := by omega
    refine .completes _ ?_
    simp only [String.utf8EncodeChar, value]
    rw [if_neg (by omega), if_neg (by omega), if_neg (by omega), lead, upper, lower, last]
    rfl

/-- Where the reader finds characters only, these are what the bytes were written from: whatever was read before, a
byte that continues leaves a shorter text or a longer character. -/
theorem encode_of_partsFrom (bytes : Bytes) :
    (∀ text : Text, partsFrom none bytes = text.map some → encode text = bytes) ∧
      ∀ started read, Begun started read →
        ∀ text : Text, partsFrom (some started) bytes = text.map some → encode text = read ++ bytes := by
  induction bytes with
  | nil =>
    constructor
    · intro text found
      rw [partsFrom, eq_comm, List.map_eq_nil_iff] at found
      rw [found]
      rfl
    · intro started read _ text found
      cases text <;> cases found
  | cons byte rest ih =>
    have continued : ∀ (read : Bytes) (result : List Part × Option Partial),
        Continues (read ++ [byte]) result →
          ∀ text : Text, result.1 ++ partsFrom result.2 rest = text.map some →
            encode text = read ++ byte :: rest := by
      intro read result continues text found
      cases continues with
      | invalid => cases text <;> cases found
      | completes c written =>
        cases text with
        | nil => cases found
        | cons d text =>
          rcases List.cons.inj found with ⟨same, later⟩
          cases same
          have rest_eq := ih.1 text later
          calc encode (c :: text) = String.utf8EncodeChar c ++ encode text := List.flatMap_cons
            _ = read ++ byte :: rest := by rw [written, rest_eq, List.append_assoc]; rfl
      | advances started begun =>
        have both := ih.2 started _ begun text found
        rwa [List.append_assoc] at both
    have small : byte.toNat < 256 := byte.toNat_lt
    constructor
    · intro text found
      have continues := continues_first small
      rw [UInt8.ofNat_toNat] at continues
      exact continued [] _ continues text found
    · intro started read begun text found
      by_cases expected : started.low ≤ byte.toNat ∧ byte.toNat ≤ started.high
      · have continues := continues_extend begun small expected.1 expected.2
        rw [UInt8.ofNat_toNat] at continues
        rw [partsFrom, step, if_pos expected] at found
        exact continued read _ continues text found
      · rw [partsFrom, step, if_neg expected] at found
        cases text <;> cases found

/-- Bytes are read as a text exactly if they were written from it. -/
theorem decode?_eq_some_iff (bytes : Bytes) (text : Text) : decode? bytes = some text ↔ encode text = bytes := by
  rw [decode?, mapM_eq_some_iff, List.map_id, parts]
  constructor
  · exact (encode_of_partsFrom bytes).1 text
  · rintro rfl
    have read := partsFrom_encode text []
    rwa [List.append_nil, partsFrom, List.append_nil] at read

theorem encode_injective : Function.Injective encode := by
  intro first second same
  have read := (decode?_eq_some_iff _ first).mpr same
  rw [(decode?_eq_some_iff _ second).mpr rfl] at read
  exact (Option.some.inj read).symm

end Utf8

end Marginalia
