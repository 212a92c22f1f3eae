import Marginalia.Proofs.Text.Lines
import Marginalia.Proofs.Text.Utf8

/-!
# Lines of bytes

A file is read as text before it is cut into lines, and a character that was begun and not finished is found
to be invalid only by the byte after it.  That byte may be a line feed.  It is not lost with the character:
no byte below 0x80 continues a character, so such a byte is always read as a character of its own, and what
stands before it is read as if the file ended there.  No other bytes are read as such a character either,
since overlong forms are invalid.

So the lines of the text are the lines of the bytes, each read on its own.  `Bytes.lines` cuts bytes without
reading them.
-/

namespace Marginalia

/-- The list without its last item, if that is the given one. -/
def withoutFinal {α : Type} [DecidableEq α] (item : α) (items : List α) : List α :=
  if items.getLast? = some item then items.dropLast else items

theorem withoutFinal_concat {α : Type} [DecidableEq α] (item : α) (items : List α) :
    withoutFinal item (items ++ [item]) = items := by
  rw [withoutFinal, List.getLast?_concat, if_pos rfl, List.dropLast_concat]

theorem withoutFinal_of_ne {α : Type} [DecidableEq α] {item : α} {items : List α}
    (differs : items.getLast? ≠ some item) : withoutFinal item items = items :=
  if_neg differs

namespace Bytes

def lineFeed : UInt8 := 0x0A

def carriageReturn : UInt8 := 0x0D

/-- The lines of a byte sequence: the pieces between line feeds, each without a carriage return that stands
directly before its line feed.  What comes after the last line feed is a line if there is something. -/
def lines (bytes : Bytes) : List Bytes :=
  let pieces := bytes.splitOn lineFeed
  pieces.dropLast.map (withoutFinal carriageReturn) ++ pieces.getLast?.toList.filter (· ≠ [])

theorem lines_append_lineFeed {piece : Bytes} (noFeed : lineFeed ∉ piece) (rest : Bytes) :
    lines (piece ++ lineFeed :: rest) = withoutFinal carriageReturn piece :: lines rest := by
  have more : rest.splitOn lineFeed ≠ [] := List.splitOn_ne_nil lineFeed rest
  rcases List.exists_cons_of_ne_nil more with ⟨next, others, cut⟩
  simp only [lines, List.splitOn_append_cons_self_of_not_mem noFeed, cut]
  rfl

theorem lines_of_lineFeed_not_mem {piece : Bytes} (noFeed : lineFeed ∉ piece) (nonempty : piece ≠ []) :
    lines piece = [piece] := by
  simp [lines, List.splitOn_eq_singleton noFeed, nonempty]

end Bytes

namespace Utf8

/-! ## Where the reader can stand -/

/-- The reader is between two characters, or in one that has begun. -/
def Standing (state : Option Partial) : Prop :=
  ∀ started, state = some started → ∃ read, Begun started read

theorem standing_none : Standing none := by
  intro started impossible
  cases impossible

theorem Begun.low_le {started : Partial} {read : Bytes} (begun : Begun started read) :
    0x80 ≤ started.low := by
  cases begun <;> first | assumption | exact Nat.le_refl _

theorem partsFrom_cons (state : Option Partial) (byte : UInt8) (rest : Bytes) :
    partsFrom state (byte :: rest) = (step state byte).1 ++ partsFrom (step state byte).2 rest := by
  cases state <;> rfl

/-- What a byte does: the character before it may turn out to be invalid, and then the byte itself is invalid,
completes a character or brings one further. -/
theorem Standing.step {state : Option Partial} (standing : Standing state) (byte : UInt8) :
    ∃ (read : Bytes) (late : List Part) (result : List Part × Option Partial),
      Continues (read ++ [byte]) result ∧ step state byte = (late ++ result.1, result.2) ∧
        ∀ part ∈ late, part = none := by
  have small : byte.toNat < 256 := byte.toNat_lt
  have begins := continues_first small
  rw [UInt8.ofNat_toNat] at begins
  cases state with
  | none => exact ⟨[], [], _, begins, rfl, fun _ member => absurd member List.not_mem_nil⟩
  | some started =>
    rcases standing started rfl with ⟨read, begun⟩
    by_cases expected : started.low ≤ byte.toNat ∧ byte.toNat ≤ started.high
    · have continues := continues_extend begun small expected.1 expected.2
      rw [UInt8.ofNat_toNat] at continues
      refine ⟨read, [], _, continues, ?_, fun _ member => absurd member List.not_mem_nil⟩
      rw [Utf8.step, if_pos expected]
      rfl
    · refine ⟨[], [none], _, begins, ?_, fun _ member => List.mem_singleton.mp member⟩
      rw [Utf8.step, if_neg expected]
      rfl

theorem Standing.next {state : Option Partial} (standing : Standing state) (byte : UInt8) :
    Standing (Utf8.step state byte).2 := by
  rcases standing.step byte with ⟨read, late, result, continues, stepped, _⟩
  rw [stepped]
  cases continues with
  | invalid => exact standing_none
  | completes c written => exact standing_none
  | advances started begun =>
    intro other same
    cases same
    exact ⟨_, begun⟩

/-! ## Bytes below 0x80 -/

/-- Such a byte ends what has begun and is read as a character. -/
theorem Standing.step_ascii {state : Option Partial} (standing : Standing state) {byte : UInt8}
    (ascii : byte.toNat < 0x80) :
    Utf8.step state byte = (partsFrom state [] ++ [some (Char.ofNat byte.toNat)], none) := by
  have begins : first byte = ([some (Char.ofNat byte.toNat)], none) := by
    rw [first, if_pos ascii]
  cases state with
  | none => exact begins
  | some started =>
    rcases standing started rfl with ⟨read, begun⟩
    have low := begun.low_le
    have unexpected : ¬ (started.low ≤ byte.toNat ∧ byte.toNat ≤ started.high) := by omega
    rw [Utf8.step, if_neg unexpected, begins]
    rfl

/-- Bytes before such a byte are read as if nothing followed, and bytes after it as if nothing had been
before.  This holds in any state, since a character may have begun when the reader gets here. -/
theorem partsFrom_append_ascii {state : Option Partial} (standing : Standing state) (before : Bytes)
    {byte : UInt8} (ascii : byte.toNat < 0x80) (rest : Bytes) :
    partsFrom state (before ++ byte :: rest) =
      partsFrom state before ++ some (Char.ofNat byte.toNat) :: partsFrom none rest := by
  induction before generalizing state with
  | nil =>
    rw [List.nil_append, partsFrom_cons, standing.step_ascii ascii, List.append_assoc, List.singleton_append]
  | cons other before ih =>
    rw [List.cons_append, partsFrom_cons, partsFrom_cons, ih (standing.next other), List.append_assoc]

/-- Where such a character is read, it is written by one byte. -/
theorem Continues.eq_of_ascii {read : Bytes} {byte : UInt8} {result : List Part × Option Partial}
    (continues : Continues (read ++ [byte]) result) {c : Char} (ascii : c.toNat < 0x80)
    (member : some c ∈ result.1) : byte = UInt8.ofNat c.toNat := by
  cases continues with
  | invalid => cases List.mem_singleton.mp member
  | advances started begun => cases member
  | completes d written =>
    cases List.mem_singleton.mp member
    have short : String.utf8EncodeChar c = [UInt8.ofNat c.toNat] := by
      have small : c.val.toNat ≤ 0x7F := Nat.le_of_lt_succ ascii
      simp only [String.utf8EncodeChar, if_pos small]
      rfl
    rw [short] at written
    have last := congrArg List.getLast? written
    rw [List.getLast?_concat] at last
    exact (Option.some.inj last).symm

theorem mem_of_mem_partsFrom {state : Option Partial} (standing : Standing state) {bytes : Bytes} {c : Char}
    (ascii : c.toNat < 0x80) (member : some c ∈ partsFrom state bytes) : UInt8.ofNat c.toNat ∈ bytes := by
  induction bytes generalizing state with
  | nil => cases state <;> simp [partsFrom] at member
  | cons byte rest ih =>
    rw [partsFrom_cons, List.mem_append] at member
    rcases member with here | later
    · rcases standing.step byte with ⟨read, late, result, continues, stepped, invalid⟩
      rw [stepped, List.mem_append] at here
      rcases here with isLate | isRead
      · cases invalid _ isLate
      · rw [continues.eq_of_ascii ascii isRead]
        exact List.mem_cons_self
    · exact List.mem_cons_of_mem byte (ih (standing.next byte) later)

/-- Bytes are never passed over without a trace: what has begun is completed later or found to be invalid. -/
theorem partsFrom_ne_nil {state : Option Partial} (standing : Standing state) {bytes : Bytes}
    (something : state ≠ none ∨ bytes ≠ []) : partsFrom state bytes ≠ [] := by
  induction bytes generalizing state with
  | nil =>
    cases state with
    | none => simp at something
    | some started => exact List.cons_ne_nil _ _
  | cons byte rest ih =>
    rw [partsFrom_cons]
    rcases standing.step byte with ⟨read, late, result, continues, stepped, _⟩
    cases continues with
    | invalid => simp [stepped]
    | completes c written => simp [stepped]
    | advances started begun =>
      apply List.append_ne_nil_of_right_ne_nil
      exact ih (standing.next byte) (Or.inl (by simp [stepped]))

/-! ## Reading bytes with what is invalid in them -/

theorem decodeLossy_append_ascii (before : Bytes) {byte : UInt8} (ascii : byte.toNat < 0x80) (rest : Bytes) :
    decodeLossy (before ++ byte :: rest) =
      decodeLossy before ++ Char.ofNat byte.toNat :: decodeLossy rest := by
  rw [decodeLossy, parts, partsFrom_append_ascii standing_none before ascii, List.map_append, List.map_cons]
  rfl

theorem mem_of_mem_decodeLossy {bytes : Bytes} {c : Char} (ascii : c.toNat < 0x80)
    (member : c ∈ decodeLossy bytes) : UInt8.ofNat c.toNat ∈ bytes := by
  rcases List.mem_map.mp member with ⟨part, isPart, read⟩
  cases part with
  | none =>
    rw [← read] at ascii
    exact absurd ascii (by decide)
  | some d =>
    cases read
    exact mem_of_mem_partsFrom standing_none ascii isPart

theorem decodeLossy_ne_nil {bytes : Bytes} (nonempty : bytes ≠ []) : decodeLossy bytes ≠ [] := by
  rw [decodeLossy, ne_eq, List.map_eq_nil_iff]
  exact partsFrom_ne_nil standing_none (Or.inr nonempty)

/-- A last character of one byte is written by the last byte: where that byte stands last, nothing can come after
it. -/
theorem getLast?_of_decodeLossy {bytes : Bytes} {c : Char} (ascii : c.toNat < 0x80)
    (last : (decodeLossy bytes).getLast? = some c) : bytes.getLast? = some (UInt8.ofNat c.toNat) := by
  have member := mem_of_mem_decodeLossy ascii (List.mem_of_getLast? last)
  rw [← List.mem_reverse] at member
  rcases List.eq_append_cons_of_mem member with ⟨after, before, reversed, absent⟩
  rw [List.reverse_eq_iff, List.reverse_append, List.reverse_cons, List.append_assoc,
    List.singleton_append] at reversed
  cases after with
  | nil =>
    rw [reversed, List.reverse_nil, List.getLast?_concat]
  | cons other after =>
    have code : (UInt8.ofNat c.toNat).toNat < 0x80 := by
      rwa [UInt8.toNat_ofNat_of_lt' (show c.toNat < 256 by omega)]
    have more : decodeLossy (other :: after).reverse ≠ [] := by
      apply decodeLossy_ne_nil
      simp
    rw [reversed, decodeLossy_append_ascii _ code, List.getLast?_append, List.getLast?_cons,
      List.getLast?_eq_some_getLast more, Option.getD_some, Option.some_or, Option.some.injEq] at last
    have later := mem_of_mem_decodeLossy ascii (last ▸ List.getLast_mem more)
    exact absurd (List.mem_reverse.mp later) absent

theorem decodeLossy_withoutFinal_carriageReturn (piece : Bytes) :
    decodeLossy (withoutFinal Bytes.carriageReturn piece) = withoutFinal '\r' (decodeLossy piece) := by
  by_cases ends : piece.getLast? = some Bytes.carriageReturn
  · rcases List.getLast?_eq_some_iff.mp ends with ⟨before, rfl⟩
    have read : decodeLossy (before ++ [Bytes.carriageReturn]) = decodeLossy before ++ ['\r'] :=
      decodeLossy_append_ascii before (by decide) []
    rw [withoutFinal_concat, read, withoutFinal_concat]
  · have endsToo : (decodeLossy piece).getLast? ≠ some '\r' := fun last =>
      ends (getLast?_of_decodeLossy (by decide) last)
    rw [withoutFinal_of_ne ends, withoutFinal_of_ne endsToo]

end Utf8

/-! ## Lines -/

theorem Text.lines_append_lineFeed {line : Text} (noFeed : '\n' ∉ line) (rest : Text) :
    lines (line ++ '\n' :: rest) = withoutFinal '\r' line :: lines rest := by
  by_cases ends : line.getLast? = some '\r'
  · rcases List.getLast?_eq_some_iff.mp ends with ⟨before, rfl⟩
    have noFeedBefore : '\n' ∉ before := fun member => noFeed (List.mem_append_left _ member)
    have ended : lines ('\r' :: '\n' :: rest) = [] :: lines rest := rfl
    have apart : before.getLast? = some '\r' → ('\r' :: '\n' :: rest).head? ≠ some '\n' :=
      fun _ isFeed => absurd (Option.some.inj isFeed) (by decide)
    rw [withoutFinal_concat, List.append_assoc, List.singleton_append, lines_append noFeedBefore apart ended,
      List.append_nil]
  · have ended : lines ('\n' :: rest) = [] :: lines rest := rfl
    rw [withoutFinal_of_ne ends, lines_append noFeed (fun isReturn => absurd isReturn ends) ended,
      List.append_nil]

/-- The lines of what is read are the lines of the bytes, each read on its own.  Both sides find the first line
feed at the same place, and what follows it is shorter. -/
theorem Utf8.lines_decodeLossy (bytes : Bytes) :
    (decodeLossy bytes).lines = (Bytes.lines bytes).map decodeLossy := by
  have unread (piece : Bytes) (noFeed : Bytes.lineFeed ∉ piece) : '\n' ∉ decodeLossy piece := fun member =>
    noFeed (mem_of_mem_decodeLossy (by decide) member)
  by_cases feed : Bytes.lineFeed ∈ bytes
  · rcases List.eq_append_cons_of_mem feed with ⟨piece, rest, cut, noFeed⟩
    have shorter : rest.length < bytes.length := by
      rw [cut, List.length_append, List.length_cons]
      omega
    have later := lines_decodeLossy rest
    have read : decodeLossy (piece ++ Bytes.lineFeed :: rest) = decodeLossy piece ++ '\n' :: decodeLossy rest :=
      decodeLossy_append_ascii piece (by decide) rest
    rw [cut, read, Text.lines_append_lineFeed (unread piece noFeed), Bytes.lines_append_lineFeed noFeed,
      List.map_cons, decodeLossy_withoutFinal_carriageReturn, later]
  · by_cases nonempty : bytes = []
    · subst nonempty
      rfl
    · rw [Text.lines_of_lineFeed_not_mem (unread bytes feed) (decodeLossy_ne_nil nonempty),
        Bytes.lines_of_lineFeed_not_mem feed nonempty]
      rfl
termination_by bytes.length

end Marginalia
