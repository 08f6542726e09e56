import Mathlib.Data.Nat.Find
import JobShell.Proofs.Text.Encoding

/-!
# Lossy decoding

A text that is not valid UTF-8 is still decoded: where no character stands, the longest bytes
that begin some encoding are replaced together, or one byte if none do. `Lossy` tells this
without a decoder. The decoder reads one byte at a time and gives exactly that text.

The bytes of an encoding all have their highest bit set unless it is a single byte, so a line
feed is never part of a longer encoding. Cutting bytes at line feeds and decoding the pieces
is therefore the same as decoding them all and cutting the text.
-/

namespace JobShell.Text.Utf8

set_option autoImplicit false

/-! ## The decoder as a recursion from the front -/

def decodedFrom (pending : Option Unfinished) (bytes : List UInt8) : List Char :=
  (bytes.foldl Decoder.feed ⟨"", pending⟩).finish.toList

theorem decode_to_list (bytes : List UInt8) : (decode bytes).toList = decodedFrom none bytes :=
  rfl

namespace Decoder

theorem enter_text (text : String) (byte : UInt8) :
    enter ⟨text, none⟩ byte = ⟨text ++ (enter start byte).text, (enter start byte).pending⟩ := by
  unfold enter start
  split <;> simp

theorem feed_text (text : String) (pending : Option Unfinished) (byte : UInt8) :
    feed ⟨text, pending⟩ byte =
      ⟨text ++ (feed ⟨"", pending⟩ byte).text, (feed ⟨"", pending⟩ byte).pending⟩ := by
  cases pending with
  | none => exact enter_text text byte
  | some sequence =>
      simp only [feed]
      split
      · split <;> simp
      · rw [enter_text, enter_text ("".push replacement)]
        simp [← String.append_assoc]

theorem finish_text (text : String) (pending : Option Unfinished) (bytes : List UInt8) :
    (bytes.foldl feed ⟨text, pending⟩).finish.toList =
      text.toList ++ decodedFrom pending bytes := by
  induction bytes generalizing text pending with
  | nil => cases pending <;> simp [decodedFrom, finish]
  | cons byte bytes ih =>
      rw [decodedFrom, List.foldl_cons, List.foldl_cons, feed_text, ih, feed_text "", ih]
      simp

end Decoder

section

variable {sequence : Unfinished} {byte : UInt8}

theorem decoded_nothing : decodedFrom none [] = [] :=
  rfl

theorem decoded_cut_short (sequence : Unfinished) :
    decodedFrom (some sequence) [] = [replacement] := by
  simp [decodedFrom, Decoder.finish]

theorem decoded_whole {character : Char} (isWhole : lead byte = .whole character)
    (bytes : List UInt8) :
    decodedFrom none (byte :: bytes) = character :: decodedFrom none bytes := by
  have enters : Decoder.feed ⟨"", none⟩ byte = ⟨"".push character, none⟩ := by
    simp only [Decoder.feed, Decoder.enter, isWhole]
  rw [decodedFrom, List.foldl_cons, enters, Decoder.finish_text]
  simp

theorem decoded_invalid (invalid : lead byte = .invalid) (bytes : List UInt8) :
    decodedFrom none (byte :: bytes) = replacement :: decodedFrom none bytes := by
  have enters : Decoder.feed ⟨"", none⟩ byte = ⟨"".push replacement, none⟩ := by
    simp only [Decoder.feed, Decoder.enter, invalid]
  rw [decodedFrom, List.foldl_cons, enters, Decoder.finish_text]
  simp

theorem decoded_opens (opens : lead byte = .opens sequence) (bytes : List UInt8) :
    decodedFrom none (byte :: bytes) = decodedFrom (some sequence) bytes := by
  have enters : Decoder.feed ⟨"", none⟩ byte = ⟨"", some sequence⟩ := by
    simp only [Decoder.feed, Decoder.enter, opens]
  rw [decodedFrom, List.foldl_cons, enters]
  rfl

theorem decoded_last (fits : sequence.low ≤ byte ∧ byte ≤ sequence.high)
    (isLast : sequence.missing ≤ 1) (bytes : List UInt8) :
    decodedFrom (some sequence) (byte :: bytes) =
      Char.ofNat (sequence.behind byte).value :: decodedFrom none bytes := by
  have closes : Decoder.feed ⟨"", some sequence⟩ byte =
      ⟨"".push (Char.ofNat (sequence.behind byte).value), none⟩ := by
    simp only [Decoder.feed, if_pos fits, if_pos isLast, Unfinished.behind_value]
  rw [decodedFrom, List.foldl_cons, closes, Decoder.finish_text]
  simp

theorem decoded_more (fits : sequence.low ≤ byte ∧ byte ≤ sequence.high)
    (notLast : ¬ sequence.missing ≤ 1) (bytes : List UInt8) :
    decodedFrom (some sequence) (byte :: bytes) =
      decodedFrom (some (sequence.behind byte)) bytes := by
  have goesOn : Decoder.feed ⟨"", some sequence⟩ byte = ⟨"", some (sequence.behind byte)⟩ := by
    simp only [Decoder.feed, if_pos fits, if_neg notLast]
    rfl
  rw [decodedFrom, List.foldl_cons, goesOn]
  rfl

theorem decoded_broken (broken : ¬ (sequence.low ≤ byte ∧ byte ≤ sequence.high))
    (bytes : List UInt8) :
    decodedFrom (some sequence) (byte :: bytes) =
      replacement :: decodedFrom none (byte :: bytes) := by
  have closes : Decoder.feed ⟨"", some sequence⟩ byte =
      Decoder.feed ⟨"".push replacement, none⟩ byte := by
    simp only [Decoder.feed, if_neg broken]
  have whole := Decoder.finish_text ("".push replacement) none (byte :: bytes)
  rw [List.foldl_cons] at whole
  rw [decodedFrom, List.foldl_cons, closes, whole]
  simp

end

/-! ## What is decoded -/

/-- Some character has an encoding that begins with these bytes. -/
def Begins (part : List UInt8) : Prop :=
  ∃ character, part <+: String.utf8EncodeChar character

/-- The bytes in front of others that are replaced together because no character stands at
their beginning: as many as begin some encoding, or else one. -/
structure IsMaximalSubpart (part rest : List UInt8) : Prop where
  nonempty : part ≠ []
  illFormed : ∀ character, ¬ String.utf8EncodeChar character <+: part ++ rest
  initial : part.length = 1 ∨ Begins part
  longest : ∀ longer, longer <+: part ++ rest → Begins longer → longer.length ≤ part.length

/-- Bytes and their text, when each maximal ill-formed part becomes one replacement. -/
inductive Lossy : List UInt8 → List Char → Prop where
  | nothing : Lossy [] []
  | character {rest : List UInt8} {text : List Char} (character : Char) (later : Lossy rest text) :
      Lossy (String.utf8EncodeChar character ++ rest) (character :: text)
  | damaged {part rest : List UInt8} {text : List Char} (isPart : IsMaximalSubpart part rest)
      (later : Lossy rest text) : Lossy (part ++ rest) (replacement :: text)

theorem decoded_completes {sequence : Unfinished} {bytes : List UInt8} {character : Char}
    (completes : sequence.Completes bytes character) (rest : List UInt8) :
    decodedFrom (some sequence) (bytes ++ rest) = character :: decodedFrom none rest := by
  induction completes with
  | last fits isLast => exact decoded_last fits isLast rest
  | more fits notLast later ih => rw [List.cons_append, decoded_more fits notLast, ih]

theorem decoded_character (character : Char) (rest : List UInt8) :
    decodedFrom none (String.utf8EncodeChar character ++ rest) =
      character :: decodedFrom none rest := by
  have spelled := spells_encoding character
  generalize String.utf8EncodeChar character = bytes at spelled ⊢
  cases spelled with
  | whole isWhole => exact decoded_whole isWhole rest
  | opened opens completes =>
      rw [List.cons_append, decoded_opens opens, decoded_completes completes]

theorem exists_completes {missing : Nat} {sequence : Unfinished}
    (isOpen : sequence.low ≤ sequence.high) (left : sequence.missing ≤ missing) :
    ∃ bytes character, sequence.Completes bytes character := by
  induction missing generalizing sequence with
  | zero =>
      exact ⟨_, _, .last ⟨UInt8.le_refl sequence.low, isOpen⟩ (Nat.le_trans left (Nat.zero_le 1))⟩
  | succ missing ih =>
      by_cases isLast : sequence.missing ≤ 1
      · exact ⟨_, _, .last ⟨UInt8.le_refl sequence.low, isOpen⟩ isLast⟩
      · have fewer : (sequence.behind sequence.low).missing ≤ missing := by
          rw [Unfinished.behind_missing]
          omega
        obtain ⟨bytes, character, completes⟩ := ih (sequence.behind_is_open _) fewer
        exact ⟨_, _, .more ⟨UInt8.le_refl sequence.low, isOpen⟩ isLast completes⟩

theorem decoded_breaks_off {sequence : Unfinished} {part rest : List UInt8}
    (isOpen : sequence.low ≤ sequence.high)
    (begins : ∃ more character, more ≠ [] ∧ sequence.Completes (part ++ more) character)
    (breaks : ∀ byte more, [byte] <+: rest →
      ∀ character, ¬ sequence.Completes (part ++ byte :: more) character) :
    decodedFrom (some sequence) (part ++ rest) = replacement :: decodedFrom none rest := by
  -- The sequence that is open goes on with each byte of the part, and breaks at the byte behind
  -- it.
  induction part generalizing sequence with
  | nil =>
      cases rest with
      | nil => exact decoded_cut_short sequence
      | cons byte rest =>
          refine decoded_broken (fun fits => ?_) rest
          by_cases isLast : sequence.missing ≤ 1
          · exact breaks byte [] (by simp) _ (.last fits isLast)
          · obtain ⟨bytes, character, completes⟩ :=
              exists_completes (sequence.behind_is_open byte) (Nat.le_refl _)
            exact breaks byte bytes (by simp) character (.more fits isLast completes)
  | cons byte part ih =>
      obtain ⟨more, character, nonempty, completes⟩ := begins
      rw [List.cons_append] at completes ⊢
      generalize whole : part ++ more = bytes at completes
      cases completes with
      | last fits isLast =>
          exact absurd (List.append_eq_nil_iff.mp whole).2 nonempty
      | more fits notLast later =>
          subst whole
          rw [decoded_more fits notLast]
          refine ih (sequence.behind_is_open byte) ⟨more, character, nonempty, later⟩ ?_
          intro next others isNext character completes
          exact breaks next others isNext character (.more fits notLast completes)

theorem completed_of_maximal_subpart {byte : UInt8} {part rest : List UInt8}
    (isPart : IsMaximalSubpart (byte :: part) rest) :
    part = [] ∨ ∃ more character sequence, more ≠ [] ∧ lead byte = .opens sequence ∧
      sequence.Completes (part ++ more) character := by
  rcases isPart.initial with one | ⟨character, more, encodes⟩
  · exact .inl (by simpa using one)
  · rcases spells_cons (spells_iff.mpr encodes.symm) with ⟨_, empty⟩ | ⟨sequence, opens, completes⟩
    · exact .inl (List.append_eq_nil_iff.mp empty).1
    · refine .inr ⟨more, character, sequence, ?_, opens, completes⟩
      rintro rfl
      refine isPart.illFormed character ?_
      rw [← encodes, List.append_nil]
      exact List.prefix_append _ _

theorem decoded_damaged {part rest : List UInt8} (isPart : IsMaximalSubpart part rest) :
    decodedFrom none (part ++ rest) = replacement :: decodedFrom none rest := by
  cases part with
  | nil => exact absurd rfl isPart.nonempty
  | cons byte part =>
      have completed := completed_of_maximal_subpart isPart
      cases kind : lead byte with
      | whole character =>
          refine absurd ?_ (isPart.illFormed character)
          rw [spells_iff.mp (.whole kind)]
          simp
      | invalid =>
          rcases completed with rfl | ⟨_, _, sequence, _, opens, _⟩
          · exact decoded_invalid kind rest
          · rw [kind] at opens
            cases opens
      | opens sequence =>
          rw [List.cons_append, decoded_opens kind]
          refine decoded_breaks_off (lead_is_open kind).2 ?_ ?_
          · rcases completed with rfl | ⟨more, character, other, incomplete, opens, completes⟩
            · obtain ⟨bytes, character, completes⟩ :=
                exists_completes (lead_is_open kind).2 (Nat.le_refl _)
              refine ⟨bytes, character, ?_, completes⟩
              rintro rfl
              cases completes
            · rw [kind, Lead.opens.injEq] at opens
              subst opens
              exact ⟨more, character, incomplete, completes⟩
          · intro next more isNext character completes
            have encodes := spells_iff.mp (.opened kind completes)
            have within := isPart.longest (byte :: part ++ [next])
              ((List.prefix_append_right_inj _).mpr isNext) ⟨character, more, by simp [encodes]⟩
            rw [List.length_append, List.length_singleton] at within
            omega

theorem decoded_of_lossy {bytes : List UInt8} {text : List Char} (lossy : Lossy bytes text) :
    decodedFrom none bytes = text := by
  induction lossy with
  | nothing => exact decoded_nothing
  | character character later ih => rw [decoded_character, ih]
  | damaged isPart later ih => rw [decoded_damaged isPart, ih]

def IsPartLength (bytes : List UInt8) (length : Nat) : Prop :=
  length = 1 ∨ Begins (bytes.take length)

theorem exists_maximal_subpart {bytes : List UInt8} (nonempty : bytes ≠ [])
    (illFormed : ∀ character, ¬ String.utf8EncodeChar character <+: bytes) :
    ∃ part rest, bytes = part ++ rest ∧ IsMaximalSubpart part rest := by
  classical
  obtain ⟨length, isLength⟩ :
      ∃ length, length = Nat.findGreatest (IsPartLength bytes) bytes.length := ⟨_, rfl⟩
  have one : 1 ≤ bytes.length := List.length_pos_iff.mpr nonempty
  have atLeast : 1 ≤ length := isLength ▸ Nat.le_findGreatest one (.inl rfl)
  have atMost : length ≤ bytes.length := isLength ▸ Nat.findGreatest_le bytes.length
  have initial : IsPartLength bytes length := isLength ▸ Nat.findGreatest_spec one (.inl rfl)
  have taken : (bytes.take length).length = length := List.length_take_of_le atMost
  refine ⟨bytes.take length, bytes.drop length, (List.take_append_drop _ _).symm, ?_⟩
  constructor
  · intro empty
    rw [empty, List.length_nil] at taken
    omega
  · rwa [List.take_append_drop]
  · rwa [taken]
  · intro longer isPrefix begins
    rw [List.take_append_drop] at isPrefix
    rw [taken, isLength]
    rw [List.prefix_iff_eq_take.mp isPrefix] at begins
    exact Nat.le_findGreatest isPrefix.length_le (.inr begins)

theorem exists_lossy (bytes : List UInt8) : ∃ text, Lossy bytes text := by
  induction count : bytes.length using Nat.strong_induction_on generalizing bytes with
  | _ count ih =>
      subst count
      by_cases empty : bytes = []
      · subst empty
        exact ⟨[], .nothing⟩
      by_cases wellFormed : ∃ character, String.utf8EncodeChar character <+: bytes
      · obtain ⟨character, rest, rfl⟩ := wellFormed
        have shorter : rest.length < (String.utf8EncodeChar character ++ rest).length := by
          have nonempty := List.length_pos_iff.mpr (String.utf8EncodeChar_ne_nil (c := character))
          rw [List.length_append]
          omega
        obtain ⟨text, lossy⟩ := ih _ shorter rest rfl
        exact ⟨_, .character character lossy⟩
      · obtain ⟨part, rest, rfl, isPart⟩ := exists_maximal_subpart empty (by simpa using wellFormed)
        have shorter : rest.length < (part ++ rest).length := by
          have nonempty := List.length_pos_iff.mpr isPart.nonempty
          rw [List.length_append]
          omega
        obtain ⟨text, lossy⟩ := ih _ shorter rest rfl
        exact ⟨_, .damaged isPart lossy⟩

/-- The decoder gives the text of the bytes, and there is no other. -/
theorem lossy_iff {bytes : List UInt8} {text : List Char} :
    Lossy bytes text ↔ (decode bytes).toList = text := by
  rw [decode_to_list]
  constructor
  · exact decoded_of_lossy
  · rintro rfl
    obtain ⟨text, lossy⟩ := exists_lossy bytes
    rwa [decoded_of_lossy lossy]

/-! ## Cutting at line feeds -/

theorem line_feed_encoding : String.utf8EncodeChar '\n' = [10] := by
  decide

theorem completes_high {sequence : Unfinished} {bytes : List UInt8} {character : Char}
    (completes : sequence.Completes bytes character) (high : 0x80 ≤ sequence.low.toNat) :
    ∀ byte ∈ bytes, 0x80 ≤ byte.toNat := by
  induction completes with
  | last fits isLast =>
      intro byte member
      rw [List.mem_singleton.mp member]
      exact Nat.le_trans high (UInt8.le_iff_toNat_le.mp fits.1)
  | more fits notLast later ih =>
      refine List.forall_mem_cons.mpr ⟨Nat.le_trans high (UInt8.le_iff_toNat_le.mp fits.1), ?_⟩
      exact ih (by simp [Unfinished.behind_low])

theorem line_feed_of_mem {character : Char} (member : 10 ∈ String.utf8EncodeChar character) :
    character = '\n' := by
  have spelled := spells_encoding character
  generalize String.utf8EncodeChar character = bytes at spelled member
  cases spelled with
  | whole isWhole =>
      rw [← List.mem_singleton.mp member] at isWhole
      cases isWhole
      rfl
  | opened opens completes =>
      rcases List.mem_cons.mp member with rfl | isLater
      · cases opens
      · have high := completes_high completes (lead_is_open opens).1 10 isLater
        exact absurd high (by decide)

theorem line_feed_alone {part : List UInt8} {character : Char} (member : 10 ∈ part)
    (begins : part <+: String.utf8EncodeChar character) : part = [10] := by
  rw [line_feed_of_mem (begins.subset member), line_feed_encoding] at begins
  rcases List.prefix_cons_iff.mp begins with rfl | ⟨more, rfl, none⟩
  · cases member
  · rw [List.prefix_nil.mp none]

theorem line_feed_mem_iff {character : Char} :
    10 ∈ String.utf8EncodeChar character ↔ character = '\n' := by
  refine ⟨line_feed_of_mem, ?_⟩
  rintro rfl
  decide

section

variable {part rest front behind bytes : List UInt8} {text lines : List Char}

theorem IsMaximalSubpart.no_line_feed (isPart : IsMaximalSubpart part rest) : 10 ∉ part := by
  intro member
  have single : part = [10] := by
    rcases isPart.initial with one | ⟨character, begins⟩
    · obtain ⟨byte, rfl⟩ := List.length_eq_one_iff.mp one
      rw [List.mem_singleton.mp member]
    · exact line_feed_alone member begins
  refine isPart.illFormed '\n' ?_
  rw [line_feed_encoding, single]
  exact List.prefix_append _ _

theorem prefix_before_line_feed {initial : List UInt8}
    (isPrefix : initial <+: front ++ 10 :: behind) (noFeed : 10 ∉ initial) : initial <+: front := by
  rcases List.prefix_or_prefix_of_prefix isPrefix (List.prefix_append front (10 :: behind)) with
    within | ⟨more, rfl⟩
  · exact within
  · cases more with
    | nil => simp
    | cons byte more =>
        have same := (List.prefix_append_right_inj front).mp isPrefix
        obtain ⟨rfl, _⟩ := List.cons_prefix_cons.mp same
        simp at noFeed

/-- What is replaced does not depend on what stands behind the end of the line. -/
theorem IsMaximalSubpart.in_line (isPart : IsMaximalSubpart part rest) (behind : List UInt8) :
    IsMaximalSubpart part (rest ++ 10 :: behind) := by
  -- An encoding that reaches the line feed is the line feed, where the part stands.
  have reaches {longer : List UInt8} {character : Char}
      (isPrefix : longer <+: part ++ (rest ++ 10 :: behind))
      (begins : longer <+: String.utf8EncodeChar character) : 10 ∉ longer := by
    intro member
    rw [line_feed_alone member begins] at isPrefix
    cases part with
    | nil => exact isPart.nonempty rfl
    | cons byte part =>
        obtain ⟨rfl, _⟩ := List.cons_prefix_cons.mp isPrefix
        exact isPart.no_line_feed List.mem_cons_self
  constructor
  · exact isPart.nonempty
  · intro character isPrefix
    have noFeed := reaches isPrefix List.prefix_rfl
    rw [← List.append_assoc] at isPrefix
    exact isPart.illFormed character (prefix_before_line_feed isPrefix noFeed)
  · exact isPart.initial
  · rintro longer isPrefix ⟨character, begins⟩
    have noFeed := reaches isPrefix begins
    rw [← List.append_assoc] at isPrefix
    exact isPart.longest longer (prefix_before_line_feed isPrefix noFeed) ⟨character, begins⟩

theorem Lossy.line (first : Lossy front text) (later : Lossy behind lines) :
    Lossy (front ++ 10 :: behind) (text ++ '\n' :: lines) := by
  induction first with
  | nothing =>
      have feed := Lossy.character '\n' later
      rw [line_feed_encoding] at feed
      exact feed
  | character character _ ih =>
      rw [List.append_assoc]
      exact .character character ih
  | damaged isPart _ ih =>
      rw [List.append_assoc]
      exact .damaged (isPart.in_line behind) ih

theorem Lossy.line_feed_mem_iff (lossy : Lossy bytes text) : '\n' ∈ text ↔ 10 ∈ bytes := by
  induction lossy with
  | nothing => simp
  | character character later ih =>
      rw [List.mem_cons, List.mem_append, ih, Utf8.line_feed_mem_iff, eq_comm]
  | damaged isPart later ih =>
      have different : '\n' ≠ replacement := by decide
      rw [List.mem_cons, List.mem_append, ih]
      simp [different, isPart.no_line_feed]

theorem decode_line (front behind : List UInt8) :
    (decode (front ++ 10 :: behind)).toList =
      (decode front).toList ++ '\n' :: (decode behind).toList :=
  lossy_iff.mp ((lossy_iff.mpr rfl).line (lossy_iff.mpr rfl))

theorem line_feed_in_decoded_iff : '\n' ∈ (decode bytes).toList ↔ 10 ∈ bytes :=
  (lossy_iff.mpr rfl).line_feed_mem_iff

end

theorem split_on_of_not_mem {α : Type} [DecidableEq α] {separator : α} {elements : List α}
    (absent : separator ∉ elements) : elements.splitOn separator = [elements] := by
  refine List.splitOnP_eq_singleton fun element member => ?_
  exact beq_eq_false_iff_ne.mpr fun same => absent (same ▸ member)

theorem split_on_cons {α : Type} [DecidableEq α] {separator : α} {front : List α}
    (isFirst : separator ∉ front) (behind : List α) :
    (front ++ separator :: behind).splitOn separator = front :: behind.splitOn separator := by
  have cut := List.splitOnP_append_cons front behind (p := (· == separator))
    (beq_self_eq_true separator)
  have whole : front.splitOnP (· == separator) = [front] := split_on_of_not_mem isFirst
  rw [whole] at cut
  exact cut

theorem decoded_lines (bytes : List UInt8) :
    (decode bytes).toList.splitOn '\n' =
      (bytes.splitOn 10).map fun line => (decode line).toList := by
  induction count : bytes.length using Nat.strong_induction_on generalizing bytes with
  | _ count ih =>
      subst count
      by_cases found : 10 ∈ bytes
      · obtain ⟨front, behind, rfl, isFirst⟩ := List.eq_append_cons_of_mem found
        have isFirstDecoded : '\n' ∉ (decode front).toList := by
          rwa [line_feed_in_decoded_iff]
        rw [decode_line, split_on_cons isFirstDecoded, split_on_cons isFirst, List.map_cons,
          ih behind.length (by simp; omega) behind rfl]
      · have notDecoded : '\n' ∉ (decode bytes).toList := by
          rwa [line_feed_in_decoded_iff]
        rw [split_on_of_not_mem notDecoded, split_on_of_not_mem found]
        rfl

end JobShell.Text.Utf8
