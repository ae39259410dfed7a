import Mathlib.Data.List.DropRight
import Mathlib.Data.List.Induction

namespace StellarConduit.Data.Text

/-! Texts that are read by lines, and lines that are read by words. -/

variable {lines : List (List Char)} {text first second : List Char}

/-- Every line is ended by a line feed. -/
def unlines (lines : List (List Char)) : List Char :=
  lines.flatMap fun line => line ++ ['\n']

/-- The lines of a text that ends with a line feed. -/
def toLines (text : List Char) : List (List Char) :=
  (text.splitOn '\n').dropLast

theorem splitOn_unlines (single : ∀ line ∈ lines, '\n' ∉ line) :
    (unlines lines).splitOn '\n' = lines ++ [[]] := by
  induction lines with
  | nil => rfl
  | cons line rest induction =>
      have others := induction fun other member =>
        single other (List.mem_cons_of_mem _ member)
      have split : unlines (line :: rest) = line ++ '\n' :: unlines rest := by
        simp [unlines]
      rw [split, List.splitOn_append_cons_self_of_not_mem
        (single line List.mem_cons_self), others, List.cons_append]

theorem toLines_unlines (single : ∀ line ∈ lines, '\n' ∉ line) :
    toLines (unlines lines) = lines := by
  rw [toLines, splitOn_unlines single, List.dropLast_concat]

def joinLines (lines : List String) : String :=
  String.ofList (unlines (lines.map String.toList))

theorem joinLines_injective {lines others : List String}
    (single : ∀ line ∈ lines, '\n' ∉ line.toList)
    (singleToo : ∀ line ∈ others, '\n' ∉ line.toList)
    (same : joinLines lines = joinLines others) : lines = others := by
  have texts := congrArg toLines (String.ofList_injective same)
  rw [toLines_unlines (by simpa using single),
    toLines_unlines (by simpa using singleToo)] at texts
  exact List.map_injective_iff.mpr (fun _ _ => String.toList_inj.mp) texts

/-- The first line feed of a text ends its first line. -/
theorem eq_of_first_line {rest other : List Char} (single : '\n' ∉ first)
    (singleToo : '\n' ∉ second)
    (same : first ++ '\n' :: rest = second ++ '\n' :: other) :
    first = second ∧ rest = other := by
  have split := congrArg (List.splitOn '\n') same
  rw [List.splitOn_append_cons_self_of_not_mem single,
    List.splitOn_append_cons_self_of_not_mem singleToo] at split
  obtain rfl := (List.cons.inj split).1
  exact ⟨rfl, (List.cons.inj (List.append_cancel_left same)).2⟩

/-- The characters of the `White_Space` property. -/
def isWhitespace (c : Char) : Bool :=
  (9 ≤ c.toNat && c.toNat ≤ 13) || c.toNat == 32 || c.toNat == 0x85 ||
    c.toNat == 0xa0 || c.toNat == 0x1680 ||
    (0x2000 ≤ c.toNat && c.toNat ≤ 0x200a) || c.toNat == 0x2028 ||
    c.toNat == 0x2029 || c.toNat == 0x202f || c.toNat == 0x205f ||
    c.toNat == 0x3000

def Blank (text : List Char) : Prop := ∀ c ∈ text, isWhitespace c = true

structure Word (text : List Char) : Prop where
  nonempty : text ≠ []
  solid : ∀ c ∈ text, isWhitespace c = false

instance (text : List Char) : Decidable (Word text) :=
  decidable_of_iff (text ≠ [] ∧ text.any isWhitespace = false)
    ⟨fun both => ⟨both.1, by simpa using both.2⟩,
      fun word => ⟨word.nonempty, by simpa using word.solid⟩⟩

theorem Word.no_newline (word : Word text) : '\n' ∉ text := by
  intro member
  have solid := word.solid '\n' member
  cases solid

theorem blank_replicate (n : Nat) : Blank (List.replicate n ' ') := by
  intro c member
  rw [List.eq_of_mem_replicate member]
  rfl

/-- `str::split_whitespace` -/
def words (text : List Char) : List (List Char) :=
  (text.splitOnP isWhitespace).filter (· ≠ [])

@[simp] theorem words_nil : words [] = [] := rfl

theorem words_append_cons {c : Char} (blank : isWhitespace c = true) :
    words (first ++ c :: second) = words first ++ words second := by
  rw [words, List.splitOnP_append_cons _ _ blank, List.filter_append]
  rfl

theorem Word.words (word : Word text) : words text = [text] := by
  rw [Text.words, List.splitOnP_eq_singleton word.solid]
  simp [word.nonempty]

theorem Blank.words (blank : Blank text) : words text = [] := by
  induction text with
  | nil => rfl
  | cons c rest induction =>
      rw [← List.nil_append (c :: rest),
        words_append_cons (blank c List.mem_cons_self),
        induction fun d member => blank d (List.mem_cons_of_mem _ member)]
      rfl

theorem Blank.words_append (blank : Blank first) :
    Text.words (first ++ second) = Text.words second := by
  induction first with
  | nil => rfl
  | cons c rest induction =>
      have front : c :: rest ++ second = [] ++ c :: (rest ++ second) := rfl
      rw [front, words_append_cons (blank c List.mem_cons_self), words_nil,
        List.nil_append]
      exact induction fun d member => blank d (List.mem_cons_of_mem _ member)

/-- A gap between two texts keeps their words apart. -/
theorem words_append_gap {gap : List Char} (blank : Blank gap)
    (wide : gap ≠ []) :
    words (first ++ (gap ++ second)) = words first ++ words second := by
  obtain ⟨c, rest, rfl⟩ := List.exists_cons_of_ne_nil wide
  have behind : Blank rest := fun d member =>
    blank d (List.mem_cons_of_mem _ member)
  rw [List.cons_append, words_append_cons (blank c List.mem_cons_self),
    behind.words_append]

theorem words_append_blank {gap : List Char} (blank : Blank gap) :
    words (first ++ gap) = words first := by
  cases gap with
  | nil => rw [List.append_nil]
  | cons c rest =>
      have apart := @words_append_gap first [] _ blank (List.cons_ne_nil c rest)
      rwa [List.append_nil, words_nil, List.append_nil] at apart

theorem words_intercalate {gap : List Char} (blank : Blank gap)
    (wide : gap ≠ []) (pieces : List (List Char)) :
    words (gap.intercalate pieces) = pieces.flatMap words := by
  induction pieces with
  | nil => rfl
  | cons piece rest induction =>
      cases rest with
      | nil => simp
      | cons next rest =>
          rw [List.intercalate_cons_cons, List.append_assoc,
            words_append_gap blank wide, induction]
          rfl

theorem mem_intercalate {c : Char} {gap : List Char}
    {pieces : List (List Char)} (member : c ∈ gap.intercalate pieces) :
    c ∈ gap ∨ ∃ piece ∈ pieces, c ∈ piece := by
  induction pieces with
  | nil => cases member
  | cons piece rest induction =>
      cases rest with
      | nil =>
          rw [List.intercalate_singleton] at member
          exact Or.inr ⟨piece, List.mem_cons_self, member⟩
      | cons next rest =>
          rw [List.intercalate_cons_cons] at member
          rcases List.mem_append.mp member with front | behind
          · rcases List.mem_append.mp front with inside | between
            · exact Or.inr ⟨piece, List.mem_cons_self, inside⟩
            · exact Or.inl between
          · rcases induction behind with between | ⟨other, among, inside⟩
            · exact Or.inl between
            · exact Or.inr ⟨other, List.mem_cons_of_mem _ among, inside⟩

/-! Parts of a line. -/

/-- `part` stands in the line from `column` on. -/
def Starts (line : List Char) (column : Nat) (part : List Char) : Prop :=
  ∃ before after, line = before ++ part ++ after ∧ before.length = column

theorem Starts.behind {line part : List Char} {column : Nat}
    (starts : Starts line column part) (front : List Char) :
    Starts (front ++ line) (front.length + column) part := by
  obtain ⟨before, after, rfl, rfl⟩ := starts
  exact ⟨front ++ before, after, by simp, by simp⟩

/-! Cells of a width. -/

/-- `{:width$}` -/
def padEnd (width : Nat) (text : List Char) : List Char :=
  text ++ List.replicate (width - text.length) ' '

/-- No text has more characters than bytes. -/
theorem length_le_bytes (text : List Char) :
    text.length ≤ (String.ofList text).utf8ByteSize := by
  induction text with
  | nil => exact Nat.zero_le _
  | cons c rest induction =>
      have split : String.ofList (c :: rest) =
          String.singleton c ++ String.ofList rest := by
        simp
      rw [split, String.utf8ByteSize_append, String.utf8ByteSize_singleton,
        List.length_cons]
      have positive := c.utf8Size_pos
      omega

/-- `str::trim_end` -/
def trimEnd (text : List Char) : List Char := text.rdropWhile isWhitespace

theorem words_padEnd (width : Nat) (text : List Char) :
    words (padEnd width text) = words text :=
  words_append_blank (blank_replicate _)

theorem length_padEnd {width : Nat} (fits : text.length ≤ width) :
    (padEnd width text).length = width := by
  rw [padEnd, List.length_append, List.length_replicate]
  omega

theorem exists_trimmed (text : List Char) :
    ∃ gap, Blank gap ∧ text = trimEnd text ++ gap :=
  ⟨text.rtakeWhile isWhitespace, fun _ member => List.mem_rtakeWhile_imp member,
    List.rdropWhile_append_rtakeWhile.symm⟩

@[simp] theorem words_trimEnd (text : List Char) :
    words (trimEnd text) = words text := by
  obtain ⟨gap, blank, split⟩ := exists_trimmed text
  conv_rhs => rw [split]
  rw [words_append_blank blank]

/-- A trim leaves a word where it is. -/
theorem Starts.trimEnd {line word : List Char} {column : Nat}
    (starts : Starts line column word) (isWord : Word word) :
    Starts (trimEnd line) column word := by
  obtain ⟨before, after, rfl, rfl⟩ := starts
  suffices kept : ∃ rest,
      Text.trimEnd (before ++ word ++ after) = before ++ word ++ rest by
    obtain ⟨rest, kept⟩ := kept
    exact ⟨before, rest, kept, rfl⟩
  obtain ⟨gap, blank, split⟩ := exists_trimmed (before ++ word ++ after)
  rcases List.append_eq_append_iff.mp split with
    ⟨rest, trimmed, _⟩ | ⟨rest, cut, tail⟩
  · exact ⟨rest, trimmed⟩
  · refine ⟨[], ?_⟩
    rw [List.append_nil]
    cases rest using List.reverseRecOn with
    | nil =>
        rw [List.append_nil] at cut
        exact cut.symm
    | append_singleton front last =>
        -- the last character of the word would be a blank
        obtain ⟨init, final, rfl⟩ :=
          (List.eq_nil_or_concat' word).resolve_left isWord.nonempty
        rw [← List.append_assoc before, ← List.append_assoc _ front] at cut
        obtain rfl := List.singleton_inj.mp (List.append_inj' cut rfl).2
        have solid := isWord.solid final (by simp)
        rw [blank final (by simp [tail])] at solid
        cases solid

/-! Numbers. -/

theorem not_isWhitespace_of_isDigit {c : Char} (digit : c.isDigit = true) :
    isWhitespace c = false := by
  have bounds : 48 ≤ c.toNat ∧ c.toNat ≤ 57 := Char.isDigit_iff_toNat.mp digit
  simp only [isWhitespace, Bool.or_eq_false_iff, Bool.and_eq_false_iff,
    decide_eq_false_iff_not, beq_eq_false_iff_ne]
  omega

theorem isDigit_of_mem_repr {n : Nat} {c : Char} (member : c ∈ n.repr.toList) :
    c.isDigit = true := by
  rw [Nat.toList_repr] at member
  exact Nat.isDigit_of_mem_toDigits (by decide) (by decide) member

theorem word_natRepr (n : Nat) : Word n.repr.toList where
  nonempty := by
    rw [Nat.toList_repr]
    exact Nat.toDigits_ne_nil
  solid _ member := not_isWhitespace_of_isDigit (isDigit_of_mem_repr member)

theorem natRepr_injective {m n : Nat} (same : m.repr = n.repr) : m = n := by
  have digits := congrArg String.toList same
  rw [Nat.toList_repr, Nat.toList_repr] at digits
  rw [← @Nat.ofDigitChars_ten_toDigits m, digits,
    Nat.ofDigitChars_ten_toDigits]

/-- A number without a sign. -/
def readNat (text : List Char) : Option Nat :=
  if text ≠ [] ∧ text.all Char.isDigit then some (Nat.ofDigitChars 10 text 0)
  else none

theorem readNat_repr (n : Nat) : readNat n.repr.toList = some n := by
  have digits : n.repr.toList.all Char.isDigit = true :=
    List.all_eq_true.mpr fun _ => isDigit_of_mem_repr
  rw [readNat, if_pos ⟨(word_natRepr n).nonempty, digits⟩, Nat.toList_repr,
    Nat.ofDigitChars_ten_toDigits]

theorem toList_negative (n : Nat) :
    (Int.negSucc n).repr.toList = '-' :: n.succ.repr.toList := by
  rw [Int.repr, String.toList_append]
  rfl

theorem word_intRepr (value : Int) : Word value.repr.toList := by
  cases value with
  | ofNat n => exact word_natRepr n
  | negSucc n =>
      have word := word_natRepr n.succ
      rw [toList_negative]
      refine ⟨List.cons_ne_nil _ _, ?_⟩
      intro c member
      rcases List.mem_cons.mp member with rfl | behind
      · rfl
      · exact word.solid c behind

theorem natRepr_ne_negative (m n : Nat) :
    m.repr ≠ (Int.negSucc n).repr := by
  intro same
  have sign : '-' ∈ m.repr.toList := by
    rw [same, toList_negative]
    exact List.mem_cons_self
  cases isDigit_of_mem_repr sign

theorem intRepr_injective {first second : Int}
    (same : first.repr = second.repr) : first = second := by
  cases first with
  | ofNat m =>
      cases second with
      | ofNat n => rw [natRepr_injective same]
      | negSucc n => exact absurd same (natRepr_ne_negative m n)
  | negSucc m =>
      cases second with
      | ofNat n => exact absurd same.symm (natRepr_ne_negative n m)
      | negSucc n =>
          have texts := congrArg String.toList same
          rw [toList_negative, toList_negative] at texts
          have digits := String.toList_inj.mp (List.cons.inj texts).2
          rw [Nat.succ.inj (natRepr_injective digits)]

end StellarConduit.Data.Text
