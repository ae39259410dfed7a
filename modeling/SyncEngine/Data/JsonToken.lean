import Mathlib.Data.List.TakeWhile
import SyncEngine.Data.Json

namespace StellarConduit.Data.Json

/-! What the parts of the reader do. -/

/-- The rest does not go on with such a character. -/
def Ends (kind : Char → Bool) (rest : List Char) : Prop :=
  ∀ c ∈ rest.head?, kind c = false

section Spans

variable {kind : Char → Bool} {symbols rest : List Char}

theorem ends_nil (kind : Char → Bool) : Ends kind [] := by
  intro c member
  cases member

theorem ends_cons {c : Char} (other : kind c = false) :
    Ends kind (c :: rest) := by
  intro first member
  obtain rfl := Option.some.inj member
  exact other

theorem ends_dropWhile (kind : Char → Bool) (input : List Char) :
    Ends kind (input.dropWhile kind) := by
  induction input with
  | nil => exact ends_nil kind
  | cons c input induction =>
      rw [List.dropWhile_cons]
      split
      · exact induction
      · rename_i other
        exact ends_cons (Bool.eq_false_iff.mpr other)

theorem dropWhile_of_ends (ends : Ends kind rest) :
    rest.dropWhile kind = rest := by
  cases rest with
  | nil => rfl
  | cons c rest =>
      have other := ends c rfl
      rw [List.dropWhile_cons, other]
      rfl

theorem takeWhile_of_ends (ends : Ends kind rest) :
    rest.takeWhile kind = [] := by
  cases rest with
  | nil => rfl
  | cons c rest =>
      have other := ends c rfl
      rw [List.takeWhile_cons, other]
      rfl

theorem takeWhile_append_ends (all : ∀ c ∈ symbols, kind c = true)
    (ends : Ends kind rest) : (symbols ++ rest).takeWhile kind = symbols := by
  rw [List.takeWhile_append_of_pos all, takeWhile_of_ends ends,
    List.append_nil]

theorem dropWhile_append_ends (all : ∀ c ∈ symbols, kind c = true)
    (ends : Ends kind rest) : (symbols ++ rest).dropWhile kind = rest := by
  rw [List.dropWhile_append_of_pos all, dropWhile_of_ends ends]

end Spans

section Lexical

variable {input rest : List Char}

theorem expect_eq_some {symbol : Char} :
    expect symbol input = some rest ↔ input = symbol :: rest := by
  cases input with
  | nil => simp [expect]
  | cons c input =>
      rw [expect]
      split
      · rename_i same
        simp [same]
      · rename_i other
        simp [other]

theorem expect_cons_ne {symbol c : Char} (other : c ≠ symbol) :
    expect symbol (c :: rest) = none :=
  if_neg other

theorem expectWord_eq_some {word : List Char} :
    expectWord word input = some rest ↔ input = word ++ rest := by
  induction word generalizing input with
  | nil => simp [expectWord]
  | cons symbol word induction =>
      simp [expectWord, Option.bind_eq_some_iff, expect_eq_some, induction]

theorem spaced_skipSpace (input : List Char) :
    Spaced input (skipSpace input) := by
  refine ⟨input.takeWhile isSpace, ?_, List.takeWhile_append_dropWhile.symm⟩
  intro c member
  exact List.mem_takeWhile_imp member

theorem skipSpace_of_spaced (spaced : Spaced input rest)
    (ends : Ends isSpace rest) : skipSpace input = rest := by
  obtain ⟨space, all, rfl⟩ := spaced
  exact dropWhile_append_ends all ends

theorem Spaced.length_le (spaced : Spaced input rest) :
    rest.length ≤ input.length := by
  obtain ⟨space, -, rfl⟩ := spaced
  rw [List.length_append]
  exact Nat.le_add_left _ _

theorem readDigits_eq_some {symbols : List Char} :
    readDigits input = some (symbols, rest) ↔
      Digits symbols ∧ input = symbols ++ rest ∧
        Ends Char.isDigit rest := by
  simp only [readDigits]
  constructor
  · intro read
    split at read
    · cases read
    · rename_i nonempty
      obtain ⟨rfl, rfl⟩ := Prod.mk.inj (Option.some.inj read)
      refine ⟨⟨nonempty, fun c member => List.mem_takeWhile_imp member⟩,
        List.takeWhile_append_dropWhile.symm, ends_dropWhile _ _⟩
  · rintro ⟨⟨nonempty, all⟩, rfl, ends⟩
    rw [takeWhile_append_ends all ends, dropWhile_append_ends all ends,
      if_neg nonempty]

theorem readUnit_eq_some {unit : Nat} :
    readUnit input = some (unit, rest) ↔
      ∃ a b c d, input = a :: b :: c :: d :: rest ∧
        hexUnit a b c d = some unit := by
  constructor
  · intro read
    unfold readUnit at read
    split at read
    · rename_i a b c d tail
      obtain ⟨value, found, same⟩ := Option.bind_eq_some_iff.mp read
      obtain ⟨rfl, rfl⟩ := Prod.mk.inj (Option.some.inj same)
      exact ⟨a, b, c, d, rfl, found⟩
    · cases read
  · rintro ⟨a, b, c, d, rfl, found⟩
    simp [readUnit, found]

theorem readEscape_sound {c : Char}
    (read : readEscape input = some (c, rest)) : IsEscape input c rest := by
  cases input with
  | nil => cases read
  | cons symbol input =>
      rw [readEscape] at read
      split at read
      · rename_i unicode
        obtain rfl := unicode
        obtain ⟨⟨unit, next⟩, found, decided⟩ :=
          Option.bind_eq_some_iff.mp read
        obtain ⟨a, b, c, d, rfl, value⟩ := readUnit_eq_some.mp found
        dsimp only at decided
        split at decided
        · rename_i high
          obtain ⟨behind, marked, joined⟩ :=
            Option.bind_eq_some_iff.mp decided
          obtain rfl := expectWord_eq_some.mp marked
          obtain ⟨⟨second, last⟩, found, paired⟩ :=
            Option.bind_eq_some_iff.mp joined
          obtain ⟨e, f, g, h, rfl, other⟩ := readUnit_eq_some.mp found
          dsimp only at paired
          split at paired
          · rename_i low
            obtain ⟨rfl, rfl⟩ := Prod.mk.inj (Option.some.inj paired)
            exact .pair value high other low
          · cases paired
        · rename_i notHigh
          split at decided
          · cases decided
          · rename_i notLow
            obtain ⟨rfl, rfl⟩ := Prod.mk.inj (Option.some.inj decided)
            exact .unit value (Bool.eq_false_iff.mpr notHigh)
              (Bool.eq_false_iff.mpr notLow)
      · obtain ⟨meaning, found, same⟩ := Option.bind_eq_some_iff.mp read
        obtain ⟨rfl, rfl⟩ := Prod.mk.inj (Option.some.inj same)
        exact .short found

theorem readEscape_complete {c : Char} (escape : IsEscape input c rest) :
    readEscape input = some (c, rest) := by
  cases escape with
  | short meaning =>
      rename_i symbol
      have other : symbol ≠ 'u' := by
        rintro rfl
        cases meaning
      simp [readEscape, other, meaning]
  | unit read high low => simp [readEscape, readUnit, read, high, low]
  | pair readHigh isHigh readLow isLow =>
      simp [readEscape, readUnit, readHigh, isHigh, readLow, isLow,
        expectWord, expect]

theorem IsEscape.length_lt {c : Char} (escape : IsEscape input c rest) :
    rest.length < input.length := by
  cases escape with
  | short meaning => exact Nat.lt_succ_self _
  | unit read high low =>
      simp only [List.length_cons]
      omega
  | pair readHigh isHigh readLow isLow =>
      simp only [List.length_cons]
      omega

end Lexical

/-- A reader that packs up what another one has read. -/
theorem exists_of_made {α β : Type} {read : Option (α × List Char)}
    {make : α → β} {made : β} {rest : List Char}
    (found : (do
      let (part, rest) ← read
      return (make part, rest)) = some (made, rest)) :
    ∃ part, read = some (part, rest) ∧ made = make part := by
  obtain ⟨⟨part, last⟩, reads, same⟩ := Option.bind_eq_some_iff.mp found
  obtain ⟨rfl, rfl⟩ := Prod.mk.inj (Option.some.inj same)
  exact ⟨part, reads, rfl⟩

/-! Strings. -/

section Strings

variable {input text rest : List Char}

theorem readString_sound {fuel : Nat}
    (read : readString fuel input = some (text, rest)) :
    IsString input text rest := by
  induction fuel generalizing input text with
  | zero => cases read
  | succ fuel induction =>
      cases input with
      | nil => cases read
      | cons c input =>
          rw [readString] at read
          split at read
          · rename_i quote
            obtain ⟨rfl, rfl⟩ := Prod.mk.inj (Option.some.inj read)
            rw [quote]
            exact .close _
          · split at read
            · rename_i backslash
              obtain ⟨⟨meaning, next⟩, escaped, more⟩ :=
                Option.bind_eq_some_iff.mp read
              obtain ⟨tail, found, same⟩ := exists_of_made more
              rw [backslash, same]
              exact .escape (readEscape_sound escaped) (induction found)
            · split at read
              · rename_i plain
                obtain ⟨tail, found, same⟩ := exists_of_made read
                rw [same]
                exact .plain plain (induction found)
              · cases read

theorem IsString.length_lt (string : IsString input text rest) :
    rest.length < input.length := by
  induction string with
  | close rest => exact Nat.lt_succ_self _
  | plain unescaped more induction => exact Nat.lt_succ_of_lt induction
  | escape meaning more induction =>
      exact Nat.lt_succ_of_lt (induction.trans meaning.length_lt)

theorem isPlain_iff {c : Char} :
    isPlain c = true ↔ 0x20 ≤ c.toNat ∧ c ≠ '"' ∧ c ≠ '\\' := by
  rw [isPlain, decide_eq_true_iff]

theorem readString_complete (string : IsString input text rest) :
    ∀ fuel, input.length ≤ fuel →
      readString fuel input = some (text, rest) := by
  induction string with
  | close rest =>
      intro fuel enough
      obtain ⟨fuel, rfl⟩ := Nat.exists_eq_add_of_le' enough
      rfl
  | plain unescaped more induction =>
      intro fuel enough
      obtain ⟨fuel, rfl⟩ : ∃ less, fuel = less + 1 :=
        Nat.exists_eq_add_of_le' (Nat.one_le_of_lt enough)
      obtain ⟨-, notQuote, notBackslash⟩ := isPlain_iff.mp unescaped
      rw [readString, if_neg notQuote, if_neg notBackslash,
        if_pos unescaped, induction fuel (Nat.le_of_succ_le_succ enough)]
      rfl
  | escape meaning more induction =>
      intro fuel enough
      obtain ⟨fuel, rfl⟩ : ∃ less, fuel = less + 1 :=
        Nat.exists_eq_add_of_le' (Nat.one_le_of_lt enough)
      have shorter := meaning.length_lt
      have bound := Nat.le_of_succ_le_succ enough
      rw [readString, if_neg (by decide), if_pos rfl,
        readEscape_complete meaning]
      simp only [Option.bind_eq_bind, Option.bind_some,
        induction fuel (by omega)]
      rfl

end Strings

/-! Numbers. -/

def isNumeral (c : Char) : Bool :=
  c.isDigit ∨ c = '.' ∨ c = 'e' ∨ c = 'E'

section Numbers

variable {input rest : List Char}

theorem isDigit_of_other {c : Char} (other : isNumeral c = false) :
    c.isDigit = false ∧ c ≠ '.' ∧ c ≠ 'e' ∧ c ≠ 'E' := by
  simpa [isNumeral] using other

theorem Ends.digits (ends : Ends isNumeral rest) :
    Ends Char.isDigit rest := by
  intro c member
  exact (isDigit_of_other (ends c member)).1

theorem expect_eq_none {symbol : Char}
    (other : ∀ c ∈ input.head?, c ≠ symbol) : expect symbol input = none := by
  cases input with
  | nil => rfl
  | cons c input => exact expect_cons_ne (other c rfl)

theorem readSign_sound (input : List Char) :
    input = signText (readSign input).1 ++ (readSign input).2 := by
  unfold readSign
  split
  · rename_i behind minus
    exact expect_eq_some.mp minus
  · split
    · rename_i behind plus
      exact expect_eq_some.mp plus
    · rfl

theorem Digits.head {symbols : List Char} (digits : Digits symbols)
    (rest : List Char) : ∀ c ∈ (symbols ++ rest).head?, c.isDigit = true := by
  obtain ⟨nonempty, all⟩ := digits
  cases symbols with
  | nil => exact absurd rfl nonempty
  | cons first symbols =>
      intro c member
      obtain rfl := Option.some.inj member
      exact all first List.mem_cons_self

theorem Digits.expect_none {symbols : List Char} (digits : Digits symbols)
    (rest : List Char) {symbol : Char} (other : symbol.isDigit = false) :
    expect symbol (symbols ++ rest) = none := by
  apply expect_eq_none
  intro c member same
  have digit := digits.head rest c member
  rw [same, other] at digit
  cases digit

theorem readSign_complete {symbols : List Char} (digits : Digits symbols)
    (sign : Option Bool) (rest : List Char) :
    readSign (signText sign ++ (symbols ++ rest)) =
      (sign, symbols ++ rest) := by
  cases sign with
  | none =>
      show readSign (symbols ++ rest) = _
      rw [readSign, digits.expect_none rest (by decide),
        digits.expect_none rest (by decide)]
  | some negative =>
      cases negative with
      | true => rfl
      | false => rfl

theorem readExponentOf_sound {upper : Bool} {exponent : Option Exponent}
    (read : readExponentOf upper input = some (exponent, rest)) :
    (∀ found ∈ exponent, Digits found.digits) ∧
      (if upper then 'E' else 'e') :: input =
        exponent.elim [] Exponent.text ++ rest := by
  have whole := readSign_sound input
  rw [readExponentOf] at read
  generalize readSign input = signed at read whole
  obtain ⟨⟨symbols, last⟩, digits, same⟩ := Option.bind_eq_some_iff.mp read
  obtain ⟨rfl, rfl⟩ := Prod.mk.inj (Option.some.inj same)
  obtain ⟨valid, split, -⟩ := readDigits_eq_some.mp digits
  constructor
  · intro found member
    obtain rfl := Option.some.inj member
    exact valid
  · rw [split] at whole
    simp only [Option.elim_some, Exponent.text, List.cons_append,
      List.append_assoc]
    rw [← whole]

theorem readExponent_sound {exponent : Option Exponent}
    (read : readExponent input = some (exponent, rest)) :
    (∀ found ∈ exponent, Digits found.digits) ∧
      input = exponent.elim [] Exponent.text ++ rest := by
  unfold readExponent at read
  split at read
  · rename_i behind lower
    obtain rfl := expect_eq_some.mp lower
    exact readExponentOf_sound read
  · split at read
    · rename_i behind upper
      obtain rfl := expect_eq_some.mp upper
      exact readExponentOf_sound read
    · obtain ⟨rfl, rfl⟩ := Prod.mk.inj (Option.some.inj read)
      exact ⟨by simp, rfl⟩

theorem readExponentOf_complete {exponent : Exponent}
    (digits : Digits exponent.digits) (ends : Ends Char.isDigit rest) :
    readExponentOf exponent.upper
        (signText exponent.sign ++ (exponent.digits ++ rest)) =
      some (some exponent, rest) := by
  have found := readDigits_eq_some.mpr ⟨digits, rfl, ends⟩
  simp only [readExponentOf, readSign_complete digits, found,
    Option.bind_eq_bind, Option.bind_some]
  rfl

theorem readExponent_complete {exponent : Option Exponent}
    (valid : ∀ found ∈ exponent, Digits found.digits)
    (ends : Ends isNumeral rest) :
    readExponent (exponent.elim [] Exponent.text ++ rest) =
      some (exponent, rest) := by
  cases exponent with
  | none =>
      show readExponent rest = _
      have other (c : Char) (member : c ∈ rest.head?) :=
        isDigit_of_other (ends c member)
      rw [readExponent,
        expect_eq_none fun c member => (other c member).2.2.1,
        expect_eq_none fun c member => (other c member).2.2.2]
  | some exponent =>
      have complete := readExponentOf_complete (valid exponent rfl)
        ends.digits
      obtain ⟨upper, sign, digits⟩ := exponent
      simp only [Option.elim_some, Exponent.text, List.cons_append,
        List.append_assoc]
      cases upper with
      | false => exact complete
      | true => exact complete

theorem readFraction_sound {fraction : Option (List Char)}
    (read : readFraction input = some (fraction, rest)) :
    (∀ symbols ∈ fraction, Digits symbols) ∧
      input = fraction.elim [] (fun symbols => '.' :: symbols) ++ rest := by
  unfold readFraction at read
  split at read
  · obtain ⟨rfl, rfl⟩ := Prod.mk.inj (Option.some.inj read)
    exact ⟨by simp, rfl⟩
  · rename_i behind point
    obtain rfl := expect_eq_some.mp point
    obtain ⟨symbols, found, rfl⟩ := exists_of_made read
    obtain ⟨digits, rfl, -⟩ := readDigits_eq_some.mp found
    refine ⟨?_, rfl⟩
    intro other member
    obtain rfl := Option.some.inj member
    exact digits

theorem readFraction_complete {fraction : Option (List Char)}
    (valid : ∀ symbols ∈ fraction, Digits symbols)
    (ends : Ends Char.isDigit rest)
    (point : fraction = none → ∀ c ∈ rest.head?, c ≠ '.') :
    readFraction (fraction.elim [] (fun symbols => '.' :: symbols) ++ rest) =
      some (fraction, rest) := by
  cases fraction with
  | none =>
      show readFraction rest = _
      rw [readFraction, expect_eq_none (point rfl)]
  | some symbols =>
      have found := readDigits_eq_some.mpr ⟨valid symbols rfl, rfl, ends⟩
      have dot : expect '.' ('.' :: symbols ++ rest) = some (symbols ++ rest) :=
        expect_eq_some.mpr rfl
      show readFraction ('.' :: symbols ++ rest) = _
      simp only [readFraction, dot, found, Option.bind_eq_bind,
        Option.bind_some]
      rfl

/-- Behind the digits of a number its exponent or its end comes. -/
theorem exponent_head {exponent : Option Exponent}
    (ends : Ends isNumeral rest) :
    ∀ c ∈ (exponent.elim [] Exponent.text ++ rest).head?,
      c.isDigit = false ∧ c ≠ '.' := by
  intro c member
  cases exponent with
  | none =>
      have other := isDigit_of_other (ends c member)
      exact ⟨other.1, other.2.1⟩
  | some exponent =>
      obtain ⟨upper, sign, digits⟩ := exponent
      obtain rfl := Option.some.inj member
      cases upper with
      | false =>
          show 'e'.isDigit = false ∧ 'e' ≠ '.'
          decide
      | true =>
          show 'E'.isDigit = false ∧ 'E' ≠ '.'
          decide

theorem readUnsigned_sound {negative : Bool} {numeral : Numeral}
    (read : readUnsigned negative input = some (numeral, rest)) :
    numeral.Valid ∧ numeral.negative = negative ∧
      (if negative then ['-'] else []) ++ input = numeral.text ++ rest := by
  rw [readUnsigned] at read
  obtain ⟨⟨whole, behind⟩, digits, checked⟩ :=
    Option.bind_eq_some_iff.mp read
  obtain ⟨valid, rfl, -⟩ := readDigits_eq_some.mp digits
  dsimp only at checked
  split at checked
  · cases checked
  · rename_i leading
    obtain ⟨⟨fraction, next⟩, fractional, ended⟩ :=
      Option.bind_eq_some_iff.mp checked
    obtain ⟨⟨exponent, last⟩, exponential, same⟩ :=
      Option.bind_eq_some_iff.mp ended
    obtain ⟨rfl, rfl⟩ := Prod.mk.inj (Option.some.inj same)
    obtain ⟨validFraction, rfl⟩ := readFraction_sound fractional
    obtain ⟨validExponent, rfl⟩ := readExponent_sound exponential
    refine ⟨⟨valid, ?_, validFraction, validExponent⟩, rfl, ?_⟩
    · intro zero
      by_contra other
      exact leading ⟨zero, other⟩
    · simp only [Numeral.text, List.append_assoc]

theorem readNumeral_sound {numeral : Numeral}
    (read : readNumeral input = some (numeral, rest)) :
    numeral.Valid ∧ input = numeral.text ++ rest := by
  unfold readNumeral at read
  split at read
  · rename_i behind minus
    obtain rfl := expect_eq_some.mp minus
    obtain ⟨valid, -, split⟩ := readUnsigned_sound read
    exact ⟨valid, split⟩
  · obtain ⟨valid, -, split⟩ := readUnsigned_sound read
    exact ⟨valid, split⟩

theorem readUnsigned_complete {numeral : Numeral} (valid : numeral.Valid)
    (ends : Ends isNumeral rest) :
    readUnsigned numeral.negative (numeral.whole ++
        (numeral.fraction.elim [] (fun symbols => '.' :: symbols) ++
          (numeral.exponent.elim [] Exponent.text ++ rest))) =
      some (numeral, rest) := by
  have behind : ∀ c ∈ (numeral.exponent.elim [] Exponent.text ++
      rest).head?, c.isDigit = false ∧ c ≠ '.' :=
    exponent_head ends
  have exponential := readExponent_complete valid.exponent ends
  have fractional := readFraction_complete valid.fraction
    (fun c member => (behind c member).1)
    (fun _ c member => (behind c member).2)
  have stops : Ends Char.isDigit
      (numeral.fraction.elim [] (fun symbols => '.' :: symbols) ++
        (numeral.exponent.elim [] Exponent.text ++ rest)) := by
    cases numeral.fraction with
    | none => exact fun c member => (behind c member).1
    | some symbols => exact ends_cons (by decide)
  have digits := readDigits_eq_some.mpr ⟨valid.whole, rfl, stops⟩
  have leading : ¬ (numeral.whole.head? = some '0' ∧
      numeral.whole ≠ ['0']) :=
    fun zero => zero.2 (valid.leading zero.1)
  rw [readUnsigned]
  simp only [digits, if_neg leading, fractional, exponential,
    Option.bind_eq_bind, Option.bind_some]
  rfl

theorem readNumeral_complete {numeral : Numeral} (valid : numeral.Valid)
    (ends : Ends isNumeral rest) :
    readNumeral (numeral.text ++ rest) = some (numeral, rest) := by
  have complete := readUnsigned_complete valid ends
  simp only [Numeral.text, List.append_assoc]
  cases sign : numeral.negative with
  | true =>
      rw [sign] at complete
      exact complete
  | false =>
      rw [sign] at complete
      simp only [Bool.false_eq_true, if_false, List.nil_append]
      rw [readNumeral, valid.whole.expect_none _ (by decide)]
      exact complete

end Numbers

end StellarConduit.Data.Json
