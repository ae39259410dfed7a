import SyncEngine.Data.JsonToken

namespace StellarConduit.Data.Json

/-! Values. -/

section Values

variable {input rest : List Char} {value : Value}

theorem readWord_sound (read : readWord input = some (value, rest)) :
    Derives (.value value) input rest := by
  unfold readWord at read
  split at read
  · rename_i behind word
    obtain ⟨rfl, rfl⟩ := Prod.mk.inj (Option.some.inj read)
    rw [expectWord_eq_some.mp word]
    exact .nullWord _
  · split at read
    · rename_i behind word
      obtain ⟨rfl, rfl⟩ := Prod.mk.inj (Option.some.inj read)
      rw [expectWord_eq_some.mp word]
      exact .trueWord _
    · split at read
      · rename_i behind word
        obtain ⟨rfl, rfl⟩ := Prod.mk.inj (Option.some.inj read)
        rw [expectWord_eq_some.mp word]
        exact .falseWord _
      · cases read

theorem readScalar_sound (read : readScalar input = some (value, rest)) :
    Derives (.value value) input rest := by
  unfold readScalar at read
  split at read
  · rename_i found word
    obtain rfl := Option.some.inj read
    exact readWord_sound word
  · obtain ⟨numeral, found, rfl⟩ := exists_of_made read
    obtain ⟨valid, rfl⟩ := readNumeral_sound found
    exact .number valid _

/-- What the readers return with this fuel derives from the grammar. -/
structure SoundAt (fuel : Nat) : Prop where
  values : ∀ input value rest, readValue fuel input = some (value, rest) →
    Derives (.value value) input rest
  elements : ∀ input items rest,
    readElements fuel input = some (items, rest) →
      Derives (.elements items) input rest
  members : ∀ input entries rest,
    readMembers fuel input = some (entries, rest) →
      Derives (.members entries) input rest

namespace SoundAt

variable {fuel : Nat} (sound : SoundAt fuel)
include sound

theorem value_step (read : readValue (fuel + 1) input = some (value, rest)) :
    Derives (.value value) input rest := by
  cases input with
  | nil => cases read
  | cons c input =>
      have space := spaced_skipSpace input
      rw [readValue] at read
      split_ifs at read with quote bracket brace
      · obtain ⟨text, found, rfl⟩ := exists_of_made read
        rw [quote]
        exact .string (readString_sound found)
      · rw [bracket]
        split at read
        · rename_i behind ended
          obtain ⟨rfl, rfl⟩ := Prod.mk.inj (Option.some.inj read)
          rw [expect_eq_some.mp ended] at space
          exact .emptyArray space
        · obtain ⟨items, found, rfl⟩ := exists_of_made read
          exact .array (sound.elements _ _ _ found)
      · rw [brace]
        split at read
        · rename_i behind ended
          obtain ⟨rfl, rfl⟩ := Prod.mk.inj (Option.some.inj read)
          rw [expect_eq_some.mp ended] at space
          exact .emptyObject space
        · obtain ⟨entries, found, rfl⟩ := exists_of_made read
          exact .object (sound.members _ _ _ found)
      · exact readScalar_sound read

theorem elements_step {items : List Value}
    (read : readElements (fuel + 1) input = some (items, rest)) :
    Derives (.elements items) input rest := by
  rw [readElements] at read
  obtain ⟨⟨item, after⟩, found, continued⟩ :=
    Option.bind_eq_some_iff.mp read
  have before := spaced_skipSpace input
  have element := sound.values _ _ _ found
  have space := spaced_skipSpace after
  dsimp only at continued
  split at continued
  · rename_i behind ended
    obtain ⟨rfl, rfl⟩ := Prod.mk.inj (Option.some.inj continued)
    rw [expect_eq_some.mp ended] at space
    exact .lastElement before element space
  · obtain ⟨next, comma, more⟩ := Option.bind_eq_some_iff.mp continued
    obtain ⟨others, found, rfl⟩ := exists_of_made more
    rw [expect_eq_some.mp comma] at space
    exact .nextElement before element space (sound.elements _ _ _ found)

theorem members_step {entries : List (List Char × Value)}
    (read : readMembers (fuel + 1) input = some (entries, rest)) :
    Derives (.members entries) input rest := by
  rw [readMembers] at read
  obtain ⟨start, quoted, named⟩ := Option.bind_eq_some_iff.mp read
  obtain ⟨⟨name, colon⟩, body, separated⟩ :=
    Option.bind_eq_some_iff.mp named
  obtain ⟨behind, separator, valued⟩ :=
    Option.bind_eq_some_iff.mp separated
  obtain ⟨⟨member, after⟩, found, continued⟩ :=
    Option.bind_eq_some_iff.mp valued
  have before := spaced_skipSpace input
  rw [expect_eq_some.mp quoted] at before
  have between := spaced_skipSpace colon
  rw [expect_eq_some.mp separator] at between
  have string := readString_sound body
  have element := sound.values _ _ _ found
  have space := spaced_skipSpace after
  have first := spaced_skipSpace behind
  dsimp only at continued
  split at continued
  · rename_i last ended
    obtain ⟨rfl, rfl⟩ := Prod.mk.inj (Option.some.inj continued)
    rw [expect_eq_some.mp ended] at space
    exact .lastMember before string between first element space
  · obtain ⟨next, comma, more⟩ := Option.bind_eq_some_iff.mp continued
    obtain ⟨others, found, rfl⟩ := exists_of_made more
    rw [expect_eq_some.mp comma] at space
    exact .nextMember before string between first element space
      (sound.members _ _ _ found)

end SoundAt

theorem soundAt (fuel : Nat) : SoundAt fuel := by
  induction fuel with
  | zero =>
      refine ⟨?_, ?_, ?_⟩
      · intro input value rest read
        cases read
      · intro input items rest read
        cases read
      · intro input entries rest read
        cases read
  | succ fuel induction =>
      exact ⟨fun _ _ _ => induction.value_step,
        fun _ _ _ => induction.elements_step,
        fun _ _ _ => induction.members_step⟩

theorem Numeral.Valid.exists_head {numeral : Numeral}
    (valid : numeral.Valid) : ∃ c more, numeral.text = c :: more ∧
      (c = '-' ∨ c.isDigit = true) := by
  obtain ⟨negative, whole, fraction, exponent⟩ := numeral
  have digits := valid.whole
  cases negative with
  | true => exact ⟨'-', _, rfl, Or.inl rfl⟩
  | false =>
      cases whole with
      | nil => exact absurd rfl digits.1
      | cons c whole =>
          exact ⟨c, _, rfl, Or.inr (digits.2 c List.mem_cons_self)⟩

/-- What a value starts with is neither a space nor a closing bracket. -/
theorem Derives.exists_head (derived : Derives (.value value) input rest) :
    ∃ c more, input = c :: more ∧ isSpace c = false ∧ c ≠ ']' := by
  generalize phrased : Phrase.value value = phrase at derived
  cases derived with
  | nullWord => exact ⟨_, _, rfl, by decide⟩
  | trueWord => exact ⟨_, _, rfl, by decide⟩
  | falseWord => exact ⟨_, _, rfl, by decide⟩
  | string body => exact ⟨_, _, rfl, by decide⟩
  | emptyArray space => exact ⟨_, _, rfl, by decide⟩
  | array elements => exact ⟨_, _, rfl, by decide⟩
  | emptyObject space => exact ⟨_, _, rfl, by decide⟩
  | object members => exact ⟨_, _, rfl, by decide⟩
  | number valid =>
      obtain ⟨c, more, text, head⟩ := valid.exists_head
      rw [text, List.cons_append]
      refine ⟨c, _, rfl, ?_⟩
      rcases head with rfl | digit
      · decide
      · have apart : ∀ other : Char, other.isDigit = false → c ≠ other := by
          rintro other no rfl
          rw [no] at digit
          cases digit
        refine ⟨?_, apart ']' (by decide)⟩
        simp [isSpace, apart]
  | lastElement => cases phrased
  | nextElement => cases phrased
  | lastMember => cases phrased
  | nextMember => cases phrased

theorem skipSpace_of_derives {before : List Char}
    (spaced : Spaced before input)
    (derived : Derives (.value value) input rest) :
    skipSpace before = input := by
  obtain ⟨c, more, rfl, visible, -⟩ := derived.exists_head
  exact skipSpace_of_spaced spaced (ends_cons visible)

theorem readValue_scalar {fuel : Nat} {c : Char}
    (quote : c ≠ '"') (bracket : c ≠ '[') (brace : c ≠ '{') :
    readValue (fuel + 1) (c :: input) = readScalar (c :: input) := by
  rw [readValue, if_neg quote, if_neg bracket, if_neg brace]

theorem readScalar_number {numeral : Numeral} (valid : numeral.Valid)
    (ends : Ends isNumeral rest) :
    readScalar (numeral.text ++ rest) = some (.number numeral, rest) := by
  have complete := readNumeral_complete valid ends
  obtain ⟨c, more, text, head⟩ := valid.exists_head
  have letters : ∀ symbol word, symbol ≠ '-' → symbol.isDigit = false →
      expectWord (symbol :: word) (numeral.text ++ rest) = none := by
    intro symbol word notMinus notDigit
    have other : c ≠ symbol := by
      rintro rfl
      rcases head with minus | digit
      · exact notMinus minus
      · rw [notDigit] at digit
        cases digit
    rw [text, List.cons_append, expectWord, expect_cons_ne other]
    rfl
  have word : readWord (numeral.text ++ rest) = none := by
    unfold readWord
    rw [letters 'n' ['u', 'l', 'l'] (by decide) (by decide),
      letters 't' ['r', 'u', 'e'] (by decide) (by decide),
      letters 'f' ['a', 'l', 's', 'e'] (by decide) (by decide)]
  rw [readScalar, word]
  simp only [complete, Option.bind_eq_bind, Option.bind_some]
  rfl

theorem Derives.length_lt {phrase : Phrase}
    (derived : Derives phrase input rest) : rest.length < input.length := by
  induction derived with
  | nullWord rest =>
      simp only [List.cons_append, List.nil_append, List.length_cons]
      omega
  | trueWord rest =>
      simp only [List.cons_append, List.nil_append, List.length_cons]
      omega
  | falseWord rest =>
      simp only [List.cons_append, List.nil_append, List.length_cons]
      omega
  | number valid rest =>
      obtain ⟨c, more, text, -⟩ := valid.exists_head
      rw [text, List.cons_append, List.length_cons, List.length_append]
      omega
  | string body => exact Nat.lt_succ_of_lt body.length_lt
  | emptyArray space => exact Nat.lt_succ_of_lt space.length_le
  | array elements induction => exact Nat.lt_succ_of_lt induction
  | emptyObject space => exact Nat.lt_succ_of_lt space.length_le
  | object members induction => exact Nat.lt_succ_of_lt induction
  | lastElement before element ended induction =>
      have first := before.length_le
      have last := Nat.lt_of_succ_le ended.length_le
      omega
  | nextElement before element comma more induction next =>
      have first := before.length_le
      have last := Nat.lt_of_succ_le comma.length_le
      omega
  | lastMember before named separator space value ended induction =>
      have first := Nat.lt_of_succ_le before.length_le
      have second := named.length_lt
      have third := Nat.lt_of_succ_le separator.length_le
      have fourth := space.length_le
      have last := Nat.lt_of_succ_le ended.length_le
      omega
  | nextMember before named separator space value comma more induction
      next =>
      have first := Nat.lt_of_succ_le before.length_le
      have second := named.length_lt
      have third := Nat.lt_of_succ_le separator.length_le
      have fourth := space.length_le
      have last := Nat.lt_of_succ_le comma.length_le
      omega

theorem isNumeral_of_isSpace {c : Char} (blank : isSpace c = true) :
    isNumeral c = false := by
  simp only [isSpace, decide_eq_true_eq] at blank
  rcases blank with rfl | rfl | rfl | rfl
  · decide
  · decide
  · decide
  · decide

theorem Spaced.ends {c : Char} (spaced : Spaced input (c :: rest))
    (other : isNumeral c = false) : Ends isNumeral input := by
  obtain ⟨space, all, rfl⟩ := spaced
  cases space with
  | nil => exact ends_cons other
  | cons blank space =>
      exact ends_cons (isNumeral_of_isSpace (all blank List.mem_cons_self))

/-- What is not empty does not start with a closing bracket. -/
theorem Derives.not_closed {phrase : Phrase}
    (derived : Derives phrase input rest) :
    match phrase with
    | .value _ => True
    | .elements _ => expect ']' (skipSpace input) = none
    | .members _ => expect '}' (skipSpace input) = none := by
  cases derived with
  | nullWord => trivial
  | trueWord => trivial
  | falseWord => trivial
  | number => trivial
  | string => trivial
  | emptyArray => trivial
  | array => trivial
  | emptyObject => trivial
  | object => trivial
  | lastElement before element ended =>
      obtain ⟨c, more, rfl, visible, other⟩ := element.exists_head
      rw [skipSpace_of_spaced before (ends_cons visible)]
      exact expect_cons_ne other
  | nextElement before element comma more =>
      obtain ⟨c, more, rfl, visible, other⟩ := element.exists_head
      rw [skipSpace_of_spaced before (ends_cons visible)]
      exact expect_cons_ne other
  | lastMember before =>
      rw [skipSpace_of_spaced before (ends_cons (by decide))]
      rfl
  | nextMember before =>
      rw [skipSpace_of_spaced before (ends_cons (by decide))]
      rfl

/-- With enough fuel a phrase is read. -/
def Phrase.ReadsBack : Phrase → List Char → List Char → Prop
  | .value value, input, rest =>
      Ends isNumeral rest → ∀ fuel, 2 * input.length ≤ fuel →
        readValue (fuel + 1) input = some (value, rest)
  | .elements items, input, rest =>
      ∀ fuel, 2 * input.length + 1 ≤ fuel →
        readElements (fuel + 1) input = some (items, rest)
  | .members entries, input, rest =>
      ∀ fuel, 2 * input.length + 1 ≤ fuel →
        readMembers (fuel + 1) input = some (entries, rest)

theorem Derives.readsBack {phrase : Phrase}
    (derived : Derives phrase input rest) :
    phrase.ReadsBack input rest := by
  induction derived with
  | nullWord rest =>
      intro _ fuel _
      rfl
  | trueWord rest =>
      intro _ fuel _
      rfl
  | falseWord rest =>
      intro _ fuel _
      rfl
  | number valid rest =>
      intro ends fuel enough
      have scalar := readScalar_number valid ends
      obtain ⟨c, more, text, head⟩ := valid.exists_head
      rw [text, List.cons_append] at scalar ⊢
      rw [readValue_scalar, scalar]
      · rintro rfl
        exact absurd head (by decide)
      · rintro rfl
        exact absurd head (by decide)
      · rintro rfl
        exact absurd head (by decide)
  | string body =>
      intro _ fuel enough
      rw [readValue, if_pos rfl,
        readString_complete body _ (Nat.le_succ _)]
      rfl
  | emptyArray space =>
      intro _ fuel enough
      rw [readValue, if_neg (by decide), if_pos rfl,
        skipSpace_of_spaced space (ends_cons (by decide))]
      rfl
  | array elements induction =>
      intro _ fuel enough
      rw [List.length_cons] at enough
      obtain ⟨fuel, rfl⟩ :=
        Nat.exists_eq_add_one_of_ne_zero (by omega : fuel ≠ 0)
      rw [readValue, if_neg (by decide), if_pos rfl,
        elements.not_closed, induction fuel (by omega)]
      rfl
  | emptyObject space =>
      intro _ fuel enough
      rw [readValue, if_neg (by decide), if_neg (by decide), if_pos rfl,
        skipSpace_of_spaced space (ends_cons (by decide))]
      rfl
  | object members induction =>
      intro _ fuel enough
      rw [List.length_cons] at enough
      obtain ⟨fuel, rfl⟩ :=
        Nat.exists_eq_add_one_of_ne_zero (by omega : fuel ≠ 0)
      rw [readValue, if_neg (by decide), if_neg (by decide), if_pos rfl,
        members.not_closed, induction fuel (by omega)]
      rfl
  | lastElement before element ended induction =>
      intro fuel enough
      obtain ⟨fuel, rfl⟩ :=
        Nat.exists_eq_add_one_of_ne_zero (by omega : fuel ≠ 0)
      have first := before.length_le
      have item := induction (ended.ends (by decide)) fuel (by omega)
      have closed := skipSpace_of_spaced ended (ends_cons (by decide))
      rw [readElements, skipSpace_of_derives before element, item]
      simp only [Option.bind_eq_bind, Option.bind_some, closed]
      rfl
  | nextElement before element comma more induction next =>
      intro fuel enough
      obtain ⟨fuel, rfl⟩ :=
        Nat.exists_eq_add_one_of_ne_zero (by omega : fuel ≠ 0)
      have first := before.length_le
      have second := element.length_lt
      have third := Nat.lt_of_succ_le comma.length_le
      have item := induction (comma.ends (by decide)) fuel (by omega)
      have others := next fuel (by omega)
      have separated := skipSpace_of_spaced comma (ends_cons (by decide))
      rw [readElements, skipSpace_of_derives before element, item]
      simp only [Option.bind_eq_bind, Option.bind_some, separated]
      rw [expect_cons_ne (by decide), expect_eq_some.mpr rfl]
      simp only [Option.bind_some, others]
      rfl
  | lastMember before named separator space value ended induction =>
      intro fuel enough
      obtain ⟨fuel, rfl⟩ :=
        Nat.exists_eq_add_one_of_ne_zero (by omega : fuel ≠ 0)
      have first := Nat.lt_of_succ_le before.length_le
      have second := named.length_lt
      have third := Nat.lt_of_succ_le separator.length_le
      have fourth := space.length_le
      have member := induction (ended.ends (by decide)) fuel (by omega)
      have closed := skipSpace_of_spaced ended (ends_cons (by decide))
      rw [readMembers, skipSpace_of_spaced before (ends_cons (by decide)),
        expect_eq_some.mpr rfl]
      simp only [Option.bind_eq_bind, Option.bind_some,
        readString_complete named _ (Nat.le_succ _)]
      rw [skipSpace_of_spaced separator (ends_cons (by decide)),
        expect_eq_some.mpr rfl]
      simp only [Option.bind_some, skipSpace_of_derives space value, member,
        closed]
      rfl
  | nextMember before named separator space value comma more induction
      next =>
      intro fuel enough
      obtain ⟨fuel, rfl⟩ :=
        Nat.exists_eq_add_one_of_ne_zero (by omega : fuel ≠ 0)
      have first := Nat.lt_of_succ_le before.length_le
      have second := named.length_lt
      have third := Nat.lt_of_succ_le separator.length_le
      have fourth := space.length_le
      have fifth := value.length_lt
      have sixth := Nat.lt_of_succ_le comma.length_le
      have member := induction (comma.ends (by decide)) fuel (by omega)
      have others := next fuel (by omega)
      have separated := skipSpace_of_spaced comma (ends_cons (by decide))
      rw [readMembers, skipSpace_of_spaced before (ends_cons (by decide)),
        expect_eq_some.mpr rfl]
      simp only [Option.bind_eq_bind, Option.bind_some,
        readString_complete named _ (Nat.le_succ _)]
      rw [skipSpace_of_spaced separator (ends_cons (by decide)),
        expect_eq_some.mpr rfl]
      simp only [Option.bind_some, skipSpace_of_derives space value, member,
        separated]
      rw [expect_cons_ne (by decide), expect_eq_some.mpr rfl]
      simp only [Option.bind_some, others]
      rfl

end Values

/-- The reader and the grammar agree. -/
theorem parse_eq_some {text : List Char} {value : Value} :
    parse text = some value ↔ Document text value := by
  constructor
  · intro parsed
    rw [parse] at parsed
    obtain ⟨⟨found, rest⟩, read, ended⟩ := Option.bind_eq_some_iff.mp parsed
    dsimp only at ended
    split at ended
    · rename_i nothing
      obtain rfl := Option.some.inj ended
      have space := spaced_skipSpace rest
      rw [nothing] at space
      exact ⟨_, rest, spaced_skipSpace text, (soundAt _).values _ _ _ read,
        space⟩
    · cases ended
  · rintro ⟨start, rest, before, derived, after⟩
    have ends : Ends isNumeral rest := by
      obtain ⟨space, all, rfl⟩ := after
      cases space with
      | nil => exact ends_nil _
      | cons blank space =>
          exact ends_cons (isNumeral_of_isSpace (all _ List.mem_cons_self))
    have read := derived.readsBack ends _ (Nat.le_refl _)
    rw [parse, skipSpace_of_derives before derived]
    simp only [read, Option.bind_eq_bind, Option.bind_some,
      skipSpace_of_spaced after (ends_nil _)]
    rfl

/-! A control character that is no space stands in no document. -/

section Control

variable {input rest : List Char} {control : Char}

theorem hexValue_printed {c : Char} {value : Nat}
    (read : hexValue c = some value) : 0x20 ≤ c.toNat := by
  unfold hexValue at read
  split_ifs at read with digit lower upper
  · exact (by decide : 0x20 ≤ '0'.toNat).trans digit.1
  · exact (by decide : 0x20 ≤ 'a'.toNat).trans lower.1
  · exact (by decide : 0x20 ≤ 'A'.toNat).trans upper.1

theorem hexUnit_printed {a b c d : Char} {unit : Nat}
    (read : hexUnit a b c d = some unit) :
    0x20 ≤ a.toNat ∧ 0x20 ≤ b.toNat ∧ 0x20 ≤ c.toNat ∧ 0x20 ≤ d.toNat := by
  obtain ⟨first, readFirst, read⟩ := Option.bind_eq_some_iff.mp read
  obtain ⟨second, readSecond, read⟩ := Option.bind_eq_some_iff.mp read
  obtain ⟨third, readThird, read⟩ := Option.bind_eq_some_iff.mp read
  obtain ⟨fourth, readFourth, -⟩ := Option.bind_eq_some_iff.mp read
  exact ⟨hexValue_printed readFirst, hexValue_printed readSecond,
    hexValue_printed readThird, hexValue_printed readFourth⟩

theorem shortEscape_printed {symbol c : Char}
    (meaning : shortEscape symbol = some c) : 0x20 ≤ symbol.toNat := by
  unfold shortEscape at meaning
  split at meaning
  all_goals first | decide | cases meaning

variable (low : control.toNat < 0x20)
include low

theorem ne_of_printed {printed : Char} (high : 0x20 ≤ printed.toNat) :
    control ≠ printed := by
  rintro rfl
  omega

theorem mem_behind {mark : Char} {behind : List Char}
    (printed : 0x20 ≤ mark.toNat) (member : control ∈ mark :: behind) :
    control ∈ behind :=
  List.mem_of_ne_of_mem (ne_of_printed low printed) member

theorem IsEscape.control_mem {c : Char} (escape : IsEscape input c rest)
    (member : control ∈ input) : control ∈ rest := by
  have behind {mark : Char} {tail : List Char}
      (printed : 0x20 ≤ mark.toNat) (member : control ∈ mark :: tail) :
      control ∈ tail :=
    mem_behind low printed member
  cases escape with
  | short meaning => exact behind (shortEscape_printed meaning) member
  | unit read notHigh notLow =>
      obtain ⟨a, b, c, d⟩ := hexUnit_printed read
      have marked := behind (by decide) member
      exact behind d (behind c (behind b (behind a marked)))
  | pair readHigh isHigh readLow isLow =>
      obtain ⟨a, b, c, d⟩ := hexUnit_printed readHigh
      obtain ⟨e, f, g, h⟩ := hexUnit_printed readLow
      have marked := behind (by decide) member
      have first := behind d (behind c (behind b (behind a marked)))
      have remarked := behind (by decide) (behind (by decide) first)
      exact behind h (behind g (behind f (behind e remarked)))

theorem IsString.control_mem {text : List Char}
    (string : IsString input text rest) (member : control ∈ input) :
    control ∈ rest := by
  induction string with
  | close rest => exact mem_behind low (by decide) member
  | plain unescaped more induction =>
      exact induction
        (mem_behind low (isPlain_iff.mp unescaped).1 member)
  | escape meaning more induction =>
      exact induction (meaning.control_mem low
        (mem_behind low (by decide) member))

theorem Digits.control_not_mem {symbols : List Char}
    (digits : Digits symbols) : control ∉ symbols := by
  intro member
  have digit := Char.isDigit_iff_toNat.mp (digits.2 control member)
  have zero : '0'.toNat = 0x30 := rfl
  omega

theorem Exponent.control_not_mem {exponent : Exponent}
    (digits : Digits exponent.digits) : control ∉ exponent.text := by
  have absent := digits.control_not_mem low
  obtain ⟨upper, sign, symbols⟩ := exponent
  intro member
  rcases List.mem_cons.mp member with marker | member
  · cases upper with
    | false => exact ne_of_printed low (by decide : 0x20 ≤ 'e'.toNat) marker
    | true => exact ne_of_printed low (by decide : 0x20 ≤ 'E'.toNat) marker
  · rcases List.mem_append.mp member with signed | digit
    · rcases sign with _ | negative
      · cases signed
      · cases negative with
        | false =>
            exact ne_of_printed low (by decide) (List.mem_singleton.mp signed)
        | true =>
            exact ne_of_printed low (by decide) (List.mem_singleton.mp signed)
    · exact absent digit

theorem Numeral.Valid.control_not_mem {numeral : Numeral}
    (valid : numeral.Valid) : control ∉ numeral.text := by
  obtain ⟨negative, whole, fraction, exponent⟩ := numeral
  intro member
  rcases List.mem_append.mp member with member | exponential
  · rcases List.mem_append.mp member with member | fractional
    · rcases List.mem_append.mp member with sign | digit
      · cases negative with
        | false => cases sign
        | true =>
            exact ne_of_printed low (by decide) (List.mem_singleton.mp sign)
      · exact valid.whole.control_not_mem low digit
    · cases fraction with
      | none => cases fractional
      | some symbols =>
          rcases List.mem_cons.mp fractional with point | digit
          · exact ne_of_printed low (by decide) point
          · exact (valid.fraction symbols rfl).control_not_mem low digit
  · cases exponent with
    | none => cases exponential
    | some exponent =>
        exact Exponent.control_not_mem low (valid.exponent exponent rfl)
          exponential

variable (visible : isSpace control = false)
include visible

omit low in
theorem Spaced.control_mem (spaced : Spaced input rest)
    (member : control ∈ input) : control ∈ rest := by
  obtain ⟨space, all, rfl⟩ := spaced
  rcases List.mem_append.mp member with blank | behind
  · rw [all control blank] at visible
    cases visible
  · exact behind

theorem Derives.control_mem {phrase : Phrase}
    (derived : Derives phrase input rest) (member : control ∈ input) :
    control ∈ rest := by
  have mark {mark : Char} {behind : List Char}
      (printed : 0x20 ≤ mark.toNat) (member : control ∈ mark :: behind) :
      control ∈ behind :=
    mem_behind low printed member
  induction derived with
  | nullWord rest =>
      exact mark (by decide) (mark (by decide) (mark (by decide)
        (mark (by decide) member)))
  | trueWord rest =>
      exact mark (by decide) (mark (by decide) (mark (by decide)
        (mark (by decide) member)))
  | falseWord rest =>
      exact mark (by decide) (mark (by decide) (mark (by decide)
        (mark (by decide) (mark (by decide) member))))
  | number valid rest =>
      rcases List.mem_append.mp member with inside | behind
      · exact absurd inside (valid.control_not_mem low)
      · exact behind
  | string body => exact body.control_mem low (mark (by decide) member)
  | emptyArray space =>
      exact mark (by decide)
        (space.control_mem visible (mark (by decide) member))
  | array elements induction => exact induction (mark (by decide) member)
  | emptyObject space =>
      exact mark (by decide)
        (space.control_mem visible (mark (by decide) member))
  | object members induction => exact induction (mark (by decide) member)
  | lastElement before element ended induction =>
      exact mark (by decide) (ended.control_mem visible
        (induction (before.control_mem visible member)))
  | nextElement before element comma more induction next =>
      exact next (mark (by decide) (comma.control_mem visible
        (induction (before.control_mem visible member))))
  | lastMember before named separator space value ended induction =>
      have named := named.control_mem low (mark (by decide)
        (before.control_mem visible member))
      have behind := mark (by decide)
        (separator.control_mem visible named)
      exact mark (by decide) (ended.control_mem visible
        (induction (space.control_mem visible behind)))
  | nextMember before named separator space value comma more induction
      next =>
      have named := named.control_mem low (mark (by decide)
        (before.control_mem visible member))
      have behind := mark (by decide)
        (separator.control_mem visible named)
      exact next (mark (by decide) (comma.control_mem visible
        (induction (space.control_mem visible behind))))

theorem Document.control_not_mem {text : List Char} {value : Value}
    (document : Document text value) : control ∉ text := by
  intro member
  obtain ⟨start, rest, before, derived, after⟩ := document
  have left := after.control_mem visible
    (derived.control_mem low visible (before.control_mem visible member))
  cases left

end Control

end StellarConduit.Data.Json
