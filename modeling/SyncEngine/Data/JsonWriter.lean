import SyncEngine.Data.JsonReader

namespace StellarConduit.Data.Json

/-! Texts that stand for a value wherever they are written. -/

def Spells (text : List Char) (value : Value) : Prop :=
  ∀ rest, Derives (.value value) (text ++ rest) rest

theorem spaced_refl (input : List Char) : Spaced input input :=
  ⟨[], by simp, rfl⟩

theorem Spells.document {text : List Char} {value : Value}
    (spells : Spells text value) : Document text value := by
  have derived := spells []
  rw [List.append_nil] at derived
  exact ⟨text, [], spaced_refl text, derived, spaced_refl []⟩

theorem spells_string {body text : List Char}
    (string : ∀ rest, IsString (body ++ '"' :: rest) text rest) :
    Spells ('"' :: (body ++ ['"'])) (.string text) := by
  intro rest
  rw [List.cons_append, List.append_assoc]
  exact .string (string rest)

theorem isString_plain {text : List Char}
    (plain : ∀ c ∈ text, isPlain c = true) (rest : List Char) :
    IsString (text ++ '"' :: rest) text rest := by
  induction text with
  | nil => exact .close rest
  | cons c text induction =>
      exact .plain (plain c List.mem_cons_self)
        (induction fun other member =>
          plain other (List.mem_cons_of_mem c member))

section Lists

variable {α : Type} {write : α → List Char} {meaning : α → Value}

theorem derives_elements (spells : ∀ a, Spells (write a) (meaning a))
    (first : α) (others : List α) (rest : List Char) :
    Derives (.elements ((first :: others).map meaning))
      ([','].intercalate ((first :: others).map write) ++ ']' :: rest)
        rest := by
  induction others generalizing first with
  | nil =>
      have single : [','].intercalate ([first].map write) = write first := by
        simp [List.intercalate]
      rw [single]
      exact .lastElement (spaced_refl _) (spells first _) (spaced_refl _)
  | cons second others induction =>
      have several : [','].intercalate ((first :: second :: others).map
          write) = write first ++ ',' ::
            [','].intercalate ((second :: others).map write) := by
        simp [List.intercalate]
      rw [several, List.append_assoc, List.cons_append]
      exact .nextElement (spaced_refl _) (spells first _) (spaced_refl _)
        (induction second)

/-- An array of what a writer writes. -/
theorem spells_array (spells : ∀ a, Spells (write a) (meaning a))
    (items : List α) :
    Spells ('[' :: ([','].intercalate (items.map write) ++ [']']))
      (.array (items.map meaning)) := by
  intro rest
  cases items with
  | nil => exact .emptyArray (spaced_refl _)
  | cons first others =>
      rw [List.cons_append, List.append_assoc]
      exact .array (derives_elements spells first others rest)

/-- A member is written with the name as it is. -/
def writeMember (entry : List Char × List Char) : List Char :=
  '"' :: (entry.1 ++ '"' :: ':' :: entry.2)

theorem derives_members {entries : List (List Char × List Char × Value)}
    (plain : ∀ entry ∈ entries, ∀ c ∈ entry.1, isPlain c = true)
    (spells : ∀ entry ∈ entries, Spells entry.2.1 entry.2.2)
    (nonempty : entries ≠ []) (rest : List Char) :
    Derives (.members (entries.map fun entry => (entry.1, entry.2.2)))
      ([','].intercalate (entries.map fun entry =>
        writeMember (entry.1, entry.2.1)) ++ '}' :: rest) rest := by
  induction entries with
  | nil => exact absurd rfl nonempty
  | cons first others induction =>
      obtain ⟨name, text, value⟩ := first
      have named (input : List Char) :=
        isString_plain (plain _ List.mem_cons_self) input
      have valued := spells _ List.mem_cons_self
      cases others with
      | nil =>
          have single : [','].intercalate ([(name, text, value)].map
              fun entry => writeMember (entry.1, entry.2.1)) ++ '}' :: rest =
                '"' :: (name ++ '"' :: ':' :: (text ++ '}' :: rest)) := by
            simp [List.intercalate, writeMember]
          rw [single]
          exact .lastMember (spaced_refl _) (named _) (spaced_refl _)
            (spaced_refl _) (valued _) (spaced_refl _)
      | cons second others =>
          have more := induction
            (fun entry member => plain entry (List.mem_cons_of_mem _ member))
            (fun entry member => spells entry (List.mem_cons_of_mem _ member))
            (List.cons_ne_nil _ _)
          have several : [','].intercalate
              (((name, text, value) :: second :: others).map
                fun entry => writeMember (entry.1, entry.2.1)) ++
                  '}' :: rest =
                '"' :: (name ++ '"' :: ':' :: (text ++ ',' ::
                  ([','].intercalate ((second :: others).map fun entry =>
                    writeMember (entry.1, entry.2.1)) ++ '}' :: rest))) := by
            simp [List.intercalate, writeMember]
          rw [several]
          exact .nextMember (spaced_refl _) (named _) (spaced_refl _)
            (spaced_refl _) (valued _) (spaced_refl _) more

/-- An object with plain names. -/
theorem spells_object {entries : List (List Char × List Char × Value)}
    (plain : ∀ entry ∈ entries, ∀ c ∈ entry.1, isPlain c = true)
    (spells : ∀ entry ∈ entries, Spells entry.2.1 entry.2.2)
    (nonempty : entries ≠ []) :
    Spells ('{' :: ([','].intercalate (entries.map fun entry =>
        writeMember (entry.1, entry.2.1)) ++ ['}']))
      (.object (entries.map fun entry => (entry.1, entry.2.2))) := by
  intro rest
  rw [List.cons_append, List.append_assoc]
  exact .object (derives_members plain spells nonempty rest)

end Lists

/-! Integers in decimal. -/

def integerNumeral (value : Int) : Numeral where
  negative := decide (value < 0)
  whole := Nat.toDigits 10 value.natAbs
  fraction := none
  exponent := none

/-- The value of a numeral without a fraction and an exponent. -/
def Numeral.integer (numeral : Numeral) : Option Int :=
  match numeral.fraction, numeral.exponent with
  | none, none =>
      let magnitude : Int := Nat.ofDigitChars 10 numeral.whole 0
      some (if numeral.negative then -magnitude else magnitude)
  | _, _ => none

theorem head_toDigits (value : Nat)
    (zero : (Nat.toDigits 10 value).head? = some '0') : value = 0 := by
  induction value using Nat.strongRecOn with
  | ind value induction =>
      rcases Nat.lt_or_ge value 10 with small | large
      · have digits : ∀ digit < 10, digit.digitChar = '0' → digit = 0 := by
          decide
        rw [Nat.toDigits_of_lt_base small] at zero
        exact digits value small (Option.some.inj zero)
      · rw [Nat.toDigits_of_base_le (by decide) large,
          List.head?_append_of_ne_nil _ Nat.toDigits_ne_nil] at zero
        have quotient := induction (value / 10) (by omega) zero
        omega

theorem integerNumeral_valid (value : Int) :
    (integerNumeral value).Valid where
  whole := by
    refine ⟨Nat.toDigits_ne_nil, ?_⟩
    intro c member
    exact Nat.isDigit_of_mem_toDigits (by decide) (by decide) member
  leading := by
    intro zero
    have none := head_toDigits _ zero
    rw [integerNumeral, none]
    rfl
  fraction := by
    intro symbols member
    cases member
  exponent := by
    intro exponent member
    cases member

theorem integerNumeral_integer (value : Int) :
    (integerNumeral value).integer = some value := by
  simp only [Numeral.integer, integerNumeral, Nat.ofDigitChars_ten_toDigits,
    decide_eq_true_eq]
  congr 1
  omega

theorem spells_integer (value : Int) :
    Spells (toString value).toList (.number (integerNumeral value)) := by
  have text : (toString value).toList = (integerNumeral value).text := by
    cases value with
    | ofNat value =>
        have printed : toString (Int.ofNat value) = value.repr := rfl
        have sign : decide (Int.ofNat value < 0) = false :=
          decide_eq_false (Int.not_lt.mpr (Int.natCast_nonneg value))
        rw [printed, Nat.toList_repr, Numeral.text, integerNumeral, sign]
        simp
    | negSucc value =>
        have printed : toString (Int.negSucc value) =
            "-" ++ (value + 1).repr := rfl
        have sign : decide (Int.negSucc value < 0) = true :=
          decide_eq_true (Int.negSucc_lt_zero value)
        rw [printed, String.toList_append, Nat.toList_repr, Numeral.text,
          integerNumeral, sign]
        simp
  rw [text]
  exact Derives.number (integerNumeral_valid value)

end StellarConduit.Data.Json
