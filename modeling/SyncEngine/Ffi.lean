import SyncEngine.Conflict.Detector
import SyncEngine.Data.ByteLayout
import SyncEngine.Data.JsonWriter

namespace StellarConduit

open Data

/-! The listing of conflicts for callers in C. -/

/-- `hex::decode` -/
def hexDecode : List Char → Option Bytes
  | [] => some []
  | [_] => none
  | high :: low :: rest => do
      let high ← Json.hexValue high
      let low ← Json.hexValue low
      let bytes ← hexDecode rest
      return (high * 16 + low).toUInt8 :: bytes

def decodeMessageId (hexStr : String) : Option Bytes32 := do
  let bytes ← hexDecode hexStr.toList
  if sized : bytes.length = 32 then
    some ⟨bytes.toArray, by rw [List.size_toArray, sized]⟩
  else none

/-- `{:04x}` -/
def lowerHex4 (value : Nat) : String :=
  let digits := Nat.toDigits 16 value
  String.ofList (List.replicate (4 - digits.length) '0' ++ digits)

def jsonEscapeChar (ch : Char) : String :=
  if ch = '"' then "\\\""
  else if ch = '\\' then "\\\\"
  else if ch = '\n' then "\\n"
  else if ch = '\r' then "\\r"
  else if ch = '\t' then "\\t"
  else if ch.toNat < 0x20 then "\\u" ++ lowerHex4 ch.toNat
  else String.singleton ch

/-- Escape and quote a text as a JSON string literal. -/
def jsonEscapeString (s : String) : String :=
  "\"" ++ String.join (s.toList.map jsonEscapeChar) ++ "\""

def conflictToJson (c : Conflict) : String :=
  "\x7b\"source_account\":" ++ jsonEscapeString c.sourceAccount ++
    ",\"sequence\":" ++ toString c.sequence.toInt ++
    ",\"envelope_a\":\"" ++ hexEncode c.envelopeA ++
    "\",\"envelope_b\":\"" ++ hexEncode c.envelopeB ++ "\"\x7d"

def conflictsToJson (conflicts : List Conflict) : String :=
  "[" ++ ",".intercalate (conflicts.map conflictToJson) ++ "]"

/-- `CString::new`. A byte zero inside is an error. -/
def CString.new (text : String) : Option Bytes :=
  let bytes := text.toUTF8.toList
  if 0 ∈ bytes then none else some bytes

/-- What the engine lists is handed out as a C string. There is none, which is
the null pointer, if the listing or the string fails. -/
def sseListUnresolvedConflicts
    (listed : Except SyncEngineError (List Conflict)) : Option Bytes :=
  match listed with
  | .ok conflicts => CString.new (conflictsToJson conflicts)
  | .error _ => none

/-! Escaped strings. -/

theorem lowerHex4_control : ∀ value < 0x20,
    List.replicate (4 - (Nat.toDigits 16 value).length) '0' ++
        Nat.toDigits 16 value =
      ['0', '0', (value / 16).digitChar, (value % 16).digitChar] ∧
    Json.hexUnit '0' '0' (value / 16).digitChar (value % 16).digitChar =
      some value := by
  decide

theorem isString_jsonEscapeChar {input text rest : List Char} (ch : Char)
    (string : Json.IsString input text rest) :
    Json.IsString ((jsonEscapeChar ch).toList ++ input) (ch :: text)
      rest := by
  unfold jsonEscapeChar
  split_ifs with quote backslash newline carriage tab control
  · rw [quote]
    exact .escape (.short rfl) string
  · rw [backslash]
    exact .escape (.short rfl) string
  · rw [newline]
    exact .escape (.short rfl) string
  · rw [carriage]
    exact .escape (.short rfl) string
  · rw [tab]
    exact .escape (.short rfl) string
  · obtain ⟨digits, unit⟩ := lowerHex4_control ch.toNat control
    have text : ("\\u" ++ lowerHex4 ch.toNat).toList =
        '\\' :: 'u' :: ['0', '0', (ch.toNat / 16).digitChar,
          (ch.toNat % 16).digitChar] := by
      rw [String.toList_append]
      exact congrArg (['\\', 'u'] ++ ·) (String.toList_ofList.trans digits)
    rw [text]
    have high : Json.isHigh ch.toNat = false := by
      simp only [Json.isHigh, decide_eq_false_iff_not]
      omega
    have low : Json.isLow ch.toNat = false := by
      simp only [Json.isLow, decide_eq_false_iff_not]
      omega
    have escape : Json.IsEscape ('u' :: '0' :: '0' ::
        (ch.toNat / 16).digitChar :: (ch.toNat % 16).digitChar :: input)
          (Char.ofNat ch.toNat) input :=
      .unit unit high low
    rw [Char.ofNat_toNat] at escape
    exact .escape escape string
  · rw [String.toList_singleton]
    exact .plain (Json.isPlain_iff.mpr ⟨by omega, quote, backslash⟩) string

theorem isString_jsonEscape (text : List Char) (rest : List Char) :
    Json.IsString (text.flatMap (fun ch => (jsonEscapeChar ch).toList) ++
      '"' :: rest) text rest := by
  induction text with
  | nil => exact .close rest
  | cons ch text induction =>
      rw [List.flatMap_cons, List.append_assoc]
      exact isString_jsonEscapeChar ch induction

theorem spells_jsonEscapeString (s : String) :
    Json.Spells (jsonEscapeString s).toList (.string s.toList) := by
  have text : (jsonEscapeString s).toList =
      '"' :: (s.toList.flatMap (fun ch => (jsonEscapeChar ch).toList) ++
        ['"']) := by
    simp [jsonEscapeString, String.toList_join, List.flatMap_map]
  rw [text]
  exact Json.spells_string (isString_jsonEscape s.toList)

/-! The document. -/

/-- What a conflict is written as. -/
def conflictValue (c : Conflict) : Json.Value :=
  .object [
    ("source_account".toList, .string c.sourceAccount.toList),
    ("sequence".toList, .number (Json.integerNumeral c.sequence.toInt)),
    ("envelope_a".toList, .string (hexEncode c.envelopeA).toList),
    ("envelope_b".toList, .string (hexEncode c.envelopeB).toList)]

theorem hexDigit_plain (byte : UInt8) :
    Json.isPlain (byte.toNat / 16).digitChar = true ∧
      Json.isPlain (byte.toNat % 16).digitChar = true := by
  have digits : ∀ digit < 16, Json.isPlain digit.digitChar = true := by
    decide
  have bound := byte.toNat_lt
  exact ⟨digits _ (by omega), digits _ (by omega)⟩

theorem spells_hexEncode (bytes : Bytes32) :
    Json.Spells ('"' :: ((hexEncode bytes).toList ++ ['"']))
      (.string (hexEncode bytes).toList) := by
  apply Json.spells_string
  apply Json.isString_plain
  intro c member
  rw [hexEncode, String.toList_ofList, List.mem_flatMap] at member
  obtain ⟨byte, -, digit⟩ := member
  simp only [List.mem_cons, List.not_mem_nil, or_false] at digit
  rcases digit with rfl | rfl
  · exact (hexDigit_plain byte).1
  · exact (hexDigit_plain byte).2

/-- The fixed parts of the format. -/
theorem joined_members (account sequence first second : List Char) :
    "\x7b\"source_account\":".toList ++ account ++
        ",\"sequence\":".toList ++ sequence ++
        ",\"envelope_a\":\"".toList ++ first ++
        "\",\"envelope_b\":\"".toList ++ second ++ "\"\x7d".toList =
      '\x7b' :: ([','].intercalate [
        Json.writeMember ("source_account".toList, account),
        Json.writeMember ("sequence".toList, sequence),
        Json.writeMember ("envelope_a".toList, '"' :: (first ++ ['"'])),
        Json.writeMember ("envelope_b".toList, '"' :: (second ++ ['"']))] ++
          ['\x7d']) := by
  have account : "\x7b\"source_account\":".toList =
      '\x7b' :: '"' :: ("source_account".toList ++ ['"', ':']) := by decide
  have sequence : ",\"sequence\":".toList =
      ',' :: '"' :: ("sequence".toList ++ ['"', ':']) := by decide
  have first : ",\"envelope_a\":\"".toList =
      ',' :: '"' :: ("envelope_a".toList ++ ['"', ':', '"']) := by decide
  have second : "\",\"envelope_b\":\"".toList =
      '"' :: ',' :: '"' :: ("envelope_b".toList ++ ['"', ':', '"']) := by
    decide
  have last : "\"\x7d".toList = ['"', '\x7d'] := by decide
  rw [account, sequence, first, second, last]
  simp only [Json.writeMember, List.intercalate_cons_cons,
    List.intercalate_singleton, List.cons_append, List.nil_append,
    List.append_assoc]

theorem spells_conflictToJson (c : Conflict) :
    Json.Spells (conflictToJson c).toList (conflictValue c) := by
  let entries : List (List Char × List Char × Json.Value) := [
    ("source_account".toList, (jsonEscapeString c.sourceAccount).toList,
      .string c.sourceAccount.toList),
    ("sequence".toList, (toString c.sequence.toInt).toList,
      .number (Json.integerNumeral c.sequence.toInt)),
    ("envelope_a".toList, '"' :: ((hexEncode c.envelopeA).toList ++ ['"']),
      .string (hexEncode c.envelopeA).toList),
    ("envelope_b".toList, '"' :: ((hexEncode c.envelopeB).toList ++ ['"']),
      .string (hexEncode c.envelopeB).toList)]
  have plain : ∀ entry ∈ entries, ∀ c ∈ entry.1, Json.isPlain c = true := by
    have names : entries.all (fun entry => entry.1.all Json.isPlain) = true :=
      rfl
    intro entry member
    exact List.all_eq_true.mp (List.all_eq_true.mp names entry member)
  have spells : ∀ entry ∈ entries, Json.Spells entry.2.1 entry.2.2 := by
    simp only [entries, List.forall_mem_cons]
    exact ⟨spells_jsonEscapeString _, Json.spells_integer _,
      spells_hexEncode _, spells_hexEncode _, List.forall_mem_nil _⟩
  have text : (conflictToJson c).toList = '\x7b' ::
      ([','].intercalate (entries.map fun entry =>
        Json.writeMember (entry.1, entry.2.1)) ++ ['\x7d']) := by
    unfold conflictToJson
    simp only [String.toList_append]
    exact joined_members _ _ _ _
  rw [text]
  exact Json.spells_object plain spells (List.cons_ne_nil _ _)

theorem spells_conflictsToJson (conflicts : List Conflict) :
    Json.Spells (conflictsToJson conflicts).toList
      (.array (conflicts.map conflictValue)) := by
  have text : (conflictsToJson conflicts).toList =
      '[' :: ([','].intercalate (conflicts.map fun c =>
        (conflictToJson c).toList) ++ [']']) := by
    simp [conflictsToJson, String.toList_intercalate, Function.comp_def]
  rw [text]
  exact Json.spells_array spells_conflictToJson conflicts

/-! Reading the document back. -/

theorem hexValue_digitChar :
    ∀ digit < 16, Json.hexValue digit.digitChar = some digit := by
  decide

theorem hexDecode_encoded (bytes : Bytes) :
    hexDecode (bytes.flatMap fun byte =>
      [(byte.toNat / 16).digitChar, (byte.toNat % 16).digitChar]) =
        some bytes := by
  induction bytes with
  | nil => rfl
  | cons byte bytes induction =>
      have bound := byte.toNat_lt
      have whole : byte.toNat / 16 * 16 + byte.toNat % 16 = byte.toNat :=
        Nat.div_add_mod' _ _
      rw [List.flatMap_cons, List.cons_append, List.singleton_append,
        hexDecode, hexValue_digitChar _ (by omega),
        hexValue_digitChar _ (by omega), induction]
      show some ((byte.toNat / 16 * 16 + byte.toNat % 16).toUInt8 :: bytes) =
        some (byte :: bytes)
      rw [whole, Nat.toUInt8_eq, UInt8.ofNat_toNat]

theorem decodeMessageId_hexEncode (messageId : Bytes32) :
    decodeMessageId (hexEncode messageId) = some messageId := by
  have decoded := hexDecode_encoded messageId.toList
  rw [decodeMessageId, hexEncode, String.toList_ofList, decoded]
  simp [← Vector.toArray_toList]

def memberNamed (name : String)
    (members : List (List Char × Json.Value)) : Option Json.Value :=
  (members.find? fun member => member.1 = name.toList).map Prod.snd

def textOf : Json.Value → Option String
  | .string text => some (String.ofList text)
  | _ => none

def int64Of : Json.Value → Option Int64
  | .number numeral => do
      let value ← numeral.integer
      if -2 ^ 63 ≤ value ∧ value < 2 ^ 63 then some (Int64.ofInt value)
      else none
  | _ => none

/-- A consumer of the listing looks the four members up by their names. -/
def readConflict : Json.Value → Option Conflict
  | .object members => do
      let sourceAccount ← (memberNamed "source_account" members).bind textOf
      let sequence ← (memberNamed "sequence" members).bind int64Of
      let envelopeA ← (memberNamed "envelope_a" members).bind textOf
      let envelopeB ← (memberNamed "envelope_b" members).bind textOf
      let envelopeA ← decodeMessageId envelopeA
      let envelopeB ← decodeMessageId envelopeB
      return { sourceAccount, sequence, envelopeA, envelopeB }
  | _ => none

def readConflicts : Json.Value → Option (List Conflict)
  | .array items => items.mapM readConflict
  | _ => none

theorem int64Of_integerNumeral (value : Int64) :
    int64Of (.number (Json.integerNumeral value.toInt)) = some value := by
  have low := value.le_toInt
  have high := value.toInt_lt
  rw [int64Of, Json.integerNumeral_integer]
  simp only [Option.bind_eq_bind, Option.bind_some]
  rw [if_pos ⟨low, high⟩, Int64.ofInt_toInt]

theorem readConflict_conflictValue (c : Conflict) :
    readConflict (conflictValue c) = some c := by
  rw [conflictValue, readConflict]
  generalize members : [
    ("source_account".toList, Json.Value.string c.sourceAccount.toList),
    ("sequence".toList, .number (Json.integerNumeral c.sequence.toInt)),
    ("envelope_a".toList, .string (hexEncode c.envelopeA).toList),
    ("envelope_b".toList, .string (hexEncode c.envelopeB).toList)] = listed
  have account : memberNamed "source_account" listed =
      some (.string c.sourceAccount.toList) := by
    rw [← members]
    rfl
  have sequence : memberNamed "sequence" listed =
      some (.number (Json.integerNumeral c.sequence.toInt)) := by
    rw [← members]
    rfl
  have first : memberNamed "envelope_a" listed =
      some (.string (hexEncode c.envelopeA).toList) := by
    rw [← members]
    rfl
  have second : memberNamed "envelope_b" listed =
      some (.string (hexEncode c.envelopeB).toList) := by
    rw [← members]
    rfl
  simp only [account, sequence, first, second, textOf, String.ofList_toList,
    int64Of_integerNumeral, decodeMessageId_hexEncode, Option.bind_eq_bind,
    Option.bind_some]
  rfl

theorem readConflicts_written (conflicts : List Conflict) :
    readConflicts (.array (conflicts.map conflictValue)) =
      some conflicts := by
  rw [readConflicts]
  induction conflicts with
  | nil => rfl
  | cons c conflicts induction =>
      rw [List.map_cons, List.mapM_cons, readConflict_conflictValue,
        induction]
      rfl

/-- What is listed is a document, and nothing of the conflicts is lost. -/
structure ListsConflicts (conflicts : List Conflict) : Prop where
  noNul : 0 ∉ (conflictsToJson conflicts).toUTF8.toList
  delivered : sseListUnresolvedConflicts (.ok conflicts) =
    some (conflictsToJson conflicts).toUTF8.toList
  wellFormed : Json.Document (conflictsToJson conflicts).toList
    (.array (conflicts.map conflictValue))
  readBack : ∃ value,
    Json.parse (conflictsToJson conflicts).toList = some value ∧
      readConflicts value = some conflicts

theorem zero_not_mem_conflictsToJson (conflicts : List Conflict) :
    0 ∉ (conflictsToJson conflicts).toUTF8.toList := by
  apply ByteLayout.zero_not_mem_utf8
  exact Json.Document.control_not_mem (by decide) (by decide)
    (spells_conflictsToJson conflicts).document

/-- The JSON written by hand is well formed and can be read back. -/
theorem conflictsToJson_lossless (conflicts : List Conflict) :
    ListsConflicts conflicts := by
  have document := (spells_conflictsToJson conflicts).document
  have noNul := zero_not_mem_conflictsToJson conflicts
  refine ⟨noNul, ?_, document, _, Json.parse_eq_some.mpr document,
    readConflicts_written conflicts⟩
  rw [sseListUnresolvedConflicts, CString.new]
  exact if_neg noNul

end StellarConduit
