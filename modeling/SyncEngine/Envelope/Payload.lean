import SyncEngine.Envelope.Multisig

namespace StellarConduit

open Data

/-! What a signature over the multisig payload authorises. The account and the
transaction are written around the sequence without a length, so bytes of one
field can be read as bytes of the next. -/

/-- The bytes of an envelope of `account` read as those of one of
`account ++ moved`. Either the text that is moved ends within the sequence, or
it ends within the transaction. -/
inductive ReadsAs (sequence : Int64) (txXdr moved : String)
    (sequence' : Int64) (txXdr' : String) : Prop
  | withinSequence (kept filled : Bytes)
      (short : moved.utf8ByteSize ≤ 8)
      (first : toLeBytes sequence.toUInt64 = moved.toUTF8.toList ++ kept)
      (second : toLeBytes sequence'.toUInt64 = kept ++ filled)
      (transaction : txXdr.toUTF8.toList = filled ++ txXdr'.toUTF8.toList)
  | pastSequence (rest : String)
      (first : moved.toUTF8.toList =
        toLeBytes sequence.toUInt64 ++ rest.toUTF8.toList)
      (transaction : txXdr.toUTF8.toList =
        rest.toUTF8.toList ++ toLeBytes sequence'.toUInt64 ++
          txXdr'.toUTF8.toList)

/-- The second triple takes the start of what follows the first account into
its own. -/
structure Shifted (account : String) (sequence : Int64) (txXdr : String)
    (account' : String) (sequence' : Int64) (txXdr' : String) : Prop where
  reading : ∃ moved : String, moved ≠ "" ∧ account' = account ++ moved ∧
    ReadsAs sequence txXdr moved sequence' txXdr'

/-- The second account goes on with at most eight bytes, or with a character
that starts right after eight of them. -/
structure ExtendedAccount (account account' : String) : Prop where
  extension : ∃ moved : String, moved ≠ "" ∧ account' = account ++ moved ∧
    (moved.utf8ByteSize ≤ 8 ∨
      ∃ word rest : String, moved = word ++ rest ∧ word.utf8ByteSize = 8)

theorem exists_sequence {bytes : Bytes} (wide : bytes.length = 8) :
    ∃ sequence : Int64, toLeBytes sequence.toUInt64 = bytes := by
  obtain ⟨value, written⟩ := exists_toLeBytes wide
  exact ⟨value.toInt64, by rw [UInt64.toUInt64_toInt64, written]⟩

theorem sequence_injective {first second : Int64}
    (same : toLeBytes first.toUInt64 = toLeBytes second.toUInt64) :
    first = second :=
  congrArg Int64.ofUInt64 (toLeBytes_injective same)

theorem ReadsAs.payload_eq {account moved txXdr txXdr' : String}
    {sequence sequence' : Int64}
    (reading : ReadsAs sequence txXdr moved sequence' txXdr') :
    multisigPayload account sequence txXdr =
      multisigPayload (account ++ moved) sequence' txXdr' := by
  simp only [multisigPayload, ByteLayout.utf8_append]
  cases reading with
  | withinSequence kept filled short first second transaction =>
      rw [first, second, transaction]
      simp only [List.append_assoc]
  | pastSequence rest first transaction =>
      rw [first, transaction]
      simp only [List.append_assoc]

theorem Shifted.payload_eq {account account' txXdr txXdr' : String}
    {sequence sequence' : Int64}
    (shifted : Shifted account sequence txXdr account' sequence' txXdr') :
    multisigPayload account sequence txXdr =
      multisigPayload account' sequence' txXdr' := by
  obtain ⟨moved, -, rfl, reading⟩ := shifted.reading
  exact reading.payload_eq

theorem Shifted.account_ne {account account' txXdr txXdr' : String}
    {sequence sequence' : Int64}
    (shifted : Shifted account sequence txXdr account' sequence' txXdr') :
    account ≠ account' := by
  obtain ⟨moved, some, extended, -⟩ := shifted.reading
  intro same
  apply some
  have bytes := congrArg (fun text : String => text.toUTF8.toList)
    (same.trans extended)
  simp only [ByteLayout.utf8_append] at bytes
  exact ByteLayout.utf8_eq_nil.mp (List.self_eq_append_right.mp bytes)

/-- Equal payloads whose second account is at least as long as the first. -/
theorem eq_or_shifted {account account' txXdr txXdr' : String}
    {sequence sequence' : Int64}
    (same : multisigPayload account sequence txXdr =
      multisigPayload account' sequence' txXdr')
    (longer : account.utf8ByteSize ≤ account'.utf8ByteSize) :
    (account = account' ∧ sequence = sequence' ∧ txXdr = txXdr') ∨
      Shifted account sequence txXdr account' sequence' txXdr' := by
  simp only [multisigPayload, List.append_assoc] at same
  have cut : account'.toUTF8.toList =
      account.toUTF8.toList ++
        account'.toUTF8.toList.drop account.utf8ByteSize := by
    have front : account.toUTF8.toList <+: account'.toUTF8.toList := by
      apply List.prefix_of_prefix_length_le (List.prefix_append _ _)
      · rw [same]
        exact List.prefix_append _ _
      rw [ByteLayout.length_utf8, ByteLayout.length_utf8]
      exact longer
    rw [← ByteLayout.length_utf8]
    exact List.prefix_append_drop front
  obtain ⟨moved, rfl, -⟩ := ByteLayout.exists_append_of_prefix cut
  rw [ByteLayout.utf8_append, List.append_assoc,
    List.append_cancel_left_eq] at same
  by_cases none : moved = ""
  · left
    subst none
    rw [ByteLayout.utf8_eq_nil.mpr rfl, List.nil_append] at same
    obtain ⟨sequences, transactions⟩ := List.append_inj same (by simp)
    exact ⟨by simp, sequence_injective sequences,
      ByteLayout.utf8_injective transactions⟩
  · right
    refine ⟨moved, none, rfl, ?_⟩
    rcases List.append_eq_append_iff.mp same with
      ⟨shared, first, transaction⟩ | ⟨kept, first, others⟩
    · obtain ⟨word, rest, -, -, backs⟩ :=
        ByteLayout.exists_split_of_shared first transaction
      exact .pastSequence rest (by rw [backs, first]) (by
        rw [backs, List.append_assoc, transaction])
    · have wide := congrArg List.length first
      rw [length_toLeBytes, List.length_append, ByteLayout.length_utf8]
        at wide
      rcases List.append_eq_append_iff.mp others with
        ⟨filled, keeps, transaction⟩ | ⟨filled, second, transaction⟩
      · have long := congrArg List.length keeps
        rw [List.length_append, length_toLeBytes] at long
        have empty : moved.utf8ByteSize = 0 := by omega
        exact absurd (String.utf8ByteSize_eq_zero_iff.mp empty) none
      · exact .withinSequence kept filled (by omega) first second transaction

theorem ReadsAs.extends {moved txXdr txXdr' : String}
    {sequence sequence' : Int64}
    (reading : ReadsAs sequence txXdr moved sequence' txXdr') :
    moved.utf8ByteSize ≤ 8 ∨
      ∃ word rest : String, moved = word ++ rest ∧ word.utf8ByteSize = 8 := by
  cases reading with
  | withinSequence kept filled short first second transaction =>
      exact Or.inl short
  | pastSequence rest first transaction =>
      rw [List.append_assoc] at transaction
      obtain ⟨word, back, joined, fronts, -⟩ :=
        ByteLayout.exists_split_of_shared first transaction
      refine Or.inr ⟨word, back, joined, ?_⟩
      rw [← ByteLayout.length_utf8, fronts, length_toLeBytes]

/-- Such an extension leaves room for two transactions. -/
theorem ExtendedAccount.exists_shifted {account account' : String}
    (extended : ExtendedAccount account account') :
    ∃ sequence txXdr sequence' txXdr',
      Shifted account sequence txXdr account' sequence' txXdr' := by
  obtain ⟨moved, some, rfl, short | ⟨word, rest, rfl, wide⟩⟩ :=
    extended.extension
  · let kept : Bytes := List.replicate (8 - moved.utf8ByteSize) 0
    have before : (moved.toUTF8.toList ++ kept).length = 8 := by
      rw [List.length_append, ByteLayout.length_utf8, List.length_replicate]
      omega
    have after : (kept ++ moved.toUTF8.toList).length = 8 := by
      rw [List.length_append, Nat.add_comm, ← List.length_append, before]
    obtain ⟨sequence, first⟩ := exists_sequence before
    obtain ⟨sequence', second⟩ := exists_sequence after
    refine ⟨sequence, moved, sequence', "", moved, some, rfl, ?_⟩
    refine .withinSequence kept moved.toUTF8.toList short first second ?_
    rw [ByteLayout.utf8_eq_nil.mpr rfl, List.append_nil]
  · have bytes : word.toUTF8.toList.length = 8 := by
      rw [ByteLayout.length_utf8, wide]
    obtain ⟨sequence, written⟩ := exists_sequence bytes
    refine ⟨sequence, rest ++ word, sequence, "", word ++ rest, some, rfl, ?_⟩
    refine .pastSequence rest ?_ ?_
    · rw [ByteLayout.utf8_append, written]
    · rw [ByteLayout.utf8_append, written, ByteLayout.utf8_eq_nil.mpr rfl,
        List.append_nil]

/-- Equal payloads are of equal triples, or one is the other shifted. -/
theorem eq_or_shifted_or_shifted {account account' txXdr txXdr' : String}
    {sequence sequence' : Int64}
    (same : multisigPayload account sequence txXdr =
      multisigPayload account' sequence' txXdr') :
    (account = account' ∧ sequence = sequence' ∧ txXdr = txXdr') ∨
      Shifted account sequence txXdr account' sequence' txXdr' ∨
      Shifted account' sequence' txXdr' account sequence txXdr := by
  rcases Nat.le_total account.utf8ByteSize account'.utf8ByteSize with
    longer | shorter
  · exact (eq_or_shifted same longer).imp_right Or.inl
  · rcases eq_or_shifted same.symm shorter with ⟨rfl, rfl, rfl⟩ | shifted
    · exact Or.inl ⟨rfl, rfl, rfl⟩
    · exact Or.inr (Or.inr shifted)

theorem Shifted.extendedAccount {account account' txXdr txXdr' : String}
    {sequence sequence' : Int64}
    (shifted : Shifted account sequence txXdr account' sequence' txXdr') :
    ExtendedAccount account account' := by
  obtain ⟨moved, some, extended, reading⟩ := shifted.reading
  exact ⟨moved, some, extended, reading.extends⟩

/-- Two triples with one payload are equal unless one is the other shifted,
and two accounts have such triples unless one extends the other. -/
theorem multisigPayload_binding_iff (account : String) (sequence : Int64)
    (txXdr : String) (account' : String) (sequence' : Int64)
    (txXdr' : String) :
    ((multisigPayload account sequence txXdr =
          multisigPayload account' sequence' txXdr' →
        account = account' ∧ sequence = sequence' ∧ txXdr = txXdr') ↔
      ¬ Shifted account sequence txXdr account' sequence' txXdr' ∧
        ¬ Shifted account' sequence' txXdr' account sequence txXdr) ∧
    ((∀ sequence txXdr sequence' txXdr',
        multisigPayload account sequence txXdr =
            multisigPayload account' sequence' txXdr' →
          account = account' ∧ sequence = sequence' ∧ txXdr = txXdr') ↔
      ¬ ExtendedAccount account account' ∧
        ¬ ExtendedAccount account' account) := by
  constructor
  · constructor
    · intro binding
      constructor
      · intro shifted
        exact shifted.account_ne (binding shifted.payload_eq).1
      · intro shifted
        exact shifted.account_ne (binding shifted.payload_eq.symm).1.symm
    · rintro ⟨forward, backward⟩ same
      rcases eq_or_shifted_or_shifted same with equal | shifted | shifted
      · exact equal
      · exact absurd shifted forward
      · exact absurd shifted backward
  · constructor
    · intro binding
      constructor
      · intro extended
        obtain ⟨sequence, txXdr, sequence', txXdr', shifted⟩ :=
          extended.exists_shifted
        exact shifted.account_ne
          (binding sequence txXdr sequence' txXdr' shifted.payload_eq).1
      · intro extended
        obtain ⟨sequence, txXdr, sequence', txXdr', shifted⟩ :=
          extended.exists_shifted
        exact shifted.account_ne (binding sequence' txXdr' sequence txXdr
          shifted.payload_eq.symm).1.symm
    · rintro ⟨forward, backward⟩ sequence txXdr sequence' txXdr' same
      rcases eq_or_shifted_or_shifted same with equal | shifted | shifted
      · exact equal
      · exact absurd shifted.extendedAccount forward
      · exact absurd shifted.extendedAccount backward

/-- One letter of the transaction read as one of the account. -/
theorem multisigPayload_ambiguous :
    multisigPayload "GABC" 0x4141414141414141 "AAAA" =
        multisigPayload "GABCA" 0x4141414141414141 "AAA" ∧
      "GABC" ≠ "GABCA" := by
  decide +kernel

end StellarConduit
