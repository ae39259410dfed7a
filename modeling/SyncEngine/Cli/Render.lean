import SyncEngine.Cli
import SyncEngine.Data.Text

namespace StellarConduit

open Data Text

namespace Cli

/-! The tables that the inspector prints. -/

/-- One pass of the loop over the rows: `none` where `widths[i]` is out of
range. -/
def widen : List Nat → List String → Option (List Nat)
  | widths, [] => some widths
  | [], _ :: _ => none
  | width :: widths, cell :: cells => do
      let rest ← widen widths cells
      return max width cell.utf8ByteSize :: rest

/-- No row is longer than the widths once the loop is done. -/
def renderRow (cells : List String) (widths : List Nat) : List Char :=
  [' ', ' '].intercalate (List.zipWith
    (fun cell width => padEnd width cell.toList) cells widths)

def renderRuler (widths : List Nat) : List Char :=
  [' ', ' '].intercalate (widths.map fun width => List.replicate width '-')

def noRows : List Char := "(no rows)".toList

def renderTable (headers : List String) (rows : List (List String)) :
    Option String := do
  let widths ← rows.foldlM widen (headers.map String.utf8ByteSize)
  let body :=
    if rows.isEmpty then [noRows]
    else rows.map fun row => trimEnd (renderRow row widths)
  return String.ofList (unlines
    (trimEnd (renderRow headers widths) :: renderRuler widths :: body))

/-! Widths that every cell fits into. -/

def Fits : List Nat → List String → Prop
  | _, [] => True
  | [], _ :: _ => False
  | width :: widths, cell :: cells =>
      cell.utf8ByteSize ≤ width ∧ Fits widths cells

theorem widen_of_length {widths : List Nat} {row : List String}
    (short : row.length ≤ widths.length) :
    ∃ wider, widen widths row = some wider ∧
      wider.length = widths.length ∧ Fits wider row ∧
      ∀ other, Fits widths other → Fits wider other := by
  induction row generalizing widths with
  | nil =>
      refine ⟨widths, ?_, rfl, ?_, fun _ fits => fits⟩
      · cases widths <;> rfl
      · cases widths <;> trivial
  | cons cell cells induction =>
      cases widths with
      | nil => simp at short
      | cons width widths =>
          obtain ⟨wider, widened, same, fits, keeps⟩ :=
            induction (Nat.le_of_succ_le_succ short)
          refine ⟨max width cell.utf8ByteSize :: wider, ?_, ?_, ?_, ?_⟩
          · rw [widen, widened]
            rfl
          · rw [List.length_cons, same, List.length_cons]
          · exact ⟨Nat.le_max_right _ _, fits⟩
          · intro other fitted
            cases other with
            | nil => trivial
            | cons first rest =>
                exact ⟨Nat.le_trans fitted.1 (Nat.le_max_left _ _),
                  keeps rest fitted.2⟩

theorem widen_of_rows {widths : List Nat} {rows : List (List String)}
    (short : ∀ row ∈ rows, row.length ≤ widths.length) :
    ∃ wider, rows.foldlM widen widths = some wider ∧
      wider.length = widths.length ∧ (∀ row ∈ rows, Fits wider row) ∧
      ∀ other, Fits widths other → Fits wider other := by
  induction rows generalizing widths with
  | nil => exact ⟨widths, rfl, rfl, by simp, fun _ fits => fits⟩
  | cons row rows induction =>
      obtain ⟨first, widened, sameLength, fits, keeps⟩ :=
        widen_of_length (short row List.mem_cons_self)
      obtain ⟨wider, folded, same, others, keepsAll⟩ :=
        @induction first fun other member => by
          rw [sameLength]
          exact short other (List.mem_cons_of_mem _ member)
      refine ⟨wider, ?_, same.trans sameLength, ?_, ?_⟩
      · rw [List.foldlM_cons, widened]
        exact folded
      · intro other member
        rcases List.mem_cons.mp member with rfl | behind
        · exact keepsAll _ fits
        · exact others other behind
      · exact fun other fitted => keepsAll other (keeps other fitted)

theorem fits_headers (headers : List String) :
    Fits (headers.map String.utf8ByteSize) headers := by
  induction headers with
  | nil => trivial
  | cons header rest induction => exact ⟨Nat.le_refl _, induction⟩

/-! What stands on a line. -/

/-- Where a column begins. -/
def columnAt (widths : List Nat) (i : Nat) : Nat :=
  ((widths.take i).map (· + 2)).sum

theorem blank_gap : Blank [' ', ' '] := blank_replicate 2

theorem words_renderRow {widths : List Nat} {row : List String}
    (fits : Fits widths row) (isWord : ∀ cell ∈ row, Word cell.toList) :
    words (renderRow row widths) = row.map String.toList := by
  rw [renderRow, words_intercalate blank_gap (by simp)]
  induction row generalizing widths with
  | nil => rfl
  | cons cell cells induction =>
      cases widths with
      | nil => exact fits.elim
      | cons width widths =>
          rw [List.zipWith_cons_cons, List.flatMap_cons, words_padEnd,
            (isWord cell List.mem_cons_self).words, List.map_cons,
            induction fits.2 fun other member =>
              isWord other (List.mem_cons_of_mem _ member)]
          rfl

theorem renderRow_cons {cell : String} {cells : List String} {width : Nat}
    {widths : List Nat} (more : cells ≠ [])
    (fits : Fits (width :: widths) (cell :: cells)) :
    renderRow (cell :: cells) (width :: widths) =
      padEnd width cell.toList ++ [' ', ' '] ++ renderRow cells widths := by
  obtain ⟨next, cells, rfl⟩ := List.exists_cons_of_ne_nil more
  cases widths with
  | nil => exact fits.2.elim
  | cons second widths =>
      exact List.intercalate_cons_cons

theorem starts_renderRow {widths : List Nat} {row : List String} {i : Nat}
    {cell : String} (fits : Fits widths row) (found : row[i]? = some cell) :
    Starts (renderRow row widths) (columnAt widths i) cell.toList := by
  induction row generalizing widths i with
  | nil => cases found
  | cons first cells induction =>
      cases widths with
      | nil => exact fits.elim
      | cons width widths =>
          have bound := length_le_bytes first.toList
          rw [String.ofList_toList] at bound
          have padded := length_padEnd (Nat.le_trans bound fits.1)
          cases i with
          | zero =>
              obtain rfl := Option.some_inj.mp found
              cases cells with
              | nil => exact ⟨[], _, by
                  simp only [renderRow, List.zipWith_cons_cons,
                    List.zipWith_nil_left, List.intercalate_singleton]
                  exact rfl, rfl⟩
              | cons next cells =>
                  rw [renderRow_cons (by simp) fits]
                  exact ⟨[], _, by
                    rw [padEnd, List.append_assoc, List.append_assoc]
                    exact rfl, rfl⟩
          | succ i =>
              have more : cells ≠ [] := by
                rintro rfl
                cases found
              have behind := (induction fits.2 found).behind
                (padEnd width first.toList ++ [' ', ' '])
              rw [List.length_append, padded] at behind
              rw [renderRow_cons more fits]
              exact behind

theorem starts_renderRuler {widths : List Nat} {i width : Nat}
    (found : widths[i]? = some width) :
    Starts (renderRuler widths) (columnAt widths i)
      (List.replicate width '-') := by
  induction widths generalizing i with
  | nil => cases found
  | cons first widths induction =>
      cases i with
      | zero =>
          obtain rfl := Option.some_inj.mp found
          cases widths with
          | nil => exact ⟨[], [], by simp [renderRuler], rfl⟩
          | cons next widths =>
              exact ⟨[], _, List.intercalate_cons_cons.trans
                (List.append_assoc _ _ _), rfl⟩
      | succ i =>
          cases widths with
          | nil => cases found
          | cons next widths =>
              have behind := (induction found).behind
                (List.replicate first '-' ++ [' ', ' '])
              rw [List.length_append, List.length_replicate] at behind
              have whole : renderRuler (first :: next :: widths) =
                  List.replicate first '-' ++ [' ', ' '] ++
                    renderRuler (next :: widths) :=
                List.intercalate_cons_cons
              rw [whole]
              exact behind

theorem renderRow_single {widths : List Nat} {row : List String}
    (isWord : ∀ cell ∈ row, Word cell.toList) :
    '\n' ∉ renderRow row widths := by
  intro member
  rcases mem_intercalate member with between | ⟨piece, among, inside⟩
  · simp at between
  · rw [← List.map_uncurry_zip_eq_zipWith] at among
    obtain ⟨⟨cell, width⟩, paired, rfl⟩ := List.mem_map.mp among
    have listed := (List.of_mem_zip paired).1
    rcases List.mem_append.mp inside with own | pad
    · exact (isWord cell listed).no_newline own
    · cases List.eq_of_mem_replicate pad

theorem renderRuler_single (widths : List Nat) :
    '\n' ∉ renderRuler widths := by
  intro member
  rcases mem_intercalate member with between | ⟨piece, among, inside⟩
  · simp at between
  · obtain ⟨width, -, rfl⟩ := List.mem_map.mp among
    cases List.eq_of_mem_replicate inside

theorem trimEnd_single {line : List Char} (single : '\n' ∉ line) :
    '\n' ∉ trimEnd line := by
  obtain ⟨gap, -, split⟩ := exists_trimmed line
  intro member
  rw [split] at single
  exact single (List.mem_append_left _ member)

/-- The cells of a row stand on the line at the columns of the widths. -/
def Aligned (widths : List Nat) (line : List Char) (row : List String) :
    Prop :=
  ∀ i cell, row[i]? = some cell →
    Starts line (columnAt widths i) cell.toList

/-- The lines of a table. -/
structure Tabular (widths : List Nat) (headers : List String)
    (rows : List (List String)) (lines : List (List Char)) : Prop where
  whole : lines = trimEnd (renderRow headers widths) ::
    renderRuler widths ::
      if rows.isEmpty then [noRows]
      else rows.map fun row => trimEnd (renderRow row widths)
  fitted : ∀ row ∈ headers :: rows, Fits widths row
  labelled : ∀ row ∈ headers :: rows, ∀ cell ∈ row, Word cell.toList

variable {headers : List String} {rows : List (List String)}

theorem exists_tabular
    (short : ∀ row ∈ rows, row.length ≤ headers.length)
    (labelled : ∀ row ∈ headers :: rows, ∀ cell ∈ row, Word cell.toList) :
    ∃ widths text, renderTable headers rows = some text ∧
      Tabular widths headers rows (toLines text.toList) := by
  obtain ⟨widths, widened, _, fits, keeps⟩ := @widen_of_rows
    (headers.map String.utf8ByteSize) rows (by simpa using short)
  have fitted : ∀ row ∈ headers :: rows, Fits widths row := by
    intro row member
    rcases List.mem_cons.mp member with rfl | listed
    · exact keeps _ (fits_headers _)
    · exact fits row listed
  have single : ∀ line ∈ trimEnd (renderRow headers widths) ::
      renderRuler widths ::
        (if rows.isEmpty then [noRows]
        else rows.map fun row => trimEnd (renderRow row widths)),
      '\n' ∉ line := by
    intro line member
    rcases List.mem_cons.mp member with rfl | member
    · exact trimEnd_single
        (renderRow_single (labelled headers List.mem_cons_self))
    · rcases List.mem_cons.mp member with rfl | member
      · exact renderRuler_single widths
      · split at member
        · rw [List.mem_singleton.mp member]
          decide
        · obtain ⟨row, listed, rfl⟩ := List.mem_map.mp member
          exact trimEnd_single (renderRow_single
            (labelled row (List.mem_cons_of_mem _ listed)))
  have rendered : renderTable headers rows = some (String.ofList (unlines
      (trimEnd (renderRow headers widths) :: renderRuler widths ::
        if rows.isEmpty then [noRows]
        else rows.map fun row => trimEnd (renderRow row widths)))) := by
    rw [renderTable, widened]
    rfl
  refine ⟨widths, _, rendered, ?_, fitted, labelled⟩
  rw [String.toList_ofList, toLines_unlines single]

/-! Reading a table back. -/

def labels (line : List Char) : List String :=
  (words line).map String.ofList

/-- The headers and the rows of a printed table. -/
def readTable (lines : List (List Char)) :
    Option (List String × List (List String)) :=
  match lines with
  | header :: _ :: body =>
      some (labels header, if body = [noRows] then [] else body.map labels)
  | _ => none

theorem labels_row {widths : List Nat} {row : List String}
    (fits : Fits widths row) (isWord : ∀ cell ∈ row, Word cell.toList) :
    labels (trimEnd (renderRow row widths)) = row := by
  rw [labels, words_trimEnd, words_renderRow fits isWord, List.map_map]
  simp [Function.comp_def]

namespace Tabular

variable {widths : List Nat} {lines : List (List Char)}

theorem aligned (tabular : Tabular widths headers rows lines)
    {row : List String} (member : row ∈ headers :: rows) :
    Aligned widths (trimEnd (renderRow row widths)) row := by
  intro i cell found
  exact (starts_renderRow (tabular.fitted row member) found).trimEnd
    (tabular.labelled row member cell (List.mem_of_getElem? found))

/-- A row that reads `(no rows)` is the only one that a table of no rows looks
like. -/
theorem reads (tabular : Tabular widths headers rows lines)
    (unlike : rows ≠ [["(no", "rows)"]]) :
    readTable lines = some (headers, rows) := by
  have labelled (row : List String) (member : row ∈ headers :: rows) :
      labels (trimEnd (renderRow row widths)) = row :=
    labels_row (tabular.fitted row member) (tabular.labelled row member)
  rw [tabular.whole, readTable, labelled headers List.mem_cons_self]
  cases rows with
  | nil => rfl
  | cons row others =>
      have each : ((row :: others).map fun row =>
          trimEnd (renderRow row widths)).map labels = row :: others := by
        rw [List.map_map]
        conv_rhs => rw [← List.map_id (row :: others)]
        apply List.map_congr_left
        intro other member
        exact labelled other (List.mem_cons_of_mem _ member)
      have shown : ((row :: others).map fun row =>
          trimEnd (renderRow row widths)) ≠ [noRows] := by
        intro same
        rw [same] at each
        exact unlike (each.symm.trans (by decide))
      rw [List.isEmpty_cons, if_neg Bool.false_ne_true, if_neg shown, each]

end Tabular

/-- A table is rendered without a panic whatever the widths of its cells, as
long as no row is longer than the header. Every cell begins where its column
does, a ruler that no cell is wider than stands under every header, and the
table reads back, unless its only row is `(no rows)` in two columns. -/
theorem renderTable_exact
    (short : ∀ row ∈ rows, row.length ≤ headers.length)
    (labelled : ∀ row ∈ headers :: rows, ∀ cell ∈ row, Word cell.toList) :
    ∃ text widths header body, renderTable headers rows = some text ∧
      toLines text.toList = header :: renderRuler widths :: body ∧
      Aligned widths header headers ∧
      (∀ i width, widths[i]? = some width →
        Starts (renderRuler widths) (columnAt widths i)
          (List.replicate width '-')) ∧
      (rows = [] ∧ body = [noRows] ∨
        rows ≠ [] ∧ List.Forall₂ (Aligned widths) body rows) ∧
      (∀ row ∈ headers :: rows, Fits widths row) ∧
      (rows ≠ [["(no", "rows)"]] →
        readTable (toLines text.toList) = some (headers, rows)) := by
  obtain ⟨widths, text, rendered, tabular⟩ := exists_tabular short labelled
  refine ⟨text, widths, _, _, rendered, tabular.whole,
    tabular.aligned List.mem_cons_self, fun _ _ => starts_renderRuler, ?_,
    tabular.fitted, tabular.reads⟩
  cases rows with
  | nil => exact Or.inl ⟨rfl, rfl⟩
  | cons row others =>
      refine Or.inr ⟨List.cons_ne_nil _ _, ?_⟩
      rw [List.isEmpty_cons, if_neg Bool.false_ne_true,
        List.forall₂_map_left_iff, List.forall₂_same]
      intro other member
      exact tabular.aligned (List.mem_cons_of_mem _ member)

theorem renderTable_exact_two :
    ∃ text, renderTable ["ID", "STATUS"] [["17", "settled"]] = some text ∧
      readTable (toLines text.toList) =
        some (["ID", "STATUS"], [["17", "settled"]]) := by
  obtain ⟨text, widths, header, body, rendered, -, -, -, -, -, reads⟩ :=
    @renderTable_exact ["ID", "STATUS"] [["17", "settled"]] (by decide)
      (by decide)
  exact ⟨text, rendered, reads (by decide)⟩

end Cli

end StellarConduit
