import QualityGate.Proofs.Source.Characters
import QualityGate.Source.Masked

/-!
# Views are exact

A view is made byte by byte, and it is read as a text again.  Because no character is divided
between two kinds, every character is either kept or blanked as a whole.

* `veil` – what a view shows for a character of some kind: the character itself, or as many spaces
  as it has bytes.
* `exists_encode_eq_view` – the bytes of a view are those of what it shows for the characters, so
  they are a text and are never read leniently (`decode?_view`).
* `mask_exact` – what every byte of either view is.
-/

namespace QualityGate.Source

open QualityGate.Text

/-- What the view of a region shows for a character of some kind. -/
def veil (region : Region) (marked : Char × Kind) : List Char :=
  if marked.1 = '\n' ∨ marked.2 = region.kind then [marked.1]
  else List.replicate (String.utf8EncodeChar marked.1).length ' '

/-- What a view shows for a cell. -/
def veilByte (region : Region) (cell : Cell) : UInt8 :=
  if cell.1 = newline ∨ cell.2 = region.kind then cell.1 else space

theorem view_eq_map (region : Region) (bytes : Bytes) :
    view region bytes = (cells bytes).map (veilByte region) := rfl

theorem encode_replicate_space (count : Nat) :
    Utf8.encode (List.replicate count ' ') = List.replicate count space := by
  induction count with
  | zero => rfl
  | succ count ih =>
    rw [List.replicate_succ, Utf8.encode_cons, ih, List.replicate_succ]
    rfl

/-- The bytes of a character are veiled all or none. -/
theorem encode_veil (region : Region) (c : Char) (kind : Kind) :
    Utf8.encode (veil region (c, kind)) =
      ((String.utf8EncodeChar c).map (·, kind)).map (veilByte region) := by
  rw [veil, List.map_map]
  split
  · next kept =>
    have same : ∀ b ∈ String.utf8EncodeChar c, (veilByte region ∘ (·, kind)) b = b :=
      fun b mem => if_pos (kept.imp (eq_newline_iff mem).mpr id)
    rw [List.map_congr_left same, List.map_id', Utf8.encode_cons, Utf8.encode_nil, List.append_nil]
  · next hidden =>
    have same : ∀ b ∈ String.utf8EncodeChar c, (veilByte region ∘ (·, kind)) b = space :=
      fun b mem => if_neg fun kept => hidden (kept.imp (eq_newline_iff mem).mp id)
    rw [List.map_congr_left same, List.map_const', encode_replicate_space]

theorem map_veilByte_spread (region : Region) (marked : List (Char × Kind)) :
    (spread marked).map (veilByte region) = Utf8.encode (marked.flatMap (veil region)) := by
  induction marked with
  | nil => rfl
  | cons first marked ih =>
    rw [spread_cons, List.map_append, ih, List.flatMap_cons, Utf8.encode_append, ← encode_veil]

/-- The bytes of a view are those of a text. -/
theorem exists_encode_eq_view (region : Region) (text : List Char) :
    ∃ shown, Utf8.encode shown = view region (Utf8.encode text) := by
  obtain ⟨marked, -, found⟩ := exists_spread text
  exact ⟨marked.flatMap (veil region), by rw [view_eq_map, found, map_veilByte_spread]⟩

/-- The lenient reading is never used. -/
theorem decode?_view (region : Region) (text : List Char) :
    Utf8.decode? (view region (Utf8.encode text)) =
      some (shown region (Utf8.encode text)) := by
  obtain ⟨shown', same⟩ := exists_encode_eq_view region text
  have read := Utf8.decode?_eq_some_iff.mpr same
  rw [shown, read, Option.getD_some]

theorem text_mask (text : List Char) (region : Region) :
    (mask text).text region = shown region (Utf8.encode text) := by
  cases region <;> rfl

/-- A view as a text has the bytes of the view. -/
theorem encode_text_mask (text : List Char) (region : Region) :
    Utf8.encode ((mask text).text region) = view region (Utf8.encode text) := by
  rw [text_mask]
  exact Utf8.decode?_eq_some_iff.mp (decode?_view region text)

theorem length_view (region : Region) (bytes : Bytes) :
    (view region bytes).length = bytes.length := by
  rw [view_eq_map, List.length_map, length_cells]

theorem getElem?_cells {bytes : Bytes} {place : Nat} {cell : Cell} :
    (cells bytes)[place]? = some cell ↔
      bytes[place]? = some cell.1 ∧ (kinds bytes)[place]? = some cell.2 := by
  rw [cells, List.getElem?_zip_eq_some]

theorem map_snd_cells (bytes : Bytes) : (cells bytes).map (·.2) = kinds bytes := by
  rw [cells, List.map_snd_zip (Nat.le_of_eq (length_kinds bytes))]

/-- The bytes of one character have one kind. -/
theorem exists_kind_of_append (before : List Char) (c : Char) (after : List Char) :
    ∃ kind, ∀ place < (String.utf8EncodeChar c).length,
      (kinds (Utf8.encode (before ++ c :: after)))[(Utf8.encode before).length + place]? =
        some kind := by
  obtain ⟨marked, same, found⟩ := exists_spread (before ++ c :: after)
  obtain ⟨front, rest, rfl, rfl, later⟩ := List.map_eq_append_iff.mp same
  obtain ⟨⟨_, kind⟩, back, rfl, rfl, rfl⟩ := List.map_eq_cons_iff.mp later
  refine ⟨kind, fun place inside => ?_⟩
  have before : (Utf8.encode (front.map (·.1))).length = ((spread front).map (·.2)).length := by
    rw [List.length_map, length_spread]
  have whole := congrArg (List.map (·.2)) found
  rw [map_snd_cells, spread_append, List.map_append, spread_cons, List.map_append] at whole
  rw [whole, before, List.getElem?_append_right (Nat.le_add_right _ _), Nat.add_sub_cancel_left,
    List.getElem?_append_left (by simpa using inside), List.getElem?_map, List.getElem?_map,
    List.getElem?_eq_getElem inside]
  rfl

/-- **Masked views are exact.**  Blanking yields the bytes of a text, so it is never read leniently.
Both views are as long as the text, and so are the kinds.  A byte that is a newline or has the kind
of the region is kept, and any other is a space.  The bytes of one character have one kind, and the
code alone is the view of the code. -/
theorem mask_exact (text : List Char) :
    (∀ region, Utf8.decode? (view region (Utf8.encode text)) = some ((mask text).text region)) ∧
      (mask text).kinds.length = (Utf8.encode text).length ∧
      (∀ region,
        (Utf8.encode ((mask text).text region)).length = (Utf8.encode text).length ∧
        ∀ place < (Utf8.encode text).length, ∃ byte kind,
          (Utf8.encode text)[place]? = some byte ∧ (mask text).kinds[place]? = some kind ∧
          (Utf8.encode ((mask text).text region))[place]? =
            some (if byte = newline ∨ kind = region.kind then byte else space)) ∧
      (∀ before c after, text = before ++ c :: after → ∃ kind,
        ∀ place < (String.utf8EncodeChar c).length,
          (mask text).kinds[(Utf8.encode before).length + place]? = some kind) ∧
      codeOnly text = (mask text).text .code := by
  refine ⟨fun region => ?_, length_kinds _, fun region => ⟨?_, fun place inside => ?_⟩, ?_, rfl⟩
  · rw [text_mask, decode?_view]
  · rw [encode_text_mask, length_view]
  · have placed : place < (kinds (Utf8.encode text)).length := by rwa [length_kinds]
    have cell : (cells (Utf8.encode text))[place]? =
        some ((Utf8.encode text)[place], (kinds (Utf8.encode text))[place]) :=
      getElem?_cells.mpr ⟨List.getElem?_eq_getElem inside, List.getElem?_eq_getElem placed⟩
    refine ⟨_, _, List.getElem?_eq_getElem inside, List.getElem?_eq_getElem placed, ?_⟩
    rw [encode_text_mask, view_eq_map, List.getElem?_map, cell]
    rfl
  · rintro before c after rfl
    exact exists_kind_of_append before c after

/-- A literal in which the backslash takes a byte of a longer character along, and a comment. -/
def escapedText : List Char := "\"\\é\" // ü".toList

/-- The character behind the backslash is not divided, and the one in the comment is blanked in the
view of the code. -/
theorem mask_exact_escaped :
    escapedText = "\"\\".toList ++ 'é' :: "\" // ü".toList ∧
      (∃ kind, (mask escapedText).kinds[2]? = some kind ∧
        (mask escapedText).kinds[3]? = some kind) ∧
      10 < (Utf8.encode escapedText).length ∧
      (Utf8.encode ((mask escapedText).text .code))[10]? = some space := by
  obtain ⟨-, -, bytes, characters, -⟩ := mask_exact escapedText
  have split : escapedText = "\"\\".toList ++ 'é' :: "\" // ü".toList := by decide
  have inside : 10 < (Utf8.encode escapedText).length := by decide
  refine ⟨split, ?_, inside, ?_⟩
  · obtain ⟨kind, same⟩ := characters _ _ _ split
    exact ⟨kind, same 0 (by decide), same 1 (by decide)⟩
  · obtain ⟨byte, kind, found, known, shown⟩ := (bytes .code).2 10 inside
    have last : (Utf8.encode escapedText)[10]? = some 0xBC := by decide
    have comment : (mask escapedText).kinds[10]? = some .comment := by decide +kernel
    cases found.symm.trans last
    cases known.symm.trans comment
    exact shown

end QualityGate.Source
