import QualityGate.Project.Directory
import QualityGate.Proofs.Config.Validation
import QualityGate.Proofs.Text.Boundary
import QualityGate.Proofs.Text.Pieces

/-!
# The files of the manifests

Every unit has a manifest file of its own, whose name is written byte by byte from the name of the
unit.  Two units with one file would overwrite and delete each other's manifests.

* `isPlain` – the bytes that stand for themselves; any other is written with two digits.
* `byteOf?` reads back the byte that a piece of a file name stands for.  It takes digits of either
  case, so it also reads names that have lost their capitals (`byteOf?_foldedByte`).
* `map_eq_of_flatMap_eq` – texts that are written with pieces which tell their length by their first
  character are equal only if the pieces are.
* `pathNames_manifestPath` – the file is in the directory of the manifests, not below it or beside
  it.
* `manifests_unshared` – names of files are equal exactly when the names of the units are, with and
  without regard to case; so the units of an accepted configuration have different files.

### What is load-bearing

A percent sign never stands for itself.  So the first character of a piece says whether two digits
belong to it, and the pieces can be told apart without anything between them.
-/

namespace QualityGate

open QualityGate.Text

/-! ### Case -/

/-- The byte of the same letter in lower case. -/
def lowerByte (byte : UInt8) : UInt8 := if 0x41 ≤ byte ∧ byte ≤ 0x5A then byte + 0x20 else byte

theorem toNat_lowerByte (byte : UInt8) :
    (lowerByte byte).toNat =
      if 0x41 ≤ byte.toNat ∧ byte.toNat ≤ 0x5A then byte.toNat + 0x20 else byte.toNat := by
  by_cases capital : 0x41 ≤ byte.toNat ∧ byte.toNat ≤ 0x5A
  · have small : byte.toNat + 0x20 < 256 := by omega
    have inside : 0x41 ≤ byte ∧ byte ≤ 0x5A :=
      ⟨UInt8.le_iff_toNat_le.mpr capital.1, UInt8.le_iff_toNat_le.mpr capital.2⟩
    rw [lowerByte, if_pos inside, if_pos capital, UInt8.toNat_add]
    exact Nat.mod_eq_of_lt small
  · have outside : ¬ (0x41 ≤ byte ∧ byte ≤ 0x5A) := fun ⟨first, last⟩ =>
      capital ⟨UInt8.le_iff_toNat_le.mp first, UInt8.le_iff_toNat_le.mp last⟩
    rw [lowerByte, if_neg outside, if_neg capital]

theorem lowerByte_lowerByte (byte : UInt8) : lowerByte (lowerByte byte) = lowerByte byte := by
  rw [← UInt8.toNat_inj, toNat_lowerByte, toNat_lowerByte]
  split_ifs <;> omega

theorem utf8EncodeChar_toLower (c : Char) :
    String.utf8EncodeChar c.toLower = (String.utf8EncodeChar c).map lowerByte := by
  by_cases ascii : c.toNat < 0x80
  · have lower : c.toLower.toNat < 0x80 := by
      rw [toNat_toLower]
      split <;> omega
    have byte : (UInt8.ofNat c.toNat).toNat = c.toNat := UInt8.toNat_ofNat_of_lt' (by
      show c.toNat < 256
      omega)
    have same : UInt8.ofNat c.toLower.toNat = lowerByte (UInt8.ofNat c.toNat) := by
      rw [← UInt8.toNat_inj, toNat_lowerByte, byte, ← toNat_toLower]
      exact UInt8.toNat_ofNat_of_lt' (show c.toLower.toNat < 256 by omega)
    rw [Utf8.utf8EncodeChar_of_ascii ascii, Utf8.utf8EncodeChar_of_ascii lower, List.map_singleton]
    exact congrArg (fun byte => [byte]) same
  · have keeps : c.toLower = c := by
      rw [← Char.toNat_inj, toNat_toLower, if_neg (by omega)]
    have bytes : ∀ b ∈ String.utf8EncodeChar c, lowerByte b = b := by
      intro b mem
      have wide : 0x80 ≤ b.toNat := UInt8.le_iff_toNat_le.mp
        (Utf8.le_of_mem_utf8EncodeChar (Nat.le_of_not_lt ascii) mem)
      rw [← UInt8.toNat_inj, toNat_lowerByte, if_neg (by omega)]
    rw [keeps, List.map_congr_left bytes, List.map_id']

/-- The bytes of a name without regard to case. -/
theorem bytesOf_foldedId (id : String) :
    bytesOf (Config.foldedId id) = (bytesOf id).map lowerByte := by
  rw [bytesOf, Config.foldedId, String.toList_ofList, bytesOf, Utf8.encode, Utf8.encode,
    List.flatMap_map, List.map_flatMap]
  exact List.flatMap_congr fun c _ => utf8EncodeChar_toLower c

theorem foldedId_append (a b : String) :
    Config.foldedId (a ++ b) = Config.foldedId a ++ Config.foldedId b := by
  simp [Config.foldedId, String.ofList_append]

theorem bytesOf_inj {a b : String} : bytesOf a = bytesOf b ↔ a = b :=
  ⟨fun same => String.toList_inj.mp (Utf8.encode_injective same), congrArg bytesOf⟩

namespace ProjectDirectory

/-! ### Pieces -/

/-- The length of the piece of a file name that begins with some characters. -/
def pieceLength : List Char → Nat
  | '%' :: _ => 3
  | _ => 1

/-- The byte that a piece of a file name stands for. -/
def byteOf? : List Char → Option UInt8
  | [c] => some (UInt8.ofNat c.toNat)
  | ['%', high, low] => do
    let high ← hexValue? high
    let low ← hexValue? low
    return UInt8.ofNat (high * 16 + low)
  | _ => none

/-- The piece for a byte, without regard to case. -/
def foldedByte (byte : UInt8) : List Char := (fileNameByte byte).map Char.toLower

/-- Nothing in a piece leaves a directory or ends a path. -/
def isFlat (c : Char) : Bool := c.toNat < 0x80 && c != '/' && c != '\\' && c != '\x00'

theorem isFlat_iff {c : Char} : isFlat c = true ↔
    c.toNat < 0x80 ∧ c.toNat ≠ 0x2F ∧ c.toNat ≠ 0x5C ∧ c.toNat ≠ 0 := by
  have same {c d : Char} : c = d ↔ c.toNat = d.toNat := Char.toNat_inj.symm
  simp only [isFlat, Bool.and_eq_true, decide_eq_true_iff, bne_iff_ne, ne_eq, same, and_assoc]
  exact Iff.rfl

/-- The bytes that stand for themselves. -/
def isPlain (byte : UInt8) : Bool :=
  let c := Char.ofNat byte.toNat
  c.isAlphanum || c == '.' || c == '_' || c == '-'

/-- A digit of a piece. -/
def digit (value : Nat) : Char := (hexDigit value).toUpper

theorem fileNameByte_of_isPlain {byte : UInt8} (plain : isPlain byte = true) :
    fileNameByte byte = [Char.ofNat byte.toNat] := if_pos plain

theorem fileNameByte_of_not {byte : UInt8} (escaped : ¬ isPlain byte = true) :
    fileNameByte byte = ['%', digit (byte.toNat / 16), digit (byte.toNat % 16)] := if_neg escaped

/-- Digits are read in either case, and are no separators. -/
theorem hexValue?_digit {value : Nat} (small : value < 16) :
    hexValue? (digit value) = some value ∧ hexValue? (digit value).toLower = some value ∧
      isFlat (digit value) = true := by
  have all : ∀ n : Fin 16, hexValue? (digit n) = some n.val ∧
      hexValue? (digit n).toLower = some n.val ∧ isFlat (digit n) = true := by decide
  exact all ⟨value, small⟩

theorem toNat_charOf (byte : UInt8) : (Char.ofNat byte.toNat).toNat = byte.toNat := by
  have valid : byte.toNat.isValidChar := Or.inl (Nat.lt_trans byte.toNat_lt (by decide))
  rw [Char.ofNat, dif_pos valid]
  rfl

/-- Letters, digits, dots, hyphens and underscores. -/
theorem isPlain_iff {byte : UInt8} :
    isPlain byte = true ↔ 0x30 ≤ byte.toNat ∧ byte.toNat ≤ 0x39 ∨
      0x41 ≤ byte.toNat ∧ byte.toNat ≤ 0x5A ∨ 0x61 ≤ byte.toNat ∧ byte.toNat ≤ 0x7A ∨
      byte.toNat = 0x2D ∨ byte.toNat = 0x2E ∨ byte.toNat = 0x5F := by
  have value := toNat_charOf byte
  have same {c d : Char} : c = d ↔ c.toNat = d.toNat := Char.toNat_inj.symm
  rw [isPlain]
  generalize Char.ofNat byte.toNat = c at value
  have alphanum : c.isAlphanum =
      ((decide (0x41 ≤ c.val ∧ c.val ≤ 0x5A) ||
        (decide (0x61 ≤ c.val) && decide (c.val ≤ 0x7A))) ||
          (decide (0x30 ≤ c.val) && decide (c.val ≤ 0x39))) := rfl
  simp only [alphanum, Bool.or_eq_true, Bool.and_eq_true, decide_eq_true_iff, beq_iff_eq, same,
    UInt32.le_iff_toNat_le]
  show ((((0x41 ≤ c.toNat ∧ c.toNat ≤ 0x5A ∨ 0x61 ≤ c.toNat ∧ c.toNat ≤ 0x7A) ∨
    0x30 ≤ c.toNat ∧ c.toNat ≤ 0x39) ∨ c.toNat = 0x2E) ∨ c.toNat = 0x5F) ∨ c.toNat = 0x2D ↔ _
  omega

theorem utf8EncodeChar_charOf {byte : UInt8} (ascii : byte.toNat < 0x80) :
    String.utf8EncodeChar (Char.ofNat byte.toNat) = [byte] := by
  have value := toNat_charOf byte
  rw [← value] at ascii
  rw [Utf8.utf8EncodeChar_of_ascii ascii]
  exact congrArg (fun byte => [byte]) ((congrArg UInt8.ofNat value).trans UInt8.ofNat_toNat)

theorem toLower_charOf {byte : UInt8} (ascii : byte.toNat < 0x80) :
    (Char.ofNat byte.toNat).toLower = Char.ofNat (lowerByte byte).toNat := by
  have lower : (lowerByte byte).toNat < 0x80 := by
    rw [toNat_lowerByte]
    split <;> omega
  have bytes := utf8EncodeChar_toLower (Char.ofNat byte.toNat)
  rw [utf8EncodeChar_charOf ascii, List.map_singleton, ← utf8EncodeChar_charOf lower] at bytes
  have same : [(Char.ofNat byte.toNat).toLower] = [Char.ofNat (lowerByte byte).toNat] :=
    Utf8.encode_injective (by simpa using bytes)
  exact List.singleton_inj.mp same

theorem foldedByte_of_isPlain {byte : UInt8} (plain : isPlain byte = true) :
    foldedByte byte = [Char.ofNat (lowerByte byte).toNat] := by
  have ascii : byte.toNat < 0x80 := by
    have range := isPlain_iff.mp plain
    omega
  rw [foldedByte, fileNameByte_of_isPlain plain, List.map_singleton, toLower_charOf ascii]

theorem foldedByte_of_not {byte : UInt8} (escaped : ¬ isPlain byte = true) :
    foldedByte byte =
      ['%', (digit (byte.toNat / 16)).toLower, (digit (byte.toNat % 16)).toLower] := by
  rw [foldedByte, fileNameByte_of_not escaped]
  rfl

section Pieces

variable {byte : UInt8}

theorem pieceLength_singleton {c : Char} (other : c ≠ '%') : pieceLength [c] = 1 := by
  rw [pieceLength]
  rintro rest ⟨rfl⟩
  exact other rfl

theorem charOf_ne_percent (plain : isPlain byte = true) : Char.ofNat byte.toNat ≠ '%' := by
  have range := isPlain_iff.mp plain
  intro same
  have value : byte.toNat = 0x25 := (toNat_charOf byte).symm.trans (congrArg Char.toNat same)
  omega

theorem isPlain_lowerByte (plain : isPlain byte = true) : isPlain (lowerByte byte) = true := by
  rw [isPlain_iff, toNat_lowerByte]
  have range := isPlain_iff.mp plain
  split <;> omega

/-- Capitals stand for themselves. -/
theorem lowerByte_of_not (escaped : ¬ isPlain byte = true) : lowerByte byte = byte := by
  rw [isPlain_iff] at escaped
  rw [← UInt8.toNat_inj, toNat_lowerByte, if_neg (by omega)]

theorem length_fileNameByte (byte : UInt8) :
    (fileNameByte byte).length = pieceLength (fileNameByte byte) := by
  by_cases plain : isPlain byte = true
  · rw [fileNameByte_of_isPlain plain, pieceLength_singleton (charOf_ne_percent plain)]
    rfl
  · rw [fileNameByte_of_not plain]
    rfl

theorem length_foldedByte (byte : UInt8) :
    (foldedByte byte).length = pieceLength (foldedByte byte) := by
  by_cases plain : isPlain byte = true
  · have other := charOf_ne_percent (isPlain_lowerByte plain)
    rw [foldedByte_of_isPlain plain, pieceLength_singleton other]
    rfl
  · rw [foldedByte_of_not plain]
    rfl

theorem byteOf?_charOf (byte : UInt8) : byteOf? [Char.ofNat byte.toNat] = some byte := by
  have value := congrArg UInt8.ofNat (toNat_charOf byte)
  exact congrArg some (value.trans UInt8.ofNat_toNat)

/-- A byte is put together from the values of its digits. -/
theorem byteOf?_digits {high low : Char} (first : hexValue? high = some (byte.toNat / 16))
    (last : hexValue? low = some (byte.toNat % 16)) : byteOf? ['%', high, low] = some byte := by
  have read : byteOf? ['%', high, low] = (hexValue? high).bind fun high =>
      (hexValue? low).bind fun low => some (UInt8.ofNat (high * 16 + low)) := rfl
  rw [read, first, last, Option.bind_some, Option.bind_some, Nat.div_add_mod', UInt8.ofNat_toNat]

theorem digits_lt (byte : UInt8) : byte.toNat / 16 < 16 ∧ byte.toNat % 16 < 16 := by
  have small := byte.toNat_lt
  omega

theorem byteOf?_fileNameByte (byte : UInt8) : byteOf? (fileNameByte byte) = some byte := by
  by_cases plain : isPlain byte = true
  · rw [fileNameByte_of_isPlain plain, byteOf?_charOf]
  · obtain ⟨high, low⟩ := digits_lt byte
    rw [fileNameByte_of_not plain]
    exact byteOf?_digits (hexValue?_digit high).1 (hexValue?_digit low).1

theorem byteOf?_foldedByte (byte : UInt8) : byteOf? (foldedByte byte) = some (lowerByte byte) := by
  by_cases plain : isPlain byte = true
  · rw [foldedByte_of_isPlain plain, byteOf?_charOf]
  · obtain ⟨high, low⟩ := digits_lt byte
    rw [foldedByte_of_not plain, lowerByte_of_not plain]
    exact byteOf?_digits (hexValue?_digit high).2.1 (hexValue?_digit low).2.1

/-- Letters that differ only by case have the same piece. -/
theorem foldedByte_lowerByte (byte : UInt8) : foldedByte (lowerByte byte) = foldedByte byte := by
  by_cases plain : isPlain byte = true
  · rw [foldedByte_of_isPlain plain, foldedByte_of_isPlain (isPlain_lowerByte plain),
      lowerByte_lowerByte]
  · rw [lowerByte_of_not plain]

theorem isFlat_of_mem_fileNameByte {c : Char} (mem : c ∈ fileNameByte byte) : isFlat c = true := by
  by_cases plain : isPlain byte = true
  · rw [fileNameByte_of_isPlain plain, List.mem_singleton] at mem
    have range := isPlain_iff.mp plain
    rw [isFlat_iff, mem, toNat_charOf]
    omega
  · obtain ⟨high, low⟩ := digits_lt byte
    rw [fileNameByte_of_not plain, List.mem_cons, List.mem_cons, List.mem_singleton] at mem
    rcases mem with rfl | rfl | rfl
    · decide
    · exact (hexValue?_digit high).2.2
    · exact (hexValue?_digit low).2.2

end Pieces

/-! ### Names -/

theorem pieceLength_append {text : List Char} (nonempty : text ≠ []) (rest : List Char) :
    pieceLength (text ++ rest) = pieceLength text := by
  obtain ⟨c, text, rfl⟩ := List.exists_cons_of_ne_nil nonempty
  by_cases percent : c = '%' <;> simp [pieceLength, percent]

/-- Texts that are written with pieces which tell their length are equal only if the pieces are. -/
theorem map_eq_of_flatMap_eq {piece : UInt8 → List Char}
    (length : ∀ byte, (piece byte).length = pieceLength (piece byte)) {a b : Bytes}
    (same : a.flatMap piece = b.flatMap piece) : a.map piece = b.map piece := by
  have nonempty (byte : UInt8) : piece byte ≠ [] := by
    intro nothing
    have none := length byte
    rw [nothing] at none
    cases none
  induction a generalizing b with
  | nil =>
    cases b with
    | nil => rfl
    | cons y b => exact absurd (List.append_eq_nil_iff.mp same.symm).1 (nonempty y)
  | cons x a ih =>
    cases b with
    | nil => exact absurd (List.append_eq_nil_iff.mp same).1 (nonempty x)
    | cons y b =>
      rw [List.flatMap_cons, List.flatMap_cons] at same
      have lengths : (piece x).length = (piece y).length := by
        rw [length, length, ← pieceLength_append (nonempty x) (a.flatMap piece), same,
          pieceLength_append (nonempty y)]
      obtain ⟨first, rest⟩ := List.append_inj same lengths
      rw [List.map_cons, List.map_cons, first, ih rest]

theorem manifestName_inj {u v : String} : manifestName u = manifestName v ↔ u = v := by
  refine ⟨fun same => ?_, congrArg manifestName⟩
  rw [manifestName, manifestName, String.append_left_inj, String.ofList_inj] at same
  have pieces := map_eq_of_flatMap_eq length_fileNameByte same
  have bytes := congrArg (List.map byteOf?) pieces
  simp only [List.map_map, Function.comp_def, byteOf?_fileNameByte] at bytes
  exact bytesOf_inj.mp (List.map_injective_iff.mpr (fun _ _ => Option.some.inj) bytes)

theorem foldedId_manifestName (unit : String) :
    Config.foldedId (manifestName unit) =
      String.ofList ((bytesOf unit).flatMap foldedByte) ++ ".json" := by
  have extension : Config.foldedId ".json" = ".json" := by decide
  rw [manifestName, foldedId_append, extension, Config.foldedId, String.toList_ofList,
    List.map_flatMap]
  rfl

theorem foldedId_manifestName_inj {u v : String} :
    Config.foldedId (manifestName u) = Config.foldedId (manifestName v) ↔
      Config.foldedId u = Config.foldedId v := by
  rw [foldedId_manifestName, foldedId_manifestName, String.append_left_inj, String.ofList_inj,
    ← bytesOf_inj, bytesOf_foldedId, bytesOf_foldedId]
  constructor
  · intro same
    have pieces := congrArg (List.map byteOf?) (map_eq_of_flatMap_eq length_foldedByte same)
    simp only [List.map_map, Function.comp_def, byteOf?_foldedByte] at pieces
    refine List.map_injective_iff.mpr (fun _ _ => Option.some.inj) ?_
    rw [List.map_map, List.map_map]
    exact pieces
  · intro same
    have pieces := congrArg (List.flatMap foldedByte) same
    simpa only [List.flatMap_map, foldedByte_lowerByte] using pieces

theorem isFlat_of_mem_manifestName {unit : String} {c : Char}
    (mem : c ∈ (manifestName unit).toList) : isFlat c = true := by
  rw [manifestName, String.toList_append, String.toList_ofList, List.mem_append] at mem
  rcases mem with piece | extension
  · obtain ⟨byte, -, piece⟩ := List.mem_flatMap.mp piece
    exact isFlat_of_mem_fileNameByte piece
  · exact List.all_eq_true.mp (by decide : ".json".toList.all isFlat = true) c extension

/-! ### Places -/

theorem endsWith_slash_iff {path : String} :
    path.endsWith "/" = true ↔ ∃ front, path.toList = front ++ ['/'] := by
  rw [String.endsWith_eq_endsWith_toSlice, String.Slice.endsWith_string_iff, String.copy_toSlice]
  exact exists_congr fun front => eq_comm

/-- A name after a path follows a slash. -/
theorem toList_joinPath {base name : String} (some : base ≠ "") (flat : '/' ∉ name.toList) :
    (joinPath base name).toList =
      (if base.endsWith "/" then base.toList else base.toList ++ ['/']) ++ name.toList := by
  have relative : ¬ (base.isEmpty || name.startsWith "/") = true := by
    rw [Bool.or_eq_true, String.isEmpty_iff, String.startsWith_string_iff, not_or]
    exact ⟨some, fun first => flat (first.subset (List.mem_singleton_self _))⟩
  rw [joinPath, if_neg relative]
  split
  · exact String.toList_append
  · rw [String.toList_append, String.toList_append]
    rfl

theorem exists_toList_joinPath {base name : String} (some : base ≠ "")
    (flat : '/' ∉ name.toList) :
    ∃ front, (joinPath base name).toList = front ++ '/' :: name.toList := by
  rw [toList_joinPath some flat]
  split
  · next slash =>
    obtain ⟨front, whole⟩ := endsWith_slash_iff.mp slash
    exact ⟨front, by rw [whole, List.append_assoc, List.singleton_append]⟩
  · exact ⟨base.toList, by rw [List.append_assoc, List.singleton_append]⟩

/-- The names of a path that ends with a name. -/
theorem pathNames_eq {path name : String} {front : List Char}
    (whole : path.toList = front ++ '/' :: name.toList) (some : name ≠ "")
    (flat : '/' ∉ name.toList) :
    pathNames path =
      ((splitOn '/' front).map String.ofList).filter (! ·.isEmpty) ++ [name] := by
  rw [pathNames, whole, splitOn_append_sep, splitOn_of_notMem flat]
  simp [some]

theorem slash_notMem_manifestName (unit : String) : '/' ∉ (manifestName unit).toList :=
  fun mem => absurd (isFlat_of_mem_manifestName mem) (by decide)

theorem toList_manifestName (unit : String) :
    (manifestName unit).toList = (bytesOf unit).flatMap fileNameByte ++ ".json".toList := by
  rw [manifestName, String.toList_append, String.toList_ofList]

theorem getLast?_manifestName (unit : String) : (manifestName unit).toList.getLast? = some 'n' := by
  rw [toList_manifestName, List.getLast?_append_of_ne_nil _ (by decide)]
  rfl

/-- The path of a file or directory of the project is not empty. -/
theorem path_ne_empty (project : ProjectDirectory) {relative : String} (some : relative ≠ "") :
    project.path relative ≠ "" := by
  rw [path, joinPath]
  split
  · exact some
  · split <;> simp [some]

/-- The path of the directory ends with its name. -/
theorem exists_toList_manifestsPath (project : ProjectDirectory) :
    ∃ front, project.manifestsPath.toList = front ++ '/' :: "manifests".toList :=
  exists_toList_joinPath (project.path_ne_empty (by decide)) (by decide)

theorem toList_manifestPath (project : ProjectDirectory) (unit : String) :
    (project.manifestPath unit).toList =
      project.manifestsPath.toList ++ '/' :: (manifestName unit).toList := by
  obtain ⟨front, whole⟩ := project.exists_toList_manifestsPath
  have some : project.manifestsPath ≠ "" := by
    intro nothing
    rw [nothing] at whole
    simp at whole
  have noSlash : ¬ project.manifestsPath.endsWith "/" = true := by
    rw [endsWith_slash_iff]
    rintro ⟨back, slash⟩
    have last := congrArg List.getLast? (slash.symm.trans whole)
    rw [List.getLast?_concat, List.getLast?_append_of_ne_nil _ (by decide)] at last
    revert last
    decide
  rw [manifestPath, toList_joinPath some (slash_notMem_manifestName unit), if_neg noSlash,
    List.append_assoc, List.singleton_append]

/-- The file is directly in the directory of the manifests. -/
theorem pathNames_manifestPath (project : ProjectDirectory) (unit : String) :
    pathNames (project.manifestPath unit) =
      pathNames project.manifestsPath ++ [manifestName unit] := by
  obtain ⟨front, whole⟩ := project.exists_toList_manifestsPath
  have some : manifestName unit ≠ "" := by
    intro nothing
    have last := getLast?_manifestName unit
    rw [nothing] at last
    cases last
  rw [pathNames_eq (project.toList_manifestPath unit) some (slash_notMem_manifestName unit),
    pathNames_eq whole (by decide) (by decide), whole, splitOn_append_sep,
    splitOn_of_notMem (by decide : '/' ∉ "manifests".toList), List.map_append, List.filter_append]
  rfl

theorem dropTrailing_cons {c : Char} (noSlash : c ≠ '/') (noDot : c ≠ '.') (rest : List Char) :
    dropTrailing (c :: rest) = c :: rest := by
  unfold dropTrailing
  split <;> simp_all

/-- The directory of a path that ends with a name, when neither the name nor the directory ends with
anything that is left out. -/
theorem parentPath?_eq {path base name : String} {c d : Char}
    (whole : path.toList = base.toList ++ '/' :: name.toList) (flat : '/' ∉ name.toList)
    (last : name.toList.getLast? = some c) (noDot : c ≠ '.')
    (inner : base.toList.getLast? = some d) (noSlash' : d ≠ '/') (noDot' : d ≠ '.') :
    parentPath? path = some base := by
  have noSlash : c ≠ '/' := by
    rintro rfl
    exact flat (List.mem_of_getLast? last)
  obtain ⟨front, ends⟩ := List.getLast?_eq_some_iff.mp last
  obtain ⟨top, inside⟩ := List.getLast?_eq_some_iff.mp inner
  -- Read backwards the path is the name, a slash and the directory.
  have backwards : path.toList.reverse =
      c :: (front.reverse ++ '/' :: d :: top.reverse) := by
    rw [whole, ends, inside]
    simp
  have free : ∀ x ∈ c :: front.reverse, decide (x ≠ '/') = true := by
    intro x mem
    rw [decide_eq_true_iff]
    rintro rfl
    exact flat (by rw [ends]; simpa [or_comm] using mem)
  have cut : (c :: (front.reverse ++ '/' :: d :: top.reverse)).dropWhile (· ≠ '/') =
      '/' :: d :: top.reverse := by
    rw [← List.cons_append, List.dropWhile_append_of_pos free]
    rfl
  have parent : dropTrailing ('/' :: d :: top.reverse) = d :: top.reverse := by
    rw [dropTrailing, dropTrailing_cons noSlash' noDot']
    simp
  rw [parentPath?, backwards, dropTrailing_cons noSlash noDot]
  split
  · next nothing => cases nothing
  · next single => exact absurd (List.cons.inj single).1 noSlash
  · rw [cut, parent, List.reverse_cons, List.reverse_reverse, ← inside, String.ofList_toList]

/-- The directory that is made before the file is written. -/
theorem parentPath?_manifestPath (project : ProjectDirectory) (unit : String) :
    parentPath? (project.manifestPath unit) = some project.manifestsPath := by
  obtain ⟨front, directory⟩ := project.exists_toList_manifestsPath
  refine parentPath?_eq (project.toList_manifestPath unit) (slash_notMem_manifestName unit)
    (getLast?_manifestName unit) (by decide) (d := 's') ?_ (by decide) (by decide)
  rw [directory, List.getLast?_append_of_ne_nil _ (by decide)]
  rfl

/-- In one directory the paths of two files are equal only if their names are. -/
theorem foldedId_manifestPath_inj {project : ProjectDirectory} {u v : String}
    (same : Config.foldedId (project.manifestPath u) = Config.foldedId (project.manifestPath v)) :
    Config.foldedId (manifestName u) = Config.foldedId (manifestName v) := by
  rw [Config.foldedId, Config.foldedId, String.ofList_inj, toList_manifestPath,
    toList_manifestPath, List.map_append, List.map_append, List.append_cancel_left_eq,
    List.map_cons, List.map_cons] at same
  exact congrArg String.ofList (List.cons.inj same).2

/-- **No two units share a manifest file.**  Without regard to case the names of two files are equal
exactly when the names of the units are, and the exact names likewise.  A file name is ASCII, holds
no separator and no NUL, and so names a file in the directory of the manifests.  The units of an
accepted configuration therefore have different files even where case does not count. -/
theorem manifests_unshared (project : ProjectDirectory) :
    (∀ u v, Config.foldedId (manifestName u) = Config.foldedId (manifestName v) ↔
        Config.foldedId u = Config.foldedId v) ∧
      (∀ u v, manifestName u = manifestName v ↔ u = v) ∧
      (∀ u, (∀ c ∈ (manifestName u).toList, c.toNat < 0x80 ∧ c ≠ '/' ∧ c ≠ '\\' ∧ c ≠ '\x00') ∧
        pathNames (project.manifestPath u) = pathNames project.manifestsPath ++ [manifestName u] ∧
        manifestName u ≠ "." ∧ manifestName u ≠ ".." ∧
        parentPath? (project.manifestPath u) = some project.manifestsPath) ∧
      ∀ config : Config, config.validate = .ok () → config.units.Pairwise fun u v =>
        Config.foldedId (project.manifestPath u.id) ≠
          Config.foldedId (project.manifestPath v.id) := by
  refine ⟨fun u v => foldedId_manifestName_inj, fun u v => manifestName_inj, fun u => ?_, ?_⟩
  · refine ⟨fun c mem => ?_, project.pathNames_manifestPath u, ?_, ?_,
      project.parentPath?_manifestPath u⟩
    · simpa [isFlat, and_assoc] using isFlat_of_mem_manifestName mem
    · exact ne_of_apply_ne (·.toList.getLast?) (by rw [getLast?_manifestName]; decide)
    · exact ne_of_apply_ne (·.toList.getLast?) (by rw [getLast?_manifestName]; decide)
  · intro config valid
    have distinct := (Config.checkUnits_eq_ok_iff.mp (Config.validate_eq_ok_iff.mp valid).1).2.2
    refine (List.pairwise_map.mp distinct).imp fun {u v} other same => other ?_
    rw [← foldedId_manifestName_inj]
    exact foldedId_manifestPath_inj same

/-- Units whose names would be the same if separators were flattened. -/
def alikeUnits : Config where
  units := [.ofFiles "Config/eslint" ["a"], .ofFiles "config-eslint" ["b"],
    .ofFiles "config%2Feslint" ["c"], .ofFiles "config/ESLintß" ["d"]]

theorem manifests_unshared_alike :
    alikeUnits.validate = .ok () ∧ alikeUnits.units.Pairwise fun u v =>
      Config.foldedId (manifestPath ⟨"/project"⟩ u.id) ≠
        Config.foldedId (manifestPath ⟨"/project"⟩ v.id) := by
  have valid : alikeUnits.validate = .ok () := by decide +kernel
  exact ⟨valid, (manifests_unshared ⟨"/project"⟩).2.2.2 alikeUnits valid⟩

end ProjectDirectory

end QualityGate
