import Mathlib.Data.List.Forall2
import Mathlib.Data.List.Nodup
import ComputeTopology.Kfd.ProductNames
import ComputeTopology.Proofs.Lookup
import ComputeTopology.Proofs.Text.Numerals
import ComputeTopology.Proofs.Text.Pieces
import ComputeTopology.Proofs.Text.Trim

namespace ComputeTopology.Kfd.ProductNames

open Text (withoutReturn)

/-- A line is the row for a device and revision with this name. Of its blanks, those at its
    ends and around its first two commas do not count. -/
def IsRow (key : ProductKey) (line : List Char) (name : String) : Prop :=
  ∃ device revision rest, Text.trim line = device ++ ',' :: (revision ++ ',' :: rest) ∧
    ',' ∉ device ∧ ',' ∉ revision ∧ (Text.trim line).head? ≠ some '#' ∧
    Text.Numeral.Denotes 16 (Text.trim device) (Word.toNat key.1) ∧
    Text.Numeral.Denotes 16 (Text.trim revision) (Word.toNat key.2) ∧
    name = String.ofList (Text.trim rest)

/-- The texts at some paths, apart from those that cannot be read. -/
def tables (files : FileTree) (paths : List String) : List String :=
  paths.filterMap fun path => (files.readText path).toOption

/-- Take in an entry, unless there is one for its device and revision. -/
def keepFirst (entries : List (ProductKey × String)) (entry : ProductKey × String) :
    List (ProductKey × String) :=
  if (entries.lookup entry.1).isSome then entries else entries ++ [entry]

/-- The entries of a table, each device and revision once, in some order. -/
structure Lists (names : ProductNames) (entries : List (ProductKey × String)) : Prop where
  once : (entries.map Prod.fst).Nodup
  mem_iff : ∀ key name, (key, name) ∈ entries ↔ names.rows.lookup key = some name

section Rows

variable {key : ProductKey} {line : List Char} {name : String}

theorem row?_eq_some_iff : row? line = some (key, name) ↔ IsRow key line name := by
  obtain ⟨device, revision⟩ := key
  unfold row?
  by_cases comment : (Text.trim line).head? = some '#'
  · simp [IsRow, comment]
  · simp only [beq_iff_eq, comment, if_false, bind_pure_comp, Option.bind_eq_bind,
      Option.bind_eq_some_iff, Option.map_eq_map, Option.map_eq_some_iff, Prod.exists,
      Text.cut?_eq_some_iff, Text.Numeral.word?_eq_some_iff, Prod.mk.injEq]
    constructor
    · rintro ⟨front, _, ⟨whole, absent⟩, middle, rest, ⟨rfl, absentToo⟩, _, isDevice, _, isRevision,
        ⟨rfl, rfl⟩, rfl⟩
      exact ⟨front, middle, rest, whole, absent, absentToo, comment, isDevice, isRevision, rfl⟩
    · rintro ⟨front, middle, rest, whole, absent, absentToo, _, isDevice, isRevision, rfl⟩
      exact ⟨front, _, ⟨whole, absent⟩, middle, rest, ⟨rfl, absentToo⟩, _, isDevice, _, isRevision,
        ⟨rfl, rfl⟩, rfl⟩

theorem row?_withoutReturn (line : List Char) : row? (withoutReturn line) = row? line := by
  rcases Text.withoutReturn_cases line with same | ends
  · rw [same]
  · conv_rhs => rw [ends, row?, Text.trim_concat (by decide)]
    rfl

theorem rows_parse (text : String) : (parse text).rows = (Text.pieces text).filterMap row? := by
  obtain ⟨pieces, last, split, lines⟩ := Text.exists_pieces_of_lines text.toList
  rw [parse, Text.pieces, split, lines, List.filterMap_append, List.filterMap_append,
    List.filterMap_map]
  simp only [Function.comp_def, row?_withoutReturn]
  -- An empty last piece is no line, and no row either.
  cases last with
  | nil => rfl
  | cons c rest => rfl

/-- The rows of texts with line feeds between them are those of the texts one by one. -/
theorem rows_parse_intercalate (texts : List String) :
    (parse (String.intercalate "\n" texts)).rows = texts.flatMap fun text => (parse text).rows := by
  induction texts with
  | nil => rfl
  | cons text others ih =>
      cases others with
      | nil => simp
      | cons next later =>
          rw [String.intercalate_cons_cons, List.flatMap_cons, ← ih, rows_parse, Text.pieces_append,
            List.filterMap_append, ← rows_parse, ← rows_parse]

theorem rows_load (files : FileTree) (paths : List String) :
    (load files paths).rows = (tables files paths).flatMap fun text => (parse text).rows := by
  have readText : rowsAt files = fun path =>
      (files.readText path).toOption.toList.flatMap fun text => (parse text).rows := by
    funext path
    unfold rowsAt
    cases files.readText path <;> simp [Except.toOption]
  rw [load, readText, tables, ← List.flatMap_assoc, List.filterMap_eq_flatMap_toList]

/-- A product has the name that the first row for it gives, one table after another. -/
theorem name?_load_eq_some_iff {files : FileTree} {paths : List String} {device revision : UInt32} :
    (load files paths).name? device revision = some name ↔
      FirstGives (IsRow (device, revision))
        ((tables files paths).flatMap fun text => Text.lines text.toList) name := by
  have rows : (load files paths).rows =
      ((tables files paths).flatMap fun text => Text.lines text.toList).filterMap row? := by
    rw [rows_load, List.filterMap_flatMap]
    rfl
  rw [name?, rows, lookup_filterMap_eq_some_iff]
  simp only [row?_eq_some_iff]

end Rows

section Entries

variable {entries more : List (ProductKey × String)} {entry : ProductKey × String} {key : ProductKey}
  {names : ProductNames}

theorem lookup_keepFirst :
    (keepFirst entries entry).lookup key = (entries.lookup key).or ([entry].lookup key) := by
  obtain ⟨other, name⟩ := entry
  unfold keepFirst
  cases held : entries.lookup other with
  | none => rw [Option.isSome_none, if_neg Bool.false_ne_true, List.lookup_append]
  | some first =>
      rw [Option.isSome_some, if_pos rfl]
      by_cases same : key = other
      · rw [same, held, Option.some_or]
      · have passed : (key == other) = false := beq_false_of_ne same
        rw [List.lookup_cons, passed, List.lookup_nil, Option.or_none]

theorem lookup_foldl_keepFirst :
    (more.foldl keepFirst entries).lookup key = (entries.lookup key).or (more.lookup key) := by
  induction more generalizing entries with
  | nil => exact Option.or_none.symm
  | cons entry rest ih =>
      rw [List.foldl_cons, ih, lookup_keepFirst, Option.or_assoc, ← List.lookup_append,
        List.singleton_append]

theorem nodup_keepFirst (once : (entries.map Prod.fst).Nodup) :
    ((keepFirst entries entry).map Prod.fst).Nodup := by
  unfold keepFirst
  split
  · exact once
  · rename_i absent
    rw [Option.isSome_iff_ne_none, not_not, lookup_eq_none_iff] at absent
    rw [List.map_append]
    exact once.append (List.nodup_singleton _) (List.disjoint_singleton.mpr absent)

theorem nodup_foldl_keepFirst (once : (entries.map Prod.fst).Nodup) :
    ((more.foldl keepFirst entries).map Prod.fst).Nodup := by
  induction more generalizing entries with
  | nil => exact once
  | cons entry rest ih => exact ih (nodup_keepFirst once)

/-- Taking in the rows of a table one by one lists it. -/
theorem lists_foldl_keepFirst (names : ProductNames) :
    Lists names (names.rows.foldl keepFirst []) := by
  have once : ((names.rows.foldl keepFirst []).map Prod.fst).Nodup :=
    nodup_foldl_keepFirst List.nodup_nil
  refine ⟨once, fun key name => ?_⟩
  rw [← lookup_eq_some_iff (List.nodup_iff_count_le_one.mp once key), lookup_foldl_keepFirst]
  rfl

namespace Lists

theorem lookup (lists : Lists names entries) (key : ProductKey) :
    entries.lookup key = names.rows.lookup key := by
  ext name
  rw [lookup_eq_some_iff (List.nodup_iff_count_le_one.mp lists.once key), lists.mem_iff]

theorem perm (lists : Lists names entries) (order : entries.Perm more) : Lists names more :=
  ⟨(order.map Prod.fst).nodup_iff.mp lists.once,
    fun key name => order.mem_iff.symm.trans (lists.mem_iff key name)⟩

/-- It makes no difference in which order the entries of each table come. -/
theorem lookup_flatten {texts : List String} {listings : List (List (ProductKey × String))}
    (listed : List.Forall₂ (fun text => Lists (parse text)) texts listings) (key : ProductKey) :
    listings.flatten.lookup key = (texts.flatMap fun text => (parse text).rows).lookup key := by
  induction listed with
  | nil => rfl
  | cons lists _ ih =>
      rw [List.flatten_cons, List.lookup_append, lists.lookup, ih, List.flatMap_cons,
        List.lookup_append]

end Lists

end Entries

/-- The name of a product in several tables is the one in a single table with all their
    lines, and there the first row for the device and revision has it. Taking in the entries
    of one table after another, in whatever order each table lists its own, gives the same
    name. -/
theorem first_row_names (files : FileTree) (paths : List String) (device revision : UInt32) :
    let joined := String.intercalate "\n" (tables files paths)
    (load files paths).name? device revision = (parse joined).name? device revision ∧
      (∀ name, (parse joined).name? device revision = some name ↔
        FirstGives (IsRow (device, revision)) (Text.lines joined.toList) name) ∧
      ∀ listings, List.Forall₂ (fun text => Lists (parse text)) (tables files paths) listings →
        (listings.flatten.foldl keepFirst []).lookup (device, revision) =
          (parse joined).name? device revision := by
  intro joined
  have rows : (parse joined).rows = (tables files paths).flatMap fun text => (parse text).rows :=
    rows_parse_intercalate _
  refine ⟨?_, fun name => ?_, fun listings listed => ?_⟩
  · rw [name?, rows_load, ← rows, name?]
  · simp only [name?, parse, lookup_filterMap_eq_some_iff, row?_eq_some_iff]
  · rw [lookup_foldl_keepFirst, List.lookup_nil, Option.none_or, Lists.lookup_flatten listed, name?,
      rows]

/-- The first of two tables names a product that the second one names too, in other letters
    and with zeros in front, and the second one is listed backwards. -/
theorem first_row_of_two_tables :
    let first := "1.0.0\n#7448,00,Pro\n740F,\t02,\tInstinct, 64 GB\r\n740f,2,Other"
    let second := "0000740f , +2,Third\n7448, 00,W7900\n"
    let files := FileTree.directory [("first.ids", .file (some first)), ("raw.ids", .file none),
      ("second.ids", .file (some second))]
    let paths := ["/first.ids", "/missing.ids", "/raw.ids", "/second.ids"]
    let listings := [(parse first).rows.foldl keepFirst [],
      ((parse second).rows.foldl keepFirst []).reverse]
    List.Forall₂ (fun text => Lists (parse text)) (tables files paths) listings ∧
      (listings.flatten.foldl keepFirst []).lookup (0x740f, 2) = some "Instinct, 64 GB" ∧
      (listings.flatten.foldl keepFirst []).lookup (0x7448, 0) = some "W7900" ∧
      (load files paths).name? 0x740f 2 = some "Instinct, 64 GB" := by
  intro first second files paths listings
  have read : tables files paths = [first, second] := by decide +kernel
  have listed : List.Forall₂ (fun text => Lists (parse text)) (tables files paths) listings := by
    rw [read]
    exact .cons (lists_foldl_keepFirst _)
      (.cons ((lists_foldl_keepFirst _).perm (List.reverse_perm _).symm) .nil)
  obtain ⟨_, _, same⟩ := first_row_names files paths 0x740f 2
  obtain ⟨_, _, sameToo⟩ := first_row_names files paths 0x7448 0
  refine ⟨listed, (same listings listed).trans ?_, (sameToo listings listed).trans ?_, ?_⟩
  all_goals decide +kernel

end ComputeTopology.Kfd.ProductNames
