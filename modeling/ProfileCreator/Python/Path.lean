import ProfileCreator.Python.Builtins

/-! # `pathlib.PurePosixPath`

`resolve_path` turns strings into paths, compares them with `relative_to`, joins them with `/`
and turns them back with `str()`. This module models those operations as Python 3.11's
`pathlib` performs them on POSIX:

* `parsePath` — `PurePosixPath(text)`: `splitroot` keeps one leading slash, or two exactly
  (POSIX leaves a leading `//` to the implementation), and the components are what
  `text.split('/')` gives, less the empty ones and `.`; `..` is kept.
* `render` — `str(path)`: the root, then the components joined by `/`, or `.` for the empty
  path.
* `PurePath.relativeTo` — `path.relative_to(base)`, `none` where it raises `ValueError`.
* `PurePath.join` — `base / other`.

A `PurePath` carries the shape `parsePath` gives it, so the round trip `parsePath_render` holds
for every path, and `relative_to` undoes `/` (`relativeTo_join`, `join_relativeTo`).
-/

namespace ProfileCreator.Python

/-- A component `pathlib` keeps: not empty, not `.`, and without a slash. -/
def PathPart (part : String) : Prop := part.toList ≠ [] ∧ part ≠ "." ∧ '/' ∉ part.toList

instance (part : String) : Decidable (PathPart part) := inferInstanceAs (Decidable (_ ∧ _ ∧ _))

/-- A parsed POSIX path: its root and its components. -/
structure PurePath where
  root : String
  parts : List String
  rootValid : root = "" ∨ root = "/" ∨ root = "//"
  partsValid : ∀ part ∈ parts, PathPart part

namespace PurePath

theorem ext {first second : PurePath} (root : first.root = second.root) (parts : first.parts = second.parts) :
    first = second := by
  cases first; cases second; cases root; cases parts; rfl

end PurePath

/-! ## Parsing and rendering -/

/-- `splitroot` of the posix flavour: a leading run of slashes is the root `/`, or `//` when
it is exactly two slashes long. -/
def splitRoot (text : List Char) : String × List Char :=
  match text with
  | '/' :: _ =>
    let stripped := text.dropWhile (· = '/')
    (if text.length - stripped.length = 2 then "//" else "/", stripped)
  | _ => ("", text)

/-- The components `parse_parts` keeps of what follows the root. -/
def relParts (rel : List Char) : List String :=
  ((rel.splitOn '/').filter fun part => part ≠ [] ∧ part ≠ ['.']).map String.mk

theorem forall_not_of_mem_splitOnP {α : Type} (p : α → Bool) :
    ∀ {xs piece : List α}, piece ∈ xs.splitOnP p → ∀ x ∈ piece, p x = false
  | [], piece, member => by simp_all
  | x :: xs, piece, member => by
    rw [List.splitOnP_cons] at member
    split at member
    · rcases List.mem_cons.mp member with rfl | later
      · simp
      · exact forall_not_of_mem_splitOnP p later
    · rename_i kept
      obtain ⟨first, rest, split⟩ := List.exists_cons_of_ne_nil (List.splitOnP_ne_nil p xs)
      rw [split] at member
      rcases List.mem_cons.mp member with rfl | later
      · intro y inPiece
        rcases List.mem_cons.mp inPiece with rfl | inFirst
        · simpa using kept
        · exact forall_not_of_mem_splitOnP p (split ▸ List.mem_cons_self first rest) y inFirst
      · exact forall_not_of_mem_splitOnP p (split ▸ List.mem_cons_of_mem first later)

theorem not_mem_of_mem_splitOn {separator : Char} {text piece : List Char} (member : piece ∈ text.splitOn separator) :
    separator ∉ piece := fun inPiece => by
  simpa using forall_not_of_mem_splitOnP (· == separator) member separator inPiece

theorem relParts_valid (rel : List Char) : ∀ part ∈ relParts rel, PathPart part := by
  intro part member
  simp only [relParts, List.mem_map, List.mem_filter, decide_eq_true_eq] at member
  obtain ⟨piece, ⟨split, nonempty, notDot⟩, rfl⟩ := member
  exact ⟨nonempty, fun dot => notDot (congrArg String.toList dot), not_mem_of_mem_splitOn split⟩

theorem splitRoot_valid (text : List Char) :
    (splitRoot text).1 = "" ∨ (splitRoot text).1 = "/" ∨ (splitRoot text).1 = "//" := by
  unfold splitRoot
  split
  · dsimp only
    split_ifs <;> simp
  · simp

/-- `PurePosixPath(text)`. -/
def parsePath (text : String) : PurePath :=
  ⟨(splitRoot text.toList).1, relParts (splitRoot text.toList).2, splitRoot_valid _, relParts_valid _⟩

/-- `str(path)`: the root and the components joined by `/`, or `.` when both are empty. -/
def render (path : PurePath) : String :=
  if path.root = "" ∧ path.parts = [] then "."
  else ⟨path.root.toList ++ ['/'].intercalate (path.parts.map String.toList)⟩

example : render (parsePath "//srv/./must-gather//") = "//srv/must-gather" ∧
    render (parsePath "///srv/../x") = "/srv/../x" ∧ render (parsePath "") = "." := by
  decide

/-! ## The round trip -/

theorem PathPart.toList_ne_dot {part : String} (valid : PathPart part) : part.toList ≠ ['.'] :=
  fun dot => valid.2.1 (congrArg String.mk dot)

/-- Splitting the joined components gives them back: none holds a slash, and `parse_parts`
drops none of them. -/
theorem relParts_intercalate {parts : List String} (valid : ∀ part ∈ parts, PathPart part) :
    relParts (['/'].intercalate (parts.map String.toList)) = parts := by
  cases parts with
  | nil => rfl
  | cons first rest =>
    have noSlash : ∀ piece ∈ (first :: rest).map String.toList, '/' ∉ piece := by
      intro piece member
      obtain ⟨part, inParts, rfl⟩ := List.mem_map.mp member
      exact (valid part inParts).2.2
    have kept : ∀ piece ∈ (first :: rest).map String.toList, decide (piece ≠ [] ∧ piece ≠ ['.']) = true := by
      intro piece member
      obtain ⟨part, inParts, rfl⟩ := List.mem_map.mp member
      exact decide_eq_true ⟨(valid part inParts).1, (valid part inParts).toList_ne_dot⟩
    rw [relParts, List.splitOn_intercalate _ '/' noSlash (by simp), List.filter_eq_self.mpr kept, List.map_map]
    exact List.map_id _

theorem intercalate_cons_eq_append (separator first : List Char) (rest : List (List Char)) :
    ∃ tail, separator.intercalate (first :: rest) = first ++ tail := by
  cases rest with
  | nil => exact ⟨[], by simp [List.intercalate]⟩
  | cons second others =>
    exact ⟨separator ++ (List.intersperse separator (second :: others)).flatten, by simp [List.intercalate]⟩

/-- The joined components start with the first one's first character, which is not a slash. -/
theorem head?_intercalate_ne_slash {parts : List String} (valid : ∀ part ∈ parts, PathPart part) :
    (['/'].intercalate (parts.map String.toList)).head? ≠ some '/' := by
  cases parts with
  | nil => simp [List.intercalate]
  | cons first rest =>
    have firstValid := valid first (List.mem_cons_self _ _)
    obtain ⟨c, chars, spelled⟩ := List.exists_cons_of_ne_nil firstValid.1
    obtain ⟨tail, joined⟩ := intercalate_cons_eq_append ['/'] first.toList (rest.map String.toList)
    rw [List.map_cons, joined, spelled, List.cons_append, List.head?_cons]
    rintro ⟨⟩
    exact firstValid.2.2 (spelled ▸ List.mem_cons_self _ _)

theorem dropWhile_slash_of_head {rel : List Char} (notSlash : rel.head? ≠ some '/') :
    rel.dropWhile (· = '/') = rel := by
  cases rel with
  | nil => rfl
  | cons c rest => exact List.dropWhile_cons_of_neg (by simpa using notSlash)

/-- A root followed by text that does not start with a slash splits back into the two. -/
theorem splitRoot_append {root : String} {rel : List Char} (rootValid : root = "" ∨ root = "/" ∨ root = "//")
    (notSlash : rel.head? ≠ some '/') : splitRoot (root.toList ++ rel) = (root, rel) := by
  have stripped := dropWhile_slash_of_head notSlash
  rcases rootValid with rfl | rfl | rfl
  · cases rel with
    | nil => rfl
    | cons c rest =>
      have other : c ≠ '/' := fun slash => notSlash (by rw [slash]; rfl)
      simp [splitRoot, other]
  · simp [splitRoot, stripped]
  · simp [splitRoot, stripped]
    omega

/-- `PurePosixPath(str(path)) == path`, for every path. -/
theorem parsePath_render (path : PurePath) : parsePath (render path) = path := by
  obtain ⟨root, parts, rootValid, partsValid⟩ := path
  unfold render
  split
  · next empty =>
    obtain ⟨rfl, rfl⟩ := empty
    rfl
  · have split := splitRoot_append rootValid (head?_intercalate_ne_slash partsValid)
    apply PurePath.ext
    · exact congrArg Prod.fst split
    · show relParts (splitRoot (root.toList ++ _)).2 = parts
      rw [split]
      exact relParts_intercalate partsValid

/-! ## `relative_to` and `/` -/

namespace PurePath

/-- `path.relative_to(base)`: the components after `base`'s, when both have the same root and
`base`'s components begin `path`'s; `none` where `relative_to` raises `ValueError`. -/
def relativeTo (path base : PurePath) : Option PurePath :=
  if path.root = base.root ∧ base.parts.isPrefixOf path.parts then
    some ⟨"", path.parts.drop base.parts.length, .inl rfl,
      fun part member => path.partsValid part (List.mem_of_mem_drop member)⟩
  else none

/-- `base / other`: a rooted `other` replaces `base`; a relative one extends it. -/
def join (base other : PurePath) : PurePath :=
  if other.root = "" then
    ⟨base.root, base.parts ++ other.parts, base.rootValid,
      fun part member => (List.mem_append.mp member).elim (base.partsValid part) (other.partsValid part)⟩
  else other

theorem relativeTo_eq_some {path base rel : PurePath} :
    path.relativeTo base = some rel ↔
      path.root = base.root ∧ base.parts <+: path.parts ∧ rel.root = "" ∧
        rel.parts = path.parts.drop base.parts.length := by
  unfold relativeTo
  split
  · next within =>
    rw [List.isPrefixOf_iff_prefix] at within
    simp only [Option.some.injEq, within, true_and]
    exact ⟨fun same => same ▸ ⟨rfl, rfl⟩, fun ⟨root, parts⟩ => ext root.symm parts.symm⟩
  · next outside =>
    rw [List.isPrefixOf_iff_prefix] at outside
    simp only [reduceCtorEq, false_iff]
    exact fun ⟨root, prefixed, _⟩ => outside ⟨root, prefixed⟩

@[simp] theorem join_of_relative (base : PurePath) {other : PurePath} (relative : other.root = "") :
    (base.join other).root = base.root ∧ (base.join other).parts = base.parts ++ other.parts := by
  simp [join, relative]

/-- `(base / rel).relative_to(base) == rel` for a relative `rel`. -/
theorem relativeTo_join {base rel : PurePath} (relative : rel.root = "") : (base.join rel).relativeTo base = some rel := by
  obtain ⟨root, parts⟩ := join_of_relative base relative
  rw [relativeTo_eq_some, root, parts]
  exact ⟨rfl, List.prefix_append _ _, relative, by simp⟩

/-- `base / path.relative_to(base) == path`. -/
theorem join_relativeTo {path base rel : PurePath} (within : path.relativeTo base = some rel) : base.join rel = path := by
  obtain ⟨root, prefixed, relative, parts⟩ := relativeTo_eq_some.mp within
  obtain ⟨joinedRoot, joinedParts⟩ := join_of_relative base relative
  exact ext (joinedRoot.trans root.symm) (by rw [joinedParts, parts, List.prefix_iff_eq_append.mp prefixed])

end PurePath

end ProfileCreator.Python
