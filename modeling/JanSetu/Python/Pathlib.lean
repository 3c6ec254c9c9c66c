import JanSetu.Python.Text

/-!
# Python's pure paths

`PurePosixPath`: a root and the names below it.  The empty names and the dots
between two slashes are dropped when a text is read, and `..` is a name like
any other.
-/

namespace Python

@[ext]
structure PathName where
  text : String
  nonempty : text ≠ ""
  ordinary : text ≠ "."
  whole : '/' ∉ text.toList
deriving DecidableEq

/-- Exactly two slashes are a root of their own. -/
inductive PathRoot where
  | relative
  | slash
  | twoSlashes
deriving DecidableEq

@[ext]
structure Path where
  root : PathRoot
  names : List PathName
deriving DecidableEq

def PathRoot.text : PathRoot → String
  | .relative => ""
  | .slash => "/"
  | .twoSlashes => "//"

def PathName.ofText (text : String) : Option PathName :=
  if named : text ≠ "" ∧ text ≠ "." ∧ '/' ∉ text.toList then
    some
      { text := text
        nonempty := named.1
        ordinary := named.2.1
        whole := named.2.2 }
  else none

def splitRoot : List Char → PathRoot × List Char
  | '/' :: '/' :: '/' :: tail => (.slash, '/' :: '/' :: tail)
  | '/' :: '/' :: tail => (.twoSlashes, tail)
  | '/' :: tail => (.slash, tail)
  | chars => (.relative, chars)

namespace Path

/-- `Path(text)`. -/
def ofText (text : String) : Path :=
  { root := (splitRoot text.toList).1
    names := (splitChars '/' (splitRoot text.toList).2).filterMap fun piece =>
      PathName.ofText (String.ofList piece) }

/-- `str(path)`. -/
def text (path : Path) : String :=
  if path.root = .relative ∧ path.names = [] then "."
  else path.root.text ++ "/".intercalate (path.names.map (·.text))

/-- `path / other`; what has a root of its own stands alone. -/
def joinpath (path other : Path) : Path :=
  match other.root with
  | .relative => { path with names := path.names ++ other.names }
  | _ => other

def parts (path : Path) : List String :=
  match path.root with
  | .relative => path.names.map (·.text)
  | root => root.text :: path.names.map (·.text)

/-- `Path(*parts)`. -/
def ofParts (parts : List String) : Path :=
  parts.foldl (fun path part => path.joinpath (ofText part)) (ofText "")

def parent (path : Path) : Path :=
  { path with names := path.names.dropLast }

def name (path : Path) : String :=
  match path.names.getLast? with
  | some name => name.text
  | none => ""

/-- `path.relative_to(other)`, where `none` is the `ValueError`. -/
def relativeTo (path other : Path) : Option Path :=
  if path.root = other.root ∧ other.names <+: path.names then
    some
      { root := .relative
        names := path.names.drop other.names.length }
  else none

/-- The path is `directory` or below it, whatever directories `..` leads to. -/
def Within (directory path : Path) : Prop :=
  path.root = directory.root ∧
    ∃ names, path.names = directory.names ++ names ∧
      ∀ name ∈ names, name.text ≠ ".."

end Path

/-! ## Texts of paths -/

theorem PathName.ofText_text (name : PathName) :
    PathName.ofText name.text = some name := by
  have named : name.text ≠ "" ∧ name.text ≠ "." ∧ '/' ∉ name.text.toList :=
    ⟨name.nonempty, name.ordinary, name.whole⟩
  rw [PathName.ofText, dif_pos named]

theorem splitRoot_append (root : PathRoot) {chars : List Char}
    (relative : chars.head? ≠ some '/') :
    splitRoot (root.text.toList ++ chars) = (root, chars) := by
  cases chars with
  | nil => cases root <;> rfl
  | cons char chars =>
      have other : char ≠ '/' := by
        simpa using relative
      cases root with
      | relative =>
          simp only [PathRoot.text, String.toList_empty, List.nil_append]
          unfold splitRoot
          split <;> simp_all
      | slash => simp [PathRoot.text, splitRoot, other]
      | twoSlashes => simp [PathRoot.text, splitRoot, other]

/-- Behind a character that is no slash nothing is taken for a root. -/
theorem splitRoot_extend {chars : List Char} (more : List Char)
    (ink : ∃ char ∈ chars, char ≠ '/') :
    splitRoot (chars ++ more) =
      ((splitRoot chars).1, (splitRoot chars).2 ++ more) := by
  obtain ⟨char, member, other⟩ := ink
  match chars with
  | [] => cases member
  | [first] =>
      obtain rfl := List.mem_singleton.mp member
      simp [splitRoot, other]
  | [first, second] =>
      by_cases slash : first = '/'
      · subst slash
        have last : second ≠ '/' := by
          rintro rfl
          simp_all
        simp [splitRoot, last]
      · simp [splitRoot, slash]
  | first :: second :: third :: rest =>
      by_cases slash : first = '/'
      · subst slash
        by_cases again : second = '/'
        · subst again
          by_cases thrice : third = '/'
          · subst thrice
            simp [splitRoot]
          · simp [splitRoot, thrice]
        · simp [splitRoot, again]
      · simp [splitRoot, slash]

theorem splitRoot_sublist (chars : List Char) :
    (splitRoot chars).2.Sublist chars := by
  unfold splitRoot
  split <;> simp

namespace Path

variable {path other root : Path} {names : List PathName}

/-- The names with slashes between them. -/
theorem splitChars_names (some : names ≠ []) :
    splitChars '/' ("/".intercalate (names.map (·.text))).toList =
      names.map (·.text.toList) := by
  have pieces : (names.map (·.text)).map String.toList =
      names.map (·.text.toList) := by
    rw [List.map_map]
    rfl
  rw [String.toList_intercalate, pieces]
  apply splitChars_intercalate
  · simpa using some
  · intro piece member
    obtain ⟨name, _, rfl⟩ := List.mem_map.mp member
    exact name.whole

theorem filterMap_names :
    (names.map (·.text.toList)).filterMap
      (fun piece => PathName.ofText (String.ofList piece)) = names := by
  rw [List.filterMap_map]
  have same : (fun piece => PathName.ofText (String.ofList piece)) ∘
      (fun name : PathName => name.text.toList) = some := by
    funext name
    simp [PathName.ofText_text]
  rw [same, List.filterMap_some]

theorem head?_names :
    ("/".intercalate (names.map (·.text))).toList.head? ≠ some '/' := by
  cases names with
  | nil => simp
  | cons first names =>
      have nonempty : first.text.toList ≠ [] := by
        simpa using first.nonempty
      obtain ⟨char, chars, spelled⟩ := List.exists_cons_of_ne_nil nonempty
      have other : char ≠ '/' := by
        intro same
        apply first.whole
        rw [spelled, same]
        exact List.mem_cons_self
      cases names <;>
        simp [String.toList_intercalate, spelled, other]

/-- A path is read back from its text. -/
theorem ofText_text (path : Path) : ofText path.text = path := by
  unfold ofText text
  by_cases here : path.root = .relative ∧ path.names = []
  · rw [if_pos here]
    obtain ⟨root, names⟩ := path
    obtain ⟨rfl, rfl⟩ := here
    decide
  · rw [if_neg here, String.toList_append,
      splitRoot_append path.root head?_names]
    by_cases bare : path.names = []
    · obtain ⟨root, names⟩ := path
      cases bare
      simp [splitChars, PathName.ofText]
    · simp only [splitChars_names bare, filterMap_names]

theorem ofText_name (name : PathName) :
    ofText name.text = { root := .relative, names := [name] } := by
  have spelled : ({ root := .relative, names := [name] } : Path).text =
      name.text := by
    simp [text, PathRoot.text]
  rw [← spelled, ofText_text]

theorem joinpath_relative (relative : other.root = .relative) :
    path.joinpath other =
      { root := path.root, names := path.names ++ other.names } := by
  unfold joinpath
  rw [relative]

theorem joinpath_name (name : PathName) :
    path.joinpath (ofText name.text) =
      { root := path.root, names := path.names ++ [name] } := by
  rw [ofText_name, joinpath_relative rfl]

theorem ofParts_names (names : List PathName) :
    ofParts (names.map (·.text)) = { root := .relative, names := names } := by
  have folded (start : Path) :
      (names.map (·.text)).foldl
        (fun path part => path.joinpath (ofText part)) start =
        { root := start.root, names := start.names ++ names } := by
    induction names generalizing start with
    | nil => simp
    | cons name names induction =>
        rw [List.map_cons, List.foldl_cons, induction, joinpath_name]
        simp
  rw [ofParts, folded]
  rfl

theorem relativeTo_eq_some
    (below : path.relativeTo root = some other) :
    other.root = .relative ∧ path.root = root.root ∧
      path.names = root.names ++ other.names := by
  unfold relativeTo at below
  split at below
  case isTrue inside =>
    cases below
    exact ⟨rfl, inside.1, (List.prefix_iff_eq_append.mp inside.2).symm⟩
  case isFalse => cases below

/-- A path below a root is the root joined with the rest. -/
theorem joinpath_relativeTo (below : path.relativeTo root = some other) :
    root.joinpath other = path := by
  obtain ⟨relative, sameRoot, names⟩ := relativeTo_eq_some below
  rw [joinpath_relative relative]
  exact Path.ext sameRoot.symm names.symm

theorem relativeTo_joinpath (relative : other.root = .relative) :
    (root.joinpath other).relativeTo root = some other := by
  rw [joinpath_relative relative, relativeTo,
    if_pos ⟨rfl, List.prefix_append _ _⟩]
  simp [← relative]

/-- A text with names ends in a name of its path. -/
theorem ofText_extend {text : String} (name : PathName)
    (named : (ofText text).names ≠ []) :
    ofText (text ++ "/" ++ name.text) =
      (ofText text).joinpath (ofText name.text) := by
  by_cases ink : ∃ char ∈ text.toList, char ≠ '/'
  case neg =>
    refine absurd ?_ named
    unfold ofText
    rw [List.filterMap_eq_nil_iff]
    intro piece member
    have empty : piece = [] := by
      refine splitChars_of_separators ?_ piece member
      intro char inside
      by_cases same : char = '/'
      · exact same
      · have listed := (splitRoot_sublist text.toList).subset inside
        exact absurd ⟨char, listed, same⟩ ink
    rw [empty]
    rfl
  rw [joinpath_name]
  unfold ofText
  rw [String.toList_append, String.toList_append, List.append_assoc,
    splitRoot_extend _ ink]
  have slash : "/".toList = ['/'] := rfl
  rw [slash, List.singleton_append, splitChars_append_separator,
    splitChars_of_free name.whole, List.filterMap_append]
  simp [PathName.ofText_text]

end Path

end Python
