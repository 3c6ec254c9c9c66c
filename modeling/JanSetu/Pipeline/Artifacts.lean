import JanSetu.Library.Table
import JanSetu.Python.Pathlib

/-!
# Paths of the uploaded files

`save_upload` and `artifact_path`: a path that one process stored is looked up
below the upload root of another.
-/

namespace JanSetu.Pipeline

open Python (Path PathName)

/-- The path that is returned and the files once `data` is written there. -/
def saveUpload {Data : Type*} (uploadDir : String) (files : Table Path Data)
    (grievanceId name : String) (data : Data) : String × Table Path Data :=
  let directory := (Path.ofText uploadDir).joinpath (.ofText grievanceId)
  let path := directory.joinpath (.ofText name)
  (path.text, files.put path data)

def artifactPath (uploadDir : String) (path : Path) : Path :=
  let root := Path.ofText uploadDir
  let relative :=
    match path.relativeTo root with
    | some relative => relative
    | none =>
        match path.parts.idxOf? "uploads" with
        | some index => Path.ofParts (path.parts.drop (index + 1))
        | none => path
  root.joinpath relative

/-- A name that a file can have in its directory. -/
structure FileName (text : String) : Prop where
  nonempty : text ≠ ""
  ordinary : text ≠ "."
  below : text ≠ ".."
  whole : '/' ∉ text.toList

/-! ## Files that are saved -/

section

variable {Data : Type*} {files : Table Path Data} {data : Data}
  {uploadDir grievanceId name text : String}

theorem FileName.exists_name (named : FileName text) :
    ∃ name : PathName, name.text = text ∧ name.text ≠ ".." :=
  ⟨{ text := text
     nonempty := named.nonempty
     ordinary := named.ordinary
     whole := named.whole }, rfl, named.below⟩

theorem ofText_saveUpload :
    Path.ofText (saveUpload uploadDir files grievanceId name data).1 =
      ((Path.ofText uploadDir).joinpath (.ofText grievanceId)).joinpath
        (.ofText name) :=
  Path.ofText_text _

end

/-! ## Paths that are resolved -/

section

variable {uploadDir : String} {path relative : Path}
  {before after : List PathName} {uploads : PathName}

theorem artifactPath_of_relativeTo
    (below : path.relativeTo (.ofText uploadDir) = some relative) :
    artifactPath uploadDir path = path := by
  unfold artifactPath
  simp only [below]
  exact Path.joinpath_relativeTo below

/-- What is joined to the root is below it, unless it has a root. -/
theorem artifactPath_joinpath (relativeRoot : relative.root = .relative) :
    artifactPath uploadDir ((Path.ofText uploadDir).joinpath relative) =
      (Path.ofText uploadDir).joinpath relative :=
  artifactPath_of_relativeTo (Path.relativeTo_joinpath relativeRoot)

theorem ofParts_root (parts : List String)
    (plain : ∀ part ∈ parts, ∃ name : PathName, name.text = part) :
    (Path.ofParts parts).root = .relative := by
  choose name spelled using plain
  have names : (parts.attach.map fun part => name part.1 part.2).map (·.text) =
      parts := by
    simp [List.map_map, Function.comp_def, spelled]
  rw [← names, Path.ofParts_names]

/-- No name below a root is a root. -/
theorem parts_drop_plain (index : Nat) :
    ∀ part ∈ path.parts.drop (index + 1),
      ∃ name : PathName, name.text = part := by
  intro part member
  have named : part ∈ path.names.map (·.text) := by
    unfold Path.parts at member
    split at member
    · exact List.mem_of_mem_drop member
    · rw [List.drop_succ_cons] at member
      exact List.mem_of_mem_drop member
  obtain ⟨name, _, spelled⟩ := List.mem_map.mp named
  exact ⟨name, spelled⟩

theorem artifactPath_idempotent (uploadDir : String) (path : Path) :
    artifactPath uploadDir (artifactPath uploadDir path) =
      artifactPath uploadDir path := by
  cases below : path.relativeTo (.ofText uploadDir) with
  | some relative =>
      have same := artifactPath_of_relativeTo below
      rw [same, same]
  | none =>
      cases found : path.parts.idxOf? "uploads" with
      | some index =>
          have resolved : artifactPath uploadDir path =
              (Path.ofText uploadDir).joinpath
                (.ofParts (path.parts.drop (index + 1))) := by
            simp only [artifactPath, below, found]
          rw [resolved]
          exact artifactPath_joinpath
            (ofParts_root _ (parts_drop_plain index))
      | none =>
          have resolved : artifactPath uploadDir path =
              (Path.ofText uploadDir).joinpath path := by
            simp only [artifactPath, below, found]
          rw [resolved]
          -- a rooted path without `uploads` is left as it is
          cases root : path.root with
          | relative => exact artifactPath_joinpath root
          | slash | twoSlashes =>
              have alone : (Path.ofText uploadDir).joinpath path = path := by
                simp only [Path.joinpath, root]
              rw [alone, resolved, alone]

theorem idxOf?_parts (spelled : uploads.text = "uploads")
    (names : path.names = before ++ uploads :: after)
    (first : uploads ∉ before) :
    ∃ index, path.parts.idxOf? "uploads" = some index ∧
      path.parts.drop (index + 1) = after.map (·.text) := by
  have found (left right : List String) (absent : "uploads" ∉ left) :
      (left ++ "uploads" :: right).idxOf? "uploads" = some left.length := by
    induction left with
    | nil => simp [List.idxOf?_cons]
    | cons part left induction =>
        simp only [List.mem_cons, not_or] at absent
        rw [List.cons_append, List.idxOf?_cons, induction absent.2]
        simp [Ne.symm absent.1]
  have absent : "uploads" ∉ before.map (·.text) := by
    intro member
    obtain ⟨name, inside, same⟩ := List.mem_map.mp member
    have uploaded : name = uploads := PathName.ext (same.trans spelled.symm)
    exact first (uploaded ▸ inside)
  obtain ⟨left, parts, without⟩ : ∃ left, path.parts =
      left ++ "uploads" :: after.map (·.text) ∧ "uploads" ∉ left := by
    cases root : path.root with
    | relative =>
        refine ⟨before.map (·.text), ?_, absent⟩
        simp [Path.parts, root, names, spelled]
    | slash =>
        refine ⟨"/" :: before.map (·.text), ?_, ?_⟩
        · simp [Path.parts, Python.PathRoot.text, root, names, spelled]
        · simpa using absent
    | twoSlashes =>
        refine ⟨"//" :: before.map (·.text), ?_, ?_⟩
        · simp [Path.parts, Python.PathRoot.text, root, names, spelled]
        · simpa using absent
  refine ⟨left.length, ?_, ?_⟩
  · rw [parts, found left _ without]
  · rw [parts, List.drop_append]
    simp

/-- Elsewhere the path is taken from behind its first `uploads`. -/
theorem artifactPath_elsewhere
    (elsewhere : path.relativeTo (.ofText uploadDir) = none)
    (spelled : uploads.text = "uploads")
    (names : path.names = before ++ uploads :: after)
    (first : uploads ∉ before) :
    artifactPath uploadDir path =
      { root := (Path.ofText uploadDir).root
        names := (Path.ofText uploadDir).names ++ after } := by
  obtain ⟨index, found, rest⟩ := idxOf?_parts spelled names first
  unfold artifactPath
  simp only [elsewhere, found, rest, Path.ofParts_names]
  rw [Path.joinpath_relative rfl]

end

/-! ## Two processes -/

/-- The file is looked up in the directory of its grievance, under the name it
was saved with, and so again when the path is looked up. -/
structure Resolves (uploadDir : String) (stored : Path)
    (grievanceId name : String) : Prop where
  found : artifactPath uploadDir stored =
    ((Path.ofText uploadDir).joinpath (.ofText grievanceId)).joinpath
      (.ofText name)
  within : (Path.ofText uploadDir).Within (artifactPath uploadDir stored)
  again : artifactPath uploadDir (artifactPath uploadDir stored) =
    artifactPath uploadDir stored

section

variable {uploadDir : String} {first second stored : Path} {id name : PathName}

theorem exists_uploads {path : Path} (last : path.name = "uploads") :
    ∃ (before : List PathName) (uploads : PathName),
      path.names = before ++ [uploads] ∧ uploads.text = "uploads" := by
  unfold Path.name at last
  cases names : path.names.getLast? with
  | none => simp [names] at last
  | some uploads =>
      obtain ⟨before, split⟩ := List.getLast?_eq_some_iff.mp names
      exact ⟨before, uploads, split, by simpa [names] using last⟩

theorem uploads_mem_parent {path : Path} {before : List PathName}
    {uploads : PathName} (names : path.names = before ++ [uploads])
    (spelled : uploads.text = "uploads") :
    "uploads" ∈ path.parent.parts ↔ uploads ∈ before := by
  have parents : path.parent.names = before := by
    rw [Path.parent, names, List.dropLast_concat]
  have named : "uploads" ∈ before.map (·.text) ↔ uploads ∈ before := by
    rw [← spelled]
    exact List.mem_map_of_injective fun _ _ => PathName.ext
  unfold Path.parts
  rw [parents]
  split
  · exact named
  · have root : "uploads" ≠ path.parent.root.text := by
      cases path.parent.root <;> decide
    rw [List.mem_cons, or_iff_right root]
    exact named

/-- The path of a file in the directory of a grievance. -/
theorem joinpath_names (path : Path) :
    (path.joinpath (.ofText id.text)).joinpath (.ofText name.text) =
      { root := path.root, names := path.names ++ [id, name] } := by
  rw [Path.joinpath_name, Path.joinpath_name]
  simp

theorem resolves_iff_found (idBelow : id.text ≠ "..")
    (nameBelow : name.text ≠ "..") :
    Resolves uploadDir stored id.text name.text ↔
      artifactPath uploadDir stored =
        ((Path.ofText uploadDir).joinpath (.ofText id.text)).joinpath
          (.ofText name.text) := by
  constructor
  · exact Resolves.found
  · intro found
    refine ⟨found, ?_, artifactPath_idempotent _ _⟩
    rw [found, joinpath_names]
    refine ⟨rfl, [id, name], rfl, ?_⟩
    intro part member
    simp only [List.mem_cons, List.not_mem_nil, or_false] at member
    rcases member with rfl | rfl
    · exact idBelow
    · exact nameBelow

/-- A root above the saved file is a root on the way to it. -/
theorem above_cases (above : second.names <+: first.names ++ [id, name])
    (sameRoot : second.root = first.root) :
    second = (first.joinpath (.ofText id.text)).joinpath (.ofText name.text) ∨
      second = first.joinpath (.ofText id.text) ∨ second = first ∨
      second.names <+: first.names.dropLast := by
  have whole : first.names ++ [id, name] = (first.names ++ [id]) ++ [name] := by
    simp
  rw [whole, List.prefix_concat_iff, List.prefix_concat_iff] at above
  rcases above with same | same | above
  · refine .inl ?_
    rw [joinpath_names]
    exact Python.Path.ext sameRoot (by simpa using same)
  · refine .inr (.inl ?_)
    rw [Path.joinpath_name]
    exact Python.Path.ext sameRoot same
  · refine .inr (.inr ?_)
    cases names : first.names.getLast? with
    | none =>
        rw [List.getLast?_eq_none_iff] at names
        right
        simpa [names] using above
    | some last =>
        obtain ⟨before, split⟩ := List.getLast?_eq_some_iff.mp names
        rw [split, List.dropLast_concat]
        rw [split, List.prefix_concat_iff, ← split] at above
        exact above.imp_left (Python.Path.ext sameRoot)

/-- The path under one root, looked up under another, is the one meant exactly
when the roots are the same, or `uploads` is nowhere above in the first and the
second is not a place below it. -/
theorem found_iff (lastFirst : first.name = "uploads")
    (lastSecond : (Path.ofText uploadDir).name = "uploads") :
    artifactPath uploadDir
        ((first.joinpath (.ofText id.text)).joinpath (.ofText name.text)) =
      ((Path.ofText uploadDir).joinpath (.ofText id.text)).joinpath
        (.ofText name.text) ↔
      (first = .ofText uploadDir ∨
        ("uploads" ∉ first.parent.parts ∧
          Path.ofText uploadDir ≠ first.joinpath (.ofText id.text) ∧
          Path.ofText uploadDir ≠
            (first.joinpath (.ofText id.text)).joinpath
              (.ofText name.text))) := by
  obtain ⟨parents, uploads, names, spelled⟩ := exists_uploads lastFirst
  obtain ⟨others, last, namesSecond, spelledSecond⟩ := exists_uploads lastSecond
  have sameLast : last = uploads :=
    PathName.ext (spelledSecond.trans spelled.symm)
  rw [uploads_mem_parent names spelled]
  cases below : ((first.joinpath (.ofText id.text)).joinpath
      (.ofText name.text)).relativeTo (.ofText uploadDir) with
  | some relative =>
      rw [artifactPath_of_relativeTo below]
      obtain ⟨_, sameRoot, above⟩ := Path.relativeTo_eq_some below
      rw [joinpath_names] at sameRoot above
      constructor
      · intro same
        rw [joinpath_names, joinpath_names, Python.Path.mk.injEq,
          List.append_cancel_right_eq] at same
        exact .inl (Python.Path.ext same.1 same.2)
      · rintro (same | ⟨free, notDirectory, notFile⟩)
        · rw [same]
        · rcases above_cases ⟨relative.names, above.symm⟩ sameRoot.symm with
            same | same | same | inside
          · exact absurd same notFile
          · exact absurd same notDirectory
          · rw [same]
          · rw [names, List.dropLast_concat] at inside
            have member : uploads ∈ (Path.ofText uploadDir).names := by
              simp [namesSecond, sameLast]
            exact absurd (inside.subset member) free
  | none =>
      have outside (rest : Path) (relative : rest.root = .relative) :
          (first.joinpath (.ofText id.text)).joinpath (.ofText name.text) ≠
            (Path.ofText uploadDir).joinpath rest := by
        intro same
        rw [same, Path.relativeTo_joinpath relative] at below
        cases below
      have other : first ≠ .ofText uploadDir := by
        intro same
        apply outside { root := .relative, names := [id, name] } rfl
        rw [joinpath_names, Path.joinpath_relative rfl, same]
      have notDirectory :
          Path.ofText uploadDir ≠ first.joinpath (.ofText id.text) := by
        intro same
        apply outside (.ofText name.text) (by rw [Path.ofText_name])
        rw [same]
      have notFile : Path.ofText uploadDir ≠
          (first.joinpath (.ofText id.text)).joinpath (.ofText name.text) := by
        intro same
        apply outside { root := .relative, names := [] } rfl
        rw [← same, Path.joinpath_relative rfl, List.append_nil]
      have stored : ((first.joinpath (.ofText id.text)).joinpath
          (.ofText name.text)).names = parents ++ uploads :: [id, name] := by
        rw [joinpath_names, names]
        simp
      by_cases nested : uploads ∈ parents
      · have mistaken : ¬ (first = .ofText uploadDir ∨ (uploads ∉ parents ∧
            Path.ofText uploadDir ≠ first.joinpath (.ofText id.text) ∧
            Path.ofText uploadDir ≠ (first.joinpath (.ofText id.text)).joinpath
              (.ofText name.text))) := by
          rintro (same | ⟨free, _⟩)
          · exact other same
          · exact free nested
        rw [iff_false_right mistaken]
        -- what is left from the first `uploads` on is too long
        obtain ⟨before, after, split, earlier⟩ :=
          List.eq_append_cons_of_mem nested
        rw [split, List.append_assoc, List.cons_append] at stored
        rw [artifactPath_elsewhere below spelled stored earlier, joinpath_names]
        intro same
        have lengths := congrArg (fun path : Path => path.names.length) same
        simp at lengths
      · rw [artifactPath_elsewhere below spelled stored nested, joinpath_names]
        simp only [true_iff]
        exact .inr ⟨nested, notDirectory, notFile⟩

/-- A file saved under one upload root is found from another process exactly
when the two roots are the same path, or `uploads` is no directory above the
first root and the second is neither the directory nor the file itself. -/
theorem artifacts_resolve_iff {Data : Type*} {first second : String}
    {grievanceId name : String}
    (lastFirst : (Path.ofText first).name = "uploads")
    (lastSecond : (Path.ofText second).name = "uploads")
    (idNamed : FileName grievanceId) (named : FileName name)
    (files : Table Path Data) (data : Data) :
    Resolves second
        (.ofText (saveUpload first files grievanceId name data).1)
        grievanceId name ↔
      (Path.ofText first = .ofText second ∨
        ("uploads" ∉ (Path.ofText first).parent.parts ∧
          Path.ofText second ≠
            (Path.ofText first).joinpath (.ofText grievanceId) ∧
          Path.ofText second ≠
            ((Path.ofText first).joinpath (.ofText grievanceId)).joinpath
              (.ofText name))) := by
  obtain ⟨id, rfl, idBelow⟩ := idNamed.exists_name
  obtain ⟨file, rfl, fileBelow⟩ := named.exists_name
  rw [resolves_iff_found idBelow fileBelow, ofText_saveUpload]
  exact found_iff lastFirst lastSecond

/-- The roots of `artifact_path`'s own tests. -/
theorem artifacts_resolve_iff_tested :
    Resolves "/data/uploads"
        (.ofText
          (saveUpload "data/uploads" (Table.empty : Table Path String)
            "grievance-123" "voice.webm" "webm").1)
        "grievance-123" "voice.webm" ↔
      (Path.ofText "data/uploads" = .ofText "/data/uploads" ∨
        ("uploads" ∉ (Path.ofText "data/uploads").parent.parts ∧
          Path.ofText "/data/uploads" ≠
            (Path.ofText "data/uploads").joinpath (.ofText "grievance-123") ∧
          Path.ofText "/data/uploads" ≠
            ((Path.ofText "data/uploads").joinpath
              (.ofText "grievance-123")).joinpath (.ofText "voice.webm"))) :=
  artifacts_resolve_iff (by decide +kernel) (by decide +kernel)
    ⟨by decide, by decide, by decide, by decide⟩
    ⟨by decide, by decide, by decide, by decide⟩ Table.empty "webm"

/-- A root with another `uploads` above it: the file is looked up two
directories too deep. -/
theorem artifacts_lost_below_nested_root :
    ¬ ∀ first second grievanceId name : String,
      (Path.ofText first).name = "uploads" →
        (Path.ofText second).name = "uploads" →
          FileName grievanceId → FileName name →
            Resolves second
              (.ofText
                (saveUpload first (Table.empty : Table Path String)
                  grievanceId name "webm").1)
              grievanceId name := by
  intro resolve
  have mistaken := (resolve "/srv/uploads/jan-setu/uploads" "/data/uploads"
    "grievance-123" "voice.webm" (by decide +kernel) (by decide +kernel)
    ⟨by decide, by decide, by decide, by decide⟩
    ⟨by decide, by decide, by decide, by decide⟩).found
  revert mistaken
  decide +kernel

end

end JanSetu.Pipeline
