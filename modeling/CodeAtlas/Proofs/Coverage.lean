import CodeAtlas.Proofs.Stores
import CodeAtlas.Proofs.Unstamped

/-!
# Which files are represented in the index

Where no extractor finds anything, the engine puts the whole file in the place of its elements. Scripts
have no such fallback: one that cannot be parsed is counted among the files of its project, but has no
element. `file_represented_iff` says that a file that can be read is missing for no other reason.
-/

namespace CodeAtlas.Index.Engine

open CodeAtlas.Action CodeAtlas.Extract CodeAtlas.Text

/-- A script that cannot be parsed. -/
def IsGarbled (path : Path) (content : List Char) : Prop :=
  path.suffix = ".py".toList ∧ ∀ tree, Script.parse content ≠ .ok tree

variable {e : Engine} {path root file relative : Path} {content : List Char} {patterns : List String}
  {options : Options}

/-! ### One file -/

lemma indexScript_of_error {f : Failure} (relative : String) (h : Script.parse content = .error f) :
    (indexScript (some relative) (some (String.ofList content))).elements = [] := by
  unfold indexScript
  simp only [String.toList_ofList, h]
  split
  · rfl
  · rfl
  · rename_i hparse
    cases hparse
  · rename_i hparse _
    cases hparse

/-- The element of the script as a whole comes first. -/
lemma indexScript_of_ok {tree : Script.Node} (relative : String)
    (h : Script.parse content = .ok tree) :
    (indexScript (some relative) (some (String.ofList content))).elements ≠ [] := by
  unfold indexScript
  simp only [String.toList_ofList, h]
  exact List.cons_ne_nil _ _

/-- There are elements of every text but that of a garbled script. -/
lemma elementsOf_eq_nil_iff (relative : String) :
    (elementsOf options path relative content).elements = [] ↔ IsGarbled path content := by
  unfold elementsOf IsGarbled
  by_cases hscript : path.suffix = ".py".toList
  · simp only [hscript, beq_self_eq_true, if_true, true_and]
    match hparse : Script.parse content with
    | .ok tree => simp [indexScript_of_ok relative hparse]
    | .error f => simp [indexScript_of_error relative hparse]
  · simp only [beq_iff_eq, hscript, if_false, false_and, iff_false]
    split
    · exact List.cons_ne_nil _ _
    · rename_i hfound
      exact fun h => hfound (List.isEmpty_iff.mpr h)

/-- All elements carry the path of their file, so one of them does exactly if there is one. -/
lemma exists_mem_elementsOf_iff (relative : String) :
    (∃ x ∈ (elementsOf options path relative content).elements, x.filePath = relative) ↔
      ¬ IsGarbled path content := by
  have hnil : (elementsOf options path relative content).elements = [] ↔ _ :=
    elementsOf_eq_nil_iff relative
  constructor
  · rintro ⟨x, hx, _⟩ hgarbled
    exact List.ne_nil_of_mem hx (hnil.mpr hgarbled)
  · intro hgarbled
    obtain ⟨x, hx⟩ := List.exists_mem_of_ne_nil _ fun h => hgarbled (hnil.mp h)
    exact ⟨x, hx, elementsOf_filePath hx⟩

/-! ### A project -/

lemma exists_mem_fileElements_iff {q : String} :
    (∃ x ∈ fileElements e root file, x.filePath = q) ↔
      ∃ relative content, file.relativeTo? root = some relative ∧ relative.toString = q ∧
        e.disk.read file = .ok content ∧ ¬ IsGarbled file content := by
  unfold fileElements
  match hread : e.disk.read file, hrelative : file.relativeTo? root with
  | .error f, _ => simp
  | .ok content, none => simp
  | .ok content, some relative =>
    simp only
    constructor
    · rintro ⟨x, hx, rfl⟩
      have hpath := elementsOf_filePath hx
      exact ⟨relative, content, rfl, hpath.symm, rfl,
        (exists_mem_elementsOf_iff _).mp ⟨x, hx, hpath⟩⟩
    · rintro ⟨_, _, hr, rfl, hc, hgarbled⟩
      cases hr
      cases hc
      exact (exists_mem_elementsOf_iff _).mpr hgarbled

/-- The index counts the files that are there when indexing begins, and what is found in them. -/
lemma counts_of_indexProject {clearFirst : Bool} {log : Log} {p : ProjectIndex} {s : Engine × Log}
    (h : indexProject path patterns clearFirst (e, log) = (.ok p, s)) :
    e.Counts path patterns p := by
  have halike : Steady e.Alike := fun _ _ h hmoved => h.trans hmoved.toAlike
  have hclear : Spec e.Alike (clearExisting path) (fun _ => e.Alike) (fun _ _ => True) :=
    clearExisting_rule ((clearProject_alike path).weaken (fun _ h => h) (fun _ _ h => h)
      fun _ _ _ => trivial) halike halike (fun _ _ => trivial) fun _ _ => trivial
  have hspec : Spec e.Alike (indexProject path patterns clearFirst)
      (fun p _ => (∃ e', e.Alike e' ∧ e'.Counts path patterns p) ∧ True) fun _ _ => True :=
    indexProject_counts (m := e.Alike) (fun _ => hclear) (fun _ _ h => h)
      (fun _ _ _ _ => Spec.trivial.weaken (fun _ _ => trivial) (fun _ _ h => h) fun _ _ h => h)
      (fun _ _ => trivial) (fun _ _ => trivial) steady_true steady_true
  obtain ⟨⟨e', he', hcounts⟩, _⟩ := hspec.result (s := (e, log)) ⟨rfl, rfl, rfl⟩ h
  exact he'.counts hcounts

/-- A file that can be read has an element with its path, unless it is a script that cannot be parsed;
such a script has no element at all. So the paths in the elements of an indexed project are those of the
files that were counted, without the scripts that cannot be parsed and the files that cannot be read. -/
theorem file_represented_iff (e : Engine) :
    (∀ path root relative content log, e.disk.read path = .ok content →
      path.relativeTo? root = some relative →
      ∃ es log', processFile path root (e, log) = (.ok es, (e, log')) ∧
        ((∃ x ∈ es, x.filePath = relative.toString) ↔ ¬ IsGarbled path content) ∧
        (es = [] ↔ IsGarbled path content)) ∧
    ∀ path patterns clearFirst log p s,
      indexProject path patterns clearFirst (e, log) = (.ok p, s) →
      ∃ files found, discoverFiles path patterns e = .ok files ∧
        foundElements path patterns e = .ok found ∧
        p.files = files.length ∧ p.elements = found.length ∧
        ∀ q, (∃ x ∈ found, x.filePath = q) ↔ ∃ file ∈ files, ∃ relative content,
          file.relativeTo? path = some relative ∧ relative.toString = q ∧
          e.disk.read file = .ok content ∧ ¬ IsGarbled file content := by
  constructor
  · intro path root relative content log hread hrelative
    obtain ⟨log', hrun⟩ := processFile_of_read hread hrelative log
    exact ⟨_, log', hrun, exists_mem_elementsOf_iff _, elementsOf_eq_nil_iff _⟩
  · intro path patterns clearFirst log p s hrun
    obtain ⟨files, hfiles, hcount, helements⟩ := counts_of_indexProject hrun
    have hfound : foundElements path patterns e = .ok (files.flatMap (fileElements e path)) := by
      rw [foundElements, hfiles]
      rfl
    refine ⟨files, _, hfiles, hfound, hcount, helements, fun q => ?_⟩
    constructor
    · rintro ⟨x, hx, hq⟩
      obtain ⟨file, hfile, hx⟩ := List.mem_flatMap.mp hx
      exact ⟨file, hfile, exists_mem_fileElements_iff.mp ⟨x, hx, hq⟩⟩
    · rintro ⟨file, hfile, h⟩
      obtain ⟨x, hx, hq⟩ := exists_mem_fileElements_iff.mpr h
      exact ⟨x, List.mem_flatMap.mpr ⟨file, hfile, hx⟩, hq⟩

/-- A project with a text and a script that is no more than a bracket. -/
def bracketed : Engine where
  surroundings := { extensions := [(".py", "python"), (".txt", "text")] }
  disk := ⟨.folder (.cons ['w'] (.folder (.cons ['p'] (.folder (.cons "a.txt".toList (.file [40])
    (.cons "b.py".toList (.file [40]) .nil))) .nil)) .nil), ⟨['/'], [['w']]⟩⟩
  catalog := { tables := some {} }
  vectors := {
    kept := some []
    handle := .shared }

lemma bracket_isGarbled : IsGarbled (.ofString "p/b.py") ['('] := by
  refine ⟨by decide +kernel, fun tree htree => ?_⟩
  have herror : (Script.parse ['(']).isOk = false := by decide +kernel
  rw [htree] at herror
  cases herror

theorem bracketed_represented :
    (∃ log', processFile (.ofString "p/b.py") (.ofString "p") (bracketed, []) =
      (.ok [], (bracketed, log'))) ∧
    ∃ p s files found, indexProject (.ofString "p") [] true (bracketed, []) = (.ok p, s) ∧
      discoverFiles (.ofString "p") [] bracketed = .ok files ∧
      foundElements (.ofString "p") [] bracketed = .ok found ∧ .ofString "p/b.py" ∈ files ∧
      p.files = files.length ∧ (∃ x ∈ found, x.filePath = "a.txt") ∧
      ¬ ∃ x ∈ found, x.filePath = "b.py" := by
  have hread : bracketed.disk.read (.ofString "p/b.py") = .ok ['('] := by decide +kernel
  have hok : (indexProject (.ofString "p") [] true (bracketed, [])).1.isOk = true := by
    decide +kernel
  have hfiles' : discoverFiles (.ofString "p") [] bracketed =
      .ok [.ofString "p/b.py", .ofString "p/a.txt"] := by
    decide +kernel
  obtain ⟨p, hrun⟩ := exists_ok_of_isOk hok
  obtain ⟨hfile, hproject⟩ := file_represented_iff bracketed
  obtain ⟨es, log', hes, _, hnil⟩ := hfile _ (.ofString "p") (.ofString "b.py") _ [] hread
    (by decide +kernel)
  obtain ⟨files, found, hfiles, hfound, hcount, _, hpaths⟩ := hproject _ _ _ _ _ _ hrun
  obtain rfl := hnil.mpr bracket_isGarbled
  obtain rfl : [.ofString "p/b.py", .ofString "p/a.txt"] = files :=
    Except.ok.inj (hfiles'.symm.trans hfiles)
  refine ⟨⟨log', hes⟩, p, _, _, found, hrun, hfiles, hfound, List.mem_cons_self, hcount, ?_, ?_⟩
  · refine (hpaths _).mpr ⟨.ofString "p/a.txt", List.mem_of_mem_tail List.mem_cons_self,
      .ofString "a.txt", ['('], by decide +kernel, by decide +kernel, by decide +kernel, fun h => ?_⟩
    exact absurd h.1 (by decide +kernel)
  · rintro h
    obtain ⟨file, hfile, relative, content, hrelative, hq, hcontent, hgarbled⟩ := (hpaths _).mp h
    rcases List.mem_cons.mp hfile with rfl | hfile
    · cases hread.symm.trans hcontent
      exact hgarbled bracket_isGarbled
    · obtain rfl := List.mem_singleton.mp hfile
      have hother : (Path.ofString "p/a.txt").relativeTo? (.ofString "p") =
          some (.ofString "a.txt") := by
        decide +kernel
      cases hother.symm.trans hrelative
      exact absurd hq (by decide +kernel)

/-- Two files are counted, and one of them is found. -/
theorem bracketed_counted :
    (indexProject (.ofString "p") [] true (bracketed, [])).1.toOption.map
      (fun p => (p.files, p.elements)) = some (2, 1) ∧
    (foundElements (.ofString "p") [] bracketed).toOption.map (·.map (·.filePath)) =
      some ["a.txt"] := by
  decide +kernel

end CodeAtlas.Index.Engine
