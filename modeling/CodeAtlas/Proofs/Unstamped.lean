import CodeAtlas.Proofs.Extraction
import CodeAtlas.Proofs.Lines

/-!
# Files without a time stamp

An element of a program file needs the current time as a text. Where there is none, every group of
elements is empty or fails, so no extractor for program files finds anything. The engine then puts the
whole file in the place of its elements. Scripts and documents have extractors that need no time.
-/

namespace CodeAtlas

namespace Extract

open CodeAtlas.Text

variable {options : Options}

/-- Whatever kind of program file an extractor is for, and whatever it remembers, it answers with no
element. -/
theorem Extractor.extract_unstamped (hstamp : options.stamp = none) (x : Extractor)
    (hkind : x.kind ≠ .outline) (path content : String) :
    ∃ found x', x.extract options (some path) (some content) = .ok (found, x') ∧
      found.elements = [] := by
  match hx : x.kind with
  | .outline => exact absurd hx hkind
  | .script =>
    refine ⟨scriptElements options (some path) (some content), x, by simp only [extract, hx], ?_⟩
    refine List.eq_nil_iff_forall_not_mem.mpr fun y hy => ?_
    obtain ⟨_, _, hmakes⟩ := scriptElements_makes hy
    exact hmakes.stamp hstamp
  | .javascript =>
    refine ⟨JavaScript.elements options (some path) content.toList, x, by simp only [extract, hx], ?_⟩
    exact List.eq_nil_iff_forall_not_mem.mpr fun y hy => (JavaScript.elements_makes hy).stamp hstamp
  | .generic =>
    refine ⟨Generic.elements options (x.seePath path).language (some path) content.toList,
      x.seePath path, by simp only [extract, hx], ?_⟩
    exact List.eq_nil_iff_forall_not_mem.mpr fun y hy => (Generic.elements_makes hy).stamp hstamp

/-- Only documents get an extractor for documents. -/
lemma Extractor.kind_ofLanguage {language : String} {x : Extractor}
    (h : ofLanguage language = .ok x) (hlanguage : language ≠ "markdown") : x.kind ≠ .outline := by
  unfold ofLanguage at h
  split at h
  · rename_i found kind hfind
    cases h
    have hentry := List.mem_of_find?_eq_some hfind
    have hname : found = language := by simpa using List.find?_some hfind
    subst hname
    have hothers : ∀ e ∈ extractorKinds, e.1 ≠ "markdown" → (ofKind e.2).kind ≠ .outline := by
      decide
    exact hothers _ hentry hlanguage
  · cases h

/-- No language but that of documents has elements. -/
theorem languageElements_unstamped (hstamp : options.stamp = none) {language : String}
    (hlanguage : language ≠ "markdown") (path content : String) :
    (languageElements options language (some path) (some content)).elements = [] := by
  unfold languageElements
  split
  · rfl
  · rename_i x hx
    obtain ⟨found, x', hextract, hnil⟩ :=
      x.extract_unstamped hstamp (Extractor.kind_ofLanguage hx hlanguage) path content
    rw [hextract]
    exact hnil

end Extract

namespace Index

open CodeAtlas.Text CodeAtlas.Extract

/-- An element stands for a whole file: it is a module, it reaches from the first line to the last, and
it keeps the beginning of the text. -/
structure StandsFor (x : Element) (relative : Path) (content : List Char) : Prop where
  id : x.id = "file_" ++ String.ofList (normalizePath relative.chars)
  kind : x.kind = .module
  filePath : x.filePath = relative.toString
  lineStart : x.location.lineStart = 1
  lineEnd : x.location.lineEnd = content.count '\n' + 1
  content : x.content = String.ofList (content.take 1000)

lemma fileElement_standsFor (content : List Char) (path : String) (relative : Path)
    (language : String) :
    StandsFor (fileElement content path relative.toString language) relative content where
  id := by simp [fileElement, fileId, Path.toString]
  kind := rfl
  filePath := rfl
  lineStart := rfl
  lineEnd := by simp [fileElement, lines, length_pieces]
  content := rfl

namespace Engine

variable {options : Options} {path root relative : Path} {content : List Char}

/-- A file that is neither a script nor a document is taken as a whole. -/
lemma elementsOf_unstamped (hstamp : options.stamp = none) (hscript : path.suffix ≠ ".py".toList)
    (hlanguage : detectLanguage path ≠ "markdown") (relative : String) (content : List Char) :
    (elementsOf options path relative content).elements =
      [fileElement content path.toString relative (detectLanguage path)] := by
  have hnone := languageElements_unstamped hstamp hlanguage relative (String.ofList content)
  have hsuffix : (path.suffix == ".py".toList) = false := by simpa using hscript
  simp only [elementsOf, hsuffix, hnone, Bool.false_eq_true, if_false, List.isEmpty_nil, if_true]

/-- Processing a file that can be read gives its elements and changes nothing. -/
lemma processFile_of_read {e : Engine} (hread : e.disk.read path = .ok content)
    (hrelative : path.relativeTo? root = some relative) (log : Log) :
    ∃ log', processFile path root (e, log) =
      (.ok (elementsOf e.surroundings.options path relative.toString content).elements,
        (e, log')) := by
  refine ⟨log ++ (elementsOf e.surroundings.options path relative.toString content).log, ?_⟩
  simp only [processFile, bind, Action.andThen, Action.get, hread, hrelative, Except.bind]
  rfl

/-- Without a time stamp no extractor for program files finds anything, and the engine makes one element
of every file that it can read, unless it is a script or a document. -/
theorem unstamped_file_is_one_element {e : Engine} (hstamp : e.surroundings.options.stamp = none) :
    (∀ x : Extractor, x.kind ≠ .outline → ∀ path content : String, ∃ found x',
      x.extract e.surroundings.options (some path) (some content) = .ok (found, x') ∧
        found.elements = []) ∧
    ∀ path root relative content log, e.disk.read path = .ok content →
      path.relativeTo? root = some relative → path.suffix ≠ ".py".toList →
      detectLanguage path ≠ "markdown" →
      ∃ x log', processFile path root (e, log) = (.ok [x], (e, log')) ∧
        StandsFor x relative content := by
  refine ⟨fun x hkind => x.extract_unstamped hstamp hkind, ?_⟩
  intro path root relative content log hread hrelative hscript hlanguage
  obtain ⟨log', hrun⟩ := processFile_of_read hread hrelative log
  rw [elementsOf_unstamped hstamp hscript hlanguage] at hrun
  exact ⟨_, log', hrun, fileElement_standsFor _ _ _ _⟩

/-- A folder `s` with a file `a.js` of two lines, in which there is a class to be found. -/
def unstamped : Engine where
  disk := ⟨.folder (.cons ['w'] (.folder (.cons ['s'] (.folder (.cons "a.js".toList
    (.file [99, 108, 97, 115, 115, 32, 65, 32, 123, 10, 125]) .nil)) .nil)) .nil), ⟨['/'], [['w']]⟩⟩

theorem unstamped_class_is_lost :
    JavaScript.classPattern.search? "class A \x7b".toList ≠ none ∧
    ∃ x log', processFile (.ofString "s/a.js") (.ofString ".") (unstamped, []) =
        (.ok [x], (unstamped, log')) ∧
      x.id = "file_s\\a.js" ∧ x.kind = .module ∧ x.location.lineStart = 1 ∧
      x.location.lineEnd = 2 ∧ x.content = "class A \x7b\n\x7d" := by
  have hread : unstamped.disk.read (.ofString "s/a.js") = .ok "class A \x7b\n\x7d".toList := by
    decide +kernel
  have hclass : (JavaScript.classPattern.search? "class A \x7b".toList).isSome = true := by
    decide +kernel
  obtain ⟨x, log', hrun, hx⟩ := (unstamped_file_is_one_element (e := unstamped) rfl).2
    (.ofString "s/a.js") (.ofString ".") (.ofString "s/a.js") _ [] hread (by decide +kernel)
    (by decide +kernel) (by decide +kernel)
  refine ⟨Option.isSome_iff_ne_none.mp hclass, x, log', hrun, ?_, hx.kind, hx.lineStart, ?_, ?_⟩
  · exact hx.id.trans (by decide +kernel)
  · exact hx.lineEnd.trans (by decide +kernel)
  · exact hx.content.trans (by decide +kernel)

end Engine

end Index

end CodeAtlas
