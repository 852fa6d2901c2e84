import CodeAtlas.Index.Engine
import Mathlib.Tactic

/-!
# Where elements come from

Every element of a program file was made, by `makeElement`, for a line of the file or a statement of the
script. So it carries the path that the extractor was given, and there is none without a time stamp.
The elements of documents carry the path too.
-/

namespace CodeAtlas.Extract

open CodeAtlas.Text

/-! ### Steps that may fail -/

lemma bind_eq_ok {α β : Type} {x : Except Failure α} {f : α → Except Failure β} {b : β}
    (h : (x >>= f) = .ok b) : ∃ a, x = .ok a ∧ f a = .ok b := by
  match x with
  | .ok a => exact ⟨a, rfl, h⟩
  | .error e => cases h

lemma some_map_eq_ok {α : Type} {x : Except Failure α} {a : α}
    (h : (some <$> x : Except Failure (Option α)) = .ok (some a)) : x = .ok a := by
  match x with
  | .ok b => cases h; rfl
  | .error e => cases h

/-- What is kept of a list was found in one of its items. -/
lemma mem_filterMapM {α β : Type} {f : α → Except Failure (Option β)} {xs : List α} {ys : List β}
    (h : xs.filterMapM f = .ok ys) : ∀ y ∈ ys, ∃ x ∈ xs, f x = .ok (some y) := by
  induction xs generalizing ys with
  | nil =>
    cases h
    simp
  | cons x xs ih =>
    rw [List.filterMapM_cons] at h
    obtain ⟨found, hx, h⟩ := bind_eq_ok h
    match found with
    | none =>
      intro y hy
      obtain ⟨z, hz, hfz⟩ := ih h y hy
      exact ⟨z, List.mem_cons_of_mem x hz, hfz⟩
    | some b =>
      obtain ⟨rest, hrest, hys⟩ := bind_eq_ok h
      cases hys
      intro y hy
      rcases List.mem_cons.mp hy with rfl | hy
      · exact ⟨x, List.mem_cons_self, hx⟩
      · obtain ⟨z, hz, hfz⟩ := ih hrest y hy
        exact ⟨z, List.mem_cons_of_mem x hz, hfz⟩

/-- What is collected was in a group that did not fail. -/
lemma mem_collectGroups {groups : List (Except Failure (List Element))} {x : Element}
    (h : x ∈ (collectGroups groups).1) : ∃ es, .ok es ∈ groups ∧ x ∈ es := by
  induction groups with
  | nil => cases h
  | cons group groups ih =>
    match group with
    | .error f => cases h
    | .ok es =>
      simp only [collectGroups, List.mem_append] at h
      rcases h with h | h
      · exact ⟨es, List.mem_cons_self, h⟩
      · obtain ⟨fs, hfs, hx⟩ := ih h
        exact ⟨fs, List.mem_cons_of_mem _ hfs, hx⟩

/-- An element that was made has the path it was made with. -/
lemma makeElement_filePath {options : Options} {language : String} {kind : ElementKind}
    {name : String} {path : Option String} {location : Location} {content : String}
    {complexity : Option Int} {x : Element}
    (h : makeElement options language kind name path location content complexity = .ok x) :
    path = some x.filePath := by
  unfold makeElement at h
  split at h
  · cases h
  · cases h
  · cases h
    rfl

/-- No element is made without a time stamp. -/
lemma makeElement_stamp {options : Options} {language : String} {kind : ElementKind}
    {name : String} {path : Option String} {location : Location} {content : String}
    {complexity : Option Int} {x : Element}
    (h : makeElement options language kind name path location content complexity = .ok x) :
    options.stamp ≠ none := by
  intro hstamp
  simp [makeElement, hstamp] at h

/-! ### Line by line -/

namespace SourceFile

/-- An element that was made for a line of the file, or for the block that starts on it; functions and
classes are blocks. -/
inductive Makes (file : SourceFile) (x : Element) : Prop
  | line {kind : ElementKind} {name content : List Char} {index width : Nat}
      (hkind : kind ≠ .function ∧ kind ≠ .classDef) (hindex : index < file.lines.length)
      (h : file.lineElement kind name content index width = .ok x)
  | block {length : Nat} {kind : ElementKind} {name : List Char} {index : Nat}
      {complexity : List Char → Nat} (hindex : index < file.lines.length)
      (h : file.blockElement length kind name index complexity = .ok x)

variable {file : SourceFile} {x : Element}

lemma Makes.filePath (h : file.Makes x) : file.path = some x.filePath := by
  match h with
  | .line _ _ h => exact makeElement_filePath h
  | .block _ h => exact makeElement_filePath h

lemma Makes.stamp (h : file.Makes x) : file.options.stamp ≠ none := by
  match h with
  | .line _ _ h => exact makeElement_stamp h
  | .block _ h => exact makeElement_stamp h

/-- It is enough to know what is made of one line. -/
lemma makes_of_eachLine {find : Nat → List Char → Except Failure (Option Element)}
    (hfind : ∀ index line y, index < file.lines.length → find index line = .ok (some y) →
      file.Makes y)
    {es : List Element} (h : file.eachLine find = .ok es) (hx : x ∈ es) : file.Makes x := by
  obtain ⟨⟨line, index⟩, hmem, hfound⟩ := mem_filterMapM h x hx
  have hindex : index < file.lines.length := by
    simpa using (List.mem_zipIdx hmem).2.1
  exact hfind index line x hindex hfound

lemma makes_of_eachTrimmed {find : Nat → List Char → Except Failure (Option Element)}
    (hfind : ∀ index line y, index < file.lines.length → find index line = .ok (some y) →
      file.Makes y)
    {es : List Element} (h : file.eachTrimmed find = .ok es) (hx : x ∈ es) : file.Makes x :=
  makes_of_eachLine (fun index line => hfind index (trim line)) h hx

end SourceFile

namespace JavaScript

variable {file : SourceFile} {es : List Element} {x : Element}

lemma imports_makes (h : imports file = .ok es) (hx : x ∈ es) : file.Makes x := by
  refine SourceFile.makes_of_eachTrimmed (fun index line y hindex hy => ?_) h hx
  split at hy
  · exact .line (by decide) hindex (some_map_eq_ok hy)
  · cases hy

lemma exports_makes (h : exports file = .ok es) (hx : x ∈ es) : file.Makes x := by
  refine SourceFile.makes_of_eachTrimmed (fun index line y hindex hy => ?_) h hx
  split at hy
  · exact .line (by decide) hindex (some_map_eq_ok hy)
  · cases hy

lemma classes_makes (h : classes file = .ok es) (hx : x ∈ es) : file.Makes x := by
  refine SourceFile.makes_of_eachLine (fun index line y hindex hy => ?_) h hx
  split at hy
  · cases hy
  · obtain ⟨element, helement, hy⟩ := bind_eq_ok hy
    split at hy
    · cases hy
    · cases hy
      exact .block hindex helement

lemma functions_makes (h : functions file = .ok es) (hx : x ∈ es) : file.Makes x := by
  refine SourceFile.makes_of_eachLine (fun index line y hindex hy => ?_) h hx
  split at hy
  · cases hy
  · split at hy
    · exact .block hindex (some_map_eq_ok hy)
    · cases hy

lemma bindings_makes (h : bindings file = .ok es) (hx : x ∈ es) : file.Makes x := by
  refine SourceFile.makes_of_eachTrimmed (fun index line y hindex hy => ?_) h hx
  split at hy
  · cases hy
  · split at hy
    · cases hy
    · split at hy
      · cases hy
      · exact .line (by decide) hindex (some_map_eq_ok hy)

/-- Every element of a JavaScript file was made for one of its lines. -/
theorem elements_makes {options : Options} {path : Option String} {content : List Char} {x : Element}
    (hx : x ∈ (elements options path content).elements) :
    SourceFile.Makes ⟨options, language, path, lines content⟩ x := by
  obtain ⟨es, hes, hx⟩ := mem_collectGroups hx
  simp only [List.mem_cons, List.not_mem_nil, or_false] at hes
  rcases hes with h | h | h | h | h
  · exact imports_makes h.symm hx
  · exact exports_makes h.symm hx
  · exact classes_makes h.symm hx
  · exact functions_makes h.symm hx
  · exact bindings_makes h.symm hx

end JavaScript

namespace Generic

variable {file : SourceFile} {es : List Element} {x : Element}

lemma imports_makes (h : imports file = .ok es) (hx : x ∈ es) : file.Makes x := by
  refine SourceFile.makes_of_eachTrimmed (fun index line y hindex hy => ?_) h hx
  split at hy
  · exact .line (by decide) hindex (some_map_eq_ok hy)
  · cases hy

lemma functions_makes (h : functions file = .ok es) (hx : x ∈ es) : file.Makes x := by
  refine SourceFile.makes_of_eachTrimmed (fun index line y hindex hy => ?_) h hx
  split at hy
  · cases hy
  · split at hy
    · exact .block hindex (some_map_eq_ok hy)
    · cases hy

lemma classes_makes (h : classes file = .ok es) (hx : x ∈ es) : file.Makes x := by
  refine SourceFile.makes_of_eachTrimmed (fun index line y hindex hy => ?_) h hx
  split at hy
  · exact .block hindex (some_map_eq_ok hy)
  · cases hy

lemma bindings_makes (h : bindings file = .ok es) (hx : x ∈ es) : file.Makes x := by
  refine SourceFile.makes_of_eachTrimmed (fun index line y hindex hy => ?_) h hx
  split at hy
  · cases hy
  · split at hy
    · cases hy
    · split at hy
      · cases hy
      · exact .line (by decide) hindex (some_map_eq_ok hy)

lemma comments_makes (h : comments file = .ok es) (hx : x ∈ es) : file.Makes x := by
  refine SourceFile.makes_of_eachTrimmed (fun index line y hindex hy => ?_) h hx
  split at hy
  · exact .line (by decide) hindex (some_map_eq_ok hy)
  · cases hy

/-- Every element of another program file was made for one of its lines. -/
theorem elements_makes {options : Options} {language : String} {path : Option String}
    {content : List Char} {x : Element}
    (hx : x ∈ (elements options language path content).elements) :
    SourceFile.Makes ⟨options, language, path, lines content⟩ x := by
  obtain ⟨es, hes, hx⟩ := mem_collectGroups hx
  simp only [List.mem_cons, List.not_mem_nil, or_false] at hes
  rcases hes with h | h | h | h | h
  · exact imports_makes h.symm hx
  · exact functions_makes h.symm hx
  · exact classes_makes h.symm hx
  · exact bindings_makes h.symm hx
  · exact comments_makes h.symm hx

end Generic

/-! ### Scripts -/

namespace ScriptFile

/-- An element that was made for a statement of the script, apart from its links. -/
def Makes (file : ScriptFile) (x : Element) : Prop :=
  ∃ kind name span complexity y links,
    file.element kind name span complexity = .ok y ∧ x = { y with links := links }

variable {file : ScriptFile} {x : Element}

lemma makes_of_element {kind : ElementKind} {name : String} {span : Script.Span}
    {complexity : Option Int} (h : file.element kind name span complexity = .ok x) : file.Makes x :=
  ⟨kind, name, span, complexity, x, x.links, h, rfl⟩

lemma Makes.filePath (h : file.Makes x) : file.path = some x.filePath := by
  obtain ⟨kind, name, span, complexity, y, links, hy, rfl⟩ := h
  have hpath := makeElement_filePath hy
  exact hpath

lemma Makes.stamp (h : file.Makes x) : file.options.stamp ≠ none := by
  obtain ⟨kind, name, span, complexity, y, links, hy, _⟩ := h
  exact makeElement_stamp hy

/-- Other links do not matter. -/
lemma Makes.relink (h : file.Makes x) (links : Option (List String)) :
    file.Makes { x with links := links } := by
  obtain ⟨kind, name, span, complexity, y, _, hy, rfl⟩ := h
  exact ⟨kind, name, span, complexity, y, links, hy, rfl⟩

end ScriptFile

section

variable {file : ScriptFile} {n : Script.Node} {x : Element}

lemma importElement_makes (h : importElement file n = .ok (some x)) : file.Makes x := by
  unfold importElement at h
  split at h
  · split at h
    · exact ScriptFile.makes_of_element (some_map_eq_ok h)
    · cases h
  · cases h

lemma classElement_makes (h : classElement file n = .ok (some x)) : file.Makes x := by
  unfold classElement at h
  split at h
  · obtain ⟨bases, _, h⟩ := bind_eq_ok h
    obtain ⟨element, helement, h⟩ := bind_eq_ok h
    obtain ⟨links, _, h⟩ := bind_eq_ok h
    cases h
    exact (ScriptFile.makes_of_element helement).relink _
  · cases h

lemma functionElement_makes (h : functionElement file n = .ok (some x)) : file.Makes x := by
  unfold functionElement at h
  split at h
  · obtain ⟨element, helement, h⟩ := bind_eq_ok h
    obtain ⟨links, _, h⟩ := bind_eq_ok h
    cases h
    exact (ScriptFile.makes_of_element helement).relink _
  · cases h

lemma bindingElement_makes (h : bindingElement file n = .ok (some x)) : file.Makes x := by
  unfold bindingElement at h
  split at h
  · split at h
    · split at h
      · cases h
      · exact ScriptFile.makes_of_element (some_map_eq_ok h)
    · cases h
  · cases h

lemma group_makes {make : ScriptFile → Script.Node → Except Failure (Option Element)}
    (hmake : ∀ n x, make file n = .ok (some x) → file.Makes x) {es : List Element}
    (h : file.group make = .ok es) (hx : x ∈ es) : file.Makes x := by
  obtain ⟨n, _, hn⟩ := mem_filterMapM h x hx
  exact hmake n x hn

lemma linkImports_makes {es : List Element} (hes : ∀ y ∈ es, file.Makes y)
    (hx : x ∈ file.linkImports es) : file.Makes x := by
  simp only [ScriptFile.linkImports, List.mem_map] at hx
  obtain ⟨y, hy, rfl⟩ := hx
  split
  · exact (hes y hy).relink _
  · exact hes y hy

/-- Every element of a script was made for one of its statements. -/
theorem scriptElements_makes {options : Options} {path content : Option String}
    (hx : x ∈ (scriptElements options path content).elements) :
    ∃ lines tree, ScriptFile.Makes ⟨options, path, lines, tree⟩ x := by
  unfold scriptElements at hx
  match content with
  | none => cases hx
  | some text =>
    simp only at hx
    split at hx
    · cases hx
    · cases hx
    · rename_i tree _
      let file : ScriptFile := ⟨options, path, lines text.toList, tree⟩
      have hgroups : ∀ y ∈ (collectGroups [file.group importElement, file.group classElement,
          file.group functionElement, file.group bindingElement]).1, file.Makes y := by
        intro y hy
        obtain ⟨es, hes, hy⟩ := mem_collectGroups hy
        simp only [List.mem_cons, List.not_mem_nil, or_false] at hes
        rcases hes with h | h | h | h
        · exact group_makes (fun _ _ => importElement_makes) h.symm hy
        · exact group_makes (fun _ _ => classElement_makes) h.symm hy
        · exact group_makes (fun _ _ => functionElement_makes) h.symm hy
        · exact group_makes (fun _ _ => bindingElement_makes) h.symm hy
      refine ⟨lines text.toList, tree, ?_⟩
      split at hx
      · exact hgroups x hx
      · exact linkImports_makes hgroups hx

end

/-! ### Documents -/

lemma headingElements_filePath {path : String} {ls : List (List Char)} {all : List Outline.Heading}
    (hs : List Outline.Heading) (parents : List (Option Nat)) {x : Element}
    (hx : x ∈ Outline.headingElements path ls all hs parents) : x.filePath = path := by
  induction hs generalizing parents with
  | nil => cases hx
  | cons h later ih =>
    match parents with
    | [] => cases hx
    | parent :: parents =>
      rcases List.mem_cons.mp hx with rfl | hx
      · rfl
      · exact ih parents hx

theorem outline_filePath {path : String} {content : List Char} {x : Element}
    (hx : x ∈ (Outline.elements (some path) content).elements) : x.filePath = path :=
  headingElements_filePath _ _ hx

/-! ### Any language -/

/-- The elements of a file in any language carry its path. -/
theorem languageElements_filePath {options : Options} {language path text : String} {x : Element}
    (hx : x ∈ (languageElements options language (some path) (some text)).elements) :
    x.filePath = path := by
  unfold languageElements at hx
  split at hx
  · cases hx
  · rename_i extractor _
    have hmade : ∀ found extractor', extractor.extract options (some path) (some text) =
        .ok (found, extractor') → x ∈ found.elements → some path = some x.filePath := by
      intro found extractor' h hx
      unfold Extractor.extract at h
      match hkind : extractor.kind with
      | .script =>
        simp only [hkind] at h
        cases h
        obtain ⟨_, _, hmakes⟩ := scriptElements_makes hx
        exact hmakes.filePath
      | .javascript =>
        simp only [hkind] at h
        cases h
        exact (JavaScript.elements_makes hx).filePath
      | .outline =>
        simp only [hkind] at h
        cases h
        rw [outline_filePath hx]
      | .generic =>
        simp only [hkind] at h
        cases h
        exact (Generic.elements_makes hx).filePath
    split at hx
    · rename_i found extractor' h
      exact (Option.some.inj (hmade found extractor' h hx)).symm
    · cases hx

end CodeAtlas.Extract

namespace CodeAtlas.Index

open CodeAtlas.Text CodeAtlas.Extract

/-! ### The indexer -/

lemma topLevel_filePath {s : Source} {n : Script.Node} {x : Element} (hx : x ∈ s.topLevel n) :
    x.filePath = s.path := by
  unfold Source.topLevel at hx
  split at hx
  · rcases List.mem_cons.mp hx with rfl | hx
    · rfl
    · simp only [Source.methods, List.mem_filterMap] at hx
      obtain ⟨m, _, hm⟩ := hx
      split at hm
      · cases hm
        rfl
      · cases hm
  · rcases List.mem_singleton.mp hx with rfl
    rfl
  · rcases List.mem_singleton.mp hx with rfl
    rfl
  · rcases List.mem_singleton.mp hx with rfl
    rfl
  · cases hx

/-- Only a script that can be parsed has elements. -/
lemma mem_indexScript {path text : String} {x : Element}
    (hx : x ∈ (indexScript (some path) (some text)).elements) :
    ∃ tree, x ∈ moduleElements path text.toList tree := by
  unfold indexScript at hx
  simp only at hx
  split at hx
  · cases hx
  · cases hx
  · rename_i h
    cases h
  · rename_i tree file _ hfile
    cases hfile
    exact ⟨tree, hx⟩

theorem indexScript_filePath {path text : String} {x : Element}
    (hx : x ∈ (indexScript (some path) (some text)).elements) : x.filePath = path := by
  obtain ⟨tree, hx⟩ := mem_indexScript hx
  rcases List.mem_cons.mp hx with rfl | hx
  · rfl
  · obtain ⟨n, _, hn⟩ := List.mem_flatMap.mp hx
    exact topLevel_filePath hn

namespace Engine

/-- Every element that the engine finds in a file carries the path of the file inside the project. -/
theorem elementsOf_filePath {options : Options} {path : Path} {relative : String}
    {content : List Char} {x : Element}
    (hx : x ∈ (elementsOf options path relative content).elements) : x.filePath = relative := by
  unfold elementsOf at hx
  simp only at hx
  split at hx
  · exact indexScript_filePath hx
  · split at hx
    · rcases List.mem_singleton.mp hx with rfl
      rfl
    · exact languageElements_filePath hx

end Engine

end CodeAtlas.Index
