import CodeAtlas.Proofs.Extraction

/-!
# Elements and the lines they stand on

An element of a program file stands on lines of the file. A block begins on the line where it was seen,
and its end is looked for from there: at the closing brace, or some lines further if there is none, but
never behind the last line. So a function or a class has the lines between as its content, whatever the
braces are like, and whichever group of elements fails later.
-/

namespace CodeAtlas

open CodeAtlas.Text

/-- An element stands on lines of a file, and counts them. If it is a function or a class, they are its
content. -/
structure Element.StandsOn (ls : List (List Char)) (e : Element) : Prop where
  first : 1 ≤ e.location.lineStart
  ordered : e.location.lineStart ≤ e.location.lineEnd
  last : e.location.lineEnd ≤ ls.length
  counted : e.metadata.linesOfCode = some (e.location.lineEnd - e.location.lineStart + 1)
  content : e.kind = .function ∨ e.kind = .classDef →
    e.content.toList = unlines (slice (e.location.lineStart - 1).toNat e.location.lineEnd.toNat ls)

namespace Extract

/-! ### The end of a block -/

section Blocks

variable {opening closing : Char} {ls : List (List Char)}

/-- A block that is closed is closed on one of the lines that are left. -/
lemma closingLine?_lt {s : BraceDepth} {n : Nat} (h : closingLine? opening closing s ls = some n) :
    n < ls.length := by
  induction ls generalizing s n with
  | nil => cases h
  | cons line ls ih =>
    simp only [closingLine?] at h
    split at h
    · cases h
      simp
    · rename_i s' _
      obtain ⟨m, hm, rfl⟩ := Option.map_eq_some_iff.mp h
      simpa using ih hm

/-- A block ends on a line of the file, not before the one it begins on. -/
lemma exists_blockEnd {length start : Nat} (h : start < ls.length) :
    ∃ last : Nat, blockEnd opening closing length ls start = last ∧ start ≤ last ∧
      last < ls.length := by
  unfold blockEnd
  split
  · rename_i n hclosed
    have hlt := closingLine?_lt hclosed
    rw [List.length_drop] at hlt
    exact ⟨start + n, rfl, by omega, by omega⟩
  · -- Without an end, the block is cut at the last line.
    exact ⟨min (start + length) (ls.length - 1), by omega, by omega, by omega⟩

end Blocks

/-! ### What is made of a line -/

section Made

variable {options : Options} {language name content : String} {kind : ElementKind}
  {path : Option String} {location : Location} {complexity : Option Int} {x : Element}

lemma makeElement_fields
    (h : makeElement options language kind name path location content complexity = .ok x) :
    x.kind = kind ∧ x.location = location ∧ x.content = content ∧
      x.metadata.linesOfCode = some (location.lineEnd - location.lineStart + 1) := by
  unfold makeElement at h
  split at h
  · cases h
  · cases h
  · cases h
    exact ⟨rfl, rfl, rfl, rfl⟩

/-- An element from one line to another, both counted from zero. -/
lemma standsOn_of_made {ls : List (List Char)} {start last : Nat}
    (h : makeElement options language kind name path location content complexity = .ok x)
    (hstart : location.lineStart = start + 1) (hend : location.lineEnd = last + 1)
    (hle : start ≤ last) (hlt : last < ls.length)
    (hcontent : kind = .function ∨ kind = .classDef →
      content.toList = unlines (slice start (last + 1) ls)) : x.StandsOn ls := by
  obtain ⟨rfl, rfl, rfl, hcounted⟩ := makeElement_fields h
  refine ⟨by omega, by omega, by omega, hcounted, fun hkind => ?_⟩
  have hfirst : (x.location.lineStart - 1).toNat = start := by omega
  have hlast : x.location.lineEnd.toNat = last + 1 := by omega
  rw [hfirst, hlast]
  exact hcontent hkind

end Made

namespace SourceFile

variable {file : SourceFile} {x : Element}

/-- Whatever is made of a line stands on lines of the file. -/
theorem Makes.standsOn (h : file.Makes x) : x.StandsOn file.lines := by
  match h with
  | .line hkind hindex h =>
    -- A single line is neither a function nor a class.
    exact standsOn_of_made h rfl rfl le_rfl hindex fun hblock =>
      (hblock.elim hkind.1 hkind.2).elim
  | @Makes.block _ _ length kind name index complexity hindex h =>
    have hend : ∃ last : Nat, blockEnd '\x7b' '\x7d' length file.lines index = last ∧ index ≤ last ∧
        last < file.lines.length := exists_blockEnd hindex
    obtain ⟨last, hlast, hle, hlt⟩ := hend
    unfold blockElement at h
    rw [hlast] at h
    refine standsOn_of_made h rfl rfl hle hlt fun _ => ?_
    rw [String.toList_ofList, Int.toNat_natCast]

/-! ### Where elements begin -/

/-- A file of which elements can be made: it has a path, and there is a time stamp. -/
def IsStamped (file : SourceFile) : Prop :=
  file.options.stamp ≠ none ∧ file.path ≠ none

/-- An element of a kind begins on a line, counted from zero. -/
def Begins (es : List Element) (kind : ElementKind) (index : Nat) : Prop :=
  ∃ e ∈ es, e.kind = kind ∧ e.location.lineStart = index + 1

lemma exists_makeElement (h : file.IsStamped) (kind : ElementKind) (name : String)
    (location : Location) (content : String) (complexity : Option Int) :
    ∃ e, makeElement file.options file.language kind name file.path location content complexity =
      .ok e := by
  obtain ⟨stamp, hstamp⟩ := Option.ne_none_iff_exists'.mp h.1
  obtain ⟨path, hpath⟩ := Option.ne_none_iff_exists'.mp h.2
  simp [makeElement, hstamp, hpath]

lemma exists_lineElement (h : file.IsStamped) (kind : ElementKind) (name content : List Char)
    (index width : Nat) : ∃ e, file.lineElement kind name content index width = .ok e :=
  exists_makeElement h kind _ _ _ _

lemma exists_blockElement (h : file.IsStamped) (length : Nat) (kind : ElementKind)
    (name : List Char) (index : Nat) (complexity : List Char → Nat) :
    ∃ e, file.blockElement length kind name index complexity = .ok e ∧ e.kind = kind ∧
      e.location.lineStart = index + 1 := by
  obtain ⟨e, he⟩ := exists_makeElement h kind (String.ofList name) _ _ _
  obtain ⟨hkind, hlocation, _⟩ := makeElement_fields he
  exact ⟨e, he, hkind, by rw [hlocation]⟩

lemma exists_filterMapM {α β : Type} {f : α → Except Failure (Option β)} {xs : List α}
    (h : ∀ x ∈ xs, ∃ found, f x = .ok found) :
    ∃ ys, xs.filterMapM f = .ok ys ∧ ∀ x ∈ xs, ∀ y, f x = .ok (some y) → y ∈ ys := by
  induction xs with
  | nil => exact ⟨[], rfl, by simp⟩
  | cons x xs ih =>
    obtain ⟨⟨found, hfound⟩, hxs⟩ := List.forall_mem_cons.mp h
    obtain ⟨ys, hys, hmem⟩ := ih hxs
    refine ⟨found.toList ++ ys, ?_, ?_⟩
    · rw [List.filterMapM_cons, hfound, hys]
      cases found <;> rfl
    · intro x' hx' y hy
      rcases List.mem_cons.mp hx' with rfl | hx'
      · rw [hfound] at hy
        cases hy
        simp
      · exact List.mem_append_right _ (hmem x' hx' y hy)

/-- A group that does not fail, and has an element of a kind for every line where one is seen. -/
def Serves (file : SourceFile) (kind : ElementKind) (sees : List Char → Bool)
    (group : Except Failure (List Element)) : Prop :=
  ∃ es, group = .ok es ∧
    ∀ index line, file.lines[index]? = some line → sees line = true → Begins es kind index

/-- It is enough to know what is made of one line. -/
lemma serves_eachLine {find : Nat → List Char → Except Failure (Option Element)}
    {kind : ElementKind} {sees : List Char → Bool}
    (h : ∀ index, ∀ line ∈ file.lines, ∃ found, find index line = .ok found ∧
      (sees line = true → ∃ e, found = some e ∧ e.kind = kind ∧ e.location.lineStart = index + 1)) :
    file.Serves kind sees (file.eachLine find) := by
  have hmem : ∀ line index, (line, index) ∈ file.lines.zipIdx ↔ file.lines[index]? = some line :=
    fun line index => List.mem_zipIdx_iff_getElem?
  obtain ⟨es, hes, hall⟩ : ∃ es, file.eachLine find = .ok es ∧ _ :=
    exists_filterMapM fun ⟨line, index⟩ hline => by
      obtain ⟨found, hfound, _⟩ := h index line (List.mem_of_getElem? ((hmem _ _).mp hline))
      exact ⟨found, hfound⟩
  refine ⟨es, hes, fun index line hline hsees => ?_⟩
  obtain ⟨_, hfound, hbegins⟩ := h index line (List.mem_of_getElem? hline)
  obtain ⟨e, rfl, hkind, hstart⟩ := hbegins hsees
  exact ⟨e, hall (line, index) ((hmem _ _).mpr hline) e hfound, hkind, hstart⟩

lemma serves_eachTrimmed {find : Nat → List Char → Except Failure (Option Element)}
    {kind : ElementKind} {sees : List Char → Bool}
    (h : ∀ index line, ∃ found, find index line = .ok found ∧
      (sees line = true → ∃ e, found = some e ∧ e.kind = kind ∧ e.location.lineStart = index + 1)) :
    file.Serves kind (fun line => sees (trim line)) (file.eachTrimmed find) :=
  serves_eachLine fun index line _ => h index (trim line)

/-- Elements of single lines can always be made. -/
lemma exists_eachTrimmed {find : Nat → List Char → Except Failure (Option Element)}
    (h : ∀ index line, find index line = .ok none ∨ ∃ kind name content width,
      find index line = some <$> file.lineElement kind name content index width)
    (hfile : file.IsStamped) : ∃ es, file.eachTrimmed find = .ok es := by
  have hserves : file.Serves .importing (fun _ => false) (file.eachTrimmed find) := by
    refine serves_eachLine fun index line _ => ?_
    rcases h index (trim line) with hnone | ⟨kind, name, content, width, hsome⟩
    · exact ⟨none, hnone, Bool.false_ne_true.elim⟩
    · obtain ⟨e, he⟩ := exists_lineElement hfile kind name content index width
      rw [he] at hsome
      exact ⟨some e, hsome, Bool.false_ne_true.elim⟩
  obtain ⟨es, hes, _⟩ := hserves
  exact ⟨es, hes⟩

/-- The same for what is collected, if the groups before do not fail. -/
lemma Begins.collected {kind : ElementKind} {index : Nat} {es : List Element}
    (h : Begins es kind index) (before after : List (Except Failure (List Element)))
    (hbefore : ∀ g ∈ before, ∃ fs, g = .ok fs) :
    Begins (collectGroups (before ++ .ok es :: after)).1 kind index := by
  obtain ⟨e, he, hbegins⟩ := h
  refine ⟨e, ?_, hbegins⟩
  induction before with
  | nil =>
    simp only [List.nil_append, collectGroups, List.mem_append]
    exact Or.inl he
  | cons g before ih =>
    obtain ⟨⟨fs, rfl⟩, hrest⟩ := List.forall_mem_cons.mp hbefore
    simp only [List.cons_append, collectGroups, List.mem_append]
    exact Or.inr (ih hrest)

end SourceFile

/-! ### JavaScript -/

namespace JavaScript

variable {file : SourceFile}

/-- Whether a class begins on a line. -/
def seesClass (line : List Char) : Bool :=
  (classPattern.search? line).isSome

/-- Whether a class with a base begins on a line. -/
def seesBase (line : List Char) : Bool :=
  (classPattern.search? line).any fun m => (m.group? 2).isSome

/-- Whether a function begins on a line. -/
def seesFunction (line : List Char) : Bool :=
  !contains "class".toList line && (functionPatterns.findSome? (·.search? line)).isSome

lemma exists_imports (h : file.IsStamped) : ∃ es, imports file = .ok es := by
  refine SourceFile.exists_eachTrimmed (fun index line => ?_) h
  split
  · exact Or.inr ⟨_, _, _, _, rfl⟩
  · exact Or.inl rfl

lemma exists_exports (h : file.IsStamped) : ∃ es, exports file = .ok es := by
  refine SourceFile.exists_eachTrimmed (fun index line => ?_) h
  split
  · exact Or.inr ⟨_, _, _, _, rfl⟩
  · exact Or.inl rfl

lemma serves_classes (h : file.IsStamped) (hbase : ∀ line ∈ file.lines, seesBase line = false) :
    file.Serves .classDef seesClass (classes file) := by
  refine SourceFile.serves_eachLine fun index line hline => ?_
  have hnobase := hbase line hline
  unfold seesBase at hnobase
  unfold seesClass
  cases hm : classPattern.search? line with
  | none => exact ⟨none, rfl, fun hsees => by cases hsees⟩
  | some m =>
    obtain ⟨e, he, hkind, hstart⟩ := SourceFile.exists_blockElement h blockLength .classDef
      (m.group 1) index classComplexity
    rw [hm, Option.any_some] at hnobase
    refine ⟨some e, ?_, fun _ => ⟨e, rfl, hkind, hstart⟩⟩
    simp only [he, bind, Except.bind, hnobase, Bool.false_eq_true, if_false]
    rfl

lemma serves_functions (h : file.IsStamped) :
    file.Serves .function seesFunction (functions file) := by
  refine SourceFile.serves_eachLine fun index line _ => ?_
  unfold seesFunction
  cases hclass : contains "class".toList line with
  | true => exact ⟨none, rfl, fun hsees => by cases hsees⟩
  | false =>
    cases hm : functionPatterns.findSome? (·.search? line) with
    | none => exact ⟨none, rfl, fun hsees => by cases hsees⟩
    | some m =>
      obtain ⟨e, he, hkind, hstart⟩ := SourceFile.exists_blockElement h blockLength .function
        (m.group 1) index complexity
      exact ⟨some e, by simp [he], fun _ => ⟨e, rfl, hkind, hstart⟩⟩

/-- Every function and class of a file without bases has its element. -/
theorem begins_elements {options : Options} {path : Option String} {content : List Char}
    (hstamp : options.stamp ≠ none) (hpath : path ≠ none)
    (hbase : ∀ line ∈ lines content, seesBase line = false) {index : Nat} {line : List Char}
    (hline : (lines content)[index]? = some line) :
    (seesClass line = true →
      SourceFile.Begins (elements options path content).elements .classDef index) ∧
    (seesFunction line = true →
      SourceFile.Begins (elements options path content).elements .function index) := by
  let file : SourceFile := ⟨options, language, path, lines content⟩
  have hfile : file.IsStamped := ⟨hstamp, hpath⟩
  obtain ⟨found, hfound⟩ := exists_imports hfile
  obtain ⟨shown, hshown⟩ := exists_exports hfile
  obtain ⟨classList, hclasses, hclass⟩ := serves_classes hfile hbase
  obtain ⟨functionList, hfunctions, hfunction⟩ := serves_functions hfile
  have hgroups : (elements options path content).elements = (collectGroups
      [.ok found, .ok shown, .ok classList, .ok functionList, bindings file]).1 := by
    rw [← hfound, ← hshown, ← hclasses, ← hfunctions]
    rfl
  rw [hgroups]
  constructor
  · intro hsees
    exact (hclass index line hline hsees).collected [.ok found, .ok shown] _ (by simp)
  · intro hsees
    exact (hfunction index line hline hsees).collected [.ok found, .ok shown, .ok classList] _
      (by simp)

end JavaScript

/-! ### Other languages -/

namespace Generic

variable {file : SourceFile}

/-- Whether a function begins on a line. -/
def seesFunction (line : List Char) : Bool :=
  !(line.isEmpty || isCommentLine line) && (functionName? line).isSome

/-- Whether a class begins on a line. -/
def seesClass (line : List Char) : Bool :=
  (classPatterns.findSome? (·.search? line)).isSome

lemma exists_imports (h : file.IsStamped) : ∃ es, imports file = .ok es := by
  refine SourceFile.exists_eachTrimmed (fun index line => ?_) h
  split
  · exact Or.inr ⟨_, _, _, _, rfl⟩
  · exact Or.inl rfl

lemma serves_functions (h : file.IsStamped) :
    file.Serves .function (fun line => seesFunction (trim line)) (functions file) := by
  refine SourceFile.serves_eachTrimmed fun index line => ?_
  unfold seesFunction
  cases hskipped : line.isEmpty || isCommentLine line with
  | true => exact ⟨none, rfl, fun hsees => by cases hsees⟩
  | false =>
    cases hname : functionName? line with
    | none => exact ⟨none, rfl, fun hsees => by cases hsees⟩
    | some name =>
      obtain ⟨e, he, hkind, hstart⟩ := SourceFile.exists_blockElement h blockLength .function name
        index decisionCount
      exact ⟨some e, by simp [he], fun _ => ⟨e, rfl, hkind, hstart⟩⟩

lemma serves_classes (h : file.IsStamped) :
    file.Serves .classDef (fun line => seesClass (trim line)) (classes file) := by
  refine SourceFile.serves_eachTrimmed fun index line => ?_
  unfold seesClass
  cases hm : classPatterns.findSome? (·.search? line) with
  | none => exact ⟨none, rfl, fun hsees => by cases hsees⟩
  | some m =>
    obtain ⟨e, he, hkind, hstart⟩ := SourceFile.exists_blockElement h blockLength .classDef
      (m.group 1) index classComplexity
    exact ⟨some e, by simp [he], fun _ => ⟨e, rfl, hkind, hstart⟩⟩

/-- Every function and class of a file has its element. -/
theorem begins_elements {options : Options} {language : String} {path : Option String}
    {content : List Char} (hstamp : options.stamp ≠ none) (hpath : path ≠ none) {index : Nat}
    {line : List Char} (hline : (lines content)[index]? = some line) :
    (seesClass (trim line) = true →
      SourceFile.Begins (elements options language path content).elements .classDef index) ∧
    (seesFunction (trim line) = true →
      SourceFile.Begins (elements options language path content).elements .function index) := by
  let file : SourceFile := ⟨options, language, path, lines content⟩
  have hfile : file.IsStamped := ⟨hstamp, hpath⟩
  obtain ⟨found, hfound⟩ := exists_imports hfile
  obtain ⟨functionList, hfunctions, hfunction⟩ := serves_functions hfile
  obtain ⟨classList, hclasses, hclass⟩ := serves_classes hfile
  have hgroups : (elements options language path content).elements = (collectGroups
      [.ok found, .ok functionList, .ok classList, bindings file, comments file]).1 := by
    rw [← hfound, ← hfunctions, ← hclasses]
    rfl
  rw [hgroups]
  constructor
  · intro hsees
    exact (hclass index line hline hsees).collected [.ok found, .ok functionList] _ (by simp)
  · intro hsees
    exact (hfunction index line hline hsees).collected [.ok found] _ (by simp)

end Generic

/-! ### Both extractors -/

namespace Extractor

/-- Whether an extractor sees a function or a class begin on a line. -/
def sees (x : Extractor) (kind : ElementKind) (line : List Char) : Bool :=
  match x.kind, kind with
  | .javascript, .classDef => JavaScript.seesClass line
  | .javascript, .function => JavaScript.seesFunction line
  | .generic, .classDef => Generic.seesClass (trim line)
  | .generic, .function => Generic.seesFunction (trim line)
  | _, _ => false

/-- Whether a line ends the extraction before all functions and classes are found. -/
def givesUp (x : Extractor) (line : List Char) : Bool :=
  x.kind == .javascript && JavaScript.seesBase line

/-- The extractors that go through a file line by line give a result for every text and path. All its
elements stand on lines of the text, also if a group fails. And where a function or a class is seen, an
element of that kind begins, unless a line made the extractor give up. -/
theorem elements_stand_on_lines (x : Extractor) (hx : x.kind = .javascript ∨ x.kind = .generic)
    (stamp : String) (linking : Bool) (path text : String) :
    ∃ found x', x.extract ⟨some stamp, linking⟩ (some path) (some text) = .ok (found, x') ∧
      (∀ e ∈ found.elements, e.StandsOn (lines text.toList)) ∧
      ((∀ line ∈ lines text.toList, x.givesUp line = false) →
        ∀ index line kind, (lines text.toList)[index]? = some line → x.sees kind line = true →
          SourceFile.Begins found.elements kind index) := by
  have hstamp : (Options.mk (some stamp) linking).stamp ≠ none := Option.some_ne_none stamp
  have hpath : some path ≠ none := Option.some_ne_none path
  rcases x with ⟨kind, language⟩
  rcases hx with rfl | rfl
  · refine ⟨_, _, rfl, fun e he => (JavaScript.elements_makes he).standsOn, ?_⟩
    intro hbase index line kind hline hsees
    have hbegins := JavaScript.begins_elements hstamp hpath hbase hline
    cases kind with
    | classDef => exact hbegins.1 hsees
    | function => exact hbegins.2 hsees
    | _ => cases hsees
  · refine ⟨_, _, rfl, fun e he => (Generic.elements_makes he).standsOn, ?_⟩
    intro _ index line kind hline hsees
    cases kind with
    | classDef => exact (Generic.begins_elements hstamp hpath hline).1 hsees
    | function => exact (Generic.begins_elements hstamp hpath hline).2 hsees
    | _ => cases hsees

/-- A class on a single line, and a function that is never closed. -/
def unclosed : String :=
  "import b from 'b'\nclass Box \x7b \x7d\nfunction run() \x7b\n  return 1"

theorem unclosed_stands_on_lines :
    ∃ found x', (⟨.javascript, "javascript"⟩ : Extractor).extract ⟨some "t", true⟩ (some "a.js")
        (some unclosed) = .ok (found, x') ∧
      (∀ e ∈ found.elements, e.StandsOn (lines unclosed.toList)) ∧
      SourceFile.Begins found.elements .classDef 1 ∧
      SourceFile.Begins found.elements .function 2 := by
  obtain ⟨found, x', hfound, hstands, hbegins⟩ :=
    elements_stand_on_lines ⟨.javascript, "javascript"⟩ (Or.inl rfl) "t" true "a.js" unclosed
  have hseen := hbegins (by decide +kernel)
  refine ⟨found, x', hfound, hstands, ?_, ?_⟩
  · exact hseen 1 "class Box \x7b \x7d".toList .classDef (by decide +kernel) (by decide +kernel)
  · exact hseen 2 "function run() \x7b".toList .function (by decide +kernel) (by decide +kernel)

end Extractor

end Extract

end CodeAtlas
