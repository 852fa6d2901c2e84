import CodeAtlas.Proofs.Extraction
import CodeAtlas.Proofs.Lines
import CodeAtlas.Proofs.Writes

/-!
# Identifiers of what stands in a script

The identifier of an element is written with underscores between its parts, and paths, names and numbers
may hold underscores themselves. It can still be taken apart. The kind is what stands before the first
underscore. The path ends with the last dot and the two letters behind it, since neither names nor
numbers hold a dot. Behind it the line stands at the last underscore, or before it if a hash follows.

So elements of scripts with different paths never share an identifier, and elements of one script do so
only if they are of one kind and start on one line.
-/

namespace CodeAtlas

namespace Text

/-! ### Cutting at a separator -/

/-- The last separator cuts a text in one way, as the first one does. -/
lemma eq_of_last_cut {c : Char} {a a' b b' : List Char} (hb : c ∉ b) (hb' : c ∉ b')
    (h : a ++ c :: b = a' ++ c :: b') : a = a' ∧ b = b' := by
  have hreverse : b.reverse ++ c :: a.reverse = b'.reverse ++ c :: a'.reverse := by
    simpa using congrArg List.reverse h
  obtain ⟨hback, hfront⟩ := eq_of_first_cut (by simpa using hb) (by simpa using hb') hreverse
  exact ⟨List.reverse_injective hfront, List.reverse_injective hback⟩

/-! ### Numbers and names -/

lemma toDigits_injective : Function.Injective (Nat.toDigits 10) := by
  intro m n h
  calc
    m = Nat.ofDigitChars 10 (Nat.toDigits 10 m) 0 := Nat.ofDigitChars_ten_toDigits.symm
    _ = Nat.ofDigitChars 10 (Nat.toDigits 10 n) 0 := by rw [h]
    _ = n := Nat.ofDigitChars_ten_toDigits

/-- A number is written with digits only. -/
lemma not_mem_toDigits {c : Char} (hc : c.isDigit = false) (n : Nat) : c ∉ Nat.toDigits 10 n := by
  intro h
  rw [Nat.isDigit_of_mem_toDigits (by decide) (by decide) h] at hc
  cases hc

/-- A name is written without dots. -/
lemma dot_not_mem_of_isName {cs : List Char} (h : isName cs = true) : '.' ∉ cs := by
  match cs with
  | [] => exact List.not_mem_nil
  | c :: cs =>
    rw [isName, Bool.and_eq_true, List.all_eq_true] at h
    intro hdot
    rcases List.mem_cons.mp hdot with rfl | hdot
    · exact absurd h.1 (by decide)
    · exact absurd (h.2 _ hdot) (by decide)

end Text

namespace Index

open CodeAtlas.Text CodeAtlas.Extract

/-! ### Stored paths -/

lemma flatten_consPiece (c : Char) (ps : List (List Char)) :
    (consPiece c ps).flatten = c :: ps.flatten := by
  cases ps <;> rfl

lemma join_nil (ps : List (List Char)) : join [] ps = ps.flatten := by
  unfold join
  induction ps with
  | nil => rfl
  | cons p ps ih =>
    match ps with
    | [] => simp
    | q :: ps => simp [List.intercalate_cons_cons, ih]

lemma normalizePath_eq_map (cs : List Char) :
    normalizePath cs =
      (splitOn ['.', '/'] cs).flatten.map fun c => if c = '/' then '\\' else c := by
  rw [normalizePath, replace, join_nil]

lemma normalizePath_dot_slash (cs : List Char) :
    normalizePath ('.' :: '/' :: cs) = normalizePath cs := by
  simp [normalizePath_eq_map, splitOn, splitFrom]

lemma normalizePath_cons {c : Char} {cs : List Char} (h : ¬ ['.', '/'] <+: c :: cs) :
    normalizePath (c :: cs) = (if c = '/' then '\\' else c) :: normalizePath cs := by
  rw [← List.isPrefixOf_iff_prefix] at h
  rw [normalizePath_eq_map, normalizePath_eq_map, splitOn, splitFrom, if_neg h, flatten_consPiece]
  rfl

/-- The ending of a script's path is kept. -/
lemma normalizePath_script (cs : List Char) :
    ∃ front, normalizePath (cs ++ ".py".toList) = front ++ ".py".toList := by
  match cs with
  | [] => exact ⟨[], by decide⟩
  | c :: cs =>
    rw [List.cons_append]
    by_cases h : ['.', '/'] <+: c :: (cs ++ ".py".toList)
    · match c, cs, h with
      | c, d :: rest, h =>
        obtain ⟨front, hfront⟩ := normalizePath_script rest
        obtain ⟨rfl, rfl⟩ : '.' = c ∧ '/' = d := by simpa using h
        exact ⟨front, by rw [← hfront]; exact normalizePath_dot_slash _⟩
      | c, [], h => simp at h
    · obtain ⟨front, hfront⟩ := normalizePath_script cs
      refine ⟨(if c = '/' then '\\' else c) :: front, ?_⟩
      rw [normalizePath_cons h, hfront]
      rfl
termination_by cs.length

/-! ### The parts of an identifier -/

lemma toList_numeral (n : Nat) : (numeral n).toList = Nat.toDigits 10 n :=
  String.toList_ofList

lemma toList_classId (path name : String) (line : Nat) :
    (classId path name line).toList = ElementKind.classDef.label.toList ++
      '_' :: (path.toList ++ ('_' :: name.toList ++ '_' :: Nat.toDigits 10 line)) := by
  unfold classId
  simp only [toString]
  simp only [String.toList_append, toList_numeral, List.append_assoc]
  rfl

lemma toList_functionId (path name : String) (line : Nat) :
    (functionId path name line).toList = ElementKind.function.label.toList ++
      '_' :: (path.toList ++ ('_' :: name.toList ++ '_' :: Nat.toDigits 10 line)) := by
  unfold functionId
  simp only [toString]
  simp only [String.toList_append, toList_numeral, List.append_assoc]
  rfl

lemma toList_methodId (path owner name : String) (line : Nat) :
    (methodId path owner name line).toList = ElementKind.method.label.toList ++
      '_' :: (path.toList ++
        ('_' :: owner.toList ++ '_' :: name.toList ++ '_' :: Nat.toDigits 10 line)) := by
  unfold methodId
  simp only [toString]
  simp only [String.toList_append, toList_numeral, List.append_assoc]
  rfl

lemma toList_importId (path : String) (line hash : Nat) :
    (importId path line hash).toList = ElementKind.importing.label.toList ++
      '_' :: (path.toList ++ ('_' :: Nat.toDigits 10 line ++ '_' :: Nat.toDigits 10 hash)) := by
  unfold importId
  simp only [toString]
  simp only [String.toList_append, toList_numeral, List.append_assoc]
  rfl

/-- What stands behind the path in the identifier of an element, by its kind and the line on which it
starts: nothing for a module, names and the line for a definition, the line and a hash for an import. -/
inductive Tail : ElementKind → Int → List Char → Prop
  | module : Tail .module 1 []
  | definition {kind : ElementKind} (hkind : kind ∈ [.classDef, .function, .method])
      {names : List Char} (hnames : '.' ∉ names) (line : Nat) :
      Tail kind line (names ++ '_' :: Nat.toDigits 10 line)
  | importing (line hash : Nat) :
      Tail .importing line ('_' :: Nat.toDigits 10 line ++ '_' :: Nat.toDigits 10 hash)

namespace Tail

variable {kind : ElementKind} {line line' : Int} {tail : List Char}

/-- The labels of the kinds that have such identifiers hold no underscore. -/
lemma label (h : Tail kind line tail) : '_' ∉ kind.label.toList := by
  have hlabels : ∀ k ∈ [ElementKind.module, .classDef, .function, .method, .importing],
      '_' ∉ k.label.toList := by
    decide +kernel
  apply hlabels
  cases h with
  | module => simp
  | definition hkind => revert hkind; simp; tauto
  | importing => simp

lemma dot_not_mem (h : Tail kind line tail) : '.' ∉ tail := by
  have hdigits : ∀ n, '.' ∉ Nat.toDigits 10 n := not_mem_toDigits (by decide)
  cases h with
  | module => exact List.not_mem_nil
  | definition _ hnames line => simp [hnames, hdigits]
  | importing line hash => simp [hdigits]

/-- The line can be read off. -/
lemma line_unique (h : Tail kind line tail) (h' : Tail kind line' tail) : line = line' := by
  have hdigits : ∀ n, '_' ∉ Nat.toDigits 10 n := not_mem_toDigits (by decide)
  cases h with
  | module =>
    generalize htail : ([] : List Char) = tail at h'
    cases h' with
    | module => rfl
    | definition hk => simp at hk
  | definition hk hnames line =>
    generalize htail : _ ++ '_' :: Nat.toDigits 10 line = tail at h'
    cases h' with
    | module => simp at hk
    | definition _ _ line' =>
      obtain ⟨_, hline⟩ := eq_of_last_cut (hdigits line) (hdigits line') htail
      rw [toDigits_injective hline]
    | importing => simp at hk
  | importing line hash =>
    generalize htail : '_' :: Nat.toDigits 10 line ++ '_' :: Nat.toDigits 10 hash = tail at h'
    cases h' with
    | definition hk => simp at hk
    | importing line' hash' =>
      obtain ⟨hline, _⟩ := eq_of_last_cut (hdigits hash) (hdigits hash') htail
      rw [toDigits_injective (List.cons.inj hline).2]

end Tail

/-- An element with an identifier that is made of its kind, a path and its place. -/
structure Labelled (stored : List Char) (x : Element) (tail : List Char) : Prop where
  isTail : Tail x.kind x.location.lineStart tail
  id_eq : x.id.toList = x.kind.label.toList ++ '_' :: (stored ++ tail)

lemma definition_labelled (s : Source) {kind : ElementKind} {id name : String} {span : Script.Span}
    {names : List Char} (hkind : kind ∈ [.classDef, .function, .method]) (hnames : '.' ∉ names)
    (hid : id.toList = kind.label.toList ++
      '_' :: (s.stored.toList ++ (names ++ '_' :: Nat.toDigits 10 span.start.line))) :
    ∃ tail, Labelled s.stored.toList (s.definition kind id name span) tail :=
  ⟨_, .definition hkind hnames _, hid⟩

lemma importElement_labelled (s : Source) (statement : Script.Statement) (span : Script.Span) :
    ∃ tail, Labelled s.stored.toList (s.importElement statement span) tail := by
  refine ⟨_, .importing span.start.line (shortHash (importSource statement ++ "_" ++
    ",".intercalate (sortTexts (importedNames statement)))), ?_⟩
  exact toList_importId _ _ _

lemma methods_labelled {s : Source} {owner : Identifier} {body : List Script.Node} {x : Element}
    (hx : x ∈ s.methods owner.text body) : ∃ tail, Labelled s.stored.toList x tail := by
  obtain ⟨n, _, hn⟩ := List.mem_filterMap.mp hx
  split at hn
  · rename_i name _ span _
    cases hn
    have hdot : '.' ∉ '_' :: owner.text.toList ++ '_' :: name.text.toList := by
      simp [dot_not_mem_of_isName owner.isName_text, dot_not_mem_of_isName name.isName_text]
    refine definition_labelled s (by simp) hdot ?_
    exact toList_methodId _ _ _ _
  · cases hn

lemma topLevel_labelled {s : Source} {n : Script.Node} {x : Element} (hx : x ∈ s.topLevel n) :
    ∃ tail, Labelled s.stored.toList x tail := by
  have hname : ∀ name : Identifier, '.' ∉ '_' :: name.text.toList := fun name => by
    simp [dot_not_mem_of_isName name.isName_text]
  unfold Source.topLevel at hx
  split at hx
  · rename_i name span _
    rcases List.mem_cons.mp hx with rfl | hx
    · refine definition_labelled s (by simp) (hname name) ?_
      exact toList_classId _ _ _
    · exact methods_labelled hx
  · rename_i name _ span _
    rcases List.mem_singleton.mp hx with rfl
    refine definition_labelled s (by simp) (hname name) ?_
    exact toList_functionId _ _ _
  · rcases List.mem_singleton.mp hx with rfl
    exact importElement_labelled s _ _
  · rcases List.mem_singleton.mp hx with rfl
    exact importElement_labelled s _ _
  · cases hx

theorem indexScript_labelled {path text : String} {x : Element}
    (hx : x ∈ (indexScript (some path) (some text)).elements) :
    ∃ tail, Labelled (normalizePath path.toList) x tail := by
  obtain ⟨tree, hx⟩ := mem_indexScript hx
  rcases List.mem_cons.mp hx with rfl | hx
  · refine ⟨[], .module, ?_⟩
    simp [Source.moduleElement, moduleId, ElementKind.label]
  · obtain ⟨n, _, hn⟩ := List.mem_flatMap.mp hx
    have hlabelled := topLevel_labelled hn
    rwa [String.toList_ofList] at hlabelled

/-! ### Scripts -/

/-- A text in a file that is named like a script. -/
structure ScriptText where
  path : String
  text : String
  isScript : ".py".toList <:+ path.toList

namespace ScriptText

/-- The path as the index writes it. -/
def stored (s : ScriptText) : List Char :=
  normalizePath s.path.toList

/-- What the index finds in the script. -/
def elements (s : ScriptText) : List Element :=
  (indexScript (some s.path) (some s.text)).elements

lemma stored_eq (s : ScriptText) : ∃ front, s.stored = front ++ '.' :: "py".toList := by
  obtain ⟨cs, hcs⟩ := s.isScript
  rw [stored, ← hcs]
  exact normalizePath_script cs

lemma stored_filePath {s : ScriptText} {x : Element} (hx : x ∈ s.elements) :
    normalizePath x.filePath.toList = s.stored := by
  rw [indexScript_filePath hx]
  rfl

end ScriptText

/-- Elements of one kind that stand under one path and start on one line. -/
structure SamePlace (x y : Element) : Prop where
  kind : x.kind = y.kind
  path : normalizePath x.filePath.toList = normalizePath y.filePath.toList
  line : x.location.lineStart = y.location.lineStart

/-- The first underscore tells the kind, the last dot tells the path, and what is left tells the line. -/
lemma samePlace_of_id_eq {s s' : ScriptText} {x y : Element} (hx : x ∈ s.elements)
    (hy : y ∈ s'.elements) (h : x.id = y.id) : SamePlace x y := by
  obtain ⟨tail, hlabelled⟩ := indexScript_labelled hx
  obtain ⟨tail', hlabelled'⟩ := indexScript_labelled hy
  have hids : x.kind.label.toList ++ '_' :: (s.stored ++ tail) =
      y.kind.label.toList ++ '_' :: (s'.stored ++ tail') := by
    rw [ScriptText.stored, ScriptText.stored, ← hlabelled.id_eq, ← hlabelled'.id_eq, h]
  obtain ⟨hlabel, hrest⟩ := eq_of_first_cut hlabelled.isTail.label hlabelled'.isTail.label hids
  have hkind : x.kind = y.kind := by
    have hread := ElementKind.ofLabel?_label y.kind
    rw [← String.toList_injective hlabel, ElementKind.ofLabel?_label] at hread
    exact Option.some.inj hread
  obtain ⟨front, hfront⟩ := s.stored_eq
  obtain ⟨front', hfront'⟩ := s'.stored_eq
  have hcut : front ++ '.' :: ("py".toList ++ tail) = front' ++ '.' :: ("py".toList ++ tail') := by
    simpa [hfront, hfront'] using hrest
  have hdot : ∀ {kind line tail}, Tail kind line tail → '.' ∉ "py".toList ++ tail := fun htail => by
    simp [htail.dot_not_mem]
  obtain ⟨rfl, hback⟩ := eq_of_last_cut (hdot hlabelled.isTail) (hdot hlabelled'.isTail) hcut
  have htail : tail = tail' := List.append_cancel_left hback
  refine ⟨hkind, ?_, ?_⟩
  · rw [ScriptText.stored_filePath hx, ScriptText.stored_filePath hy, hfront, hfront']
  · rw [htail] at hlabelled
    exact (hkind ▸ hlabelled.isTail).line_unique hlabelled'.isTail

/-- Elements that start on different lines if they are of one kind. -/
def StartApart (x y : Element) : Prop :=
  x.kind = y.kind → x.location.lineStart ≠ y.location.lineStart

instance : DecidableRel StartApart := fun x y =>
  inferInstanceAs (Decidable (x.kind = y.kind → x.location.lineStart ≠ y.location.lineStart))

/-- Within one script the lines tell elements of one kind apart, between scripts the paths do. -/
lemma nodup_ids {scripts : List ScriptText} (hpaths : (scripts.map (·.stored)).Nodup)
    (hlines : ∀ s ∈ scripts, s.elements.Pairwise StartApart) :
    ((scripts.flatMap (·.elements)).map (·.id)).Nodup := by
  rw [List.Nodup, List.pairwise_map, List.pairwise_flatMap]
  constructor
  · intro s hs
    refine (hlines s hs).imp_of_mem fun hx hy hapart hid => ?_
    have hsame := samePlace_of_id_eq hx hy hid
    exact hapart hsame.kind hsame.line
  · refine (List.pairwise_map.mp hpaths).imp fun hdistinct x hx y hy hid => ?_
    apply hdistinct
    rw [← ScriptText.stored_filePath hx, ← ScriptText.stored_filePath hy]
    exact (samePlace_of_id_eq hx hy hid).path

/-- An identifier of an element of a script tells the kind of the element, its path and the line on
which it starts. So if scripts have different paths and in none of them two elements of one kind start
on one line, then no identifier comes twice, and no element is lost when they are stored, whichever way
they are divided into calls. -/
theorem script_ids_identify :
    (∀ s s' : ScriptText, ∀ x ∈ s.elements, ∀ y ∈ s'.elements, x.id = y.id → SamePlace x y) ∧
    ∀ scripts : List ScriptText, (scripts.map (·.stored)).Nodup →
      (∀ s ∈ scripts, s.elements.Pairwise StartApart) →
      ((scripts.flatMap (·.elements)).map (·.id)).Nodup ∧
      ∀ (c : Catalog) (rows : List Row) (deps : List DependencyRow) (calls : List (List Element)),
        c.Holds rows deps → calls.flatten = scripts.flatMap (·.elements) →
        (∀ x ∈ calls.flatten, (Row.ofElement x).storable = true) →
        (c.storeCalls calls).1 = .ok () ∧ ∃ old new deps', old.Sublist rows ∧
          List.Forall₂ Row.Carries new (scripts.flatMap (·.elements)) ∧
          (c.storeCalls calls).2.Holds (old ++ new) deps' := by
  refine ⟨fun s s' x hx y hy hid => samePlace_of_id_eq hx hy hid, ?_⟩
  intro scripts hpaths hlines
  have hids := nodup_ids hpaths hlines
  refine ⟨hids, fun c rows deps calls hholds hcalls hfits => ?_⟩
  rw [← hcalls] at hids ⊢
  exact hholds.storeCalls_of_nodup hids hfits

/-- Scripts in which owners, methods and paths are cut differently at the underscores. -/
def lookalikes : List ScriptText :=
  [⟨"a.py", "class b_c:\n def d(self): pass\nclass b:\n def c_d(self): pass\n", by decide⟩,
    ⟨"./a.py_b/c.py", "def d_2(): pass\n", by decide⟩]

theorem lookalikes_stored :
    ((lookalikes.flatMap (·.elements)).map (·.id)).Nodup ∧
    (Catalog.fresh.storeCalls (lookalikes.map (·.elements))).1 = .ok () ∧
    ∃ rows deps, List.Forall₂ Row.Carries rows (lookalikes.flatMap (·.elements)) ∧
      (Catalog.fresh.storeCalls (lookalikes.map (·.elements))).2.Holds rows deps ∧
      rows.map (·.id) = ["module_a.py", "class_a.py_b_c_1", "method_a.py_b_c_d_2", "class_a.py_b_3",
        "method_a.py_b_c_d_4", "module_a.py_b\\c.py", "function_a.py_b\\c.py_d_2_1"] := by
  have hpaths : (lookalikes.map (·.stored)).Nodup := by decide +kernel
  have hlines : ∀ s ∈ lookalikes, s.elements.Pairwise StartApart := by decide +kernel
  have hfits : ∀ x ∈ (lookalikes.map (·.elements)).flatten, (Row.ofElement x).storable = true := by
    decide +kernel
  obtain ⟨hids, hstore⟩ := script_ids_identify.2 lookalikes hpaths hlines
  obtain ⟨hok, old, rows, deps, hold, hcarries, hholds⟩ :=
    hstore Catalog.fresh [] [] _ ⟨{}, rfl, rfl, rfl⟩ List.flatMap_def.symm hfits
  rw [List.sublist_nil.mp hold, List.nil_append] at hholds
  have hsame : rows.map (·.id) = (lookalikes.flatMap (·.elements)).map (·.id) := by
    rw [← List.forall₂_eq_eq_eq, List.forall₂_map_left_iff, List.forall₂_map_right_iff]
    exact hcarries.imp fun _ _ hcarry => hcarry.id
  refine ⟨hids, hok, rows, deps, hcarries, hholds, ?_⟩
  rw [hsame]
  decide +kernel

end Index

end CodeAtlas
