import CodeAtlas.Proofs.Descriptions
import CodeAtlas.Proofs.Lookup
import CodeAtlas.Proofs.ScriptIds

/-!
# Modules and the files they are in

A module's name is spelled with dots and the path of its file with separators, and an ending. Each is made
from the other by replacing texts wherever they occur. In the path of a module the only dot is that of
the ending, so this replaces what it should, whatever the parts of the name are.
-/

namespace CodeAtlas

namespace Text

lemma join_consPiece (sep : List Char) (c : Char) (ps : List (List Char)) :
    join sep (consPiece c ps) = c :: join sep ps := by
  cases ps with
  | nil => rfl
  | cons p ps => rw [consPiece, Index.join_cons, Index.join_cons, List.cons_append]

/-- Nothing is replaced in the front of a text if no occurrence can begin there. -/
lemma replace_append_of_not_mem {c : Char} {old new front : List Char} (h : c ∉ front)
    (rest : List Char) :
    replace (c :: old) new (front ++ rest) = front ++ replace (c :: old) new rest := by
  induction front with
  | nil => rfl
  | cons d front ih =>
    rw [List.mem_cons, not_or] at h
    obtain ⟨hd, hfront⟩ := h
    have hstart : ¬ (c :: old).isPrefixOf (d :: (front ++ rest)) = true := by
      simp [List.isPrefixOf, hd]
    rw [List.cons_append, replace, splitOn, splitFrom, if_neg hstart, join_consPiece, List.cons_append,
      ← ih hfront]
    rfl

end Text

namespace Index

open CodeAtlas.Text

/-! ### Names in parts -/

/-- A part of a module's name: it is not empty, and has no dots and no separators in it. -/
structure Component where
  text : List Char
  ne_nil : text ≠ []
  plain : ∀ c ∈ text, c ≠ '.' ∧ c ≠ '/' ∧ c ≠ '\\'

lemma Component.dot_not_mem (n : Component) : '.' ∉ n.text :=
  fun h => (n.plain _ h).1 rfl

/-- The parts of a name with a character between them. -/
def spelled (sep : Char) (names : List Component) : List Char :=
  join [sep] (names.map Component.text)

/-- The name of a module. -/
def dotted (names : List Component) : List Char :=
  spelled '.' names

/-- The path of the file that a module is in. -/
def filePath (names : List Component) : List Char :=
  spelled '/' names ++ ".py".toList

variable {sep : Char} {names : List Component}

lemma spelled_cons (sep : Char) (n : Component) (names : List Component) :
    spelled sep (n :: names) = n.text ++ names.flatMap fun m => sep :: m.text := by
  rw [spelled, List.map_cons, join_cons, List.flatMap_map]
  rfl

/-- Changing separators only changes the one that a name is spelled with. -/
lemma map_spelled {f : Char → Char} (hf : ∀ c, c ≠ '.' → c ≠ '/' → c ≠ '\\' → f c = c) :
    (spelled sep names).map f = spelled (f sep) names := by
  have htext : ∀ n : Component, n.text.map f = n.text := by
    intro n
    have hkeep : ∀ c ∈ n.text, f c = id c := by
      intro c hc
      obtain ⟨hdot, hslash, hbackslash⟩ := n.plain c hc
      exact hf c hdot hslash hbackslash
    rw [List.map_congr_left hkeep, List.map_id]
  cases names with
  | nil => rfl
  | cons n names =>
    simp only [spelled_cons, List.map_append, List.map_flatMap, List.map_cons, htext]

lemma dot_not_mem_spelled (hsep : sep ≠ '.') : '.' ∉ spelled sep names := by
  cases names with
  | nil => exact List.not_mem_nil
  | cons n names =>
    rw [spelled_cons, List.mem_append, List.mem_flatMap]
    rintro (hdot | ⟨m, _, hdot⟩)
    · exact n.dot_not_mem hdot
    · rcases List.mem_cons.mp hdot with hdot | hdot
      · exact hsep hdot.symm
      · exact m.dot_not_mem hdot

/-- A name does not begin with a dot. -/
lemma dropWhile_dotted : (dotted names).dropWhile (· == '.') = dotted names := by
  cases names with
  | nil => rfl
  | cons n names =>
    obtain ⟨c, cs, hcs⟩ := List.exists_cons_of_ne_nil n.ne_nil
    have hc : c ≠ '.' := (n.plain c (hcs ▸ List.mem_cons_self)).1
    rw [dotted, spelled_cons, hcs, List.cons_append, List.dropWhile_cons_of_neg (by simpa using hc)]

/-! ### From one to the other -/

lemma normalizePath_filePath : normalizePath (filePath names) = spelled '\\' names ++ ".py".toList := by
  have hkeep : replace ['.', '/'] [] (filePath names) = filePath names := by
    -- There is one dot, and no slash behind it.
    have hending : replace ['.', '/'] [] ".py".toList = ".py".toList := by decide
    rw [filePath, replace_append_of_not_mem (dot_not_mem_spelled (by decide)), hending]
  rw [normalizePath, hkeep, filePath, List.map_append, map_spelled]
  · rfl
  · intro c _ hslash _
    exact if_neg hslash

/-- Whichever separator a path has, it is the path of the same module. -/
lemma moduleOfPath_spelled (hsep : sep = '\\' ∨ sep = '/') :
    moduleOfPath (spelled sep names ++ ".py".toList) = dotted names := by
  have hdot : sep ≠ '.' := by
    rcases hsep with rfl | rfl <;> decide
  have hending : replace ".py".toList [] (spelled sep names ++ ".py".toList) = spelled sep names := by
    -- A part may hold the letters of the ending, but not the dot that they would have to follow.
    have hpy : ".py".toList = ['.', 'p', 'y'] := rfl
    have hnothing : replace ['.', 'p', 'y'] [] ['.', 'p', 'y'] = [] := by decide
    rw [hpy, replace_append_of_not_mem (dot_not_mem_spelled hdot), hnothing, List.append_nil]
  rw [moduleOfPath, hending, map_spelled, if_pos hsep]
  · exact dropWhile_dotted
  · intro c _ hslash hbackslash
    exact if_neg (by simp [hslash, hbackslash])

lemma pathOfModule_dotted : pathOfModule (dotted names) = filePath names := by
  rw [pathOfModule, dotted, map_spelled, if_pos rfl, filePath]
  intro c hdot _ _
  exact if_neg hdot

lemma normalizePath_normalizePath (cs : List Char) :
    normalizePath (normalizePath cs) = normalizePath cs :=
  (normalizePath_eq_self_iff _).mpr (slash_not_mem_normalizePath cs)

/-- The name of a module and the path of its file are made from each other, also if the path was brought
into its stored form before. That form stays as it is, and does not depend on a leading `./`. -/
theorem modules_and_files_convert :
    (∀ names : List Component,
      moduleOfPath (filePath names) = dotted names ∧
      moduleOfPath (normalizePath (filePath names)) = dotted names ∧
      pathOfModule (dotted names) = filePath names ∧
      pathOfModule (moduleOfPath (filePath names)) = filePath names ∧
      moduleOfPath (pathOfModule (dotted names)) = dotted names) ∧
    (∀ cs, normalizePath (normalizePath cs) = normalizePath cs) ∧
    ∀ cs, normalizePath ("./".toList ++ cs) = normalizePath cs := by
  refine ⟨fun names => ?_, normalizePath_normalizePath, normalizePath_dot_slash⟩
  have hmodule : moduleOfPath (filePath names) = dotted names := moduleOfPath_spelled (.inr rfl)
  have hfile : pathOfModule (dotted names) = filePath names := pathOfModule_dotted
  have hstored : moduleOfPath (normalizePath (filePath names)) = dotted names := by
    rw [normalizePath_filePath]
    exact moduleOfPath_spelled (.inl rfl)
  exact ⟨hmodule, hstored, hfile, by rw [hmodule, hfile], by rw [hfile, hmodule]⟩

/-- A module inside a package that is named like the ending of a file. -/
def happyModule : List Component :=
  [⟨['p', 'y'], by simp, by simp⟩, ⟨['h', 'a', 'p', 'p', 'y'], by simp, by simp⟩]

theorem happyModule_converts :
    moduleOfPath "py/happy.py".toList = "py.happy".toList ∧
    moduleOfPath (normalizePath "py/happy.py".toList) = "py.happy".toList ∧
    pathOfModule "py.happy".toList = "py/happy.py".toList ∧
    normalizePath ("./".toList ++ "py/happy.py".toList) = "py\\happy.py".toList := by
  have hdotted : dotted happyModule = "py.happy".toList := by decide
  have hfile : filePath happyModule = "py/happy.py".toList := by decide
  have hpath : normalizePath "py/happy.py".toList = "py\\happy.py".toList := by decide
  obtain ⟨hconverts, _, hleading⟩ := modules_and_files_convert
  obtain ⟨hmodule, hstored, hback, _⟩ := hconverts happyModule
  rw [hdotted, hfile] at hmodule hstored hback
  exact ⟨hmodule, hstored, hback, (hleading _).trans hpath⟩

-- A dot inside a component is lost.
example : pathOfModule (moduleOfPath "a.b/c.py".toList) = "a/b/c.py".toList := by decide

end Index

end CodeAtlas
