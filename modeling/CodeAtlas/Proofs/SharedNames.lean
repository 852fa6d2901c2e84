import CodeAtlas.Proofs.Discovery
import CodeAtlas.Proofs.Patterns
import CodeAtlas.Proofs.ScriptIds
import CodeAtlas.Proofs.SourceLines

/-!
# Names that two groups of elements share

The identifier of an element is a digest of its path, its name and its first line. The groups of elements
of a JavaScript file look at the same lines, each for itself. Names of imports and exports are several
words, and differ in the first of them; the others are single words. No function is looked for where a
class is mentioned. So two elements share an identifier only if a variable is called like the function or
the class on its line, as in every arrow function with a block that is bound to a name.
-/

namespace CodeAtlas

/-! ### What groups capture -/

namespace Text.Pattern

variable {p : Pattern} {q : Char → Bool}

/-- Every group of the pattern is a run of characters of a class. -/
def GroupsIn (q : Char → Bool) : Pattern → Prop
  | seq a b => a.GroupsIn q ∧ b.GroupsIn q
  | alt a b => a.GroupsIn q ∧ b.GroupsIn q
  | opt a => a.GroupsIn q
  | group _ a => a = many1 q
  | _ => True

lemma groupsIn_all_iff {ps : List Pattern} : (all ps).GroupsIn q ↔ ∀ p ∈ ps, p.GroupsIn q := by
  induction ps with
  | nil => simp [all, GroupsIn]
  | cons p ps ih =>
    cases ps with
    | nil => simp [all]
    | cons p' ps =>
      rw [List.forall_mem_cons, ← ih]
      rfl

lemma groupsIn_lit (s : String) : (lit s).GroupsIn q := by
  rw [lit, groupsIn_all_iff]
  intro p hp
  obtain ⟨c, _, rfl⟩ := List.mem_map.mp hp
  trivial

/-- What a group of such a pattern stands for has characters of that class only. -/
theorem GroupsIn.of_reads {front text rest : List Char} {gs : Groups} (h : p.GroupsIn q)
    (hreads : p.Reads front text rest gs) : ∀ g ∈ gs, ∀ c ∈ g.text, q c = true := by
  induction p generalizing front text rest gs with
  | seq a b iha ihb =>
    obtain ⟨x, y, ga, gb, rfl, rfl, hx, hy⟩ := hreads
    intro g hg
    rcases List.mem_append.mp hg with hg | hg
    · exact ihb h.2 hy g hg
    · exact iha h.1 hx g hg
  | alt a b iha ihb =>
    rcases hreads with hreads | hreads
    · exact iha h.1 hreads
    · exact ihb h.2 hreads
  | opt a ih =>
    rcases hreads with hreads | ⟨_, rfl⟩
    · exact ih h hreads
    · exact List.forall_mem_nil _
  | group n a _ =>
    obtain ⟨ga, rfl, hreads⟩ := hreads
    obtain rfl : a = many1 q := h
    obtain ⟨⟨hrun, _⟩, rfl⟩ := hreads
    intro g hg
    obtain rfl := List.mem_singleton.mp hg
    rwa [GroupSpan.text, List.take_left' rfl]
  | _ =>
    -- All other patterns have no groups.
    simp only [Reads] at hreads
    simp [hreads]

/-- A search finds a reading. -/
lemma reads_of_search? {cs : List Char} {m : Match} (h : p.search? cs = some m) :
    ∃ front text rest, cs = front ++ (text ++ rest) ∧ p.Reads front text rest m.groups := by
  obtain ⟨found, hfound, rfl⟩ := Option.map_eq_some_iff.mp h
  change p.searchFrom? ([] : List Char).getLast? ([] : List Char).length cs = some found at hfound
  obtain ⟨front, text, rest, gs, hcs, hreads, rfl⟩ := reads_of_searchFrom? hfound
  exact ⟨front, text, rest, hcs, hreads⟩

/-- A group that takes no part stands for nothing. -/
lemma GroupsIn.of_search? (h : p.GroupsIn q) {cs : List Char} {m : Match}
    (hm : p.search? cs = some m) (n : Nat) : ∀ c ∈ m.group n, q c = true := by
  obtain ⟨front, text, rest, _, hreads⟩ := reads_of_search? hm
  unfold Match.group Match.group?
  cases hfind : m.groups.find? (·.number == n) with
  | none => exact List.forall_mem_nil _
  | some g => exact h.of_reads hreads g (List.mem_of_find?_eq_some hfind)

end Text.Pattern

/-- No two of the texts have the same digest. -/
def Digest.IsInjectiveOn (texts : List String) : Prop :=
  ∀ s ∈ texts, ∀ t ∈ texts, Digest.ofText s = Digest.ofText t → s = t

instance (texts : List String) : Decidable (Digest.IsInjectiveOn texts) :=
  inferInstanceAs (Decidable (∀ s ∈ texts, ∀ t ∈ texts, Digest.ofText s = Digest.ofText t → s = t))

/-- Elements are all kept exactly if those with the same identifier make the same row. -/
lemma Tables.forall_mem_upsertElements_iff (rows : List Row) (es : List Element) :
    (∀ e ∈ es, Row.ofElement e ∈ upsertElements rows es) ↔
      ∀ x ∈ es, ∀ y ∈ es, x.id = y.id → Row.ofElement x = Row.ofElement y := by
  have hlast : ∀ x ∈ es, Row.ofElement x ∈ upsertElements rows es ↔
      ∃ z, lastWith Element.id x.id es = some z ∧ Row.ofElement x = Row.ofElement z := by
    intro x hx
    rw [mem_upsertElements_iff]
    exact or_iff_left fun h => h.2 (List.mem_map_of_mem hx)
  constructor
  · intro h x hx y hy hid
    obtain ⟨z, hz, hxz⟩ := (hlast x hx).mp (h x hx)
    obtain ⟨w, hw, hyw⟩ := (hlast y hy).mp (h y hy)
    rw [← hid, hz] at hw
    rw [hxz, hyw, Option.some.inj hw]
  · intro h x hx
    obtain ⟨z, hz⟩ := exists_lastWith_iff.mpr (List.mem_map_of_mem (f := Element.id) hx)
    exact (hlast x hx).mpr ⟨z, hz, h x hx z (lastWith_mem hz) (lastWith_key hz).symm⟩

namespace Extract

open CodeAtlas.Text

/-! ### Identifiers -/

/-- The text whose digest is the identifier of an element. -/
def idText (name : String) (path : Option String) (line : Int) : String :=
  let number := String.ofList (if line < 0 then '-' :: Nat.toDigits 10 line.natAbs
    else Nat.toDigits 10 line.natAbs)
  s!"{pathText path}:{name}:{number}"

lemma elementId_eq (name : String) (path : Option String) (line : Int) :
    elementId name path line = Digest.ofText (idText name path line) := rfl

lemma toList_idText (name path : String) (line : Nat) :
    (idText name (some path) line).toList =
      path.toList ++ ':' :: (name.toList ++ ':' :: Nat.toDigits 10 line) := by
  unfold idText
  have hline : ¬ (line : Int) < 0 := by omega
  simp only [hline, if_false, Int.natAbs_natCast]
  simp [toString, pathText]

/-- The last colon stands before the line. -/
lemma idText_injective {name name' path : String} {line line' : Nat}
    (h : idText name (some path) line = idText name' (some path) line') :
    name = name' ∧ line = line' := by
  have hlists := congrArg String.toList h
  rw [toList_idText, toList_idText] at hlists
  obtain ⟨_, hrest⟩ := List.cons.inj (List.append_cancel_left hlists)
  have hdigits : ∀ n, ':' ∉ Nat.toDigits 10 n := not_mem_toDigits (by decide)
  obtain ⟨hname, hline⟩ := eq_of_last_cut (hdigits line) (hdigits line') hrest
  exact ⟨String.toList_injective hname, toDigits_injective hline⟩

/-- The text whose digest is the identifier of a given element. -/
def idTextOf (e : Element) : String :=
  idText e.name (some e.filePath) e.location.lineStart

/-! ### Names by line -/

/-- A way to find names in lines, and the kind of the elements that get them. -/
structure Scan where
  kind : ElementKind
  name? : List Char → Option (List Char)

/-- The kind of an element, its name and the line on which it begins. -/
def keyOf (e : Element) : ElementKind × String × Int :=
  (e.kind, e.name, e.location.lineStart)

/-- What a scan finds on a line, counted from zero. -/
def Scan.key? (s : Scan) (line : List Char) (index : Nat) : Option (ElementKind × String × Int) :=
  (s.name? line).map fun n => (s.kind, String.ofList n, (index : Int) + 1)

/-- What a scan finds in the lines of a file. -/
def Scan.keys (s : Scan) (ls : List (List Char)) : List (ElementKind × String × Int) :=
  ls.zipIdx.filterMap fun l => s.key? l.1 l.2

/-- Two scans never find the same name on one of the lines. -/
def Scan.Apart (ls : List (List Char)) (s t : Scan) : Prop :=
  ∀ line ∈ ls, ∀ n, s.name? line = some n → t.name? line ≠ some n

namespace Scan

variable {s t : Scan} {ls : List (List Char)}

lemma mem_keys_iff {kind : ElementKind} {n : String} {k : Int} : (kind, n, k) ∈ s.keys ls ↔
    ∃ (index : Nat) (line : List Char), ls[index]? = some line ∧ s.name? line = some n.toList ∧
      kind = s.kind ∧ k = index + 1 := by
  simp only [keys, key?, List.mem_filterMap, Prod.exists, List.mem_zipIdx_iff_getElem?,
    Option.map_eq_some_iff, Prod.mk.injEq]
  constructor
  · rintro ⟨line, index, hline, m, hm, rfl, rfl, rfl⟩
    exact ⟨index, line, hline, by rw [hm, String.toList_ofList], rfl, rfl⟩
  · rintro ⟨index, line, hline, hm, rfl, rfl⟩
    exact ⟨line, index, hline, n.toList, hm, rfl, String.ofList_toList, rfl⟩

/-- A scan finds at most one name on each line. -/
lemma nodup_keys (s : Scan) (ls : List (List Char)) : ((s.keys ls).map (·.2)).Nodup := by
  have hlines : ls.zipIdx.Pairwise fun l m => l.2 < m.2 := by
    rw [← List.pairwise_map (f := Prod.snd) (R := (· < ·)), List.zipIdx_map_snd]
    exact List.pairwise_lt_range'
  rw [List.Nodup, List.pairwise_map, keys, List.pairwise_filterMap]
  refine hlines.imp fun {l m} hlt key hkey key' hkey' hsame => ?_
  obtain ⟨_, _, rfl⟩ := Option.map_eq_some_iff.mp hkey
  obtain ⟨_, _, rfl⟩ := Option.map_eq_some_iff.mp hkey'
  have hindex := (Prod.mk.inj hsame).2
  omega

lemma disjoint_keys_iff :
    List.Disjoint ((s.keys ls).map (·.2)) ((t.keys ls).map (·.2)) ↔ s.Apart ls t := by
  constructor
  · intro hdisjoint line hline n hs ht
    obtain ⟨index, hindex⟩ := List.getElem?_of_mem hline
    have hfound : ∀ r : Scan, r.name? line = some n →
        (String.ofList n, (index : Int) + 1) ∈ (r.keys ls).map (·.2) := fun r hr =>
      List.mem_map.mpr ⟨(r.kind, String.ofList n, (index : Int) + 1), mem_keys_iff.mpr
        ⟨index, line, hindex, by rw [hr, String.toList_ofList], rfl, rfl⟩, rfl⟩
    exact hdisjoint (hfound s hs) (hfound t ht)
  · rintro hapart ⟨n, k⟩ hs ht
    obtain ⟨⟨_, _, _⟩, hs, hkey⟩ := List.mem_map.mp hs
    obtain ⟨⟨_, _, _⟩, ht, hkey'⟩ := List.mem_map.mp ht
    cases hkey
    cases hkey'
    obtain ⟨index, line, hline, hs, _, hk⟩ := mem_keys_iff.mp hs
    obtain ⟨index', line', hline', ht, _, hk'⟩ := mem_keys_iff.mp ht
    obtain rfl : index = index' := by omega
    rw [hline] at hline'
    cases hline'
    exact hapart line (List.mem_of_getElem? hline) _ hs ht

/-- Several scans find no name twice on a line if no two of them share one. -/
theorem nodup_flatMap_iff {ss : List Scan} :
    ((ss.flatMap (·.keys ls)).map (·.2)).Nodup ↔ ss.Pairwise (Scan.Apart ls) := by
  rw [List.map_flatMap, List.nodup_flatMap]
  refine (and_iff_right fun s _ => nodup_keys s ls).trans ?_
  exact List.Pairwise.iff fun _ _ => disjoint_keys_iff

end Scan

/-! ### Groups and scans -/

section Groups

variable {file : SourceFile} {s : Scan} {es : List Element}

lemma makeElement_key {options : Options} {language name content : String} {kind : ElementKind}
    {path : Option String} {location : Location} {complexity : Option Int} {x : Element}
    (h : makeElement options language kind name path location content complexity = .ok x) :
    keyOf x = (kind, name, location.lineStart) ∧
      x.id = elementId x.name path x.location.lineStart := by
  unfold makeElement at h
  split at h
  · cases h
  · cases h
  · cases h
    exact ⟨rfl, rfl⟩

lemma exists_of_some_map {α : Type} {x : Except Failure α} {found : Option α}
    (h : (some <$> x : Except Failure (Option α)) = .ok found) : ∃ a, x = .ok a ∧ found = some a := by
  match x with
  | .ok a => cases h; exact ⟨a, rfl, rfl⟩
  | .error f => cases h

/-- The keys of what is kept of a list are those of its items, if every item keeps its key. -/
lemma map_filterMapM {α β γ : Type} {f : α → Except Failure (Option β)} {key : β → γ}
    {key? : α → Option γ} {xs : List α} {ys : List β} (h : xs.filterMapM f = .ok ys)
    (hkey : ∀ x found, f x = .ok found → found.map key = key? x) :
    ys.map key = xs.filterMap key? := by
  induction xs generalizing ys with
  | nil =>
    cases h
    rfl
  | cons x xs ih =>
    rw [List.filterMapM_cons] at h
    obtain ⟨found, hfound, h⟩ := bind_eq_ok h
    have hx := hkey x found hfound
    cases found with
    | none => rw [List.filterMap_cons_none hx.symm, ih h]
    | some y =>
      obtain ⟨rest, hrest, hys⟩ := bind_eq_ok h
      cases hys
      rw [List.filterMap_cons_some hx.symm, List.map_cons, ih hrest]

/-- It is enough to know what is made of one line. -/
lemma keys_eachLine {find : Nat → List Char → Except Failure (Option Element)}
    (h : file.eachLine find = .ok es)
    (hfind : ∀ index line found, find index line = .ok found →
      found.map keyOf = s.key? line index) : es.map keyOf = s.keys file.lines :=
  map_filterMapM h fun l found hfound => hfind l.2 l.1 found hfound

lemma keys_eachTrimmed {find : Nat → List Char → Except Failure (Option Element)}
    (h : file.eachTrimmed find = .ok es)
    (hfind : ∀ index line found, find index line = .ok found →
      found.map keyOf = s.key? line index) :
    es.map keyOf = (Scan.mk s.kind fun line => s.name? (trim line)).keys file.lines :=
  map_filterMapM h fun l found hfound => hfind l.2 (trim l.1) found hfound

/-- No line fails if the lines do not fail together. -/
lemma exists_of_eachLine {find : Nat → List Char → Except Failure (Option Element)}
    (h : file.eachLine find = .ok es) {line : List Char} (hline : line ∈ file.lines) :
    ∃ index found, find index line = .ok found := by
  obtain ⟨index, hindex⟩ := List.getElem?_of_mem hline
  have hmem : (line, index) ∈ file.lines.zipIdx := List.mem_zipIdx_iff_getElem?.mpr hindex
  unfold SourceFile.eachLine at h
  refine ⟨index, ?_⟩
  generalize file.lines.zipIdx = xs at h hmem
  induction xs generalizing es with
  | nil => cases hmem
  | cons x xs ih =>
    rw [List.filterMapM_cons] at h
    obtain ⟨found, hfound, h⟩ := bind_eq_ok h
    rcases List.mem_cons.mp hmem with rfl | hmem
    · exact ⟨found, hfound⟩
    · cases found with
      | none => exact ih h hmem
      | some y =>
        obtain ⟨rest, hrest, _⟩ := bind_eq_ok h
        exact ih hrest hmem

lemma SourceFile.Makes.id_eq {x : Element} (h : file.Makes x) :
    x.id = elementId x.name file.path x.location.lineStart := by
  match h with
  | .line _ _ h => exact (makeElement_key h).2
  | .block _ h => exact (makeElement_key h).2

end Groups

/-! ### The scans of a JavaScript file -/

namespace JavaScript

open CodeAtlas.Text.Pattern

/-- The name of the class that begins on a line. -/
def className? (line : List Char) : Option (List Char) :=
  (classPattern.search? line).map (·.group 1)

/-- The name of the function that begins on a line. -/
def functionName? (line : List Char) : Option (List Char) :=
  if contains "class".toList line then none
  else (functionPatterns.findSome? (·.search? line)).map (·.group 1)

/-- Whether a line declares a constant, of which no element can be made. -/
def seesConstant (line : List Char) : Bool :=
  (constantPattern.search? line).isSome ||
    (variablePattern.search? line).any fun m => allUpper (m.group 2)

/-- The name of the variable that is declared on a line. -/
def bindingName? (line : List Char) : Option (List Char) :=
  (variablePattern.search? line).map (·.group 2)

def importScan : Scan := ⟨.importing, fun line => importName? (trim line)⟩

def exportScan : Scan := ⟨.importing, fun line => exportName? (trim line)⟩

def classScan : Scan := ⟨.classDef, className?⟩

def functionScan : Scan := ⟨.function, functionName?⟩

def bindingScan : Scan := ⟨.binding, fun line => bindingName? (trim line)⟩

/-! ### Which names can be the same -/

lemma groupsIn_classPattern : classPattern.GroupsIn isWord := by
  simp [classPattern, groupsIn_all_iff, groupsIn_lit, GroupsIn, blanks, blanks1, many, many1, word]

lemma groupsIn_functionPatterns : ∀ p ∈ functionPatterns, p.GroupsIn isWord := by
  simp [functionPatterns, groupsIn_all_iff, groupsIn_lit, GroupsIn, blanks, blanks1, many, many1, word,
    parentheses]

lemma groupsIn_variablePattern : variablePattern.GroupsIn isWord := by
  simp [variablePattern, groupsIn_all_iff, groupsIn_lit, GroupsIn, blanks, blanks1, many, many1, word,
    any]

lemma space_not_mem {n : List Char} (h : ∀ c ∈ n, isWord c = true) : ' ' ∉ n := by
  intro hspace
  exact absurd (h _ hspace) (by decide)

lemma space_not_mem_className? {line n : List Char} (h : className? line = some n) : ' ' ∉ n := by
  obtain ⟨m, hm, rfl⟩ := Option.map_eq_some_iff.mp h
  exact space_not_mem (groupsIn_classPattern.of_search? hm 1)

lemma space_not_mem_functionName? {line n : List Char} (h : functionName? line = some n) :
    ' ' ∉ n := by
  unfold functionName? at h
  split at h
  · cases h
  · obtain ⟨m, hm, rfl⟩ := Option.map_eq_some_iff.mp h
    obtain ⟨p, hp, hm⟩ := List.exists_of_findSome?_eq_some hm
    exact space_not_mem ((groupsIn_functionPatterns p hp).of_search? hm 1)

lemma space_not_mem_bindingName? {line n : List Char} (h : bindingName? line = some n) : ' ' ∉ n := by
  obtain ⟨m, hm, rfl⟩ := Option.map_eq_some_iff.mp h
  exact space_not_mem (groupsIn_variablePattern.of_search? hm 2)

lemma exists_of_importName? {line n : List Char} (h : importName? line = some n) :
    ∃ more, n = "import ".toList ++ more := by
  have hquote : "import '".toList = "import ".toList ++ ['\''] := by decide
  obtain ⟨⟨p, named⟩, _, hm⟩ := List.exists_of_findSome?_eq_some h
  obtain ⟨m, _, rfl⟩ := Option.map_eq_some_iff.mp hm
  cases named with
  | true => exact ⟨trim (m.group 1) ++ " from '".toList ++ trim (m.group 2) ++ ['\''], by simp⟩
  | false => exact ⟨'\'' :: trim (m.group 1) ++ ['\''], by rw [hquote]; simp⟩

lemma exists_of_exportName? {line n : List Char} (h : exportName? line = some n) :
    ∃ first ∈ ["default export: ".toList, "export ".toList], ∃ more, n = first ++ more := by
  have hbrace : "export \x7b".toList = "export ".toList ++ ['\x7b'] := by decide
  simp only [exportName?] at h
  split at h
  · cases h
    exact ⟨_, List.mem_cons_self, _, rfl⟩
  · rename_i m _ _
    cases h
    exact ⟨_, List.mem_of_mem_tail List.mem_cons_self, '\x7b' :: trim (m.group 1) ++ ['\x7d'],
      by rw [hbrace]; simp⟩
  · rename_i m _ _ _
    cases h
    exact ⟨_, List.mem_of_mem_tail List.mem_cons_self, m.group 1 ++ ' ' :: m.group 2, by simp⟩
  · cases h

lemma space_mem_importName? {line n : List Char} (h : importName? line = some n) : ' ' ∈ n := by
  obtain ⟨more, rfl⟩ := exists_of_importName? h
  exact List.mem_append_left more (by decide)

lemma space_mem_exportName? {line n : List Char} (h : exportName? line = some n) : ' ' ∈ n := by
  obtain ⟨first, hfirst, more, rfl⟩ := exists_of_exportName? h
  have hspace : ∀ first ∈ ["default export: ".toList, "export ".toList], ' ' ∈ first := by decide
  exact List.mem_append_left more (hspace first hfirst)

lemma importName?_ne_exportName? {line n : List Char} (himport : importName? line = some n) :
    exportName? line ≠ some n := by
  intro hexport
  obtain ⟨more, rfl⟩ := exists_of_importName? himport
  obtain ⟨first, hfirst, more', hsame⟩ := exists_of_exportName? hexport
  have hheads : ∀ first ∈ ["default export: ".toList, "export ".toList],
      first ≠ [] ∧ first.head? ≠ "import ".toList.head? := by
    decide
  obtain ⟨hne, hhead⟩ := hheads first hfirst
  have hboth := congrArg List.head? hsame
  rw [List.head?_append_of_ne_nil _ (by decide), List.head?_append_of_ne_nil _ hne] at hboth
  exact hhead hboth.symm

/-- A class is mentioned where one begins. -/
lemma contains_of_className? {line n : List Char} (h : className? line = some n) :
    contains "class".toList line = true := by
  obtain ⟨m, hm, rfl⟩ := Option.map_eq_some_iff.mp h
  obtain ⟨front, text, rest, rfl, hreads⟩ := reads_of_search? hm
  obtain ⟨x, y, _, _, rfl, _, hx, _⟩ := reads_all_cons.mp hreads
  obtain ⟨rfl, _⟩ := reads_lit_iff.mp hx
  rw [contains_eq_true_iff]
  exact ⟨front, y ++ rest, by simp⟩

/-- Whether a variable is declared on a line that is called like the class or the function there. -/
def clashes (line : List Char) : Bool :=
  (bindingName? (trim line)).any fun n => className? line == some n || functionName? line == some n

lemma clashes_eq_false_iff {line : List Char} : clashes line = false ↔
    ∀ n, bindingName? (trim line) = some n → className? line ≠ some n ∧ functionName? line ≠ some n := by
  unfold clashes
  cases bindingName? (trim line) with
  | none => simp
  | some n => simp

/-- Where a name has a space, it is the name of an import or an export. -/
lemma apart_of_spaces {ls : List (List Char)} {s t : Scan} (hs : s ∈ [importScan, exportScan])
    (ht : t ∈ [classScan, functionScan, bindingScan]) : s.Apart ls t := by
  intro line _ n hn hn'
  have hspace : ' ' ∈ n := by
    simp only [List.mem_cons, List.not_mem_nil, or_false] at hs
    rcases hs with rfl | rfl
    · exact space_mem_importName? hn
    · exact space_mem_exportName? hn
  refine absurd hspace ?_
  simp only [List.mem_cons, List.not_mem_nil, or_false] at ht
  rcases ht with rfl | rfl | rfl
  · exact space_not_mem_className? hn'
  · exact space_not_mem_functionName? hn'
  · exact space_not_mem_bindingName? hn'

/-- The scans for anything but variables never find the same name. -/
theorem pairwise_apart (ls : List (List Char)) :
    [importScan, exportScan, classScan, functionScan].Pairwise (Scan.Apart ls) := by
  have hports : importScan.Apart ls exportScan := fun line _ n hn => importName?_ne_exportName? hn
  have hblocks : classScan.Apart ls functionScan := by
    intro line _ n hn hn'
    have hclass : functionName? line = none := if_pos (contains_of_className? hn)
    cases hclass.symm.trans hn'
  simp only [List.pairwise_cons, List.forall_mem_cons, List.not_mem_nil, false_imp_iff, implies_true,
    List.Pairwise.nil, and_true, hports, hblocks, true_and]
  exact ⟨⟨apart_of_spaces (by simp) (by simp), apart_of_spaces (by simp) (by simp)⟩,
    apart_of_spaces (by simp) (by simp), apart_of_spaces (by simp) (by simp)⟩

/-- The scan for variables can find the name of a class or a function. -/
theorem apart_bindingScan_iff {ls : List (List Char)} :
    (∀ s ∈ [importScan, exportScan, classScan, functionScan], s.Apart ls bindingScan) ↔
      ∀ line ∈ ls, clashes line = false := by
  simp only [List.forall_mem_cons, List.not_mem_nil, false_imp_iff, implies_true, and_true,
    clashes_eq_false_iff]
  constructor
  · rintro ⟨_, _, hclass, hfunction⟩ line hline n hn
    exact ⟨fun h => hclass line hline n h hn, fun h => hfunction line hline n h hn⟩
  · intro h
    refine ⟨apart_of_spaces (by simp) (by simp), apart_of_spaces (by simp) (by simp), ?_, ?_⟩
    · exact fun line hline n hn hn' => (h line hline n hn').1 hn
    · exact fun line hline n hn hn' => (h line hline n hn').2 hn

/-! ### What the groups give -/

section Groups

variable {file : SourceFile} {es : List Element}

lemma lineElement_key {kind : ElementKind} {name content : List Char} {index width : Nat} {x : Element}
    (h : file.lineElement kind name content index width = .ok x) :
    keyOf x = (kind, String.ofList name, (index : Int) + 1) :=
  (makeElement_key h).1

lemma blockElement_key {length : Nat} {kind : ElementKind} {name : List Char} {index : Nat}
    {complexity : List Char → Nat} {x : Element}
    (h : file.blockElement length kind name index complexity = .ok x) :
    keyOf x = (kind, String.ofList name, (index : Int) + 1) :=
  (makeElement_key h).1

lemma keys_imports (h : imports file = .ok es) : es.map keyOf = importScan.keys file.lines := by
  refine keys_eachTrimmed (s := ⟨.importing, importName?⟩) h fun index line found hfound => ?_
  unfold Scan.key?
  split at hfound
  · rename_i name hname
    obtain ⟨x, hx, rfl⟩ := exists_of_some_map hfound
    simp [hname, lineElement_key hx]
  · rename_i hnone
    cases hfound
    simp [hnone]

lemma keys_exports (h : exports file = .ok es) : es.map keyOf = exportScan.keys file.lines := by
  refine keys_eachTrimmed (s := ⟨.importing, exportName?⟩) h fun index line found hfound => ?_
  unfold Scan.key?
  split at hfound
  · rename_i name hname
    obtain ⟨x, hx, rfl⟩ := exists_of_some_map hfound
    simp [hname, lineElement_key hx]
  · rename_i hnone
    cases hfound
    simp [hnone]

lemma keys_classes (h : classes file = .ok es) : es.map keyOf = classScan.keys file.lines := by
  refine keys_eachLine h fun index line found hfound => ?_
  unfold Scan.key? classScan className?
  split at hfound
  · rename_i hnone
    cases hfound
    simp [hnone]
  · rename_i m hm
    obtain ⟨x, hx, hfound⟩ := bind_eq_ok hfound
    split at hfound
    · cases hfound
    · cases hfound
      simp [hm, blockElement_key hx]

lemma keys_functions (h : functions file = .ok es) : es.map keyOf = functionScan.keys file.lines := by
  refine keys_eachLine h fun index line found hfound => ?_
  unfold Scan.key? functionScan
  split at hfound
  · rename_i hclass
    cases hfound
    have hname : functionName? line = none := if_pos hclass
    simp [hname]
  · rename_i hclass
    split at hfound
    · rename_i m hm
      obtain ⟨x, hx, rfl⟩ := exists_of_some_map hfound
      have hname : functionName? line = some (m.group 1) := by
        rw [functionName?, if_neg hclass, hm]
        rfl
      simp [hname, blockElement_key hx]
    · rename_i hnone
      cases hfound
      have hname : functionName? line = none := by
        rw [functionName?, if_neg hclass, hnone]
        rfl
      simp [hname]

lemma keys_bindings (h : bindings file = .ok es) : es.map keyOf = bindingScan.keys file.lines := by
  refine keys_eachTrimmed (s := ⟨.binding, bindingName?⟩) h fun index line found hfound => ?_
  unfold Scan.key? bindingName?
  split at hfound
  · cases hfound
  · split at hfound
    · rename_i hnone
      cases hfound
      simp [hnone]
    · rename_i m hm
      split at hfound
      · cases hfound
      · obtain ⟨x, hx, rfl⟩ := exists_of_some_map hfound
        simp [hm, lineElement_key hx]

/-- Classes are found in a file in which none has a base, and in no other. -/
lemma seesBase_of_classes (h : classes file = .ok es) : ∀ line ∈ file.lines, seesBase line = false := by
  intro line hline
  obtain ⟨index, found, hfound⟩ := exists_of_eachLine h hline
  unfold seesBase
  split at hfound
  · rename_i hnone
    rw [hnone]
    rfl
  · rename_i m hm
    obtain ⟨x, _, hfound⟩ := bind_eq_ok hfound
    split at hfound
    · cases hfound
    · rename_i hbase
      simpa [hm] using hbase

lemma seesConstant_of_bindings (h : bindings file = .ok es) :
    ∀ line ∈ file.lines, seesConstant (trim line) = false := by
  intro line hline
  rw [bindings, SourceFile.eachTrimmed] at h
  obtain ⟨index, found, hfound⟩ := exists_of_eachLine h hline
  unfold seesConstant
  split at hfound
  · cases hfound
  · rename_i hconstant
    split at hfound
    · rename_i hnone
      simp [hnone, Bool.eq_false_of_not_eq_true hconstant]
    · rename_i m hm
      split at hfound
      · cases hfound
      · rename_i hupper
        simp [hm, Bool.eq_false_of_not_eq_true hconstant, hupper]

lemma exists_bindings (h : file.IsStamped)
    (hconstant : ∀ line ∈ file.lines, seesConstant (trim line) = false) :
    ∃ es, bindings file = .ok es := by
  have hserves : file.Serves .binding (fun _ => false) (bindings file) := by
    rw [bindings, SourceFile.eachTrimmed]
    refine SourceFile.serves_eachLine fun index line hline => ?_
    have hnone := hconstant line hline
    unfold seesConstant at hnone
    rw [Bool.or_eq_false_iff] at hnone
    cases hm : variablePattern.search? (trim line) with
    | none => exact ⟨none, by simp [hnone.1], Bool.false_ne_true.elim⟩
    | some m =>
      obtain ⟨e, he⟩ := SourceFile.exists_lineElement h .binding (m.group 2) (trim line) index
        (trim line).length
      have hupper : allUpper (m.group 2) = false := by simpa [hm] using hnone.2
      exact ⟨some e, by simp [hnone.1, hupper, he], Bool.false_ne_true.elim⟩
  obtain ⟨es, hes, _⟩ := hserves
  exact ⟨es, hes⟩

end Groups

/-- Whether a line ends the extraction before all variables are found. -/
def endsEarly (line : List Char) : Bool :=
  seesBase line || seesConstant (trim line)

/-- What is found in a file: everything, or nothing behind the group that failed. -/
theorem keys_elements (stamp path : String) (linking : Bool) (content : List Char) :
    ∃ ss, (elements ⟨some stamp, linking⟩ (some path) content).elements.map keyOf =
        ss.flatMap (·.keys (lines content)) ∧
      ((∃ line ∈ lines content, endsEarly line = true) ∧
          ss <+: [importScan, exportScan, classScan, functionScan] ∨
        (∀ line ∈ lines content, endsEarly line = false) ∧
          ss = [importScan, exportScan, classScan, functionScan, bindingScan]) := by
  let file : SourceFile := ⟨⟨some stamp, linking⟩, language, some path, lines content⟩
  have hfile : file.IsStamped := ⟨Option.some_ne_none stamp, Option.some_ne_none path⟩
  obtain ⟨found, hfound⟩ := exists_imports hfile
  obtain ⟨shown, hshown⟩ := exists_exports hfile
  obtain ⟨functionList, hfunctions, _⟩ := serves_functions hfile
  have hgroups : (elements ⟨some stamp, linking⟩ (some path) content).elements = (collectGroups
      [.ok found, .ok shown, classes file, .ok functionList, bindings file]).1 := by
    rw [← hfound, ← hshown, ← hfunctions]
    rfl
  have himports : found.map keyOf = importScan.keys (lines content) := keys_imports hfound
  have hexports : shown.map keyOf = exportScan.keys (lines content) := keys_exports hshown
  have hfunction : functionList.map keyOf = functionScan.keys (lines content) :=
    keys_functions hfunctions
  rw [hgroups]
  cases hclasses : classes file with
  | error f =>
    -- A class with a base ends the extraction.
    refine ⟨[importScan, exportScan], by simp [collectGroups, himports, hexports], Or.inl ⟨?_, by simp⟩⟩
    by_contra hnone
    push Not at hnone
    obtain ⟨es, hes, _⟩ := serves_classes hfile fun line hline =>
      (Bool.or_eq_false_iff.mp (Bool.eq_false_of_not_eq_true (hnone line hline))).1
    rw [hclasses] at hes
    cases hes
  | ok classList =>
    have hclass : classList.map keyOf = classScan.keys (lines content) := keys_classes hclasses
    cases hbindings : bindings file with
    | error f =>
      -- Declaring a constant ends it too.
      refine ⟨[importScan, exportScan, classScan, functionScan], ?_, Or.inl ⟨?_, List.prefix_refl _⟩⟩
      · simp [collectGroups, himports, hexports, hclass, hfunction]
      · by_contra hnone
        push Not at hnone
        obtain ⟨es, hes⟩ := exists_bindings hfile fun line hline =>
          (Bool.or_eq_false_iff.mp (Bool.eq_false_of_not_eq_true (hnone line hline))).2
        rw [hbindings] at hes
        cases hes
    | ok bindingList =>
      have hbinding : bindingList.map keyOf = bindingScan.keys (lines content) :=
        keys_bindings hbindings
      refine ⟨_, ?_, Or.inr ⟨fun line hline => ?_, rfl⟩⟩
      · simp [collectGroups, himports, hexports, hclass, hfunction, hbinding]
      · rw [endsEarly, seesBase_of_classes hclasses line hline,
          seesConstant_of_bindings hbindings line hline]
        rfl

/-! ### Identifiers of a file -/

section Distinct

variable {stamp path : String} {linking : Bool} {content : List Char} {x y : Element}

lemma id_eq_of_mem (hx : x ∈ (elements ⟨some stamp, linking⟩ (some path) content).elements) :
    x.id = Digest.ofText (idTextOf x) ∧ x.filePath = path := by
  have hmakes := elements_makes hx
  have hpath : some path = some x.filePath := hmakes.filePath
  refine ⟨?_, (Option.some.inj hpath).symm⟩
  rw [hmakes.id_eq, elementId_eq, idTextOf, ← hpath]

/-- Under a digest without collisions, identifiers are the same for the same name on the same line. -/
lemma id_eq_iff (hdigest : Digest.IsInjectiveOn
      ((elements ⟨some stamp, linking⟩ (some path) content).elements.map idTextOf))
    (hx : x ∈ (elements ⟨some stamp, linking⟩ (some path) content).elements)
    (hy : y ∈ (elements ⟨some stamp, linking⟩ (some path) content).elements) :
    x.id = y.id ↔ (keyOf x).2 = (keyOf y).2 := by
  obtain ⟨hxid, hxpath⟩ := id_eq_of_mem hx
  obtain ⟨hyid, hypath⟩ := id_eq_of_mem hy
  rw [hxid, hyid]
  constructor
  · intro h
    have htext := hdigest _ (List.mem_map_of_mem hx) _ (List.mem_map_of_mem hy) h
    obtain ⟨n, hn⟩ := Int.eq_ofNat_of_zero_le
      (zero_le_one.trans (elements_makes hx).standsOn.first)
    obtain ⟨m, hm⟩ := Int.eq_ofNat_of_zero_le
      (zero_le_one.trans (elements_makes hy).standsOn.first)
    rw [idTextOf, idTextOf, hxpath, hypath, hn, hm] at htext
    obtain ⟨hname, hline⟩ := idText_injective htext
    rw [keyOf, keyOf, hn, hm, hname, hline]
  · intro h
    obtain ⟨hname, hline⟩ := Prod.mk.inj h
    rw [idTextOf, idTextOf, hxpath, hypath, hname, hline]

/-- Of a line where names clash, unless the extraction ends early, two elements of different kinds are
made that have the same name. -/
lemma exists_of_clashes (hends : ∀ line ∈ lines content, endsEarly line = false) {line : List Char}
    (hline : line ∈ lines content) (hclash : clashes line = true) :
    ∃ x ∈ (elements ⟨some stamp, linking⟩ (some path) content).elements,
      ∃ y ∈ (elements ⟨some stamp, linking⟩ (some path) content).elements,
        x.kind ≠ y.kind ∧ (keyOf x).2 = (keyOf y).2 := by
  obtain ⟨ss, hkeys, ⟨⟨line', hline', hends'⟩, _⟩ | ⟨_, rfl⟩⟩ := keys_elements stamp path linking content
  · rw [hends line' hline'] at hends'
    cases hends'
  · obtain ⟨index, hindex⟩ := List.getElem?_of_mem hline
    have hmade : ∀ s ∈ [importScan, exportScan, classScan, functionScan, bindingScan], ∀ n,
        s.name? line = some n →
        ∃ x ∈ (elements ⟨some stamp, linking⟩ (some path) content).elements,
          keyOf x = (s.kind, String.ofList n, (index : Int) + 1) := by
      intro s hs n hn
      refine List.mem_map.mp (hkeys ▸ List.mem_flatMap.mpr ⟨s, hs, Scan.mem_keys_iff.mpr ?_⟩)
      exact ⟨index, line, hindex, by rw [hn, String.toList_ofList], rfl, rfl⟩
    obtain ⟨n, hn, hother⟩ := (Option.any_eq_true _ _).mp hclash
    obtain ⟨s, hs, hsn⟩ : ∃ s ∈ [classScan, functionScan], s.name? line = some n := by
      rcases Bool.or_eq_true_iff.mp hother with hclass | hfunction
      · exact ⟨classScan, by simp, beq_iff_eq.mp hclass⟩
      · exact ⟨functionScan, by simp, beq_iff_eq.mp hfunction⟩
    have hkinds : ∀ s ∈ [classScan, functionScan], s.kind ≠ bindingScan.kind := by decide
    obtain ⟨x, hx, hxkey⟩ := hmade s (List.mem_of_mem_drop (i := 2) (List.mem_append_left _ hs)) n hsn
    obtain ⟨y, hy, hykey⟩ := hmade bindingScan (by simp) n hn
    refine ⟨x, hx, y, hy, ?_, by rw [hxkey, hykey]⟩
    rw [show x.kind = s.kind from (Prod.mk.inj hxkey).1,
      show y.kind = bindingScan.kind from (Prod.mk.inj hykey).1]
    exact hkinds s hs

/-- Names and lines tell the elements apart if no names clash, or the variables are not reached. -/
lemma nodup_keys_of_apart (h : (∃ line ∈ lines content, endsEarly line = true) ∨
      ∀ line ∈ lines content, clashes line = false) :
    (((elements ⟨some stamp, linking⟩ (some path) content).elements.map keyOf).map (·.2)).Nodup := by
  obtain ⟨ss, hkeys, hss⟩ := keys_elements stamp path linking content
  rw [hkeys, Scan.nodup_flatMap_iff]
  rcases hss with ⟨_, hprefix⟩ | ⟨hends, rfl⟩
  · exact (pairwise_apart _).sublist hprefix.sublist
  · rcases h with ⟨line, hline, hearly⟩ | hclash
    · rw [hends line hline] at hearly
      cases hearly
    · refine List.pairwise_append.mpr ⟨pairwise_apart _, List.pairwise_singleton _ _, ?_⟩
      intro s hs t ht
      obtain rfl := List.mem_singleton.mp ht
      exact apart_bindingScan_iff.mpr hclash s hs

end Distinct

/-- Under a digest without collisions for the elements of a file, their identifiers are distinct exactly
if the extraction ends before the variables, at a class with a base or a constant, or no variable is
called like the class or the function on its line. Otherwise a variable takes the place of the class or
the function when they are stored. -/
theorem distinct_ids_iff (stamp path text : String) (linking : Bool)
    (hdigest : Digest.IsInjectiveOn
      ((elements ⟨some stamp, linking⟩ (some path) text.toList).elements.map idTextOf)) :
    let found := (elements ⟨some stamp, linking⟩ (some path) text.toList).elements
    let apart := (∃ line ∈ lines text.toList, endsEarly line = true) ∨
      ∀ line ∈ lines text.toList, clashes line = false
    ((found.map (·.id)).Nodup ↔ apart) ∧
    ∀ (c : Catalog) (rows : List Row) (deps : List DependencyRow), c.Holds rows deps →
      (∀ e ∈ found, (Row.ofElement e).storable = true) →
      (c.store found).1 = .ok () ∧ ∃ rows', (c.store found).2.rows = .ok rows' ∧
        ((∀ e ∈ found, Row.ofElement e ∈ rows') ↔ apart) := by
  intro found apart
  have hnodup : apart → (found.map (·.id)).Nodup := by
    intro h
    have hkeys : ((found.map keyOf).map (·.2)).Nodup := nodup_keys_of_apart h
    rw [List.map_map] at hkeys
    exact List.Nodup.map_on (fun x hx y hy hid => List.inj_on_of_nodup_map hkeys hx hy
      ((id_eq_iff hdigest hx hy).mp hid)) (List.Nodup.of_map _ hkeys)
  have hapart : (∀ x ∈ found, ∀ y ∈ found, x.id = y.id → x.kind = y.kind) → apart := by
    intro h
    by_contra hnot
    obtain ⟨hends, line, hline, hclash⟩ : (∀ line ∈ lines text.toList, endsEarly line = false) ∧
        ∃ line ∈ lines text.toList, clashes line = true := by
      simpa [apart] using hnot
    obtain ⟨x, hx, y, hy, hkind, hkey⟩ := exists_of_clashes hends hline hclash
    exact hkind (h x hx y hy ((id_eq_iff hdigest hx hy).mpr hkey))
  refine ⟨⟨fun h => hapart fun x hx y hy hid => ?_, hnodup⟩, ?_⟩
  · rw [List.inj_on_of_nodup_map h hx hy hid]
  · intro c rows deps hholds hfits
    obtain ⟨done, _, ⟨new, _, hgrown⟩, ⟨hok, rfl⟩ | herror⟩ := hholds.store found
    · refine ⟨hok, _, hgrown.rows_eq, ?_⟩
      rw [Tables.forall_mem_upsertElements_iff]
      constructor
      · exact fun h => hapart fun x hx y hy hid => congrArg Row.kind (h x hx y hy hid)
      · intro h x hx y hy hid
        rw [List.inj_on_of_nodup_map (hnodup h) hx hy hid]
    · cases herror.symm.trans (hholds.store_ok hfits)

/-- A file with elements of all kinds, and a variable on the line of a function with another name. -/
def orchard : String :=
  "import fs from 'fs'\nclass Tree \x7b\n\x7d\nlet grow = function water() \x7b\n\x7d\nexport default Tree"

theorem orchard_ids :
    let found := (elements ⟨some "t", true⟩ (some "a.js") orchard.toList).elements
    found.map (·.name) = ["import fs from 'fs'", "default export: Tree", "Tree", "water", "grow"] ∧
    Digest.IsInjectiveOn (found.map idTextOf) ∧ (found.map (·.id)).Nodup ∧
    ∃ rows, (Catalog.fresh.store found).2.rows = .ok rows ∧ ∀ e ∈ found, Row.ofElement e ∈ rows := by
  intro found
  have hdigest : Digest.IsInjectiveOn (found.map idTextOf) := by decide +kernel
  have hapart : ∀ line ∈ lines orchard.toList, clashes line = false := by decide +kernel
  obtain ⟨hids, hstore⟩ := distinct_ids_iff "t" "a.js" orchard true hdigest
  obtain ⟨_, rows, hrows, hkept⟩ :=
    hstore Catalog.fresh [] [] ⟨_, rfl, rfl, rfl⟩ (by decide +kernel)
  exact ⟨by decide +kernel, hdigest, hids.mpr (.inr hapart), rows, hrows, hkept.mpr (.inr hapart)⟩

/-- A function that is the value of a constant is lost: the constant has its identifier. -/
theorem arrow_function_lost :
    let found := (elements ⟨some "t", true⟩ (some "a.js") "const run = () => \x7b\n\x7d".toList).elements
    found.map (fun e => (e.kind, e.name)) = [(.function, "run"), (.binding, "run")] ∧
    Digest.IsInjectiveOn (found.map idTextOf) ∧ ¬ (found.map (·.id)).Nodup ∧
    (Catalog.fresh.store found).2.rows.toOption.map (·.map (·.kind)) = some [.binding] := by
  decide +kernel

end JavaScript

end Extract

end CodeAtlas
