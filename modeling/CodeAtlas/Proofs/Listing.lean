import CodeAtlas.Proofs.Discovery
import CodeAtlas.Proofs.Lines
import CodeAtlas.Proofs.Wildcards
import CodeAtlas.Settings

/-!
# Each file is listed once

Discovery goes through the tree once for each extension. A file would be listed twice if its name ended
in two extensions, or if the walk came to it on two ways. Neither happens: an extension has no dot but
its first character, so of two that a name ends in none is longer, and names are distinct in every
folder.
-/

namespace CodeAtlas

open CodeAtlas.Text

/-! ### Trees with proper names -/

mutual

/-- In every folder the names are distinct, and none of them means "up". -/
def Tree.Proper : Tree → Prop
  | .file _ => True
  | .folder es => es.Proper

/-- The same for the entries of a folder. -/
def Entries.Proper : Entries → Prop
  | .nil => True
  | .cons name t rest =>
    name ≠ ['.', '.'] ∧ name ∉ rest.toList.map Prod.fst ∧ t.Proper ∧ rest.Proper

end

namespace Entries

variable {n : List Char} {t : Tree}

lemma Proper.find?_eq_some_iff {es : Entries} (h : es.Proper) :
    es.find? n = some t ↔ (n, t) ∈ es.toList := by
  match es with
  | .nil => simp [find?, toList]
  | .cons name t' rest =>
    obtain ⟨_, hname, _, hrest⟩ := h
    simp only [find?, toList, List.mem_cons, Prod.mk.injEq]
    split
    · rename_i heq
      subst heq
      have hnot : (name, t) ∉ rest.toList := fun hmem => hname (List.mem_map_of_mem hmem)
      simp [hnot, eq_comm]
    · rename_i hne
      rw [hrest.find?_eq_some_iff]
      simp [Ne.symm hne]

lemma Proper.of_mem {es : Entries} (h : es.Proper) (hmem : (n, t) ∈ es.toList) :
    n ≠ ['.', '.'] ∧ t.Proper := by
  match es with
  | .nil => cases hmem
  | .cons name t' rest =>
    obtain ⟨hup, _, ht, hrest⟩ := h
    rcases List.mem_cons.mp hmem with heq | hmem
    · cases heq
      exact ⟨hup, ht⟩
    · exact hrest.of_mem hmem

lemma Proper.nodup {es : Entries} (h : es.Proper) : (es.toList.map Prod.fst).Nodup := by
  match es with
  | .nil => exact List.nodup_nil
  | .cons name t' rest =>
    obtain ⟨_, hname, _, hrest⟩ := h
    exact List.nodup_cons.mpr ⟨hname, hrest.nodup⟩

end Entries

/-! ### Following names -/

namespace Tree

variable {t : Tree} {above : List Tree} {ns ms : List (List Char)}

/-- Names that never lead up do not depend on what is above. -/
lemma follow_above (h : ['.', '.'] ∉ ms) (above above' : List Tree) (t : Tree) :
    t.follow above ms = t.follow above' ms := by
  induction ms generalizing above above' t with
  | nil => rfl
  | cons m ms ih =>
    obtain ⟨hm, hms⟩ := not_or.mp (mt List.mem_cons.mpr h)
    cases t with
    | file _ => rfl
    | folder es =>
      simp only [follow, if_neg (Ne.symm hm)]
      split
      · exact ih hms _ _ _
      · rfl

lemma follow_append (h : ['.', '.'] ∉ ms) (above : List Tree) (t : Tree) (ns : List (List Char)) :
    t.follow above (ns ++ ms) = (t.follow above ns).bind fun t' => t'.follow [] ms := by
  induction ns generalizing above t with
  | nil => exact follow_above h above [] t
  | cons n ns ih =>
    cases t with
    | file _ => rfl
    | folder es =>
      simp only [List.cons_append, follow]
      split
      · split
        · exact ih _ _
        · exact ih _ _
      · split
        · exact ih _ _
        · rfl

lemma Proper.follow {here : Tree} (hhere : here.Proper) (habove : ∀ a ∈ above, a.Proper)
    (h : here.follow above ns = some t) : t.Proper := by
  induction ns generalizing above here with
  | nil =>
    cases h
    exact hhere
  | cons n ns ih =>
    cases here with
    | file _ => cases h
    | folder es =>
      simp only [Tree.follow] at h
      split at h
      · cases above with
        | nil => exact ih hhere habove h
        | cons a above =>
          obtain ⟨ha, habove⟩ := List.forall_mem_cons.mp habove
          exact ih ha habove h
      · split at h
        · rename_i t' hfind
          have hmem := (Entries.Proper.find?_eq_some_iff hhere).mp hfind
          refine ih (Entries.Proper.of_mem hhere hmem).2 ?_ h
          exact List.forall_mem_cons.mpr ⟨hhere, habove⟩
        · cases h

/-- The first name leads to an entry of the folder. -/
lemma follow_cons_iff {es : Entries} (h : es.Proper) {n : List Char} (hup : n ≠ ['.', '.'])
    (hns : ['.', '.'] ∉ ns) :
    (Tree.folder es).follow [] (n :: ns) = some t ↔
      ∃ t', (n, t') ∈ es.toList ∧ t'.follow [] ns = some t := by
  simp only [follow, if_neg hup]
  constructor
  · intro hfollow
    split at hfollow
    · rename_i t' hfind
      refine ⟨t', h.find?_eq_some_iff.mp hfind, ?_⟩
      rw [← hfollow]
      exact follow_above hns _ _ _
    · cases hfollow
  · rintro ⟨t', hmem, hfollow⟩
    rw [h.find?_eq_some_iff.mpr hmem, ← hfollow]
    exact follow_above hns _ _ _

end Tree

/-! ### The folders of a tree -/

namespace Path

/-- The path that names lead to from another one. -/
def down (p : Path) (ns : List (List Char)) : Path :=
  { p with parts := p.parts ++ ns }

@[simp] lemma down_nil (p : Path) : p.down [] = p := by
  simp [down]

@[simp] lemma child_down (p : Path) (n : List Char) (ns : List (List Char)) :
    (p.child n).down ns = p.down (n :: ns) := by
  simp [down, child]

@[simp] lemma down_child (p : Path) (ns : List (List Char)) (n : List Char) :
    (p.down ns).child n = p.down (ns ++ [n]) := by
  simp [down, child]

lemma down_injective (p : Path) : Function.Injective p.down := by
  intro ns ms h
  exact List.append_cancel_left (Path.mk.inj h).2

lemma child_inj {p q : Path} {n m : List Char} (h : p.child n = q.child m) : p = q ∧ n = m := by
  obtain ⟨hroot, hparts⟩ := Path.mk.inj h
  obtain ⟨hinit, hlast⟩ := List.append_inj' hparts rfl
  refine ⟨?_, List.singleton_inj.mp hlast⟩
  cases p
  cases q
  simp_all

end Path

section Folders

variable {p : Path} {fs : Entries}

mutual

/-- A folder is found by the names that lead to it. -/
theorem Tree.mem_folders_iff {t : Tree} (h : t.Proper) (q : Path) :
    (p, fs) ∈ t.folders q ↔
      ∃ ns, ['.', '.'] ∉ ns ∧ p = q.down ns ∧ t.follow [] ns = some (.folder fs) := by
  match t with
  | .file b =>
    simp only [Tree.folders, List.not_mem_nil, false_iff]
    rintro ⟨ns, _, _, hfollow⟩
    cases ns with
    | nil => cases hfollow
    | cons n ns => cases hfollow
  | .folder es =>
    rw [Tree.folders, List.mem_cons, Entries.mem_folders_iff h q]
    constructor
    · rintro (heq | ⟨n, t, ns, hmem, hns, rfl, hfollow⟩)
      · cases heq
        exact ⟨[], List.not_mem_nil, by simp, rfl⟩
      · have hup := (Entries.Proper.of_mem h hmem).1
        refine ⟨n :: ns, ?_, rfl, (Tree.follow_cons_iff h hup hns).mpr ⟨t, hmem, hfollow⟩⟩
        simp [hns, hup.symm]
    · rintro ⟨ns, hns, rfl, hfollow⟩
      cases ns with
      | nil =>
        cases hfollow
        simp
      | cons n ns =>
        obtain ⟨hup, hns⟩ := not_or.mp (mt List.mem_cons.mpr hns)
        obtain ⟨t, hmem, hfollow⟩ := (Tree.follow_cons_iff h (Ne.symm hup) hns).mp hfollow
        exact Or.inr ⟨n, t, ns, hmem, hns, rfl, hfollow⟩

theorem Entries.mem_folders_iff {es : Entries} (h : es.Proper) (q : Path) :
    (p, fs) ∈ es.folders q ↔ ∃ n t ns, (n, t) ∈ es.toList ∧ ['.', '.'] ∉ ns ∧
      p = q.down (n :: ns) ∧ t.follow [] ns = some (.folder fs) := by
  match es with
  | .nil => simp [Entries.folders, Entries.toList]
  | .cons name t rest =>
    obtain ⟨_, _, ht, hrest⟩ := h
    rw [Entries.folders, List.mem_append, Tree.mem_folders_iff ht, Entries.mem_folders_iff hrest]
    simp only [Path.child_down, Entries.toList, List.mem_cons, Prod.mk.injEq]
    constructor
    · rintro (⟨ns, hns⟩ | ⟨n, t', ns, hmem, hns⟩)
      · exact ⟨name, t, ns, Or.inl ⟨rfl, rfl⟩, hns⟩
      · exact ⟨n, t', ns, Or.inr hmem, hns⟩
    · rintro ⟨n, t', ns, ⟨rfl, rfl⟩ | hmem, hns⟩
      · exact Or.inl ⟨ns, hns⟩
      · exact Or.inr ⟨n, t', ns, hmem, hns⟩

end

mutual

/-- The walk comes to no folder twice. -/
theorem Tree.nodup_folders {t : Tree} (h : t.Proper) (q : Path) :
    ((t.folders q).map Prod.fst).Nodup := by
  match t with
  | .file b => exact List.nodup_nil
  | .folder es =>
    rw [Tree.folders, List.map_cons, List.nodup_cons]
    refine ⟨fun hmem => ?_, Entries.nodup_folders h q⟩
    -- A folder inside another one has a longer path.
    obtain ⟨⟨p, fs⟩, hmem, heq⟩ := List.mem_map.mp hmem
    obtain ⟨n, t, ns, _, _, hdown, _⟩ := (Entries.mem_folders_iff h q).mp hmem
    have hpaths : q.down [] = q.down (n :: ns) := by
      rw [q.down_nil, ← hdown]
      exact heq.symm
    cases q.down_injective hpaths

theorem Entries.nodup_folders {es : Entries} (h : es.Proper) (q : Path) :
    ((es.folders q).map Prod.fst).Nodup := by
  match es with
  | .nil => exact List.nodup_nil
  | .cons name t rest =>
    obtain ⟨_, hname, ht, hrest⟩ := h
    rw [Entries.folders, List.map_append]
    refine List.Nodup.append (Tree.nodup_folders ht _) (Entries.nodup_folders hrest q) ?_
    -- The two paths part at the first name.
    intro p hp hp'
    obtain ⟨⟨p, fs⟩, hmem, rfl⟩ := List.mem_map.mp hp
    obtain ⟨⟨p', fs'⟩, hmem', heq⟩ := List.mem_map.mp hp'
    obtain ⟨ns, _, hdown, _⟩ := (Tree.mem_folders_iff ht _).mp hmem
    obtain ⟨n, t', ns', hentry, _, hdown', _⟩ := (Entries.mem_folders_iff hrest _).mp hmem'
    have hpaths : q.down (n :: ns') = q.down (name :: ns) := by
      rw [← hdown', ← Path.child_down, ← hdown]
      exact heq
    obtain ⟨rfl, _⟩ := List.cons.inj (q.down_injective hpaths)
    exact hname (List.mem_map_of_mem hentry)

end

end Folders

/-! ### Files with an extension -/

namespace Index

/-- A dot with something behind it that holds no dot, no slash and no wildcard. -/
def IsExtension (key : List Char) : Prop :=
  ∃ cs, key = '.' :: cs ∧ cs ≠ [] ∧ ∀ c ∈ cs, c ∉ ['.', '/', '*', '?', '[']

instance : DecidablePred IsExtension
  | [] => isFalse (by rintro ⟨cs, hcs, _⟩; cases hcs)
  | c :: cs => decidable_of_iff
      (c = '.' ∧ cs ≠ [] ∧ (cs.all fun d => decide (d ∉ ['.', '/', '*', '?', '['])) = true)
      (by simp [IsExtension])

/-- The search for files whose names end in an extension. -/
def endingIn (key : List Char) : PathPattern :=
  ⟨[.name (.star :: key.map fun c => .one (· == c))], false⟩

section Extensions

variable {key key' name : List Char}

lemma IsExtension.not_mem (h : IsExtension key) : '/' ∉ key ∧ '*' ∉ key ∧ '?' ∉ key ∧ '[' ∉ key := by
  obtain ⟨cs, rfl, _, hcs⟩ := h
  have hnot : ∀ c ∈ ['.', '/', '*', '?', '['], c ∉ cs := fun c hc hmem => hcs c hmem hc
  simp [hnot]

lemma fileWildcardsFrom_plain {cs : List Char} {n : Nat} (hn : cs.length ≤ n)
    (hstar : '*' ∉ cs) (hmark : '?' ∉ cs) (hbracket : '[' ∉ cs) :
    fileWildcardsFrom n cs = cs.map fun c => .one (· == c) := by
  induction cs generalizing n with
  | nil => cases n <;> rfl
  | cons c cs ih =>
    rw [List.mem_cons, not_or] at hstar hmark hbracket
    match n with
    | n + 1 =>
      rw [fileWildcardsFrom, if_neg (Ne.symm hstar.1), if_neg (Ne.symm hmark.1),
        if_neg (Ne.symm hbracket.1), ih (by simpa using hn) hstar.2 hmark.2 hbracket.2]
      rfl

/-- An extension is looked for as it is written. -/
lemma extensionPattern_eq (h : IsExtension key) : extensionPattern key = .ok (endingIn key) := by
  obtain ⟨hslash, hstar, hmark, hbracket⟩ := h.not_mem
  obtain ⟨cs, rfl, _, _⟩ := h
  have hpieces : pieces '/' ('*' :: '.' :: cs) = ['*' :: '.' :: cs] :=
    pieces_of_not_mem (by simpa using hslash)
  have hstars : contains ['*', '*'] ('*' :: '.' :: cs) = false := by
    rw [Bool.eq_false_iff, Ne, contains_eq_true_iff, List.infix_cons_iff]
    rintro (hfront | hlater)
    · obtain ⟨_, hdot⟩ := List.cons_prefix_cons.mp hfront
      cases (List.cons_prefix_cons.mp hdot).1
    · exact hstar (hlater.subset (by simp))
  have hlast : ('.' :: cs).getLast? ≠ some '/' := fun hslash' =>
    hslash (List.mem_of_getLast? hslash')
  have hwild : fileWildcards ('*' :: '.' :: cs) =
      .star :: ('.' :: cs).map fun c => .one (· == c) := by
    rw [fileWildcards, List.length_cons, fileWildcardsFrom, if_pos rfl,
      fileWildcardsFrom_plain (Nat.le_succ _) hstar hmark hbracket]
  simp [extensionPattern, PathPattern.ofChars, hpieces, PathPart.ofChars?, hstars, hwild, endingIn,
    hlast]

lemma matches_literal_iff {cs ds : List Char} :
    Matches (cs.map fun c => .one (· == c)) ds ↔ ds = cs := by
  induction cs generalizing ds with
  | nil =>
    constructor
    · rintro ⟨⟩
      rfl
    · rintro rfl
      exact .nil
  | cons c cs ih =>
    constructor
    · intro h
      rw [List.map_cons] at h
      obtain _ | ⟨hc, hrest⟩ := h
      rw [ih.mp hrest, beq_iff_eq.mp hc]
    · rintro rfl
      exact .one (beq_self_eq_true c) (ih.mpr rfl)

lemma matchesWildcards_endingIn_iff :
    matchesWildcards (.star :: key.map fun c => .one (· == c)) name = true ↔ key <:+ name := by
  rw [matchesWildcards_iff]
  constructor
  · intro h
    obtain _ | _ | ⟨front, hrest⟩ := h
    rw [matches_literal_iff.mp hrest]
    exact List.suffix_append _ _
  · rintro ⟨front, rfl⟩
    exact .star front (matches_literal_iff.mpr rfl)

/-- A name ends in one extension only. -/
lemma IsExtension.eq_of_suffix (h : IsExtension key) (h' : IsExtension key') (hkey : key <:+ name)
    (hkey' : key' <:+ name) : key = key' := by
  -- The longer of two would have the dot of the shorter one inside.
  have hnot : ∀ {k k' : List Char}, IsExtension k → IsExtension k' → k <:+ k' → k = k' := by
    rintro k k' ⟨cs, rfl, _, _⟩ ⟨cs', rfl, _, hplain⟩ hsuffix
    rcases List.suffix_cons_iff.mp hsuffix with heq | hinside
    · exact heq
    · exact absurd List.mem_cons_self (hplain '.' (hinside.subset List.mem_cons_self))
  rcases List.suffix_or_suffix_of_suffix hkey hkey' with hsuffix | hsuffix
  · exact hnot h h' hsuffix
  · exact (hnot h' h hsuffix).symm

end Extensions

end Index

/-- The files that end in an extension, folder by folder. -/
lemma Tree.filesLike_endingIn (key : List Char) (q : Path) (t : Tree) :
    t.filesLike (Index.endingIn key) q = (t.folders q).flatMap fun f =>
      (f.2.toList.filter fun e =>
        matchesWildcards (.star :: key.map fun c => .one (· == c)) e.1 && e.2.isFile).map
        fun e => f.1.child e.1 := by
  have hselect : ∀ f : Path × Entries, Tree.select (Index.endingIn key).parts f.1 (.folder f.2) =
      (f.2.toList.filter fun e =>
        matchesWildcards (.star :: key.map fun c => .one (· == c)) e.1).map
        fun e => (f.1.child e.1, e.2) := by
    intro f
    simp [Index.endingIn, Tree.select, Tree.entries, ← List.map_eq_flatMap]
  have hparts : (Index.endingIn key).parts.any PathPart.isFolders = false := rfl
  simp only [Tree.filesLike, Tree.select, hselect, hparts, Bool.false_eq_true, if_false]
  rw [List.filter_flatMap, List.map_flatMap]
  simp only [List.filter_map, List.map_map, List.filter_filter, Function.comp_def]
  simp only [Bool.and_comm]
  rfl

section Files

variable {t : Tree} {key : List Char}

/-- A folder and the name of an entry, or all names at once. -/
lemma Tree.follow_concat_iff (h : t.Proper) {ns : List (List Char)} {n : List Char}
    (hup : n ≠ ['.', '.']) {t' : Tree} :
    t.follow [] (ns ++ [n]) = some t' ↔
      ∃ es, t.follow [] ns = some (.folder es) ∧ (n, t') ∈ es.toList := by
  rw [Tree.follow_append (by simpa using hup.symm), Option.bind_eq_some_iff]
  constructor
  · rintro ⟨u, hfolder, hlast⟩
    match u with
    | .file b => cases hlast
    | .folder es =>
      have hes : es.Proper := h.follow (fun _ ha => by cases ha) hfolder
      obtain ⟨t'', hmem, heq⟩ := (Tree.follow_cons_iff hes hup List.not_mem_nil).mp hlast
      cases heq
      exact ⟨es, hfolder, hmem⟩
  · rintro ⟨es, hfolder, hmem⟩
    have hes : es.Proper := h.follow (fun _ ha => by cases ha) hfolder
    exact ⟨_, hfolder, (Tree.follow_cons_iff hes hup List.not_mem_nil).mpr ⟨t', hmem, rfl⟩⟩

/-- They are the files that names lead to, the last of which ends in the extension. -/
lemma Tree.mem_filesLike_iff (h : t.Proper) {p : Path} :
    p ∈ t.filesLike (Index.endingIn key) .here ↔
      ∃ ns n b, ['.', '.'] ∉ ns ++ [n] ∧ p = ⟨[], ns ++ [n]⟩ ∧ key <:+ n ∧
        t.follow [] (ns ++ [n]) = some (.file b) := by
  rw [Tree.filesLike_endingIn, List.mem_flatMap]
  constructor
  · rintro ⟨⟨q, es⟩, hfolder, hp⟩
    obtain ⟨⟨n, t'⟩, hentry, rfl⟩ := List.mem_map.mp hp
    obtain ⟨hmem, hfits⟩ := List.mem_filter.mp hentry
    obtain ⟨hkey, hfile⟩ := Bool.and_eq_true_iff.mp hfits
    obtain ⟨ns, hns, rfl, hfollow⟩ := (Tree.mem_folders_iff h .here).mp hfolder
    have hes : es.Proper := h.follow (fun _ ha => by cases ha) hfollow
    have hup := (hes.of_mem hmem).1
    match t' with
    | .file b =>
      refine ⟨ns, n, b, by simp [hns, hup.symm], rfl, ?_, ?_⟩
      · exact Index.matchesWildcards_endingIn_iff.mp hkey
      · exact (Tree.follow_concat_iff h hup).mpr ⟨es, hfollow, hmem⟩
  · rintro ⟨ns, n, b, hns, rfl, hkey, hfollow⟩
    obtain ⟨hns, hup⟩ := not_or.mp (mt List.mem_append.mpr hns)
    obtain ⟨es, hfolder, hmem⟩ :=
      (Tree.follow_concat_iff h fun heq => hup (heq ▸ List.mem_singleton_self _)).mp hfollow
    refine ⟨(Path.here.down ns, es), (Tree.mem_folders_iff h .here).mpr ⟨ns, hns, rfl, hfolder⟩, ?_⟩
    refine List.mem_map.mpr ⟨(n, .file b), List.mem_filter.mpr ⟨hmem, ?_⟩, rfl⟩
    rw [Index.matchesWildcards_endingIn_iff.mpr hkey]
    rfl

lemma Tree.nodup_filesLike (h : t.Proper) : (t.filesLike (Index.endingIn key) .here).Nodup := by
  rw [Tree.filesLike_endingIn, List.nodup_flatMap]
  constructor
  · -- In a folder names are distinct.
    rintro ⟨q, es⟩ hfolder
    obtain ⟨ns, _, _, hfollow⟩ := (Tree.mem_folders_iff h .here).mp hfolder
    have hes : es.Proper := h.follow (fun _ ha => by cases ha) hfollow
    have hpaths : ((es.toList.map Prod.fst).map q.child).Nodup :=
      hes.nodup.map fun n m heq => (Path.child_inj heq).2
    rw [List.map_map] at hpaths
    exact hpaths.sublist (List.filter_sublist.map _)
  · -- Files in different folders have different paths.
    refine (List.pairwise_map.mp (Tree.nodup_folders h .here)).imp ?_
    intro f f' hne p hp hp'
    obtain ⟨e, _, rfl⟩ := List.mem_map.mp hp
    obtain ⟨e', _, heq⟩ := List.mem_map.mp hp'
    exact hne (Path.child_inj heq).1.symm

end Files

/-! ### Discovery -/

namespace Path

/-- A path leads from a place to something below it. -/
def Below (R p : Path) : Prop :=
  ∃ names, names ≠ [] ∧ ['.', '.'] ∉ names ∧ p = R.under ⟨[], names⟩

end Path

/-- A path below a place is looked up from there. -/
lemma Disk.get?_under {d : Disk} {R : Path} {names : List (List Char)} (h : ['.', '.'] ∉ names) :
    d.get? (R.under ⟨[], names⟩) = (d.get? R).bind fun t => t.follow [] names := by
  have hparts : (d.cwd.append (R.under ⟨[], names⟩)).parts = (d.cwd.append R).parts ++ names := by
    by_cases hR : R.root = [] <;> simp [Path.append, Path.under, Path.isAbsolute, hR]
  rw [Disk.get?, Tree.get?, hparts]
  exact Tree.follow_append h _ _ _

lemma Disk.isFile_under_iff {d : Disk} {R : Path} {names : List (List Char)}
    (h : ['.', '.'] ∉ names) :
    d.isFile (R.under ⟨[], names⟩) = true ↔
      ∃ t b, d.get? R = some t ∧ t.follow [] names = some (.file b) := by
  rw [Disk.isFile, Disk.get?_under h]
  cases hR : d.get? R with
  | none => simp
  | some t =>
    rw [Option.bind_some]
    cases hnames : t.follow [] names with
    | none => simp [hnames]
    | some t' => cases t' <;> simp [Tree.isFile, hnames]

namespace Index

/-- A table of extensions, none of them twice. -/
structure IsTable (table : List (String × String)) : Prop where
  nodup : (table.map fun x => x.1).Nodup
  extensions : ∀ x ∈ table, IsExtension x.1.toList

namespace Engine

variable {e : Engine} {R q : Path}

lemma candidates_eq_ok (htable : IsTable e.surroundings.extensions) (R : Path) :
    candidates e R = .ok ((e.surroundings.extensions.map fun x => x.1.toList).flatMap fun key =>
      (e.disk.get? R).toList.flatMap (Tree.filesLike (endingIn key) .here)) := by
  have hread : ∀ table : List (String × String), (∀ x ∈ table, IsExtension x.1.toList) →
      (table.map fun x => x.1.toList).mapM extensionPattern =
        .ok ((table.map fun x => x.1.toList).map endingIn) := by
    intro table h
    induction table with
    | nil => rfl
    | cons x table ih =>
      obtain ⟨hx, htable⟩ := List.forall_mem_cons.mp h
      rw [List.map_cons, List.mapM_cons, extensionPattern_eq hx, ih htable]
      rfl
  rw [candidates, hread _ htable.extensions]
  simp only [Except.map, List.flatMap_map]

/-- The files below a place whose names end in an extension. -/
lemma mem_filesLike_disk_iff (hdisk : e.disk.root.Proper) {key : List Char} :
    q ∈ (e.disk.get? R).toList.flatMap (Tree.filesLike (endingIn key) .here) ↔
      (∃ names, names ≠ [] ∧ ['.', '.'] ∉ names ∧ q = ⟨[], names⟩) ∧
      e.disk.isFile (R.under q) = true ∧ key <:+ (R.under q).name := by
  have hname : ∀ (ns : List (List Char)) n, (R.under ⟨[], ns ++ [n]⟩).name = n := by
    simp [Path.under, Path.name]
  have hproper : ∀ t, e.disk.get? R = some t → t.Proper := fun t ht =>
    hdisk.follow (fun _ ha => by cases ha) ht
  simp only [List.mem_flatMap, Option.mem_toList]
  constructor
  · rintro ⟨t, ht, hq⟩
    obtain ⟨ns, n, b, hns, rfl, hkey, hfollow⟩ := (Tree.mem_filesLike_iff (hproper t ht)).mp hq
    refine ⟨⟨ns ++ [n], by simp, hns, rfl⟩, (Disk.isFile_under_iff hns).mpr ⟨t, b, ht, hfollow⟩, ?_⟩
    rw [hname]
    exact hkey
  · rintro ⟨⟨names, hne, hnames, rfl⟩, hfile, hkey⟩
    obtain ⟨t, b, ht, hfollow⟩ := (Disk.isFile_under_iff hnames).mp hfile
    obtain ⟨ns, n, rfl⟩ := (List.eq_nil_or_concat' names).resolve_left hne
    rw [hname] at hkey
    exact ⟨t, ht, (Tree.mem_filesLike_iff (hproper t ht)).mpr ⟨ns, n, b, hnames, rfl, hkey, hfollow⟩⟩

lemma nodup_candidates (hdisk : e.disk.root.Proper) (htable : IsTable e.surroundings.extensions)
    {qs : List Path} (hqs : candidates e R = .ok qs) : qs.Nodup := by
  rw [candidates_eq_ok htable] at hqs
  cases hqs
  rw [List.nodup_flatMap]
  constructor
  · intro key _
    cases hR : e.disk.get? R with
    | none => exact List.nodup_nil
    | some t =>
      have ht : t.Proper := hdisk.follow (fun _ ha => by cases ha) hR
      simpa using Tree.nodup_filesLike ht
  · -- A file that two extensions find ends in both of them.
    have hkeys : (e.surroundings.extensions.map fun x => x.1.toList).Nodup := by
      have htexts := htable.nodup.map fun (s s' : String) (h : s.toList = s'.toList) =>
        String.toList_injective h
      rwa [List.map_map] at htexts
    have hextension : ∀ key ∈ e.surroundings.extensions.map fun x => x.1.toList, IsExtension key := by
      intro key hkey
      obtain ⟨x, hx, rfl⟩ := List.mem_map.mp hkey
      exact htable.extensions x hx
    refine List.Pairwise.imp_of_mem ?_ hkeys
    intro key key' hkey hkey' hne q hq hq'
    obtain ⟨_, _, hends⟩ := (mem_filesLike_disk_iff hdisk).mp hq
    obtain ⟨_, _, hends'⟩ := (mem_filesLike_disk_iff hdisk).mp hq'
    exact hne ((hextension key hkey).eq_of_suffix (hextension key' hkey') hends hends')

/-- What discovery looks at, for all extensions together. -/
lemma mem_candidates_iff (hdisk : e.disk.root.Proper) (htable : IsTable e.surroundings.extensions)
    {qs : List Path} (hqs : candidates e R = .ok qs) :
    q ∈ qs ↔ (∃ names, names ≠ [] ∧ ['.', '.'] ∉ names ∧ q = ⟨[], names⟩) ∧
      e.disk.isFile (R.under q) = true ∧
      ∃ x ∈ e.surroundings.extensions, x.1.toList <:+ (R.under q).name := by
  rw [candidates_eq_ok htable] at hqs
  cases hqs
  simp only [List.mem_flatMap (l := List.map _ _), List.mem_map, mem_filesLike_disk_iff hdisk]
  constructor
  · rintro ⟨_, ⟨x, hx, rfl⟩, hplace, hfile, hends⟩
    exact ⟨hplace, hfile, x, hx, hends⟩
  · rintro ⟨hplace, hfile, x, hx, hends⟩
    exact ⟨_, ⟨x, hx, rfl⟩, hplace, hfile, hends⟩

end Engine

lemma isExcluded_eq_false_iff {patterns : List String} {p : Path} :
    isExcluded (patterns.map String.toList) p = false ↔
      ∀ x ∈ patterns ++ ["__pycache__", ".git", "venv", "node_modules"],
        ¬ x.toList <:+: p.chars := by
  rw [isExcluded, commonExclusions, ← List.map_append, List.any_eq_false]
  simp only [List.forall_mem_map, contains_eq_true_iff]

/-- The built-in tables list extensions. For every such table and every place on a disk, discovery lists
without repetition the files below the place whose names end in an extension, and whose paths contain
neither a pattern nor one of the four names that are never wanted. With more patterns some of them are
left out, and nothing else changes. -/
theorem discovery_lists_each_file_once :
    IsTable builtinExtensions ∧ IsTable Settings.defaultExtensions ∧
    ∀ (e : Engine) (R : Path) (patterns : List String), e.disk.root.Proper →
      IsTable e.surroundings.extensions →
      ∃ files, Engine.discoverFiles R patterns e = .ok files ∧ files.Nodup ∧
        (∀ p, p ∈ files ↔ R.Below p ∧ e.disk.isFile p = true ∧
          (∃ x ∈ e.surroundings.extensions, x.1.toList <:+ p.name) ∧
          ∀ x ∈ patterns ++ ["__pycache__", ".git", "venv", "node_modules"],
            ¬ x.toList <:+: p.chars) ∧
        ∀ more, patterns ⊆ more →
          ∃ fewer, Engine.discoverFiles R more e = .ok fewer ∧ fewer.Sublist files := by
  refine ⟨⟨by decide +kernel, by decide +kernel⟩, ⟨by decide +kernel, by decide +kernel⟩, ?_⟩
  intro e R patterns hdisk htable
  obtain ⟨qs, hqs⟩ : ∃ qs, Engine.candidates e R = .ok qs := ⟨_, Engine.candidates_eq_ok htable R⟩
  have hfiles : ∀ patterns, Engine.discoverFiles R patterns e = .ok
      ((qs.filter fun q => !isExcluded (patterns.map String.toList) (R.under q)).map R.under) := by
    intro patterns
    rw [Engine.discoverFiles_eq, hqs]
    rfl
  refine ⟨_, hfiles patterns, ?_, fun p => ?_, fun more hmore => ⟨_, hfiles more, ?_⟩⟩
  · exact ((Engine.nodup_candidates hdisk htable hqs).filter _).map R.under_injective
  · simp only [List.mem_map, List.mem_filter, Engine.mem_candidates_iff hdisk htable hqs,
      Bool.not_eq_true', isExcluded_eq_false_iff]
    constructor
    · rintro ⟨q, ⟨⟨⟨names, hne, hnames, rfl⟩, hfile, hends⟩, hexcluded⟩, rfl⟩
      exact ⟨⟨names, hne, hnames, rfl⟩, hfile, hends, hexcluded⟩
    · rintro ⟨⟨names, hne, hnames, rfl⟩, hfile, hends, hexcluded⟩
      exact ⟨⟨[], names⟩, ⟨⟨⟨names, hne, hnames, rfl⟩, hfile, hends⟩, hexcluded⟩, rfl⟩
  · -- What more patterns let through, fewer patterns let through as well.
    refine (List.monotone_filter_right qs fun q hq => ?_).map R.under
    rw [Bool.not_eq_true', isExcluded_eq_false_iff] at hq ⊢
    intro x hx
    refine hq x ?_
    rcases List.mem_append.mp hx with hx | hx
    · exact List.mem_append_left _ (hmore hx)
    · exact List.mem_append_right _ hx

/-- A file whose name holds two extensions, next to a folder with such a name and a file in it, and to a
folder that is never wanted. -/
def twoEndings : Engine where
  surroundings := { extensions := [(".c", "c"), (".cc", "cpp")] }
  disk := ⟨.folder (.cons ['w'] (.folder (.cons ['a', '.', 'c', '.', 'c', 'c'] (.file [])
    (.cons ['b', '.', 'c'] (.folder (.cons ['.', 'c'] (.file []) .nil))
    (.cons ['v', 'e', 'n', 'v'] (.folder (.cons ['d', '.', 'c'] (.file []) .nil)) .nil)))) .nil),
    ⟨['/'], [['w']]⟩⟩

theorem twoEndings_listed : twoEndings.disk.root.Proper ∧ IsTable twoEndings.surroundings.extensions ∧
    ∃ files, Engine.discoverFiles (.ofString ".") ["zz"] twoEndings = .ok files ∧ files.Nodup ∧
      (⟨[], [['a', '.', 'c', '.', 'c', 'c']]⟩ : Path) ∈ files ∧
      (⟨[], [['b', '.', 'c'], ['.', 'c']]⟩ : Path) ∈ files ∧
      (⟨[], [['b', '.', 'c']]⟩ : Path) ∉ files ∧
      twoEndings.disk.isFile ⟨[], [['v', 'e', 'n', 'v'], ['d', '.', 'c']]⟩ = true ∧
      (⟨[], [['v', 'e', 'n', 'v'], ['d', '.', 'c']]⟩ : Path) ∉ files := by
  have hproper : twoEndings.disk.root.Proper := by
    simp [twoEndings, Tree.Proper, Entries.Proper, Entries.toList]
  have htable : IsTable twoEndings.surroundings.extensions := ⟨by decide +kernel, by decide +kernel⟩
  have hbelow : ∀ names, names ≠ [] → ['.', '.'] ∉ names →
      (Path.ofString ".").Below ⟨[], names⟩ := by
    intro names hne hup
    have hplace : Path.ofString "." = ⟨[], []⟩ := by decide +kernel
    exact ⟨names, hne, hup, by rw [hplace]; rfl⟩
  obtain ⟨files, hfiles, hnodup, hmem, _⟩ := discovery_lists_each_file_once.2.2 twoEndings
    (.ofString ".") ["zz"] hproper htable
  refine ⟨hproper, htable, files, hfiles, hnodup, (hmem _).mpr ?_, (hmem _).mpr ?_, fun h => ?_,
    by decide +kernel, fun h => ?_⟩
  · refine ⟨hbelow _ (by decide) (by decide), by decide +kernel, ?_, by decide +kernel⟩
    exact ⟨(".cc", "cpp"), by decide, by decide +kernel⟩
  · refine ⟨hbelow _ (by decide) (by decide), by decide +kernel, ?_, by decide +kernel⟩
    exact ⟨(".c", "c"), by decide, by decide +kernel⟩
  · -- A folder is no file, whatever its name.
    exact absurd ((hmem _).mp h).2.1 (by decide +kernel)
  · exact ((hmem _).mp h).2.2.2 "venv" (by decide) (by decide +kernel)

end Index

end CodeAtlas
