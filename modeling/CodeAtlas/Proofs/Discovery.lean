import CodeAtlas.Index.Engine
import Mathlib.Data.List.Infix
import Mathlib.Tactic

/-!
# Discovery in different places

Walking through a tree of files does not depend on where the tree is: every step commutes with putting a
place in front of a path (`Path.under`). Leaving files out does depend on it, because a pattern is looked
for in the whole path. It may be found in the place alone, or partly in the place and partly behind it.
-/

namespace CodeAtlas

open CodeAtlas.Text

/-! ### Paths below a place -/

namespace Path

variable {R q : Path}

/-- A path seen from outside a place. -/
def under (R q : Path) : Path :=
  ⟨R.root ++ q.root, R.parts ++ q.parts⟩

/-- The path that leads nowhere else. -/
def here : Path := ⟨[], []⟩

@[simp] lemma under_here (R : Path) : R.under here = R := by
  simp [under, here]

@[simp] lemma under_child (R q : Path) (n : List Char) : (R.under q).child n = R.under (q.child n) := by
  simp [under, child]

lemma under_injective (R : Path) : Function.Injective R.under := by
  intro p q h
  obtain ⟨hroot, hparts⟩ := Path.mk.inj h
  calc p = ⟨p.root, p.parts⟩ := rfl
    _ = ⟨q.root, q.parts⟩ := by
      rw [List.append_cancel_left hroot, List.append_cancel_left hparts]
    _ = q := rfl

lemma relativeTo?_under (hq : q.root = []) : (R.under q).relativeTo? R = some q := by
  have hprefix : R.parts.isPrefixOf (R.parts ++ q.parts) = true :=
    List.isPrefixOf_iff_prefix.mpr (List.prefix_append _ _)
  cases q
  subst hq
  simp [relativeTo?, under, hprefix]

/-- A path as it is read from a text: its root is made of slashes, and no name is empty. -/
structure IsRead (R : Path) : Prop where
  slashes : ∀ c ∈ R.root, c = '/'
  names : ∀ n ∈ R.parts, n ≠ []

lemma isRead_ofString (s : String) : (ofString s).IsRead where
  slashes := by
    unfold ofString ofChars
    dsimp only
    split
    · simp
    · split <;> simp
  names := by
    intro n hn
    have hkept := (List.mem_filter.mp hn).2
    simp only [Bool.and_eq_true, Bool.not_eq_true', List.isEmpty_eq_false_iff] at hkept
    exact hkept.1

end Path

/-! ### The walk through a tree -/

mutual

theorem Tree.folders_under (R q : Path) (t : Tree) :
    t.folders (R.under q) = (t.folders q).map fun f => (R.under f.1, f.2) := by
  match t with
  | .file _ => simp [Tree.folders]
  | .folder es => simp [Tree.folders, Entries.folders_under R q es]

theorem Entries.folders_under (R q : Path) (es : Entries) :
    es.folders (R.under q) = (es.folders q).map fun f => (R.under f.1, f.2) := by
  match es with
  | .nil => simp [Entries.folders]
  | .cons n t rest =>
    simp [Entries.folders, Tree.folders_under R (q.child n) t, Entries.folders_under R q rest]

end

lemma distinctFindings_under (R : Path) (fs : List (Path × Tree)) :
    distinctFindings (fs.map fun f => (R.under f.1, f.2)) =
      (distinctFindings fs).map fun f => (R.under f.1, f.2) := by
  induction fs with
  | nil => rfl
  | cons f fs ih =>
    simp only [List.map_cons, distinctFindings, ih, List.filter_map]
    congr 3
    funext g
    simp [bne, (R.under_injective).eq_iff, beq_eq_decide]

theorem Tree.select_under (R q : Path) (parts : List PathPart) (t : Tree) :
    t.select parts (R.under q) = (t.select parts q).map fun f => (R.under f.1, f.2) := by
  induction parts generalizing q t with
  | nil => simp [Tree.select]
  | cons part parts ih =>
    match part with
    | .name pattern => simp [Tree.select, ih, List.map_flatMap]
    | .folders =>
      simp only [Tree.select, Tree.folders_under, List.flatMap_map, ih]
      split
      · rw [← List.map_flatMap, distinctFindings_under]
      · rw [List.map_flatMap]

lemma Tree.filesLike_under (R : Path) (p : PathPattern) (t : Tree) :
    t.filesLike p R = (t.filesLike p .here).map R.under := by
  unfold Tree.filesLike
  split
  · rfl
  · nth_rewrite 1 [← R.under_here]
    rw [Tree.select_under, List.filter_map, List.map_map, List.map_map]
    rfl

/-! ### What is found on the way -/

section Closed

variable {P : Path → Prop}

mutual

/-- What holds of a path and is passed on to those below it holds of all that is found there. -/
theorem Tree.folders_closed (hchild : ∀ p n, P p → P (p.child n)) (t : Tree) {q : Path} (hq : P q) :
    ∀ f ∈ t.folders q, P f.1 := by
  match t with
  | .file _ => simp [Tree.folders]
  | .folder es =>
    simp only [Tree.folders, List.forall_mem_cons]
    exact ⟨hq, Entries.folders_closed hchild es hq⟩

theorem Entries.folders_closed (hchild : ∀ p n, P p → P (p.child n)) (es : Entries) {q : Path}
    (hq : P q) : ∀ f ∈ es.folders q, P f.1 := by
  match es with
  | .nil => simp [Entries.folders]
  | .cons n t rest =>
    simp only [Entries.folders, List.forall_mem_append]
    exact ⟨Tree.folders_closed hchild t (hchild q n hq), Entries.folders_closed hchild rest hq⟩

end

lemma mem_of_mem_distinctFindings {fs : List (Path × Tree)} {f : Path × Tree}
    (h : f ∈ distinctFindings fs) : f ∈ fs := by
  induction fs with
  | nil => exact h
  | cons g fs ih =>
    rcases List.mem_cons.mp h with rfl | h
    · exact List.mem_cons_self
    · exact List.mem_cons_of_mem _ (ih (List.mem_of_mem_filter h))

/-- One step of the walk: into an entry of a folder, or to a folder inside it. -/
lemma Tree.mem_select_cons {part : PathPart} {parts : List PathPart} {q : Path} {t : Tree}
    {f : Path × Tree} (h : f ∈ t.select (part :: parts) q) :
    (∃ n t', f ∈ Tree.select parts (q.child n) t') ∨
      ∃ g ∈ t.folders q, f ∈ Tree.select parts g.1 (.folder g.2) := by
  match part with
  | .name pattern =>
    obtain ⟨entry, _, hf⟩ := List.mem_flatMap.mp h
    exact Or.inl ⟨entry.1, entry.2, hf⟩
  | .folders =>
    right
    simp only [Tree.select] at h
    split at h
    · exact List.mem_flatMap.mp (mem_of_mem_distinctFindings h)
    · exact List.mem_flatMap.mp h

theorem Tree.select_closed (hchild : ∀ p n, P p → P (p.child n)) (parts : List PathPart) (t : Tree)
    {q : Path} (hq : P q) : ∀ f ∈ t.select parts q, P f.1 := by
  induction parts generalizing q t with
  | nil =>
    intro f hf
    rw [List.mem_singleton.mp hf]
    exact hq
  | cons part parts ih =>
    intro f hf
    rcases Tree.mem_select_cons hf with ⟨n, t', hf⟩ | ⟨g, hg, hf⟩
    · exact ih t' (hchild q n hq) f hf
    · exact ih _ (Tree.folders_closed hchild t hq g hg) f hf

end Closed

/-- A file has a name below the folder where the walk begins. -/
lemma Tree.parts_ne_nil_of_select {parts : List PathPart} {q : Path} {es : Entries}
    {f : Path × Tree} (h : f ∈ Tree.select parts q (.folder es)) (hfile : f.2.isFile = true) :
    f.1.parts ≠ [] := by
  induction parts generalizing q es with
  | nil =>
    rw [List.mem_singleton.mp h] at hfile
    cases hfile
  | cons part parts ih =>
    rcases Tree.mem_select_cons h with ⟨n, t', h⟩ | ⟨g, _, h⟩
    · exact Tree.select_closed (P := fun p => p.parts ≠ []) (fun _ _ _ => by simp [Path.child])
        parts t' (by simp [Path.child]) f h
    · exact ih h

lemma Tree.mem_filesLike {p : PathPattern} {t : Tree} {q : Path} (h : q ∈ t.filesLike p .here) :
    q.root = [] ∧ q.parts ≠ [] := by
  unfold Tree.filesLike at h
  split at h
  · cases h
  · obtain ⟨f, hf, rfl⟩ := List.mem_map.mp h
    obtain ⟨hf, hfile⟩ := List.mem_filter.mp hf
    refine ⟨Tree.select_closed (P := fun p => p.root = []) (fun _ _ h => h) _ t rfl f hf, ?_⟩
    match t with
    | .file _ => simp [Tree.select, Tree.folders, distinctFindings] at hf
    | .folder es => exact Tree.parts_ne_nil_of_select hf hfile

/-! ### Where a pattern occurs -/

lemma Text.contains_eq_true_iff {p cs : List Char} : contains p cs = true ↔ p <:+: cs := by
  induction cs with
  | nil => simp [contains]
  | cons c cs ih =>
    rw [contains, Bool.or_eq_true, List.isPrefixOf_iff_prefix, ih, List.infix_cons_iff]

lemma Text.join_append {sep : List Char} {ps qs : List (List Char)} (hps : ps ≠ []) (hqs : qs ≠ []) :
    join sep (ps ++ qs) = join sep ps ++ sep ++ join sep qs := by
  unfold join
  induction ps with
  | nil => exact absurd rfl hps
  | cons p ps ih =>
    match ps, qs with
    | [], q :: qs => simp [List.intercalate_cons_cons]
    | p' :: ps, qs =>
      have hrest := ih (List.cons_ne_nil _ _)
      rw [List.cons_append, List.cons_append, List.intercalate_cons_cons, ← List.cons_append, hrest,
        List.intercalate_cons_cons]
      simp

namespace Path

variable {R q : Path} {p : List Char}

/-- What is written before the names of a file in a place. -/
def front (R : Path) : List Char :=
  if R.parts = [] then R.root else R.root ++ join ['/'] R.parts ++ ['/']

/-- The names of a path as a text. -/
def names (q : Path) : List Char :=
  join ['/'] q.parts

/-- A text occurs in a path so that it begins in the place and is not over when the place is. -/
def Straddles (p : List Char) (R q : Path) : Prop :=
  ∃ b c, p = b ++ c ∧ b ≠ [] ∧ b <:+ R.front ∧ c <+: q.names

lemma chars_under (hq : q.root = []) (hparts : q.parts ≠ []) :
    (R.under q).chars = R.front ++ q.names ∨
      R = here ∧ q.names = [] ∧ (R.under q).chars = ['.'] := by
  have hbody : (R.under q).root ++ join ['/'] (R.under q).parts = R.front ++ q.names := by
    unfold under front names
    simp only [hq, List.append_nil]
    split
    · rename_i hR
      rw [hR, List.nil_append]
    · rename_i hR
      rw [join_append hR hparts]
      simp
  unfold chars
  simp only [hbody]
  split
  · rename_i hempty
    obtain ⟨hfront, hnames⟩ := List.append_eq_nil_iff.mp (List.isEmpty_iff.mp hempty)
    right
    refine ⟨?_, hnames, rfl⟩
    unfold front at hfront
    split at hfront
    · rename_i hR
      cases R
      simp_all [here]
    · simp at hfront
  · exact Or.inl rfl

/-- The text of a place, and what stands before the names of a file in it. -/
lemma front_cases (hR : R.IsRead) :
    R = here ∨ R.parts = [] ∧ R.front = R.chars ∧ R.front = R.root ∨ R.front = R.chars ++ ['/'] := by
  by_cases hparts : R.parts = []
  · by_cases hroot : R.root = []
    · left
      cases R
      simp_all [here]
    · right
      left
      simp [front, chars, hparts, hroot, join]
  · right
    right
    have hbody : R.root ++ join ['/'] R.parts ≠ [] := by
      obtain ⟨n, ns, hns⟩ := List.exists_cons_of_ne_nil hparts
      have hn := hR.names n (hns ▸ List.mem_cons_self)
      rw [hns]
      match ns with
      | [] => simp [join, hn]
      | n' :: ns => simp [join, List.intercalate_cons_cons]
    simp [front, chars, hparts, hbody]

/-- What occurs before the names occurs in the path of the place, or reaches the separator. -/
lemma infix_front_cases (hR : R.IsRead) (hp : p ≠ []) (h : p <:+: R.front) :
    p <:+: R.chars ∨ Straddles p R q := by
  rcases front_cases hR with rfl | ⟨_, hchars, _⟩ | hfront
  · exact absurd (List.infix_nil.mp h) hp
  · exact Or.inl (hchars ▸ h)
  · rw [hfront, List.infix_concat_iff] at h
    rcases h with hend | hinside
    · exact Or.inr ⟨p, [], by simp, hp, hfront ▸ hend, List.nil_prefix⟩
    · exact Or.inl hinside

lemma infix_front_of_chars (hR : R.IsRead) (hhere : R ≠ here) (h : p <:+: R.chars) :
    p <:+: R.front := by
  rcases front_cases hR with rfl | ⟨_, hchars, _⟩ | hfront
  · exact absurd rfl hhere
  · exact hchars ▸ h
  · exact hfront ▸ h.trans (List.prefix_append _ _).isInfix

lemma not_straddles_here (p : List Char) (q : Path) : ¬ Straddles p here q := by
  rintro ⟨b, c, _, hb, hsuffix, _⟩
  exact hb (List.suffix_nil.mp hsuffix)

/-- Where a pattern is found in the path of a file: in the place, across its end, or behind it. The dot
that stands for no path at all must not be taken for a name. -/
theorem contains_under_iff (hR : R.IsRead) (hq : q.root = []) (hparts : q.parts ≠ [])
    (hdot : R = here → contains p ['.'] = false) :
    contains p (R.under q).chars = true ↔
      contains p R.chars = true ∨ Straddles p R q ∨ contains p q.names = true := by
  by_cases hp : p = []
  · have hall : ∀ cs : List Char, contains p cs = true :=
      fun cs => contains_eq_true_iff.mpr (hp ▸ List.nil_infix)
    simp [hall]
  have hno : R = here → ¬ p <:+: R.chars := by
    rintro rfl h
    exact Bool.false_ne_true ((hdot rfl).symm.trans (contains_eq_true_iff.mpr h))
  simp only [contains_eq_true_iff]
  rcases chars_under (R := R) hq hparts with hchars | ⟨rfl, hnames, hchars⟩
  · rw [hchars, List.infix_append_iff]
    constructor
    · rintro (hfront | hnames | ⟨b, c, rfl, hb, hc⟩)
      · exact (infix_front_cases hR hp hfront).imp_right Or.inl
      · exact Or.inr (Or.inr hnames)
      · by_cases hb' : b = []
        · subst hb'
          exact Or.inr (Or.inr hc.isInfix)
        · exact Or.inr (Or.inl ⟨b, c, rfl, hb', hb, hc⟩)
    · rintro (hplace | ⟨b, c, hbc, _, hb, hc⟩ | hnames)
      · exact Or.inl (infix_front_of_chars hR (fun h => hno h hplace) hplace)
      · exact Or.inr (Or.inr ⟨b, c, hbc, hb, hc⟩)
      · exact Or.inr (Or.inl hnames)
  · -- Nothing is written but the dot.
    have hplace : here.chars = ['.'] := rfl
    rw [hchars, ← hplace, hnames]
    simp [hno rfl, not_straddles_here, hp]

/-- The place ends with a slash, so only a pattern with a slash can reach beyond it. -/
lemma not_straddles (hR : R.IsRead) (hp : '/' ∉ p) : ¬ Straddles p R q := by
  rintro ⟨b, c, rfl, hb, hsuffix, _⟩
  refine hp (List.mem_append_left _ ?_)
  rcases front_cases hR with rfl | ⟨_, _, hroot⟩ | hfront
  · exact absurd (List.suffix_nil.mp hsuffix) hb
  · obtain ⟨ch, hch⟩ := List.exists_mem_of_ne_nil b hb
    rw [hroot] at hsuffix
    exact hR.slashes ch (hsuffix.subset hch) ▸ hch
  · rw [hfront, List.suffix_concat_iff] at hsuffix
    rcases hsuffix with hnil | ⟨front, rfl, _⟩
    · exact absurd hnil hb
    · exact List.mem_append_right _ List.mem_cons_self

end Path

/-! ### Exclusion -/

namespace Index

variable {R q : Path} {patterns : List (List Char)}

/-- The place decides that a file is left out. -/
def PlaceExcludes (patterns : List (List Char)) (R q : Path) : Prop :=
  ∃ p ∈ patterns ++ commonExclusions, contains p R.chars = true ∨ Path.Straddles p R q

/-- The names of a file below its place decide that it is left out. -/
def NamesExclude (patterns : List (List Char)) (q : Path) : Prop :=
  ∃ p ∈ patterns ++ commonExclusions, contains p q.names = true

lemma isExcluded_under_iff (hR : R.IsRead) (hq : q.root = []) (hparts : q.parts ≠ [])
    (hpatterns : ∀ p ∈ patterns, contains p R.chars = false) :
    isExcluded patterns (R.under q) = true ↔ PlaceExcludes patterns R q ∨ NamesExclude patterns q := by
  have hdot : ∀ p ∈ patterns ++ commonExclusions, R = .here → contains p ['.'] = false := by
    rintro p hp rfl
    rcases List.mem_append.mp hp with hp | hp
    · exact hpatterns p hp
    · have hcommon : commonExclusions.all fun x => !contains x ['.'] := by decide +kernel
      simpa using List.all_eq_true.mp hcommon p hp
  have hiff : ∀ p ∈ patterns ++ commonExclusions, contains p (R.under q).chars = true ↔ _ :=
    fun p hp => Path.contains_under_iff hR hq hparts (hdot p hp)
  unfold isExcluded PlaceExcludes NamesExclude
  rw [List.any_eq_true]
  constructor
  · rintro ⟨p, hp, h⟩
    rcases (hiff p hp).mp h with h | h | h
    · exact Or.inl ⟨p, hp, Or.inl h⟩
    · exact Or.inl ⟨p, hp, Or.inr h⟩
    · exact Or.inr ⟨p, hp, h⟩
  · rintro (⟨p, hp, h | h⟩ | ⟨p, hp, h⟩)
    · exact ⟨p, hp, (hiff p hp).mpr (Or.inl h)⟩
    · exact ⟨p, hp, (hiff p hp).mpr (Or.inr (Or.inl h))⟩
    · exact ⟨p, hp, (hiff p hp).mpr (Or.inr (Or.inr h))⟩

/-- Two places agree on a file if its names decide, or if both decide the same. -/
lemma isExcluded_agree_iff {R' : Path} (hR : R.IsRead) (hR' : R'.IsRead) (hq : q.root = [])
    (hparts : q.parts ≠ []) (hpatterns : ∀ p ∈ patterns, contains p R.chars = false)
    (hpatterns' : ∀ p ∈ patterns, contains p R'.chars = false) :
    isExcluded patterns (R'.under q) = isExcluded patterns (R.under q) ↔
      (¬ NamesExclude patterns q →
        (PlaceExcludes patterns R' q ↔ PlaceExcludes patterns R q)) := by
  rw [Bool.eq_iff_iff, isExcluded_under_iff hR' hq hparts hpatterns',
    isExcluded_under_iff hR hq hparts hpatterns]
  by_cases hnames : NamesExclude patterns q <;> simp [hnames]

/-- A place without excluded parts decides nothing, unless a pattern has a slash. -/
lemma not_placeExcludes (hR : R.IsRead) (hslash : ∀ p ∈ patterns, '/' ∉ p)
    (hplace : ∀ p ∈ patterns ++ commonExclusions, contains p R.chars = false) :
    ¬ PlaceExcludes patterns R q := by
  rintro ⟨p, hp, h | h⟩
  · rw [hplace p hp] at h
    cases h
  · refine Path.not_straddles hR ?_ h
    rcases List.mem_append.mp hp with hp | hp
    · exact hslash p hp
    · have hcommon : commonExclusions.all fun x => !x.contains '/' := by decide +kernel
      simpa using List.all_eq_true.mp hcommon p hp

/-! ### Discovery -/

namespace Engine

variable {e e' : Engine} {patterns : List String}

/-- The files below a place that discovery looks at, as seen from there. -/
def candidates (e : Engine) (R : Path) : Except Failure (List Path) :=
  ((e.surroundings.extensions.map (·.1.toList)).mapM extensionPattern).map fun wanted =>
    wanted.flatMap fun p => (e.disk.get? R).toList.flatMap (Tree.filesLike p .here)

/-- The files that are discovered, as seen from the place. -/
def relativeFiles (e : Engine) (R : Path) (patterns : List String) :
    Except Failure (List (Option Path)) :=
  (discoverFiles R patterns e).map fun files => files.map (·.relativeTo? R)

lemma mem_candidates {qs : List Path} (h : candidates e R = .ok qs) (hq : q ∈ qs) :
    q.root = [] ∧ q.parts ≠ [] := by
  unfold candidates at h
  match hwanted : (e.surroundings.extensions.map (·.1.toList)).mapM extensionPattern with
  | .error f =>
    rw [hwanted] at h
    cases h
  | .ok wanted =>
    rw [hwanted] at h
    cases h
    obtain ⟨p, _, hq⟩ := List.mem_flatMap.mp hq
    obtain ⟨t, _, hq⟩ := List.mem_flatMap.mp hq
    exact Tree.mem_filesLike hq

/-- Discovery looks at the same files everywhere, and leaves some of them out. -/
lemma discoverFiles_eq (e : Engine) (R : Path) (patterns : List String) :
    discoverFiles R patterns e = (candidates e R).map fun qs =>
      (qs.filter fun q => !isExcluded (patterns.map String.toList) (R.under q)).map R.under := by
  have hlike : ∀ p, Tree.filesLike p R = fun t => (Tree.filesLike p .here t).map R.under :=
    fun p => funext (Tree.filesLike_under R p)
  unfold discoverFiles discover candidates
  generalize (e.surroundings.extensions.map (·.1.toList)).mapM extensionPattern = wanted
  match wanted with
  | .error f => rfl
  | .ok wanted =>
    simp only [bind, Except.bind, Except.map, pure, Except.pure, hlike, Except.ok.injEq]
    simp only [List.filter_flatMap, List.map_flatMap, List.filter_map, Function.comp_def]

lemma relativeFiles_eq (e : Engine) (R : Path) (patterns : List String) :
    relativeFiles e R patterns = (candidates e R).map fun qs =>
      (qs.filter fun q => !isExcluded (patterns.map String.toList) (R.under q)).map some := by
  rw [relativeFiles, discoverFiles_eq]
  match hqs : candidates e R with
  | .error f => rfl
  | .ok qs =>
    simp only [Except.map, List.map_map, Except.ok.injEq]
    refine List.map_congr_left fun q hq => ?_
    exact Path.relativeTo?_under (mem_candidates hqs (List.mem_of_mem_filter hq)).1

/-- Two ways to leave files out give the same list exactly if they agree on every file. -/
lemma filter_eq_filter_iff {α : Type} {f g : α → Bool} {l : List α} :
    l.filter f = l.filter g ↔ ∀ a ∈ l, f a = g a := by
  refine ⟨fun h a ha => ?_, List.filter_congr⟩
  have hmem : a ∈ l.filter f ↔ a ∈ l.filter g := by rw [h]
  simp only [List.mem_filter, ha, true_and] at hmem
  exact Bool.eq_iff_iff.mpr hmem

section Moving

variable {R R' : Path}

/-- The same tree in two places. -/
lemma relativeFiles_eq_iff (hR : R.IsRead) (hR' : R'.IsRead)
    (hcandidates : candidates e' R' = candidates e R)
    (hpatterns : ∀ p ∈ patterns.map String.toList, contains p R.chars = false)
    (hpatterns' : ∀ p ∈ patterns.map String.toList, contains p R'.chars = false) :
    relativeFiles e' R' patterns = relativeFiles e R patterns ↔
      ∀ qs, candidates e R = .ok qs → ∀ q ∈ qs, ¬ NamesExclude (patterns.map String.toList) q →
        (PlaceExcludes (patterns.map String.toList) R' q ↔
          PlaceExcludes (patterns.map String.toList) R q) := by
  rw [relativeFiles_eq, relativeFiles_eq, hcandidates]
  match hqs : candidates e R with
  | .error f => simp [Except.map]
  | .ok qs =>
    have hagree : ∀ q ∈ qs, isExcluded (patterns.map String.toList) (R'.under q) =
        isExcluded (patterns.map String.toList) (R.under q) ↔ _ := fun q hq =>
      have hq' := mem_candidates hqs hq
      isExcluded_agree_iff hR hR' hq'.1 hq'.2 hpatterns hpatterns'
    simp only [Except.map, Except.ok.injEq, forall_eq',
      (List.map_injective_iff.mpr (Option.some_injective Path)).eq_iff, filter_eq_filter_iff,
      Bool.not_inj_iff]
    exact forall₂_congr hagree

/-- A place with a common exclusion in its path leaves all its files out. -/
lemma discoverFiles_eq_nil (hR : R.IsRead)
    (hpatterns : ∀ p ∈ patterns.map String.toList, contains p R.chars = false) {x : List Char}
    (hx : x ∈ commonExclusions) (hplace : contains x R.chars = true) {files : List Path}
    (h : discoverFiles R patterns e = .ok files) : files = [] := by
  rw [discoverFiles_eq] at h
  match hqs : candidates e R with
  | .error f =>
    rw [hqs] at h
    cases h
  | .ok qs =>
    rw [hqs] at h
    cases h
    rw [List.map_eq_nil_iff, List.filter_eq_nil_iff]
    intro q hq
    obtain ⟨hroot, hparts⟩ := mem_candidates hqs hq
    have hexcluded := (isExcluded_under_iff hR hroot hparts hpatterns).mpr
      (Or.inl ⟨x, List.mem_append_right _ hx, Or.inl hplace⟩)
    simp [hexcluded]

end Moving

/-- The same tree in two places, in whose paths no pattern occurs; its folders list their entries in the
same order in both. The same files are discovered exactly if the places agree on every file that is not
left out for its own names. That is so if no pattern has a slash and the places have no common exclusion
in their paths. Where a place has one, nothing is discovered. -/
theorem discovery_moves_iff {s s' : String}
    (hextensions : e'.surroundings.extensions = e.surroundings.extensions)
    (htree : e'.disk.get? (.ofString s') = e.disk.get? (.ofString s))
    (hpatterns : ∀ p ∈ patterns.map String.toList, contains p (Path.ofString s).chars = false)
    (hpatterns' : ∀ p ∈ patterns.map String.toList, contains p (Path.ofString s').chars = false) :
    (relativeFiles e' (.ofString s') patterns = relativeFiles e (.ofString s) patterns ↔
      ∀ qs, candidates e (.ofString s) = .ok qs → ∀ q ∈ qs,
        ¬ NamesExclude (patterns.map String.toList) q →
        (PlaceExcludes (patterns.map String.toList) (.ofString s') q ↔
          PlaceExcludes (patterns.map String.toList) (.ofString s) q)) ∧
    ((∀ p ∈ patterns.map String.toList, '/' ∉ p) →
      (∀ x ∈ commonExclusions, contains x (Path.ofString s).chars = false ∧
        contains x (Path.ofString s').chars = false) →
      relativeFiles e' (.ofString s') patterns = relativeFiles e (.ofString s) patterns) ∧
    ∀ x ∈ commonExclusions, contains x (Path.ofString s).chars = true →
      ∀ files, discoverFiles (.ofString s) patterns e = .ok files → files = [] := by
  have hcandidates : candidates e' (.ofString s') = candidates e (.ofString s) := by
    rw [candidates, candidates, hextensions, htree]
  have hiff := relativeFiles_eq_iff (Path.isRead_ofString s) (Path.isRead_ofString s') hcandidates
    hpatterns hpatterns'
  refine ⟨hiff, fun hslash hcommon => hiff.mpr fun _ _ q _ _ => ?_, fun x hx hplace files hfiles => ?_⟩
  · have hnone := not_placeExcludes (q := q) (Path.isRead_ofString s) hslash
      (List.forall_mem_append.mpr ⟨hpatterns, fun x hx => (hcommon x hx).1⟩)
    have hnone' := not_placeExcludes (q := q) (Path.isRead_ofString s') hslash
      (List.forall_mem_append.mpr ⟨hpatterns', fun x hx => (hcommon x hx).2⟩)
    exact iff_of_false hnone' hnone
  · exact discoverFiles_eq_nil (Path.isRead_ofString s) hpatterns hx hplace hfiles

/-- Three copies of a folder with one file. -/
def copies : Engine where
  surroundings := { extensions := [(".txt", "text")] }
  disk :=
    let copy : Tree := .folder (.cons "a.txt".toList (.file [104]) .nil)
    ⟨.folder (.cons ['w'] (.folder (.cons ['p'] copy (.cons ['q'] copy (.cons "venvs".toList copy .nil))))
      .nil), ⟨['/'], [['w']]⟩⟩

lemma copies_alike : copies.disk.get? (.ofString "q") = copies.disk.get? (.ofString "p") ∧
    copies.disk.get? (.ofString "p") = copies.disk.get? (.ofString "venvs") := by
  have hp : Path.ofString "p" = ⟨[], [['p']]⟩ := by decide +kernel
  have hq : Path.ofString "q" = ⟨[], [['q']]⟩ := by decide +kernel
  have hvenvs : Path.ofString "venvs" = ⟨[], ["venvs".toList]⟩ := by decide +kernel
  rw [hp, hq, hvenvs]
  exact ⟨rfl, by simp [copies, Disk.get?, Path.append, Path.isAbsolute, Tree.get?, Tree.follow,
    Entries.find?]⟩

theorem copies_discovered :
    relativeFiles copies (.ofString "q") ["zz"] = relativeFiles copies (.ofString "p") ["zz"] ∧
    ∀ files, discoverFiles (.ofString "venvs") ["zz"] copies = .ok files → files = [] := by
  have hplace : ∀ s ∈ ["p", "q", "venvs"], ∀ x ∈ ["zz"].map String.toList,
      contains x (Path.ofString s).chars = false := by
    decide +kernel
  have hcommon : ∀ x ∈ commonExclusions, contains x (Path.ofString "p").chars = false ∧
      contains x (Path.ofString "q").chars = false := by
    decide +kernel
  obtain ⟨_, hmoved, _⟩ := discovery_moves_iff (e := copies) rfl copies_alike.1
    (hplace "p" (by decide)) (hplace "q" (by decide))
  obtain ⟨_, _, hnothing⟩ := discovery_moves_iff (e := copies) rfl copies_alike.2
    (hplace "venvs" (by decide)) (hplace "p" (by decide))
  exact ⟨hmoved (by decide +kernel) hcommon,
    hnothing "venv".toList (by decide +kernel) (by decide +kernel)⟩

/-- The copies are discovered differently, for an exclusion in the path of one, and for a pattern that
occurs in the path of none. -/
theorem copies_differ :
    relativeFiles copies (.ofString "p") [] = .ok [some (.ofString "a.txt")] ∧
    relativeFiles copies (.ofString "venvs") [] = .ok [] ∧
    contains "p/a".toList (Path.ofString "p").chars = false ∧
    contains "p/a".toList (Path.ofString "q").chars = false ∧
    relativeFiles copies (.ofString "p") ["p/a"] = .ok [] ∧
    relativeFiles copies (.ofString "q") ["p/a"] = .ok [some (.ofString "a.txt")] := by
  decide +kernel

end Engine

end Index

end CodeAtlas
