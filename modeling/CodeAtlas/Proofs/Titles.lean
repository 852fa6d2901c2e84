import CodeAtlas.Proofs.Outline
import CodeAtlas.Proofs.Replacing
import CodeAtlas.Proofs.Sections

/-!
# The title of a heading

A marked heading can be read in several ways. The signs and the blanks in front are taken as far as they
go, over the ends of lines too. The title is taken as short as it can be, so that number signs that close
the heading do not belong to it.

It follows what the first heading of a document is called: its title is that of the first line in which
something follows the signs.
-/

namespace CodeAtlas.Text.Pattern

/-! ### Long and short runs -/

section

variable {α : Type} {p : Char → Bool} {least : Nat} {most : Option Nat} {front text rest cs : List Char}

/-- A run goes as far as it can, if what follows accepts that. -/
lemma runOver_of_longest (next : Place → Option α)
    (h : Reads (.run false least most p) front text rest []) (hstop : ∀ c ∈ rest.head?, p c = false)
    (hnext : (next (.between (front ++ text) rest)).isSome = true) :
    runOver false p next least most front.getLast? front.length (text ++ rest) =
      next (.between (front ++ text) rest) := by
  obtain ⟨⟨htext, hleast, hmost⟩, _⟩ := h
  induction text generalizing front least most with
  | nil =>
    have hzero : least = 0 := by simpa using hleast
    rw [List.append_nil, List.nil_append, Place.between]
    cases rest with
    | nil => rw [runOver, if_pos hzero]
    | cons c rest =>
      have hc : p c = false := hstop c rfl
      simp [runOver_cons, hc, hzero]
  | cons c text ih =>
    rw [List.forall_mem_cons] at htext
    have hgoes : ¬ (most = some 0 || !p c) = true := by
      have hzero : most ≠ some 0 := by
        intro hzero
        simpa using hmost 0 hzero
      simp [hzero, htext.1]
    have hmore : runOver false p next (least - 1) (most.map (· - 1)) (front ++ [c]).getLast?
        (front ++ [c]).length (text ++ rest) = next (.between (front ++ [c] ++ text) rest) := by
      apply ih
      · simpa using hnext
      · exact htext.2
      · rw [List.length_cons] at hleast
        omega
      · intro n hn
        obtain ⟨m, hm, rfl⟩ := Option.mem_map.mp hn
        have hle := hmost m hm
        rw [List.length_cons] at hle
        omega
    rw [List.getLast?_append_of_ne_nil _ (by simp), List.getLast?_singleton, List.length_append,
      List.length_singleton, List.append_assoc, List.singleton_append] at hmore
    rw [List.cons_append, runOver_cons]
    dsimp only
    rw [if_neg hgoes, if_neg Bool.false_ne_true, hmore]
    exact Option.or_of_isSome hnext

lemma matching_seq_run {next : Place → Groups → Option α} {q : Pattern} {g : Groups}
    (h : Reads (.run false least most p) front text rest []) (hstop : ∀ c ∈ rest.head?, p c = false)
    (hnext : (q.matching (.between (front ++ text) rest) g next).isSome = true) :
    (seq (run false least most p) q).matching (.between front (text ++ rest)) g next =
      q.matching (.between (front ++ text) rest) g next :=
  runOver_of_longest (fun s => q.matching s g next) h hstop hnext

lemma matching_seq_group {next : Place → Groups → Option α} {q : Pattern} {n : Nat} {g : Groups}
    (h : Reads (.run false least most p) front text rest []) (hstop : ∀ c ∈ rest.head?, p c = false)
    (hnext : (q.matching (.between (front ++ text) rest)
      (⟨n, text ++ rest, text.length⟩ :: g) next).isSome = true) :
    (seq (group n (run false least most p)) q).matching (.between front (text ++ rest)) g next =
      q.matching (.between (front ++ text) rest) (⟨n, text ++ rest, text.length⟩ :: g) next := by
  have hlength : (Place.between (front ++ text) rest).offset -
      (Place.between front (text ++ rest)).offset = text.length := by
    simp [Place.between]
  rw [← hlength] at hnext ⊢
  exact runOver_of_longest (fun s => q.matching s (⟨n, text ++ rest,
    s.offset - (Place.between front (text ++ rest)).offset⟩ :: g) next) h hstop hnext

/-- How far a reluctant run goes: what follows accepts the text, and nothing shorter. -/
structure IsShortest (p : Char → Bool) (next : Place → Option α) (least : Nat)
    (front text rest : List Char) (r : α) : Prop where
  all_text : ∀ c ∈ text, p c = true
  least_le : least ≤ text.length
  accepted : next (.between (front ++ text) rest) = some r
  refused : ∀ a b, text = a ++ b → b ≠ [] → least ≤ a.length →
    next (.between (front ++ a) (b ++ rest)) = none

lemma isShortest_nil {next : Place → Option α} {r : α} (hleast : least = 0)
    (hnext : next (.between front cs) = some r) : IsShortest p next least front [] cs r := by
  constructor
  · exact List.forall_mem_nil _
  · simp [hleast]
  · simpa using hnext
  · intro a b hab hb
    exact absurd (List.append_eq_nil_iff.mp hab.symm).2 hb

lemma IsShortest.cons {next : Place → Option α} {r : α} {c : Char}
    (h : IsShortest p next (least - 1) (front ++ [c]) text rest r) (hc : p c = true)
    (hrefused : least = 0 → next (.between front (c :: (text ++ rest))) = none) :
    IsShortest p next least front (c :: text) rest r := by
  constructor
  · exact List.forall_mem_cons.mpr ⟨hc, h.all_text⟩
  · have hle := h.least_le
    rw [List.length_cons]
    omega
  · simpa using h.accepted
  · intro a b hab hb hleast
    cases a with
    | nil =>
      obtain rfl : c :: text = b := hab
      simpa using hrefused (Nat.le_zero.mp hleast)
    | cons d a =>
      obtain ⟨rfl, htext⟩ := List.cons.inj hab
      rw [List.length_cons] at hleast
      simpa using h.refused a b htext hb (by omega)

/-- A reluctant run goes no further than it has to. -/
lemma exists_isShortest {next : Place → Option α} {r : α}
    (h : runOver true p next least most front.getLast? front.length cs = some r) :
    ∃ text rest, cs = text ++ rest ∧ IsShortest p next least front text rest r := by
  induction cs generalizing front least most with
  | nil =>
    rw [runOver] at h
    split at h
    · exact ⟨[], [], rfl, isShortest_nil ‹_› h⟩
    · cases h
  | cons c cs ih =>
    have hstop : (if least = 0 then next ⟨front.getLast?, front.length, c :: cs⟩ else none) = some r →
        ∃ text rest, c :: cs = text ++ rest ∧ IsShortest p next least front text rest r := by
      intro hsome
      split at hsome
      · exact ⟨[], c :: cs, rfl, isShortest_nil ‹_› hsome⟩
      · cases hsome
    rw [runOver_cons] at h
    dsimp only at h
    split at h
    · exact hstop h
    · rename_i hgoes
      rw [if_pos rfl, Option.or_eq_some_iff] at h
      rcases h with hsome | ⟨hnone, hmore⟩
      · exact hstop hsome
      · rw [show some c = (front ++ [c]).getLast? by simp,
          show front.length + 1 = (front ++ [c]).length by simp] at hmore
        obtain ⟨text, rest, rfl, hshortest⟩ := ih hmore
        refine ⟨c :: text, rest, rfl, hshortest.cons ?_ ?_⟩
        · simp_all
        · intro hleast
          rwa [if_pos hleast] at hnone

end

/-- The first match is found where the text begins, if there is one there. -/
lemma exists_matchesIn_cons {p : Pattern} {cs : List Char} {m : Match} {s : Place}
    (h : p.matchAt? (.between [] cs) = some (m, s)) : ∃ ms, p.matchesIn cs = m :: ms := by
  have hsearch : p.searchFrom? none 0 cs = some (m, s) := by
    have hfound := searchFrom?_of_matchAt? h
    exact hfound
  rw [matchesIn, matchesFrom, Place.start]
  simp only [hsearch]
  split
  · exact ⟨_, rfl⟩
  · split
    · exact ⟨_, rfl⟩
    · exact ⟨_, rfl⟩

end CodeAtlas.Text.Pattern

namespace CodeAtlas.Outline

open CodeAtlas.Text CodeAtlas.Text.Pattern

/-! ### Titles that are read -/

lemma inLine_of_solid {c : Char} (h : isBlank c = false) : inLine c = true := by
  rw [inLine, bne_iff_ne]
  rintro rfl
  exact absurd h (by decide)

lemma isNumberSign_of_isBlank {c : Char} (h : isBlank c = true) : isNumberSign c = false := by
  rw [isNumberSign, beq_eq_false_iff_ne]
  rintro rfl
  exact absurd h (by decide)

/-- What may close a heading, and the end of the line. -/
def closingPattern : Pattern :=
  all [opt (all [blanks, many1 isNumberSign, blanks]), lineEnd]

/-- The title of a marked heading, and all that follows. -/
def titlePattern : Pattern :=
  seq (group 2 (few1 inLine)) closingPattern

variable {α : Type} {signs blank after : List Char}

/-- What closes a heading: number signs with blanks around them, or nothing. -/
def Closing (text : List Char) : Prop :=
  text = [] ∨ ∃ left signs right, text = left ++ (signs ++ right) ∧ signs ≠ [] ∧
    (∀ c ∈ left, isBlank c = true) ∧ (∀ c ∈ signs, isNumberSign c = true) ∧
      ∀ c ∈ right, isBlank c = true

lemma reads_closing_iff {front text rest : List Char} {gs : Groups} :
    closingPattern.Reads front text rest gs ↔ Closing text ∧ AtLineEnd rest ∧ gs = [] := by
  constructor
  · rintro ⟨_, _, _, _, rfl, rfl, hopt, hend, rfl, rfl⟩
    rw [List.append_nil]
    rcases hopt with ⟨left, _, _, _, rfl, rfl, ⟨⟨hleft, _⟩, rfl⟩, signs, right, _, _, rfl, rfl,
      ⟨⟨hsigns, hne, _⟩, rfl⟩, ⟨⟨hright, _⟩, rfl⟩⟩ | ⟨rfl, rfl⟩
    · exact ⟨Or.inr ⟨left, signs, right, rfl, List.length_pos_iff.mp hne, hleft, hsigns, hright⟩, hend,
        rfl⟩
    · exact ⟨Or.inl rfl, hend, rfl⟩
  · rintro ⟨hclosing, hend, rfl⟩
    refine ⟨text, [], [], [], by simp, rfl, ?_, hend, rfl, rfl⟩
    rcases hclosing with rfl | ⟨left, signs, right, rfl, hne, hleft, hsigns, hright⟩
    · exact Or.inr ⟨rfl, rfl⟩
    · exact Or.inl ⟨left, signs ++ right, [], [], rfl, rfl, ⟨⟨hleft, by simp, by simp⟩, rfl⟩, signs, right,
        [], [], rfl, rfl, ⟨⟨hsigns, List.length_pos_iff.mpr hne, by simp⟩, rfl⟩,
        ⟨⟨hright, by simp, by simp⟩, rfl⟩⟩

/-- A heading can be closed where this text begins. -/
def Closes (cs : List Char) : Prop :=
  ∃ closing rest, cs = closing ++ rest ∧ Closing closing ∧ AtLineEnd rest

/-- The title at the beginning of a text: it goes up to the first place where the heading can be closed. -/
structure IsTitle (title rest : List Char) : Prop where
  ne_nil : title ≠ []
  all_inLine : ∀ c ∈ title, inLine c = true
  closes : Closes rest
  not_closes : ∀ a b, title = a ++ b → a ≠ [] → b ≠ [] → ¬ Closes (b ++ rest)

/-- Signs and blanks are taken as far as they go. -/
lemma matching_marked {next : Place → Groups → Option α} (hsigns : ∀ c ∈ signs, isNumberSign c = true)
    (hlevel : 1 ≤ signs.length ∧ signs.length ≤ 6) (hblank : ∀ c ∈ blank, isBlank c = true)
    (hne : blank ≠ []) (hafter : ∀ c ∈ after.head?, isBlank c = false)
    (hsome : (titlePattern.matching (.between (signs ++ blank) after)
      [⟨1, signs ++ (blank ++ after), signs.length⟩] next).isSome = true) :
    markedPattern.matching (.between [] (signs ++ (blank ++ after))) [] next =
      titlePattern.matching (.between (signs ++ blank) after)
        [⟨1, signs ++ (blank ++ after), signs.length⟩] next := by
  have hpattern : markedPattern = seq lineStart (seq (group 1 (run false 1 (some 6) isNumberSign))
      (seq blanks1 titlePattern)) := rfl
  have hsignsRun : Reads (.run false 1 (some 6) isNumberSign) [] signs (blank ++ after) [] :=
    ⟨⟨hsigns, hlevel.1, by simp [hlevel.2]⟩, rfl⟩
  have hblankRun : Reads (.run false 1 none isBlank) signs blank after [] :=
    ⟨⟨hblank, List.length_pos_iff.mpr hne, by simp⟩, rfl⟩
  have hstop : ∀ c ∈ (blank ++ after).head?, isNumberSign c = false := by
    obtain ⟨b, bs, rfl⟩ := List.exists_cons_of_ne_nil hne
    intro c hc
    obtain rfl : b = c := Option.some.inj hc
    exact isNumberSign_of_isBlank (hblank b List.mem_cons_self)
  have hblanks : (seq blanks1 titlePattern).matching (.between signs (blank ++ after))
      [⟨1, signs ++ (blank ++ after), signs.length⟩] next =
      titlePattern.matching (.between (signs ++ blank) after)
        [⟨1, signs ++ (blank ++ after), signs.length⟩] next :=
    matching_seq_run hblankRun hafter hsome
  rw [← hblanks] at hsome
  rw [hpattern, matching, matching, if_pos (by rfl), matching_seq_group hsignsRun hstop hsome]
  exact hblanks

/-- Titles are taken as short as possible. -/
lemma matching_title {front : List Char} {g : Groups} {next : Place → Groups → Option α} {r : α}
    (hnext : ∀ s g, (next s g).isSome = true)
    (h : titlePattern.matching (.between front after) g next = some r) :
    ∃ title closing rest, after = title ++ (closing ++ rest) ∧ IsTitle title (closing ++ rest) ∧
      next (.between (front ++ title ++ closing) rest) (⟨2, after, title.length⟩ :: g) = some r := by
  have hrun : runOver true inLine (fun s => closingPattern.matching s
      (⟨2, after, s.offset - front.length⟩ :: g) next) 1 none front.getLast? front.length after =
      some r := h
  obtain ⟨title, rest, rfl, hshortest⟩ := exists_isShortest hrun
  obtain ⟨closing, rest, gs, rfl, hreads, hsome⟩ := reads_of_matching hshortest.accepted
  obtain ⟨hclosing, hend, rfl⟩ := reads_closing_iff.mp hreads
  refine ⟨title, closing, rest, rfl, ⟨?_, hshortest.all_text, ⟨closing, rest, rfl, hclosing, hend⟩, ?_⟩, ?_⟩
  · exact List.length_pos_iff.mp hshortest.least_le
  · rintro a b rfl ha hb ⟨closing', rest', hcut, hclosing', hend'⟩
    have hnone := hshortest.refused a b rfl hb (List.length_pos_iff.mpr ha)
    rw [hcut] at hnone
    have hreads' : closingPattern.Reads (front ++ a) closing' rest' [] :=
      reads_closing_iff.mpr ⟨hclosing', hend', rfl⟩
    exact Option.isSome_iff_ne_none.mp (isSome_matching hreads' (hnext _ _)) hnone
  · simpa [Place.between] using hsome

/-! ### Titles of lines -/

lemma exists_trimEndBy (p : Char → Bool) (cs : List Char) :
    ∃ tail, cs = trimEndBy p cs ++ tail ∧ ∀ c ∈ tail, p c = true :=
  ⟨cs.rtakeWhile p, List.rdropWhile_append_rtakeWhile.symm, fun _ => List.mem_rtakeWhile_imp⟩

lemma trimEndBy_prefix_of {p : Char → Bool} {cs a tail : List Char} (h : cs <+: a ++ tail)
    (htail : ∀ c ∈ tail, p c = true) : trimEndBy p cs <+: a := by
  obtain ⟨rest, hrest⟩ := h
  rcases List.append_eq_append_iff.mp hrest with ⟨b, rfl, _⟩ | ⟨b, rfl, rfl⟩
  · have hshort := List.rdropWhile_prefix p cs
    exact hshort.trans (List.prefix_append cs b)
  · have hb : ∀ c ∈ b.reverse, p c = true := by
      intro c hc
      exact htail c (List.mem_append_left rest (List.mem_reverse.mp hc))
    rw [trimEndBy, List.reverse_append, List.dropWhile_append_of_pos hb]
    exact List.rdropWhile_prefix p a

/-- A text without number signs that close it, and without blanks around them. -/
def withoutClosing (cs : List Char) : List Char :=
  trimEnd (trimEndBy isNumberSign (trimEnd cs))

lemma exists_withoutClosing (cs : List Char) :
    ∃ left signs right, cs = withoutClosing cs ++ (left ++ (signs ++ right)) ∧
      (∀ c ∈ left, isBlank c = true) ∧ (∀ c ∈ signs, isNumberSign c = true) ∧
        ∀ c ∈ right, isBlank c = true := by
  obtain ⟨right, hcs, hright⟩ := exists_trimEndBy isBlank cs
  obtain ⟨signs, hopen, hsigns⟩ := exists_trimEndBy isNumberSign (trimEnd cs)
  obtain ⟨left, hlast, hleft⟩ := exists_trimEndBy isBlank (trimEndBy isNumberSign (trimEnd cs))
  refine ⟨left, signs, right, ?_, hleft, hsigns, hright⟩
  calc
    cs = trimEnd cs ++ right := hcs
    _ = trimEndBy isNumberSign (trimEnd cs) ++ (signs ++ right) := by
      rw [← List.append_assoc, ← hopen]
    _ = withoutClosing cs ++ (left ++ (signs ++ right)) := by
      rw [← List.append_assoc (withoutClosing cs)]
      exact congrArg (· ++ (signs ++ right)) hlast

/-- It is a part of every text that becomes longer only by what closes a heading. -/
lemma withoutClosing_prefix_of {cs a closing : List Char} (h : cs <+: a ++ closing)
    (hclosing : Closing closing) : withoutClosing cs <+: a := by
  rcases hclosing with rfl | ⟨left, signs, right, rfl, _, hleft, hsigns, hright⟩
  · rw [List.append_nil] at h
    obtain ⟨_, _, _, hcs, _⟩ := exists_withoutClosing cs
    exact List.IsPrefix.trans ⟨_, hcs.symm⟩ h
  · rw [← List.append_assoc, ← List.append_assoc] at h
    exact trimEndBy_prefix_of (trimEndBy_prefix_of (trimEndBy_prefix_of h hright) hsigns) hleft

/-- The title in a line; its first character belongs to it in any case. -/
def titleOf : List Char → List Char
  | [] => []
  | c :: cs => c :: withoutClosing cs

lemma isBlank_of_getLast?_trimEnd {cs : List Char} {c : Char} (h : (trimEnd cs).getLast? = some c) :
    isBlank c = false := by
  have hne : trimEnd cs ≠ [] := by
    intro hnil
    rw [hnil] at h
    cases h
  obtain rfl : (trimEnd cs).getLast hne = c := by
    rw [List.getLast?_eq_some_getLast hne] at h
    exact Option.some.inj h
  exact Bool.eq_false_iff.mpr (List.rdropWhile_last_not isBlank cs hne)

lemma trim_cons_withoutClosing {c : Char} (hc : isBlank c = false) (cs : List Char) :
    trim (c :: withoutClosing cs) = c :: withoutClosing cs := by
  apply trim_eq_self
  · rintro d hd
    obtain rfl : c = d := Option.some.inj hd
    exact hc
  · intro d hd
    cases hopen : withoutClosing cs with
    | nil =>
      rw [hopen] at hd
      obtain rfl : c = d := Option.some.inj hd
      exact hc
    | cons e es =>
      rw [hopen, List.getLast?_cons_cons, ← hopen] at hd
      exact isBlank_of_getLast?_trimEnd hd

/-- What stands in a line does not go over its end. -/
lemma exists_of_atLineEnd {a rest line below : List Char} (h : a ++ rest = line ++ below)
    (ha : ∀ c ∈ a, inLine c = true) (hbelow : AtLineEnd below) :
    ∃ u, line = a ++ u ∧ rest = u ++ below := by
  cases below with
  | nil => exact ⟨rest, by simpa using h.symm, by simp⟩
  | cons d below =>
    obtain rfl := atLineEnd_cons_iff.mp hbelow
    exact exists_of_stop h ha (by decide)

/-- The title that is read in a line differs from the title of the line at most by blanks. -/
lemma IsTitle.trim_eq {title rest cs below : List Char} {c : Char} (h : IsTitle title rest)
    (hcut : title ++ rest = c :: (cs ++ below)) (hline : ∀ c ∈ cs, inLine c = true)
    (hbelow : AtLineEnd below) (hc : isBlank c = false) :
    trim title = titleOf (c :: cs) := by
  obtain ⟨_, a, rfl⟩ := List.exists_cons_of_ne_nil h.ne_nil
  obtain ⟨rfl, htail⟩ := List.cons.inj hcut
  obtain ⟨u, hcs, hrest⟩ := exists_of_atLineEnd htail
    (fun c hc => h.all_inLine c (List.mem_cons_of_mem _ hc)) hbelow
  -- The title of the line is a part of the title that is read, since the heading can be closed behind it.
  obtain ⟨y, rfl⟩ : withoutClosing cs <+: a := by
    obtain ⟨closing, rest', hclose, hclosing, hend⟩ := h.closes
    have hu : ∀ c ∈ u, inLine c = true := fun c hc => hline c (hcs ▸ List.mem_append_right a hc)
    obtain ⟨w, rfl, _⟩ := exists_of_atLineEnd (hrest.symm.trans hclose) hu hend
    exact withoutClosing_prefix_of ⟨w, by rw [hcs, List.append_assoc]⟩ hclosing
  obtain ⟨left, signs, right, hparts, hleft, hsigns, hright⟩ := exists_withoutClosing cs
  have hy : y ++ u = left ++ (signs ++ right) := by
    have hboth : withoutClosing cs ++ (y ++ u) = withoutClosing cs ++ (left ++ (signs ++ right)) := by
      rw [← List.append_assoc, ← hcs]
      exact hparts
    exact List.append_cancel_left hboth
  have hblank : ∀ c ∈ y, isBlank c = true := by
    by_cases hnone : signs = []
    · intro c hmem
      have hmem' : c ∈ left ++ right := by
        rw [hnone, List.nil_append] at hy
        exact hy ▸ List.mem_append_left u hmem
      exact (List.mem_append.mp hmem').elim (hleft c) (hright c)
    · -- The heading can be closed behind the title of the line.
      by_contra hsome
      have hne : y ≠ [] := by
        rintro rfl
        exact hsome (List.forall_mem_nil _)
      refine h.not_closes (_ :: withoutClosing cs) y rfl (List.cons_ne_nil _ _) hne ?_
      refine ⟨left ++ (signs ++ right), below, ?_, Or.inr ?_, hbelow⟩
      · rw [hrest, ← List.append_assoc, hy]
      · exact ⟨left, signs, right, rfl, hnone, hleft, hsigns, hright⟩
  rw [← List.cons_append, trim_append_of_blank hblank, trim_cons_withoutClosing hc, titleOf]

/-! ### The first heading of a document -/

/-- A document that begins with signs and blanks begins with a heading. Its title is that of the line in
which something else follows. -/
lemma exists_first_match {signs blank cs below : List Char} {c : Char}
    (hsigns : ∀ c ∈ signs, isNumberSign c = true) (hlevel : 1 ≤ signs.length ∧ signs.length ≤ 6)
    (hblank : ∀ c ∈ blank, isBlank c = true) (hne : blank ≠ []) (hc : isBlank c = false)
    (hline : ∀ c ∈ cs, inLine c = true) (hbelow : AtLineEnd below) :
    ∃ m ms, markedPattern.matchesIn (signs ++ (blank ++ c :: (cs ++ below))) = m :: ms ∧
      m.start = 0 ∧ m.group 1 = signs ∧ trim (m.group 2) = titleOf (c :: cs) := by
  have hwhole : titlePattern.Reads (signs ++ blank) (c :: cs) below
      ([] ++ [⟨2, c :: cs ++ ([] ++ below), (c :: cs).length⟩]) := by
    refine ⟨c :: cs, [], _, [], by simp, rfl, ⟨[], rfl, ⟨?_, by simp, by simp⟩, rfl⟩, ?_⟩
    · exact List.forall_mem_cons.mpr ⟨inLine_of_solid hc, hline⟩
    · exact reads_closing_iff.mpr ⟨Or.inl rfl, hbelow, rfl⟩
  have hread : (titlePattern.matching (.between (signs ++ blank) (c :: (cs ++ below)))
      [⟨1, signs ++ (blank ++ c :: (cs ++ below)), signs.length⟩]
      fun s g => some ((⟨0, s.offset, g⟩ : Match), s)).isSome = true :=
    isSome_matching hwhole rfl
  have hhead : ∀ d ∈ (c :: (cs ++ below)).head?, isBlank d = false := by
    intro d hd
    obtain rfl : c = d := Option.some.inj hd
    exact hc
  have hmatch := matching_marked hsigns hlevel hblank hne hhead hread
  obtain ⟨found, hfound⟩ := Option.isSome_iff_exists.mp hread
  obtain ⟨title, closing, rest, hcut, htitle, hsome⟩ := matching_title (fun _ _ => rfl) hfound
  obtain rfl := Option.some.inj hsome
  obtain ⟨ms, hmatches⟩ := exists_matchesIn_cons (hmatch.trans hfound)
  refine ⟨_, ms, hmatches, rfl, ?_, ?_⟩
  · simp [Match.group, Match.group?, GroupSpan.text]
  · have hgroup : (c :: (cs ++ below)).take title.length = title := by
      rw [hcut, List.take_left]
    rw [← htitle.trim_eq hcut.symm hline hbelow hc]
    simp [Match.group, Match.group?, GroupSpan.text, hgroup]

/-- What is first in the document and on its first line stays first. -/
lemma exists_sortedHeadings_cons {content : List Char} {h : Heading} {hs : List Heading}
    (hall : allHeadings content = h :: hs) (hline : h.line = 1) :
    ∃ hs', sortedHeadings content = h :: hs' := by
  have htrans : ∀ a b c : Heading, decide (a.line ≤ b.line) = true → decide (b.line ≤ c.line) = true →
      decide (a.line ≤ c.line) = true := by
    simp only [decide_eq_true_eq]
    intro a b c hab hbc
    exact hab.trans hbc
  have htotal : ∀ a b : Heading, (decide (a.line ≤ b.line) || decide (b.line ≤ a.line)) = true := by
    intro a b
    rw [Bool.or_eq_true, decide_eq_true_eq, decide_eq_true_eq]
    exact Nat.le_total _ _
  obtain ⟨before, later, hsorted, _, hbefore⟩ := List.mergeSort_cons htrans htotal h hs
  rw [sortedHeadings, hall, hsorted]
  cases before with
  | nil => exact ⟨later, rfl⟩
  | cons b before =>
    have hmem : b ∈ allHeadings content := by
      rw [hall, ← List.mem_mergeSort, hsorted]
      exact List.mem_cons_self
    have hlow := (line_of_mem_allHeadings hmem).1
    have hhigh := hbefore b List.mem_cons_self
    rw [Bool.not_eq_true', decide_eq_false_iff_not] at hhigh
    omega

/-- The kind, the name and the line of the first element of a document. -/
def firstElement (path : String) (content : List Char) : Option (String × String × Int) :=
  ((elements (some path) content).elements.map
    fun e => (e.kind.label, e.name, e.location.lineStart)).head?

/-- The first element of a document that begins with signs and blanks. -/
lemma firstElement_eq (path : String) {content signs blank cs below : List Char} {c : Char}
    (hcontent : withoutCode content = signs ++ (blank ++ c :: (cs ++ below)))
    (hsigns : ∀ c ∈ signs, isNumberSign c = true) (hlevel : 1 ≤ signs.length ∧ signs.length ≤ 6)
    (hblank : ∀ c ∈ blank, isBlank c = true) (hne : blank ≠ []) (hc : isBlank c = false)
    (hline : ∀ c ∈ cs, inLine c = true) (hbelow : AtLineEnd below) :
    firstElement path content =
      some (s!"h{signs.length}", String.ofList (cleanText (titleOf (c :: cs))), 1) := by
  obtain ⟨m, ms, hmatches, hstart, hone, htwo⟩ :=
    exists_first_match hsigns hlevel hblank hne hc hline hbelow
  obtain ⟨hs, hall⟩ : ∃ hs, allHeadings content =
      headingOf content .marked (m.group 1).length (m.group 2) m :: hs := by
    rw [allHeadings, hcontent, hmatches]
    exact ⟨_, rfl⟩
  have hfirst : (headingOf content .marked (m.group 1).length (m.group 2) m).line = 1 := by
    simp [headingOf, lineAt, hstart]
  obtain ⟨hs', hsorted⟩ := exists_sortedHeadings_cons hall hfirst
  rw [firstElement, map_elements, hsorted, List.map_cons, List.head?_cons, hfirst]
  simp only [headingOf, hone, htwo, label_headingKind hlevel.1 hlevel.2]
  rfl

lemma withoutClosing_concat {c : Char} (hc : isClosing c = false) (cs : List Char) :
    withoutClosing (cs ++ [c]) = cs ++ [c] := by
  rw [isClosing, Bool.or_eq_false_iff] at hc
  have hblank : trimEnd (cs ++ [c]) = cs ++ [c] := List.rdropWhile_concat_neg isBlank cs c (by simp [hc.1])
  have hsign : trimEndBy isNumberSign (cs ++ [c]) = cs ++ [c] :=
    List.rdropWhile_concat_neg isNumberSign cs c (by simp [hc.2])
  rw [withoutClosing, hblank, hsign, hblank]

/-- The title of a section is closed by nothing. -/
lemma Section.titleOf_title (s : Section) : titleOf s.title = s.title := by
  obtain ⟨c, cs, htitle, _⟩ := s.title_eq_cons
  rw [htitle, titleOf]
  rcases List.eq_nil_or_concat' cs with rfl | ⟨cs, x, rfl⟩
  · rfl
  · have hlast : s.title.getLast? = some x := by
      rw [htitle, ← List.cons_append, List.getLast?_concat]
    rw [withoutClosing_concat (s.isClosing_of_getLast? hlast)]

lemma Section.firstElement_eq (s : Section) (path : String) {content below : List Char}
    (hcontent : withoutCode content = s.heading ++ below) (hbelow : AtLineEnd below) :
    firstElement path content = some (s!"h{s.level}", String.ofList s.title, 1) := by
  obtain ⟨c, cs, htitle, hc⟩ := s.title_eq_cons
  rw [isClosing, Bool.or_eq_false_iff] at hc
  have hparts : withoutCode content = List.replicate s.level '#' ++ ([' '] ++ c :: (cs ++ below)) := by
    rw [hcontent, heading, htitle]
    simp
  have hline : ∀ d ∈ cs, inLine d = true := by
    intro d hd
    rw [inLine, bne_iff_ne]
    rintro rfl
    exact s.lineFeed_not_mem_title (htitle ▸ List.mem_cons_of_mem c hd)
  have hfirst := Outline.firstElement_eq path hparts (by simp [isNumberSign])
    (by simpa using ⟨s.one_le_level, s.level_le_six⟩) (by simp [isBlank]) (by simp) hc.1 hline hbelow
  rwa [← htitle, s.titleOf_title, s.cleanText_title, List.length_replicate] at hfirst

end CodeAtlas.Outline
