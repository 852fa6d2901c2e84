import CodeAtlas.Catalog.Query
import CodeAtlas.Proofs.Wildcards

/-!
# Shell patterns and patterns of the database

A name is asked for by a shell pattern, in which a star stands for any characters and a question mark
for one; a pattern without either asks for the names that contain it. The database is given a pattern
of its own instead. Whatever fits the shell pattern is like that pattern.

The converse holds for the patterns that mean the same to both. A percent sign, an underscore and a null
character have a meaning for the database only: with any of them in a pattern, some name is like it that
does not fit.
-/

namespace CodeAtlas.Text

open CodeAtlas.Catalog

/-! ### What a shell pattern asks for -/

/-- A text is of the form that a shell pattern describes. The case of ASCII letters does not matter. -/
inductive Globs : List Char → List Char → Prop
  | nil : Globs [] []
  | star {pattern text : List Char} (front : List Char) :
      Globs pattern text → Globs ('*' :: pattern) (front ++ text)
  | any {pattern text : List Char} (c : Char) :
      Globs pattern text → Globs ('?' :: pattern) (c :: text)
  | same {pattern text : List Char} {c d : Char} : c ≠ '*' → c ≠ '?' → asciiLower d = asciiLower c →
      Globs pattern text → Globs (c :: pattern) (d :: text)

/-- A text contains another one. The case of ASCII letters does not matter. -/
def Includes (text part : List Char) : Prop :=
  part.map asciiLower <:+: text.map asciiLower

/-- A pattern has a wildcard of the shell. -/
def IsWild (pattern : List Char) : Prop :=
  '*' ∈ pattern ∨ '?' ∈ pattern

instance (pattern : List Char) : Decidable (IsWild pattern) :=
  inferInstanceAs (Decidable (_ ∨ _))

/-- A name is one that a shell pattern asks for. -/
def Fits (pattern name : List Char) : Prop :=
  if IsWild pattern then Globs pattern name else Includes name pattern

variable {pattern text name : List Char} {c d : Char}

lemma fits_of_isWild (h : IsWild pattern) : Fits pattern name ↔ Globs pattern name := by
  rw [Fits, if_pos h]

lemma fits_of_not_isWild (h : ¬ IsWild pattern) : Fits pattern name ↔ Includes name pattern := by
  rw [Fits, if_neg h]

/-! ### The pattern for the database -/

/-- The character that the database is given for one of a shell pattern. -/
def likeChar (c : Char) : Char :=
  if c = '*' then '%' else if c = '?' then '_' else c

lemma likeChar_of_ne (hstar : c ≠ '*') (hmark : c ≠ '?') : likeChar c = c := by
  rw [likeChar, if_neg hstar, if_neg hmark]

lemma map_likeChar_of_not_isWild (h : ¬ IsWild pattern) : pattern.map likeChar = pattern := by
  rw [IsWild, not_or] at h
  conv_rhs => rw [← List.map_id pattern]
  refine List.map_congr_left fun c hc => likeChar_of_ne ?_ ?_
  · rintro rfl
    exact h.1 hc
  · rintro rfl
    exact h.2 hc

/-- A pattern with wildcards is translated. -/
lemma namePattern_of_isWild (h : IsWild pattern) : namePattern pattern = pattern.map likeChar := by
  have hwild : (pattern.contains '*' || pattern.contains '?') = true := by
    simpa [IsWild] using h
  rw [namePattern, if_pos hwild]
  rfl

/-- A pattern without wildcards may stand anywhere. -/
lemma namePattern_of_not_isWild (h : ¬ IsWild pattern) :
    namePattern pattern = containing pattern := by
  have hwild : ¬ (pattern.contains '*' || pattern.contains '?') = true := by
    simpa [IsWild] using h
  rw [namePattern, if_neg hwild]
  conv_rhs => rw [← map_likeChar_of_not_isWild h]
  rfl

/-! ### What the database finds -/

/-- A character that is no wildcard of the database stands for nothing but itself. -/
lemma Matches.of_like_cons (hpercent : c ≠ '%') (hunder : c ≠ '_')
    (h : Matches (likeWildcards (c :: pattern)) text) :
    ∃ d rest, text = d :: rest ∧ asciiLower d = asciiLower c ∧
      Matches (likeWildcards pattern) rest := by
  rw [likeWildcards, List.map_cons, if_neg hpercent, if_neg hunder] at h
  obtain _ | ⟨hsame, hrest⟩ := h
  exact ⟨_, _, rfl, by simpa using hsame, hrest⟩

/-- The texts that contain something like a given one. -/
lemma matches_containing_iff {part : List Char} :
    Matches (likeWildcards (containing part)) text ↔
      ∃ front middle rest, text = front ++ (middle ++ rest) ∧ Matches (likeWildcards part) middle := by
  have hsplit : likeWildcards (containing part) = .star :: (likeWildcards part ++ [.star]) := by
    simp [containing, likeWildcards]
  rw [hsplit]
  constructor
  · intro h
    obtain _ | _ | ⟨front, h⟩ := h
    obtain ⟨middle, rest, rfl, hmiddle, _⟩ := matches_append_iff.mp h
    exact ⟨front, middle, rest, rfl, hmiddle⟩
  · rintro ⟨front, middle, rest, rfl, hmiddle⟩
    exact .star front (matches_append_iff.mpr ⟨middle, rest, rfl, hmiddle, matches_star rest⟩)

/-! ### Texts that the database sees as a whole -/

/-- A text without null characters. -/
def Unbroken (text : List Char) : Prop :=
  ∀ c ∈ text, c.toNat ≠ 0

lemma unbroken_of_all (h : text.all (·.toNat != 0) = true) : Unbroken text := by
  intro c hc
  simpa using List.all_eq_true.mp h c hc

lemma Unbroken.containing (h : Unbroken text) : Unbroken (containing text) := by
  intro c hc
  rcases List.mem_cons.mp hc with rfl | hc
  · decide
  rcases List.mem_append.mp hc with hc | hc
  · exact h c hc
  · rw [List.mem_singleton.mp hc]
    decide

lemma toNat_likeChar_ne_zero_iff : (likeChar c).toNat ≠ 0 ↔ c.toNat ≠ 0 := by
  by_cases hstar : c = '*'
  · subst hstar
    decide
  by_cases hmark : c = '?'
  · subst hmark
    decide
  rw [likeChar_of_ne hstar hmark]

lemma Unbroken.namePattern (h : Unbroken pattern) : Unbroken (namePattern pattern) := by
  by_cases hwild : IsWild pattern
  · rw [namePattern_of_isWild hwild]
    intro c hc
    obtain ⟨d, hd, rfl⟩ := List.mem_map.mp hc
    exact toNat_likeChar_ne_zero_iff.mpr (h d hd)
  · rw [namePattern_of_not_isWild hwild]
    exact h.containing

lemma isLike_iff_matches (hpattern : Unbroken pattern) (htext : Unbroken text) :
    isLike pattern text = true ↔ Matches (likeWildcards pattern) text := by
  rw [isLike, beforeNull_eq_self hpattern, beforeNull_eq_self htext, matchesWildcards_iff]

/-! ### What fits is found -/

lemma Globs.like (h : Globs pattern text) :
    Matches (likeWildcards (pattern.map likeChar)) text := by
  induction h with
  | nil => exact .nil
  | star front _ ih => exact ih.like_percent front
  | any c _ ih => exact ih.like_underscore c
  | same hstar hmark hsame _ ih =>
    rw [List.map_cons, likeChar_of_ne hstar hmark]
    exact ih.like_same hsame

lemma Includes.like {part : List Char} (h : Includes text part) :
    Matches (likeWildcards (containing part)) text := by
  obtain ⟨a, b, hab⟩ := h
  obtain ⟨front, rest, rfl, hfront, rfl⟩ := List.map_eq_append_iff.mp hab.symm
  obtain ⟨start, middle, rfl, _, hmiddle⟩ := List.map_eq_append_iff.mp hfront
  exact matches_containing_iff.mpr
    ⟨start, middle, rest, by simp, matches_likeWildcards_of_map_eq hmiddle⟩

/-- The pattern for the database misses no name that fits. -/
theorem Fits.like (h : Fits pattern name) :
    Matches (likeWildcards (namePattern pattern)) name := by
  by_cases hwild : IsWild pattern
  · rw [namePattern_of_isWild hwild]
    exact ((fits_of_isWild hwild).mp h).like
  · rw [namePattern_of_not_isWild hwild]
    exact ((fits_of_not_isWild hwild).mp h).like

/-! ### What is found fits -/

section

variable (hpercent : '%' ∉ pattern) (hunder : '_' ∉ pattern)

include hpercent hunder

lemma globs_of_like (h : Matches (likeWildcards (pattern.map likeChar)) text) :
    Globs pattern text := by
  -- The translation keeps the length, so each character of the pattern accounts for one wildcard.
  induction pattern generalizing text with
  | nil =>
    cases h
    exact .nil
  | cons c pattern ih =>
    rw [List.mem_cons, not_or] at hpercent hunder
    by_cases hstar : c = '*'
    · subst hstar
      obtain _ | _ | ⟨front, hrest⟩ := h
      exact .star front (ih hpercent.2 hunder.2 hrest)
    by_cases hmark : c = '?'
    · subst hmark
      obtain _ | ⟨_, hrest⟩ := h
      exact .any _ (ih hpercent.2 hunder.2 hrest)
    rw [List.map_cons, likeChar_of_ne hstar hmark] at h
    obtain ⟨d, rest, rfl, hsame, hrest⟩ := h.of_like_cons (Ne.symm hpercent.1) (Ne.symm hunder.1)
    exact .same hstar hmark hsame (ih hpercent.2 hunder.2 hrest)

lemma map_eq_of_like (h : Matches (likeWildcards pattern) text) :
    text.map asciiLower = pattern.map asciiLower := by
  induction pattern generalizing text with
  | nil =>
    cases h
    rfl
  | cons c pattern ih =>
    rw [List.mem_cons, not_or] at hpercent hunder
    obtain ⟨d, rest, rfl, hsame, hrest⟩ := h.of_like_cons (Ne.symm hpercent.1) (Ne.symm hunder.1)
    rw [List.map_cons, List.map_cons, hsame, ih hpercent.2 hunder.2 hrest]

/-- Where nothing has a meaning for the database only, its pattern finds no other names. -/
theorem fits_of_like (h : Matches (likeWildcards (namePattern pattern)) name) :
    Fits pattern name := by
  by_cases hwild : IsWild pattern
  · rw [namePattern_of_isWild hwild] at h
    exact (fits_of_isWild hwild).mpr (globs_of_like hpercent hunder h)
  · rw [namePattern_of_not_isWild hwild] at h
    obtain ⟨front, middle, rest, rfl, hmiddle⟩ := matches_containing_iff.mp h
    refine (fits_of_not_isWild hwild).mpr ⟨front.map asciiLower, rest.map asciiLower, ?_⟩
    rw [← map_eq_of_like hpercent hunder hmiddle]
    simp

end

/-! ### Characters with a meaning for the database only -/

/-- A character that has a meaning for the database, and stands for itself in a shell pattern. -/
def IsForeign (c : Char) : Prop :=
  c = '%' ∨ c = '_' ∨ c.toNat = 0

instance (c : Char) : Decidable (IsForeign c) :=
  inferInstanceAs (Decidable (_ ∨ _ ∨ _))

lemma toNat_asciiLower (hlow : 'A' ≤ c) (hhigh : c ≤ 'Z') : (asciiLower c).toNat = c.toNat + 32 := by
  have hle : c.toNat ≤ 90 := hhigh
  have hvalid : (c.toNat + 32).isValidChar := Or.inl (by omega)
  rw [asciiLower, if_pos (by simp [hlow, hhigh]), Char.ofNat, dif_pos hvalid]
  rfl

/-- A foreign character is no letter: only itself is the same in lower case. -/
lemma IsForeign.eq_of_lower (hc : IsForeign c) (h : asciiLower d = asciiLower c) : d = c := by
  have hnumber : c.toNat = 37 ∨ c.toNat = 95 ∨ c.toNat = 0 := by
    rcases hc with rfl | rfl | hc
    · exact Or.inl rfl
    · exact Or.inr (Or.inl rfl)
    · exact Or.inr (Or.inr hc)
  have hlower : asciiLower c = c := by
    refine if_neg fun hletter => ?_
    rw [Bool.and_eq_true, decide_eq_true_eq, decide_eq_true_eq] at hletter
    have hlow : 65 ≤ c.toNat := hletter.1
    have hhigh : c.toNat ≤ 90 := hletter.2
    omega
  rw [hlower] at h
  by_cases hletter : 'A' ≤ d ∧ d ≤ 'Z'
  · have hlow : 65 ≤ d.toNat := hletter.1
    have hhigh : d.toNat ≤ 90 := hletter.2
    have hsum := toNat_asciiLower hletter.1 hletter.2
    rw [h] at hsum
    omega
  · rwa [asciiLower, if_neg (by simpa using hletter)] at h

lemma Globs.exists_mem (h : Globs pattern name) (hc : c ∈ pattern) (hstar : c ≠ '*')
    (hmark : c ≠ '?') : ∃ d ∈ name, asciiLower d = asciiLower c := by
  induction h with
  | nil => cases hc
  | star front _ ih =>
    obtain ⟨d, hd, hsame⟩ := ih (List.mem_of_ne_of_mem hstar hc)
    exact ⟨d, List.mem_append_right front hd, hsame⟩
  | any e _ ih =>
    obtain ⟨d, hd, hsame⟩ := ih (List.mem_of_ne_of_mem hmark hc)
    exact ⟨d, List.mem_cons_of_mem e hd, hsame⟩
  | @same _ _ _ e _ _ hsame _ ih =>
    rcases List.mem_cons.mp hc with rfl | hc
    · exact ⟨e, List.mem_cons_self, hsame⟩
    · obtain ⟨d, hd, hsame⟩ := ih hc
      exact ⟨d, List.mem_cons_of_mem e hd, hsame⟩

/-- A name that fits has every foreign character of the pattern. -/
lemma Fits.mem_of_isForeign (h : Fits pattern name) (hc : c ∈ pattern) (hforeign : IsForeign c) :
    c ∈ name := by
  have hsame : ∃ d ∈ name, asciiLower d = asciiLower c := by
    by_cases hwild : IsWild pattern
    · refine ((fits_of_isWild hwild).mp h).exists_mem hc ?_ ?_
      · rintro rfl
        exact absurd hforeign (by decide)
      · rintro rfl
        exact absurd hforeign (by decide)
    · have hmem : asciiLower c ∈ name.map asciiLower :=
        ((fits_of_not_isWild hwild).mp h).subset (List.mem_map_of_mem hc)
      exact List.mem_map.mp hmem
  obtain ⟨d, hd, hlower⟩ := hsame
  rwa [← hforeign.eq_of_lower hlower]

/-- A character without a meaning that may stand where the database expects one of a pattern. -/
def standIn (c : Char) : Char :=
  if c = '*' ∨ c = '?' ∨ c = '%' ∨ c = '_' then 'x' else c

lemma not_isForeign_standIn (hc : c.toNat ≠ 0) : ¬ IsForeign (standIn c) := by
  rw [standIn]
  split
  · decide
  · rename_i h
    rw [IsForeign]
    tauto

lemma matches_standIn (pattern : List Char) :
    Matches (likeWildcards (pattern.map likeChar)) (pattern.map standIn) := by
  induction pattern with
  | nil => exact .nil
  | cons c pattern ih =>
    rw [List.map_cons, List.map_cons]
    by_cases hstar : c = '*'
    · subst hstar
      exact ih.like_percent ['x']
    by_cases hmark : c = '?'
    · subst hmark
      exact ih.like_underscore 'x'
    rw [likeChar_of_ne hstar hmark]
    by_cases hpercent : c = '%'
    · subst hpercent
      exact ih.like_percent ['x']
    by_cases hunder : c = '_'
    · subst hunder
      exact ih.like_underscore 'x'
    rw [standIn, if_neg (by tauto)]
    exact ih.like_same rfl

/-- A name that is like a pattern, for all that the database sees of it, without foreign characters. -/
def disguise (pattern : List Char) : List Char :=
  (beforeNull pattern).map standIn

lemma toNat_ne_zero_of_mem_beforeNull (h : c ∈ beforeNull text) : c.toNat ≠ 0 := by
  simpa using List.mem_takeWhile_imp h

lemma not_isForeign_of_mem_disguise (h : c ∈ disguise pattern) : ¬ IsForeign c := by
  obtain ⟨d, hd, rfl⟩ := List.mem_map.mp h
  exact not_isForeign_standIn (toNat_ne_zero_of_mem_beforeNull hd)

lemma beforeNull_map_likeChar (pattern : List Char) :
    beforeNull (pattern.map likeChar) = (beforeNull pattern).map likeChar := by
  have hnull : ((·.toNat != 0) ∘ likeChar) = fun c : Char => c.toNat != 0 := by
    funext c
    rw [Bool.eq_iff_iff, Function.comp_apply, bne_iff_ne, bne_iff_ne, toNat_likeChar_ne_zero_iff]
  rw [beforeNull, List.takeWhile_map, hnull]
  rfl

/-- What the database sees of a pattern that may stand anywhere ends at a null character too. -/
lemma beforeNull_containing (pattern : List Char) :
    ∃ tail, beforeNull (containing pattern) = '%' :: beforeNull pattern ++ tail ∧
      Matches (likeWildcards tail) [] := by
  have hcut : beforeNull (containing pattern) = '%' :: beforeNull (pattern ++ ['%']) := rfl
  rw [hcut, beforeNull, List.takeWhile_append]
  split
  · rename_i hall
    rw [beforeNull, (List.takeWhile_prefix _).eq_of_length hall]
    exact ⟨['%'], rfl, matches_star []⟩
  · exact ⟨[], (List.append_nil _).symm, .nil⟩

lemma isLike_disguise (pattern : List Char) :
    isLike (namePattern pattern) (disguise pattern) = true := by
  have hseen : beforeNull (disguise pattern) = disguise pattern :=
    beforeNull_eq_self fun c hc hnull => not_isForeign_of_mem_disguise hc (Or.inr (Or.inr hnull))
  have hmatch := matches_standIn (beforeNull pattern)
  rw [isLike, hseen, matchesWildcards_iff]
  by_cases hwild : IsWild pattern
  · rw [namePattern_of_isWild hwild, beforeNull_map_likeChar]
    exact hmatch
  · -- The percent sign in front is there in any case, the one behind only without a null character.
    have hplain : ¬ IsWild (beforeNull pattern) := fun h =>
      hwild (h.imp (fun hc => List.takeWhile_subset _ hc) fun hc => List.takeWhile_subset _ hc)
    rw [map_likeChar_of_not_isWild hplain] at hmatch
    obtain ⟨tail, htail, hempty⟩ := beforeNull_containing pattern
    rw [namePattern_of_not_isWild hwild, htail, likeWildcards, List.map_append]
    exact matches_append_iff.mpr
      ⟨_, [], (List.append_nil _).symm, hmatch.like_percent [], hempty⟩

/-- With a foreign character in a pattern, a name is like it that does not fit. -/
lemma not_fits_disguise (hc : c ∈ pattern) (hforeign : IsForeign c) :
    ¬ Fits pattern (disguise pattern) :=
  fun h => not_isForeign_of_mem_disguise (h.mem_of_isForeign hc hforeign) hforeign

end CodeAtlas.Text
