import CodeAtlas.Text.Wildcard
import Mathlib.Data.List.TakeWhile
import Mathlib.Tactic

/-!
# What wildcard patterns describe

`Matches` says how a text is put together from what the items of a pattern stand for. The search for
such a partition finds one wherever there is one.

A pattern of the database that ends in a percent sign describes the texts that begin like the rest of
it.
-/

namespace CodeAtlas.Text

/-- A text is made up of what the items of a pattern stand for. -/
inductive Matches : List Wildcard → List Char → Prop
  | nil : Matches [] []
  | one {p : Char → Bool} {ws : List Wildcard} {c : Char} {cs : List Char} :
      p c = true → Matches ws cs → Matches (.one p :: ws) (c :: cs)
  | star {ws : List Wildcard} {cs : List Char} (front : List Char) :
      Matches ws cs → Matches (.star :: ws) (front ++ cs)

theorem matches_of_matchesWildcards {ws : List Wildcard} {cs : List Char}
    (h : matchesWildcards ws cs = true) : Matches ws cs := by
  fun_induction matchesWildcards ws cs with
  | case1 cs =>
    rw [List.isEmpty_iff.mp h]
    exact .nil
  | case2 => cases h
  | case3 p ws c cs ih =>
    rw [Bool.and_eq_true] at h
    exact .one h.1 (ih h.2)
  | case4 ws ih => exact .star [] (ih h)
  | case5 ws c cs ih ih' =>
    rcases Bool.or_eq_true_iff.mp h with h | h
    · exact .star [] (ih h)
    · -- The star stands for one character more.
      obtain _ | _ | ⟨front, hrest⟩ := ih' h
      exact .star (c :: front) hrest

lemma matchesWildcards_star {ws : List Wildcard} {cs : List Char}
    (h : matchesWildcards ws cs = true) (front : List Char) :
    matchesWildcards (.star :: ws) (front ++ cs) = true := by
  induction front with
  | nil =>
    match cs with
    | [] =>
      rw [List.nil_append, matchesWildcards]
      exact h
    | c :: cs =>
      rw [List.nil_append, matchesWildcards, h]
      rfl
  | cons c front ih =>
    rw [List.cons_append, matchesWildcards, ih, Bool.or_true]

theorem matchesWildcards_iff {ws : List Wildcard} {cs : List Char} :
    matchesWildcards ws cs = true ↔ Matches ws cs := by
  refine ⟨matches_of_matchesWildcards, fun h => ?_⟩
  induction h with
  | nil => rw [matchesWildcards, List.isEmpty_nil]
  | one hp _ ih => rw [matchesWildcards, hp, ih, Bool.true_and]
  | star front _ ih => exact matchesWildcards_star ih front

lemma matches_append_iff {ws vs : List Wildcard} {cs : List Char} :
    Matches (ws ++ vs) cs ↔ ∃ a b, cs = a ++ b ∧ Matches ws a ∧ Matches vs b := by
  constructor
  · intro h
    induction ws generalizing cs with
    | nil => exact ⟨[], cs, rfl, .nil, h⟩
    | cons w ws ih =>
      rw [List.cons_append] at h
      obtain _ | ⟨hp, hrest⟩ | ⟨front, hrest⟩ := h
      · obtain ⟨a, b, rfl, ha, hb⟩ := ih hrest
        exact ⟨_ :: a, b, rfl, .one hp ha, hb⟩
      · obtain ⟨a, b, rfl, ha, hb⟩ := ih hrest
        exact ⟨front ++ a, b, by simp, .star front ha, hb⟩
  · rintro ⟨a, b, rfl, ha, hb⟩
    induction ha with
    | nil => exact hb
    | one hp _ ih => exact .one hp ih
    | star front _ ih =>
      rw [List.append_assoc]
      exact .star front ih

lemma matches_star (cs : List Char) : Matches [.star] cs := by
  simpa using Matches.star cs .nil

/-! ### Patterns of the database -/

variable {name pattern text : List Char} {c d : Char}

/-- A text that the database sees as a whole. -/
lemma beforeNull_eq_self (h : ∀ c ∈ text, c.toNat ≠ 0) : beforeNull text = text := by
  rw [beforeNull, List.takeWhile_eq_self_iff]
  simpa using h

lemma Matches.like_percent (front : List Char) (h : Matches (likeWildcards pattern) text) :
    Matches (likeWildcards ('%' :: pattern)) (front ++ text) :=
  .star front h

lemma Matches.like_underscore (d : Char) (h : Matches (likeWildcards pattern) text) :
    Matches (likeWildcards ('_' :: pattern)) (d :: text) :=
  .one rfl h

/-- Whatever a character means to the database, it may stand for itself. -/
lemma Matches.like_same (hsame : asciiLower d = asciiLower c)
    (h : Matches (likeWildcards pattern) text) :
    Matches (likeWildcards (c :: pattern)) (d :: text) := by
  by_cases hpercent : c = '%'
  · subst hpercent
    exact h.like_percent [d]
  by_cases hunder : c = '_'
  · subst hunder
    exact h.like_underscore d
  rw [likeWildcards, List.map_cons, if_neg hpercent, if_neg hunder]
  exact .one (by simpa using hsame) h

/-- A text is like what differs from it in the case of ASCII letters. -/
lemma matches_likeWildcards_of_map_eq (h : text.map asciiLower = pattern.map asciiLower) :
    Matches (likeWildcards pattern) text := by
  induction pattern generalizing text with
  | nil =>
    rw [List.map_nil, List.map_eq_nil_iff] at h
    subst h
    exact .nil
  | cons c pattern ih =>
    obtain ⟨d, rest, rfl, hsame, hrest⟩ := List.map_eq_cons_iff.mp h
    exact (ih hrest).like_same hsame

/-- A text begins with something that is like a name, for all that the database sees of it. -/
def StartsLike (name text : List Char) : Prop :=
  ∃ front, front <+: beforeNull text ∧ Matches (likeWildcards name) front

theorem isLike_iff_startsLike (hname : ∀ c ∈ name, c.toNat ≠ 0) :
    isLike (name ++ ['%']) text = true ↔ StartsLike name text := by
  have hpattern : beforeNull (name ++ ['%']) = name ++ ['%'] := by
    refine beforeNull_eq_self fun c hc => ?_
    rcases List.mem_append.mp hc with hc | hc
    · exact hname c hc
    · rw [List.mem_singleton.mp hc]
      decide
  rw [isLike, hpattern, matchesWildcards_iff, likeWildcards, List.map_append, matches_append_iff]
  constructor
  · rintro ⟨front, rest, htext, hfront, _⟩
    exact ⟨front, ⟨rest, htext.symm⟩, hfront⟩
  · rintro ⟨front, ⟨rest, htext⟩, hfront⟩
    exact ⟨front, rest, htext.symm, hfront, matches_star rest⟩

/-- What is written in front of a text, it begins with. -/
lemma startsLike_of_prefix (hname : ∀ c ∈ name, c.toNat ≠ 0) (h : name <+: text) :
    StartsLike name text := by
  refine ⟨name, ?_, matches_likeWildcards_of_map_eq rfl⟩
  obtain ⟨rest, rfl⟩ := h
  rw [beforeNull, List.takeWhile_append_of_pos (by simpa using hname)]
  exact List.prefix_append _ _

end CodeAtlas.Text
