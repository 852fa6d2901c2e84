import CodeAtlas.Index.Summary
import CodeAtlas.Proofs.Discovery
import CodeAtlas.Proofs.Sections

/-!
# Descriptions that are written on one line

A line with quotes opens a description, and only a later line with quotes closes it. So a description
that opens and closes on one line stays open: its closing quotes are taken for text, and the lines below
follow up to the next quotes. None of that shows only if the description fills the room by itself.
-/

namespace CodeAtlas.Index

open CodeAtlas.Text

/-! ### Below open quotes -/

/-- What stands before the quotes of a line. -/
def beforeQuotes (line : List Char) : List Char :=
  trim (((cut? (quotesOf line) line).map (·.1)).getD line)

/-- What is read of the lines below open quotes: those without quotes, and then what stands before the
quotes of the first line that has some. -/
def openParts (ls : List (List Char)) : List (List Char) :=
  ((ls.takeWhile fun l => !hasQuotes l) ++ ((ls.find? hasQuotes).map beforeQuotes).toList).filter
    fun l => !l.isEmpty

lemma part_eq_filter (cs : List Char) : part cs = [cs].filter fun l => !l.isEmpty := by
  cases cs <;> rfl

theorem descriptionBody_eq_openParts (ls : List (List Char)) : descriptionBody ls = openParts ls := by
  induction ls with
  | nil => rfl
  | cons l ls ih =>
    rw [descriptionBody, part_eq_filter, part_eq_filter]
    cases hquotes : hasQuotes l with
    | true => simp only [if_true, openParts, List.takeWhile_cons, hquotes, List.find?_cons]; rfl
    | false =>
      simp only [Bool.false_eq_true, if_false, ih, openParts, List.takeWhile_cons, hquotes,
        List.find?_cons, Bool.not_false, ← List.filter_append]
      rfl

/-! ### The line that opens a description -/

lemma hasQuotes_trim {line : List Char} (h : hasQuotes line = false) : hasQuotes (trim line) = false := by
  have htrim : trim line <:+: line :=
    (List.rdropWhile_prefix isBlank _).isInfix.trans (List.dropWhile_suffix isBlank).isInfix
  rw [hasQuotes, Bool.or_eq_false_iff, ← Bool.not_eq_true, ← Bool.not_eq_true, contains_eq_true_iff,
    contains_eq_true_iff] at h ⊢
  exact ⟨fun hq => h.1 (hq.trans htrim), fun hq => h.2 (hq.trans htrim)⟩

/-- Lines without quotes do not matter. -/
lemma descriptionParts_append {header : List (List Char)} (h : ∀ l ∈ header, hasQuotes l = false)
    (ls : List (List Char)) : descriptionParts (header ++ ls) = descriptionParts ls := by
  induction header with
  | nil => rfl
  | cons l header ih =>
    obtain ⟨hl, hheader⟩ := List.forall_mem_cons.mp h
    rw [List.cons_append, descriptionParts, hl, ih hheader]
    rfl

/-- Quotes at the end of a text keep the blanks before them. -/
lemma trim_append_doubleQuotes (text : List Char) :
    trim (text ++ doubleQuotes) = text.dropWhile isBlank ++ doubleQuotes := by
  have hfront : (text ++ doubleQuotes).dropWhile isBlank = text.dropWhile isBlank ++ doubleQuotes := by
    rw [List.dropWhile_append]
    split
    · rename_i hempty
      rw [List.isEmpty_iff.mp hempty]
      rfl
    · rfl
  rw [Outline.trim_eq, hfront, List.rdropWhile, List.reverse_append]
  simp [doubleQuotes, isBlank]

lemma descriptionParts_oneLine (text : List Char) (ls : List (List Char)) :
    descriptionParts ((doubleQuotes ++ text ++ doubleQuotes) :: ls) =
      (text.dropWhile isBlank ++ doubleQuotes) :: openParts ls := by
  have hopen : contains doubleQuotes (doubleQuotes ++ text ++ doubleQuotes) = true := by
    rw [contains_eq_true_iff, List.append_assoc]
    exact (List.prefix_append _ _).isInfix
  have hcut : cut? doubleQuotes (doubleQuotes ++ text ++ doubleQuotes) =
      some ([], text ++ doubleQuotes) := by
    simp [doubleQuotes, cut?]
  have hpart : part (text.dropWhile isBlank ++ doubleQuotes) =
      [text.dropWhile isBlank ++ doubleQuotes] := by
    simp [part, doubleQuotes]
  rw [descriptionParts, hasQuotes, quotesOf, hopen]
  simp only [Bool.true_or, if_true, hcut, Option.map_some, Option.getD_some, trim_append_doubleQuotes,
    hpart, descriptionBody_eq_openParts]
  rfl

/-! ### What is left of it -/

lemma join_cons (sep p : List Char) (ps : List (List Char)) :
    join sep (p :: ps) = p ++ ps.flatMap (sep ++ ·) := by
  unfold join
  induction ps generalizing p with
  | nil => simp
  | cons q ps ih => simp [List.intercalate_cons_cons, ih]

/-- The beginning of a text that goes on is that of the text if the text is long enough. -/
lemma take_append_eq_take_iff {a b : List Char} (hb : b ≠ []) (n : Nat) :
    (a ++ b).take n = a.take n ↔ n ≤ a.length := by
  constructor
  · intro h
    have hpos := List.length_pos_iff.mpr hb
    have hlength := congrArg List.length h
    simp only [List.length_take, List.length_append] at hlength
    omega
  · exact List.take_append_of_le_length

section OneLine

variable {content line text : List Char} {header rest : List (List Char)}

/-- The description of a content with such a line. -/
lemma description_oneLine (hlines : lines content = header ++ line :: rest)
    (hheader : ∀ l ∈ header, hasQuotes l = false)
    (hline : trim line = doubleQuotes ++ text ++ doubleQuotes) :
    description content = (text.dropWhile isBlank ++ doubleQuotes ++
      (openParts (rest.map trim)).flatMap ([' '] ++ ·)).take 150 := by
  have hplain : ∀ l ∈ header.map trim, hasQuotes l = false := by
    intro l hl
    obtain ⟨l', hl', rfl⟩ := List.mem_map.mp hl
    exact hasQuotes_trim (hheader l' hl')
  rw [description, hlines, List.map_append, List.map_cons, hline, descriptionParts_append hplain,
    descriptionParts_oneLine, join_cons]

/-- A description that is written on one line, with nothing but blanks around its quotes, below lines
without quotes. It is read with its closing quotes, and with the lines below up to the next quotes, cut to
150 characters. So what is read is the description itself exactly if that has 150 characters, and nothing
of the lines below shows exactly if nothing is read of them or there is no room. -/
theorem one_line_description_iff (hlines : lines content = header ++ line :: rest)
    (hheader : ∀ l ∈ header, hasQuotes l = false)
    (hline : trim line = doubleQuotes ++ text ++ doubleQuotes) :
    description content = (text.dropWhile isBlank ++ doubleQuotes ++
      (openParts (rest.map trim)).flatMap ([' '] ++ ·)).take 150 ∧
    (description content = (trim text).take 150 ↔ 150 ≤ (trim text).length) ∧
    (description content = (text.dropWhile isBlank ++ doubleQuotes).take 150 ↔
      openParts (rest.map trim) = [] ∨ 147 ≤ (text.dropWhile isBlank).length) := by
  have hdescription := description_oneLine hlines hheader hline
  obtain ⟨blanks, hblanks⟩ : trim text <+: text.dropWhile isBlank :=
    List.rdropWhile_prefix isBlank _
  refine ⟨hdescription, ?_, ?_⟩
  · -- Behind the trimmed text come at least the closing quotes.
    rw [hdescription, ← hblanks, List.append_assoc, List.append_assoc]
    exact take_append_eq_take_iff (by simp [doubleQuotes]) 150
  · rw [hdescription]
    by_cases hnone : openParts (rest.map trim) = []
    · simp [hnone]
    · have hmore : (openParts (rest.map trim)).flatMap ([' '] ++ ·) ≠ [] := by
        obtain ⟨l, hl⟩ := List.exists_mem_of_ne_nil _ hnone
        rw [Ne, List.flatMap_eq_nil_iff]
        exact fun h => by simpa using h l hl
      rw [take_append_eq_take_iff hmore, List.length_append, or_iff_right hnone]
      simp [doubleQuotes]

end OneLine

/-- A method with a description on one line, and one in other quotes below. -/
def quotedTwice : List Char :=
  "def f():\n    \"\"\" Adds. \"\"\"\n    x = 1\n\n    y = '''two'''\n    z = 3".toList

theorem quotedTwice_description :
    description quotedTwice = "Adds. \"\"\" x = 1 y =".toList ∧
    description quotedTwice ≠ (trim " Adds. ".toList).take 150 := by
  have hlines : lines quotedTwice = ["def f():".toList] ++ "    \"\"\" Adds. \"\"\"".toList ::
      ["    x = 1".toList, [], "    y = '''two'''".toList, "    z = 3".toList] := by
    decide +kernel
  have hline : trim "    \"\"\" Adds. \"\"\"".toList =
      doubleQuotes ++ " Adds. ".toList ++ doubleQuotes := by
    decide +kernel
  obtain ⟨hdescription, hclaimed, _⟩ := one_line_description_iff hlines (by decide +kernel) hline
  refine ⟨?_, fun h => absurd (hclaimed.mp h) (by decide +kernel)⟩
  rw [hdescription]
  decide +kernel

/-- The line behind the description is taken for a part of it, and so are the closing quotes. -/
theorem description_runs_on :
    let content := "def f():\n    \"\"\"Doc.\"\"\"\n    return 1".toList
    (lines content).map trim =
      ["def f():".toList, doubleQuotes ++ "Doc.".toList ++ doubleQuotes, "return 1".toList] ∧
    hasQuotes "def f():".toList = false ∧
    description content = "Doc.\"\"\" return 1".toList ∧
    description content ≠ (trim "Doc.".toList).take 150 := by
  decide +kernel

end CodeAtlas.Index
