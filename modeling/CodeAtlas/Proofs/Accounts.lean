import CodeAtlas.Proofs.Dependencies

/-!
# How much the account of a file tells

The account of a file is cut to the size that is asked for. What is cut off is still counted: of every
kind of row the account lists some names, and tells how many more there are.

The related files come from two questions, one of which brings the path into its stored form once more.
A path in its stored form stays as it is, so neither question is answered with the file itself.
-/

namespace CodeAtlas

@[simp] lemma leading_natCast {α : Type} (n : Nat) (xs : List α) : leading n xs = xs.take n := by
  simp [leading]

namespace Index

open CodeAtlas.Text

@[simp] lemma limited_natCast {α : Type} (n : Nat) (xs : List α) : limited n xs = xs.take n := by
  simp [limited]

@[simp] lemma lookupPath_lookupPath (file : String) :
    lookupPath (lookupPath file) = lookupPath file := by
  rw [lookupPath_eq_self_iff, lookupPath, String.toList_ofList]
  exact slash_not_mem_normalizePath _

variable {rows : List Row} {size : Nat} {stored : String}

/-! ### What a file holds -/

/-- What an account tells about the rows of one kind: some of their names, and how many more there
are. -/
structure Listing where
  kind : ElementKind
  names : List String
  more : Nat

namespace Listing

/-- The text of a listing. -/
def text (l : Listing) : String :=
  l.kind.label ++ "s: " ++ ", ".intercalate l.names ++
    if l.more = 0 then "" else " and " ++ toString l.more ++ " more"

/-- The names are the first of those that the rows of the kind have, and all of these rows count. -/
structure Covers (l : Listing) (size : Nat) (rows : List Row) : Prop where
  names_eq : l.names = ((rows.filter (·.kind = l.kind)).map (·.name)).take size
  total : l.names.length + l.more = rows.countP (·.kind = l.kind)

end Listing

/-- The listing of a kind. -/
def listingOf (size : Nat) (rows : List Row) (kind : ElementKind) : Listing where
  kind := kind
  names := ((rows.filter (·.kind = kind)).map (·.name)).take size
  more := rows.countP (·.kind = kind) - size

lemma listingOf_covers (size : Nat) (rows : List Row) (kind : ElementKind) :
    (listingOf size rows kind).Covers size rows where
  names_eq := rfl
  total := by
    simp only [listingOf, List.countP_eq_length_filter, List.length_take, List.length_map]
    omega

lemma integer_natCast (n : Nat) : integer n = toString n := by
  have hsign : ¬ (n : Int) < 0 := by omega
  rw [integer, Decimal.intDigits, if_neg hsign, Decimal.natDigits, Int.natAbs_natCast]
  rfl

lemma namesText_eq (size : Nat) (rows : List Row) (kind : ElementKind) :
    namesText size kind ((rows.filter (·.kind == kind)).map (·.name)) =
      (listingOf size rows kind).text := by
  generalize hfound : rows.filter (·.kind = kind) = found
  have hcount : rows.countP (·.kind = kind) = found.length := by
    rw [List.countP_eq_length_filter, hfound]
  simp only [namesText, listingOf, Listing.text, hcount, hfound, List.length_map, Int.ofNat_le,
    leading_natCast]
  by_cases hfits : found.length ≤ size
  · have hall : (found.map (·.name)).take size = found.map (·.name) := by
      apply List.take_of_length_le
      simpa using hfits
    simp [hfits, hall, Nat.sub_eq_zero_of_le hfits]
  · have hmore : ((found.length : Int) - size) = (found.length - size : Nat) := by omega
    have hrest : found.length - size ≠ 0 := by omega
    simp only [hfits, hrest, if_false, hmore, integer_natCast, String.append_assoc]

/-- An account has a listing for every kind that the rows have. -/
lemma exists_listings (size : Nat) (rows : List Row) :
    ∃ listings : List Listing, contentsText size rows = "; ".intercalate (listings.map (·.text)) ∧
      (listings.map (·.kind)).Nodup ∧
      (∀ kind, kind ∈ listings.map (·.kind) ↔ ∃ r ∈ rows, r.kind = kind) ∧
      ∀ l ∈ listings, l.Covers size rows := by
  let kinds := distinct (rows.map (·.kind))
  have hkinds : (kinds.map (listingOf size rows)).map (·.kind) = kinds := by
    simp [listingOf, Function.comp_def]
  refine ⟨kinds.map (listingOf size rows), ?_, ?_, ?_, ?_⟩
  · simp only [contentsText, namesText_eq, List.map_map, kinds, Function.comp_def]
  · rw [hkinds]
    exact nodup_distinct _
  · intro kind
    rw [hkinds, mem_distinct, List.mem_map]
  · intro l hl
    obtain ⟨kind, _, rfl⟩ := List.mem_map.mp hl
    exact listingOf_covers size rows kind

/-! ### Related files -/

/-- A file is related to another one if an import in it mentions the stored path of the other or, where
dependencies are asked for, its module. -/
def IsRelated (rows : List Row) (stored : String) (withDependencies : Bool) (file : String) : Prop :=
  file ≠ stored ∧ ∃ r ∈ rows, r.filePath = file ∧ r.kind = .importing ∧
    (mentions stored.toList r = true ∨ withDependencies = true ∧
      moduleOfPath stored.toList ≠ [] ∧ mentions (moduleOfPath stored.toList) r = true)

lemma mem_mentioningFiles {file : String} : file ∈ mentioningFiles rows stored ↔
    file ≠ stored ∧ ∃ r ∈ rows, r.filePath = file ∧ r.kind = .importing ∧
      mentions stored.toList r = true := by
  simp only [mentioningFiles, mem_distinct, List.mem_map, List.mem_filter, Bool.and_eq_true,
    beq_iff_eq, bne_iff_ne]
  constructor
  · rintro ⟨r, ⟨hr, ⟨hkind, hmentions⟩, hother⟩, rfl⟩
    exact ⟨hother, r, hr, rfl, hkind, hmentions⟩
  · rintro ⟨hother, r, hr, rfl, hkind, hmentions⟩
    exact ⟨r, ⟨hr, ⟨hkind, hmentions⟩, hother⟩, rfl⟩

/-- The files that the two questions are answered with. -/
lemma isRelated_iff {file : String} {withDependencies : Bool} :
    IsRelated rows stored withDependencies file ↔
      file ∈ (if withDependencies then dependentsOf rows stored stored else []) ++
        mentioningFiles rows stored := by
  rw [List.mem_append, mem_mentioningFiles]
  cases withDependencies with
  | false => simp [IsRelated]
  | true =>
    simp only [IsRelated, true_and, if_true, mem_dependentsOf]
    constructor
    · rintro ⟨hother, r, hr, hpath, hkind, hmentions | ⟨hmodule, hmentions⟩⟩
      · exact Or.inr ⟨hother, r, hr, hpath, hkind, hmentions⟩
      · exact Or.inl ⟨hmodule, hother, r, hr, hkind, Or.inl hmentions, hpath⟩
    · rintro (⟨hmodule, hother, r, hr, hkind, hmentions, hpath⟩ |
        ⟨hother, r, hr, hpath, hkind, hmentions⟩)
      · refine ⟨hother, r, hr, hpath, hkind, ?_⟩
        rcases hmentions with hmentions | hmentions
        · exact Or.inr ⟨hmodule, hmentions⟩
        · exact Or.inl hmentions
      · exact ⟨hother, r, hr, hpath, hkind, Or.inl hmentions⟩

/-- Of two lists the second may be cut before both are joined: nothing gets lost that the whole has room
for. -/
lemma mem_or_length_take_distinct {α : Type} [BEq α] [LawfulBEq α] {xs ys : List α} (hys : ys.Nodup)
    {x : α} (hx : x ∈ xs ++ ys) :
    x ∈ (distinct (xs ++ ys.take size)).take size ∨
      ((distinct (xs ++ ys.take size)).take size).length = size := by
  by_cases hroom : size ≤ (distinct (xs ++ ys.take size)).length
  · right
    simpa using hroom
  · left
    have hsub : ys.take size ⊆ distinct (xs ++ ys.take size) := by
      intro y hy
      exact mem_distinct.mpr (List.mem_append_right xs hy)
    have hle := ((hys.sublist (List.take_sublist size ys)).subperm hsub).length_le
    have hwhole : ys.take size = ys := by
      apply List.take_of_length_le
      rw [List.length_take] at hle
      omega
    rw [hwhole] at hroom ⊢
    rw [List.take_of_length_le (by omega), mem_distinct]
    exact hx

/-! ### The account -/

/-- No list of an account is longer than it may be, none of files or modules has repeats, and the file
is not related to itself. -/
structure FileContext.Fits (a : FileContext) (size : Nat) (stored : String) : Prop where
  related_length : a.related.length ≤ size
  related_nodup : a.related.Nodup
  not_mem_related : stored ∉ a.related
  dependencies_length : a.dependencies.length ≤ size
  dependencies_nodup : a.dependencies.Nodup
  elements_length : a.elements.length ≤ 2 * size

/-- What an account is made of, given a path in its stored form. -/
lemma describeFile_eq (hstored : lookupPath stored = stored) (rows found : List Row) (file : String)
    (size : Nat) (withDependencies : Bool) :
    describeFile rows found file stored size withDependencies =
      { file := file
        text := contentsText size found
        related := (distinct ((if withDependencies then dependentsOf rows stored stored else []) ++
          (mentioningFiles rows stored).take size)).take size
        dependencies := (if withDependencies then
          (dependenciesIn rows stored 1 false).dependencies else []).take size
        elements := (found.take (2 * size)).map elementLine } := by
  have hdouble : (size : Int) * 2 = (2 * size : Nat) := by omega
  simp only [describeFile, dependenciesIn_eq, hstored, hdouble, leading_natCast, limited_natCast]

lemma isRelated_of_mem_related {found : List Row} {file f : String} {withDependencies : Bool}
    (hstored : lookupPath stored = stored)
    (h : f ∈ (describeFile rows found file stored size withDependencies).related) :
    IsRelated rows stored withDependencies f := by
  rw [describeFile_eq hstored] at h
  rw [isRelated_iff]
  rcases List.mem_append.mp (mem_distinct.mp (List.mem_of_mem_take h)) with hmem | hmem
  · exact List.mem_append_left _ hmem
  · exact List.mem_append_right _ (List.mem_of_mem_take hmem)

/-- A related file is left out only if there is no room for it. -/
lemma mem_related_or_full {f : String} {withDependencies : Bool}
    (hstored : lookupPath stored = stored) (h : IsRelated rows stored withDependencies f)
    (found : List Row) (file : String) :
    let related := (describeFile rows found file stored size withDependencies).related
    f ∈ related ∨ related.length = size := by
  rw [describeFile_eq hstored]
  exact mem_or_length_take_distinct (nodup_distinct _) (isRelated_iff.mp h)

lemma describeFile_fits (hstored : lookupPath stored = stored) (rows found : List Row)
    (file : String) (size : Nat) (withDependencies : Bool) :
    (describeFile rows found file stored size withDependencies).Fits size stored := by
  have hself : stored ∉ (describeFile rows found file stored size withDependencies).related :=
    fun hmem => (isRelated_of_mem_related hstored hmem).1 rfl
  rw [describeFile_eq hstored] at hself ⊢
  refine ⟨?_, ?_, hself, ?_, ?_, ?_⟩
  · simp
  · exact (nodup_distinct _).sublist (List.take_sublist _ _)
  · simp
  · apply List.Nodup.sublist (List.take_sublist _ _)
    cases withDependencies with
    | false => simp
    | true =>
      simp only [if_true, dependenciesIn_eq, Bool.false_eq_true, if_false]
      exact (nodup_distinct _).filter _
  · simp

/-- A file of which nothing can be read has an account without lists. -/
lemma fileContext_of_nil {c : Catalog} {file : String}
    (h : rowsOfFile c.readableRows (lookupPath file) = []) (size : Int) (withDependencies : Bool) :
    ∃ text, (fileContext c file size withDependencies).1 = { file := file, text := text } := by
  unfold fileContext
  cases hc : c.rows with
  | error f => exact ⟨_, rfl⟩
  | ok rows =>
    have hrows : c.readableRows = rows := by simp [Catalog.readableRows, hc, Except.toOption]
    rw [hrows, lookupPath] at h
    simp only [h, List.isEmpty_nil, if_true]
    exact ⟨_, rfl⟩

lemma fileContext_of_ne_nil {c : Catalog} {file : String}
    (h : rowsOfFile c.readableRows (lookupPath file) ≠ []) (hsize : size < 2 ^ 63)
    (withDependencies : Bool) :
    (fileContext c file size withDependencies).1 =
      describeFile c.readableRows (rowsOfFile c.readableRows (lookupPath file)) file
        (lookupPath file) size withDependencies := by
  have hfits : Row.fits size = true := by
    simp only [Row.fits, Bool.and_eq_true, decide_eq_true_eq]
    omega
  unfold fileContext
  cases hc : c.rows with
  | error f =>
    have hrows : c.readableRows = [] := by simp [Catalog.readableRows, hc, Except.toOption]
    simp [hrows, rowsOfFile, sortOn] at h
  | ok rows =>
    have hrows : c.readableRows = rows := by simp [Catalog.readableRows, hc, Except.toOption]
    rw [hrows, lookupPath] at h
    simp only [List.isEmpty_iff, h, if_false, hfits, if_true, hrows, lookupPath]

/-- The account of a file keeps to its size, and tells about everything. Whatever can be read of the
catalog, no list is longer than it may be, and the file is not related to itself. The rest is about files
whose path, with a percent sign on both sides, is a pattern that the database takes. Their elements have
the kinds, names and lines of the first rows of the file by their lines. If there are any, every kind of
them has a listing, in which the names and the number of those left out make up all rows of the kind. The
modules are the first that the file depends on, and of the related files one is left out only if there is
no room for it. -/
theorem account_tells_all (c : Catalog) (file : String) (hsize : size < 2 ^ 63)
    (withDependencies : Bool) :
    let account := (fileContext c file size withDependencies).1
    let stored := lookupPath file
    account.Fits size stored ∧
    (stored.utf8ByteSize + 2 ≤ maxPatternBytes →
      ∃ found : List Row, found.Perm (c.readableRows.filter (·.filePath = stored)) ∧
      (found.Pairwise fun r s => r.lineStart ≤ s.lineStart) ∧
      (account.elements.map fun x => (x.kind, x.name, x.lineStart, x.lineEnd)) =
        (found.take (2 * size)).map (fun r => (r.kind, r.name, r.lineStart, r.lineEnd)) ∧
      (found ≠ [] →
        (∃ listings : List Listing,
          account.text = "; ".intercalate (listings.map (·.text)) ∧
          (listings.map (·.kind)).Nodup ∧
          (∀ kind, kind ∈ listings.map (·.kind) ↔ ∃ r ∈ found, r.kind = kind) ∧
          ∀ l ∈ listings, l.Covers size found) ∧
        account.dependencies = (if withDependencies then
          (analyzeDependencies c file 1 false).1.dependencies else []).take size ∧
        (∀ f ∈ account.related, IsRelated c.readableRows stored withDependencies f) ∧
        ∀ f, IsRelated c.readableRows stored withDependencies f →
          f ∈ account.related ∨ account.related.length = size)) := by
  intro account stored
  have hstored : lookupPath stored = stored := lookupPath_lookupPath file
  have hperm : (rowsOfFile c.readableRows stored).Perm
      (c.readableRows.filter (·.filePath = stored)) := sortOn_perm _ _
  have hsorted : (rowsOfFile c.readableRows stored).Pairwise fun r s => r.lineStart ≤ s.lineStart :=
    pairwise_sortOn (fun _ _ _ => Int.le_trans) Int.le_total _ _
  by_cases hfound : rowsOfFile c.readableRows stored = []
  · obtain ⟨text, haccount⟩ := fileContext_of_nil hfound size withDependencies
    have hnothing : account = { file := file, text := text } := haccount
    refine ⟨?_, fun _ => ⟨_, hperm, hsorted, ?_, fun hne => absurd hfound hne⟩⟩
    · rw [hnothing]
      constructor <;> simp
    · simp [hnothing, hfound]
  · have haccount : account = _ := fileContext_of_ne_nil hfound hsize withDependencies
    rw [haccount]
    refine ⟨describeFile_fits hstored _ _ _ _ _,
      fun _ => ⟨_, hperm, hsorted, ?_, fun _ => ⟨?_, ?_, ?_, ?_⟩⟩⟩
    · rw [describeFile_eq hstored, List.map_map]
      rfl
    · rw [describeFile_eq hstored]
      exact exists_listings size _
    · rw [describeFile_eq hstored, analyzeDependencies_fst]
      simp only [dependenciesIn_eq, hstored, stored]
    · intro f hf
      exact isRelated_of_mem_related hstored hf
    · intro f hf
      exact mem_related_or_full hstored hf _ _

/-- The rows of a file with a class and three functions, by their lines. -/
def stallRows : List Row :=
  [⟨"s", .classDef, "Stall", "", "a.py", 1, 2, "", none, none, none⟩,
    ⟨"x", .function, "open", "", "a.py", 4, 4, "", none, none, none⟩,
    ⟨"y", .function, "sell", "", "a.py", 6, 6, "", none, none, none⟩,
    ⟨"z", .function, "close", "", "a.py", 9, 9, "", none, none, none⟩]

/-- These rows the other way round, and a file that imports the first one. -/
def stall : Catalog where
  tables := some {
    elements := some (stallRows.reverse ++
      [⟨"i", .importing, "import a", "import a", "b.py", 1, 1, "", none, none, none⟩]) }

/-- With room for one name the account shows the class and the function with the least line. It lists one
function, and tells of two more. -/
theorem stall_account : 1 < 2 ^ 63 ∧ "a.py".utf8ByteSize + 2 ≤ maxPatternBytes ∧
    (fileContext stall "a.py" (1 : Nat) true).1.Fits 1 "a.py" ∧
    ((fileContext stall "a.py" (1 : Nat) true).1.elements.map
      fun x => (x.kind, x.name, x.lineStart, x.lineEnd)) =
      [(.classDef, "Stall", 1, 2), (.function, "open", 4, 4)] ∧
    ∃ listings : List Listing,
      (fileContext stall "a.py" (1 : Nat) true).1.text = "; ".intercalate (listings.map (·.text)) ∧
      ∃ l ∈ listings, l.kind = .function ∧ l.names.length = 1 ∧ l.more = 2 := by
  have hstored : lookupPath "a.py" = "a.py" := (lookupPath_eq_self_iff _).mpr (by decide +kernel)
  have hbytes : "a.py".utf8ByteSize + 2 ≤ maxPatternBytes := by decide +kernel
  obtain ⟨hfits, htaken⟩ := account_tells_all stall "a.py" (show 1 < 2 ^ 63 by decide) true
  rw [hstored] at hfits htaken
  obtain ⟨found, hperm, hsorted, helements, htells⟩ := htaken hbytes
  -- No two rows start on the same line, so there is one order by lines.
  have hrows : found.Perm stallRows := hperm.trans (by decide +kernel)
  have hlines : ∀ r ∈ stallRows, ∀ s ∈ stallRows, r.lineStart = s.lineStart → r = s := by
    decide +kernel
  have hfound : found = stallRows := hrows.eq_of_pairwise
    (fun r s hr hs hle hge => hlines r (hrows.mem_iff.mp hr) s hs (Int.le_antisymm hle hge))
    hsorted (by decide +kernel)
  subst hfound
  obtain ⟨⟨listings, htext, _, hkinds, hcovers⟩, _⟩ := htells (by decide)
  obtain ⟨l, hl, hkind⟩ := List.mem_map.mp ((hkinds .function).mpr (by decide +kernel))
  obtain ⟨hnames, htotal⟩ := hcovers l hl
  have hlength : l.names.length = 1 := by
    rw [hnames, hkind]
    decide +kernel
  have hcount : stallRows.countP (·.kind = .function) = 3 := by decide +kernel
  rw [hkind, hcount] at htotal
  exact ⟨by decide, hbytes, hfits, helements.trans rfl, listings, htext, l, hl, hkind, hlength, by omega⟩

end Index

end CodeAtlas
