import CodeAtlas.Proofs.Lookup
import CodeAtlas.Proofs.Writes

/-!
# What a file depends on, with and without other projects

The modules that a file imports are filtered before repeats are taken out, and told apart once more
behind that. The order of these steps does not matter, since taking out repeats commutes with filtering.
So asking for the modules of other projects too only adds them, each at its place.
-/

namespace CodeAtlas

lemma distinct_cons {α : Type} [BEq α] (x : α) (xs : List α) :
    distinct (x :: xs) = x :: distinct (xs.filter fun y => !y == x) :=
  List.eraseDups_cons

/-- Repeats of what a filter keeps are the repeats that it keeps. -/
lemma distinct_filter (p : String → Bool) (xs : List String) :
    distinct (xs.filter p) = (distinct xs).filter p := by
  match xs with
  | [] => rfl
  | x :: xs =>
    have ih := distinct_filter p (xs.filter fun y => !y == x)
    by_cases hx : p x = true
    · rw [List.filter_cons_of_pos hx, distinct_cons, distinct_cons, List.filter_cons_of_pos hx, ← ih,
        List.filter_filter, List.filter_filter]
      simp only [Bool.and_comm]
    · -- What the filter keeps is never `x`.
      have hkept : ∀ y ∈ xs, p y = (p y && !y == x) := by
        intro y _
        cases hy : p y with
        | false => rfl
        | true =>
          have hne : y ≠ x := fun h => hx (h ▸ hy)
          simp [hne]
      rw [List.filter_cons_of_neg hx, distinct_cons, List.filter_cons_of_neg hx, ← ih,
        List.filter_filter, ← List.filter_congr hkept]
termination_by xs.length
decreasing_by
  have hle := List.length_filter_le (fun y => !y == x) xs
  simp only [List.length_cons]
  omega

/-- The rows that can be read: none of a closed catalog, or of one without the table. -/
def Catalog.readableRows (c : Catalog) : List Row :=
  c.rows.toOption.getD []

namespace Index

open CodeAtlas.Text

/-- The module that is read off the row of an import. -/
def moduleOfRow (r : Row) : String :=
  String.ofList (importedModule r.name.toList r.content.toList)

variable {rows : List Row} {file : String}

/-- The modules of a file are those of its imports, as far as they have a name. -/
lemma mem_importedModules {m : String} : m ∈ importedModules rows file ↔
    m ≠ "" ∧ ∃ r ∈ rows, r.filePath = file ∧ r.kind = .importing ∧ moduleOfRow r = m := by
  have himports : ∀ name content, (name, content) ∈ importsOf rows file ↔
      ∃ r ∈ rows, r.filePath = file ∧ r.kind = .importing ∧ (r.name, r.content) = (name, content) := by
    intro name content
    simp [importsOf, sortOn, distinct, List.mem_eraseDups, and_assoc]
  rw [importedModules, List.mem_filter, List.mem_map, and_comm]
  refine and_congr (by simp) ⟨?_, ?_⟩
  · rintro ⟨⟨name, content⟩, hmem, hm⟩
    obtain ⟨r, hr, hpath, hkind, hpair⟩ := (himports name content).mp hmem
    obtain ⟨rfl, rfl⟩ := Prod.mk.inj hpair
    exact ⟨r, hr, hpath, hkind, hm⟩
  · rintro ⟨r, hr, hpath, hkind, hm⟩
    exact ⟨(r.name, r.content), (himports _ _).mpr ⟨r, hr, hpath, hkind, rfl⟩, hm⟩

/-- The dependents of a file are the other files with an import that mentions its module or its path. -/
lemma mem_dependentsOf {target stored : String} : file ∈ dependentsOf rows target stored ↔
    moduleOfPath stored.toList ≠ [] ∧ file ≠ stored ∧ ∃ r ∈ rows, r.kind = .importing ∧
      (mentions (moduleOfPath stored.toList) r = true ∨ mentions target.toList r = true) ∧
      r.filePath = file := by
  unfold dependentsOf
  by_cases hmodule : moduleOfPath stored.toList = []
  · simp [hmodule]
  · have hempty : ¬ (moduleOfPath stored.toList).isEmpty = true := by simpa using hmodule
    simp only [if_neg hempty, sortOn, List.mem_mergeSort, distinct, List.mem_eraseDups, List.mem_map,
      List.mem_filter, Bool.and_eq_true, Bool.or_eq_true, beq_iff_eq, bne_iff_ne]
    constructor
    · rintro ⟨r, ⟨hr, ⟨hkind, hmentions⟩, hother⟩, rfl⟩
      exact ⟨hmodule, hother, r, hr, hkind, hmentions, rfl⟩
    · rintro ⟨_, hother, r, hr, hkind, hmentions, rfl⟩
      exact ⟨r, ⟨hr, ⟨hkind, hmentions⟩, hother⟩, rfl⟩

/-- A catalog that cannot be read is as good as an empty one. -/
lemma analyzeDependencies_fst (c : Catalog) (target : String) (depth : Int) (external : Bool) :
    (analyzeDependencies c target depth external).1 =
      dependenciesIn c.readableRows target depth external := by
  unfold analyzeDependencies Catalog.readableRows
  cases c.rows with
  | ok rows => rfl
  | error f =>
    have hmodules : importedModules [] (String.ofList (normalizePath target.toList)) = [] := by
      simp [importedModules, importsOf, sortOn, distinct]
    have hdependents : dependentsOf [] target (String.ofList (normalizePath target.toList)) = [] := by
      simp [dependentsOf, sortOn, distinct]
    simp [dependenciesIn, hmodules, hdependents, distinct, Except.toOption]

/-- With all modules wanted, they are told apart; otherwise those of other projects are gone before. -/
lemma dependenciesIn_eq (rows : List Row) (target : String) (depth : Int) (external : Bool) :
    let modules := distinct (importedModules rows (lookupPath target))
    dependenciesIn rows target depth external =
      { target := target
        dependencies := if external then modules else modules.filter isInternalModule
        dependents := dependentsOf rows target (lookupPath target)
        depth := depth
        external := if external then modules.filter fun m => !isInternalModule m else [] } := by
  unfold dependenciesIn lookupPath
  cases external with
  | true => simp only [Bool.true_or, List.filter_true, if_true]
  | false =>
    have hnone : ∀ m, ((!isInternalModule m) && isInternalModule m) = false := fun m => by
      cases isInternalModule m <;> rfl
    simp only [Bool.false_or, distinct_filter, List.filter_filter, Bool.and_self, hnone,
      List.filter_false, Bool.false_eq_true, if_false]

/-- Asking for the modules of other projects too only adds them. Whatever can be read of the catalog,
no module is listed twice. The modules of the project are the same in both answers and stand in the same
order, and the others are listed apart. The dependents are the same, and the file itself is none of them.
What is listed are the modules of the imports of the file, and the files that mention it. -/
theorem external_only_adds (c : Catalog) (target : String) (depth : Int) :
    let whole := (analyzeDependencies c target depth true).1
    let inner := (analyzeDependencies c target depth false).1
    (whole.dependencies.Nodup ∧ inner.dependencies.Nodup) ∧
    inner.dependencies = whole.dependencies.filter isInternalModule ∧
    whole.external = whole.dependencies.filter (fun m => !isInternalModule m) ∧
    inner.external = [] ∧
    whole.dependents = inner.dependents ∧
    (lookupPath target ∉ whole.dependents ∧ lookupPath target ∉ inner.dependents) ∧
    (∀ m, m ∈ whole.dependencies ↔ m ≠ "" ∧ ∃ r ∈ c.readableRows,
      r.filePath = lookupPath target ∧ r.kind = .importing ∧ moduleOfRow r = m) ∧
    ∀ file, file ∈ whole.dependents ↔
      moduleOfPath (lookupPath target).toList ≠ [] ∧ file ≠ lookupPath target ∧
      ∃ r ∈ c.readableRows, r.kind = .importing ∧
        (mentions (moduleOfPath (lookupPath target).toList) r = true ∨
          mentions target.toList r = true) ∧ r.filePath = file := by
  have hself : lookupPath target ∉ dependentsOf c.readableRows target (lookupPath target) :=
    fun h => (mem_dependentsOf.mp h).2.1 rfl
  have hmodules : (distinct (importedModules c.readableRows (lookupPath target))).Nodup :=
    nodup_distinct _
  simp only [analyzeDependencies_fst, dependenciesIn_eq, if_true, Bool.false_eq_true, if_false,
    true_and]
  refine ⟨⟨hmodules, hmodules.filter _⟩, ⟨hself, hself⟩, fun m => ?_, fun file => ?_⟩
  · rw [distinct, List.mem_eraseDups, mem_importedModules]
  · exact mem_dependentsOf

end Index

end CodeAtlas
