import CodeAtlas.Proofs.Stores
import CodeAtlas.Proofs.Wildcards

/-!
# What clearing a project takes away

The rows of a project are told by their paths: those go that begin with something like its name. That
is more than the rows of the project, since nothing says where the name ends, and since a name may hold
wildcards. The entries of the vector store go all together, whosever they are.
-/

namespace CodeAtlas.Index.Engine

open CodeAtlas.Action CodeAtlas.Text

/-- A path is that of a project with the given name, or of something below it. -/
def Within (name path : List Char) : Prop :=
  path = name ∨ name ++ ['/'] <+: path

instance (name path : List Char) : Decidable (Within name path) :=
  inferInstanceAs (Decidable (_ ∨ _))

/-- All that went belongs to a project: the rows by their paths, and the entries by the identifiers of
such rows. -/
structure Spares (name : List Char) (rows kept : List Row) (c left : Collection) : Prop where
  rows_within : ∀ r ∈ rows, r ∉ kept → Within name r.filePath.toList
  entries_of_rows : ∀ d ∈ c, d ∉ left → ∃ r ∈ rows, r ∉ kept ∧ r.id = d.id

variable {e : Engine} {path : Path} {rows : List Row} {c : Collection}

lemma Within.startsLike {name text : List Char} (hname : ∀ ch ∈ name, ch.toNat ≠ 0)
    (h : Within name text) : StartsLike name text := by
  refine startsLike_of_prefix hname ?_
  rcases h with rfl | h
  · exact List.prefix_refl _
  · exact (List.prefix_append _ _).trans h

/-- The rows that stay are those whose paths do not begin like the name. -/
lemma mem_keptRows_iff (hwd : isWorkingDirectory e.disk path = false)
    (hname : ∀ ch ∈ path.name, ch.toNat ≠ 0) (r : Row) :
    r ∈ keptRows e path rows ↔ r ∈ rows ∧ ¬ StartsLike path.name r.filePath.toList := by
  rw [← isLike_iff_startsLike hname]
  simp [keptRows, projectRows, hwd, belongsTo]

/-- If nothing is left of a collection, it matters whose its entries were. -/
lemma spares_nil_iff {name : List Char} {kept : List Row} {L : List Char → Prop}
    (hkept : ∀ r, r ∈ kept ↔ r ∈ rows ∧ ¬ L r.filePath.toList) :
    Spares name rows kept c [] ↔
      (∀ r ∈ rows, L r.filePath.toList → Within name r.filePath.toList) ∧
      ∀ d ∈ c, ∃ r ∈ rows, L r.filePath.toList ∧ r.id = d.id := by
  have hgone : ∀ r ∈ rows, r ∉ kept ↔ L r.filePath.toList := by
    intro r hr
    simp [hkept, hr]
  constructor
  · intro h
    refine ⟨fun r hr hlike => h.rows_within r hr ((hgone r hr).mpr hlike), fun d hd => ?_⟩
    obtain ⟨r, hr, hnot, hid⟩ := h.entries_of_rows d hd List.not_mem_nil
    exact ⟨r, hr, (hgone r hr).mp hnot, hid⟩
  · rintro ⟨hwithin, hentries⟩
    refine ⟨fun r hr hnot => hwithin r hr ((hgone r hr).mp hnot), fun d hd _ => ?_⟩
    obtain ⟨r, hr, hlike, hid⟩ := hentries d hd
    exact ⟨r, hr, (hgone r hr).mpr hlike, hid⟩

/-- The rows go first: they are gone even if the clearing is interrupted after that. -/
lemma rows_clearProject (path : Path) (hrows : e.catalog.rows = .ok rows) (log : Log) :
    (clearProject path (e, log)).2.1.catalog.rows = .ok (keptRows e path rows) := by
  let gone : Engine → Prop := fun e' => e'.catalog = e.withoutProject path e.catalog
  have hspec : Spec (· = e) (clearProject path) (fun _ => gone) fun _ => gone := by
    unfold clearProject
    refine Spec.rescue (m := fun _ => gone) ?_ (fun _ _ _ h => h) fun f _ => ?_
    · refine Spec.get_bind fun e' he => ?_
      subst he
      rw [hrows]
      refine Spec.bind (m := fun _ => (· = e')) (Spec.pure fun _ h => h) fun _ => ?_
      refine Spec.bind (m := fun _ => gone) (Spec.modify ?_) fun _ => ?_
      · rintro _ rfl
        rfl
      exact Spec.bind ((clearVectors_frame fun _ _ h => h).weaken (fun _ h => h) (fun _ _ h => h)
        fun _ _ h => h.2) fun _ => Spec.pure fun _ h => h
    · exact Spec.bind Spec.record fun _ => Spec.pure fun _ h => h
  have hgone := hspec.state (s := (e, log)) rfl
  rw [hgone]
  exact rows_withoutProject e path hrows

/-- A database that does as it is told leaves no entry. -/
lemma vectors_clearProject (path : Path) (hrows : e.catalog.rows = .ok rows)
    (hserves : VectorStore.Serves VectorStore.clearing c e.vectors) (log : Log) :
    ∃ n e' log', clearProject path (e, log) = (.ok n, (e', log')) ∧ e'.vectors.Holds [] := by
  have hspec : Spec (e.Holding (· = e.catalog) (VectorStore.Serves VectorStore.clearing c))
      (clearProject path) _ _ :=
    clearProject_spec path (fun _ h => h ▸ hrows) fun C =>
      clearVectors_spec (Or.inl (List.Subset.refl _))
  have hsafe := hspec.weaken (fun _ h => h) (fun _ _ h => h)
    fun _ _ h => h (List.Subset.refl _)
  obtain ⟨n, ⟨e', log'⟩, hrun, _, hholding⟩ :=
    hsafe.exists_result (s := (e, log)) ⟨⟨rfl, rfl, rfl⟩, rfl, hserves⟩
  exact ⟨n, e', log', hrun, hholding.vectors.holds⟩

/-- Clearing a project that is not the working directory. If the catalog cannot be read, nothing is
done. Otherwise the rows go whose paths begin like the name of the project, those of the project among
them. All entries go too, if the database does as it is told. So the others are spared exactly if no
other path begins like the name, and every entry is that of a row that goes. -/
theorem clearing_spares_iff (hwd : isWorkingDirectory e.disk path = false)
    (hname : ∀ ch ∈ path.name, ch.toNat ≠ 0) (log : Log) :
    (∀ f, e.catalog.rows = .error f →
      ∃ log', clearProject path (e, log) = (.ok 0, (e, log'))) ∧
    ∀ rows, e.catalog.rows = .ok rows → ∃ kept,
      (clearProject path (e, log)).2.1.catalog.rows = .ok kept ∧
      (∀ r, r ∈ kept ↔ r ∈ rows ∧ ¬ StartsLike path.name r.filePath.toList) ∧
      (∀ r ∈ kept, ¬ Within path.name r.filePath.toList) ∧
      ∀ c, VectorStore.Serves VectorStore.clearing c e.vectors →
        ∃ n e' log', clearProject path (e, log) = (.ok n, (e', log')) ∧ e'.vectors.Holds [] ∧
          (Spares path.name rows kept c [] ↔
            (∀ r ∈ rows, StartsLike path.name r.filePath.toList →
              Within path.name r.filePath.toList) ∧
            ∀ d ∈ c, ∃ r ∈ rows, StartsLike path.name r.filePath.toList ∧ r.id = d.id) := by
  refine ⟨fun f hf => clearProject_of_error path hf log, fun rows hrows => ?_⟩
  have hkept : ∀ r, r ∈ keptRows e path rows ↔ _ := mem_keptRows_iff hwd hname
  refine ⟨_, rows_clearProject path hrows log, hkept, fun r hr hwithin => ?_, fun c hserves => ?_⟩
  · exact ((hkept r).mp hr).2 (hwithin.startsLike hname)
  · obtain ⟨n, e', log', hrun, hholds⟩ := vectors_clearProject path hrows hserves log
    exact ⟨n, e', log', hrun, hholds, spares_nil_iff hkept⟩

/-- An index of the project `p`, of the project `pq` and of a file next to them, with one row and one
entry for each. -/
def neighbours : Engine where
  surroundings := {}
  disk := ⟨.folder (.cons ['w'] (.folder .nil) .nil), ⟨['/'], [['w']]⟩⟩
  catalog := { tables := some {
    elements := some [⟨"a", .module, "a", "", "p/a.txt", 1, 1, "", none, none, none⟩,
      ⟨"b", .module, "b", "", "pq/b.txt", 1, 1, "", none, none, none⟩,
      ⟨"c", .module, "c", "", "c.txt", 1, 1, "", none, none, none⟩] } }
  vectors := {
    kept := some [⟨"a", [], "", .module, "a", "p/a.txt", "", 1, 1, none, none, none⟩,
      ⟨"b", [], "", .module, "b", "pq/b.txt", "", 1, 1, none, none, none⟩,
      ⟨"c", [], "", .module, "c", "c.txt", "", 1, 1, none, none, none⟩]
    handle := .shared }

theorem neighbours_not_spared : ∃ rows kept c n e' log',
    neighbours.catalog.rows = .ok rows ∧ neighbours.vectors.Holds c ∧
    clearProject (.ofString "p") (neighbours, []) = (.ok n, (e', log')) ∧
    e'.catalog.rows = .ok kept ∧ e'.vectors.Holds [] ∧ ¬ Spares ['p'] rows kept c [] := by
  have hname : (Path.ofString "p").name = ['p'] := by decide +kernel
  have hnull : ∀ ch ∈ (Path.ofString "p").name, ch.toNat ≠ 0 := by
    rw [hname]
    exact List.forall_mem_singleton.mpr (by decide)
  obtain ⟨kept, hkept, _, _, hcleared⟩ :=
    (clearing_spares_iff (e := neighbours) (by decide +kernel) hnull []).2 _ rfl
  obtain ⟨n, e', log', hrun, hholds, hiff⟩ := hcleared _ ⟨rfl, rfl, fun _ _ => rfl⟩
  rw [hrun] at hkept
  rw [hname] at hiff
  refine ⟨_, kept, _, n, e', log', rfl, rfl, hrun, hkept, hholds, fun hspares => ?_⟩
  -- The path of the second row begins like the name, but is that of another project.
  obtain ⟨hwithin, _⟩ := hiff.mp hspares
  have hlike : StartsLike ['p'] "pq/b.txt".toList :=
    startsLike_of_prefix (List.forall_mem_singleton.mpr (by decide)) (by decide)
  exact absurd (hwithin _ (.tail _ (.head _)) hlike) (by decide)

/-- With the project `p` the row of the project `pq` goes, and with them the entry of a file of which the
row stays. -/
theorem neighbours_lost :
    (clearProject (.ofString "p") (neighbours, [])).1 = .ok 2 ∧
    (clearProject (.ofString "p") (neighbours, [])).2.1.catalog.rows.toOption.map
      (·.map (·.filePath)) = some ["c.txt"] ∧
    (clearProject (.ofString "p") (neighbours, [])).2.1.vectors.kept.map (·.map (·.id)) = some [] := by
  decide +kernel

end CodeAtlas.Index.Engine
