import CodeAtlas.Index.Engine

/-!
# Records as values

How the records of the service look to its clients.
-/

namespace CodeAtlas

/-- A place as an object. -/
def Location.toValue (l : Location) : Value :=
  .object [("line_start", .int l.lineStart), ("line_end", .int l.lineEnd),
    ("column_start", .int l.columnStart), ("column_end", .int l.columnEnd)]

/-- Facts as an object. -/
def Metadata.toValue (m : Metadata) : Value :=
  .object [("language", .text m.language), ("complexity", .ofOption .int m.complexity),
    ("lines_of_code", .ofOption .int m.linesOfCode), ("author", .ofOption .text m.author),
    ("last_modified", .ofOption .text m.lastModified)]

/-- An element as an object; the links that were looked for are a list. -/
def Element.toValue (e : Element) : Value :=
  .object [("id", .text e.id), ("type", .text e.kind.label), ("name", .text e.name),
    ("content", .text e.content), ("file_path", .text e.filePath),
    ("location", e.location.toValue), ("metadata", e.metadata.toValue),
    ("embedding", .ofOption (fun xs => .list (xs.map .float)) e.embedding),
    ("dependencies", .texts e.dependencies),
    ("relationships", match e.links with
      | some links => .texts links
      | none => .object [])]

/-- A result of a search as an object. -/
def SearchResult.toValue (r : SearchResult) : Value :=
  .object [("element", r.element.toValue), ("score", .float r.score), ("snippet", .text r.snippet),
    ("context", .object [])]

/-- The counts of a catalog as an object. -/
def Catalog.Stats.toValue : Catalog.Stats → Value
  | .closed => .object [("total_elements", .int 0)]
  | .failed cause => .object [("total_elements", .int 0), ("error", .text cause)]
  | .counts total byKind byLanguage =>
    .object [("total_elements", .int total), ("by_type", .counts byKind),
      ("by_language", .counts byLanguage)]

/-- The count of a vector store as an object. -/
def VectorStore.Stats.toValue (s : VectorStore.Stats) : Value :=
  .object ([("count", .int s.count), ("name", .text s.name)] ++
    s.error.toList.map fun e => ("error", .text e))

namespace Index

/-- An analysis as an object. -/
def DependencyAnalysis.toValue (d : DependencyAnalysis) : Value :=
  .object [("target", .text d.target), ("dependencies", .texts d.dependencies),
    ("dependents", .texts d.dependents), ("depth", .int d.depth),
    ("external_dependencies", .texts d.external)]

/-- An element in the account of a file as an object. -/
def ElementLine.toValue (l : ElementLine) : Value :=
  .object [("type", .text l.kind.label), ("name", .text l.name), ("line_start", .int l.lineStart),
    ("line_end", .int l.lineEnd)]

/-- The account of a file as an object. -/
def FileContext.toValue (c : FileContext) : Value :=
  .object [("file_path", .text c.file), ("context", .text c.text), ("related_files", .texts c.related),
    ("dependencies", .texts c.dependencies),
    ("elements", .list (c.elements.map ElementLine.toValue))]

/-- Metrics as an object. -/
def Metrics.toValue (m : Metrics) : Value :=
  .object [("total_elements", .int m.elements), ("total_files", .int m.files),
    ("element_types", .counts m.kinds), ("modules_count", .int m.modules),
    ("components_count", .int m.components), ("relationships_count", .int m.relationships),
    ("avg_elements_per_file", .float m.elementsPerFile)]

/-- An overview as an object. -/
def Overview.toValue (o : Overview) : Value :=
  .object [("modules", .texts o.modules), ("key_components", .texts o.components),
    ("relationships", .object (o.relationships.map fun r => (r.1, .texts r.2))),
    ("complexity_metrics", (o.metrics.map Metrics.toValue).getD (.object []))]

namespace Engine

/-- When projects are said to have been indexed. -/
def indexedAt : String := "2024-01-01 00:00:00"

/-- The statistics of an indexed project as an object. -/
def ProjectIndex.statistics (p : ProjectIndex) : Value :=
  .object [("total_files", .int p.files), ("total_elements", .int p.elements),
    ("languages", .texts p.languages), ("processing_time", .float 0.0)]

/-- An indexed project as an object. -/
def ProjectIndex.toValue (p : ProjectIndex) : Value :=
  .object [("project_path", .text p.path), ("statistics", p.statistics),
    ("created_at", .text indexedAt), ("updated_at", .text indexedAt), ("version", .text "1.0.0")]

end Engine

end Index

end CodeAtlas
