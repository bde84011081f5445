import RowFormula.Field.Json
import RowFormula.Proofs.Json.RoundTrip
import RowFormula.Proofs.Text.Trimming

/-! Written schemas are read back. A type is written under its canonical name, which names it again,
and a type without rules of its own keeps the very text that is read back. So whatever a schema
declares comes back as it was. -/
namespace RowFormula

open Json (Faithful)

namespace FieldType

/-- Known types are named by their canonical names. -/
theorem ofText_name {type : FieldType} (h : type ∈ known) : ofText type.name = type := by
  revert type
  decide +kernel

theorem mem_known_of_ofNormalized? {name : String} {type : FieldType}
    (h : ofNormalized? name = some type) : type ∈ known := by
  rcases Option.or_eq_some_iff.mp h with hFind | ⟨-, hAlias⟩
  · exact List.mem_of_find?_eq_some hFind
  · have hAliases : ∀ further ∈ aliases, further.2 ∈ known := by decide
    exact hAliases (name, type) (Entries.mem_of_lookup hAlias)

/-- The name of a type that has been read names the same type. A type that is not known is read
again from trimmed text, so it is not known again and nothing more is trimmed. -/
theorem ofText_name_ofText (s : String) : ofText (ofText s).name = ofText s := by
  cases hKnown : ofNormalized? (normalize (Text.trim s)) with
  | some type =>
      have hType : ofText s = type := by rw [ofText, hKnown, Option.getD_some]
      rw [hType, ofText_name (mem_known_of_ofNormalized? hKnown)]
  | none =>
      have hType : ofText s = other (Text.trim s) := by rw [ofText, hKnown, Option.getD_none]
      rw [hType, name, ofText, Text.trim_trim, hKnown, Option.getD_none]

end FieldType

namespace Field

/-- The name of the type names the type. An unknown type called like a known one, or with blanks
around its name, would be written and come back as another. -/
def TypeNamed (field : Field) : Prop := FieldType.ofText field.type.name = field.type

/-! What is read from a schema. -/

/-- A type that is read from text has a canonical name. -/
theorem typeNamed_of_ofText (name s : String) (formula : Option String) :
    TypeNamed ⟨name, .ofText s, formula⟩ := by
  simp only [TypeNamed, FieldType.ofText_name_ofText]

theorem typeNamed_of_ofValues? {names types formulas : List Json} {field : Field}
    (h : ofValues? names types formulas = some field) : field.TypeNamed := by
  unfold ofValues? at h
  split at h
  · obtain rfl := Option.some.inj h
    exact typeNamed_of_ofText _ _ _
  · obtain ⟨formula, -, rfl⟩ := Option.map_eq_some_iff.mp h
    exact typeNamed_of_ofText _ _ _
  · cases h

theorem typeNamed_of_ofJson? {j : Json} {field : Field} (h : ofJson? j = some field) :
    field.TypeNamed := by
  unfold ofJson? at h
  split at h
  · exact typeNamed_of_ofValues? h
  · exact typeNamed_of_ofValues? h
  · cases h

theorem typeNamed_of_listOfJson? {j : Json} {fields : List Field}
    (h : listOfJson? j = some fields) : ∀ field ∈ fields, field.TypeNamed := by
  unfold listOfJson? at h
  split at h
  · rename_i items
    induction items generalizing fields with
    | nil =>
        cases h
        exact List.forall_mem_nil _
    | cons item items ih =>
        rw [List.mapM_cons] at h
        obtain ⟨field, hField, hMore⟩ := Option.bind_eq_some_iff.mp h
        obtain ⟨more, hRest, hCons⟩ := Option.bind_eq_some_iff.mp hMore
        cases hCons
        exact List.forall_mem_cons.mpr ⟨typeNamed_of_ofJson? hField, ih hRest⟩
  · cases h

/-- The types of a schema that is read have canonical names. -/
theorem typeNamed_of_ofSchema? {j : Json} {fields : List Field} (h : ofSchema? j = some fields) :
    ∀ field ∈ fields, field.TypeNamed := by
  unfold ofSchema? at h
  split at h
  · split at h
    · exact typeNamed_of_listOfJson? h
    · cases h
  · exact typeNamed_of_listOfJson? h
  · cases h

/-! What is written. -/

/-- A field without a formula is written without the member, and is read without it. -/
theorem ofJson?_toJson {field : Field} (h : field.TypeNamed) :
    ofJson? field.toJson = some field := by
  obtain ⟨name, type, formula⟩ := field
  have hType : FieldType.ofText type.name = type := h
  cases formula <;> simp [toJson, ofJson?, Json.membersNamed, ofValues?, formulaOfJson?, hType]

/-- Fields with canonical types are read back from what is written of them. -/
theorem listOfJson?_listToJson {fields : List Field} (h : ∀ field ∈ fields, field.TypeNamed) :
    listOfJson? (listToJson fields) = some fields :=
  Json.mapM_map_of_forall fun field hField => ofJson?_toJson (h field hField)

theorem faithful_toJson (field : Field) (room : Nat) : Faithful (room + 1) field.toJson := by
  refine .object fun member hMember => ?_
  obtain ⟨name, type, formula⟩ := field
  cases formula with
  | none =>
      simp only [List.mem_cons, List.not_mem_nil, or_false] at hMember
      rcases hMember with rfl | rfl <;> exact .string _
  | some formula =>
      simp only [List.mem_append, List.mem_cons, List.not_mem_nil, or_false] at hMember
      rcases hMember with (rfl | rfl) | rfl <;> exact .string _

/-- What is written of fields is read back. -/
theorem faithful_listToJson (fields : List Field) (room : Nat) :
    Faithful (room + 2) (listToJson fields) := by
  refine .array fun item hItem => ?_
  obtain ⟨field, -, rfl⟩ := List.mem_map.mp hItem
  exact field.faithful_toJson room

end Field

/-- The fields that a schema declares are read back from their written list, and from a schema that
holds this list, each with its name, its type and its formula, or without one. Whatever names a
type, the name of this type names it too. -/
theorem written_schemas_read_back :
    (∀ (text : String) (fields : List Field), Field.readSchema? text = some fields →
      (Json.read? (Field.listToJson fields).write).bind Field.listOfJson? = some fields ∧
        Field.readSchema? (Json.object [("fields", Field.listToJson fields)]).write =
          some fields) ∧
      ∀ s : String, FieldType.ofText (FieldType.ofText s).name = FieldType.ofText s := by
  refine ⟨fun text fields h => ?_, FieldType.ofText_name_ofText⟩
  obtain ⟨j, -, hSchema⟩ := Option.bind_eq_some_iff.mp h
  have hList := Field.listOfJson?_listToJson (Field.typeNamed_of_ofSchema? hSchema)
  have hFaithful : ∀ room, Faithful (room + 2) (Field.listToJson fields) :=
    Field.faithful_listToJson fields
  constructor
  · rw [(hFaithful _).read?_write, Option.bind_some, hList]
  · have hDocument : Faithful Json.maxDepth (.object [("fields", Field.listToJson fields)]) :=
      .object (List.forall_mem_singleton.mpr (hFaithful _))
    rw [Field.readSchema?, hDocument.read?_write, Option.bind_some]
    exact hList

/-- A record with an alias and a null formula, and lists of values with an unknown type, which keeps
its dash, and with an empty formula. Members that are not known are skipped. -/
theorem written_schemas_read_back_records :
    let text := "\x7b\"rows\": [1, \x7b\"name\": null\x7d], \"fields\": [" ++
      "\x7b\"type\": \" Multiline Text\", \"name\": \"No\\u0074e \\ud83d\\ude00\\n\\\"\", " ++
      "\"formula\": null\x7d, [\"Kind\", \" -Foo Bar\\t\", \"\"], [\"Due\", \"Date-Time\"]]\x7d"
    let fields : List Field :=
      [⟨"Note 😀\n\"", .longText, none⟩, ⟨"Kind", .other "-Foo Bar", some ""⟩,
        ⟨"Due", .datetime, none⟩]
    Field.readSchema? text = some fields ∧
      (Json.read? (Field.listToJson fields).write).bind Field.listOfJson? = some fields ∧
      Field.readSchema? (Json.object [("fields", Field.listToJson fields)]).write =
        some fields := by
  intro text fields
  have h : Field.readSchema? text = some fields := by decide +kernel
  exact ⟨h, written_schemas_read_back.1 text fields h⟩

end RowFormula
